import SeedHeader.Proofs.Syntax

/-!
# Proofs — Phrases and the end of their line

A phrase may depend on the token behind it, but not on whether its line ends with a newline or with
the input (`LineLocal`).  So what a line says can be told from its own tokens.
-/

namespace SeedHeader

/-- The line ends here: with a newline, or with the input. -/
def EndsLine (ls : List Lexeme) : Prop := ∀ l ∈ ls.head?, l.type = .newline

/-- The same token is first in both lists, or a line ends in front of both. -/
def SameAhead (ls ms : List Lexeme) : Prop := ls.head? = ms.head? ∨ EndsLine ls ∧ EndsLine ms

theorem SameAhead.append {ls ms : List Lexeme} (h : SameAhead ls ms) (w : List Lexeme) :
    SameAhead (w ++ ls) (w ++ ms) := by
  cases w with
  | nil => exact h
  | cons l w => exact .inl rfl

theorem SameAhead.symm {ls ms : List Lexeme} (h : SameAhead ls ms) : SameAhead ms ls :=
  h.imp Eq.symm And.symm

theorem EndsLine.sameAhead {rest : List Lexeme} (h : EndsLine rest) (ls : List Lexeme) :
    SameAhead (ls ++ rest) ls := by
  have hnil : SameAhead rest [] := .inr ⟨h, by simp [EndsLine]⟩
  simpa using hnil.append ls

namespace Phrase

variable {α β : Type}

/-- What the phrase says does not depend on how its line ends. -/
def LineLocal (P : Phrase α) : Prop :=
  ∀ ⦃w rest rest' a⦄, SameAhead rest rest' → P w rest a → P w rest' a

namespace LineLocal

theorem map {P : Phrase α} (h : P.LineLocal) (f : α → β) : (P.map f).LineLocal := by
  rintro w rest rest' b hr ⟨a, ha, rfl⟩
  exact ⟨a, h hr ha, rfl⟩

theorem seq {P : Phrase α} {Q : α → Phrase β} (h : P.LineLocal) (hQ : ∀ a, (Q a).LineLocal) :
    (P.seq Q).LineLocal := by
  rintro w rest rest' b hr ⟨u, v, a, rfl, ha, hb⟩
  exact ⟨u, v, a, rfl, h (hr.append v) ha, hQ a hr hb⟩

theorem before {P : Phrase α} {Q : Phrase β} (h : P.LineLocal) (hQ : Q.LineLocal) :
    (P.before Q).LineLocal :=
  h.seq fun _ => hQ

theorem or {P Q : Phrase α} (h : P.LineLocal) (hQ : Q.LineLocal) : (P.or Q).LineLocal := by
  rintro w rest rest' a hr (ha | ha)
  · exact .inl (h hr ha)
  · exact .inr (hQ hr ha)

theorem say (a : α) : (say a).LineLocal := fun _ _ _ _ _ h => h

theorem token (t : TokenType) : (token t).LineLocal := fun _ _ _ _ _ h => h

theorem meaning (t : TokenType) (decode : Decoder α) : (meaning t decode).LineLocal :=
  fun _ _ _ _ _ h => h

theorem number (decode : Decoder α) : (number decode).LineLocal := meaning .number decode

theorem word (α : Type) [Worded α] : (word α).LineLocal := fun _ _ _ _ _ h => h

theorem name : name.LineLocal := (token .identifier).map _

theorem removable (decode : Decoder α) : (removable decode).LineLocal := fun _ _ _ _ _ h => h

theorem quoted : quoted.LineLocal := fun _ _ _ _ _ h => h

theorem water : water.LineLocal := fun _ _ _ _ _ h => h

theorem bar : bar.LineLocal := (token .separator).map _

theorem gap : gap.LineLocal := (token .whitespace).map _

/-- A free text ends at the end of its line, whatever that is. -/
theorem text : text.LineLocal := by
  rintro w rest rest' s hr ⟨hw, hstop, hs⟩
  refine ⟨hw, ?_, hs⟩
  rcases hr with hr | ⟨-, hr⟩
  · rwa [← hr]
  · intro l hl
    rw [hr l hl]
    rfl

theorem parameter : (parameter : Phrase (Value α)).LineLocal :=
  (token _).before ((word _).before ((token _).before ((token _).seq fun _ => (token _).map _)))

theorem field (t : TokenType) (decode : Decoder α) : (field t decode).LineLocal :=
  ((meaning t decode).map _).or parameter

theorem removableField (decode : Decoder α) : (removableField decode).LineLocal :=
  ((removable decode).map _).or
    (((token _).before ((field _ decode).map _)).or (parameter.map _))

theorem uber : uber.LineLocal :=
  (number _).seq fun _ => (token _).before ((number _).map _)

theorem iconBody (kind : IconKind) : (iconBody kind).LineLocal := by
  cases kind with
  | file => exact quoted.map _
  | shard | spell | opher | lupo | grom | tuley => exact (number _).map _

theorem icon : icon.LineLocal := (word _).seq fun kind => (token _).before (iconBody kind)

theorem setting (type : UberType) : (setting type).LineLocal := by
  cases type <;> exact (field _ _).map _

theorem actionBody (kind : CommandKind) : (actionBody kind).LineLocal := by
  cases kind with
  | autosave | checkpoint => exact say _
  | toggle | equip =>
    exact bar.before ((number _).seq fun _ => bar.before ((field _ _).map _))
  | warp => exact bar.before ((field _ _).seq fun _ => bar.before ((field _ _).map _))
  | startTimer | stopTimer => exact bar.before (uber.map _)
  | setHealth | setEnergy | setSpiritLight => exact bar.before ((field _ _).map _)

theorem itemBody (kind : ItemKind) : (itemBody kind).LineLocal := by
  cases kind with
  | spiritLight | skill | shard | teleporter | bonusItem | bonusUpgrade =>
    exact (removableField _).map _
  | resource | relic => exact (field _ _).map _
  | command => exact ((number _).seq actionBody).map _
  | message => exact text.map _
  | uberState =>
    exact uber.seq fun _ => bar.before ((word _).seq fun type =>
      bar.before ((setting type).map _))
  | water => exact water.map _
  | sysMessage => exact (number _).map _

theorem item : item.LineLocal := (number _).seq fun kind => bar.before (itemBody kind)

theorem default (type : ParameterType) : (default type).LineLocal := by
  cases type with
  | bool => exact (meaning _ _).map _
  | int | float => exact (number _).map _
  | string => exact text.map _

theorem arguments (word : CommandWord) : (arguments word).LineLocal := by
  have hitem : itemThenGap.LineLocal := item.seq fun _ => gap.map _
  cases word with
  | includeHeader | excludeHeader => exact name.map _
  | add | remove => exact item.map _
  | name | display | description => exact hitem.seq fun _ => text.map _
  | price => exact hitem.seq fun _ => (field _ _).map _
  | icon => exact hitem.seq fun _ => icon.map _
  | parameter =>
    exact name.seq fun _ => gap.before ((LineLocal.word _).seq fun type =>
      (token _).before ((default type).map _))
  | setState => exact uber.map _
  | ifState => exact uber.seq fun _ => bar.before ((field _ _).map _)
  | endif => exact say _

theorem command : command.LineLocal := by
  refine (word _).seq fun w => ?_
  split
  · exact say _
  · exact gap.before (arguments w)

end LineLocal

end Phrase

end SeedHeader
