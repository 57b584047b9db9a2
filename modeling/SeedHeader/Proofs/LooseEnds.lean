import SeedHeader.Reading
import SeedHeader.Proofs.Trimming
import SeedHeader.Proofs.Shape
import SeedHeader.Proofs.LineContext

/-!
# Proofs — What may change behind a statement

Behind a statement there may be whitespace and a comment, and which there are makes no difference
to what the statement says.  But it can make a difference to where the statement ends: a free text
goes on over whitespace up to the comment, and trims it off.  So a phrase is taken apart into its
*core*, which ends with the last token that counts, and whitespace behind the core.  The phrase is
`Loose` if the core says the same in front of any other whitespace and comments.

All statements are (`Loose.statement`).  The last part of a statement decides, and of what comes
before it only the first token behind it must stay the same (`Loose.seq`).
-/

namespace SeedHeader

open Text Lexeme

/-- Whitespace and comments of a text. -/
def IsTail (ls : List Lexeme) : Prop := ∀ l ∈ ls, isTrailing l.type ∧ l.Shaped

/-- The lexemes end with one that is neither whitespace nor a comment. -/
def IsCore (ls : List Lexeme) : Prop := ∃ l, ls.getLast? = some l ∧ isTrailing l.type = false

theorem IsCore.append (ls : List Lexeme) {ms : List Lexeme} (h : IsCore ms) :
    IsCore (ls ++ ms) := by
  obtain ⟨l, hl, ht⟩ := h
  exact ⟨l, by rw [List.getLast?_append, hl]; rfl, ht⟩

theorem IsCore.exists_cons {ls : List Lexeme} (h : IsCore ls) : ∃ l ms, ls = l :: ms := by
  cases ls with
  | nil =>
    obtain ⟨l, hl, -⟩ := h
    cases hl
  | cons l ms => exact ⟨l, ms, rfl⟩

theorem isBlank_of_isPadding {c : Char} (h : isPadding c) : isBlank c := by
  simp only [isPadding, Bool.or_eq_true, decide_eq_true_eq] at h
  rcases h with rfl | rfl <;> decide

/-- Whitespace is blank. -/
theorem isBlank_charsOf {ls : List Lexeme} (h : ∀ l ∈ ls, l.type = .whitespace ∧ l.Shaped) :
    ∀ c ∈ charsOf ls, isBlank c := by
  intro c hc
  obtain ⟨cs, hcs, hc⟩ := List.mem_flatten.mp hc
  obtain ⟨⟨t, ds⟩, hl, rfl⟩ := List.mem_map.mp hcs
  obtain ⟨rfl, hs⟩ : t = .whitespace ∧ Shaped ⟨t, ds⟩ := h _ hl
  exact isBlank_of_isPadding (hs.padding c hc)

theorem Text.trim_append_of_blank {cs ds : List Char} (h : ∀ c ∈ ds, isBlank c) :
    trim (cs ++ ds) = trim cs := by
  by_cases hall : ∀ c ∈ cs, isBlank c
  · rw [trim_eq_nil_iff.mpr hall, trim_eq_nil_iff]
    exact List.forall_mem_append.mpr ⟨hall, h⟩
  · have hne : ¬ cs.dropWhile isBlank = [] := by rwa [List.dropWhile_eq_nil_iff]
    have hreverse : ∀ c ∈ ds.reverse, isBlank c := by simpa using h
    rw [trim_eq, trim_eq, List.dropWhile_append, if_neg (by simpa using hne), List.rdropWhile,
      List.rdropWhile, List.reverse_append, List.dropWhile_append_of_pos hreverse]

/-- Lexemes of which more than blanks is left have a core, and whitespace behind it. -/
theorem exists_core {w : List Lexeme} (hshaped : ∀ l ∈ w, l.Shaped)
    (hw : ∀ l ∈ w, Grammar.isTextual l.type) (hne : trim (charsOf w) ≠ []) :
    ∃ core blank, w = core ++ blank ∧ IsCore core ∧
      ∀ l ∈ blank, l.type = .whitespace ∧ l.Shaped := by
  induction w using List.reverseRecOn with
  | nil => exact absurd rfl hne
  | append_singleton v l ih =>
    have hl : l ∈ v ++ [l] := List.mem_append_right v List.mem_cons_self
    by_cases ht : l.type = .whitespace
    · have hblank : ∀ c ∈ charsOf [l], isBlank c := isBlank_charsOf (by simp [ht, hshaped l hl])
      rw [charsOf_append, trim_append_of_blank hblank] at hne
      obtain ⟨core, blank, rfl, hcore, hspace⟩ := ih
        (fun m hm => hshaped m (List.mem_append_left [l] hm))
        (fun m hm => hw m (List.mem_append_left [l] hm)) hne
      refine ⟨core, blank ++ [l], by simp, hcore, List.forall_mem_append.mpr ⟨hspace, ?_⟩⟩
      simp [ht, hshaped l hl]
    · have htextual := hw l hl
      simp only [Grammar.isTextual, Bool.and_eq_true, decide_eq_true_eq] at htextual
      exact ⟨v ++ [l], [], by simp, ⟨l, by simp, by simp [isTrailing, ht, htextual.2]⟩, by simp⟩

/-- Whitespace and comments start with whitespace, behind which there is a comment or nothing. -/
theorem IsTail.exists_space {tail : List Lexeme} (h : IsTail tail) :
    ∃ space rest, tail = space ++ rest ∧ (∀ l ∈ space, l.type = .whitespace ∧ l.Shaped) ∧
      IsTail rest ∧ ∀ l ∈ rest.head?, l.type = .comment := by
  induction tail with
  | nil => exact ⟨[], [], rfl, by simp, h, by simp⟩
  | cons l tail ih =>
    obtain ⟨⟨hl, hs⟩, htail⟩ := List.forall_mem_cons.mp h
    by_cases ht : l.type = .whitespace
    · obtain ⟨space, rest, rfl, hspace, hrest, hstop⟩ := ih htail
      exact ⟨l :: space, rest, rfl, List.forall_mem_cons.mpr ⟨⟨ht, hs⟩, hspace⟩, hrest, hstop⟩
    · refine ⟨[], l :: tail, rfl, by simp, h, ?_⟩
      simpa [isTrailing, ht] using hl

namespace Phrase

variable {α β : Type}

/-! ### Parts that may be left out -/

namespace LineLocal

/-- What is left out in front of a token is left out in front of a line end as well. -/
theorem otherwise {p : TokenType → Prop} (hnewline : ¬ p .newline) (heof : ¬ p .eof) (a : α) :
    (otherwise p a).LineLocal := by
  rintro w rest rest' b hr ⟨hw, hp, hb⟩
  refine ⟨hw, ?_, hb⟩
  rcases hr with hsame | ⟨-, hends⟩
  · rwa [firstType, List.headD_eq_head?_getD, ← hsame, ← List.headD_eq_head?_getD]
  · cases rest' with
    | nil => exact heof
    | cons l ls =>
      rw [firstType_cons, hends l rfl]
      exact hnewline

theorem blank : blank.LineLocal := gap.or (otherwise (by decide) (by decide) _)

theorem joint : joint.LineLocal :=
  ((token _).before blank).or (((token _).before blank).or
    (otherwise (by simp [IsJoint]) (by simp [IsJoint]) _))

theorem joiner : joiner.LineLocal := blank.before joint

theorem condition : condition.LineLocal :=
  ((token _).before ((field _ _).map _)).or (otherwise (by decide) (by decide) _)

theorem trigger : trigger.LineLocal := uber.seq fun _ => condition.map _

end LineLocal

/-! ### Loose phrases -/

/-- The lexemes `w` end with a core that says `a` in front of any whitespace and comments, of which
the phrase may take in some. -/
def EndsLoosely (P : Phrase α) (w : List Lexeme) (a : α) : Prop :=
  ∃ core blank, w = core ++ blank ∧ IsCore core ∧ IsTail blank ∧ ∀ tail, IsTail tail →
    ∃ w' rest, core ++ tail = w' ++ rest ∧ P w' rest a ∧ IsTail rest

/-- The phrase says the same if whitespace and comments behind it are changed. -/
def Loose (P : Phrase α) : Prop :=
  ∀ ⦃w rest a⦄, (∀ l ∈ w, l.Shaped) → P w rest a → P.EndsLoosely w a

theorem EndsLoosely.imp {P : Phrase α} {Q : Phrase β} {w : List Lexeme} {a : α} {b : β}
    (h : P.EndsLoosely w a) (himp : ∀ w rest, P w rest a → Q w rest b) : Q.EndsLoosely w b := by
  obtain ⟨core, blank, hw, hcore, hblank, hloose⟩ := h
  refine ⟨core, blank, hw, hcore, hblank, fun tail ht => ?_⟩
  obtain ⟨w', rest, hw', ha, hrest⟩ := hloose tail ht
  exact ⟨w', rest, hw', himp w' rest ha, hrest⟩

theorem EndsLoosely.before {P : Phrase α} {Q : α → Phrase β} (h : P.LineLocal)
    {u v rest : List Lexeme} {a : α} {b : β} (ha : P u (v ++ rest) a) (hb : (Q a).EndsLoosely v b) :
    (P.seq Q).EndsLoosely (u ++ v) b := by
  obtain ⟨core, blank, rfl, hcore, hblank, hloose⟩ := hb
  refine ⟨u ++ core, blank, by simp, hcore.append u, hblank, fun tail ht => ?_⟩
  obtain ⟨w', rest', hw', hb', hrest'⟩ := hloose tail ht
  -- the first token of the core is still the first one behind `u`
  obtain ⟨l, ms, rfl⟩ := hcore.exists_cons
  refine ⟨u ++ w', rest', by simp [hw'], ⟨u, w', a, rfl, h (.inl ?_) ha, hb'⟩, hrest'⟩
  rw [← hw']
  rfl

namespace Loose

/-- A token that counts ends where it ends. -/
theorem lexeme {t : TokenType} (ht : isTrailing t = false) (m : List Char → α → Prop) :
    Loose fun w _ a => ∃ cs, w = [⟨t, cs⟩] ∧ m cs a := by
  rintro w rest a - ⟨cs, rfl, ha⟩
  refine ⟨[⟨t, cs⟩], [], rfl, ⟨_, rfl, ht⟩, by simp [IsTail], fun tail htail => ?_⟩
  exact ⟨[⟨t, cs⟩], tail, rfl, ⟨cs, rfl, ha⟩, htail⟩

theorem meaning {t : TokenType} (ht : isTrailing t = false) (decode : Decoder α) :
    (meaning t decode).Loose :=
  lexeme ht _

theorem number (decode : Decoder α) : (number decode).Loose := meaning rfl decode

theorem word (α : Type) [Worded α] : (word α).Loose := lexeme rfl _

theorem removable (decode : Decoder α) : (removable decode).Loose := lexeme rfl _

theorem water : water.Loose := lexeme rfl _

theorem quoted : quoted.Loose := lexeme rfl _

theorem map {P : Phrase α} (h : P.Loose) (f : α → β) : (P.map f).Loose := by
  rintro w rest b hshaped ⟨a, ha, rfl⟩
  exact (h hshaped ha).imp fun w rest ha => ⟨a, ha, rfl⟩

theorem or {P Q : Phrase α} (h : P.Loose) (hQ : Q.Loose) : (P.or Q).Loose := by
  rintro w rest a hshaped (ha | ha)
  · exact (h hshaped ha).imp fun w rest => .inl
  · exact (hQ hshaped ha).imp fun w rest => .inr

theorem token {t : TokenType} (ht : isTrailing t = false) : (token t).Loose := by
  have h : Loose fun w _ cs => ∃ ds, w = [⟨t, ds⟩] ∧ ds = cs := lexeme ht _
  intro w rest cs hshaped hw
  refine (@h w rest cs hshaped ⟨cs, hw, rfl⟩).imp ?_
  rintro w' rest' ⟨ds, hw', rfl⟩
  exact hw'

/-- A free text takes in whitespace up to a comment, and trims it off. -/
theorem text : text.Loose := by
  rintro w rest s hshaped ⟨hw, -, hne, hs⟩
  obtain ⟨core, blank, rfl, hcore, hblank⟩ := exists_core hshaped hw hne
  have hspace : ∀ {v : List Lexeme}, (∀ l ∈ v, l.type = .whitespace ∧ l.Shaped) →
      trim (charsOf (core ++ v)) = trim (charsOf core) := by
    intro v hv
    rw [charsOf_append, trim_append_of_blank (isBlank_charsOf hv)]
  rw [hspace hblank] at hne hs
  have htail : IsTail blank := fun l hl =>
    ⟨by simp [isTrailing, (hblank l hl).1], (hblank l hl).2⟩
  refine ⟨core, blank, rfl, hcore, htail, fun tail ht => ?_⟩
  -- the text goes on over the whitespace in front of the comment
  obtain ⟨space, rest', rfl, hnew, hrest', hstop⟩ := ht.exists_space
  refine ⟨core ++ space, rest', by simp, ⟨?_, ?_, by rwa [hspace hnew], by rwa [hspace hnew]⟩,
    hrest'⟩
  · refine List.forall_mem_append.mpr ⟨fun l hl => hw l (List.mem_append_left blank hl), ?_⟩
    intro l hl
    rw [(hnew l hl).1]
    rfl
  · intro l hl
    rw [hstop l hl]
    rfl

theorem seq {P : Phrase α} {Q : α → Phrase β} (h : P.LineLocal) (hQ : ∀ a, (Q a).Loose) :
    (P.seq Q).Loose := by
  rintro w rest b hshaped ⟨u, v, a, rfl, ha, hb⟩
  exact .before h ha (hQ a (fun l hl => hshaped l (List.mem_append_right u hl)) hb)

theorem before {P : Phrase α} {Q : Phrase β} (h : P.LineLocal) (hQ : Q.Loose) :
    (P.before Q).Loose :=
  seq h fun _ => hQ

/-- What follows a phrase that is loose itself may be nothing at all. -/
theorem seqOrSay {P : Phrase α} {Q : α → Phrase β} (hl : P.LineLocal) (h : P.Loose)
    (hQ : ∀ a, (Q a).Loose ∨ ∃ b, Q a = say b) : (P.seq Q).Loose := by
  rintro w rest b hshaped ⟨u, v, a, rfl, ha, hb⟩
  rcases hQ a with hloose | ⟨b', hsay⟩
  · exact .before hl ha (hloose (fun l hl => hshaped l (List.mem_append_right u hl)) hb)
  · rw [hsay] at hb
    obtain ⟨rfl, rfl⟩ := hb
    rw [List.append_nil] at hshaped ⊢
    refine (h hshaped ha).imp fun w rest ha => ⟨w, [], a, by simp, ha, ?_⟩
    rw [hsay]
    exact ⟨rfl, rfl⟩

/-! ### The phrases of the grammar -/

theorem name : name.Loose := (token rfl).map _

theorem parameter : (parameter : Phrase (Value α)).Loose :=
  .before (.token _) (.before (.word _) (.before (.token _) (.seq (.token _) fun _ =>
    (token rfl).map _)))

theorem field {t : TokenType} (ht : isTrailing t = false) (decode : Decoder α) :
    (field t decode).Loose :=
  ((meaning ht decode).map _).or parameter

theorem removableField (decode : Decoder α) : (removableField decode).Loose :=
  ((removable decode).map _).or
    ((before (.token _) ((field rfl decode).map _)).or (parameter.map _))

theorem uber : uber.Loose :=
  .seq (.number _) fun _ => .before (.token _) ((number _).map _)

theorem iconBody (kind : IconKind) : (iconBody kind).Loose := by
  cases kind with
  | file => exact quoted.map _
  | shard | spell | opher | lupo | grom | tuley => exact (number _).map _

theorem icon : icon.Loose := .seq (.word _) fun kind => .before (.token _) (iconBody kind)

theorem setting (type : UberType) : (setting type).Loose := by
  cases type <;> exact (field rfl _).map _

/-- Some command items are over with their kind. -/
theorem actionBody (kind : CommandKind) :
    (actionBody kind).Loose ∨ ∃ a, actionBody kind = say a := by
  cases kind with
  | autosave | checkpoint => exact .inr ⟨_, rfl⟩
  | toggle | equip =>
    exact .inl (.before .bar (.seq (.number _) fun _ => .before .bar ((field rfl _).map _)))
  | warp =>
    exact .inl (.before .bar (.seq (.field _ _) fun _ => .before .bar ((field rfl _).map _)))
  | startTimer | stopTimer => exact .inl (.before .bar (uber.map _))
  | setHealth | setEnergy | setSpiritLight => exact .inl (.before .bar ((field rfl _).map _))

theorem itemBody (kind : ItemKind) : (itemBody kind).Loose := by
  cases kind with
  | spiritLight | skill | shard | teleporter | bonusItem | bonusUpgrade =>
    exact (removableField _).map _
  | resource | relic => exact (field rfl _).map _
  | command => exact (seqOrSay (.number _) (number _) actionBody).map _
  | message => exact text.map _
  | uberState =>
    exact .seq .uber fun _ => .before .bar (.seq (.word _) fun type =>
      .before .bar ((setting type).map _))
  | water => exact water.map _
  | sysMessage => exact (number _).map _

theorem item : item.Loose := .seq (.number _) fun kind => .before .bar (itemBody kind)

theorem default (type : ParameterType) : (default type).Loose := by
  cases type with
  | bool => exact (meaning rfl _).map _
  | int | float => exact (number _).map _
  | string => exact text.map _

theorem arguments {w : CommandWord} (hw : w ≠ .endif) : (arguments w).Loose := by
  have hitem : itemThenGap.LineLocal := LineLocal.item.seq fun _ => LineLocal.gap.map _
  cases w with
  | includeHeader | excludeHeader => exact name.map _
  | add | remove => exact item.map _
  | name | display | description => exact .seq hitem fun _ => text.map _
  | price => exact .seq hitem fun _ => (field rfl _).map _
  | icon => exact .seq hitem fun _ => icon.map _
  | parameter =>
    exact .seq .name fun _ => .before .gap (.seq (.word _) fun type =>
      .before (.token _) ((default type).map _))
  | setState => exact uber.map _
  | ifState => exact .seq .uber fun _ => .before .bar ((field rfl _).map _)
  | endif => exact absurd rfl hw

theorem command : command.Loose := by
  refine seqOrSay (.word _) (word _) fun w => ?_
  split
  · exact .inr ⟨_, rfl⟩
  · next hw => exact .inl (.before .gap (arguments hw))

theorem pickup (ignore skip : Bool) : (pickup ignore skip).Loose :=
  .seq .trigger fun _ => .before .bar (item.map _)

theorem setup : setup.Loose :=
  .before .joiner (.before (.word _) (.before .bar (.seq .uber fun _ => .before .bar (uber.map _))))

theorem marked (skip : Bool) : (marked skip).Loose :=
  (before (.token _) (command.map _)).or ((pickup true skip).map _)

/-- **Whitespace and comments behind a statement do not matter to what it says.** -/
theorem statement (skip : Bool) : (statement skip).Loose :=
  (before (.word _) (setup.map _)).or ((before (.token _) (marked skip)).or
    (((pickup false skip).map _).or (before (.token _) (name.map _))))

end Loose

end Phrase

end SeedHeader
