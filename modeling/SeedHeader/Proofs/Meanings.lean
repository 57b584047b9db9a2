import SeedHeader.Proofs.Statements
import SeedHeader.Proofs.Numerals

/-!
# Proofs — What phrases say is well formed

For each phrase, that what it says in a text satisfies the conditions of `Proofs/WellFormed.lean`.
Ranges come from the decoders, names and numerals from the shapes of lexemes, and the characters of
a free text from the way it is passed.
-/

namespace SeedHeader

open Lexeme

namespace Phrase

variable {α β : Type}

/-- In a text the phrase says only what satisfies `q`. -/
def Yields (P : Phrase α) (q : α → Prop) : Prop :=
  ∀ ⦃w rest a⦄, Lexed (w ++ rest) → P w rest a → q a

namespace Yields

theorem map {P : Phrase α} {p : α → Prop} {f : α → β} {q : β → Prop} (h : P.Yields p)
    (hf : ∀ a, p a → q (f a)) : (P.map f).Yields q := by
  rintro w rest b hl ⟨a, ha, rfl⟩
  exact hf a (h hl ha)

theorem seq {P : Phrase α} {Q : α → Phrase β} {p : α → Prop} {q : β → Prop} (h : P.Yields p)
    (hQ : ∀ a, p a → (Q a).Yields q) : (P.seq Q).Yields q := by
  rintro w rest b hl ⟨u, v, a, rfl, ha, hb⟩
  rw [List.append_assoc] at hl
  exact hQ a (h hl ha) hl.right hb

theorem before {P : Phrase α} {Q : Phrase β} {q : β → Prop} (hQ : Q.Yields q) :
    (P.before Q).Yields q := by
  rintro w rest b hl ⟨u, v, a, rfl, -, hb⟩
  rw [List.append_assoc] at hl
  exact hQ hl.right hb

theorem or {P Q : Phrase α} {q : α → Prop} (h : P.Yields q) (hQ : Q.Yields q) :
    (P.or Q).Yields q := by
  rintro w rest a hl (ha | ha)
  · exact h hl ha
  · exact hQ hl ha

theorem any (P : Phrase α) : P.Yields fun _ => True := fun _ _ _ _ _ => trivial

theorem meaning {t : TokenType} {decode : Decoder α} {q : α → Prop}
    (h : ∀ cs a, Shaped ⟨t, cs⟩ → decode cs = .ok a → q a) : (meaning t decode).Yields q := by
  rintro w rest a hl ⟨cs, rfl, ha⟩
  exact h cs a (hl.shaped (by simp)) ha

theorem unsigned : (number Decoder.unsigned).Yields IsUint32 :=
  meaning fun _ _ _ h => (Decoder.unsigned_iff.mp h).2.2

theorem integer : (number Decoder.integer).Yields IsInt32 :=
  meaning fun _ _ _ h => (Decoder.integer_iff.mp h).2.2

theorem float : (number Decoder.float).Yields IsDecimalFloat :=
  meaning fun _ _ hs h => isDecimalFloat_of_float hs.isNumeral h

theorem numeral : (number Decoder.text).Yields IsNumber :=
  meaning fun cs a hs h => by
    cases h
    rw [IsNumber, String.toList_ofList]
    exact hs.isNumeral

theorem name : name.Yields IsName := by
  rintro w rest s hl ⟨cs, rfl, rfl⟩
  rw [IsName, String.toList_ofList]
  exact (hl.shaped (by simp)).isWord

theorem parameter {p : α → Prop} : (parameter : Phrase (Value α)).Yields (Value.Fits p) := by
  rintro w rest v hl hv
  obtain ⟨dollar, param, opening, cs, closing, rfl, -, rfl⟩ := parameter_iff.mp hv
  have hs : Shaped ⟨.identifier, cs⟩ := hl.shaped (by simp)
  rw [Value.Fits, IsName, String.toList_ofList]
  exact hs.isWord

theorem field {t : TokenType} {decode : Decoder α} {p : α → Prop}
    (h : (Phrase.meaning t decode).Yields p) : (field t decode).Yields (Value.Fits p) := by
  refine .or (.map h fun a ha => ?_) parameter
  exact ha

theorem anyField (t : TokenType) (decode : Decoder α) : (Phrase.field t decode).Yields Value.Any :=
  field (any _)

theorem removableField {decode : Decoder α} {p : α → Prop}
    (h : ∀ cs a, decode cs = .ok a → p a) :
    (removableField decode).Yields fun v => v.1.Fits p := by
  refine .or ?_ (.or (.before ((field (meaning fun cs a _ ha => h cs a ha)).map fun _ hv => hv))
    (parameter.map fun _ hv => hv))
  rintro w rest a hl ⟨b, ⟨cs, -, hb, -⟩, rfl⟩
  exact h _ _ hb

theorem anyRemovable (decode : Decoder α) :
    (Phrase.removableField decode).Yields fun v => v.1.Any :=
  removableField fun _ _ _ => trivial

theorem text : text.Yields IsText := by
  rintro w rest s hl ⟨hw, hstop, hne, rfl⟩
  have hfree : IsFree (charsOf w) := by
    have hpass := charsOf_textual (charsOf (w ++ rest))
    rw [hl, takeWhile_append_of_head hw hstop] at hpass
    rw [hpass]
    exact isFree_freeRun false _
  rw [IsText, String.toList_ofList]
  exact ⟨hne, Text.trim_trim _, hfree.trim⟩

theorem uber : uber.Yields UberIdentifier.WellFormed :=
  unsigned.seq fun _ hg => .before (unsigned.map fun _ hi => ⟨hg, hi⟩)

theorem quoted : quoted.Yields IsPath := by
  rintro w rest s hl ⟨cs, rfl, ht, rfl⟩
  have hs : Shaped ⟨.string, cs⟩ := hl.shaped (by simp)
  rw [IsPath, String.toList_ofList]
  cases hs with
  | closed ds h => simpa using h
  | unclosed ds h =>
    -- a string without a second quote is not terminated
    have hq : '"' ∈ ds := by simpa [Lexeme.terminated] using ht
    exact absurd rfl (h '"' hq).1
  | mark c hc => have := punctuation_mem c; simp [hc] at this

theorem icon : icon.Yields Icon.WellFormed := by
  refine .seq (any _) fun kind _ => .before ?_
  cases kind with
  | file => exact quoted.map fun _ h => h
  | shard | spell | opher | lupo | grom | tuley => exact unsigned.map fun _ h => h

/-! ### Items -/

theorem setting (type : UberType) : (setting type).Yields Setting.WellFormed := by
  cases type with
  | bool | teleporter => exact (anyField _ _).map fun _ h => h
  | byte | int => exact (field integer).map fun _ h => h
  | float => exact (field float).map fun _ h => h

theorem actionBody (kind : CommandKind) : (actionBody kind).Yields Action.WellFormed := by
  cases kind with
  | autosave | checkpoint =>
    rintro w rest a - ⟨-, rfl⟩
    trivial
  | toggle | equip =>
    exact .before (.seq (any _) fun _ _ => .before ((anyField _ _).map fun _ h => h))
  | warp =>
    exact .before (.seq (field float) fun _ hx => .before ((field float).map fun _ hy => ⟨hx, hy⟩))
  | startTimer | stopTimer => exact .before (uber.map fun _ h => h)
  | setHealth | setEnergy | setSpiritLight =>
    exact .before ((field unsigned).map fun _ h => h)

theorem itemBody (kind : ItemKind) : (itemBody kind).Yields Item.WellFormed := by
  cases kind with
  | spiritLight =>
    exact (removableField fun _ _ h => (Decoder.unsigned_iff.mp h).2.2).map fun _ h => h
  | skill | shard | teleporter | bonusItem | bonusUpgrade =>
    exact (anyRemovable _).map fun _ h => h
  | resource | relic => exact (anyField _ _).map fun _ h => h
  | command => exact (Yields.seq (any _) fun kind _ => actionBody kind).map fun _ h => h
  | message => exact text.map fun _ h => h
  | uberState =>
    exact .seq uber fun _ hu => .before (.seq (any _) fun type _ =>
      .before ((setting type).map fun _ hs => ⟨hu, hs⟩))
  | water | sysMessage => exact .map (any _) fun _ _ => trivial

theorem item : item.Yields Item.WellFormed :=
  .seq (any _) fun kind _ => .before (itemBody kind)

theorem not_message {kind : ItemKind} (h : kind ≠ .message) :
    (Phrase.itemBody kind).Yields fun i => ¬ i.IsMessage := by
  cases kind with
  | message => exact absurd rfl h
  | uberState =>
    exact .seq (any _) fun _ _ => .before (.seq (any _) fun _ _ =>
      .before (.map (any _) fun _ _ => id))
  | _ => exact .map (any _) fun _ _ => id

/-- A message would have gone on over the gap. -/
theorem itemThenGap : itemThenGap.Yields Item.Inner := by
  rintro w rest i hl ⟨u, v, j, rfl, hj, -, ⟨cs, rfl, -⟩, rfl⟩
  rw [List.append_assoc] at hl
  refine ⟨item hl hj, ?_⟩
  obtain ⟨u₁, u₂, kind, rfl, -, u₃, u₄, -, rfl, -, hb⟩ := hj
  by_cases hk : kind = .message
  · subst hk
    obtain ⟨s, ⟨-, hstop, -⟩, -⟩ := hb
    cases hstop _ rfl
  · rw [List.append_assoc, List.append_assoc] at hl
    exact not_message hk hl.right.right hb

/-! ### Statements -/

theorem default (type : ParameterType) : (default type).Yields Default.WellFormed := by
  cases type with
  | bool => exact .map (any _) fun _ _ => trivial
  | int => exact integer.map fun _ h => h
  | float => exact float.map fun _ h => h
  | string => exact text.map fun _ h => h

theorem arguments (word : CommandWord) : (arguments word).Yields Command.WellFormed := by
  cases word with
  | includeHeader | excludeHeader => exact name.map fun _ h => h
  | add | remove => exact item.map fun _ h => h
  | name | display | description =>
    exact .seq itemThenGap fun _ hi => text.map fun _ hs => ⟨hi, hs⟩
  | price => exact .seq itemThenGap fun _ hi => (field unsigned).map fun _ hn => ⟨hi, hn⟩
  | icon => exact .seq itemThenGap fun _ hi => icon.map fun _ hc => ⟨hi, hc⟩
  | parameter =>
    exact .seq name fun _ hs => .before (.seq (any _) fun type _ =>
      .before ((default type).map fun _ hd => ⟨hs, hd⟩))
  | setState => exact uber.map fun _ h => h
  | ifState => exact .seq uber fun _ hu => .before ((field numeral).map fun _ hv => ⟨hu, hv⟩)
  | endif =>
    rintro w rest c - ⟨-, rfl⟩
    trivial

theorem command : command.Yields Command.WellFormed := by
  refine .seq (any _) fun word _ => ?_
  split
  · rintro w rest c - ⟨-, rfl⟩
    trivial
  · exact .before (arguments word)

theorem trigger : trigger.Yields Trigger.WellFormed := by
  have hc : condition.Yields fun v => ∀ a ∈ v, a.Fits IsNumber := by
    refine .or (.before ((field numeral).map fun v hv => ?_)) ?_
    · simpa using hv
    · rintro w rest v - ⟨-, -, rfl⟩
      simp
  refine .seq uber fun u hu => hc.map fun v hv => ⟨hu, ?_⟩
  simpa using hv

theorem pickup (ignore skip : Bool) :
    (pickup ignore skip).Yields fun p => (Content.pickup p).WellFormed :=
  .seq trigger fun _ ht => .before (item.map fun _ hi => ⟨ht, hi⟩)

theorem statement (skip : Bool) : (statement skip).Yields Content.WellFormed := by
  refine .or (.before (.map ?_ fun _ h => h)) (.or (.before (.or ?_ ?_)) (.or ?_ ?_))
  · exact .before (.before (.before (.seq uber fun _ hu => .before (uber.map fun _ hv => ⟨hu, hv⟩))))
  · exact .before (command.map fun _ h => h)
  · exact (pickup true skip).map fun _ h => h
  · exact (pickup false skip).map fun _ h => h
  · exact .before (name.map fun _ h => h)

end Yields

end Phrase

end SeedHeader
