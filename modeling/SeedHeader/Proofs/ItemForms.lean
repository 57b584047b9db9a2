import SeedHeader.Proofs.Recognition
import SeedHeader.Proofs.Statements
import SeedHeader.Proofs.Numerals
import SeedHeader.Proofs.Operations

/-!
# Proofs — The forms of an item

The grammar of items written out token by token, with the numbers that stand in a text: `ItemForm`
opens with the number of a kind and a bar, `FieldsForm` has the fields for each number, and
`ActionForm` those of a command item for each number of a command kind.

An item is read exactly where one of these forms lies ahead, and all of it is read
(`item_iff_form`).  On the way the forms are compared with the phrases that the rules read.
-/

namespace SeedHeader

/-! ### Literals -/

/-- The characters are an unsigned integer with the value `n`. -/
def IsNatural (cs : List Char) (n : Nat) : Prop := IsUnsigned cs ∧ digitsValue cs = n

/-- The characters are the number of the member `a`. -/
def IsMember {α : Type} [Numbered α] (cs : List Char) (a : α) : Prop :=
  IsNatural cs (Numbered.number a)

/-- The characters after a minus sign, or without one. -/
def withSign (negative : Bool) (cs : List Char) : List Char := if negative then '-' :: cs else cs

/-- The characters are an integer of 32 bits: ASCII digits, no more of them than an integer may
have, with or without a minus sign. -/
def IsInteger (cs : List Char) (i : Int) : Prop :=
  ∃ negative ds, cs = withSign negative ds ∧ Decoder.IsRow ds ∧
    Decoder.signed negative (digitsValue ds) = i ∧ -2 ^ 31 ≤ i ∧ i < 2 ^ 31

/-- The characters are a decimal number in ASCII digits, with or without a minus sign, that rounds
to `x`. -/
def IsFloat (cs : List Char) (x : Binary64) : Prop :=
  ∃ negative ds d, cs = withSign negative ds ∧ ds ≠ [] ∧ (∀ c ∈ ds, c.isDigit ∨ c = '.') ∧
    Decimal.readPlain? ds = some d ∧ Binary64.ofDecimal negative d = x

/-- The characters are one of the words `true` and `false`, in any case. -/
def IsBoolean (cs : List Char) (b : Bool) : Prop := Spells (if b then "true" else "false") cs

/-- The characters are one of the digits `0` and `1`. -/
def IsBit (cs : List Char) (b : Bool) : Prop := cs = [if b then '1' else '0']

/-! ### Values -/

/-- `DOLLAR IDENTIFIER(param) OPEN_PAREN IDENTIFIER CLOSE_PAREN` names a parameter. -/
inductive ParameterForm : List Lexeme → String → Prop where
  | mk {dollar param opening name closing : List Char} (h : Spells "param" param) :
      ParameterForm [⟨.dollar, dollar⟩, ⟨.identifier, param⟩, ⟨.openParen, opening⟩,
        ⟨.identifier, name⟩, ⟨.closeParen, closing⟩] (String.ofList name)

/-- A value is a token of type `t` with a meaning, or a parameter. -/
inductive ValueForm {α : Type} (t : TokenType) (means : List Char → α → Prop) :
    List Lexeme → Value α → Prop where
  | literal {cs : List Char} {a : α} (h : means cs a) : ValueForm t means [⟨t, cs⟩] (.literal a)
  | parameter {w : List Lexeme} {name : String} (h : ParameterForm w name) :
      ValueForm t means w (.parameter name)

/-- A value that a minus sign may mark for removal.  The sign belongs to the token of a number, and
is a token of its own in front of a parameter. -/
inductive RemovableForm {α : Type} (means : List Char → α → Prop) :
    List Lexeme → Value α → Bool → Prop where
  | literal {cs : List Char} {a : α} (remove : Bool) (h : means cs a) :
      RemovableForm means [⟨.number, withSign remove cs⟩] (.literal a) remove
  | parameter {w : List Lexeme} {name : String} (h : ParameterForm w name) :
      RemovableForm means w (.parameter name) false
  | removedParameter {minus : List Char} {w : List Lexeme} {name : String}
      (h : ParameterForm w name) :
      RemovableForm means (⟨.minus, minus⟩ :: w) (.parameter name) true

/-- `NUMBER SEPARATOR NUMBER`. -/
inductive UberForm : List Lexeme → UberIdentifier → Prop where
  | mk {group bar id : List Char} {u : UberIdentifier} (hg : IsNatural group u.group)
      (hi : IsNatural id u.id) :
      UberForm [⟨.number, group⟩, ⟨.separator, bar⟩, ⟨.number, id⟩] u

/-- The value of an uber state, by the word for the type of the state. -/
inductive SettingForm : (type : String) → List Lexeme → Setting → Prop where
  | bool {w v} (h : ValueForm .identifier IsBoolean w v) : SettingForm "bool" w (.bool (bare v))
  | teleporter {w v} (h : ValueForm .identifier IsBoolean w v) :
      SettingForm "teleporter" w (.teleporter (bare v))
  | byte {w v} (h : ValueForm .number IsInteger w v) : SettingForm "byte" w (.byte (bare v))
  | int {w v} (h : ValueForm .number IsInteger w v) : SettingForm "int" w (.int (bare v))
  | float {w v} (h : ValueForm .number IsFloat w v) : SettingForm "float" w (.float (bare v))

/-! ### Items -/

/-- What follows the number of a command kind. -/
inductive ActionForm : (kind : Nat) → List Lexeme → Action → Prop where
  | autosave : ActionForm 0 [] .autosave
  | checkpoint : ActionForm 2 [] .checkpoint
  | toggle {bar target bar' : List Char} {t : ToggleCommandKind} {w : List Lexeme} {on : Value Bool}
      (ht : IsMember target t) (ho : ValueForm .number IsBit w on) :
      ActionForm 7 (⟨.separator, bar⟩ :: ⟨.number, target⟩ :: ⟨.separator, bar'⟩ :: w)
        (.toggle t (bare on))
  | warp {bar bar' : List Char} {w w' : List Lexeme} {x y : Value Binary64}
      (hx : ValueForm .number IsFloat w x) (hy : ValueForm .number IsFloat w' y) :
      ActionForm 8 (⟨.separator, bar⟩ :: (w ++ ⟨.separator, bar'⟩ :: w')) (.warp (bare x) (bare y))
  | startTimer {bar : List Char} {w : List Lexeme} {u : UberIdentifier} (h : UberForm w u) :
      ActionForm 9 (⟨.separator, bar⟩ :: w) (.startTimer (bare u))
  | stopTimer {bar : List Char} {w : List Lexeme} {u : UberIdentifier} (h : UberForm w u) :
      ActionForm 10 (⟨.separator, bar⟩ :: w) (.stopTimer (bare u))
  | setHealth {bar : List Char} {w : List Lexeme} {n : Value Nat}
      (h : ValueForm .number IsNatural w n) :
      ActionForm 12 (⟨.separator, bar⟩ :: w) (.setHealth (bare n))
  | setEnergy {bar : List Char} {w : List Lexeme} {n : Value Nat}
      (h : ValueForm .number IsNatural w n) :
      ActionForm 13 (⟨.separator, bar⟩ :: w) (.setEnergy (bare n))
  | setSpiritLight {bar : List Char} {w : List Lexeme} {n : Value Nat}
      (h : ValueForm .number IsNatural w n) :
      ActionForm 14 (⟨.separator, bar⟩ :: w) (.setSpiritLight (bare n))
  | equip {bar slot bar' : List Char} {s : EquipSlot} {w : List Lexeme} {skill : Value Skill}
      (hs : IsMember slot s) (hw : ValueForm .number IsMember w skill) :
      ActionForm 15 (⟨.separator, bar⟩ :: ⟨.number, slot⟩ :: ⟨.separator, bar'⟩ :: w)
        (.equip s (bare skill))

/-- The fields of an item, by the number of its kind, in front of `rest`. -/
inductive FieldsForm (rest : List Lexeme) : (kind : Nat) → List Lexeme → Item → Prop where
  | spiritLight {w v remove} (h : RemovableForm IsNatural w v remove) :
      FieldsForm rest 0 w (.spiritLight (bare v) remove)
  | resource {w v} (h : ValueForm .number IsMember w v) : FieldsForm rest 1 w (.resource (bare v))
  | skill {w v remove} (h : RemovableForm IsMember w v remove) :
      FieldsForm rest 2 w (.skill (bare v) remove)
  | shard {w v remove} (h : RemovableForm IsMember w v remove) :
      FieldsForm rest 3 w (.shard (bare v) remove)
  | command {cs : List Char} {kind : Nat} {w : List Lexeme} {a : Action} (hk : IsNatural cs kind)
      (ha : ActionForm kind w a) : FieldsForm rest 4 (⟨.number, cs⟩ :: w) (.command a)
  | teleporter {w v remove} (h : RemovableForm IsMember w v remove) :
      FieldsForm rest 5 w (.teleporter (bare v) remove)
  /-- All that is left of the line, up to a comment; it is not blank. -/
  | message {w : List Lexeme} (hw : ∀ l ∈ w, l.type ≠ .newline ∧ l.type ≠ .comment)
      (hrest : ∀ l ∈ rest.head?, l.type = .newline ∨ l.type = .comment)
      (hne : Text.trim (charsOf w) ≠ []) :
      FieldsForm rest 6 w (.message (String.ofList (Text.trim (charsOf w))))
  | uberState {u w : List Lexeme} {bar cs bar' : List Char} {type : String} {i : UberIdentifier}
      {s : Setting} (hu : UberForm u i) (ht : Spells type cs) (hs : SettingForm type w s) :
      FieldsForm rest 8
        (u ++ ⟨.separator, bar⟩ :: ⟨.identifier, cs⟩ :: ⟨.separator, bar'⟩ :: w)
        (.uberState (bare i) s)
  | water {cs : List Char} (remove : Bool) (h : IsNatural cs 0) :
      FieldsForm rest 9 [⟨.number, withSign remove cs⟩] (.water remove)
  | bonusItem {w v remove} (h : RemovableForm IsMember w v remove) :
      FieldsForm rest 10 w (.bonusItem (bare v) remove)
  | bonusUpgrade {w v remove} (h : RemovableForm IsMember w v remove) :
      FieldsForm rest 11 w (.bonusUpgrade (bare v) remove)
  | relic {w v} (h : ValueForm .number IsMember w v) : FieldsForm rest 12 w (.relic (bare v))
  | sysMessage {cs : List Char} {k : SysMessageKind} (h : IsMember cs k) :
      FieldsForm rest 13 [⟨.number, cs⟩] (.sysMessage k)

/-- An item: `NUMBER(kind) SEPARATOR fields`. -/
inductive ItemForm : (w rest : List Lexeme) → Item → Prop where
  | mk {cs bar : List Char} {kind : Nat} {w rest : List Lexeme} {i : Item} (hk : IsNatural cs kind)
      (hf : FieldsForm rest kind w i) :
      ItemForm (⟨.number, cs⟩ :: ⟨.separator, bar⟩ :: w) rest i

/-! ### What the decoders accept -/

/-- The decoder accepts the characters that have a meaning, and gives them this meaning. -/
structure Decodes {α : Type} (decode : Decoder α) (means : List Char → α → Prop) : Prop where
  iff : ∀ {cs a}, means cs a ↔ decode cs = .ok a

theorem decodes_natural : Decodes Decoder.unsigned IsNatural := by
  refine ⟨fun {cs n} => ?_⟩
  rw [Decoder.unsigned_iff, IsNatural, IsUnsigned, Decoder.IsRow]
  constructor
  · rintro ⟨⟨hd, hl, hn⟩, rfl⟩
    exact ⟨⟨hd, hl⟩, rfl, hn⟩
  · rintro ⟨⟨hd, hl⟩, rfl, hn⟩
    exact ⟨⟨hd, hl, hn⟩, rfl⟩

theorem decodes_member (α : Type) [Numbered α] : Decodes (Decoder.member α) IsMember := by
  refine ⟨fun {cs a} => ?_⟩
  rw [Decoder.member_iff]
  exact decodes_natural.iff

/-- The sign of a row that has none of its own is split off again. -/
theorem splitMinus_withSign (negative : Bool) {cs : List Char} (h : ∀ c ∈ cs.head?, c ≠ '-') :
    Decoder.splitMinus (withSign negative cs) = (negative, cs) := by
  cases negative with
  | false => exact splitMinus_of_ne h
  | true => rfl

theorem withSign_splitMinus (cs : List Char) :
    withSign (Decoder.splitMinus cs).1 (Decoder.splitMinus cs).2 = cs := by
  unfold Decoder.splitMinus
  split <;> rfl

theorem head_ne_minus_of_isDigits {cs : List Char} (h : isDigits cs) : ∀ c ∈ cs.head?, c ≠ '-' := by
  rintro c hc rfl
  exact absurd ((Decoder.isDigits_iff.mp h).2 '-' (List.mem_of_mem_head? hc)) (by decide)

theorem decodes_integer : Decodes Decoder.integer IsInteger := by
  refine ⟨fun {cs i} => ?_⟩
  rw [Decoder.integer_iff]
  constructor
  · rintro ⟨negative, ds, rfl, hrow, hi⟩
    rw [splitMinus_withSign negative (head_ne_minus_of_isDigits hrow.1)]
    exact ⟨hrow, hi⟩
  · rintro ⟨hrow, hi⟩
    exact ⟨_, _, (withSign_splitMinus cs).symm, hrow, hi⟩

theorem decodes_float : Decodes Decoder.float IsFloat := by
  refine ⟨fun {cs x} => ?_⟩
  have hchars : ∀ ds : List Char, ds.all Decoder.isFloatChar ↔ ∀ c ∈ ds, c.isDigit ∨ c = '.' := by
    simp [Decoder.isFloatChar]
  constructor
  · rintro ⟨negative, ds, d, rfl, hne, hds, hd, rfl⟩
    have hhead : ∀ c ∈ ds.head?, c ≠ '-' := by
      rintro c hc rfl
      exact absurd (hds '-' (List.mem_of_mem_head? hc)) (by decide)
    simp [Decoder.float, splitMinus_withSign negative hhead, hne, (hchars ds).mpr hds, hd]
  · intro h
    unfold Decoder.float at h
    simp only at h
    split at h
    · cases h
    · next hc =>
      simp only [Bool.or_eq_true, Bool.not_eq_true', not_or, Bool.not_eq_false,
        List.isEmpty_iff] at hc
      split at h
      · next d hd =>
        exact ⟨_, _, d, (withSign_splitMinus cs).symm, hc.1, (hchars _).mp hc.2, hd,
          Except.ok.inj h⟩
      · cases h

theorem decodes_boolean : Decodes Decoder.boolean IsBoolean := by
  refine ⟨fun {cs b} => ?_⟩
  have hkeyword : keyword? booleans cs = some b ↔ IsBoolean cs b := by
    rw [keyword?, lookup?_iff (by decide)]
    cases b <;> simp [booleans, IsBoolean, Spells, ← String.toList_inj]
  rw [← hkeyword, Decoder.boolean]
  cases keyword? booleans cs <;> simp

theorem decodes_bit : Decodes Decoder.bit IsBit := by
  refine ⟨fun {cs b} => ?_⟩
  unfold Decoder.bit
  split
  · cases b <;> simp [IsBit]
  · cases b <;> simp [IsBit]
  · cases b <;> simp_all [IsBit]

/-! ### Forms and phrases -/

section
variable {α : Type} {w rest : List Lexeme} {means : List Char → α → Prop} {decode : Decoder α}

theorem parameterForm_iff {v : Value α} :
    Phrase.parameter w rest v ↔ ∃ name, ParameterForm w name ∧ v = .parameter name := by
  rw [Phrase.parameter_iff]
  constructor
  · rintro ⟨dollar, param, opening, cs, closing, rfl, hs, rfl⟩
    exact ⟨_, .mk hs, rfl⟩
  · rintro ⟨name, ⟨hs⟩, rfl⟩
    exact ⟨_, _, _, _, _, rfl, hs, rfl⟩

theorem Decodes.value_iff (hm : Decodes decode means) {t : TokenType}
    {v : Value α} : ValueForm t means w v ↔ Phrase.field t decode w rest v := by
  constructor
  · rintro (h | h)
    · exact .inl ⟨_, ⟨_, rfl, hm.iff.mp h⟩, rfl⟩
    · exact .inr (parameterForm_iff.mpr ⟨_, h, rfl⟩)
  · rintro (⟨a, ⟨cs, rfl, ha⟩, rfl⟩ | h)
    · exact .literal (hm.iff.mpr ha)
    · obtain ⟨name, hp, rfl⟩ := parameterForm_iff.mp h
      exact .parameter hp

/-- Right behind a lone minus sign there is no number without a sign of its own: the two would be
one token. -/
theorem Lexed.not_digit_of_minus {minus cs : List Char} {ls : List Lexeme}
    (h : Lexed (⟨.minus, minus⟩ :: ⟨.number, cs⟩ :: ls)) : ¬ isDigits cs := by
  intro hd
  obtain ⟨hne, hdigit⟩ := Decoder.isDigits_iff.mp hd
  obtain ⟨d, ds, rfl⟩ := List.exists_cons_of_ne_nil hne
  obtain ⟨c, text, hcut, hrest, -⟩ := Lexed.cons_iff.mp h
  have htype : (Lexeme.extent c text).1 = .minus := (congrArg Lexeme.type hcut).symm
  rw [charsOf_cons, List.cons_append, Lexeme.rest] at hrest
  have hcases := Lexeme.extent_cases c text
  generalize Lexeme.extent c text = e at htype hrest hcases
  cases hcases with
  | minus hc hhead =>
    -- the digit would have been taken together with the sign
    rw [List.drop_zero] at hrest
    rw [← hrest, List.head?_cons, Option.any_some, isDigit_of_ascii_digit (hdigit d (by simp))]
      at hhead
    cases hhead
  | mark =>
    have := Lexeme.punctuation_mem c
    simp [show Lexeme.punctuation c = .minus from htype] at this
  | _ => cases htype

theorem Decodes.removable_iff (hm : Decodes decode means)
    (hdigits : ∀ cs a, means cs a → isDigits cs) (hlexed : Lexed (w ++ rest)) {v : Value α}
    {remove : Bool} :
    RemovableForm means w v remove ↔ Phrase.removableField decode w rest (v, remove) := by
  constructor
  · rintro (⟨remove, h⟩ | h | h)
    · have hsplit := splitMinus_withSign remove (head_ne_minus_of_isDigits (hdigits _ _ h))
      exact .inl ⟨(_, remove), ⟨_, rfl, by rw [hsplit]; exact hm.iff.mp h, by rw [hsplit]⟩, rfl⟩
    · exact .inr (.inr ⟨_, parameterForm_iff.mpr ⟨_, h, rfl⟩, rfl⟩)
    · exact .inr (.inl (Phrase.token_before_iff.mpr
        ⟨_, _, rfl, _, .inr (parameterForm_iff.mpr ⟨_, h, rfl⟩), rfl⟩))
  · rintro (⟨⟨a, _⟩, ⟨cs, rfl, ha, rfl⟩, e⟩ | h | ⟨u, hu, e⟩)
    · cases e
      have hform := RemovableForm.literal (Decoder.splitMinus cs).1 (hm.iff.mpr ha)
      rwa [withSign_splitMinus] at hform
    · obtain ⟨minus, u, rfl, x, hx | hx, e⟩ := Phrase.token_before_iff.mp h
      · obtain ⟨a, ⟨cs, rfl, ha⟩, rfl⟩ := hx
        exact absurd (hdigits _ _ (hm.iff.mpr ha)) hlexed.not_digit_of_minus
      · cases e
        obtain ⟨name, hp, rfl⟩ := parameterForm_iff.mp hx
        exact .removedParameter hp
    · cases e
      obtain ⟨name, hp, rfl⟩ := parameterForm_iff.mp hu
      exact .parameter hp

end

section
variable {w rest : List Lexeme}

theorem IsNatural.isDigits {cs : List Char} {n : Nat} (h : IsNatural cs n) : isDigits cs := h.1.1

theorem uberForm_iff {u : UberIdentifier} : UberForm w u ↔ Phrase.uber w rest u := by
  constructor
  · rintro ⟨hg, hi⟩
    exact ⟨[_], _, u.group, rfl, ⟨_, rfl, decodes_natural.iff.mp hg⟩,
      Phrase.token_before_iff.mpr ⟨_, _, rfl, u.id, ⟨_, rfl, decodes_natural.iff.mp hi⟩, rfl⟩⟩
  · rintro ⟨g, v, m, rfl, ⟨cs, rfl, hm⟩, hb⟩
    obtain ⟨bar, v, rfl, n, ⟨ds, rfl, hn⟩, rfl⟩ := Phrase.token_before_iff.mp hb
    exact .mk (decodes_natural.iff.mpr hm) (decodes_natural.iff.mpr hn)

theorem settingForm_iff {type : String} {s : Setting} :
    SettingForm type w s ↔ ∃ t : UberType, Worded.word t = type ∧ Phrase.setting t w rest s := by
  constructor
  · intro h
    cases h with
    | bool h => exact ⟨.bool, rfl, _, decodes_boolean.value_iff.mp h, rfl⟩
    | teleporter h => exact ⟨.teleporter, rfl, _, decodes_boolean.value_iff.mp h, rfl⟩
    | byte h => exact ⟨.byte, rfl, _, decodes_integer.value_iff.mp h, rfl⟩
    | int h => exact ⟨.int, rfl, _, decodes_integer.value_iff.mp h, rfl⟩
    | float h => exact ⟨.float, rfl, _, decodes_float.value_iff.mp h, rfl⟩
  · rintro ⟨t, rfl, h⟩
    cases t with
    | bool =>
      obtain ⟨v, h, rfl⟩ := h
      exact .bool (decodes_boolean.value_iff.mpr h)
    | teleporter =>
      obtain ⟨v, h, rfl⟩ := h
      exact .teleporter (decodes_boolean.value_iff.mpr h)
    | byte =>
      obtain ⟨v, h, rfl⟩ := h
      exact .byte (decodes_integer.value_iff.mpr h)
    | int =>
      obtain ⟨v, h, rfl⟩ := h
      exact .int (decodes_integer.value_iff.mpr h)
    | float =>
      obtain ⟨v, h, rfl⟩ := h
      exact .float (decodes_float.value_iff.mpr h)

/-- The fields of a command item are read by the rule of its kind. -/
theorem ActionForm.exists_kind {n : Nat} {a : Action} (h : ActionForm n w a) :
    ∃ kind : CommandKind, Numbered.number kind = n ∧ Phrase.actionBody kind w rest a := by
  cases h with
  | autosave => exact ⟨.autosave, rfl, rfl, rfl⟩
  | checkpoint => exact ⟨.checkpoint, rfl, rfl, rfl⟩
  | toggle ht ho =>
    exact ⟨.toggle, rfl, Phrase.bar_before_iff.mpr ⟨_, _, rfl, Phrase.number_seq_iff.mpr
      ⟨_, _, _, rfl, (decodes_member _).iff.mp ht, Phrase.bar_before_iff.mpr
        ⟨_, _, rfl, _, decodes_bit.value_iff.mp ho, rfl⟩⟩⟩⟩
  | warp hx hy =>
    exact ⟨.warp, rfl, Phrase.bar_before_iff.mpr ⟨_, _, rfl, _, _, _, rfl,
      decodes_float.value_iff.mp hx, Phrase.bar_before_iff.mpr
        ⟨_, _, rfl, _, decodes_float.value_iff.mp hy, rfl⟩⟩⟩
  | startTimer h =>
    exact ⟨.startTimer, rfl, Phrase.bar_before_iff.mpr ⟨_, _, rfl, _, uberForm_iff.mp h, rfl⟩⟩
  | stopTimer h =>
    exact ⟨.stopTimer, rfl, Phrase.bar_before_iff.mpr ⟨_, _, rfl, _, uberForm_iff.mp h, rfl⟩⟩
  | setHealth h =>
    exact ⟨.setHealth, rfl, Phrase.bar_before_iff.mpr
      ⟨_, _, rfl, _, decodes_natural.value_iff.mp h, rfl⟩⟩
  | setEnergy h =>
    exact ⟨.setEnergy, rfl, Phrase.bar_before_iff.mpr
      ⟨_, _, rfl, _, decodes_natural.value_iff.mp h, rfl⟩⟩
  | setSpiritLight h =>
    exact ⟨.setSpiritLight, rfl, Phrase.bar_before_iff.mpr
      ⟨_, _, rfl, _, decodes_natural.value_iff.mp h, rfl⟩⟩
  | equip hs hw =>
    exact ⟨.equip, rfl, Phrase.bar_before_iff.mpr ⟨_, _, rfl, Phrase.number_seq_iff.mpr
      ⟨_, _, _, rfl, (decodes_member _).iff.mp hs, Phrase.bar_before_iff.mpr
        ⟨_, _, rfl, _, (decodes_member _).value_iff.mp hw, rfl⟩⟩⟩⟩

/-- What is read as the fields of a command item has their form. -/
theorem ActionForm.of_actionBody {kind : CommandKind} {a : Action}
    (h : Phrase.actionBody kind w rest a) : ActionForm (Numbered.number kind) w a := by
  cases kind with
  | autosave =>
    obtain ⟨rfl, rfl⟩ := h
    exact .autosave
  | checkpoint =>
    obtain ⟨rfl, rfl⟩ := h
    exact .checkpoint
  | toggle =>
    obtain ⟨bar, w₁, rfl, h₁⟩ := Phrase.bar_before_iff.mp h
    obtain ⟨t, cs, w₂, rfl, ht, h₂⟩ := Phrase.number_seq_iff.mp h₁
    obtain ⟨bar', w₃, rfl, v, hv, rfl⟩ := Phrase.bar_before_iff.mp h₂
    exact .toggle ((decodes_member _).iff.mpr ht) (decodes_bit.value_iff.mpr hv)
  | warp =>
    obtain ⟨bar, w₁, rfl, w₂, w₃, x, rfl, hx, h₁⟩ := Phrase.bar_before_iff.mp h
    obtain ⟨bar', w₄, rfl, y, hy, rfl⟩ := Phrase.bar_before_iff.mp h₁
    exact .warp (decodes_float.value_iff.mpr hx)
      (decodes_float.value_iff.mpr hy)
  | startTimer =>
    obtain ⟨bar, w₁, rfl, u, hu, rfl⟩ := Phrase.bar_before_iff.mp h
    exact .startTimer (uberForm_iff.mpr hu)
  | stopTimer =>
    obtain ⟨bar, w₁, rfl, u, hu, rfl⟩ := Phrase.bar_before_iff.mp h
    exact .stopTimer (uberForm_iff.mpr hu)
  | setHealth =>
    obtain ⟨bar, w₁, rfl, v, hv, rfl⟩ := Phrase.bar_before_iff.mp h
    exact .setHealth (decodes_natural.value_iff.mpr hv)
  | setEnergy =>
    obtain ⟨bar, w₁, rfl, v, hv, rfl⟩ := Phrase.bar_before_iff.mp h
    exact .setEnergy (decodes_natural.value_iff.mpr hv)
  | setSpiritLight =>
    obtain ⟨bar, w₁, rfl, v, hv, rfl⟩ := Phrase.bar_before_iff.mp h
    exact .setSpiritLight (decodes_natural.value_iff.mpr hv)
  | equip =>
    obtain ⟨bar, w₁, rfl, h₁⟩ := Phrase.bar_before_iff.mp h
    obtain ⟨s, cs, w₂, rfl, hs, h₂⟩ := Phrase.number_seq_iff.mp h₁
    obtain ⟨bar', w₃, rfl, v, hv, rfl⟩ := Phrase.bar_before_iff.mp h₂
    exact .equip ((decodes_member _).iff.mpr hs) ((decodes_member _).value_iff.mpr hv)

theorem actionForm_iff {n : Nat} {a : Action} :
    ActionForm n w a ↔
      ∃ kind : CommandKind, Numbered.number kind = n ∧ Phrase.actionBody kind w rest a :=
  ⟨fun h => h.exists_kind, fun ⟨_, hkind, h⟩ => hkind ▸ .of_actionBody h⟩

/-- The kind of a command item is a number, and the form belongs to that number. -/
theorem Phrase.action_iff {a : Action} :
    Phrase.action w rest a ↔
      ∃ cs n v, w = ⟨.number, cs⟩ :: v ∧ IsNatural cs n ∧ ActionForm n v a := by
  constructor
  · intro h
    obtain ⟨kind, cs, v, rfl, hk, hb⟩ := Phrase.number_seq_iff.mp h
    exact ⟨cs, _, v, rfl, (decodes_member _).iff.mpr hk, actionForm_iff.mpr ⟨kind, rfl, hb⟩⟩
  · rintro ⟨cs, n, v, rfl, hk, ha⟩
    obtain ⟨kind, rfl, hb⟩ := actionForm_iff.mp ha
    exact Phrase.number_seq_iff.mpr ⟨kind, cs, v, rfl, (decodes_member _).iff.mp hk, hb⟩

theorem Phrase.water_iff {remove : Bool} :
    Phrase.water w rest remove ↔ ∃ cs, w = [⟨.number, withSign remove cs⟩] ∧ IsNatural cs 0 := by
  constructor
  · rintro ⟨cs, rfl, h0, rfl⟩
    exact ⟨_, by rw [withSign_splitMinus], decodes_natural.iff.mpr h0⟩
  · rintro ⟨cs, rfl, h0⟩
    have hsplit := splitMinus_withSign remove (head_ne_minus_of_isDigits h0.isDigits)
    exact ⟨_, rfl, by rw [hsplit]; exact decodes_natural.iff.mp h0, by rw [hsplit]⟩

theorem Phrase.text_iff {s : String} :
    Phrase.text w rest s ↔
      (∀ l ∈ w, l.type ≠ .newline ∧ l.type ≠ .comment) ∧
        (∀ l ∈ rest.head?, l.type = .newline ∨ l.type = .comment) ∧
        Text.trim (charsOf w) ≠ [] ∧ String.ofList (Text.trim (charsOf w)) = s := by
  simp [Phrase.text, Grammar.isTextual, imp_iff_not_or]

theorem removable_natural_iff (hlexed : Lexed (w ++ rest)) {v : Value Nat} {remove : Bool} :
    RemovableForm IsNatural w v remove ↔
      Phrase.removableField Decoder.unsigned w rest (v, remove) :=
  decodes_natural.removable_iff (fun _ _ h => h.isDigits) hlexed

theorem removable_member_iff {α : Type} [Numbered α] (hlexed : Lexed (w ++ rest)) {v : Value α}
    {remove : Bool} :
    RemovableForm IsMember w v remove ↔
      Phrase.removableField (Decoder.member α) w rest (v, remove) :=
  (decodes_member α).removable_iff (fun _ _ h => IsNatural.isDigits h) hlexed

theorem FieldsForm.exists_kind (hlexed : Lexed (w ++ rest)) {n : Nat} {i : Item}
    (h : FieldsForm rest n w i) :
    ∃ kind : ItemKind, Numbered.number kind = n ∧ Phrase.itemBody kind w rest i := by
  cases h with
  | spiritLight h => exact ⟨.spiritLight, rfl, _, (removable_natural_iff hlexed).mp h, rfl⟩
  | resource h => exact ⟨.resource, rfl, _, (decodes_member _).value_iff.mp h, rfl⟩
  | skill h => exact ⟨.skill, rfl, _, (removable_member_iff hlexed).mp h, rfl⟩
  | shard h => exact ⟨.shard, rfl, _, (removable_member_iff hlexed).mp h, rfl⟩
  | command hk ha => exact ⟨.command, rfl, _, Phrase.action_iff.mpr ⟨_, _, _, rfl, hk, ha⟩, rfl⟩
  | teleporter h => exact ⟨.teleporter, rfl, _, (removable_member_iff hlexed).mp h, rfl⟩
  | message hw hrest hne => exact ⟨.message, rfl, _, Phrase.text_iff.mpr ⟨hw, hrest, hne, rfl⟩, rfl⟩
  | uberState hu ht hs =>
    obtain ⟨type, rfl, hs⟩ := settingForm_iff.mp hs
    exact ⟨.uberState, rfl, _, _, _, rfl, uberForm_iff.mp hu, Phrase.bar_before_iff.mpr
      ⟨_, _, rfl, [_], _, type, rfl, ⟨_, rfl, ht⟩, Phrase.bar_before_iff.mpr
        ⟨_, _, rfl, _, hs, rfl⟩⟩⟩
  | water remove h => exact ⟨.water, rfl, _, Phrase.water_iff.mpr ⟨_, rfl, h⟩, rfl⟩
  | bonusItem h => exact ⟨.bonusItem, rfl, _, (removable_member_iff hlexed).mp h, rfl⟩
  | bonusUpgrade h => exact ⟨.bonusUpgrade, rfl, _, (removable_member_iff hlexed).mp h, rfl⟩
  | relic h => exact ⟨.relic, rfl, _, (decodes_member _).value_iff.mp h, rfl⟩
  | sysMessage h => exact ⟨.sysMessage, rfl, _, ⟨_, rfl, (decodes_member _).iff.mp h⟩, rfl⟩

theorem FieldsForm.of_itemBody (hlexed : Lexed (w ++ rest)) {kind : ItemKind} {i : Item}
    (h : Phrase.itemBody kind w rest i) : FieldsForm rest (Numbered.number kind) w i := by
  cases kind with
  | spiritLight =>
    obtain ⟨⟨v, remove⟩, hv, rfl⟩ := h
    exact .spiritLight ((removable_natural_iff hlexed).mpr hv)
  | resource =>
    obtain ⟨v, hv, rfl⟩ := h
    exact .resource ((decodes_member _).value_iff.mpr hv)
  | skill =>
    obtain ⟨⟨v, remove⟩, hv, rfl⟩ := h
    exact .skill ((removable_member_iff hlexed).mpr hv)
  | shard =>
    obtain ⟨⟨v, remove⟩, hv, rfl⟩ := h
    exact .shard ((removable_member_iff hlexed).mpr hv)
  | command =>
    obtain ⟨a, ha, rfl⟩ := h
    obtain ⟨cs, n, v, rfl, hk, ha⟩ := Phrase.action_iff.mp ha
    exact .command hk ha
  | teleporter =>
    obtain ⟨⟨v, remove⟩, hv, rfl⟩ := h
    exact .teleporter ((removable_member_iff hlexed).mpr hv)
  | message =>
    obtain ⟨s, hs, rfl⟩ := h
    obtain ⟨hw, hrest, hne, rfl⟩ := Phrase.text_iff.mp hs
    exact .message hw hrest hne
  | uberState =>
    obtain ⟨u, w₁, id, rfl, hu, h₁⟩ := h
    obtain ⟨bar, w₂, rfl, w₃, w₄, type, rfl, ⟨cs, rfl, ht⟩, h₂⟩ := Phrase.bar_before_iff.mp h₁
    obtain ⟨bar', w₅, rfl, s, hs, rfl⟩ := Phrase.bar_before_iff.mp h₂
    exact .uberState (uberForm_iff.mpr hu) ht (settingForm_iff.mpr ⟨type, rfl, hs⟩)
  | water =>
    obtain ⟨remove, hw, rfl⟩ := h
    obtain ⟨cs, rfl, h0⟩ := Phrase.water_iff.mp hw
    exact .water remove h0
  | bonusItem =>
    obtain ⟨⟨v, remove⟩, hv, rfl⟩ := h
    exact .bonusItem ((removable_member_iff hlexed).mpr hv)
  | bonusUpgrade =>
    obtain ⟨⟨v, remove⟩, hv, rfl⟩ := h
    exact .bonusUpgrade ((removable_member_iff hlexed).mpr hv)
  | relic =>
    obtain ⟨v, hv, rfl⟩ := h
    exact .relic ((decodes_member _).value_iff.mpr hv)
  | sysMessage =>
    obtain ⟨k, ⟨cs, rfl, hk⟩, rfl⟩ := h
    exact .sysMessage ((decodes_member _).iff.mpr hk)

/-- In front of what follows it in a text, the phrase of items has the form of an item. -/
theorem itemForm_iff (hlexed : Lexed (w ++ rest)) {i : Item} :
    ItemForm w rest i ↔ Phrase.item w rest i := by
  constructor
  · rintro ⟨hk, hf⟩
    obtain ⟨kind, rfl, hb⟩ := FieldsForm.exists_kind hlexed.tail.tail hf
    exact Phrase.number_seq_iff.mpr ⟨kind, _, _, rfl, (decodes_member _).iff.mp hk,
      Phrase.bar_before_iff.mpr ⟨_, _, rfl, hb⟩⟩
  · intro h
    obtain ⟨kind, cs, w₁, rfl, hk, h₁⟩ := Phrase.number_seq_iff.mp h
    obtain ⟨bar, w₂, rfl, hb⟩ := Phrase.bar_before_iff.mp h₁
    exact .mk ((decodes_member _).iff.mpr hk) (.of_itemBody hlexed.tail.tail hb)

end

/-! ### Where items are read -/

/-- The rule takes the tokens of a form and yields what the form says. -/
theorem item_ok_iff (text : List Char) (n : Nat) (c' : Cursor) (a : Item) :
    (∃ i, Grammar.item (.atOffset text n) = .ok i c' ∧ i.span = ⟨n, c'.pos⟩ ∧
        i.val.relocate forget = a) ↔
      ∃ w, (Cursor.atOffset text n).Passes w c' ∧ ItemForm w c'.ahead a := by
  have hlexed : Lexed (Cursor.atOffset text n).ahead := lexed_lexemes _
  have hreads := Grammar.item_reads _ hlexed c' a
  constructor
  · rintro ⟨i, hi, -, ha⟩
    obtain ⟨w, hw, hp⟩ := hreads.mp ⟨i, hi, ha⟩
    exact ⟨w, hw, (itemForm_iff (hw.ahead ▸ hlexed)).mpr hp⟩
  · rintro ⟨w, hw, hp⟩
    obtain ⟨i, hi, ha⟩ := hreads.mpr ⟨w, hw, (itemForm_iff (hw.ahead ▸ hlexed)).mp hp⟩
    exact ⟨i, hi, (Rule.located_ok hi).2, ha⟩

/-- **An item is read exactly where the form of an item lies ahead.**  At any offset of a text the
rule succeeds if the tokens from there on begin with such a form, and fails otherwise; it takes
the tokens of the form, no more and no less, and yields what the form says. -/
theorem item_iff_form (text : List Char) (n : Nat) :
    ((∃ i c', Grammar.item (.atOffset text n) = .ok i c') ↔
        ∃ w rest a, lexemes (text.drop n) = w ++ rest ∧ ItemForm w rest a) ∧
      ∀ c' a,
        (∃ i, Grammar.item (.atOffset text n) = .ok i c' ∧ i.span = ⟨n, c'.pos⟩ ∧
            i.val.relocate forget = a) ↔
          ∃ w, (Cursor.atOffset text n).Passes w c' ∧ ItemForm w c'.ahead a := by
  refine ⟨⟨?_, ?_⟩, item_ok_iff text n⟩
  · rintro ⟨i, c', hi⟩
    obtain ⟨w, hw, hp⟩ := (item_ok_iff text n c' _).mp ⟨i, hi, (Rule.located_ok hi).2, rfl⟩
    exact ⟨w, c'.ahead, _, hw.ahead, hp⟩
  · rintro ⟨w, rest, a, hahead, hp⟩
    obtain ⟨c', hw, rfl⟩ := Cursor.exists_passes (c := .atOffset text n) hahead
    obtain ⟨i, hi, -⟩ := (item_ok_iff text n c' a).mpr ⟨w, hw, hp⟩
    exact ⟨i, c', hi⟩

end SeedHeader
