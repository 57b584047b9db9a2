import SeedHeader.Proofs.Statements
import SeedHeader.Proofs.FirmTokens

/-!
# Proofs — The sign of removal

Seven kinds of items are given, or taken away where a minus sign stands in front of their field.  In
front of a digit the sign is the first character of the number, and elsewhere it is a token of its
own; which of the two is settled by the character behind it (`lexemes_minus_cons`).  Either way the
field says what it says without the sign, in front of the same tokens (`SignMarks`).  So the sign
and the field are independent of each other (`item_signed_iff`).
-/

namespace SeedHeader

open Lexeme Text Rule

/-! ### Items that can be taken away -/

/-- Whether the item is taken away, if that is a question. -/
def Item.remove? : Item → Option Bool
  | .spiritLight _ r | .skill _ r | .shard _ r | .teleporter _ r | .water r | .bonusItem _ r
  | .bonusUpgrade _ r => some r
  | .resource _ | .command _ | .message _ | .uberState _ _ | .relic _ | .sysMessage _ => none

/-- The same item, taken away if it can be. -/
def Item.removed : Item → Item
  | .spiritLight v _  => .spiritLight v true
  | .skill v _        => .skill v true
  | .shard v _        => .shard v true
  | .teleporter v _   => .teleporter v true
  | .water _          => .water true
  | .bonusItem v _    => .bonusItem v true
  | .bonusUpgrade v _ => .bonusUpgrade v true
  | i                 => i

/-- The kinds of the items that can be taken away. -/
def removableKinds : List ItemKind :=
  [.spiritLight, .skill, .shard, .teleporter, .water, .bonusItem, .bonusUpgrade]

theorem Item.remove?_relocate (f : Span → Span) (i : Item) :
    (i.relocate f).remove? = i.remove? := by
  cases i <;> rfl

/-! ### A minus sign in front of a text -/

theorem Lexeme.digits_cons {d : Char} (h : isDigit d) (cs : List Char) :
    digits (d :: cs) = digits cs + 1 := by
  have hrun : run isDigit (d :: cs) = run isDigit cs + 1 := by
    rw [run, List.takeWhile_cons_of_pos h, List.length_cons, run]
  rw [digits, hrun, List.drop_succ_cons, digits]
  omega

/-- Numbers and minus signs start with a digit or a minus sign. -/
theorem Lexeme.head_of_number_or_minus {c : Char} {cs : List Char}
    (h : (extent c cs).1 = .number ∨ (extent c cs).1 = .minus) : isDigit c ∨ c = '-' := by
  have hcases := extent_cases c cs
  generalize extent c cs = e at h hcases
  cases hcases with
  | digit hd => exact .inl hd
  | negative hc | minus hc => exact .inr hc
  | mark =>
    have hmem := punctuation_mem c
    rcases h with h | h <;> (simp only at h; simp [h] at hmem)
  | _ => simp at h

/-- A minus sign is the first character of the number behind it, or a token of its own where no
number follows. -/
theorem lexemes_minus_cons {f : List Char} (hf : ∀ c ∈ f.head?, c ≠ '-') :
    (∃ ds ls, lexemes f = ⟨.number, ds⟩ :: ls ∧ lexemes ('-' :: f) = ⟨.number, '-' :: ds⟩ :: ls ∧
        ∀ c ∈ ds.head?, c ≠ '-') ∨
      firstType (lexemes f) ≠ .number ∧ firstType (lexemes f) ≠ .minus ∧
        lexemes ('-' :: f) = ⟨.minus, ['-']⟩ :: lexemes f := by
  cases f with
  | nil => exact .inr ⟨nofun, nofun, lexemes_minus nofun⟩
  | cons c cs =>
    have hc : c ≠ '-' := hf c rfl
    by_cases hd : isDigit c
    · have hsign : extent '-' (c :: cs) = (.number, digits cs + 1) := by
        have hnone : isDigit '-' = false := by decide
        simp [extent, isPadding, hnone, hd, digits_cons hd]
      refine .inl ⟨c :: cs.take (digits cs), lexemes (cs.drop (digits cs)), ?_, ?_, hf⟩
      · rw [lexemes_cons, cut, rest, extent_of_digit hd]
      · rw [lexemes_cons, cut, rest, hsign]
        rfl
    · have hother : firstType (lexemes (c :: cs)) ≠ .number ∧
          firstType (lexemes (c :: cs)) ≠ .minus := by
        rw [lexemes_cons]
        exact not_or.mp fun h => (head_of_number_or_minus h).elim hd hc
      refine .inr ⟨hother.1, hother.2, lexemes_minus fun d hd' => ?_⟩
      obtain rfl : c = d := Option.some.inj hd'
      simpa using hd

/-! ### Phrases at the start of a text -/

namespace Phrase

variable {α β : Type} {f text : List Char} {rest : List Lexeme}

/-- The text starts with the phrase, which says `a` in front of `rest`. -/
def Front (P : Phrase α) (text : List Char) (rest : List Lexeme) (a : α) : Prop :=
  ∃ w, lexemes text = w ++ rest ∧ P w rest a

theorem front_map_iff {P : Phrase α} {g : α → β} {b : β} :
    (P.map g).Front text rest b ↔ ∃ a, P.Front text rest a ∧ g a = b := by
  constructor
  · rintro ⟨w, hw, a, ha, rfl⟩
    exact ⟨a, ⟨w, hw, ha⟩, rfl⟩
  · rintro ⟨a, ⟨w, hw, ha⟩, rfl⟩
    exact ⟨w, hw, a, ha, rfl⟩

/-- With a minus sign in front of it the text says the same, in front of the same, but with the flag
set; and the flag is not set without the sign. -/
def SignMarks (P : Phrase (β × Bool)) (f : List Char) : Prop :=
  ∀ rest b remove,
    (P.Front f rest (b, remove) ↔ remove = false ∧ P.Front ('-' :: f) rest (b, true)) ∧
      (P.Front ('-' :: f) rest (b, remove) → remove = true)

/-- A number at the start of a text says what its characters say. -/
theorem front_removable_iff {decode : Decoder α} {cs : List Char} {ls : List Lexeme}
    (h : lexemes text = ⟨.number, cs⟩ :: ls) {a : α} {remove : Bool} :
    (removable decode).Front text rest (a, remove) ↔
      ls = rest ∧ decode (Decoder.splitMinus cs).2 = .ok a ∧
        (Decoder.splitMinus cs).1 = remove := by
  constructor
  · rintro ⟨w, hw, ds, rfl, hd, hr⟩
    obtain ⟨hl, rfl⟩ := List.cons.inj (h.symm.trans hw)
    obtain rfl : cs = ds := congrArg Lexeme.text hl
    exact ⟨rfl, hd, hr⟩
  · rintro ⟨rfl, hd, hr⟩
    exact ⟨[⟨.number, cs⟩], h, cs, rfl, hd, hr⟩

theorem front_removable_type {decode : Decoder α} {a : α × Bool}
    (h : (removable decode).Front text rest a) : firstType (lexemes text) = .number := by
  obtain ⟨w, hw, cs, rfl, -⟩ := h
  rw [hw]
  rfl

/-- A minus sign marks a number and leaves its value as it is. -/
theorem removable_signMarks (decode : Decoder α) (hf : ∀ c ∈ f.head?, c ≠ '-') :
    (removable decode).SignMarks f := by
  intro rest a remove
  rcases lexemes_minus_cons hf with ⟨ds, ls, hplain, hsigned, hds⟩ | ⟨hn, -, hsigned⟩
  · -- the sign is split off before the number is decoded
    have hsplit : Decoder.splitMinus ('-' :: ds) = (true, ds) := rfl
    rw [front_removable_iff hplain, front_removable_iff hsigned, front_removable_iff hsigned,
      splitMinus_of_ne hds, hsplit]
    refine ⟨⟨fun ⟨hr, hd, he⟩ => ⟨he.symm, hr, hd, rfl⟩, fun ⟨he, hr, hd, _⟩ => ⟨hr, hd, he.symm⟩⟩,
      fun h => h.2.2.symm⟩
  · have hplain : ∀ r, ¬ (removable decode).Front f rest (a, r) := fun r h =>
      hn (front_removable_type h)
    have hminus : ∀ r, ¬ (removable decode).Front ('-' :: f) rest (a, r) := fun r h => by
      have htype := front_removable_type h
      rw [hsigned] at htype
      cases htype
    exact ⟨⟨fun h => absurd h (hplain _), fun h => absurd h.2 (hminus _)⟩,
      fun h => absurd h (hminus _)⟩

/-- Where a number stands, a removable field is that number. -/
theorem front_removableField_of_number {decode : Decoder α} (h : firstType (lexemes text) = .number)
    {v : Value α} {remove : Bool} :
    (removableField decode).Front text rest (v, remove) ↔
      ∃ a, (removable decode).Front text rest (a, remove) ∧ .literal a = v := by
  constructor
  · rintro ⟨w, hw, ⟨a, ha, he⟩ | ⟨u, u', a, rfl, rfl, -⟩ | ⟨a, ha, -⟩⟩
    · obtain ⟨rfl, rfl⟩ := Prod.mk.inj he
      exact ⟨a.1, ⟨w, hw, ha⟩, rfl⟩
    · rw [hw] at h
      cases h
    · rw [hw, Grammar.parameter_opens ha] at h
      cases h
  · rintro ⟨a, ⟨w, hw, ha⟩, rfl⟩
    exact ⟨w, hw, .inl ⟨(a, remove), ha, rfl⟩⟩

/-- Where neither a number nor a minus sign stands, a removable field is a parameter. -/
theorem front_removableField_of_ne {decode : Decoder α} (hn : firstType (lexemes text) ≠ .number)
    (hm : firstType (lexemes text) ≠ .minus) {v : Value α} {remove : Bool} :
    (removableField decode).Front text rest (v, remove) ↔
      remove = false ∧ (parameter : Phrase (Value α)).Front text rest v := by
  constructor
  · rintro ⟨w, hw, ⟨a, ⟨cs, rfl, -⟩, -⟩ | ⟨u, u', a, rfl, rfl, -⟩ | ⟨a, ha, he⟩⟩
    · rw [hw] at hn
      exact absurd rfl hn
    · rw [hw] at hm
      exact absurd rfl hm
    · obtain ⟨rfl, rfl⟩ := Prod.mk.inj he
      exact ⟨rfl, w, hw, ha⟩
  · rintro ⟨rfl, w, hw, ha⟩
    exact ⟨w, hw, .inr (.inr ⟨v, ha, rfl⟩)⟩

/-- Behind a minus sign that is a token of its own, no number stands. -/
theorem front_removableField_of_minus {decode : Decoder α} (hn : firstType (lexemes f) ≠ .number)
    (h : lexemes ('-' :: f) = ⟨.minus, ['-']⟩ :: lexemes f) {v : Value α} {remove : Bool} :
    (removableField decode).Front ('-' :: f) rest (v, remove) ↔
      remove = true ∧ (parameter : Phrase (Value α)).Front f rest v := by
  constructor
  · rintro ⟨w, hw, ⟨a, ⟨cs, rfl, -⟩, -⟩ | ⟨u, u', a, rfl, rfl, b, hb, he⟩ | ⟨a, ha, -⟩⟩
    · rw [h] at hw
      cases hw
    · obtain ⟨rfl, rfl⟩ := Prod.mk.inj he
      have hw : lexemes f = u' ++ rest := (List.cons.inj (h.symm.trans hw)).2
      rcases hb with ⟨a, ⟨cs, rfl, -⟩, -⟩ | hb
      · rw [hw] at hn
        exact absurd rfl hn
      · exact ⟨rfl, u', hw, hb⟩
    · have htype := congrArg firstType (h.symm.trans hw)
      rw [Grammar.parameter_opens ha] at htype
      cases htype
  · rintro ⟨rfl, w, hw, ha⟩
    refine ⟨⟨.minus, ['-']⟩ :: w, by rw [h, hw]; rfl, .inr (.inl ?_)⟩
    exact ⟨[⟨.minus, ['-']⟩], w, ['-'], rfl, rfl, v, .inr ha, rfl⟩

/-- A minus sign marks a removable field and leaves its value as it is. -/
theorem removableField_signMarks (decode : Decoder α) (hf : ∀ c ∈ f.head?, c ≠ '-') :
    (removableField decode).SignMarks f := by
  intro rest v remove
  rcases lexemes_minus_cons hf with ⟨ds, ls, hplain, hsigned, -⟩ | ⟨hn, hm, hsigned⟩
  · have hmarks := removable_signMarks decode hf rest
    simp only [front_removableField_of_number (congrArg firstType hplain),
      front_removableField_of_number (congrArg firstType hsigned)]
    constructor
    · constructor
      · rintro ⟨a, ha, rfl⟩
        obtain ⟨rfl, hsign⟩ := (hmarks a remove).1.mp ha
        exact ⟨rfl, a, hsign, rfl⟩
      · rintro ⟨rfl, a, ha, rfl⟩
        exact ⟨a, (hmarks a false).1.mpr ⟨rfl, ha⟩, rfl⟩
    · rintro ⟨a, ha, -⟩
      exact (hmarks a remove).2 ha
  · rw [front_removableField_of_ne hn hm, front_removableField_of_minus hn hsigned,
      front_removableField_of_minus hn hsigned]
    exact ⟨⟨fun ⟨hr, h⟩ => ⟨hr, rfl, h⟩, fun ⟨hr, _, h⟩ => ⟨hr, h⟩⟩, fun h => h.1⟩

/-- A minus sign marks an item, and changes nothing else about it. -/
def MarksItems (P : Phrase Item) (f : List Char) : Prop :=
  ∀ rest,
    (∀ i, P.Front f rest i → i.remove? = some false ∧ P.Front ('-' :: f) rest i.removed) ∧
      ∀ j, P.Front ('-' :: f) rest j →
        j.remove? = some true ∧ ∃ i, P.Front f rest i ∧ i.removed = j

/-- Items that are made of a field and its mark are marked as the field is. -/
theorem SignMarks.items {P : Phrase (β × Bool)} (h : P.SignMarks f) (make : β → Bool → Item)
    (hflag : ∀ b remove, (make b remove).remove? = some remove)
    (hmake : ∀ b remove, (make b remove).removed = make b true) :
    (P.map fun v => make v.1 v.2).MarksItems f := by
  intro rest
  simp only [front_map_iff]
  constructor
  · rintro _ ⟨⟨b, remove⟩, hb, rfl⟩
    obtain ⟨rfl, hsign⟩ := (h rest b remove).1.mp hb
    exact ⟨hflag b false, (b, true), hsign, (hmake b false).symm⟩
  · rintro _ ⟨⟨b, remove⟩, hb, rfl⟩
    obtain rfl := (h rest b remove).2 hb
    exact ⟨hflag b true, _, ⟨(b, false), (h rest b false).1.mpr ⟨rfl, hb⟩, rfl⟩, hmake b false⟩

/-- Water has a mark and no other field. -/
theorem water_marksItems (hf : ∀ c ∈ f.head?, c ≠ '-') : (water.map Item.water).MarksItems f := by
  have hwater : ∀ text rest i, (water.map Item.water).Front text rest i ↔
      ∃ remove, (removable Decoder.unsigned).Front text rest (0, remove) ∧ .water remove = i := by
    intro text rest i
    rw [front_map_iff]
    rfl
  have hmarks := fun rest => removable_signMarks Decoder.unsigned hf rest 0
  intro rest
  simp only [hwater]
  constructor
  · rintro _ ⟨remove, hr, rfl⟩
    obtain ⟨rfl, hsign⟩ := (hmarks rest remove).1.mp hr
    exact ⟨rfl, true, hsign, rfl⟩
  · rintro _ ⟨remove, hr, rfl⟩
    obtain rfl := (hmarks rest remove).2 hr
    exact ⟨rfl, _, ⟨false, (hmarks rest false).1.mpr ⟨rfl, hr⟩, rfl⟩, rfl⟩

/-- A minus sign marks every item that can be taken away. -/
theorem itemBody_marksItems {kind : ItemKind} (hk : kind ∈ removableKinds)
    (hf : ∀ c ∈ f.head?, c ≠ '-') : (itemBody kind).MarksItems f := by
  have fields {α : Type} (decode : Decoder α) (make : Field α → Bool → Item) :=
    (removableField_signMarks decode hf).items fun v remove => make (bare v) remove
  cases kind with
  | spiritLight => exact fields _ .spiritLight (fun _ _ => rfl) fun _ _ => rfl
  | skill => exact fields _ .skill (fun _ _ => rfl) fun _ _ => rfl
  | shard => exact fields _ .shard (fun _ _ => rfl) fun _ _ => rfl
  | teleporter => exact fields _ .teleporter (fun _ _ => rfl) fun _ _ => rfl
  | bonusItem => exact fields _ .bonusItem (fun _ _ => rfl) fun _ _ => rfl
  | bonusUpgrade => exact fields _ .bonusUpgrade (fun _ _ => rfl) fun _ _ => rfl
  | water => exact water_marksItems hf
  | resource | command | message | uberState | relic | sysMessage => exact absurd hk (by decide)

end Phrase

/-! ### Items by number -/

/-- An item that is a whole text: the number of its kind, a bar, and its fields. -/
def itemText (kind : Nat) (fields : List Char) : List Char := Nat.toDigits 10 kind ++ '|' :: fields

theorem lexemes_itemText (kind : Nat) (fields : List Char) :
    lexemes (itemText kind fields) =
      ⟨.number, Nat.toDigits 10 kind⟩ :: ⟨.separator, ['|']⟩ :: lexemes fields := by
  have hbar : lexemes ('|' :: fields) = ⟨.separator, ['|']⟩ :: lexemes fields :=
    lexemes_mark .bar fields
  have hkind : Lexeme.IsNumeral isDigit (Nat.toDigits 10 kind) :=
    isNumeral_toDigits (.inl rfl) kind
  rw [itemText, lexemes_number hkind ?_, hbar]
  rintro c ⟨⟩
  decide

/-- Behind the number of its kind and the bar, an item is its fields. -/
theorem front_itemText_iff (kind : ItemKind) {fields : List Char} {rest : List Lexeme} {i : Item} :
    Phrase.item.Front (itemText kind.number fields) rest i ↔
      (Phrase.itemBody kind).Front fields rest i := by
  have hnumber : Decoder.member ItemKind (Nat.toDigits 10 kind.number) = .ok kind := by
    cases kind <;> rfl
  simp only [Phrase.Front, Phrase.item, lexemes_itemText, Phrase.number_seq_iff,
    Phrase.bar_before_iff]
  constructor
  · rintro ⟨_, hw, k, cs, _, rfl, hk, bar, v, rfl, hv⟩
    simp only [List.cons_append, List.cons.injEq, Lexeme.mk.injEq, true_and] at hw
    obtain ⟨rfl, -, hfields⟩ := hw
    obtain rfl : k = kind := Except.ok.inj (hk.symm.trans hnumber)
    exact ⟨v, hfields, hv⟩
  · rintro ⟨v, hv, hi⟩
    exact ⟨⟨.number, Nat.toDigits 10 kind.number⟩ :: ⟨.separator, ['|']⟩ :: v, by rw [hv]; rfl,
      kind, _, _, rfl, hnumber, _, v, rfl, hi⟩

/-- The rule of items reads the item that a text starts with. -/
theorem item_front_iff {text : List Char} {c : Cursor} {a : Item} :
    (∃ i, Grammar.item (.ofText text) = .ok i c ∧ i.val.relocate forget = a) ↔
      Phrase.item.Front text c.ahead a ∧ c.pos + (charsOf c.ahead).length = text.length := by
  have hlexed : Lexed (Cursor.ofText text).ahead := lexed_lexemes text
  have hlength : ∀ w rest, lexemes text = w ++ rest →
      (charsOf w).length + (charsOf rest).length = text.length := fun w rest hw => by
    rw [← List.length_append, ← charsOf_append, ← hw, charsOf_lexemes]
  constructor
  · rintro ⟨i, hi, rfl⟩
    obtain ⟨w, hw, hp⟩ := Grammar.item_reads.ok hlexed hi
    refine ⟨⟨w, hw.ahead, hp⟩, ?_⟩
    rw [hw.pos_eq, hlength w c.ahead hw.ahead]
  · rintro ⟨⟨w, hw, hp⟩, hpos⟩
    obtain ⟨i, c', hi, he, hpasses, hrest⟩ := Grammar.item_reads.of_phrase hlexed hw hp
    have hc : c' = c := by
      obtain ⟨pos, ahead⟩ := c
      obtain ⟨pos', ahead'⟩ := c'
      obtain rfl : ahead' = ahead := hrest
      have hpos' : pos' = (charsOf w).length := hpasses.pos_eq
      have := hlength w ahead' hw
      have : pos' = pos := by
        simp only at hpos
        omega
      rw [this]
    exact ⟨i, hc ▸ hi, he⟩

theorem length_itemText_minus (kind : Nat) (fields : List Char) :
    (itemText kind ('-' :: fields)).length = (itemText kind fields).length + 1 := by
  simp only [itemText, List.length_append, List.length_cons]
  omega

section
variable {kind : ItemKind} {fields : List Char}

/-- An item that is read is given, and with a minus sign in front of its fields it is read as taken
away. -/
theorem item_signed_of_item (hk : kind ∈ removableKinds) (hf : ∀ c ∈ fields.head?, c ≠ '-')
    {i : Located Item} {c : Cursor}
    (h : Grammar.item (.ofText (itemText kind.number fields)) = .ok i c) :
    i.val.remove? = some false ∧
      ∃ j, Grammar.item (.ofText (itemText kind.number ('-' :: fields))) =
          .ok j ⟨c.pos + 1, c.ahead⟩ ∧
        j.val.relocate forget = (i.val.relocate forget).removed := by
  obtain ⟨hfront, hpos⟩ := item_front_iff.mp ⟨i, h, rfl⟩
  obtain ⟨hflag, hsigned⟩ :=
    (Phrase.itemBody_marksItems hk hf c.ahead).1 _ ((front_itemText_iff kind).mp hfront)
  rw [Item.remove?_relocate] at hflag
  refine ⟨hflag, item_front_iff.mpr ⟨(front_itemText_iff kind).mpr hsigned, ?_⟩⟩
  rw [length_itemText_minus, ← hpos]
  simp only
  omega

/-- An item that is read with a minus sign in front of its fields is taken away, and it is read
without the sign too. -/
theorem item_of_item_signed (hk : kind ∈ removableKinds) (hf : ∀ c ∈ fields.head?, c ≠ '-')
    {j : Located Item} {d : Cursor}
    (h : Grammar.item (.ofText (itemText kind.number ('-' :: fields))) = .ok j d) :
    j.val.remove? = some true ∧
      ∃ i c, Grammar.item (.ofText (itemText kind.number fields)) = .ok i c := by
  obtain ⟨hfront, -⟩ := item_front_iff.mp ⟨j, h, rfl⟩
  obtain ⟨hflag, a, ha, -⟩ :=
    (Phrase.itemBody_marksItems hk hf d.ahead).2 _ ((front_itemText_iff kind).mp hfront)
  rw [Item.remove?_relocate] at hflag
  obtain ⟨w, hw, hp⟩ := (front_itemText_iff kind).mpr ha
  obtain ⟨i, c, hi, -⟩ := Grammar.item_reads.of_phrase (c := .ofText _) (lexed_lexemes _) hw hp
  exact ⟨hflag, i, c, hi⟩

end

/-- **The sign of removal is independent of the field that it marks.**  Let an item of one of the
seven removable kinds have fields that do not start with a minus sign.  It is read exactly if it is
read with a minus sign in front of the fields.  Without the sign the item is given and with it taken
away; apart from that the two are the same, and with the sign one character more is passed. -/
theorem item_signed_iff {kind : Nat} (hk : kind ∈ [0, 2, 3, 5, 9, 10, 11]) {fields : List Char}
    (hf : ∀ c ∈ fields.head?, c ≠ '-') :
    ((∃ i c, Grammar.item (.ofText (itemText kind fields)) = .ok i c) ↔
        ∃ j d, Grammar.item (.ofText (itemText kind ('-' :: fields))) = .ok j d) ∧
      ∀ i c j d, Grammar.item (.ofText (itemText kind fields)) = .ok i c →
        Grammar.item (.ofText (itemText kind ('-' :: fields))) = .ok j d →
          i.val.remove? = some false ∧ j.val.remove? = some true ∧
            j.val.relocate forget = (i.val.relocate forget).removed ∧
            d = ⟨c.pos + 1, c.ahead⟩ := by
  obtain ⟨kind, hkind, rfl⟩ : ∃ k ∈ removableKinds, k.number = kind := by
    simpa [removableKinds, ItemKind.number, eq_comm] using hk
  constructor
  · constructor
    · rintro ⟨i, c, hi⟩
      obtain ⟨-, j, hj, -⟩ := item_signed_of_item hkind hf hi
      exact ⟨j, _, hj⟩
    · rintro ⟨j, d, hj⟩
      exact (item_of_item_signed hkind hf hj).2
  · intro i c j d hi hj
    obtain ⟨hflag, j', hj', he⟩ := item_signed_of_item hkind hf hi
    obtain ⟨rfl, rfl⟩ : j' = j ∧ ⟨c.pos + 1, c.ahead⟩ = d := by
      simpa using hj'.symm.trans hj
    exact ⟨hflag, (item_of_item_signed hkind hf hj).1, he, rfl⟩

/-- A skill that is left to a parameter, given and taken away. -/
theorem item_signed_iff_parameter :
    2 ∈ [0, 2, 3, 5, 9, 10, 11] ∧ (∀ c ∈ "$param(x) ".toList.head?, c ≠ '-') ∧
      ∃ i c j d, Grammar.item (.ofText (itemText 2 "$param(x) ".toList)) = .ok i c ∧
        Grammar.item (.ofText (itemText 2 "-$param(x) ".toList)) = .ok j d ∧
        j.val.relocate forget = (i.val.relocate forget).removed ∧ d = ⟨c.pos + 1, c.ahead⟩ := by
  have hk : 2 ∈ [0, 2, 3, 5, 9, 10, 11] := by decide
  have hf : ∀ c ∈ "$param(x) ".toList.head?, c ≠ '-' := by simp
  have hread := item_signed_iff hk hf
  obtain ⟨j, d, hj⟩ := hread.1.mp ⟨⟨⟨0, 11⟩, .skill ⟨⟨2, 11⟩, .parameter "x"⟩ false⟩,
    ⟨11, [⟨.whitespace, [' ']⟩]⟩, by rfl⟩
  obtain ⟨-, -, he, hd⟩ := hread.2 _ _ j d (by rfl) hj
  exact ⟨hk, hf, _, _, j, d, by rfl, hj, he, hd⟩

end SeedHeader
