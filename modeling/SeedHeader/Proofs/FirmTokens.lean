import SeedHeader.Proofs.LexicalGrammar
import SeedHeader.Proofs.ItemForms
import SeedHeader.Proofs.Writing

/-!
# Proofs — Tokens that stay as they are

Firm tokens are those that a blank ends: numbers, words, signs and marks.  In front of a text that
starts with a character that makes neither a number nor a word longer, firm tokens stay the tokens
they are (`lexemes_append_of_firm`).

Apart from messages, all tokens of an item are firm, and what stands behind an item is no matter
(`ItemForm.firm`, `ItemForm.anywhere`).
-/

namespace SeedHeader

open Text Lexeme Script

/-! ### Firm tokens -/

/-- Tokens of this type end where a blank follows, and have no blank in them. -/
def IsFirm : TokenType → Prop
  | .number | .identifier | .minus | .separator | .dollar | .openParen | .closeParen => True
  | _ => False

/-- The longest of a class stays the longest if the text goes on behind its end with a character
that no member of the class has after its first. -/
theorem Longest.append {P : List Char → Prop} {chars after k : List Char}
    (h : Longest P chars after) (hne : chars ≠ [])
    (hk : ∀ c ∈ k.head?, ∀ front back, front ≠ [] → ¬ P (front ++ c :: back)) :
    Longest P chars (after ++ k) := by
  refine ⟨h.1, fun more rest hsplit hmore hP => ?_⟩
  rcases List.append_eq_append_iff.mp hsplit with ⟨x, rfl, hx⟩ | ⟨x, rfl, -⟩
  · cases x with
    | nil =>
      rw [List.append_nil] at hmore hP
      exact h.2 after [] (List.append_nil after).symm hmore hP
    | cons c x =>
      rw [← List.append_assoc] at hP
      exact hk c (by rw [hx]; rfl) _ _ (by simp [hne]) hP
  · exact h.2 more x rfl hmore hP

theorem not_isNumeral_of_clear {c : Char} (hc : clear c) {front back : List Char}
    (hne : front ≠ []) : ¬ IsNumeral isDigit (front ++ c :: back) := by
  intro h
  obtain ⟨e, front, rfl⟩ := List.exists_cons_of_ne_nil hne
  obtain ⟨ds, part, he, hds, hpart, -⟩ := h.of_cons
  have hmem : c ∈ ds ++ part := by simp [← he]
  have hchar : isDigit c ∨ c = '.' := by
    rcases List.mem_append.mp hmem with hmem | hmem
    · exact .inl (hds c hmem)
    rcases hpart with rfl | ⟨es, rfl, -, hes⟩
    · cases hmem
    rcases List.mem_cons.mp hmem with rfl | hmem
    · exact .inr rfl
    · exact .inl (hes c hmem)
  rcases hchar with hd | rfl
  · simp [clear, hd] at hc
  · cases hc

theorem not_isWord_of_clear {c : Char} (hc : clear c) {front back : List Char}
    (hne : front ≠ []) : ¬ IsWord (front ++ c :: back) := by
  rintro ⟨d, ds, he, -, hds⟩
  obtain ⟨e, front, rfl⟩ := List.exists_cons_of_ne_nil hne
  obtain ⟨-, rfl⟩ := List.cons.inj he
  have := hds c (by simp)
  simp [clear, this] at hc

/-- A firm token stays as it is where the text goes on behind its end. -/
theorem Lexical.append_of_firm {t : TokenType} {b : Bool} {kind : Option CommentKind}
    {chars after k : List Char} (h : Lexical t b kind chars after) (ht : IsFirm t)
    (hk : Meets clear k) : Lexical t b kind chars (after ++ k) := by
  cases h with
  | number h =>
    obtain ⟨sign, ds, part, he, -, ⟨hne, -⟩, -⟩ := h.1
    exact .number (h.append (by simp [he, hne]) fun c hc _ _ => not_isNumeral_of_clear (hk c hc))
  | identifier h =>
    obtain ⟨d, ds, he, -⟩ := h.1
    exact .identifier (h.append (by simp [he]) fun c hc _ _ => not_isWord_of_clear (hk c hc))
  | minus h =>
    refine .minus fun c hc => ?_
    cases after with
    | nil =>
      have := hk c hc
      simp only [clear, Bool.and_eq_true, Bool.not_eq_true'] at this
      exact this.1.1
    | cons d after => exact h c hc
  | mark h => exact .mark h
  | _ => cases ht

/-- Firm tokens stay as they are. -/
theorem lexemes_append_of_firm {w v : List Lexeme} (h : Lexed (w ++ v))
    (hw : ∀ l ∈ w, IsFirm l.type) {k : List Char} (hk : Meets clear k) :
    lexemes (charsOf w ++ (charsOf v ++ k)) = w ++ lexemes (charsOf v ++ k) := by
  induction w with
  | nil => rfl
  | cons l w ih =>
    rw [List.cons_append] at h
    obtain ⟨c, cs, hl, hrest, -⟩ := Lexed.cons_iff.mp h
    have hlexical := lexical_cut c cs
    rw [← hl, ← hrest, charsOf_append] at hlexical
    have hcut := (hlexical.append_of_firm (hw l List.mem_cons_self) hk).lexemes_eq
    rw [List.append_assoc] at hcut
    have hrest := ih h.tail fun m hm => hw m (List.mem_cons_of_mem l hm)
    rw [charsOf_cons, List.append_assoc, hcut, hrest]
    rfl

/-! ### The tokens of an item -/

section
variable {α : Type} {w : List Lexeme} {means : List Char → α → Prop}

theorem ParameterForm.firm {name : String} (h : ParameterForm w name) :
    ∀ l ∈ w, IsFirm l.type := by
  cases h
  simp [IsFirm]

theorem ValueForm.firm {t : TokenType} {v : Value α} (h : ValueForm t means w v) (ht : IsFirm t) :
    ∀ l ∈ w, IsFirm l.type := by
  cases h with
  | literal => simpa using ht
  | parameter h => exact h.firm

theorem RemovableForm.firm {v : Value α} {remove : Bool} (h : RemovableForm means w v remove) :
    ∀ l ∈ w, IsFirm l.type := by
  cases h with
  | literal => simp [IsFirm]
  | parameter h => exact h.firm
  | removedParameter h => simpa [IsFirm] using h.firm

theorem UberForm.firm {u : UberIdentifier} (h : UberForm w u) : ∀ l ∈ w, IsFirm l.type := by
  cases h
  simp [IsFirm]

theorem SettingForm.firm {type : String} {s : Setting} (h : SettingForm type w s) :
    ∀ l ∈ w, IsFirm l.type := by
  cases h with
  | bool h | teleporter h | byte h | int h | float h => exact h.firm trivial

end

theorem ActionForm.firm {kind : Nat} {w : List Lexeme} {a : Action} (h : ActionForm kind w a) :
    ∀ l ∈ w, IsFirm l.type := by
  cases h with
  | autosave | checkpoint => simp
  | toggle ht ho => simpa [IsFirm] using ho.firm trivial
  | warp hx hy =>
    simp only [List.forall_mem_cons, List.forall_mem_append]
    exact ⟨trivial, hx.firm trivial, trivial, hy.firm trivial⟩
  | startTimer h | stopTimer h => simpa [IsFirm] using h.firm
  | setHealth h | setEnergy h | setSpiritLight h => simpa [IsFirm] using h.firm trivial
  | equip hs hw => simpa [IsFirm] using hw.firm trivial

theorem FieldsForm.firm {kind : Nat} {w rest : List Lexeme} {i : Item}
    (h : FieldsForm rest kind w i) (hi : ¬ i.IsMessage) : ∀ l ∈ w, IsFirm l.type := by
  cases h with
  | spiritLight h | skill h | shard h | teleporter h | bonusItem h | bonusUpgrade h => exact h.firm
  | resource h | relic h => exact h.firm trivial
  | command hk ha => exact List.forall_mem_cons.mpr ⟨trivial, ha.firm⟩
  | message => exact absurd trivial hi
  | uberState hu ht hs =>
    simp only [List.forall_mem_cons, List.forall_mem_append]
    exact ⟨hu.firm, trivial, trivial, trivial, hs.firm⟩
  | water | sysMessage => simp [IsFirm]

/-- The tokens of an item that is no message are firm. -/
theorem ItemForm.firm {w rest : List Lexeme} {i : Item} (h : ItemForm w rest i)
    (hi : ¬ i.IsMessage) : ∀ l ∈ w, IsFirm l.type := by
  obtain ⟨hk, hf⟩ := h
  exact List.forall_mem_cons.mpr ⟨trivial, List.forall_mem_cons.mpr ⟨trivial, hf.firm hi⟩⟩

/-- An item that is no message says the same in front of anything. -/
theorem ItemForm.anywhere {w rest : List Lexeme} {i : Item} (h : ItemForm w rest i)
    (hi : ¬ i.IsMessage) (rest' : List Lexeme) : ItemForm w rest' i := by
  obtain ⟨hkind, hf⟩ := h
  refine .mk hkind ?_
  cases hf with
  | spiritLight h => exact .spiritLight h
  | resource h => exact .resource h
  | skill h => exact .skill h
  | shard h => exact .shard h
  | command hk ha => exact .command hk ha
  | teleporter h => exact .teleporter h
  | message => exact absurd trivial hi
  | uberState hu ht hs => exact .uberState hu ht hs
  | water remove h => exact .water remove h
  | bonusItem h => exact .bonusItem h
  | bonusUpgrade h => exact .bonusUpgrade h
  | relic h => exact .relic h
  | sysMessage h => exact .sysMessage h

end SeedHeader
