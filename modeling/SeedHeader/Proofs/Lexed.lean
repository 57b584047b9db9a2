import SeedHeader.Proofs.Shape

/-!
# Proofs — Lists of lexemes that come from a text

A list of lexemes is *lexed* when it is what its own characters are cut into.  The lexemes of a
text are, and so is whatever is left of them after some have been taken (`Lexed.right`).  In such
a list whitespace is not followed by whitespace, and a comment is followed by a newline or by
nothing.
-/

namespace SeedHeader

open Lexeme

theorem Lexeme.extent_of_whitespace {c : Char} {cs : List Char}
    (h : (extent c cs).1 = .whitespace) : (extent c cs).2 = run isPadding cs := by
  have hcases := extent_cases c cs
  generalize extent c cs = e at h hcases
  cases hcases with
  | padding => rfl
  | mark =>
    have := punctuation_mem c
    simp [show punctuation c = .whitespace from h] at this
  | _ => cases h

theorem Lexeme.extent_of_comment {c : Char} {cs : List Char}
    (h : (extent c cs).1 = .comment) : (extent c cs).2 = run (fun d => !isLineEnd d) cs := by
  have hcases := extent_cases c cs
  generalize extent c cs = e at h hcases
  cases hcases with
  | comment => rfl
  | mark =>
    have := punctuation_mem c
    simp [show punctuation c = .comment from h] at this
  | _ => cases h

/-- The lexemes are those of their characters. -/
def Lexed (ls : List Lexeme) : Prop := lexemes (charsOf ls) = ls

theorem lexed_lexemes (text : List Char) : Lexed (lexemes text) := by
  rw [Lexed, charsOf_lexemes]

namespace Lexed

variable {l : Lexeme} {ls ms : List Lexeme}

theorem shaped (h : Lexed ls) (hl : l ∈ ls) : l.Shaped := by
  rw [← h] at hl
  exact shaped_of_mem hl

/-- The first lexeme is cut off, and the others are what is left. -/
theorem cons_iff : Lexed (l :: ls) ↔ ∃ c cs, l = cut c cs ∧ charsOf ls = rest c cs ∧ Lexed ls := by
  constructor
  · intro h
    rw [Lexed, charsOf_cons] at h
    cases hl : l.text with
    | nil => exact absurd hl (shaped_of_mem (by rw [h]; simp)).text_ne_nil
    | cons c cs =>
      rw [hl, List.cons_append, lexemes_cons] at h
      obtain ⟨hcut, hrest⟩ := List.cons.inj h
      have hchars : charsOf ls = rest c (cs ++ charsOf ls) := by
        have := cut_append_rest c (cs ++ charsOf ls)
        rw [hcut, hl, List.cons_append] at this
        exact (List.append_cancel_left (List.cons.inj this).2).symm
      exact ⟨c, cs ++ charsOf ls, hcut.symm, hchars, by rw [Lexed, hchars, hrest]⟩
  · rintro ⟨c, cs, rfl, hrest, h⟩
    rw [Lexed, charsOf_cons, hrest, cut_append_rest, lexemes_cons, ← hrest, h]

theorem tail (h : Lexed (l :: ls)) : Lexed ls := by
  obtain ⟨c, cs, -, -, h⟩ := cons_iff.mp h
  exact h

theorem right (h : Lexed (ls ++ ms)) : Lexed ms := by
  induction ls with
  | nil => exact h
  | cons l ls ih => exact ih h.tail

/-- The characters of a lexeme that satisfy a test are followed by one that does not, if that is
where the lexeme ends. -/
theorem head_not {p : Char → Bool} {m : Lexeme} (h : Lexed (l :: m :: ls))
    (hp : ∀ c cs, l = cut c cs → rest c cs = cs.dropWhile p) : ∃ d ∈ m.text, p d = false := by
  obtain ⟨c, cs, hl, hrest, h'⟩ := cons_iff.mp h
  rw [hp c cs hl, charsOf_cons] at hrest
  cases hm : m.text with
  | nil => exact absurd hm (h'.shaped List.mem_cons_self).text_ne_nil
  | cons d ds =>
    rw [hm, List.cons_append] at hrest
    refine ⟨d, List.mem_cons_self, ?_⟩
    simpa [← hrest] using List.head_dropWhile_not p (l := cs) (by simp [← hrest])

theorem not_whitespace {m : Lexeme} (h : Lexed (l :: m :: ls)) (hl : l.type = .whitespace) :
    m.type ≠ .whitespace := by
  obtain ⟨d, hd, hp⟩ := h.head_not (p := isPadding) fun c cs e => by
    rw [rest, extent_of_whitespace (by rw [e] at hl; exact hl), drop_run]
  intro hm
  have hs := h.shaped (List.mem_cons_of_mem l List.mem_cons_self)
  obtain ⟨t, cs⟩ := m
  cases hm
  rw [hs.padding d hd] at hp
  cases hp

theorem newline_of_comment {m : Lexeme} (h : Lexed (l :: m :: ls)) (hl : l.type = .comment) :
    m.type = .newline := by
  obtain ⟨d, hd, hp⟩ := h.head_not (p := fun d => !isLineEnd d) fun c cs e => by
    rw [rest, extent_of_comment (by rw [e] at hl; exact hl), drop_run]
  by_contra hm
  have hs := h.shaped (List.mem_cons_of_mem l List.mem_cons_self)
  rw [hs.not_lineEnd hm d hd] at hp
  cases hp

end Lexed

end SeedHeader
