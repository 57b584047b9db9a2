import SeedHeader.Proofs.Lexed

/-!
# Proofs — Lexemes and line ends

No lexeme other than a newline reaches beyond the end of its line, so a text that ends with a line
end is cut on its own, whatever follows (`lexemes_append`).
-/

namespace SeedHeader

open Text

namespace Lexeme

/-! ### The extent of a token -/

theorem run_le (p : Char → Bool) (cs : List Char) : run p cs ≤ cs.length :=
  (List.takeWhile_sublist p).length_le

theorem fraction_le (cs : List Char) : fraction cs ≤ cs.length := by
  unfold fraction
  split
  · next d cs =>
    split
    · have := run_le isDigit cs
      simp only [List.length_cons]
      omega
    · exact Nat.zero_le _
  · exact Nat.zero_le _

theorem digits_le (cs : List Char) : digits cs ≤ cs.length := by
  have h₁ := run_le isDigit cs
  have h₂ := fraction_le (cs.drop (run isDigit cs))
  rw [List.length_drop] at h₂
  simp only [digits]
  omega

theorem quotedRest_le (cs : List Char) : quotedRest cs ≤ cs.length := by
  induction cs with
  | nil => simp [quotedRest]
  | cons c cs ih =>
    simp only [quotedRest, List.length_cons]
    split
    · omega
    split <;> omega

/-- A lexeme ends where the text ends at the latest. -/
theorem extent_le (c : Char) (cs : List Char) : (extent c cs).2 ≤ cs.length := by
  have h := extent_cases c cs
  generalize extent c cs = e at h
  cases h with
  | feed | carriage | minus | mark => exact Nat.zero_le _
  | carriageFeed _ h' =>
    obtain ⟨ds, rfl⟩ := List.head?_eq_some_iff.mp h'
    simp
  | padding | comment | word => exact run_le _ cs
  | quote => exact quotedRest_le cs
  | digit | negative => exact digits_le cs

/-! ### Line ends stop every lexeme -/

/-- The text holds a line end. -/
def HasLineEnd (cs : List Char) : Prop := ∃ d ∈ cs, isLineEnd d

variable {cs : List Char}

theorem run_append {p : Char → Bool} (h : HasLineEnd cs) (hp : ∀ d, isLineEnd d → p d = false)
    (k : List Char) : run p (cs ++ k) = run p cs := by
  obtain ⟨d, hd, hl⟩ := h
  rw [run, takeWhile_append_of_stop k ⟨d, hd, hp d hl⟩, run]

theorem fraction_of_ne {x : Char} (h : x ≠ '.') (cs : List Char) : fraction (x :: cs) = 0 := by
  unfold fraction
  split
  · next e => injection e with e; exact absurd e h
  · rfl

theorem fraction_append (h : HasLineEnd cs) (k : List Char) :
    fraction (cs ++ k) = fraction cs := by
  obtain ⟨d, hd, hl⟩ := h
  match cs with
  | [] => cases hd
  | [x] =>
    obtain rfl := List.mem_singleton.mp hd
    have hx : d ≠ '.' := by rintro rfl; exact absurd hl (by decide)
    rw [fraction_of_ne hx, List.singleton_append, fraction_of_ne hx]
  | x :: y :: ys =>
    by_cases hx : x = '.'
    · subst hx
      simp only [List.cons_append, fraction]
      split
      · next hy =>
        have hmem : d ∈ ys := by
          rcases List.mem_cons.mp hd with rfl | hd
          · exact absurd hl (by decide)
          rcases List.mem_cons.mp hd with rfl | hd
          · rw [isDigit_lineEnd hl] at hy; cases hy
          · exact hd
        rw [run_append ⟨d, hmem, hl⟩ fun _ => isDigit_lineEnd]
      · rfl
    · rw [fraction_of_ne hx, List.cons_append, fraction_of_ne hx]

theorem digits_append (h : HasLineEnd cs) (k : List Char) : digits (cs ++ k) = digits cs := by
  have hr := run_append h (fun _ => isDigit_lineEnd) k
  obtain ⟨d, hd, hl⟩ := h
  have hdrop : HasLineEnd (cs.drop (run isDigit cs)) :=
    ⟨d, drop_run isDigit cs ▸ mem_dropWhile_of_stop hd (isDigit_lineEnd hl), hl⟩
  simp only [digits, hr]
  rw [List.drop_append_of_le_length (run_le isDigit cs), fraction_append hdrop]

theorem quotedRest_append (h : HasLineEnd cs) (k : List Char) :
    quotedRest (cs ++ k) = quotedRest cs := by
  obtain ⟨d, hd, hl⟩ := h
  induction cs with
  | nil => cases hd
  | cons c cs ih =>
    simp only [List.cons_append, quotedRest]
    split
    · rfl
    split
    · rfl
    · next hc =>
      rcases List.mem_cons.mp hd with rfl | hd
      · exact absurd hl hc
      · rw [ih hd]

theorem head?_append (h : HasLineEnd cs) (k : List Char) : (cs ++ k).head? = cs.head? := by
  obtain ⟨d, hd, -⟩ := h
  cases cs with
  | nil => cases hd
  | cons c cs => rfl

/-- A lexeme that starts before a line end does not depend on what follows the line end. -/
theorem extent_append (h : HasLineEnd cs) (c : Char) (k : List Char) :
    extent c (cs ++ k) = extent c cs := by
  simp only [extent, head?_append h, digits_append h, quotedRest_append h,
    run_append h (fun _ => isPadding_lineEnd), run_append h (fun _ => isWordRest_lineEnd),
    run_append (p := fun d => !isLineEnd d) h (fun d hd => by simp [hd])]

theorem rest_append {c : Char} (h : HasLineEnd cs) (k : List Char) :
    rest c (cs ++ k) = rest c cs ++ k := by
  rw [rest, extent_append h, List.drop_append_of_le_length (extent_le c cs), rest]

theorem cut_append (h : HasLineEnd cs) (c : Char) (k : List Char) :
    cut c (cs ++ k) = cut c cs := by
  rw [cut, extent_append h, List.take_append_of_le_length (extent_le c cs), cut]

end Lexeme

open Lexeme

/-! ### Line boundaries -/

/-- Between `a` and `b` a line ends: `a` is empty or ends with a line end, and no newline of two
characters lies across the boundary. -/
def LineBoundary (a b : List Char) : Prop :=
  a = [] ∨ a.getLast? = some '\n' ∨ a.getLast? = some '\r' ∧ b.head? ≠ some '\n'

instance (a b : List Char) : Decidable (LineBoundary a b) :=
  inferInstanceAs (Decidable (a = [] ∨ a.getLast? = some '\n' ∨
    a.getLast? = some '\r' ∧ b.head? ≠ some '\n'))

namespace LineBoundary

variable {a b : List Char}

/-- What is left of `a` ends where `a` ends. -/
theorem suffix {s : List Char} (h : LineBoundary a b) (hs : s <:+ a) : LineBoundary s b := by
  cases hnil : s with
  | nil => exact .inl rfl
  | cons d ds =>
    rw [← hnil]
    have hlast : s.getLast? = a.getLast? := by
      obtain ⟨t, rfl⟩ := hs
      rw [List.getLast?_append, hnil, List.getLast?_cons]
      rfl
    rcases h with rfl | h | h
    · rw [List.suffix_nil.mp hs] at hnil; cases hnil
    · exact .inr (.inl (hlast.trans h))
    · exact .inr (.inr ⟨hlast.trans h.1, h.2⟩)

/-- The last character is a line end. -/
theorem exists_lineEnd (h : LineBoundary a b) (hne : a ≠ []) :
    ∃ s d, a = s ++ [d] ∧ isLineEnd d := by
  rcases h with h | h | ⟨h, -⟩
  · exact absurd h hne
  · obtain ⟨s, rfl⟩ := List.getLast?_eq_some_iff.mp h
    exact ⟨s, _, rfl, rfl⟩
  · obtain ⟨s, rfl⟩ := List.getLast?_eq_some_iff.mp h
    exact ⟨s, _, rfl, rfl⟩

end LineBoundary

/-- A text is cut in the same way before a line boundary and after it as on both sides of it. -/
theorem lexemes_append {a b : List Char} (h : LineBoundary a b) :
    lexemes (a ++ b) = lexemes a ++ lexemes b := by
  induction a using lexemes_induction with
  | nil => rfl
  | cons c cs ih =>
    obtain ⟨s, d, hs, hd⟩ := h.exists_lineEnd (by simp)
    cases s with
    | cons e s =>
      -- the last line end comes after the first lexeme has started
      obtain ⟨rfl, hcs⟩ := List.cons.inj hs
      have hl : HasLineEnd cs := ⟨d, by simp [hcs], hd⟩
      have hsuf : rest c cs <:+ c :: cs :=
        (List.drop_suffix _ _).trans (List.suffix_cons c cs)
      rw [List.cons_append, lexemes_cons, cut_append hl, rest_append hl, ih (h.suffix hsuf),
        lexemes_cons, List.cons_append]
    | nil =>
      -- the text is one line end
      obtain ⟨rfl, rfl⟩ := List.cons.inj hs
      have he : extent c b = extent c [] ∧ (extent c []).2 = 0 := by
        rcases h with h | h | ⟨h, hb⟩
        · cases h
        · obtain rfl : c = '\n' := by simpa using h
          exact ⟨rfl, rfl⟩
        · obtain rfl : c = '\r' := by simpa using h
          exact ⟨by simp [extent, hb], rfl⟩
      rw [List.singleton_append, lexemes_cons, lexemes_cons]
      simp [cut, rest, he.1, he.2]

/-- A newline of one character that could have been longer is followed by something else. -/
theorem Lexed.head?_ne {l : Lexeme} {ls : List Lexeme} (h : Lexed (l :: ls))
    (hl : l.text = ['\r']) : (charsOf ls).head? ≠ some '\n' := by
  obtain ⟨c, cs, rfl, hrest, -⟩ := cons_iff.mp h
  rw [hrest]
  obtain ⟨rfl, htake⟩ : c = '\r' ∧ cs.take (extent c cs).2 = [] := by simpa [cut] using hl
  intro hn
  have hcs : cs.head? = some '\n' ∨ cs.head? ≠ some '\n' := by tauto
  rcases hcs with hcs | hcs
  · obtain ⟨ds, rfl⟩ := List.head?_eq_some_iff.mp hcs
    cases htake
  · have he : (extent '\r' cs).2 = 0 := by simp [extent, hcs]
    rw [rest, he] at hn
    exact hcs hn

end SeedHeader
