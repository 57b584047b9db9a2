import Mathlib.Data.List.DropRight
import SeedHeader.Text.Blank

/-!
# Proofs — Trimming

Trimming takes off blanks only (`trim_infix`), and a second time it takes off nothing
(`trim_trim`).  A text that is trimmed already does not start with a blank.
-/

namespace SeedHeader.Text

theorem trim_eq (cs : List Char) : trim cs = (cs.dropWhile isBlank).rdropWhile isBlank := rfl

/-- What is trimmed off is blank. -/
theorem trim_infix (cs : List Char) :
    ∃ front back, cs = front ++ (trim cs ++ back) ∧ (∀ c ∈ front, isBlank c) ∧
      ∀ c ∈ back, isBlank c := by
  refine ⟨cs.takeWhile isBlank, (cs.dropWhile isBlank).rtakeWhile isBlank, ?_, ?_, ?_⟩
  · rw [trim_eq, List.rdropWhile_append_rtakeWhile, List.takeWhile_append_dropWhile]
  · exact List.all_eq_true.mp List.all_takeWhile
  · intro c hc
    exact List.mem_rtakeWhile_imp hc

theorem trim_length_le (cs : List Char) : (trim cs).length ≤ cs.length := by
  obtain ⟨front, back, h, -, -⟩ := trim_infix cs
  have := congrArg List.length h
  simp only [List.length_append] at this
  omega

theorem mem_of_mem_trim {cs : List Char} {c : Char} (h : c ∈ trim cs) : c ∈ cs := by
  obtain ⟨front, back, hcs, -, -⟩ := trim_infix cs
  rw [hcs]
  simp [h]

theorem trim_cons_of_blank {c : Char} (h : isBlank c) (cs : List Char) :
    trim (c :: cs) = trim cs := by
  rw [trim_eq, trim_eq, List.dropWhile_cons, if_pos h]

/-- Nothing is left exactly if there are only blanks. -/
theorem trim_eq_nil_iff {cs : List Char} : trim cs = [] ↔ ∀ c ∈ cs, isBlank c := by
  constructor
  · intro h
    obtain ⟨front, back, hcs, hfront, hback⟩ := trim_infix cs
    rw [h, List.nil_append] at hcs
    rw [hcs]
    exact List.forall_mem_append.mpr ⟨hfront, hback⟩
  · intro h
    induction cs with
    | nil => rfl
    | cons c cs ih =>
      rw [trim_cons_of_blank (h c List.mem_cons_self)]
      exact ih fun d hd => h d (List.mem_cons_of_mem c hd)

/-- A text that is trimmed does not start with a blank. -/
theorem not_blank_of_trimmed {c : Char} {cs : List Char} (h : trim (c :: cs) = c :: cs) :
    isBlank c = false := by
  cases hc : isBlank c with
  | false => rfl
  | true =>
    have hlen := trim_length_le cs
    rw [← trim_cons_of_blank hc cs, h, List.length_cons] at hlen
    omega

theorem trim_trim (cs : List Char) : trim (trim cs) = trim cs := by
  have hdrop : (trim cs).dropWhile isBlank = trim cs := by
    cases ht : trim cs with
    | nil => rfl
    | cons c ts =>
      -- the first character left is the first one after the blanks in front
      obtain ⟨us, hus⟩ : trim cs <+: cs.dropWhile isBlank :=
        List.rdropWhile_prefix isBlank _
      have hc := List.head?_dropWhile_not isBlank cs
      rw [← hus, ht] at hc
      have hc : isBlank c = false := hc
      rw [List.dropWhile_cons, if_neg (by simp [hc])]
  rw [trim_eq (trim cs), hdrop, trim_eq, List.rdropWhile_idempotent]

end SeedHeader.Text
