import Mathlib.Data.List.TakeWhile

/-!
# Proofs — Scanning up to a stop

A scan that stops inside a list does not see what is appended to it.  Splitting a list loses
nothing but the elements it is split at.
-/

namespace SeedHeader

variable {α : Type}

theorem takeWhile_append_of_stop {p : α → Bool} {xs : List α} (ys : List α)
    (h : ∃ x ∈ xs, p x = false) : (xs ++ ys).takeWhile p = xs.takeWhile p := by
  induction xs with
  | nil => obtain ⟨x, hx, -⟩ := h; cases hx
  | cons a xs ih =>
    cases ha : p a with
    | false => simp [ha]
    | true =>
      obtain ⟨x, hx, hpx⟩ := h
      rcases List.mem_cons.mp hx with rfl | hx
      · rw [ha] at hpx; cases hpx
      · simp [ha, ih ⟨x, hx, hpx⟩]

theorem dropWhile_append_of_stop {p : α → Bool} {xs : List α} (ys : List α)
    (h : ∃ x ∈ xs, p x = false) : (xs ++ ys).dropWhile p = xs.dropWhile p ++ ys := by
  induction xs with
  | nil => obtain ⟨x, hx, -⟩ := h; cases hx
  | cons a xs ih =>
    cases ha : p a with
    | false => simp [ha]
    | true =>
      obtain ⟨x, hx, hpx⟩ := h
      rcases List.mem_cons.mp hx with rfl | hx
      · rw [ha] at hpx; cases hpx
      · simp [ha, ih ⟨x, hx, hpx⟩]

/-- A scan passes what satisfies the test and stops where something does not. -/
theorem takeWhile_append_of_head {p : α → Bool} {xs ys : List α} (hx : ∀ x ∈ xs, p x)
    (hy : ∀ y ∈ ys.head?, p y = false) : (xs ++ ys).takeWhile p = xs := by
  rw [List.takeWhile_append_of_pos hx]
  cases ys with
  | nil => simp
  | cons y ys => simp [hy y rfl]

theorem dropWhile_append_of_head {p : α → Bool} {xs ys : List α} (hx : ∀ x ∈ xs, p x)
    (hy : ∀ y ∈ ys.head?, p y = false) : (xs ++ ys).dropWhile p = ys := by
  rw [List.dropWhile_append_of_pos hx]
  cases ys with
  | nil => rfl
  | cons y ys => simp [hy y rfl]

/-- Where a scan stops, the test fails. -/
theorem stop_dropWhile (p : α → Bool) (xs : List α) :
    ∀ x ∈ (xs.dropWhile p).head?, p x = false := by
  intro x hx
  have hnot := List.head?_dropWhile_not p xs
  rw [Option.mem_def.mp hx] at hnot
  simpa using hnot

/-- What satisfies the test is passed over, and nothing else is dropped. -/
theorem mem_dropWhile_of_stop {p : α → Bool} {xs : List α} {x : α} (hx : x ∈ xs)
    (h : p x = false) : x ∈ xs.dropWhile p := by
  induction xs with
  | nil => cases hx
  | cons a xs ih =>
    cases ha : p a with
    | false => simpa [ha] using hx
    | true =>
      rcases List.mem_cons.mp hx with rfl | hx
      · rw [ha] at h; cases h
      · simpa [ha] using ih hx

theorem flatten_splitOnP (p : α → Bool) (xs : List α) :
    (xs.splitOnP p).flatten = xs.filter fun x => !p x := by
  induction xs with
  | nil => rfl
  | cons x xs ih =>
    rw [List.splitOnP_cons_eq_if_modifyHead]
    cases hx : p x with
    | true => simp [hx, ih]
    | false =>
      cases hs : xs.splitOnP p with
      | nil => exact absurd hs (List.splitOnP_ne_nil p xs)
      | cons y ys =>
        rw [hs, List.flatten_cons] at ih
        simp [hx, ← ih]

end SeedHeader
