/-!
# Game — Numbered enumerations

The game refers to its things by number.  An enumeration lists its members, numbers them without
repetition and names them, so a number is looked up as the one member that has it
(`ofNumber?_number`).
-/

namespace SeedHeader

/-- Members of a list are told apart by their images when these do not repeat. -/
theorem eq_of_map_nodup {α β : Type} {f : α → β} {a b : α} {as : List α} (h : (as.map f).Nodup)
    (ha : a ∈ as) (hb : b ∈ as) (hf : f a = f b) : a = b := by
  induction as with
  | nil => cases ha
  | cons c cs ih =>
    rw [List.map_cons, List.nodup_cons] at h
    rcases List.mem_cons.mp ha with ea | ha <;> rcases List.mem_cons.mp hb with eb | hb
    · exact ea.trans eb.symm
    · exact absurd (ea ▸ hf ▸ List.mem_map_of_mem hb) h.1
    · exact absurd (eb ▸ hf ▸ List.mem_map_of_mem ha) h.1
    · exact ih h.2 ha hb

/-- An enumeration whose members have numbers. -/
class Numbered (α : Type) where
  /-- The name of the enumeration. -/
  title : String
  /-- The members in their order. -/
  members : List α
  number : α → Nat
  name : α → String
  mem_members : ∀ a, a ∈ members
  number_nodup : (members.map number).Nodup

namespace Numbered

variable {α : Type} [Numbered α]

/-- The member with number `n`. -/
def ofNumber? (n : Nat) : Option α :=
  members.find? fun a => number a = n

theorem number_of_ofNumber? {n : Nat} {a : α} (h : ofNumber? n = some a) : number a = n := by
  simpa using List.find?_some h

theorem number_injective {a b : α} (h : number a = number b) : a = b :=
  eq_of_map_nodup number_nodup (mem_members a) (mem_members b) h

/-- A number is looked up as the member that has it. -/
theorem ofNumber?_number (a : α) : ofNumber? (number a) = some a := by
  cases h : (ofNumber? (number a) : Option α) with
  | some b => rw [number_injective (number_of_ofNumber? h)]
  | none =>
    have := List.find?_eq_none.mp h a (mem_members a)
    simp at this

end Numbered

end SeedHeader
