import SeedHeader.Proofs.Sameness

/-!
# Proofs — Meaning the same is an equivalence

The *sense* of a datum is what a comparison sees of it: a number is its exact value, however it is
written, any other atom is itself, and a node is its kind with the senses of its fields, wherever
the node stands.  Two data mean the same exactly when no undefined float is among the leaves of the
first and their senses are equal (`same_iff`).

So all that an equality of senses satisfies holds of meaning the same.  It is symmetric and
transitive, and it is reflexive on the data without an undefined float; it does not see spans, and
it keeps apart nodes of different kinds.  The distinct data of a list have the senses of the list,
each once (`nodup_senses_distinct`, `mem_senses_distinct`), so their number does not depend on the
order of the list (`length_distinct_perm`).

**Equivalence** (`same_equivalence`).  The statements above, for all data, of nodes of any kinds
nested to any depth.
-/

namespace SeedHeader

/-- What a comparison sees of a datum. -/
inductive Sense where
  | quantity (value : Quantity)
  | atom (value : Atom)
  | node (kind : NodeKind) (fields : List Sense)

/-! ### Atoms -/

namespace Atom

/-- The sense of an atom. -/
def sense (a : Atom) : Sense :=
  match a.quantity? with
  | some q => .quantity q
  | none   => .atom a

/-- Atoms mean the same if their senses are equal, but for the undefined float. -/
theorem same_iff {a b : Atom} : a.same b ↔ a ≠ .float .nan ∧ a.sense = b.sense := by
  cases ha : a.quantity? with
  | some x =>
    have hn : a ≠ .float .nan := by
      rintro rfl
      cases ha
    cases hb : b.quantity? <;> simp [same, sense, ha, hb, hn]
  | none =>
    cases hb : b.quantity? <;> simp [same, sense, ha, hb, and_comm]

/-- Only the undefined float has its sense. -/
theorem sense_eq_undefined {a : Atom} : a.sense = .atom (.float .nan) ↔ .float .nan = a := by
  constructor
  · unfold sense
    split
    · simp
    · exact fun h => (Sense.atom.inj h).symm
  · rintro rfl
    rfl

theorem sense_ne_node {a : Atom} {k : NodeKind} {ss : List Sense} : a.sense ≠ .node k ss := by
  unfold sense
  split <;> simp

end Atom

/-! ### Data -/

namespace Datum

mutual

/-- The atoms that a datum is built from. -/
def leaves : Datum → List Atom
  | atom a      => [a]
  | node _ _ xs => leavesAll xs

/-- The atoms that data are built from. -/
def leavesAll : List Datum → List Atom
  | []      => []
  | x :: xs => leaves x ++ leavesAll xs

end

mutual

/-- The sense of a datum. -/
def sense : Datum → Sense
  | atom a      => a.sense
  | node k _ xs => .node k (senseAll xs)

/-- The senses of data. -/
def senseAll : List Datum → List Sense
  | []      => []
  | x :: xs => sense x :: senseAll xs

end

/-- The undefined float is not in the datum. -/
def Defined (d : Datum) : Prop := .float .nan ∉ d.leaves

instance (d : Datum) : Decidable d.Defined :=
  inferInstanceAs (Decidable (Atom.float .nan ∉ d.leaves))

mutual

/-- Data mean the same if their senses are equal, but for undefined floats. -/
theorem same_iff : ∀ d e : Datum, d.same e ↔ d.Defined ∧ d.sense = e.sense
  | atom a, atom b => by
    rw [same, sense, sense, Atom.same_iff, Defined, leaves, List.mem_singleton, ne_comm]
  | atom a, node _ _ _ => by simp [same, sense, Atom.sense_ne_node]
  | node _ _ _, atom b => by simp [same, sense, Atom.sense_ne_node.symm]
  | node _ _ xs, node _ _ ys => by
    simp only [same, Bool.and_eq_true, decide_eq_true_eq, sameAll_iff xs ys, Defined, leaves,
      sense, Sense.node.injEq]
    tauto

theorem sameAll_iff : ∀ xs ys : List Datum,
    sameAll xs ys ↔ .float .nan ∉ leavesAll xs ∧ senseAll xs = senseAll ys
  | [], [] => by simp [sameAll, leavesAll, senseAll]
  | [], _ :: _ => by simp [sameAll, senseAll]
  | _ :: _, [] => by simp [sameAll, senseAll]
  | x :: xs, y :: ys => by
    simp only [sameAll, Bool.and_eq_true, same_iff x y, sameAll_iff xs ys, Defined, leavesAll,
      senseAll, List.mem_append, List.cons.injEq]
    tauto

end

mutual

/-- Whether the undefined float is in a datum can be told from its sense. -/
theorem defined_congr : ∀ {d e : Datum}, d.sense = e.sense → (d.Defined ↔ e.Defined)
  | atom a, atom b, h => by
    rw [sense, sense] at h
    simp only [Defined, leaves, List.mem_singleton, ← Atom.sense_eq_undefined, h]
  | atom _, node _ _ _, h => absurd h Atom.sense_ne_node
  | node _ _ _, atom _, h => absurd h.symm Atom.sense_ne_node
  | node _ _ _, node _ _ _, h => not_congr (undefined_congr (Sense.node.inj h).2)

theorem undefined_congr : ∀ {xs ys : List Datum}, senseAll xs = senseAll ys →
    (.float .nan ∈ leavesAll xs ↔ .float .nan ∈ leavesAll ys)
  | [], [], _ => Iff.rfl
  | [], _ :: _, h | _ :: _, [], h => by cases h
  | x :: xs, y :: ys, h => by
    obtain ⟨hx, hxs⟩ := List.cons.inj h
    rw [leavesAll, leavesAll, List.mem_append, List.mem_append, undefined_congr hxs,
      not_iff_not.mp (defined_congr hx)]

end

section
variable {d e f : Datum}

theorem same_self (hd : d.Defined) : d.same d := (same_iff d d).mpr ⟨hd, rfl⟩

theorem same_symm (h : d.same e) : e.same d := by
  obtain ⟨hd, hs⟩ := (same_iff d e).mp h
  exact (same_iff e d).mpr ⟨(defined_congr hs).mp hd, hs.symm⟩

theorem same_comm : d.same e = e.same d := Bool.eq_iff_iff.mpr ⟨same_symm, same_symm⟩

theorem same_trans (h : d.same e) (h' : e.same f) : d.same f := by
  obtain ⟨hd, hs⟩ := (same_iff d e).mp h
  obtain ⟨-, hs'⟩ := (same_iff e f).mp h'
  exact (same_iff d f).mpr ⟨hd, hs.trans hs'⟩

end

/-- Data mean the same if comparing them says so. -/
theorem same_eq_agree? : ∀ d e : Datum, d.same e = (d.agree? e).getD false
  | atom _, atom _ => rfl
  | atom _, node _ _ _ | node _ _ _, atom _ => rfl
  | node k _ xs, node l _ ys => by
    rw [same, agree?]
    by_cases h : k = l <;> simp [h]

/-- Data differ if they do not mean the same. -/
theorem differs_eq_not_same (d e : Datum) : d.differs e = !d.same e := by
  rw [same_eq_agree?, differs]
  cases d.agree? e <;> rfl

/-- Nodes of different kinds never mean the same. -/
theorem same_of_ne_kind {k l : NodeKind} (h : k ≠ l) (s t : Span Int) (xs ys : List Datum) :
    (node k s xs).same (node l t ys) = false := by
  simp [same, h]

/-- Spans count on neither side when data are compared. -/
theorem same_congr {d d' e e' : Datum} (hd : d'.unplaced = d.unplaced)
    (he : e'.unplaced = e.unplaced) : d'.same e' = d.same e := by
  rw [← same_unplaced, he, same_unplaced, same_comm, ← same_unplaced, hd, same_unplaced, same_comm]

/-! ### The distinct data of a list -/

theorem distinct_concat (xs : List Datum) (x : Datum) : distinct (xs ++ [x]) =
    if (distinct xs).any (·.same x) then distinct xs else distinct xs ++ [x] := by
  rw [distinct, List.foldl_append]
  rfl

theorem distinct_subset (xs : List Datum) : distinct xs ⊆ xs := by
  induction xs using List.reverseRecOn with
  | nil => exact List.Subset.refl _
  | append_singleton xs x ih =>
    rw [distinct_concat]
    split
    · exact List.subset_append_of_subset_left _ ih
    · exact List.append_subset.mpr ⟨List.subset_append_of_subset_left _ ih, by simp⟩

/-- A datum is left out if its sense is there already. -/
theorem any_same_iff {seen : List Datum} {x : Datum} (h : ∀ d ∈ seen, d.Defined) :
    seen.any (·.same x) ↔ x.sense ∈ seen.map sense := by
  simp only [List.any_eq_true, List.mem_map, same_iff]
  exact ⟨fun ⟨d, hd, _, hs⟩ => ⟨d, hd, hs⟩, fun ⟨d, hd, hs⟩ => ⟨d, hd, h d hd, hs⟩⟩

section
variable {xs ys : List Datum}

theorem defined_distinct (h : ∀ d ∈ xs, d.Defined) : ∀ d ∈ distinct xs, d.Defined :=
  fun d hd => h d (distinct_subset xs hd)

/-- The distinct data of a list have the senses of the list. -/
theorem mem_senses_distinct (h : ∀ d ∈ xs, d.Defined) (s : Sense) :
    s ∈ (distinct xs).map sense ↔ s ∈ xs.map sense := by
  induction xs using List.reverseRecOn with
  | nil => rfl
  | append_singleton xs x ih =>
    have hxs : ∀ d ∈ xs, d.Defined := fun d hd => h d (List.mem_append_left _ hd)
    have hx := any_same_iff (x := x) (defined_distinct hxs)
    rw [distinct_concat, List.map_append, List.mem_append, ← ih hxs]
    split
    case isTrue hany =>
      refine ⟨Or.inl, ?_⟩
      rintro (hs | hs)
      · exact hs
      · rw [List.map_singleton, List.mem_singleton] at hs
        exact hs ▸ hx.mp hany
    case isFalse => rw [List.map_append, List.mem_append]

/-- Each sense is there once. -/
theorem nodup_senses_distinct (h : ∀ d ∈ xs, d.Defined) : ((distinct xs).map sense).Nodup := by
  induction xs using List.reverseRecOn with
  | nil => exact List.nodup_nil
  | append_singleton xs x ih =>
    have hxs : ∀ d ∈ xs, d.Defined := fun d hd => h d (List.mem_append_left _ hd)
    have hx := any_same_iff (x := x) (defined_distinct hxs)
    rw [distinct_concat]
    split
    case isTrue => exact ih hxs
    case isFalse hany =>
      rw [List.map_append, List.map_singleton, (List.perm_append_singleton _ _).nodup_iff,
        List.nodup_cons]
      exact ⟨fun hs => hany (hx.mpr hs), ih hxs⟩

/-- The number of distinct data does not depend on the order of the list. -/
theorem length_distinct_perm (h : ∀ d ∈ xs, d.Defined) (hp : xs.Perm ys) :
    (distinct xs).length = (distinct ys).length := by
  have hy : ∀ d ∈ ys, d.Defined := fun d hd => h d (hp.mem_iff.mpr hd)
  -- both lists of senses hold the same senses, each once
  have hs : ((distinct xs).map sense).Perm ((distinct ys).map sense) := by
    refine (List.perm_ext_iff_of_nodup (nodup_senses_distinct h) (nodup_senses_distinct hy)).mpr ?_
    intro s
    rw [mem_senses_distinct h, mem_senses_distinct hy, (hp.map sense).mem_iff]
  simpa only [List.length_map] using hs.length_eq

end

end Datum

open Datum

/-- **Equivalence.**  Data without an undefined float mean the same as themselves; meaning the same
is symmetric and transitive, and differing is its negation.  It does not see the spans of nodes at
any depth and keeps apart nodes of different kinds, so the number of distinct data of a list does
not depend on the order of the list. -/
theorem same_equivalence :
    (∀ d : Datum, d.Defined → d.same d) ∧
    (∀ d e : Datum, d.same e = e.same d) ∧
    (∀ d e f : Datum, d.same e → e.same f → d.same f) ∧
    (∀ d e : Datum, d.differs e = !d.same e) ∧
    (∀ d d' e e' : Datum, d'.unplaced = d.unplaced → e'.unplaced = e.unplaced →
      d'.same e' = d.same e) ∧
    (∀ (k l : NodeKind) (s t : Span Int) (xs ys : List Datum), k ≠ l →
      (node k s xs).same (node l t ys) = false) ∧
    (∀ xs ys : List Datum, (∀ d ∈ xs, d.Defined) → xs.Perm ys →
      (distinct xs).length = (distinct ys).length) :=
  ⟨fun _ => same_self, fun _ _ => same_comm, fun _ _ _ => same_trans, differs_eq_not_same,
    fun _ _ _ _ => same_congr, fun _ _ s t xs ys h => same_of_ne_kind h s t xs ys,
    fun _ _ => length_distinct_perm⟩

/-- A literal with the given value that starts at `start`. -/
def literalAt (start : Int) (a : Atom) : Datum := .node .literal ⟨start, start + 1⟩ [.atom a]

/-- Zero, the false truth value and the negative float zero mean the same in pairs, and in either
order there is one of them. -/
theorem same_equivalence_zero :
    (literalAt 4 (.int 0)).same (literalAt 4 (.int 0)) ∧
    (literalAt 4 (.int 0)).same (literalAt 9 (.float (.finite true 0 0))) ∧
    (literalAt 7 (.int 0)).same (literalAt 0 (.bool false)) =
      (literalAt 4 (.int 0)).same (literalAt 9 (.bool false)) ∧
    (Datum.node .literal .nowhere [.atom (.int 0)]).same
      (.node .parameter .nowhere [.atom (.int 0)]) = false ∧
    (distinct [literalAt 4 (.int 0), literalAt 9 (.bool false)]).length =
      (distinct [literalAt 9 (.bool false), literalAt 4 (.int 0)]).length := by
  obtain ⟨refl, -, trans, -, spans, kinds, count⟩ := same_equivalence
  exact ⟨refl _ (by decide),
    trans _ (literalAt 9 (.bool false)) _ (by decide +kernel) (by decide +kernel),
    spans _ _ _ _ rfl rfl,
    kinds .literal .parameter _ _ _ _ (by decide),
    count _ _ (by decide) (.swap _ _ _)⟩

end SeedHeader
