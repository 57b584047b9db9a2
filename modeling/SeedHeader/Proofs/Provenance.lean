import SeedHeader.Proofs.Operations
import SeedHeader.Proofs.Parts

/-!
# Proofs — Where contents come from

Every content of a reading was read at some place of the text: it is what a comment remarks, or
what a statement says (`readIn_of_mem`).  The parts of a statement, and the parts of these, were
read within it, each by its own rule (`ReadIn.part`).
-/

namespace SeedHeader

open Rule Grammar

/-- The content was read in the text: from a comment, or as a statement. -/
inductive ReadIn (text : List Char) : Located Content → Prop where
  | remark {u ls : List Lexeme} {pos : Nat} {l : Lexeme} {skip : Bool} {x : Located Content}
      (h : (Cursor.ofText text).Passes u ⟨pos, l :: ls⟩) (hl : isBetween l.type)
      (hx : x ∈ (remark skip pos l).1) : ReadIn text x
  | statement {u : List Lexeme} {c c' : Cursor} {skip : Bool} {x : Located Content}
      (h : (Cursor.ofText text).Passes u c) (hx : statement skip c = .ok x c') : ReadIn text x

variable {text : List Char}

theorem Reading.readIn_of_mem (skip : Bool) {u : List Lexeme} {c : Cursor}
    (h : (Cursor.ofText text).Passes u c) : ∀ x ∈ (ofCursorFrom skip c).contents, ReadIn text x := by
  refine contents_forall (P := fun c => ∃ u, (Cursor.ofText text).Passes u c) ?_ ?_ ?_ skip ⟨u, h⟩
  · rintro c c' w ⟨u, hu⟩ hw
    exact ⟨u ++ w, hu.trans hw⟩
  · rintro skip pos l ls ⟨u, hu⟩ hl x hx
    exact .remark hu hl hx
  · rintro skip c x c' ⟨u, hu⟩ hx
    exact .statement hu hx

/-- **Every content was read in its text.** -/
theorem readIn_of_mem {contents : List (Located Content)} (h : parse text = .ok contents)
    {x : Located Content} (hx : x ∈ contents) : ReadIn text x := by
  obtain ⟨-, rfl⟩ := parse_eq_ok.mp h
  exact Reading.readIn_of_mem false (.refl _) x hx

/-- What a comment remarks covers the comment. -/
theorem span_of_remark {skip : Bool} {pos : Nat} {l : Lexeme} {x : Located Content}
    (h : x ∈ (remark skip pos l).1) : x.span = ⟨pos, pos + l.width⟩ := by
  obtain ⟨-, rfl⟩ | ⟨-, rfl⟩ := mem_remark_iff.mp h <;> rfl

/-! ### Parts at any depth -/

/-- The parts of a content and the parts of these.  There are no others: what a trigger, an item or
an icon has for parts has none itself. -/
def Content.allParts (c : Content) : List Part := c.parts.flatMap fun p => p :: p.parts

theorem Content.parts_of_documentation {a : Content} (h : a.isDocumentation) : a.parts = [] := by
  cases a with
  | outerDocumentation | innerDocumentation => rfl
  | _ => cases h

/-- A part is read from a token at least. -/
theorem Part.ReadFrom.token {p : Part} {c c' : Cursor} (h : p.ReadFrom c c') :
    ∃ l w, c.Passes (l :: w) c' := by
  cases p with
  | value => exact h.2
  | uber => exact uberIdentifier_built.token h
  | trigger => exact trigger_built.token h
  | item => exact item_built.token h
  | icon => exact icon_built.token h

theorem Cursor.Finds.exists_of_mem {ps : List Part} {c c' : Cursor} {p : Part} (h : c.Finds ps c')
    (hp : p ∈ ps) : ∃ w d d', c.Passes w d ∧ p.ReadFrom d d' := by
  induction ps generalizing c with
  | nil => cases hp
  | cons q ps ih =>
    obtain ⟨d, d', ⟨w, hw, -⟩, hq, hps⟩ := h
    rcases List.mem_cons.mp hp with rfl | hp
    · exact ⟨w, d, d', hw, hq⟩
    · obtain ⟨l, v, hv⟩ := hq.token
      obtain ⟨v', e, e', he, hread⟩ := ih hps hp
      exact ⟨_, e, e', (hw.trans hv).trans he, hread⟩

theorem Part.ReadFrom.exists_of_mem {p q : Part} {c c' : Cursor} (h : q.ReadFrom c c')
    (hp : p ∈ q.parts) : ∃ w d d', c.Passes w d ∧ p.ReadFrom d d' := by
  cases q with
  | trigger t => exact (trigger_finds h).exists_of_mem hp
  | item i => exact (item_finds h).exists_of_mem hp
  | value | uber | icon => cases hp

/-- Every part, at any depth, was read in the text by its rule. -/
theorem ReadIn.part {x : Located Content} (h : ReadIn text x) {p : Part}
    (hp : p ∈ x.val.allParts) :
    ∃ u d d', (Cursor.ofText text).Passes u d ∧ p.ReadFrom d d' := by
  cases h with
  | remark h hl hx =>
    simp [Content.allParts, Content.parts_of_documentation (remark_kind x hx)] at hp
  | statement h hx =>
    obtain ⟨q, hq, hp⟩ := List.mem_flatMap.mp hp
    obtain ⟨w, d, d', hw, hread⟩ := (statement_finds hx).exists_of_mem hq
    rcases List.mem_cons.mp hp with rfl | hp
    · exact ⟨_, d, d', h.trans hw, hread⟩
    · obtain ⟨v, e, e', hv, hread'⟩ := hread.exists_of_mem hp
      exact ⟨_, e, e', (h.trans hw).trans hv, hread'⟩

end SeedHeader
