import SeedHeader.Proofs.Lines

/-!
# Proofs — The excuse from validation

Reading under an excuse and reading without one take the same tokens and find the same faults
(`ofCursorFrom_excuse`).  They differ in the first statement only: if it is a pickup, it is excused.
Documentation in front of it leaves the excuse in force.
-/

namespace SeedHeader

open Rule Grammar

/-- The content, excused from validation if it is a pickup. -/
def Content.excused : Content → Content
  | .pickup p => .pickup { p with skipValidation := true }
  | c         => c

/-- The content is documentation. -/
def Content.isDocumentation : Content → Bool
  | .outerDocumentation _ | .innerDocumentation _ => true
  | _ => false

/-- The content where it was read, excused from validation if it is a pickup. -/
def Located.excused (c : Located Content) : Located Content := ⟨c.span, c.val.excused⟩

/-- The contents with the first statement excused. -/
def excuse : List (Located Content) → List (Located Content)
  | [] => []
  | c :: cs => if c.val.isDocumentation then c :: excuse cs else c.excused :: cs

@[simp] theorem Located.excused_excused (c : Located Content) : c.excused.excused = c.excused := by
  obtain ⟨span, c⟩ := c
  cases c <;> rfl

theorem excuse_append {ds : List (Located Content)} (h : ∀ d ∈ ds, d.val.isDocumentation)
    (cs : List (Located Content)) : excuse (ds ++ cs) = ds ++ excuse cs := by
  induction ds with
  | nil => rfl
  | cons d ds ih =>
    rw [List.cons_append, excuse, if_pos (h d (by simp)), ih fun e he => h e (by simp [he])]
    rfl

/-! ### Statements -/

theorem pickup_excuse (ignore : Bool) :
    pickup ignore true =
      (fun p => { p with skipValidation := true }) <$> pickup ignore false := by
  simp only [pickup, map_bind, map_pure]

theorem marked_excuse : marked true = Content.excused <$> marked false := by
  simp only [marked, map_bind, pickup_excuse]
  congr 1
  funext t
  split
  · simp only [map_bind, map_pure, Content.excused]
  · simp only [map_bind, map_pure, bind_map_left, Content.excused]

theorem statementBody_excuse : statementBody true = Content.excused <$> statementBody false := by
  simp only [statementBody, map_bind, pickup_excuse, marked_excuse]
  congr 1
  funext t
  cases t with
  | identifier => simp only [setupStatement, map_bind]; rfl
  | bang => simp only [map_bind]
  | number | dollar => simp only [map_bind, map_pure, bind_map_left, Content.excused]
  | pound => simp only [map_bind, map_pure, Content.excused]
  | _ => rfl

/-- Under an excuse the same tokens are taken, and the same faults are found. -/
theorem statement_excuse (skip : Bool) : statement true = Located.excused <$> statement skip := by
  have h : statement true = Located.excused <$> statement false := by
    simp only [statement, located, statementBody_excuse, map_bind, map_pure, bind_map_left,
      Located.excused]
  cases skip with
  | false => exact h
  | true => rw [h, Functor.map_map]; simp

/-- The content is a statement, and it is excused as `skip` says if it is a pickup. -/
def Content.StatedUnder (skip : Bool) : Content → Prop
  | .outerDocumentation _ | .innerDocumentation _ => False
  | .pickup p => p.skipValidation = skip
  | _ => True

theorem Content.StatedUnder.not_documentation {skip : Bool} {a : Content} (h : a.StatedUnder skip) :
    a.isDocumentation = false := by
  cases a with
  | outerDocumentation | innerDocumentation => cases h
  | _ => rfl

theorem setupStatement_kind {skip : Bool} {c c' : Cursor} {a : Content}
    (h : setupStatement c = .ok a c') : a.StatedUnder skip := by
  obtain ⟨word, c₁, -, h⟩ := bind_ok h
  obtain ⟨t, c₂, -, h⟩ := bind_ok h
  cases h
  trivial

theorem pickup_kind {ignore skip : Bool} {c c' : Cursor} {p : Pickup}
    (h : pickup ignore skip c = .ok p c') : p.skipValidation = skip := by
  obtain ⟨t, c₁, -, h⟩ := bind_ok h
  obtain ⟨-, c₂, -, h⟩ := bind_ok h
  obtain ⟨i, c₃, -, h⟩ := bind_ok h
  cases h
  rfl

theorem marked_kind {skip : Bool} {c c' : Cursor} {a : Content} (h : marked skip c = .ok a c') :
    a.StatedUnder skip := by
  by_cases hb : c.type = .bang
  · rw [marked_of_bang skip hb] at h
    obtain ⟨-, c₁, -, h⟩ := bind_ok h
    obtain ⟨b, c₂, -, h⟩ := bind_ok h
    cases h
    trivial
  · rw [marked_of_ne skip hb] at h
    obtain ⟨p, c₁, hp, h⟩ := bind_ok h
    cases h
    exact pickup_kind hp

theorem statementBody_kind {skip : Bool} {c c' : Cursor} {a : Content}
    (h : statementBody skip c = .ok a c') : a.StatedUnder skip := by
  rw [statementBody, peek_bind] at h
  cases ht : c.type with
  | identifier =>
    rw [ht] at h
    exact setupStatement_kind h
  | bang =>
    rw [ht] at h
    obtain ⟨-, c₁, -, h⟩ := bind_ok h
    exact marked_kind h
  | number | dollar =>
    rw [ht] at h
    obtain ⟨p, c₁, hp, h⟩ := bind_ok h
    cases h
    exact pickup_kind hp
  | pound =>
    rw [ht] at h
    obtain ⟨-, c₁, -, h⟩ := bind_ok h
    obtain ⟨name, c₂, -, h⟩ := bind_ok h
    cases h
    trivial
  | _ => rw [ht] at h; cases h

/-- What is read as a statement is no documentation, starts at the cursor, and is excused as the
flag says. -/
theorem statement_kind {skip : Bool} {c c' : Cursor} {a : Located Content}
    (h : statement skip c = .ok a c') : a.val.StatedUnder skip ∧ a.span.start = c.pos := by
  obtain ⟨hb, hspan⟩ := located_ok h
  exact ⟨statementBody_kind hb, by rw [hspan]⟩

/-! ### Between statements -/

theorem remark_kind {skip : Bool} {pos : Nat} {l : Lexeme} :
    ∀ d ∈ (remark skip pos l).1, d.val.isDocumentation := by
  intro d hd
  obtain ⟨-, rfl⟩ | ⟨-, rfl⟩ := mem_remark_iff.mp hd <;> rfl

theorem interlude_kind (skip : Bool) (pos : Nat) (ls : List Lexeme) :
    ∀ d ∈ (interlude skip pos ls).1, d.val.isDocumentation :=
  interlude_forall (P := fun _ => True) (fun _ _ => trivial) (fun _ _ => remark_kind) skip trivial

theorem remark_excuse (skip : Bool) (pos : Nat) (l : Lexeme) :
    remark true pos l = ((remark skip pos l).1, true) := by
  unfold remark
  cases l.commentKind with
  | none => rfl
  | some kind => cases kind <;> rfl

/-- An excuse in force before an interlude is in force after it. -/
theorem interlude_excuse (skip : Bool) (pos : Nat) (ls : List Lexeme) :
    interlude true pos ls =
      ((interlude skip pos ls).1, true, (interlude skip pos ls).2.2) := by
  induction ls generalizing skip pos with
  | nil => rfl
  | cons l ls ih =>
    by_cases hl : isBetween l.type
    · rw [interlude_of_between _ _ hl, interlude_of_between _ _ hl, remark_excuse skip]
      simp only [ih (remark skip pos l).2]
    · rw [interlude_of_not_between _ _ hl, interlude_of_not_between _ _ hl]

/-! ### Readings -/

namespace Reading

/-- A statement is read in the same way under an excuse as without one.  Its content is excused,
and the excuse is used up unless the input ends with it. -/
theorem ofStatement_excuse (skip : Bool) (c : Cursor) :
    (ofStatement true c).1.contents = (ofStatement skip c).1.contents.map Located.excused ∧
      (ofStatement true c).1.faults = (ofStatement skip c).1.faults ∧
      (ofStatement true c).2 = (ofStatement skip c).2 := by
  have hs : statement true c = (Located.excused <$> statement skip) c := by rw [statement_excuse skip]
  unfold ofStatement
  cases h : statement skip c with
  | error fault c₁ =>
    have hs' : statement true c = .error fault c₁ := by
      rw [hs]; simp only [Functor.map, EStateM.map, h]
    rw [hs']
    exact ⟨rfl, rfl, rfl⟩
  | ok content c₁ =>
    have hs' : statement true c = .ok content.excused c₁ := by
      rw [hs]; simp only [Functor.map, EStateM.map, h]
    rw [hs']
    simp only
    split
    · exact ⟨rfl, rfl, rfl⟩
    · exact ⟨rfl, rfl, rfl⟩
    · exact ⟨rfl, rfl, rfl⟩

/-- Reading that goes on after a statement goes on without an excuse. -/
theorem ofStatement_skip {skip : Bool} {c c' : Cursor} (h : (ofStatement skip c).2 = some c') :
    (ofStatement skip c).1.skip = false := by
  unfold ofStatement at h ⊢
  split
  · rfl
  · split
    · rfl
    · next e => simp only [*] at h; cases h
    · rfl

/-- A statement without a fault has one content, which starts at the cursor. -/
theorem ofStatement_content {skip : Bool} {c : Cursor} (h : (ofStatement skip c).1.faults = []) :
    ∃ content, (ofStatement skip c).1.contents = [content] ∧
      content.val.StatedUnder skip ∧ content.span.start = c.pos := by
  unfold ofStatement at h ⊢
  split
  · next e => simp [e] at h
  · next content c₁ e =>
    refine ⟨content, ?_, statement_kind e⟩
    split <;> rfl

/-- **The excuse changes one flag.**  Under an excuse the same faults are found; and if there are
none, the same contents are read, except that the first statement is excused. -/
theorem ofCursorFrom_excuse (c : Cursor) :
    (ofCursorFrom true c).faults = (ofCursorFrom false c).faults ∧
      ((ofCursorFrom false c).faults = [] →
        (ofCursorFrom true c).contents = excuse (ofCursorFrom false c).contents) := by
  obtain ⟨documentation, skip, c₁, -, e, -⟩ := exists_interlude false c
  have e' := interlude_excuse false c.pos c.ahead
  have hdoc := interlude_kind false c.pos c.ahead
  simp only [e] at e' hdoc
  by_cases hc : c₁.type = .eof
  · rw [ofCursorFrom_of_none (round_of_eof e hc), ofCursorFrom_of_none (round_of_eof e' hc)]
    exact ⟨rfl, fun _ => by simpa [excuse] using (excuse_append hdoc []).symm⟩
  have hr := round_of_ne_eof e hc
  have hr' := round_of_ne_eof e' hc
  obtain ⟨hcontents, hfaults, hnext⟩ := ofStatement_excuse skip c₁
  -- the two readings agree after the first statement, whether it is the last one or not
  obtain ⟨tail, ht, ht'⟩ : ∃ tail : Reading,
      (ofCursorFrom false c).contents =
          documentation ++ ((ofStatement skip c₁).1.contents ++ tail.contents) ∧
        (ofCursorFrom false c).faults = (ofStatement skip c₁).1.faults ++ tail.faults ∧
        (ofCursorFrom true c).contents =
          documentation ++ ((ofStatement true c₁).1.contents ++ tail.contents) ∧
        (ofCursorFrom true c).faults = (ofStatement true c₁).1.faults ++ tail.faults := by
    cases hn : (ofStatement skip c₁).2 with
    | none =>
      rw [hn] at hr hnext
      rw [hnext] at hr'
      rw [ofCursorFrom_of_none hr, ofCursorFrom_of_none hr']
      exact ⟨empty false, by simp [after, empty]⟩
    | some c₂ =>
      have hskip := ofStatement_skip hn
      rw [hn] at hr hnext
      have hskip' := ofStatement_skip hnext
      rw [hnext] at hr'
      rw [ofCursorFrom_of_some hr, ofCursorFrom_of_some hr']
      exact ⟨ofCursorFrom false c₂, by simp [after, append, hskip, hskip']⟩
  obtain ⟨hf, ht', hf'⟩ := ht'
  refine ⟨by rw [hf, hf', hfaults], fun hnone => ?_⟩
  rw [hf, List.append_eq_nil_iff] at hnone
  obtain ⟨content, hone, hkind, -⟩ := ofStatement_content hnone.1
  rw [ht, ht', hcontents, excuse_append hdoc, hone]
  simp [excuse, hkind.not_documentation]

end Reading

end SeedHeader
