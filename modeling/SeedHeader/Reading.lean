import SeedHeader.Grammar.Motion

/-!
# Reading a header

A header is read in rounds.  A round passes over newlines, whitespace and comments, reads one
statement and the rest of its line.  Documentation and statements are the contents of the header.
A line that does not fit has one fault, and reading goes on at the next line.  Each round takes
a token at least (`round_length_lt`), so reading ends.

The note `// skip-validate` excuses the pickup of the next statement from validation.  Blank lines
and comments in between do not matter; every statement uses the excuse up.
-/

namespace SeedHeader

open Rule Grammar

/-! ### Comments -/

/-- The note that excuses the next pickup from validation. -/
def skipValidate : List Char := "skip-validate".toList

/-- What a comment of the given kind says, without its marker and the blanks around it. -/
def commentText (kind : CommentKind) (l : Lexeme) : List Char :=
  Text.trim (l.text.drop kind.markerLength)

/-- What a comment contributes when no statement stands before it on its line: the content, if it
is documentation, and whether the next pickup is excused. -/
def remark (skip : Bool) (pos : Nat) (l : Lexeme) : Option (Located Content) × Bool :=
  let span : Span := ⟨pos, pos + l.width⟩
  match l.commentKind with
  | none            => (none, skip)
  | some .note      => (none, skip || commentText .note l = skipValidate)
  | some .headerDoc =>
    (some ⟨span, .outerDocumentation (String.ofList (commentText .headerDoc l))⟩, skip)
  | some .configDoc =>
    (some ⟨span, .innerDocumentation (String.ofList (commentText .configDoc l))⟩, skip)

/-- Only documentation contributes a content. -/
theorem mem_remark_iff {skip : Bool} {pos : Nat} {l : Lexeme} {x : Located Content} :
    x ∈ (remark skip pos l).1 ↔
      (l.commentKind = some .headerDoc ∧ x = ⟨⟨pos, pos + l.width⟩,
        .outerDocumentation (String.ofList (commentText .headerDoc l))⟩) ∨
      (l.commentKind = some .configDoc ∧ x = ⟨⟨pos, pos + l.width⟩,
        .innerDocumentation (String.ofList (commentText .configDoc l))⟩) := by
  unfold remark
  cases l.commentKind with
  | none => simp
  | some kind => cases kind <;> simp [eq_comm]

/-- The token types that stand between statements. -/
def isBetween (type : TokenType) : Bool :=
  type = .newline || type = .whitespace || type = .comment

/-- Passes over newlines, whitespace and comments: the documentation among them, whether the next
pickup is excused after them, and the cursor behind them. -/
def interlude : (skip : Bool) → (pos : Nat) → List Lexeme → List (Located Content) × Bool × Cursor
  | skip, pos, [] => ([], skip, ⟨pos, []⟩)
  | skip, pos, l :: ls =>
    if isBetween l.type then
      let (content, skip) := remark skip pos l
      let (contents, skip, c) := interlude skip (pos + l.width) ls
      (content.toList ++ contents, skip, c)
    else ([], skip, ⟨pos, l :: ls⟩)

theorem interlude_of_between (skip : Bool) (pos : Nat) {l : Lexeme} (h : isBetween l.type)
    (ls : List Lexeme) :
    interlude skip pos (l :: ls) =
      ((remark skip pos l).1.toList ++ (interlude (remark skip pos l).2 (pos + l.width) ls).1,
        (interlude (remark skip pos l).2 (pos + l.width) ls).2) := by
  rw [interlude, if_pos h]

theorem interlude_of_not_between (skip : Bool) (pos : Nat) {l : Lexeme} (h : ¬ isBetween l.type)
    (ls : List Lexeme) : interlude skip pos (l :: ls) = ([], skip, ⟨pos, l :: ls⟩) := by
  rw [interlude, if_neg h]

/-! ### Documents -/

/-- The token types that may follow a statement on its line. -/
def isTrailing (type : TokenType) : Bool := type = .whitespace || type = .comment

/-- The end of a statement's line: whitespace and comments, and then the newline or the end of
the input.  Yields whether it was the end of the input. -/
def endOfLine : Rule Bool := do
  let _ ← skipWhile isTrailing
  if (← peek) = .eof then return true
  else do
    let _ ← eat .newline
    return false

theorem endOfLine_apply (c : Cursor) :
    endOfLine c =
      if (c.skipWhile isTrailing).type = .eof then .ok true (c.skipWhile isTrailing)
      else if (c.skipWhile isTrailing).type = .newline then
        .ok false (c.skipWhile isTrailing).next
      else .error ⟨.expectedToken .newline, (c.skipWhile isTrailing).span⟩
        (c.skipWhile isTrailing) := by
  rw [endOfLine, bind_of_ok (skipWhile_apply c _), peek_bind]
  split
  · rfl
  · exact accept_bind _ _ _ _

/-- What was read: the contents, the faults, and whether a pickup that follows is excused from
validation. -/
structure Reading where
  contents : List (Located Content)
  faults : List Fault
  skip : Bool
deriving DecidableEq, Repr

namespace Reading

/-- Nothing was read. -/
def empty (skip : Bool) : Reading := ⟨[], [], skip⟩

/-- One reading after the other. -/
def append (r s : Reading) : Reading := ⟨r.contents ++ s.contents, r.faults ++ s.faults, s.skip⟩

/-- Reads the statement under the cursor, and the rest of its line, and yields where reading goes
on, if it does.  A statement with something else behind it is read and has a fault. -/
def ofStatement (skip : Bool) (c : Cursor) : Reading × Option Cursor :=
  match statement skip c with
  | .error fault c => (⟨[], [fault], false⟩, some c.nextLine)
  | .ok content c =>
    match endOfLine c with
    | .error fault c => (⟨[content], [fault], false⟩, some c.nextLine)
    | .ok true _     => (⟨[content], [], skip⟩, none)
    | .ok false c    => (⟨[content], [], false⟩, some c)

/-- A round of reading: what stands before the next statement, and the statement. -/
def round (skip : Bool) (c : Cursor) : Reading × Option Cursor :=
  let (documentation, skip, c) := interlude skip c.pos c.ahead
  if c.type = .eof then (⟨documentation, [], skip⟩, none)
  else
    let (r, c) := ofStatement skip c
    (⟨documentation ++ r.contents, r.faults, r.skip⟩, c)

/-! ### Reading ends -/

theorem interlude_passes (skip : Bool) (pos : Nat) (ls : List Lexeme) :
    ∃ w, Cursor.Passes ⟨pos, ls⟩ w (interlude skip pos ls).2.2 := by
  induction ls generalizing skip pos with
  | nil => exact ⟨[], .refl _⟩
  | cons l ls ih =>
    unfold interlude
    split
    · obtain ⟨w, hw⟩ := ih (remark skip pos l).2 (pos + l.width)
      have hl : Cursor.Passes ⟨pos, l :: ls⟩ [l] ⟨pos + l.width, ls⟩ :=
        ⟨rfl, by simp [Lexeme.width]⟩
      exact ⟨_, hl.trans hw⟩
    · exact ⟨[], .refl _⟩

theorem nextLine_passes (c : Cursor) : ∃ w, c.Passes w c.nextLine := by
  obtain ⟨w, hw⟩ := Cursor.exists_passes_next (c.skipWhile (· ≠ .newline))
  exact ⟨_, (Cursor.passes_skipWhile (· ≠ .newline) c).trans hw⟩

theorem nextLine_length_le (c : Cursor) : c.nextLine.ahead.length ≤ c.ahead.length - 1 := by
  have h := (Cursor.passes_skipWhile (· ≠ .newline) c).length_le
  simp only [Cursor.nextLine, Cursor.next, List.length_tail]
  omega

theorem endOfLine_passes {c c' : Cursor} (h : endOfLine c = .ok false c') :
    ∃ w, w ≠ [] ∧ c.Passes w c' := by
  rw [endOfLine_apply] at h
  split at h
  · cases h
  split at h
  · next he hn =>
    cases h
    exact ⟨_, by simp, (Cursor.passes_skipWhile isTrailing c).trans (Cursor.passes_next he)⟩
  · cases h

theorem endOfLine_error_passes {c c' : Cursor} {fault : Fault}
    (h : endOfLine c = .error fault c') : ∃ w, c.Passes w c' := by
  rw [endOfLine_apply] at h
  split at h
  · cases h
  split at h
  · cases h
  · cases h; exact ⟨_, Cursor.passes_skipWhile isTrailing c⟩

/-- A line that is given up is passed together with the newline that ends it. -/
theorem passes_nextLine {c c₁ : Cursor} {w : List Lexeme} (hc : c.type ≠ .eof)
    (h : c.Passes w c₁) : ∃ v, v ≠ [] ∧ c.Passes v c₁.nextLine := by
  obtain ⟨v, hv⟩ := nextLine_passes c₁
  refine ⟨w ++ v, fun e => ?_, h.trans hv⟩
  obtain ⟨l, ls, ha, -⟩ := Cursor.ahead_of_type hc
  obtain ⟨rfl, rfl⟩ := List.append_eq_nil_iff.mp e
  have hlen := nextLine_length_le c₁
  rw [← List.nil_append c₁.nextLine.ahead, ← hv.ahead, ← List.nil_append c₁.ahead, ← h.ahead, ha,
    List.length_cons] at hlen
  omega

/-- After a statement the newline behind it is taken, or the one that ends its line. -/
theorem ofStatement_passes {skip : Bool} {c c' : Cursor} {r : Reading}
    (hc : c.type ≠ .eof) (h : ofStatement skip c = (r, some c')) :
    ∃ w, w ≠ [] ∧ c.Passes w c' := by
  unfold ofStatement at h
  split at h
  · next fault c₁ e =>
    obtain ⟨t, ht, ht', -⟩ := (statement_steady skip).error e
    obtain ⟨w, hw, -⟩ := ht.trans ht'
    cases h
    exact passes_nextLine hc hw
  · next content c₁ e =>
    obtain ⟨w, hw, -⟩ := (statement_steady skip).ok e
    split at h
    · next fault c₂ e' =>
      obtain ⟨v, hv⟩ := endOfLine_error_passes e'
      cases h
      exact passes_nextLine hc (hw.trans hv)
    · cases h
    · next c₂ e' =>
      obtain ⟨v, hne, hv⟩ := endOfLine_passes e'
      cases h
      exact ⟨w ++ v, by simp [hne], hw.trans hv⟩

/-- A round that is not the last one takes a token. -/
theorem round_passes {skip : Bool} {c c' : Cursor} {r : Reading}
    (h : round skip c = (r, some c')) : ∃ w, w ≠ [] ∧ c.Passes w c' := by
  obtain ⟨w, hw⟩ := interlude_passes skip c.pos c.ahead
  unfold round at h
  split at h
  next documentation skip' c₁ e =>
  rw [e] at hw
  split at h
  · cases h
  · next hc =>
    simp only [Prod.mk.injEq] at h
    obtain ⟨v, hne, hv⟩ := ofStatement_passes (r := (ofStatement skip' c₁).1) hc (by rw [← h.2])
    exact ⟨w ++ v, by simp [hne], hw.trans hv⟩

theorem round_length_lt {skip : Bool} {c c' : Cursor} {r : Reading}
    (h : round skip c = (r, some c')) : c'.ahead.length < c.ahead.length := by
  obtain ⟨w, hne, hw⟩ := round_passes h
  have := List.length_pos_iff.mpr hne
  rw [hw.ahead, List.length_append]
  omega

/-- Reads what lies ahead of a cursor, round after round. -/
def ofCursorFrom (skip : Bool) (c : Cursor) : Reading :=
  match _h : round skip c with
  | (r, none)    => r
  | (r, some c') => r.append (ofCursorFrom r.skip c')
termination_by c.ahead.length
decreasing_by exact round_length_lt _h

theorem ofCursorFrom_of_none {skip : Bool} {c : Cursor} {r : Reading}
    (h : round skip c = (r, none)) : ofCursorFrom skip c = r := by
  rw [ofCursorFrom]
  split
  · next e => rw [h] at e; cases e; rfl
  · next e => rw [h] at e; cases e

theorem ofCursorFrom_of_some {skip : Bool} {c c' : Cursor} {r : Reading}
    (h : round skip c = (r, some c')) :
    ofCursorFrom skip c = r.append (ofCursorFrom r.skip c') := by
  rw [ofCursorFrom]
  split
  · next e => rw [h] at e; cases e
  · next e => rw [h] at e; cases e; rfl

/-- Reads what lies ahead of a cursor. -/
def ofCursor (c : Cursor) : Reading := ofCursorFrom false c

/-- Reads a text. -/
def ofText (text : List Char) : Reading := ofCursor (.ofText text)

/-- The diagnostics, one for each faulty line. -/
def diagnostics (r : Reading) : List Diagnostic := r.faults.map Fault.diagnostic

/-- The contents, provided that every line was read. -/
def document? (r : Reading) : Option (List (Located Content)) :=
  if r.faults.isEmpty then some r.contents else none

end Reading

/-- The contents of a header, or the faults of its lines. -/
def parse (text : List Char) : Except (List Fault) (List (Located Content)) :=
  let r := Reading.ofText text
  if r.faults.isEmpty then .ok r.contents else .error r.faults

end SeedHeader
