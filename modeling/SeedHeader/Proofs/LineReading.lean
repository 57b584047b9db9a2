import SeedHeader.Proofs.Acceptance

/-!
# Proofs — What each line yields

A header that is accepted is read line by line.  A blank line yields nothing, a comment that stands
alone yields what it remarks, and any other line yields the statement on it (`LineYields`).  The
only thing that passes from one line to the next is whether a pickup is excused.

`linesYield` says this of every header without a fault: it is the induction behind whatever holds of
all of its contents.
-/

namespace SeedHeader

open Rule Grammar

/-- The span covers lexemes at the front of `ls`: one at least, and neither a newline nor a
comment. -/
def Span.Covers (span : Span) (ls : List Lexeme) : Prop :=
  ∃ w tail, ls = w ++ tail ∧ w ≠ [] ∧ (∀ l ∈ w, isTextual l.type) ∧
    span.stop = span.start + (charsOf w).length

/-- What is read from a line at offset `pos`, and whether a pickup on the next line is excused. -/
inductive LineYields (skip : Bool) (pos : Nat) :
    List Lexeme → List (Located Content) → Bool → Prop where
  | blank {indent : List Lexeme} (hi : IsOptional .whitespace indent) :
      LineYields skip pos indent [] skip
  | comment {indent : List Lexeme} {l : Lexeme} (hi : IsOptional .whitespace indent)
      (hl : l.type = .comment) :
      LineYields skip pos (indent ++ [l])
        (remark skip (pos + (charsOf indent).length) l).1.toList
        (remark skip (pos + (charsOf indent).length) l).2
  | statement {indent ls : List Lexeme} {l : Lexeme} {content : Located Content}
      (hi : IsOptional .whitespace indent) (hl : isBetween l.type = false)
      (hcontent : content.val.StatedUnder skip)
      (hstart : content.span.start = pos + (charsOf indent).length)
      (hcovers : content.span.Covers (l :: ls)) :
      LineYields skip pos (indent ++ l :: ls) [content] false

/-- What is read from lines, the first of which is at offset `pos`. -/
inductive LinesYield : Bool → Nat → List Lexeme → List (Located Content) → Prop where
  | last {skip after : Bool} {pos : Nat} {line : List Lexeme} {contents : List (Located Content)}
      (hline : ∀ l ∈ line, l.type ≠ .newline) (h : LineYields skip pos line contents after) :
      LinesYield skip pos line contents
  | next {skip after : Bool} {pos : Nat} {line more : List Lexeme} {l : Lexeme}
      {contents contents' : List (Located Content)}
      (hline : ∀ l ∈ line, l.type ≠ .newline) (h : LineYields skip pos line contents after)
      (hl : l.type = .newline)
      (hmore : LinesYield after (pos + (charsOf (line ++ [l])).length) more contents') :
      LinesYield skip pos (line ++ l :: more) (contents ++ contents')

/-! ### One line -/

theorem interlude_append_of_optional {indent : List Lexeme} (hi : IsOptional .whitespace indent)
    (skip : Bool) (pos : Nat) (ls : List Lexeme) :
    interlude skip pos (indent ++ ls) = interlude skip (pos + (charsOf indent).length) ls := by
  rcases hi with rfl | ⟨cs, rfl⟩
  · rfl
  · have hremark : remark skip pos ⟨.whitespace, cs⟩ = (none, skip) := rfl
    rw [List.singleton_append, interlude_of_between _ _ rfl, hremark]
    simp [Lexeme.width]

/-- A newline, or nothing, is all that is left. -/
theorem interlude_rest {rest : List Lexeme} (hrest : EndsLine rest) (hlen : rest.length ≤ 1)
    (skip : Bool) (pos : Nat) :
    ∃ c : Cursor, interlude skip pos rest = ([], skip, c) ∧ c.type = .eof := by
  match rest, hlen with
  | [], _ => exact ⟨⟨pos, []⟩, rfl, rfl⟩
  | [l], _ =>
    have hl : l.type = .newline := hrest l rfl
    have hb : isBetween l.type := by rw [hl]; rfl
    have hremark : remark skip pos l = (none, skip) := by
      simp [remark, Lexeme.commentKind, hl]
    refine ⟨⟨pos + l.width, []⟩, ?_, rfl⟩
    rw [interlude_of_between _ _ hb, hremark]
    rfl

namespace Reading

/-- Reading of a line without a statement ends with the line. -/
theorem ofCursorFrom_of_remark {skip skip' : Bool} {pos pos' : Nat} {ls rest : List Lexeme}
    {documentation : List (Located Content)} (hrest : EndsLine rest) (hlen : rest.length ≤ 1)
    (h : interlude skip pos ls =
      (documentation ++ (interlude skip' pos' rest).1, (interlude skip' pos' rest).2)) :
    ofCursorFrom skip ⟨pos, ls⟩ = ⟨documentation, [], skip'⟩ := by
  obtain ⟨c, hc, heof⟩ := interlude_rest hrest hlen skip' pos'
  rw [hc, List.append_nil] at h
  exact ofCursorFrom_of_none (round_of_eof (c := ⟨pos, ls⟩) h heof)

/-- Lexemes without a newline that come first are on the first line. -/
theorem exists_append_of_textual {body rest w v : List Lexeme} (hrest : EndsLine rest)
    (hw : ∀ l ∈ w, isTextual l.type) (h : body ++ rest = w ++ v) : ∃ tail, body = w ++ tail := by
  rcases List.append_eq_append_iff.mp h with ⟨u, rfl, hu⟩ | ⟨u, rfl, -⟩
  · cases u with
    | nil => exact ⟨[], by simp⟩
    | cons l u =>
      have hl := hw l (by simp)
      rw [hrest l (by simp [hu])] at hl
      cases hl
  · exact ⟨u, rfl⟩

/-- The content of a statement covers the tokens that the statement takes. -/
theorem ofStatement_covers {skip : Bool} {c : Cursor} {content : Located Content}
    {body rest : List Lexeme} (h : (ofStatement skip c).1.contents = [content])
    (hc : c.ahead = body ++ rest) (hlexed : Lexed c.ahead) (hrest : EndsLine rest) :
    content.span.Covers body := by
  cases hs : statement skip c with
  | error fault c₁ =>
    unfold ofStatement at h
    rw [hs] at h
    cases h
  | ok content' c₁ =>
    obtain rfl : content' = content := by
      unfold ofStatement at h
      rw [hs] at h
      cases he : endOfLine c₁ with
      | error fault c₂ => simpa [he] using h
      | ok ended c₂ => cases ended <;> simpa [he] using h
    obtain ⟨w, hw, htext⟩ := (statement_steady skip).ok hs
    obtain ⟨w', hw', hphrase⟩ := (statement_reads skip).ok hlexed hs
    obtain rfl : w = w' := List.append_cancel_right (hw.ahead.symm.trans hw'.ahead)
    obtain ⟨l, ls, hopens, -⟩ := ((isStatement_iff skip).mpr ⟨_, hphrase⟩).opens
    obtain ⟨tail, htail⟩ := exists_append_of_textual hrest htext (hc.symm.trans hw.ahead)
    refine ⟨w, tail, htail, by simp [hopens], htext, ?_⟩
    rw [(located_ok hs).2, hw.pos]

/-- A line with a statement yields its content, and the excuse is used up if another line
follows. -/
theorem ofCursorFrom_of_statement {skip : Bool} {pos pos' : Nat} {ls body rest : List Lexeme}
    (hi : interlude skip pos ls = ([], skip, ⟨pos', body ++ rest⟩)) (hne : body ≠ [])
    (hbody : ∀ l ∈ body, l.type ≠ .newline) (hrest : EndsLine rest) (hlen : rest.length ≤ 1)
    (hlexed : Lexed (body ++ rest)) (hf : (ofCursorFrom skip ⟨pos, ls⟩).faults = []) :
    ∃ content, (ofCursorFrom skip ⟨pos, ls⟩).contents = [content] ∧
      content.val.StatedUnder skip ∧ content.span.start = pos' ∧ content.span.Covers body ∧
      (rest ≠ [] → (ofCursorFrom skip ⟨pos, ls⟩).skip = false) := by
  have hinked : Inked (body ++ rest) := hlexed.inked
  have hne' : (⟨pos', body ++ rest⟩ : Cursor).type ≠ .eof := fun heof =>
    hne (List.append_eq_nil_iff.mp (hinked.type_eq_eof_iff.mp heof)).1
  have hr := round_of_ne_eof (c := ⟨pos, ls⟩) hi hne'
  have hf' := (faults_of_line (c := ⟨pos, ls⟩) hi hne' rfl hbody hlen).mp hf
  obtain ⟨content, hone, hkind, hstart⟩ := ofStatement_content hf'
  have hcovers := ofStatement_covers hone rfl hlexed hrest
  refine ⟨content, ?_⟩
  cases hn : (ofStatement skip ⟨pos', body ++ rest⟩).2 with
  | none =>
    rw [hn] at hr
    rw [ofCursorFrom_of_none hr]
    refine ⟨hone, hkind, hstart, hcovers, fun hr' => ?_⟩
    -- reading does not end before the newline
    obtain ⟨l, ls', rfl⟩ := List.exists_cons_of_ne_nil hr'
    have hg : (⟨pos', body ++ l :: ls'⟩ : Cursor).Guards (l :: ls') :=
      .inr ⟨l, by simp, hrest l rfl⟩
    exact absurd ((ofStatement_embed (n := 0) skip hg hinked).2 hn) hr'
  | some c₂ =>
    have hskip := ofStatement_skip hn
    obtain ⟨pos₂, ahead₂⟩ := c₂
    obtain rfl : ahead₂ = [] := ofStatement_next_nil rfl hbody hlen hf' hn
    rw [hn] at hr
    rw [ofCursorFrom_of_some hr, ofCursorFrom_nil]
    refine ⟨?_, hkind, hstart, hcovers, fun _ => hskip⟩
    simpa [append, after, empty] using hone

end Reading

/-- What an accepted line yields. -/
theorem lineYields (skip : Bool) (pos : Nat) {line rest : List Lexeme}
    (hline : ∀ l ∈ line, l.type ≠ .newline) (hrest : EndsLine rest) (hlen : rest.length ≤ 1)
    (h : Lexed (line ++ rest)) (hf : (Reading.ofCursorFrom skip ⟨pos, line ++ rest⟩).faults = []) :
    ∃ after, LineYields skip pos line
        (Reading.ofCursorFrom skip ⟨pos, line ++ rest⟩).contents after ∧
      (rest ≠ [] → (Reading.ofCursorFrom skip ⟨pos, line ++ rest⟩).skip = after) := by
  have haccepted : IsLine line := (line_faults skip pos hline hrest hlen h).mp hf
  obtain ⟨indent, body, rfl, hi, rfl | ⟨cs, rfl⟩ | ⟨w, tail, rfl, hs, -⟩⟩ := haccepted
  · -- a blank line
    have hpass : interlude skip pos (indent ++ [] ++ rest) =
        ([] ++ (interlude skip (pos + (charsOf indent).length) rest).1,
          (interlude skip (pos + (charsOf indent).length) rest).2) := by
      rw [List.append_nil, interlude_append_of_optional hi]
      rfl
    rw [Reading.ofCursorFrom_of_remark hrest hlen hpass, List.append_nil]
    exact ⟨skip, .blank hi, fun _ => rfl⟩
  · -- a comment that stands alone
    have hb : isBetween (⟨.comment, cs⟩ : Lexeme).type := rfl
    have hpass := interlude_of_between skip (pos + (charsOf indent).length) hb rest
    rw [← List.singleton_append, ← interlude_append_of_optional hi, ← List.append_assoc] at hpass
    rw [Reading.ofCursorFrom_of_remark hrest hlen hpass]
    exact ⟨_, .comment hi rfl, fun _ => rfl⟩
  · -- a statement
    obtain ⟨l, ls, rfl, hl⟩ := hs.opens
    have hbody : ∀ m ∈ l :: ls ++ tail, m.type ≠ .newline :=
      fun m hm => hline m (List.mem_append_right _ hm)
    have hstart : interlude skip pos (indent ++ (l :: ls ++ tail) ++ rest) =
        ([], skip, ⟨pos + (charsOf indent).length, l :: ls ++ tail ++ rest⟩) := by
      rw [List.append_assoc, interlude_append_of_optional hi]
      exact interlude_of_not_between _ _ (by simp [hl]) _
    rw [List.append_assoc] at h
    obtain ⟨content, hcontents, hkind, hpos, hcovers, hskip⟩ :=
      Reading.ofCursorFrom_of_statement hstart (by simp) hbody hrest hlen h.right hf
    rw [hcontents]
    exact ⟨false, .statement hi hl hkind hpos hcovers, hskip⟩

/-! ### All lines -/

/-- **What a header without faults yields, line by line.** -/
theorem linesYield (skip : Bool) (pos : Nat) {ls : List Lexeme} (h : Lexed ls)
    (hf : (Reading.ofCursorFrom skip ⟨pos, ls⟩).faults = []) :
    LinesYield skip pos ls (Reading.ofCursorFrom skip ⟨pos, ls⟩).contents := by
  induction ls using lines_induction generalizing skip pos with
  | last line hline =>
    have hends : EndsLine [] := by simp [EndsLine]
    rw [← List.append_nil line] at h hf
    obtain ⟨after, hyields, -⟩ := lineYields skip pos hline hends (by simp) h hf
    rw [List.append_nil] at hyields
    exact .last hline hyields
  | next line l more hline hl ih =>
    have hends : EndsLine [l] := by simpa [EndsLine] using hl
    rw [Reading.ofCursorFrom_line skip pos h hl] at hf ⊢
    obtain ⟨hfirst, hmore⟩ := List.append_eq_nil_iff.mp hf
    have hlex : Lexed (line ++ [l]) := (List.append_cons line l more ▸ h).left
    obtain ⟨after, hyields, hskip⟩ := lineYields skip pos hline hends (by simp) hlex hfirst
    obtain rfl := hskip (by simp)
    exact .next hline hyields hl (ih _ _ h.right.tail hmore)

end SeedHeader
