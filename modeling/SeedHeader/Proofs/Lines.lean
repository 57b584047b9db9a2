import SeedHeader.Reading
import SeedHeader.Proofs.Embedding

/-!
# Proofs — Reading goes line by line

A list of lexemes is *sealed* when it is empty or ends with a newline.  Reading a sealed list and
then more is reading the one after the other: the second reading starts with the excuse that the
first one left, at the place where the first one ended, and nothing else passes between them
(`ofCursorFrom_embed`).  Where a list stands in the text only shifts what is read.
-/

namespace SeedHeader

/-! ### Whole lines -/

/-- Nothing, or lexemes that end with a newline. -/
def Sealed (ls : List Lexeme) : Prop := ∀ l ∈ ls.getLast?, l.type = .newline

/-- No lexeme stands for the end of the input. -/
def Inked (ls : List Lexeme) : Prop := ∀ l ∈ ls, l.type ≠ .eof

theorem Sealed.right {ls ms : List Lexeme} (h : Sealed (ls ++ ms)) : Sealed ms := by
  intro l hl
  refine h l ?_
  rw [List.getLast?_append]
  simp only [Option.mem_def] at hl ⊢
  rw [hl]
  rfl

theorem Sealed.exists_newline {ls : List Lexeme} (h : Sealed ls) (hne : ls ≠ []) :
    ∃ l ∈ ls, l.type = .newline :=
  ⟨ls.getLast hne, List.getLast_mem hne, h _ (List.getLast?_eq_some_getLast hne)⟩

theorem Inked.right {ls ms : List Lexeme} (h : Inked (ls ++ ms)) : Inked ms :=
  fun l hl => h l (List.mem_append_right ls hl)

theorem Inked.type_eq_eof_iff {c : Cursor} (h : Inked c.ahead) : c.type = .eof ↔ c.ahead = [] := by
  cases ha : c.ahead with
  | nil => simp [Cursor.type, Cursor.lexeme, ha]
  | cons l ls =>
    have hl := h l (by simp [ha])
    simpa [Cursor.type, Cursor.lexeme, ha] using hl

/-! ### Readings further on -/

namespace Reading

/-- The reading `n` characters further on. -/
def shift (n : Nat) (r : Reading) : Reading :=
  ⟨r.contents.map (Located.shiftContent n), r.faults.map (Fault.shift n), r.skip⟩

theorem append_assoc (r s t : Reading) : (r.append s).append t = r.append (s.append t) := by
  simp [append]

theorem append_empty (r : Reading) : r.append (empty r.skip) = r := by
  simp [append, empty]

theorem shift_append (n : Nat) (r s : Reading) :
    (r.append s).shift n = (r.shift n).append (s.shift n) := by
  simp [append, shift]

@[simp] theorem skip_append (r s : Reading) : (r.append s).skip = s.skip := rfl

@[simp] theorem skip_shift (n : Nat) (r : Reading) : (r.shift n).skip = r.skip := rfl

end Reading

/-! ### Between statements -/

theorem remark_shift (n : Nat) (skip : Bool) (pos : Nat) (l : Lexeme) :
    remark skip (n + pos) l =
      ((remark skip pos l).1.map (Located.shiftContent n), (remark skip pos l).2) := by
  unfold remark
  cases l.commentKind with
  | none => rfl
  | some kind => cases kind <;> simp [Located.shiftContent, Located.relocate, Content.relocate,
      Span.shift, Nat.add_assoc]

/-- What stands between statements is passed over in the same way wherever it stands.  If `more`
follows, passing goes on there exactly if nothing stopped it before. -/
theorem interlude_embed (n : Nat) (skip : Bool) (pos : Nat) (ls more : List Lexeme) :
    interlude skip (n + pos) (ls ++ more) =
      let (documentation, skip, c) := interlude skip pos ls
      if c.ahead = [] then
        (documentation.map (Located.shiftContent n) ++ (interlude skip (n + c.pos) more).1,
          (interlude skip (n + c.pos) more).2)
      else (documentation.map (Located.shiftContent n), skip, c.embed n more) := by
  induction ls generalizing skip pos with
  | nil => simp [interlude]
  | cons l ls ih =>
    by_cases hl : isBetween l.type
    · rw [List.cons_append, interlude_of_between _ _ hl, interlude_of_between _ _ hl, remark_shift,
        Nat.add_assoc, ih]
      cases (remark skip pos l).1 with
      | none => simp
      | some x =>
        simp only [Option.map_some, Option.toList_some]
        split <;> simp
    · rw [List.cons_append, interlude_of_not_between _ _ hl, interlude_of_not_between _ _ hl]
      simp [Cursor.embed]

/-- What every remark has, the documentation between statements has.  A remark may rely on what is
known of the cursor at its comment, if passing tokens keeps it. -/
theorem interlude_forall {P : Cursor → Prop} {Q : Located Content → Prop}
    (hpasses : ∀ {c c' w}, P c → c.Passes w c' → P c')
    (hremark : ∀ {skip pos l ls}, P ⟨pos, l :: ls⟩ → isBetween l.type →
      ∀ x ∈ (remark skip pos l).1, Q x)
    (skip : Bool) {pos : Nat} {ls : List Lexeme} (h : P ⟨pos, ls⟩) :
    ∀ x ∈ (interlude skip pos ls).1, Q x := by
  induction ls generalizing skip pos with
  | nil => simp [interlude]
  | cons l ls ih =>
    by_cases hl : isBetween l.type
    · rw [interlude_of_between _ _ hl]
      intro x hx
      rcases List.mem_append.mp hx with hx | hx
      · exact hremark h hl x (by simpa using hx)
      · have hnext : Cursor.Passes ⟨pos, l :: ls⟩ [l] ⟨pos + l.width, ls⟩ :=
          ⟨rfl, by simp [Lexeme.width]⟩
        exact ih _ (hpasses h hnext) x hx
    · rw [interlude_of_not_between _ _ hl]
      simp

namespace Reading

open Rule Grammar

/-- The reading after some documentation. -/
def after (documentation : List (Located Content)) (r : Reading) : Reading :=
  ⟨documentation ++ r.contents, r.faults, r.skip⟩

theorem round_of_eof {skip skip' : Bool} {c c' : Cursor} {documentation : List (Located Content)}
    (hi : interlude skip c.pos c.ahead = (documentation, skip', c')) (h : c'.type = .eof) :
    round skip c = (⟨documentation, [], skip'⟩, none) := by
  rw [round, hi]
  exact if_pos h

theorem round_of_ne_eof {skip skip' : Bool} {c c' : Cursor}
    {documentation : List (Located Content)}
    (hi : interlude skip c.pos c.ahead = (documentation, skip', c')) (h : c'.type ≠ .eof) :
    round skip c =
      ((ofStatement skip' c').1.after documentation, (ofStatement skip' c').2) := by
  rw [round, hi]
  exact if_neg h

/-- What is passed before a statement leads from the cursor of the round to the one of the
statement. -/
theorem exists_interlude (skip : Bool) (c : Cursor) :
    ∃ documentation skip' c₁ w, interlude skip c.pos c.ahead = (documentation, skip', c₁) ∧
      c.Passes w c₁ := by
  obtain ⟨w, hw⟩ := interlude_passes skip c.pos c.ahead
  exact ⟨_, _, _, w, rfl, hw⟩

/-- Induction on a reading: what holds of a cursor if it holds where the next round starts. -/
theorem round_induction {motive : Bool → Cursor → Prop}
    (step : ∀ skip c, (∀ r c', round skip c = (r, some c') → motive r.skip c') → motive skip c)
    (skip : Bool) (c : Cursor) : motive skip c := by
  induction hn : c.ahead.length using Nat.strongRecOn generalizing skip c with
  | ind n ih =>
    refine step skip c fun r c' h => ?_
    exact ih _ (hn ▸ round_length_lt h) r.skip c' rfl

/-- What each round yields, a whole reading yields.  The rounds may rely on what is known of the
cursor that reading starts at, if passing tokens keeps it. -/
theorem of_rounds {P : Cursor → Prop} {Q : Reading → Prop}
    (hpasses : ∀ {c c' w}, P c → c.Passes w c' → P c')
    (happend : ∀ {r s}, Q r → Q s → Q (r.append s))
    (hround : ∀ skip {c}, P c → Q (round skip c).1) (skip : Bool) {c : Cursor} (hc : P c) :
    Q (ofCursorFrom skip c) := by
  induction skip, c using round_induction with
  | step skip c ih =>
  have hfirst := hround skip hc
  cases hr : round skip c with
  | mk r next =>
  rw [hr] at hfirst
  cases next with
  | none => rwa [ofCursorFrom_of_none hr]
  | some c' =>
    obtain ⟨w, -, hw⟩ := round_passes hr
    rw [ofCursorFrom_of_some hr]
    exact happend hfirst (ih r c' hr (hpasses hc hw))

/-- What every remark and every statement has, all contents of a reading have. -/
theorem contents_forall {P : Cursor → Prop} {Q : Located Content → Prop}
    (hpasses : ∀ {c c' w}, P c → c.Passes w c' → P c')
    (hremark : ∀ {skip pos l ls}, P ⟨pos, l :: ls⟩ → isBetween l.type →
      ∀ x ∈ (remark skip pos l).1, Q x)
    (hstatement : ∀ {skip c x c'}, P c → statement skip c = .ok x c' → Q x) (skip : Bool)
    {c : Cursor} (hc : P c) : ∀ x ∈ (ofCursorFrom skip c).contents, Q x := by
  have ofStatement_forall : ∀ skip {c}, P c → ∀ x ∈ (ofStatement skip c).1.contents, Q x := by
    intro skip c hc
    unfold ofStatement
    split
    · simp
    · next content c₁ h =>
      have hcontent := hstatement hc h
      -- the statement is read, whatever stands behind it
      split <;> simpa using hcontent
  refine of_rounds (Q := fun r => ∀ x ∈ r.contents, Q x) hpasses
    (fun hr hs => List.forall_mem_append.mpr ⟨hr, hs⟩) (fun skip c hc => ?_) skip hc
  obtain ⟨documentation, skip', c₁, w, e, hw⟩ := exists_interlude skip c
  have hdoc := interlude_forall hpasses hremark skip hc
  rw [e] at hdoc
  by_cases hne : c₁.type = .eof
  · rw [round_of_eof e hne]
    exact hdoc
  · rw [round_of_ne_eof e hne]
    exact List.forall_mem_append.mpr ⟨hdoc, ofStatement_forall skip' (hpasses hc hw)⟩

/-- No statement opens with what stands between statements, or with nothing. -/
theorem statement_opens {skip : Bool} {c c' : Cursor} {x : Located Content}
    (h : statement skip c = .ok x c') : isBetween c.type = false ∧ c.type ≠ .eof := by
  have hbody := (located_ok h).1
  rw [statementBody, peek_bind] at hbody
  cases ht : c.type with
  | newline | whitespace | comment | eof => rw [ht] at hbody; cases hbody
  | _ => exact ⟨rfl, by decide⟩

/-- Where a statement opens, a round reads that statement. -/
theorem round_of_opening (skip : Bool) {c : Cursor} (hb : isBetween c.type = false)
    (he : c.type ≠ .eof) : round skip c = ofStatement skip c := by
  obtain ⟨l, ls, hahead, hl⟩ := Cursor.ahead_of_type he
  have hi : interlude skip c.pos c.ahead = ([], skip, c) := by
    have hbetween : ¬ isBetween l.type := by rw [← hl]; exact Bool.eq_false_iff.mp hb
    rw [hahead, interlude_of_not_between _ _ hbetween, ← hahead]
  rw [round_of_ne_eof hi he]
  rfl

/-- What becomes of a statement that is read depends on what stands behind whitespace and
comments. -/
theorem ofStatement_of_ok {skip : Bool} {c c₁ : Cursor} {content : Located Content}
    (hs : statement skip c = .ok content c₁) :
    ofStatement skip c =
      if (c₁.skipWhile isTrailing).type = .eof then (⟨[content], [], skip⟩, none)
      else if (c₁.skipWhile isTrailing).type = .newline then
        (⟨[content], [], false⟩, some (c₁.skipWhile isTrailing).next)
      else (⟨[content], [⟨.expectedToken .newline, (c₁.skipWhile isTrailing).span⟩], false⟩,
        some (c₁.skipWhile isTrailing).nextLine) := by
  unfold ofStatement
  rw [hs]
  simp only [endOfLine_apply]
  by_cases he : (c₁.skipWhile isTrailing).type = .eof
  · simp only [if_pos he]
  by_cases hn : (c₁.skipWhile isTrailing).type = .newline
  · simp only [if_neg he, if_pos hn]
  · simp only [if_neg he, if_neg hn]

theorem ofCursorFrom_nil (skip : Bool) (pos : Nat) : ofCursorFrom skip ⟨pos, []⟩ = empty skip :=
  ofCursorFrom_of_none (round_of_eof rfl rfl)

/-- Documentation that is passed before reading starts is put in front of what is read. -/
theorem ofCursorFrom_of_interlude {skip skip' : Bool} {c c' : Cursor}
    {documentation : List (Located Content)}
    (h : interlude skip c.pos c.ahead =
      (documentation ++ (interlude skip' c'.pos c'.ahead).1, (interlude skip' c'.pos c'.ahead).2)) :
    ofCursorFrom skip c = (ofCursorFrom skip' c').after documentation := by
  obtain ⟨documentation', skip₁, c₁, -, e, -⟩ := exists_interlude skip' c'
  rw [e] at h
  by_cases hc : c₁.type = .eof
  · rw [ofCursorFrom_of_none (round_of_eof h hc), ofCursorFrom_of_none (round_of_eof e hc)]
    rfl
  · have hr := round_of_ne_eof h hc
    have hr' := round_of_ne_eof e hc
    cases hs : (ofStatement skip₁ c₁).2 with
    | none =>
      rw [hs] at hr hr'
      rw [ofCursorFrom_of_none hr, ofCursorFrom_of_none hr']
      simp [after]
    | some c₂ =>
      rw [hs] at hr hr'
      rw [ofCursorFrom_of_some hr, ofCursorFrom_of_some hr']
      simp [after, append]

/-! ### Statements -/

variable {n : Nat} {more : List Lexeme} {c : Cursor}

theorem nextLine_embed (h : c.Guards more) : (c.embed n more).nextLine = c.nextLine.embed n more := by
  rw [Cursor.nextLine, Cursor.skipWhile_embed (by decide) h,
    Cursor.next_embed (h.skipWhile (by decide)), Cursor.nextLine]

theorem endOfLine_embed (h : c.Guards more) :
    endOfLine (c.embed n more) = Rule.embed n more id (endOfLine c) := by
  have hs := h.skipWhile (p := isTrailing) (by decide)
  rw [endOfLine_apply, endOfLine_apply, Cursor.skipWhile_embed (by decide) h, Cursor.type_embed hs,
    Cursor.next_embed hs, Cursor.span_embed hs]
  split
  · rfl
  split
  · rfl
  · rfl

/-- Reading a statement ends at the end of the input only. -/
theorem endOfLine_true (h : c.Guards more) (hi : Inked c.ahead) {c' : Cursor}
    (e : endOfLine c = .ok true c') : more = [] := by
  have hp := Cursor.passes_skipWhile isTrailing c
  rw [endOfLine_apply] at e
  split at e
  · next he =>
    have hnil := (Inked.type_eq_eof_iff (hp.ahead ▸ hi).right).mp he
    rcases h.skipWhile (p := isTrailing) (by decide) with hm | ⟨l, hl, -⟩
    · exact hm
    · rw [hnil] at hl; cases hl
  split at e
  · cases e
  · cases e

theorem endOfLine_error_guards (h : c.Guards more) {c' : Cursor} {fault : Fault}
    (e : endOfLine c = .error fault c') : c'.Guards more := by
  rw [endOfLine_apply] at e
  split at e
  · cases e
  split at e
  · cases e
  · cases e; exact h.skipWhile (by decide)

/-- A statement and the rest of its line are read in the same way wherever the line stands, and
reading ends with them only if nothing follows. -/
theorem ofStatement_embed (skip : Bool) (h : c.Guards more) (hi : Inked c.ahead) :
    ofStatement skip (c.embed n more) =
        ((ofStatement skip c).1.shift n, (ofStatement skip c).2.map (Cursor.embed n more)) ∧
      ((ofStatement skip c).2 = none → more = []) := by
  obtain ⟨e, hg⟩ := statement_moved (n := n) skip c h
  unfold ofStatement
  rw [e]
  cases hs : statement skip c with
  | error fault c₁ =>
    have hg₁ : c₁.Guards more := by rw [hs] at hg; exact hg
    simp only [Rule.embed, nextLine_embed hg₁]
    exact ⟨rfl, by simp⟩
  | ok content c₁ =>
    have hg₁ : c₁.Guards more := by rw [hs] at hg; exact hg
    obtain ⟨w, hw, -⟩ := (statement_steady skip).ok hs
    simp only [Rule.embed, endOfLine_embed hg₁]
    cases he : endOfLine c₁ with
    | error fault c₂ =>
      simp only [nextLine_embed (endOfLine_error_guards hg₁ he)]
      exact ⟨rfl, by simp⟩
    | ok ended c₂ =>
      cases ended with
      | true => exact ⟨rfl, fun _ => endOfLine_true hg₁ (hw.ahead ▸ hi).right he⟩
      | false => exact ⟨rfl, by simp⟩

/-! ### Rounds -/

theorem shift_after (n : Nat) (documentation : List (Located Content)) (r : Reading) :
    (r.after documentation).shift n =
      (r.shift n).after (documentation.map (Located.shiftContent n)) := by
  simp [after, shift]

/-- **Reading goes line by line.**  Reading whole lines, `n` characters further on, and then
`more`, is reading the lines and then `more`.  Only the excuse from validation passes from the
first reading to the second. -/
theorem ofCursorFrom_embed (n : Nat) (skip : Bool) (hi : Inked c.ahead)
    (h : more = [] ∨ Sealed c.ahead) :
    ofCursorFrom skip (c.embed n more) =
      ((ofCursorFrom skip c).shift n).append
        (ofCursorFrom (ofCursorFrom skip c).skip
          ⟨n + (c.pos + (charsOf c.ahead).length), more⟩) := by
  induction hlen : c.ahead.length using Nat.strongRecOn generalizing c skip with
  | ind m ih =>
  obtain ⟨documentation, skip', c₁, w, e, hw⟩ := exists_interlude skip c
  have he := interlude_embed n skip c.pos c.ahead more
  simp only [e] at he
  have hi₁ : Inked c₁.ahead := (hw.ahead ▸ hi).right
  by_cases hnil : c₁.ahead = []
  · -- nothing is left: passing goes on in `more`
    rw [if_pos hnil] at he
    have hpos : c₁.pos = c.pos + (charsOf c.ahead).length := by
      have ha := hw.ahead
      rw [hnil, List.append_nil] at ha
      rw [hw.pos, ← ha]
    have hr := ofCursorFrom_of_none (round_of_eof e (hi₁.type_eq_eof_iff.mpr hnil))
    have hmore : ofCursorFrom skip (c.embed n more) =
        (ofCursorFrom skip' ⟨n + c₁.pos, more⟩).after _ := ofCursorFrom_of_interlude he
    rw [hr, hmore, hpos]
    simp [after, append, shift]
  · rw [if_neg hnil] at he
    have hne : c₁.type ≠ .eof := fun hc => hnil (hi₁.type_eq_eof_iff.mp hc)
    have hg : c₁.Guards more := by
      rcases h with h | h
      · exact .inl h
      · exact .inr ((hw.ahead ▸ h).right.exists_newline hnil)
    have hr := round_of_ne_eof e hne
    have hne' : (c₁.embed n more).type ≠ .eof := by rwa [Cursor.type_embed hg]
    have hr' := round_of_ne_eof (c := c.embed n more) he hne'
    obtain ⟨hs, hnone⟩ := ofStatement_embed (n := n) skip' hg hi₁
    rw [hs] at hr'
    cases hnext : (ofStatement skip' c₁).2 with
    | none =>
      obtain rfl := hnone hnext
      rw [hnext] at hr hr'
      rw [ofCursorFrom_of_none hr, ofCursorFrom_of_none hr', ofCursorFrom_nil, ← skip_shift n,
        append_empty, shift_after]
    | some c₂ =>
      rw [hnext] at hr hr'
      obtain ⟨v, hv, hp⟩ := round_passes hr
      have hlt : c₂.ahead.length < m := hlen ▸ round_length_lt hr
      have hpos : c₂.pos + (charsOf c₂.ahead).length = c.pos + (charsOf c.ahead).length := by
        rw [hp.pos, hp.ahead, charsOf_append, List.length_append, Nat.add_assoc]
      have hseal : more = [] ∨ Sealed c₂.ahead := h.imp id fun h => (hp.ahead ▸ h).right
      rw [ofCursorFrom_of_some hr, ofCursorFrom_of_some hr', ← shift_after,
        shift_append, append_assoc, skip_append, skip_shift,
        ih _ hlt _ (hp.ahead ▸ hi).right hseal rfl, hpos]

end Reading

end SeedHeader
