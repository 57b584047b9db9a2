import Mathlib.Data.List.Chain
import SeedHeader.Proofs.Placement
import SeedHeader.Proofs.Composition
import SeedHeader.Proofs.Blame

/-!
# Proofs — Recovery from a faulty line

Reading goes on after a fault.  A round that is not the last one passes a newline, or it stops at
the end of the input.  A round has one fault at most, at a token that the round starts at, passes
or stops at; and behind that token the round still crosses the end of the line (`round_cases`).
So the faults of a text stand in the order of their lines, with a newline between each and the
next (`faults_apart`).

`Rounds` lists the rounds of a whole reading, and `Reached` is the state between two of them.
-/

namespace SeedHeader

/-! ### Crossing the end of a line -/

/-- The lexemes hold a newline, or nothing is left behind them. -/
def Cursor.Crosses (w : List Lexeme) (c : Cursor) : Prop :=
  (∃ l ∈ w, l.type = .newline) ∨ c.ahead = []

theorem Cursor.Crosses.append {c : Cursor} {v : List Lexeme} (h : c.Crosses v) (w : List Lexeme) :
    c.Crosses (w ++ v) := by
  rcases h with ⟨l, hl, hn⟩ | h
  · exact .inl ⟨l, List.mem_append_right w hl, hn⟩
  · exact .inr h

theorem Cursor.nextLine_crosses (c : Cursor) :
    ∃ v, c.Passes v c.nextLine ∧ c.nextLine.Crosses v := by
  obtain ⟨s, hs⟩ : ∃ s, s = c.skipWhile (· ≠ .newline) := ⟨_, rfl⟩
  have hskip := passes_skipWhile (· ≠ .newline) c
  rw [nextLine, ← hs]
  rw [← hs] at hskip
  cases ha : s.ahead with
  | nil =>
    obtain ⟨v, hv⟩ := exists_passes_next s
    exact ⟨_, hskip.trans hv, .inr (by simp [next, ha])⟩
  | cons l ls =>
    -- the first lexeme that was not passed over is a newline
    have hl : l.type = .newline := by
      have hstop := List.head?_dropWhile_not (fun l : Lexeme => decide (l.type ≠ .newline)) c.ahead
      rw [show c.ahead.dropWhile _ = s.ahead by rw [hs]; rfl, ha] at hstop
      simpa using hstop
    have hlex : s.lexeme = l := by simp [lexeme, ha]
    have hnext := passes_next (c := s) (by rw [type, hlex, hl]; decide)
    exact ⟨_, hskip.trans hnext, .inl ⟨l, by simp [hlex], hl⟩⟩

namespace Reading

open Rule Grammar

/-! ### One round -/

/-- What can become of a statement and its line.  The input ends with it; or the newline that ends
the line is passed; or there is one fault, at a token that was passed or stopped at, and reading
goes on behind the end of the line. -/
theorem ofStatement_cases (skip : Bool) (c : Cursor) :
    ((ofStatement skip c).1.faults = [] ∧ (ofStatement skip c).2 = none) ∨
      (∃ c' w, (ofStatement skip c).1.faults = [] ∧ (ofStatement skip c).2 = some c' ∧
        c.Passes w c' ∧ c'.Crosses w) ∨
      ∃ fault t c' w v, (ofStatement skip c).1.faults = [fault] ∧
        (ofStatement skip c).2 = some c' ∧ fault.span = t.span ∧
        c.Passes w t ∧ t.Passes v c' ∧ c'.Crosses v := by
  cases hs : statement skip c with
  | error fault c₁ =>
    -- a rule stops at the token at fault or behind it, and never behind the end of the line
    obtain ⟨t, ⟨w, hw, -⟩, ⟨u, hu, -⟩, hspan⟩ := (statement_steady skip).error hs
    obtain ⟨v, hv, hcross⟩ := c₁.nextLine_crosses
    have hstatement : ofStatement skip c = (⟨[], [fault], false⟩, some c₁.nextLine) := by
      unfold ofStatement
      rw [hs]
    rw [hstatement]
    exact .inr (.inr ⟨fault, t, _, w, u ++ v, rfl, rfl, hspan, hw, hu.trans hv, hcross.append u⟩)
  | ok content c₁ =>
    obtain ⟨w, hw, -⟩ := (statement_steady skip).ok hs
    have hskip := hw.trans (Cursor.passes_skipWhile isTrailing c₁)
    rw [ofStatement_of_ok hs]
    by_cases he : (c₁.skipWhile isTrailing).type = .eof
    · rw [if_pos he]
      exact .inl ⟨rfl, rfl⟩
    by_cases hn : (c₁.skipWhile isTrailing).type = .newline
    · rw [if_neg he, if_pos hn]
      exact .inr (.inl ⟨_, _, rfl, rfl, hskip.trans (Cursor.passes_next he),
        .inl ⟨_, by simp, hn⟩⟩)
    · -- what stands behind the statement is at fault
      rw [if_neg he, if_neg hn]
      obtain ⟨v, hv, hcross⟩ := (c₁.skipWhile isTrailing).nextLine_crosses
      exact .inr (.inr ⟨_, _, _, _, v, rfl, rfl, rfl, hskip, hv, hcross⟩)

/-- What can become of a round.  The last one has no fault.  One that is not the last crosses the
end of a line; if it has a fault, then behind the token at fault. -/
theorem round_cases (skip : Bool) (c : Cursor) :
    (∃ r, round skip c = (r, none) ∧ r.faults = []) ∨
      (∃ r c' w, round skip c = (r, some c') ∧ r.faults = [] ∧ c.Passes w c' ∧ c'.Crosses w) ∨
      ∃ r c' fault t w v, round skip c = (r, some c') ∧ r.faults = [fault] ∧
        fault.span = t.span ∧ c.Passes w t ∧ t.Passes v c' ∧ c'.Crosses v := by
  obtain ⟨documentation, skip', c₁, w, e, hw⟩ := exists_interlude skip c
  by_cases hc : c₁.type = .eof
  · exact .inl ⟨_, round_of_eof e hc, rfl⟩
  · have hr := round_of_ne_eof e hc
    rcases ofStatement_cases skip' c₁ with
      ⟨hf, hn⟩ | ⟨c', v, hf, hn, hv, hcross⟩ | ⟨fault, t, c', u, v, hf, hn, hs, hu, hv, hcross⟩
    · rw [hn] at hr
      exact .inl ⟨_, hr, hf⟩
    · rw [hn] at hr
      exact .inr (.inl ⟨_, c', _, hr, hf, hw.trans hv, hcross.append w⟩)
    · rw [hn] at hr
      exact .inr (.inr ⟨_, c', fault, t, _, v, hr, hf, hs, hw.trans hu, hv, hcross⟩)

theorem round_crosses {skip : Bool} {c c' : Cursor} {r : Reading}
    (h : round skip c = (r, some c')) : ∃ w, c.Passes w c' ∧ c'.Crosses w := by
  rcases round_cases skip c with
    ⟨_, hr, -⟩ | ⟨_, c₁, w, hr, -, hw, hcross⟩ | ⟨_, c₁, _, t, w, v, hr, -, -, hw, hv, hcross⟩ <;>
    cases h.symm.trans hr
  · exact ⟨w, hw, hcross⟩
  · exact ⟨w ++ v, hw.trans hv, hcross.append w⟩

/-! ### All rounds -/

/-- The rounds of a reading, from the cursor on up to the round that ends it. -/
inductive Rounds : Bool → Cursor → List Reading → Prop where
  | last {skip : Bool} {c : Cursor} {r : Reading} : round skip c = (r, none) → Rounds skip c [r]
  | next {skip : Bool} {c c' : Cursor} {r : Reading} {rs : List Reading} :
      round skip c = (r, some c') → Rounds r.skip c' rs → Rounds skip c (r :: rs)

/-- Reading a text comes to this flag and this cursor before one of its rounds. -/
inductive Reached (text : List Char) : Bool → Cursor → Prop where
  | start : Reached text false (.ofText text)
  | next {skip : Bool} {c c' : Cursor} {r : Reading} :
      Reached text skip c → round skip c = (r, some c') → Reached text r.skip c'

/-- Reading ends after some rounds, and what is read is what they yield. -/
theorem exists_rounds (skip : Bool) (c : Cursor) :
    ∃ rs, Rounds skip c rs ∧ (ofCursorFrom skip c).contents = rs.flatMap contents ∧
      (ofCursorFrom skip c).faults = rs.flatMap faults := by
  induction skip, c using round_induction with
  | step skip c ih =>
  cases h : round skip c with
  | mk r next =>
  cases next with
  | none => exact ⟨[r], .last h, by simp [ofCursorFrom_of_none h], by simp [ofCursorFrom_of_none h]⟩
  | some c' =>
    obtain ⟨rs, hrs, hc, hf⟩ := ih r c' h
    refine ⟨r :: rs, .next h hrs, ?_, ?_⟩
    · simp [ofCursorFrom_of_some h, append, hc]
    · simp [ofCursorFrom_of_some h, append, hf]

/-- A cursor that is reached has the last tokens of the text ahead of it. -/
theorem Reached.tokens {text : List Char} {skip : Bool} {c : Cursor} (h : Reached text skip c) :
    c.tokens <:+ tokenize text := by
  induction h with
  | start => exact Cursor.tokens_ofText text ▸ List.suffix_rfl
  | next _ hr ih =>
    obtain ⟨w, -, hw⟩ := round_passes hr
    rw [hw.tokens] at ih
    exact (List.suffix_append _ _).trans ih

/-- Between the two faults there is a newline among the tokens. -/
def Apart (ts : List Token) (f g : Fault) : Prop :=
  ∃ t ∈ ts, t.type = .newline ∧ f.span.start ≤ t.span.start ∧ t.span.stop ≤ g.span.start

theorem Apart.mono {ts us : List Token} (h : ∀ t ∈ ts, t ∈ us) {f g : Fault} (hf : Apart ts f g) :
    Apart us f g := by
  obtain ⟨t, ht, hn⟩ := hf
  exact ⟨t, h t ht, hn⟩

/-- Nothing is faulty at the end of the input. -/
theorem faults_of_nil {skip : Bool} {c : Cursor} (h : c.ahead = []) :
    (ofCursorFrom skip c).faults = [] := by
  obtain ⟨pos, ahead⟩ := c
  obtain rfl : ahead = [] := h
  rw [ofCursorFrom_nil]
  rfl

/-- Every fault is at a token ahead of the cursor. -/
theorem faults_ahead (skip : Bool) (c : Cursor) :
    ∀ f ∈ (ofCursorFrom skip c).faults, ∃ w t, c.Passes w t ∧ f.span = t.span := by
  intro f hf
  obtain ⟨w, t, hw, hspan, -⟩ := faults_concern skip c f hf
  exact ⟨w, t, hw, hspan⟩

/-- **Faults stand in order, with a newline between each and the next.** -/
theorem faults_apart (skip : Bool) (c : Cursor) :
    (ofCursorFrom skip c).faults.IsChain (Apart c.tokens) := by
  induction skip, c using round_induction with
  | step skip c ih =>
  have later : ∀ {r c' w}, round skip c = (r, some c') → c.Passes w c' →
      (ofCursorFrom r.skip c').faults.IsChain (Apart c.tokens) := by
    intro r c' w hr hw
    refine (ih r c' hr).imp fun f g h => h.mono fun t ht => ?_
    rw [hw.tokens]
    exact List.mem_append_right _ ht
  rcases round_cases skip c with
    ⟨r, hr, hf⟩ | ⟨r, c', w, hr, hf, hw, -⟩ | ⟨r, c', fault, t, w, v, hr, hf, hs, hw, hv, hcross⟩
  · simp [ofCursorFrom_of_none hr, hf]
  · simpa [ofCursorFrom_of_some hr, append, hf] using later hr hw
  · rw [ofCursorFrom_of_some hr, append, hf, List.singleton_append, List.isChain_cons]
    refine ⟨fun g hg => ?_, later hr (hw.trans hv)⟩
    have hmem : g ∈ (ofCursorFrom r.skip c').faults := List.mem_of_mem_head? hg
    obtain ⟨u, t', hu, hs'⟩ := faults_ahead r.skip c' g hmem
    rcases hcross with ⟨l, hl, hnl⟩ | hnil
    · -- the newline that was crossed lies behind the first fault and in front of the second
      obtain ⟨n, hn, htype⟩ := exists_mem_place hl t.pos
      obtain ⟨hlow, -, hhigh⟩ := mem_place_bounds hn
      refine ⟨n, ?_, htype.trans hnl, by rw [hs]; exact hlow, ?_⟩
      · rw [hw.tokens, hv.tokens]
        exact List.mem_append_right _ (List.mem_append_left _ hn)
      · rw [← hv.pos] at hhigh
        rw [hs']
        exact hhigh.trans hu.pos_le
    · rw [faults_of_nil hnil] at hmem
      cases hmem

/-- There is one fault more than newlines at most. -/
theorem faults_length_le (skip : Bool) (c : Cursor) :
    (ofCursorFrom skip c).faults.length ≤ c.ahead.countP (·.type = .newline) + 1 := by
  induction skip, c using round_induction with
  | step skip c ih =>
  -- after a round the bound is one less, or nothing is left that could be faulty
  have later : ∀ {r c' w}, round skip c = (r, some c') → c.Passes w c' → c'.Crosses w →
      (ofCursorFrom r.skip c').faults.length ≤ c.ahead.countP (·.type = .newline) := by
    intro r c' w hr hw hcross
    rcases hcross with ⟨l, hl, hnl⟩ | hnil
    · have hle := ih r c' hr
      have hpos : 0 < w.countP (·.type = .newline) :=
        List.countP_pos_iff.mpr ⟨l, hl, by simpa using hnl⟩
      rw [hw.ahead, List.countP_append]
      omega
    · simp [faults_of_nil hnil]
  rcases round_cases skip c with
    ⟨r, hr, hf⟩ | ⟨r, c', w, hr, hf, hw, hcross⟩ | ⟨r, c', _, t, w, v, hr, hf, -, hw, hv, hcross⟩
  · simp [ofCursorFrom_of_none hr, hf]
  · have := later hr hw hcross
    simp only [ofCursorFrom_of_some hr, append, hf, List.nil_append]
    omega
  · have := later hr (hw.trans hv) (hcross.append w)
    simp only [ofCursorFrom_of_some hr, append, hf, List.singleton_append, List.length_cons]
    omega

end Reading

/-- **Recovery makes progress, and reports one fault for each faulty line, in order.**  Reading ends
after some rounds.  Each round but the last passes a newline, or it leaves the cursor at the end of
the input.  A diagnostic has the span of a token, and between two consecutive diagnostics there is
a newline: so they are in increasing order, and at most one more than there are newlines. -/
theorem diagnostics_by_line (text : List Char) :
    (∃ rounds, Reading.Rounds false (.ofText text) rounds ∧
      (Reading.ofText text).contents = rounds.flatMap Reading.contents ∧
      (Reading.ofText text).faults = rounds.flatMap Reading.faults) ∧
    (∀ skip c r c', Reading.Reached text skip c → Reading.round skip c = (r, some c') →
      c.tokens <:+ tokenize text ∧ ∃ passed, c.tokens = passed ++ c'.tokens ∧
        ((∃ t ∈ passed, t.type = .newline) ∨ c'.type = .eof)) ∧
    (∀ d ∈ (Reading.ofText text).diagnostics, (∃ t ∈ tokenize text, d.span = t.toInt.span) ∧
      0 ≤ d.span.start ∧ d.span.start ≤ d.span.stop ∧ d.span.stop ≤ text.length) ∧
    (Reading.ofText text).diagnostics.IsChain (fun d e => ∃ t ∈ tokenize text,
      t.type = .newline ∧ d.span.start ≤ t.toInt.span.start ∧ t.toInt.span.stop ≤ e.span.start) ∧
    (Reading.ofText text).diagnostics.Pairwise (fun d e => d.span.start < e.span.start) ∧
    (Reading.ofText text).diagnostics.length ≤
      (tokenize text).countP (fun t => t.type = .newline) + 1 := by
  have hchain := Reading.faults_apart false (.ofText text)
  rw [Cursor.tokens_ofText] at hchain
  refine ⟨Reading.exists_rounds false _, ?_, ?_, ?_, ?_, ?_⟩
  · intro skip c r c' hc hr
    obtain ⟨w, hw, hcross⟩ := Reading.round_crosses hr
    refine ⟨hc.tokens, place c.pos w, hw.tokens, ?_⟩
    -- the newline among the lexemes that the round passes is one among the tokens
    rcases hcross with ⟨l, hl, hn⟩ | hnil
    · obtain ⟨t, ht, htype⟩ := exists_mem_place hl c.pos
      exact .inl ⟨t, ht, htype.trans hn⟩
    · exact .inr (by simp [Cursor.type, Cursor.lexeme, hnil])
  · intro d hd
    obtain ⟨f, hf, rfl⟩ := List.mem_map.mp hd
    obtain ⟨w, c, hw, hs⟩ := Reading.faults_ahead false (.ofText text) f hf
    obtain ⟨t, ht, hspan⟩ := c.exists_mem_tokens
    have hmem : t ∈ tokenize text := by
      rw [← Cursor.tokens_ofText, hw.tokens]
      exact List.mem_append_right _ ht
    obtain ⟨hle, hstop, -⟩ := mem_tokenize_bounds hmem
    have hfault : f.diagnostic.span = t.span := by rw [hspan, ← hs]; rfl
    refine ⟨⟨t, hmem, hfault⟩, ?_⟩
    simp only [hfault, Span.toInt]
    omega
  · refine (List.isChain_map _).mpr (hchain.imp fun f g h => ?_)
    obtain ⟨t, ht, hn, h₁, h₂⟩ := h
    exact ⟨t, ht, hn, Int.ofNat_le.mpr h₁, Int.ofNat_le.mpr h₂⟩
  · -- a newline is not empty, so the next fault starts behind the one before it
    have hlt : (Reading.ofText text).faults.IsChain fun f g => f.span.start < g.span.start := by
      refine hchain.imp fun f g h => ?_
      obtain ⟨t, ht, hn, h₁, h₂⟩ := h
      have := (mem_tokenize_bounds ht).2.2 (by rw [hn]; decide)
      omega
    have : IsTrans Fault fun f g => f.span.start < g.span.start := ⟨fun _ _ _ => Nat.lt_trans⟩
    refine List.pairwise_map.mpr ((List.isChain_iff_pairwise.mp hlt).imp fun h => ?_)
    exact Int.ofNat_lt.mpr h
  · have hcount : (tokenize text).countP (fun t => t.type = .newline) =
        (lexemes text).countP (fun l => l.type = .newline) := by
      have h := congrArg (List.countP (· = TokenType.newline)) (map_type_place 0 (lexemes text))
      rw [List.countP_map, List.countP_map] at h
      rw [tokenize, List.countP_append]
      exact h
    rw [hcount, Reading.diagnostics, List.length_map]
    exact Reading.faults_length_le false (.ofText text)

/-- The first of two faulty lines is given up together with the newline that ends it. -/
theorem diagnostics_by_line_two :
    Reading.Reached "=\r\n/".toList false (.ofText "=\r\n/".toList) ∧
      Reading.round false (.ofText "=\r\n/".toList) =
        (⟨[], [⟨.expected .expression, ⟨0, 1⟩⟩], false⟩, some ⟨3, [⟨.unknown, ['/']⟩]⟩) ∧
      ∃ passed, (Cursor.ofText "=\r\n/".toList).tokens =
          passed ++ (⟨3, [⟨.unknown, ['/']⟩]⟩ : Cursor).tokens ∧
        ∃ t ∈ passed, t.type = .newline := by
  have hround : Reading.round false (.ofText "=\r\n/".toList) =
      (⟨[], [⟨.expected .expression, ⟨0, 1⟩⟩], false⟩, some ⟨3, [⟨.unknown, ['/']⟩]⟩) := by rfl
  obtain ⟨-, passed, hp, h⟩ := (diagnostics_by_line "=\r\n/".toList).2.1 _ _ _ _ .start hround
  exact ⟨.start, hround, passed, hp, h.resolve_right (by decide)⟩

end SeedHeader
