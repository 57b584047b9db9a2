import Mathlib.Data.List.Forall2
import SeedHeader.Proofs.ExcuseScope

/-!
# Proofs — The contents of a header and its lines

A line tells something unless it is blank or opens with a note.  A header without faults has one
content for each of its telling lines, in their order (`contents_by_line`): documentation where
the line opens with a comment that documents, and a statement elsewhere.

`SaidBy` is what holds of one line and its content.  The rest follows from it and from where tokens
stand: a content stays on its line, so contents do not overlap, and a comment behind a statement
belongs to none.
-/

namespace SeedHeader

open Grammar

/-! ### Telling lines -/

/-- A line tells something unless it is blank or opens with a note. -/
def isTelling (line : List Token) : Bool :=
  (opener line).any fun t => t.commentKind ≠ some .note

/-- The lines of a text that tell something. -/
def tellingLines (text : List Char) : List (List Token) := (tokenLines text).filter isTelling

/-- The content `x` is what a line says that opens with the token `t`. -/
structure SaidBy (line : List Token) (t : Token) (x : Located Content) : Prop where
  start_eq : x.span.start = t.span.start
  /-- The content ends with a token of the line. -/
  stop_eq : ∃ u ∈ line, x.span.stop = u.span.stop
  start_lt : x.span.start < x.span.stop
  outer_iff : (x.span = t.span ∧ ∃ s, x.val = .outerDocumentation s) ↔
    t.commentKind = some .headerDoc
  inner_iff : (x.span = t.span ∧ ∃ s, x.val = .innerDocumentation s) ↔
    t.commentKind = some .configDoc
  statement_iff : x.val.isDocumentation = false ↔ t.type ≠ .comment
  /-- A comment that the line does not open with is behind the content. -/
  stop_le : ∀ u ∈ line, u.type = .comment → u ≠ t → x.span.stop ≤ u.span.start

/-- The content is what the line says. -/
def IsSaidOn (line : List Token) (x : Located Content) : Prop := ∃ t ∈ opener line, SaidBy line t x

/-! ### One line -/

theorem exists_commentKind {l : Lexeme} (h : l.type = .comment) :
    ∃ kind, l.commentKind = some kind := by
  unfold Lexeme.commentKind
  rw [if_pos h]
  split <;> exact ⟨_, rfl⟩

theorem commentKind_eq_none {l : Lexeme} (h : l.type ≠ .comment) : l.commentKind = none := by
  unfold Lexeme.commentKind
  rw [if_neg h]

variable {skip after : Bool} {pos : Nat} {line : List Lexeme} {contents : List (Located Content)}

/-- Documentation has the span of the comment that it is read from. -/
theorem saidBy_remark {indent : List Lexeme} {l : Lexeme} (hi : IsOptional .whitespace indent)
    (hl : l.type = .comment) (hne : l.text ≠ []) (skip : Bool) (pos : Nat) :
    ∀ x ∈ (remark skip (pos + (charsOf indent).length) l).1,
      SaidBy (place pos (indent ++ [l])) (l.tokenAt (pos + (charsOf indent).length)) x := by
  intro x hx
  have hmem : l.tokenAt (pos + (charsOf indent).length) ∈ place pos (indent ++ [l]) :=
    mem_place_iff.mpr ⟨indent, l, [], rfl, rfl⟩
  have hwidth : 0 < l.width := List.length_pos_iff.mpr hne
  have htype : (l.tokenAt (pos + (charsOf indent).length)).type = .comment := hl
  -- it is the only comment of its line
  have hlone : ∀ u ∈ place pos (indent ++ [l]), u.type = .comment →
      u = l.tokenAt (pos + (charsOf indent).length) := by
    intro u hu hcomment
    rw [place_append] at hu
    rcases List.mem_append.mp hu with hu | hu
    · rcases hi with rfl | ⟨cs, rfl⟩
      · cases hu
      · obtain rfl := List.mem_singleton.mp hu
        cases hcomment
    · exact List.mem_singleton.mp hu
  obtain ⟨hcomment, rfl⟩ | ⟨hcomment, rfl⟩ := mem_remark_iff.mp hx
  · exact ⟨rfl, ⟨_, hmem, rfl⟩, Nat.lt_add_of_pos_right hwidth,
      iff_of_true ⟨rfl, _, rfl⟩ hcomment, by simp [Lexeme.tokenAt, hcomment],
      by simp [htype, Content.isDocumentation],
      fun u hu hc hut => absurd (hlone u hu hc) hut⟩
  · exact ⟨rfl, ⟨_, hmem, rfl⟩, Nat.lt_add_of_pos_right hwidth,
      by simp [Lexeme.tokenAt, hcomment], iff_of_true ⟨rfl, _, rfl⟩ hcomment,
      by simp [htype, Content.isDocumentation],
      fun u hu hc hut => absurd (hlone u hu hc) hut⟩

/-- A statement starts where its line opens and ends before a comment. -/
theorem saidBy_statement {indent ls : List Lexeme} {l : Lexeme} {x : Located Content}
    (hl : isBetween l.type = false) (hx : x.val.StatedUnder skip)
    (hstart : x.span.start = pos + (charsOf indent).length) (hcovers : x.span.Covers (l :: ls))
    (hi : IsOptional .whitespace indent) (hne : ∀ m ∈ l :: ls, m.text ≠ []) :
    SaidBy (place pos (indent ++ l :: ls)) (l.tokenAt (pos + (charsOf indent).length)) x := by
  obtain ⟨w, tail, hw, hwne, htext, hstop⟩ := hcovers
  have htype : (l.tokenAt (pos + (charsOf indent).length)).type ≠ .comment :=
    (type_ne_of_not_between hl).2
  have hkind : (l.tokenAt (pos + (charsOf indent).length)).commentKind = none :=
    commentKind_eq_none htype
  have hdoc := hx.not_documentation
  obtain ⟨v, m, rfl⟩ : ∃ v m, w = v ++ [m] :=
    ⟨_, _, (List.dropLast_append_getLast hwne).symm⟩
  have hlast : 0 < m.text.length := List.length_pos_iff.mpr (hne m (by simp [hw]))
  rw [charsOf_append, charsOf_cons, charsOf_nil, List.append_nil, List.length_append] at hstop
  refine ⟨hstart, ⟨m.tokenAt (pos + (charsOf (indent ++ v)).length), ?_, ?_⟩, by omega, ?_, ?_,
    iff_of_true hdoc htype, ?_⟩
  · exact mem_place_iff.mpr ⟨indent ++ v, m, tail, by simp [hw], rfl⟩
  · simp only [Lexeme.tokenAt, Lexeme.width, charsOf_append, List.length_append]
    omega
  · refine iff_of_false ?_ (by simp [hkind])
    rintro ⟨-, s, hs⟩
    rw [hs] at hdoc
    cases hdoc
  · refine iff_of_false ?_ (by simp [hkind])
    rintro ⟨-, s, hs⟩
    rw [hs] at hdoc
    cases hdoc
  · intro u hu hcomment _
    rw [hw, ← List.append_assoc, place_append] at hu
    rcases List.mem_append.mp hu with hu | hu
    · -- the tokens in front of the end are whitespace or belong to the statement
      obtain ⟨p, n, q, hsplit, rfl⟩ := mem_place_iff.mp hu
      have hn : n ∈ indent ++ (v ++ [m]) := by simp [hsplit]
      have hcomment' : n.type = .comment := hcomment
      rcases List.mem_append.mp hn with hn | hn
      · rcases hi with rfl | ⟨cs, rfl⟩
        · cases hn
        · rw [List.mem_singleton.mp hn] at hcomment'
          cases hcomment'
      · have := htext n hn
        rw [hcomment'] at this
        cases this
    · have hlow := (mem_place_bounds hu).1
      simp only [charsOf_append, charsOf_cons, charsOf_nil, List.append_nil,
        List.length_append] at hlow
      omega

/-- A telling line yields what it says, and another line yields nothing. -/
theorem LineYields.said (h : LineYields skip pos line contents after)
    (hne : ∀ l ∈ line, l.text ≠ []) :
    List.Forall₂ IsSaidOn ([place pos line].filter isTelling) contents := by
  cases h with
  | blank hi => simp [isTelling, opener_place_indent hi]
  | @comment indent l hi hl =>
    obtain ⟨kind, hkind⟩ := exists_commentKind hl
    have hopener := opener_place hi (l := l) (by rw [hl]; decide) [] pos
    have hsaid := saidBy_remark hi hl (hne l (by simp)) skip pos
    have htelling : isTelling (place pos (indent ++ [l])) = decide (kind ≠ .note) := by
      simp [isTelling, hopener, Lexeme.tokenAt, hkind]
    rw [List.filter_singleton, htelling]
    unfold remark at hsaid ⊢
    rw [hkind] at hsaid ⊢
    cases kind with
    | note => exact .nil
    | headerDoc | configDoc => exact .cons ⟨_, hopener, hsaid _ rfl⟩ .nil
  | @statement indent ls l x hi hl hx hstart hcovers =>
    have hne' := type_ne_of_not_between hl
    have hopener := opener_place hi hne'.1 ls pos
    have htelling : isTelling (place pos (indent ++ l :: ls)) = true := by
      simp [isTelling, hopener, Lexeme.tokenAt, commentKind_eq_none hne'.2]
    rw [List.filter_singleton, htelling]
    refine .cons ⟨_, hopener, saidBy_statement hl hx hstart hcovers hi fun m hm => ?_⟩ .nil
    exact hne m (List.mem_append_right indent hm)

/-! ### All lines -/

/-- **Each telling line yields what it says, in order.** -/
theorem LinesYield.said {ls : List Lexeme} (h : LinesYield skip pos ls contents)
    (hne : ∀ l ∈ ls, l.text ≠ []) :
    List.Forall₂ IsSaidOn
      (((place pos ls).splitOnP fun t => t.type = .newline).filter isTelling) contents := by
  induction h with
  | @last skip after pos line contents hline h =>
    rw [List.splitOnP_eq_singleton (not_newline_of_mem_place hline pos)]
    exact h.said hne
  | @next skip after pos line more l contents contents' hline h hl hmore ih =>
    rw [splitOnP_place_line hline hl, ← List.singleton_append, List.filter_append]
    exact List.rel_append (h.said fun m hm => hne m (by simp [hm]))
      (ih fun m hm => hne m (by simp [hm]))

/-- A line of tokens is made of lexemes that stand together, none of them a newline. -/
theorem exists_of_mem_splitOnP {ls : List Lexeme} {line : List Token}
    (h : line ∈ (place pos ls).splitOnP fun t => t.type = .newline) :
    ∃ w m v, ls = w ++ (m ++ v) ∧ line = place (pos + (charsOf w).length) m ∧
      ∀ l ∈ m, l.type ≠ .newline := by
  induction ls using lines_induction generalizing pos with
  | last first hfirst =>
    rw [List.splitOnP_eq_singleton (not_newline_of_mem_place hfirst pos)] at h
    exact ⟨[], first, [], by simp, List.mem_singleton.mp h, hfirst⟩
  | next first l more hfirst hl ih =>
    rw [splitOnP_place_line hfirst hl] at h
    rcases List.mem_cons.mp h with rfl | h
    · exact ⟨[], first, l :: more, rfl, rfl, hfirst⟩
    · obtain ⟨w, m, v, rfl, rfl, hm⟩ := ih h
      refine ⟨first ++ [l] ++ w, m, v, by simp, ?_, hm⟩
      rw [charsOf_append (first ++ [l]), List.length_append, Nat.add_assoc]

variable {text : List Char}

theorem mem_tokenize_of_line {line : List Token} (h : line ∈ tokenLines text) {t : Token}
    (ht : t ∈ line) : t ∈ tokenize text := by
  have hflat : t ∈ (tokenLines text).flatten := List.mem_flatten.mpr ⟨line, h, ht⟩
  rw [tokenLines, flatten_splitOnP] at hflat
  exact (List.dropLast_prefix _).subset (List.mem_of_mem_filter hflat)

/-- No line ends between two tokens of a line. -/
theorem not_lineEnd_of_line {line : List Token} (h : line ∈ tokenLines text) {t u : Token}
    (ht : t ∈ line) (hu : u ∈ line) :
    ∀ c ∈ (text.take u.span.stop).drop t.span.start, Lexeme.isLineEnd c = false := by
  rw [tokenLines_eq] at h
  obtain ⟨w, m, v, hsplit, rfl, hm⟩ := exists_of_mem_splitOnP h
  have hlow := (mem_place_bounds ht).1
  have hhigh := (mem_place_bounds hu).2.2
  rw [Nat.zero_add] at hlow hhigh
  have htext : text = (charsOf w ++ charsOf m) ++ charsOf v := by
    rw [← charsOf_lexemes text, hsplit, charsOf_append, charsOf_append, List.append_assoc]
  have hline : (text.take ((charsOf w).length + (charsOf m).length)).drop (charsOf w).length =
      charsOf m := by
    rw [htext, ← List.length_append, List.take_left, List.drop_left]
  intro c hc
  -- what stands between the two tokens is part of the line
  have hmem : c ∈ charsOf m := by
    have hdrop : c ∈ (text.take u.span.stop).drop (charsOf w).length := by
      obtain ⟨k, hk⟩ := Nat.exists_eq_add_of_le hlow
      rw [hk, ← List.drop_drop] at hc
      exact List.mem_of_mem_drop hc
    rw [← hline]
    rw [List.drop_take] at hdrop ⊢
    exact (List.take_prefix_take_left (Nat.sub_le_sub_right hhigh _)).subset hdrop
  have hshaped : ∀ l ∈ m, l.Shaped := fun l hl => shaped_of_mem (by rw [hsplit]; simp [hl])
  exact (oneLine_iff hshaped).mp hm c hmem

/-- The lines of a text stand one behind the other. -/
theorem pairwise_tokenLines_stop (text : List Char) :
    (tokenLines text).Pairwise fun l m => ∀ t ∈ l, ∀ u ∈ m, t.span.stop ≤ u.span.start :=
  pairwise_tokenLines_of_place (pairwise_place_stop 0 (lexemes text))

/-- Each content is said on one of the lines. -/
theorem exists_line_of_mem {lines : List (List Token)} (h : List.Forall₂ IsSaidOn lines contents)
    {x : Located Content} (hx : x ∈ contents) : ∃ line ∈ lines, IsSaidOn line x := by
  induction h with
  | nil => cases hx
  | @cons line y lines contents hy hrest ih =>
    rcases List.mem_cons.mp hx with rfl | hx
    · exact ⟨line, by simp, hy⟩
    · obtain ⟨line', hline', h⟩ := ih hx
      exact ⟨line', by simp [hline'], h⟩

/-- Contents stand one behind the other, as their lines do. -/
theorem pairwise_of_said {lines : List (List Token)} (h : List.Forall₂ IsSaidOn lines contents)
    (hlines : lines.Pairwise fun l m => ∀ t ∈ l, ∀ u ∈ m, t.span.stop ≤ u.span.start) :
    contents.Pairwise fun x y => x.span.stop ≤ y.span.start := by
  induction h with
  | nil => exact .nil
  | @cons line x lines contents hx hrest ih =>
    obtain ⟨hline, hlines⟩ := List.pairwise_cons.mp hlines
    refine .cons (fun y hy => ?_) (ih hlines)
    obtain ⟨line', hline', t', ht', hsaid'⟩ := exists_line_of_mem hrest hy
    obtain ⟨t, ht, hsaid⟩ := hx
    obtain ⟨u, hu, hstop⟩ := hsaid.stop_eq
    rw [hstop, hsaid'.start_eq]
    exact hline line' hline' u hu t' (List.mem_of_find?_eq_some ht')

/-- A comment that its line does not open with is apart from every content. -/
theorem apart_of_comment {line line' : List Token} (h : line ∈ tokenLines text)
    (h' : line' ∈ tokenLines text) {x : Located Content} (hx : IsSaidOn line' x) {u : Token}
    (hu : u ∈ line) (hcomment : u.type = .comment) (hopener : u ∉ opener line) :
    x.span.stop ≤ u.span.start ∨ u.span.stop ≤ x.span.start := by
  have hlines := pairwise_tokenLines_stop text
  -- the two lines are the same, or one comes before the other
  have hcases : line = line' ∨ (∀ t ∈ line, ∀ s ∈ line', t.span.stop ≤ s.span.start) ∨
      ∀ s ∈ line', ∀ t ∈ line, s.span.stop ≤ t.span.start :=
    List.Pairwise.forall_of_forall_of_flip
      (R := fun l m => l = m ∨ (∀ t ∈ l, ∀ s ∈ m, t.span.stop ≤ s.span.start) ∨
        ∀ s ∈ m, ∀ t ∈ l, s.span.stop ≤ t.span.start)
      (fun _ _ => .inl rfl) (hlines.imp fun hlm => .inr (.inl hlm))
      (hlines.imp fun hlm => .inr (.inr hlm)) h h'
  obtain ⟨t, ht, hsaid⟩ := hx
  rcases hcases with rfl | hbefore | hafter
  · refine .inl (hsaid.stop_le u hu hcomment ?_)
    rintro rfl
    exact hopener ht
  · refine .inr ?_
    rw [hsaid.start_eq]
    exact hbefore u hu t (List.mem_of_find?_eq_some ht)
  · obtain ⟨s, hs, hstop⟩ := hsaid.stop_eq
    refine .inl ?_
    rw [hstop]
    exact hafter s hs u hu

/-- The contents of a header without faults are what its telling lines say. -/
theorem said_of_parse (h : parse text = .ok contents) :
    List.Forall₂ IsSaidOn (tellingLines text) contents := by
  obtain ⟨hf, rfl⟩ := parse_eq_ok.mp h
  rw [tellingLines, tokenLines_eq]
  exact (linesYield false 0 (lexed_lexemes text) hf).said fun l hl => (shaped_of_mem hl).text_ne_nil

/-- The contents of a header without faults stand one behind the other. -/
theorem pairwise_of_parse (h : parse text = .ok contents) :
    contents.Pairwise fun x y => x.span.stop ≤ y.span.start :=
  pairwise_of_said (said_of_parse h) ((pairwise_tokenLines_stop text).filter isTelling)

/-- **No statement is lost, duplicated or reordered.**  The contents of a header without faults are
what its telling lines say, one for each, in order.  So each content is not empty and stays on its
line, each stands behind the one before it, and a comment that a line does not open with is part of
none. -/
theorem contents_by_line {text : List Char} {contents : List (Located Content)}
    (h : parse text = .ok contents) :
    List.Forall₂ IsSaidOn (tellingLines text) contents ∧
      (∀ x ∈ contents, x.span.start < x.span.stop ∧ x.span.stop ≤ text.length ∧
        ∀ c ∈ (text.take x.span.stop).drop x.span.start, c ≠ '\n' ∧ c ≠ '\r') ∧
      contents.Pairwise (fun x y =>
        x.span.start < y.span.start ∧ x.span.stop ≤ y.span.start) ∧
      ∀ line ∈ tokenLines text, ∀ u ∈ line, u.type = .comment → u ∉ opener line →
        ∀ x ∈ contents, x.span.stop ≤ u.span.start ∨ u.span.stop ≤ x.span.start := by
  have hsaid := said_of_parse h
  have hline : ∀ x ∈ contents, ∃ line ∈ tokenLines text, IsSaidOn line x := by
    intro x hx
    obtain ⟨line, hline, hx⟩ := exists_line_of_mem hsaid hx
    exact ⟨line, List.mem_of_mem_filter hline, hx⟩
  have hlt : ∀ x ∈ contents, x.span.start < x.span.stop := by
    intro x hx
    obtain ⟨line, -, t, -, hx⟩ := hline x hx
    exact hx.start_lt
  refine ⟨hsaid, ?_, ?_, ?_⟩
  · intro x hx
    obtain ⟨line, hmem, t, ht, hx'⟩ := hline x hx
    obtain ⟨u, hu, hstop⟩ := hx'.stop_eq
    have hchars := not_lineEnd_of_line hmem (List.mem_of_find?_eq_some ht) hu
    rw [← hstop, ← hx'.start_eq] at hchars
    refine ⟨hlt x hx, ?_, fun c hc => ?_⟩
    · rw [hstop]
      exact (mem_tokenize_bounds (mem_tokenize_of_line hmem hu)).2.1
    · simpa [Lexeme.isLineEnd] using hchars c hc
  · refine (pairwise_of_parse h).imp_of_mem fun hx _ hle => ⟨?_, hle⟩
    exact Nat.lt_of_lt_of_le (hlt _ hx) hle
  · intro line hmem u hu hcomment hopener x hx
    obtain ⟨line', hmem', hx⟩ := hline x hx
    exact apart_of_comment hmem hmem' hx hu hcomment hopener

/-- Documentation in front of a statement is a content, and documentation behind it is none. -/
theorem contents_by_line_behind :
    parse "/// a\n#b //// c".toList =
        .ok [⟨⟨0, 5⟩, .outerDocumentation "a"⟩, ⟨⟨6, 8⟩, .annotated "b"⟩] ∧
      List.Forall₂ IsSaidOn (tellingLines "/// a\n#b //// c".toList)
        [⟨⟨0, 5⟩, .outerDocumentation "a"⟩, ⟨⟨6, 8⟩, .annotated "b"⟩] ∧
      ∃ first line u, tokenLines "/// a\n#b //// c".toList = [first, line] ∧ u ∈ line ∧
        u.commentKind = some .configDoc ∧ u ∉ opener line ∧ 8 ≤ u.span.start := by
  have hparse : parse "/// a\n#b //// c".toList =
      .ok [⟨⟨0, 5⟩, .outerDocumentation "a"⟩, ⟨⟨6, 8⟩, .annotated "b"⟩] := by
    rw [parse, Reading.ofText, Reading.ofCursor, Reading.ofCursorFrom_of_none (by rfl)]
    rfl
  obtain ⟨hsaid, -, -, hapart⟩ := contents_by_line hparse
  obtain ⟨first, line, hlines, hu, hopener⟩ : ∃ first line,
      tokenLines "/// a\n#b //// c".toList = [first, line] ∧
        (⟨.comment, ⟨9, 15⟩, true, some .configDoc⟩ : Token) ∈ line ∧
        (⟨.comment, ⟨9, 15⟩, true, some .configDoc⟩ : Token) ∉ opener line :=
    ⟨_, _, rfl, by decide, by decide⟩
  refine ⟨hparse, hsaid, first, line, _, hlines, hu, rfl, hopener, ?_⟩
  have hline : line ∈ tokenLines "/// a\n#b //// c".toList := by rw [hlines]; simp
  have hend := hapart line hline _ hu rfl hopener ⟨⟨6, 8⟩, .annotated "b"⟩ (by simp)
  exact hend.resolve_right (by decide)

end SeedHeader
