import Mathlib.Data.List.Induction
import SeedHeader.Proofs.Placement
import SeedHeader.Proofs.LineReading

/-!
# Proofs — The scope of an excuse

A pickup is excused from validation exactly if a line before it opens with the note that excuses,
and every line in between is blank or opens with a comment (`skipValidation_iff`).

Whether a pickup is excused is a state that passes from line to line (`excuseAfter`): a blank line
keeps it, a comment keeps it or sets it, and any other line clears it.  What each line yields is
known (`LinesYield`), so a pickup has the state that the lines before it lead to
(`LinesYield.skipValidation`); and that is set exactly if these lines leave an excuse
(`foldl_excuseAfter`).
-/

namespace SeedHeader

open Text

/-! ### Lines of tokens -/

/-- The tokens of each line: what stands between newlines, up to the end of the input. -/
def tokenLines (text : List Char) : List (List Token) :=
  (tokenize text).dropLast.splitOnP fun t => t.type = .newline

/-- The first token of a line that is no whitespace. -/
def opener (line : List Token) : Option Token := line.find? fun t => t.type ≠ .whitespace

/-- The token is a note that says `skip-validate`. -/
def Token.Excuses (text : List Char) (t : Token) : Prop :=
  t.type = .comment ∧ t.commentKind = some .note ∧ trim ((t.textIn text).drop 2) = skipValidate

instance (text : List Char) (t : Token) : Decidable (t.Excuses text) :=
  inferInstanceAs (Decidable (_ ∧ _ ∧ _))

/-- One of the lines opens with the note that excuses, and those after it are blank or open with a
comment. -/
def LeavesExcuse (text : List Char) (lines : List (List Token)) : Prop :=
  ∃ front note between, lines = front ++ note :: between ∧ (∃ t ∈ opener note, t.Excuses text) ∧
    ∀ line ∈ between, ∀ t ∈ opener line, t.type = .comment

theorem tokenLines_eq (text : List Char) :
    tokenLines text = (place 0 (lexemes text)).splitOnP fun t => t.type = .newline := by
  rw [tokenLines, tokenize, List.dropLast_concat]

theorem not_newline_of_mem_place {line : List Lexeme} (h : ∀ l ∈ line, l.type ≠ .newline)
    (pos : Nat) : ∀ t ∈ place pos line, decide (t.type = .newline) = false := by
  intro t ht
  obtain ⟨w, l, v, rfl, rfl⟩ := mem_place_iff.mp ht
  exact decide_eq_false (h l (by simp))

/-- The first line of placed lexemes, and those after it. -/
theorem splitOnP_place_line {line more : List Lexeme} {l : Lexeme}
    (hline : ∀ m ∈ line, m.type ≠ .newline) (hl : l.type = .newline) (pos : Nat) :
    (place pos (line ++ l :: more)).splitOnP (fun t => t.type = .newline) =
      place pos line ::
        (place (pos + (charsOf (line ++ [l])).length) more).splitOnP
          fun t => t.type = .newline := by
  have hsplit : place pos (line ++ l :: more) =
      place pos line ++ l.tokenAt (pos + (charsOf line).length) ::
        place (pos + (charsOf (line ++ [l])).length) more := by
    rw [place_append, place]
    simp [Lexeme.width, Nat.add_assoc]
  rw [hsplit, List.splitOnP_append_cons_of_forall_mem (not_newline_of_mem_place hline pos) _
    (decide_eq_true hl)]

theorem opener_place_indent {indent : List Lexeme} (hi : IsOptional .whitespace indent)
    (pos : Nat) : opener (place pos indent) = none := by
  rcases hi with rfl | ⟨cs, rfl⟩
  · rfl
  · rfl

theorem opener_place {indent : List Lexeme} (hi : IsOptional .whitespace indent) {l : Lexeme}
    (hl : l.type ≠ .whitespace) (ls : List Lexeme) (pos : Nat) :
    opener (place pos (indent ++ l :: ls)) = some (l.tokenAt (pos + (charsOf indent).length)) := by
  have hnone := opener_place_indent hi pos
  rw [opener] at hnone ⊢
  rw [place_append, List.find?_append, hnone, Option.none_or, place, List.find?_cons_of_pos]
  exact decide_eq_true hl

/-! ### The state that passes from line to line -/

/-- Whether a pickup is excused after a line. -/
def excuseAfter (text : List Char) (skip : Bool) (line : List Token) : Bool :=
  match opener line with
  | none   => skip
  | some t => t.type = .comment && (skip || t.Excuses text)

theorem leavesExcuse_concat {text : List Char} {lines : List (List Token)} {line : List Token} :
    LeavesExcuse text (lines ++ [line]) ↔
      (∃ t ∈ opener line, t.Excuses text) ∨
        LeavesExcuse text lines ∧ ∀ t ∈ opener line, t.type = .comment := by
  constructor
  · rintro ⟨front, note, between, he, hnote, hbetween⟩
    -- the line that is added is the note itself, or one of those between
    rcases List.eq_nil_or_concat between with rfl | ⟨between, last, rfl⟩
    · obtain ⟨rfl, hlast⟩ := List.append_inj' he rfl
      obtain rfl := List.singleton_inj.mp hlast
      exact .inl hnote
    · rw [List.concat_eq_append, ← List.cons_append, ← List.append_assoc] at he
      obtain ⟨rfl, hlast⟩ := List.append_inj' he rfl
      obtain rfl := List.singleton_inj.mp hlast
      exact .inr ⟨⟨front, note, between, rfl, hnote, fun l hl => hbetween l (by simp [hl])⟩,
        hbetween line (by simp)⟩
  · rintro (hnote | ⟨⟨front, note, between, rfl, hnote, hbetween⟩, hline⟩)
    · exact ⟨lines, line, [], rfl, hnote, by simp⟩
    · refine ⟨front, note, between ++ [line], by simp, hnote, fun l hl => ?_⟩
      rcases List.mem_append.mp hl with hl | hl
      · exact hbetween l hl
      · rw [List.mem_singleton.mp hl]
        exact hline

/-- **After lines a pickup is excused exactly if they leave an excuse.** -/
theorem foldl_excuseAfter (text : List Char) (lines : List (List Token)) :
    lines.foldl (excuseAfter text) false = true ↔ LeavesExcuse text lines := by
  -- lines are added at the end, as they are read
  induction lines using List.reverseRecOn with
  | nil =>
    refine iff_of_false (by simp) ?_
    rintro ⟨front, note, between, he, -⟩
    simp at he
  | append_singleton lines line ih =>
    rw [List.foldl_append, List.foldl_cons, List.foldl_nil, leavesExcuse_concat, ← ih, excuseAfter]
    cases opener line with
    | none => simp
    | some t =>
      simp only [Option.mem_def, Option.some.injEq, exists_eq_left', forall_eq', Bool.and_eq_true,
        Bool.or_eq_true, decide_eq_true_eq]
      constructor
      · rintro ⟨ht, h | h⟩
        · exact .inr ⟨h, ht⟩
        · exact .inl h
      · rintro (h | ⟨h, ht⟩)
        · exact ⟨h.1, .inr h⟩
        · exact ⟨ht, .inl h⟩

/-! ### One line -/

/-- A comment sets the state if it is the note that excuses. -/
theorem remark_excuses {text : List Char} {w v : List Lexeme} {l : Lexeme}
    (h : lexemes text = w ++ l :: v) (hl : l.type = .comment) (skip : Bool) :
    (remark skip (charsOf w).length l).2 =
      (skip || decide ((l.tokenAt (charsOf w).length).Excuses text)) := by
  have hchars := (textIn_tokenAt h).1
  have hexcuses : (l.tokenAt (charsOf w).length).Excuses text ↔
      l.commentKind = some .note ∧ commentText .note l = skipValidate := by
    rw [Token.Excuses, hchars]
    simp [Lexeme.tokenAt, hl, commentText, CommentKind.markerLength]
  simp only [hexcuses]
  unfold remark
  cases l.commentKind with
  | none => simp
  | some kind => cases kind <;> simp

theorem type_ne_of_not_between {t : TokenType} (h : isBetween t = false) :
    t ≠ .whitespace ∧ t ≠ .comment := by
  simp only [isBetween, Bool.or_eq_false_iff, decide_eq_false_iff_not] at h
  exact ⟨h.1.2, h.2⟩

variable {text : List Char} {skip after : Bool} {line : List Lexeme}
  {contents : List (Located Content)}

/-- A line passes on the state that its tokens lead to. -/
theorem LineYields.after_eq {w v : List Lexeme}
    (h : LineYields skip (charsOf w).length line contents after)
    (htext : lexemes text = w ++ (line ++ v)) :
    after = excuseAfter text skip (place (charsOf w).length line) := by
  cases h with
  | blank hi => rw [excuseAfter, opener_place_indent hi]
  | @comment indent l hi hl =>
    have hw : lexemes text = (w ++ indent) ++ l :: v := by simpa using htext
    have hremark := remark_excuses hw hl skip
    rw [charsOf_append, List.length_append] at hremark
    have htype : (l.tokenAt ((charsOf w).length + (charsOf indent).length)).type = .comment := hl
    rw [excuseAfter, opener_place hi (by rw [hl]; decide), hremark]
    simp [htype]
  | @statement indent ls l content hi hl hcontent hstart =>
    have hne := type_ne_of_not_between hl
    rw [excuseAfter, opener_place hi hne.1]
    simp [Lexeme.tokenAt, hne.2]

/-- A pickup starts where its line opens, and has the state in which its line is read. -/
theorem LineYields.pickup {pos : Nat} (h : LineYields skip pos line contents after)
    {x : Located Content} (hx : x ∈ contents) {p : Pickup} (hp : x.val = .pickup p) :
    p.skipValidation = skip ∧ ∃ t ∈ opener (place pos line), t.span.start = x.span.start := by
  cases h with
  | blank => cases hx
  | comment hi hl =>
    -- a comment yields documentation at most
    have hdoc := remark_kind x (by simpa using hx)
    rw [hp] at hdoc
    cases hdoc
  | @statement indent ls l content hi hl hcontent hstart =>
    obtain rfl := List.mem_singleton.mp hx
    rw [hp] at hcontent
    refine ⟨hcontent, _, opener_place hi (type_ne_of_not_between hl).1 ls pos, ?_⟩
    rw [hstart]
    rfl

/-! ### All lines -/

/-- **A pickup has the state that the lines before it lead to.** -/
theorem LinesYield.skipValidation {pos : Nat} {ls : List Lexeme}
    (h : LinesYield skip pos ls contents) {w : List Lexeme} (htext : lexemes text = w ++ ls)
    (hpos : pos = (charsOf w).length) {x : Located Content} (hx : x ∈ contents) {p : Pickup}
    (hp : x.val = .pickup p) :
    ∃ before line rest,
      (place pos ls).splitOnP (fun t => t.type = .newline) = before ++ line :: rest ∧
      (∃ t ∈ opener line, t.span.start = x.span.start) ∧
      p.skipValidation = before.foldl (excuseAfter text) skip := by
  induction h generalizing w with
  | @last skip after pos line contents hline h =>
    obtain ⟨hskip, hopens⟩ := h.pickup hx hp
    exact ⟨[], _, [], List.splitOnP_eq_singleton (not_newline_of_mem_place hline pos), hopens,
      hskip⟩
  | @next skip after pos line more l contents contents' hline h hl hmore ih =>
    rw [splitOnP_place_line hline hl]
    rcases List.mem_append.mp hx with hx | hx
    · obtain ⟨hskip, hopens⟩ := h.pickup hx hp
      exact ⟨[], _, _, rfl, hopens, hskip⟩
    · have hnext : lexemes text = (w ++ (line ++ [l])) ++ more := by simpa using htext
      have hpos' : pos + (charsOf (line ++ [l])).length =
          (charsOf (w ++ (line ++ [l]))).length := by
        rw [hpos, charsOf_append w, List.length_append]
      obtain ⟨before, line', rest, hsplit, hopens, hskip⟩ := ih hnext hpos' hx
      subst hpos
      refine ⟨place _ line :: before, line', rest, by rw [hsplit, List.cons_append], hopens, ?_⟩
      rw [List.foldl_cons, ← h.after_eq htext]
      exact hskip

/-- What holds of any token and a later one holds of the tokens of a line and those of a later
one. -/
theorem pairwise_tokenLines_of_place {R : Token → Token → Prop}
    (h : (place 0 (lexemes text)).Pairwise R) :
    (tokenLines text).Pairwise fun l m => ∀ t ∈ l, ∀ u ∈ m, R t u := by
  have hflat := h.filter fun t => !decide (t.type = .newline)
  rw [← flatten_splitOnP, ← tokenLines_eq] at hflat
  exact (List.pairwise_flatten.mp hflat).2

/-- Lines stand in increasing order. -/
theorem pairwise_tokenLines (text : List Char) :
    (tokenLines text).Pairwise fun l m => ∀ t ∈ l, ∀ u ∈ m, t.span.start < u.span.start :=
  pairwise_tokenLines_of_place
    (pairwise_place (fun _ hl => (shaped_of_mem hl).text_ne_nil) 0)

theorem start_lt_of_before {before rest : List (List Token)} {line m : List Token}
    (h : tokenLines text = before ++ line :: rest) (hm : m ∈ before) {t u : Token} (hu : u ∈ m)
    (ht : t ∈ line) : u.span.start < t.span.start := by
  have hpairs := pairwise_tokenLines text
  rw [h, List.pairwise_append] at hpairs
  exact hpairs.2.2 m hm line (by simp) u hu t ht

/-- A line is told by where one of its tokens starts. -/
theorem tokenLines_unique {before rest before' rest' : List (List Token)} {line line' : List Token}
    (h : tokenLines text = before ++ line :: rest)
    (h' : tokenLines text = before' ++ line' :: rest')
    {t t' : Token} (ht : t ∈ line) (ht' : t' ∈ line') (he : t.span.start = t'.span.start) :
    before = before' := by
  -- otherwise one of the two lines comes before the other
  rcases List.append_eq_append_iff.mp (h.symm.trans h') with ⟨as, hb, hx⟩ | ⟨as, hb, hx⟩
  · cases as with
    | nil => rw [hb, List.append_nil]
    | cons a as =>
      obtain ⟨rfl, -⟩ := List.cons.inj hx
      have hlt := start_lt_of_before h' (by simp [hb]) ht ht'
      omega
  · cases as with
    | nil => rw [hb, List.append_nil]
    | cons a as =>
      obtain ⟨rfl, -⟩ := List.cons.inj hx
      have hlt := start_lt_of_before h (by simp [hb]) ht' ht
      omega

/-- **The scope of the note that excuses.**  A pickup of a header without faults stands on one of
its lines, where it starts with the first token that is no whitespace.  It is excused from
validation exactly if some line before that one opens with the note, and the lines between the two
are blank or open with a comment. -/
theorem skipValidation_iff {text : List Char} {contents : List (Located Content)}
    (h : parse text = .ok contents) {span : Span} {p : Pickup}
    (hp : ⟨span, .pickup p⟩ ∈ contents) :
    (∃ before line rest, tokenLines text = before ++ line :: rest ∧
      ∃ t ∈ opener line, t.span.start = span.start) ∧
    ∀ before line rest, tokenLines text = before ++ line :: rest →
      (∃ t ∈ opener line, t.span.start = span.start) →
      (p.skipValidation = true ↔ LeavesExcuse text before) := by
  obtain ⟨hf, rfl⟩ := parse_eq_ok.mp h
  have hyields := linesYield false 0 (lexed_lexemes text) hf
  obtain ⟨before, line, rest, hsplit, hopens, hskip⟩ :=
    hyields.skipValidation (w := []) rfl rfl hp rfl
  rw [← tokenLines_eq] at hsplit
  refine ⟨⟨before, line, rest, hsplit, hopens⟩, ?_⟩
  intro before' line' rest' hsplit' hopens'
  obtain ⟨t, ht, hstart⟩ := hopens
  obtain ⟨t', ht', hstart'⟩ := hopens'
  obtain rfl : before = before' :=
    tokenLines_unique hsplit hsplit' (List.mem_of_find?_eq_some ht) (List.mem_of_find?_eq_some ht')
      (hstart.trans hstart'.symm)
  rw [hskip, foldl_excuseAfter]

/-- The note is in force beyond a blank line. -/
theorem skipValidation_iff_blank :
    parse "// skip-validate\n\n1|2|9|0".toList =
        .ok [⟨⟨18, 25⟩, .pickup ⟨⟨⟨18, 21⟩, ⟨⟨18, 21⟩, ⟨1, 2⟩⟩, none⟩,
          ⟨⟨22, 25⟩, .water false⟩, false, true⟩⟩] ∧
      ∃ note line, tokenLines "// skip-validate\n\n1|2|9|0".toList = [note, [], line] ∧
        (∃ t ∈ opener line, t.span.start = 18) ∧
        LeavesExcuse "// skip-validate\n\n1|2|9|0".toList [note, []] := by
  have hparse : parse "// skip-validate\n\n1|2|9|0".toList =
      .ok [⟨⟨18, 25⟩, .pickup ⟨⟨⟨18, 21⟩, ⟨⟨18, 21⟩, ⟨1, 2⟩⟩, none⟩,
        ⟨⟨22, 25⟩, .water false⟩, false, true⟩⟩] := by
    rw [parse, Reading.ofText, Reading.ofCursor, Reading.ofCursorFrom_of_none (by rfl)]
    rfl
  obtain ⟨note, line, hlines, hopens⟩ : ∃ note line,
      tokenLines "// skip-validate\n\n1|2|9|0".toList = [note, [], line] ∧
        ∃ t ∈ opener line, t.span.start = 18 :=
    ⟨_, _, rfl, _, rfl, rfl⟩
  have hiff := (skipValidation_iff hparse List.mem_cons_self).2 [note, []] line [] hlines hopens
  exact ⟨hparse, note, line, hlines, hopens, hiff.mp rfl⟩

end SeedHeader
