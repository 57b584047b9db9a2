import SeedHeader.Proofs.LineReading
import SeedHeader.Proofs.Attributes
import SeedHeader.Proofs.LooseEnds

/-!
# Proofs — What stands around a statement

A line may be indented, and whitespace and a comment may stand behind its statement.  Indenting a
text moves what is read from it (`ofText_indent`).  What is put behind a line becomes part of its
last token or of the whitespace and the comment that are there, and all tokens in front of these
stay (`lexemes_append_of_padding`); so the statement reads the same by the way in which its end is
loose.  Together: blanks and comments around a statement do not change it (`parse_surrounded`).
-/

namespace SeedHeader

open Text Lexeme Rule Grammar Script

/-! ### Tokens in front of a blank -/

theorem clear_of_isPadding {c : Char} (h : isPadding c) : clear c := by
  simp only [isPadding, Bool.or_eq_true, decide_eq_true_eq] at h
  rcases h with rfl | rfl <;> decide

theorem head?_append_ne {after k : List Char} (hk : Meets isPadding k) {d : Char}
    (hd : isPadding d = false) (h : after.head? ≠ some d) : (after ++ k).head? ≠ some d := by
  cases after with
  | nil =>
    intro he
    rw [hk d he] at hd
    cases hd
  | cons e after => exact h

/-- A closed token stays as it is where blanks are put behind the text, unless it takes them in. -/
theorem Lexical.append_of_padding {t : TokenType} {kind : Option CommentKind}
    {chars after k : List Char} (h : Lexical t true kind chars after) (ht : t ≠ .comment)
    (hspace : t = .whitespace → after ≠ []) (hk : Meets isPadding k) :
    Lexical t true kind chars (after ++ k) := by
  have hclear : Meets clear k := fun c hc => clear_of_isPadding (hk c hc)
  cases h with
  | feed => exact .feed
  | carriage h => exact .carriage (head?_append_ne hk (by decide) h)
  | carriageFeed => exact .carriageFeed
  | whitespace h =>
    have hnot := (longest_padding_iff h.1.1 h.1.2).mp h
    obtain ⟨d, after, rfl⟩ := List.exists_cons_of_ne_nil (hspace rfl)
    exact .whitespace ((longest_padding_iff h.1.1 h.1.2).mpr hnot)
  | comment => exact absurd rfl ht
  | closed h => exact .closed h
  | number h => exact (Lexical.number h).append_of_firm trivial hclear
  | minus h => exact (Lexical.minus h).append_of_firm trivial hclear
  | identifier h => exact (Lexical.identifier h).append_of_firm trivial hclear
  | mark h => exact .mark h
  | unknown h hc =>
    refine .unknown { h with not_comment := fun e => ?_ } hc
    exact head?_append_ne hk (by decide) (h.not_comment e)

/-- Closed tokens stay where blanks are put behind what follows them, if the last of them is no
whitespace. -/
theorem lexemes_append_of_padding {w v : List Lexeme} (h : Lexed (w ++ v))
    (hw : ∀ l ∈ w, l.type ≠ .comment ∧ l.terminated)
    (hlast : ∀ l ∈ w.getLast?, l.type ≠ .whitespace) {k : List Char} (hk : Meets isPadding k) :
    lexemes (charsOf w ++ (charsOf v ++ k)) = w ++ lexemes (charsOf v ++ k) := by
  induction w with
  | nil => rfl
  | cons l w ih =>
    rw [List.cons_append] at h
    obtain ⟨hcomment, hclosed⟩ := hw l List.mem_cons_self
    have hspace : l.type = .whitespace → charsOf (w ++ v) ≠ [] := by
      intro hl
      cases w with
      | nil => exact absurd hl (hlast l rfl)
      | cons m w =>
        have hne := (h.shaped (l := m) (by simp)).text_ne_nil
        simp [hne]
    obtain ⟨c, cs, hl, hrest, -⟩ := Lexed.cons_iff.mp h
    have hlexical := lexical_cut c cs
    rw [← hl, ← hrest, hclosed] at hlexical
    have hcut := (hlexical.append_of_padding hcomment hspace hk).lexemes_eq
    have hrest := ih h.tail (fun m hm => hw m (List.mem_cons_of_mem l hm)) fun m hm => by
      cases w with
      | nil => cases hm
      | cons m' w => exact hlast m hm
    rw [charsOf_append, List.append_assoc] at hcut
    rw [charsOf_cons, List.append_assoc, hcut, hrest]
    rfl

/-- The core of a text stays as it is when blanks and more are added behind the text. -/
theorem IsCore.lexemes_append {text : List Char} {core ls : List Lexeme} (h : IsCore core)
    (htext : lexemes text = core ++ ls) (hcore : ∀ l ∈ core, l.type ≠ .comment ∧ l.terminated)
    {k : List Char} (hk : Meets isPadding k) :
    lexemes (text ++ k) = core ++ lexemes (charsOf ls ++ k) := by
  have hlexed : Lexed (core ++ ls) := htext ▸ lexed_lexemes text
  have hlast : ∀ l ∈ core.getLast?, l.type ≠ .whitespace := by
    intro l hl hspace
    obtain ⟨m, hm, hnot⟩ := h
    obtain rfl : m = l := Option.some.inj (hm.symm.trans hl)
    rw [hspace] at hnot
    cases hnot
  rw [← lexemes_append_of_padding hlexed hcore hlast hk, ← List.append_assoc, ← charsOf_append,
    ← htext, charsOf_lexemes]

/-! ### What stands behind a statement -/

theorem Lexeme.Shaped.comment_text {cs : List Char} (h : Shaped ⟨.comment, cs⟩) :
    ∃ body, cs = '/' :: '/' :: body ∧ ∀ c ∈ body, isLineEnd c = false := by
  cases h with
  | comment body h => exact ⟨body, rfl, h⟩
  | mark c ht =>
    have := punctuation_mem c
    simp [ht] at this

/-- Blanks, and behind them a comment up to the end or nothing. -/
def IsRemains (cs : List Char) : Prop :=
  ∃ space note, cs = space ++ note ∧ (∀ c ∈ space, isPadding c) ∧
    (note = [] ∨ ∃ body, note = '/' :: '/' :: body ∧ ∀ c ∈ body, isLineEnd c = false)

namespace IsRemains

variable {cs : List Char}

theorem not_lineEnd (h : IsRemains cs) : ∀ c ∈ cs, isLineEnd c = false := by
  obtain ⟨space, note, rfl, hspace, rfl | ⟨body, rfl, hbody⟩⟩ := h
  · intro c hc
    exact (plain_of_padding (hspace c (by simpa using hc))).1
  · refine List.forall_mem_append.mpr ⟨fun c hc => (plain_of_padding (hspace c hc)).1, ?_⟩
    exact List.forall_mem_cons.mpr ⟨rfl, List.forall_mem_cons.mpr ⟨rfl, hbody⟩⟩

/-- The tokens are whitespace and comments. -/
theorem isTail (h : IsRemains cs) : IsTail (lexemes cs) := by
  intro l hl
  refine ⟨?_, shaped_of_mem hl⟩
  obtain ⟨space, note, rfl, hspace, hnote⟩ := h
  have hcomment : ∀ m ∈ lexemes note, isTrailing m.type := by
    rcases hnote with rfl | ⟨body, rfl, hbody⟩
    · simp
    · have hlex := lexemes_comment hbody (k := []) (by simp)
      rw [List.append_nil] at hlex
      rw [hlex]
      simp [isTrailing]
  cases space with
  | nil => exact hcomment l hl
  | cons c space =>
    have hstop : ∀ d ∈ note.head?, isPadding d = false := by
      rcases hnote with rfl | ⟨body, rfl, -⟩
      · simp
      · rintro d hd
        obtain rfl : '/' = d := Option.some.inj hd
        rfl
    rw [lexemes_padding (by simp) hspace hstop] at hl
    rcases List.mem_cons.mp hl with rfl | hl
    · rfl
    · exact hcomment l hl

/-- Whitespace and comments with remains behind them are remains. -/
theorem charsOf_append {tail : List Lexeme} (ht : IsTail tail) (h : IsRemains cs) :
    IsRemains (charsOf tail ++ cs) := by
  induction tail with
  | nil => exact h
  | cons l tail ih =>
    obtain ⟨⟨hl, hs⟩, htail⟩ := List.forall_mem_cons.mp ht
    have hrest := ih htail
    obtain ⟨type, text⟩ := l
    have htype : type = .whitespace ∨ type = .comment := by
      simpa [isTrailing] using hl
    rw [charsOf_cons, List.append_assoc]
    rcases htype with rfl | rfl
    · obtain ⟨space, note, he, hspace, hnote⟩ := hrest
      exact ⟨text ++ space, note, by simp [he],
        List.forall_mem_append.mpr ⟨hs.padding, hspace⟩, hnote⟩
    · -- a comment takes in whatever stands behind it on the line
      obtain ⟨body, rfl, hbody⟩ := hs.comment_text
      refine ⟨[], _, rfl, by simp, .inr ⟨body ++ (charsOf tail ++ cs), rfl, ?_⟩⟩
      exact List.forall_mem_append.mpr ⟨hbody, hrest.not_lineEnd⟩

end IsRemains

/-! ### A statement and what stands behind it -/

section
variable {text : List Char} {x : Located Content} {c' : Cursor}

/-- A text is one content if behind its statement there are only whitespace and comments. -/
theorem parse_of_tail (h : statement false (.ofText text) = .ok x c') (ht : IsTail c'.ahead) :
    parse text = .ok [x] := by
  have hskip : (c'.skipWhile isTrailing).ahead = [] :=
    List.dropWhile_eq_nil_iff.mpr fun l hl => (ht l hl).1
  have heof : (c'.skipWhile isTrailing).type = .eof := by rw [Cursor.type_eq, hskip]; rfl
  obtain ⟨hb, he⟩ := Reading.statement_opens h
  have hround := Reading.round_of_opening false hb he
  rw [Reading.ofStatement_of_ok h, if_pos heof] at hround
  rw [parse, Reading.ofText, Reading.ofCursor, Reading.ofCursorFrom_of_none hround]
  rfl

/-- A text of one line that is one content and opens as a statement does is that statement, and
whitespace and comments. -/
theorem tail_of_parse (hline : ∀ c ∈ text, isLineEnd c = false)
    (hb : isBetween (Cursor.ofText text).type = false) (he : (Cursor.ofText text).type ≠ .eof)
    (h : parse text = .ok [x]) :
    ∃ c', statement false (.ofText text) = .ok x c' ∧ IsTail c'.ahead := by
  obtain ⟨c', hs⟩ := statement_of_parse hb he h
  refine ⟨c', hs, ?_⟩
  obtain ⟨w, hw, -⟩ := (statement_steady false).ok hs
  have hskip := Cursor.passes_skipWhile isTrailing c'
  have hmem : ∀ l ∈ c'.ahead, l ∈ lexemes text := fun l hl =>
    (hw.ahead ▸ List.mem_append_right w hl : l ∈ (Cursor.ofText text).ahead)
  suffices hnil : (c'.skipWhile isTrailing).ahead = [] by
    intro l hl
    exact ⟨List.dropWhile_eq_nil_iff.mp hnil l hl, shaped_of_mem (hmem l hl)⟩
  have hinked : Inked (c'.skipWhile isTrailing).ahead := fun l hl =>
    inked_lexemes text l (hmem l (hskip.ahead ▸ List.mem_append_right _ hl))
  have hround := Reading.round_of_opening false hb he
  rw [Reading.ofStatement_of_ok hs] at hround
  by_cases heof : (c'.skipWhile isTrailing).type = .eof
  · exact hinked.type_eq_eof_iff.mp heof
  -- nothing else can stand there: a newline is not on the line, and any other token is at fault
  have hnewline : (c'.skipWhile isTrailing).type ≠ .newline := by
    intro hn
    obtain ⟨l, ls, hl, hlexeme⟩ := Cursor.ahead_of_type heof
    have hlmem : l ∈ lexemes text :=
      hmem l (hskip.ahead ▸ List.mem_append_right _ (hl ▸ List.mem_cons_self))
    exact lexemes_oneLine_iff.mpr hline l hlmem (by rw [← hlexeme]; exact hn)
  rw [if_neg heof, if_neg hnewline] at hround
  have hfaults := (parse_eq_ok.mp h).1
  rw [Reading.ofText, Reading.ofCursor, Reading.ofCursorFrom_of_some hround] at hfaults
  cases hfaults

theorem firstType_of_solid (hsolid : Meets solid text) {l : Lexeme} {ls : List Lexeme}
    (h : lexemes text = l :: ls) : l.type ≠ .whitespace := by
  intro hl
  have hs : l.Shaped := shaped_of_mem (h ▸ List.mem_cons_self)
  obtain ⟨type, cs⟩ := l
  obtain rfl : type = .whitespace := hl
  obtain ⟨c, cs, rfl⟩ := List.exists_cons_of_ne_nil hs.text_ne_nil
  have htext : text = c :: (cs ++ charsOf ls) := by
    rw [← charsOf_lexemes text, h, charsOf_cons, List.cons_append]
  have hc := hsolid c (by rw [htext]; rfl)
  rw [solid, hs.padding c List.mem_cons_self] at hc
  cases hc

/-- A comment goes on to the end of the line. -/
theorem eq_nil_of_comment (hline : ∀ c ∈ text, isLineEnd c = false) {l : Lexeme} {ls : List Lexeme}
    (h : lexemes text = l :: ls) (hl : l.type = .comment) : ls = [] := by
  cases ls with
  | nil => rfl
  | cons m ls =>
    have hm : m ∈ lexemes text := by simp [h]
    have hlexed : Lexed (l :: m :: ls) := h ▸ lexed_lexemes text
    exact absurd (hlexed.newline_of_comment hl) (lexemes_oneLine_iff.mpr hline m hm)

/-- A text of one line that is one content, but no documentation, opens as a statement does. -/
theorem opens_of_parse (hline : ∀ c ∈ text, isLineEnd c = false) (hsolid : Meets solid text)
    (h : parse text = .ok [x]) (hx : x.val.isDocumentation = false) :
    isBetween (Cursor.ofText text).type = false ∧ (Cursor.ofText text).type ≠ .eof := by
  have hcontents := (parse_eq_ok.mp h).2
  obtain ⟨documentation, skip, c, e⟩ :
      ∃ d s c, interlude false 0 (lexemes text) = (d, s, c) := ⟨_, _, _, rfl⟩
  have hahead := interlude_ahead false 0 (lexemes text)
  have hkind := interlude_kind false 0 (lexemes text)
  simp only [e] at hahead hkind
  -- something is left behind the newlines, whitespace and comments
  have hne : c.type ≠ .eof := by
    intro hc
    have hround := Reading.round_of_eof (c := .ofText text) e hc
    rw [Reading.ofText, Reading.ofCursor, Reading.ofCursorFrom_of_none hround] at hcontents
    have := hkind x (by rw [show documentation = [x] from hcontents]; exact List.mem_cons_self)
    rw [hx] at this
    cases this
  cases hlex : lexemes text with
  | nil =>
    rw [hlex] at hahead
    exact absurd (by rw [Cursor.type_eq, hahead]; rfl) hne
  | cons l ls =>
    have htype : (Cursor.ofText text).type = l.type := by
      rw [Cursor.type_eq, Cursor.ofText, hlex, firstType_cons]
    have hlmem : l ∈ lexemes text := hlex ▸ List.mem_cons_self
    have hnot : ¬ isBetween l.type := by
      intro hl
      have htrailing := isTrailing_of_between hl (lexemes_oneLine_iff.mpr hline l hlmem)
      have hcomment : l.type = .comment := by
        simpa [isTrailing, firstType_of_solid hsolid hlex] using htrailing
      rw [hlex, eq_nil_of_comment hline hlex hcomment, List.dropWhile_cons, if_pos hl] at hahead
      exact hne (by rw [Cursor.type_eq, hahead]; rfl)
    rw [htype]
    exact ⟨by simpa using hnot, (shaped_of_mem hlmem).type_ne_eof⟩

/-- Behind a statement, blanks and a comment change nothing. -/
theorem statement_append (h : statement false (.ofText text) = .ok x c') (ht : IsTail c'.ahead)
    (hclosed : ∀ l ∈ lexemes text, l.terminated) {k : List Char} (hk : IsRemains k)
    (hpadding : Meets isPadding k) :
    ∃ y d, statement false (.ofText (text ++ k)) = .ok y d ∧ IsTail d.ahead ∧
      y.eraseContent = x.eraseContent := by
  obtain ⟨w, hw, hp⟩ := (statement_reads false).ok (lexed_lexemes text) h
  obtain ⟨w', hw', htextual⟩ := (statement_steady false).ok h
  obtain rfl : w' = w := List.append_cancel_right (hw'.ahead.symm.trans hw.ahead)
  have hahead : lexemes text = w' ++ c'.ahead := hw.ahead
  have hmem : ∀ l ∈ w', l ∈ lexemes text := fun l hl => hahead ▸ List.mem_append_left _ hl
  obtain ⟨core, blank, rfl, hcore, hblank, hloose⟩ :=
    Phrase.Loose.statement false (fun l hl => shaped_of_mem (hmem l hl)) hp
  have htail : IsTail (blank ++ c'.ahead) := List.forall_mem_append.mpr ⟨hblank, ht⟩
  have hstays : ∀ l ∈ core, l.type ≠ .comment ∧ l.terminated := by
    intro l hl
    have hlw := List.mem_append_left blank hl
    refine ⟨fun hc => ?_, hclosed l (hmem l hlw)⟩
    have := htextual l hlw
    rw [hc] at this
    cases this
  -- the core stays, and behind it there are whitespace and comments again
  rw [List.append_assoc] at hahead
  have hlexemes := hcore.lexemes_append hahead hstays hpadding
  obtain ⟨v, rest, hv, hsay, hrest⟩ := hloose _ (hk.charsOf_append htail).isTail
  obtain ⟨y, d, hy, he, -, hd⟩ := (statement_reads false).of_phrase (c := .ofText (text ++ k))
    (lexed_lexemes _) (hlexemes.trans hv) hsay
  exact ⟨y, d, hy, hd ▸ hrest, he⟩

end

/-! ### Indenting -/

theorem lexemes_indent {indent text : List Char} (hindent : ∀ c ∈ indent, isPadding c)
    (hsolid : Meets solid text) :
    ∃ space, lexemes (indent ++ text) = space ++ lexemes text ∧ IsOptional .whitespace space ∧
      charsOf space = indent := by
  cases indent with
  | nil => exact ⟨[], rfl, .inl rfl, rfl⟩
  | cons c indent =>
    have hstop : ∀ d ∈ text.head?, isPadding d = false := fun d hd => by
      simpa [solid] using hsolid d hd
    exact ⟨_, lexemes_padding (by simp) hindent hstop, .inr ⟨_, rfl⟩, by simp⟩

/-- An indented text is read as the text is, further on. -/
theorem ofText_indent {indent text : List Char} (hindent : ∀ c ∈ indent, isPadding c)
    (hsolid : Meets solid text) :
    Reading.ofText (indent ++ text) = (Reading.ofText text).shift indent.length := by
  obtain ⟨space, hlexemes, hspace, hchars⟩ := lexemes_indent hindent hsolid
  have hinterlude := interlude_append_of_optional hspace false 0 (lexemes text)
  rw [← hlexemes, hchars, Nat.zero_add] at hinterlude
  have hskip : Reading.ofText (indent ++ text) =
      (Reading.ofCursorFrom false ⟨indent.length, lexemes text⟩).after [] :=
    Reading.ofCursorFrom_of_interlude hinterlude
  have hembed : Cursor.embed indent.length [] (.ofText text) = ⟨indent.length, lexemes text⟩ := by
    simp [Cursor.embed, Cursor.ofText]
  have hinked : Inked (Cursor.ofText text).ahead := inked_lexemes text
  have hread := Reading.ofCursorFrom_embed indent.length false hinked (.inl rfl)
  rw [Reading.ofCursorFrom_nil, ← Reading.skip_shift indent.length, Reading.append_empty, hembed]
    at hread
  rw [hskip, hread]
  rfl

theorem parse_indent {indent text : List Char} (hindent : ∀ c ∈ indent, isPadding c)
    (hsolid : Meets solid text) {contents : List (Located Content)} :
    parse (indent ++ text) = .ok contents ↔
      ∃ xs, parse text = .ok xs ∧ contents = xs.map (Located.shiftContent indent.length) := by
  rw [parse_eq_ok, ofText_indent hindent hsolid, Reading.shift, List.map_eq_nil_iff]
  constructor
  · rintro ⟨hfaults, hcontents⟩
    exact ⟨_, parse_eq_ok.mpr ⟨hfaults, rfl⟩, hcontents.symm⟩
  · rintro ⟨xs, hread, rfl⟩
    obtain ⟨hfaults, rfl⟩ := parse_eq_ok.mp hread
    exact ⟨hfaults, rfl⟩

/-! ### Blanks and comments around a statement -/

theorem Located.isDocumentation_shiftContent (n : Nat) (x : Located Content) :
    (x.shiftContent n).val.isDocumentation = x.val.isDocumentation := by
  obtain ⟨span, content⟩ := x
  cases content <;> rfl

/-- All lexemes are closed if all strings among the tokens are. -/
theorem closed_of_tokenize {text : List Char}
    (h : ∀ t ∈ tokenize text, t.type = .string → t.terminated) :
    ∀ l ∈ lexemes text, l.terminated := by
  intro l hl
  by_cases hstring : l.type = .string
  · obtain ⟨w, v, hsplit⟩ := List.append_of_mem hl
    have hmem : l.tokenAt (0 + (charsOf w).length) ∈ tokenize text :=
      List.mem_append_left _ (mem_place_iff.mpr ⟨w, l, v, hsplit, rfl⟩)
    exact h _ hmem hstring
  · simp [Lexeme.terminated, hstring]

/-- **Blanks and comments around a statement do not change it.**  Let a text of one line be read as
one content that is no documentation, and let no string in it be open.  Indented further, and with
blanks and then a comment or nothing behind it, the text is read as the same content, which starts
further on by what was put in front. -/
theorem parse_surrounded {text indent blank note : List Char} {x : Located Content}
    (hline : ∀ c ∈ text, isLineEnd c = false) (hread : parse text = .ok [x])
    (hx : x.val.isDocumentation = false)
    (hstrings : ∀ t ∈ tokenize text, t.type = .string → t.terminated)
    (hindent : ∀ c ∈ indent, isPadding c) (hne : blank ≠ []) (hblank : ∀ c ∈ blank, isPadding c)
    (hnote : note = [] ∨ ∃ body, note = '/' :: '/' :: body ∧ ∀ c ∈ body, isLineEnd c = false) :
    ∃ y, parse (indent ++ text ++ blank ++ note) = .ok [y] ∧ y.eraseContent = x.eraseContent ∧
      y.span.start = x.span.start + indent.length := by
  -- the statement, without the indent that the text has
  obtain ⟨g, r, rfl, hg, hr⟩ := exists_padding_append text
  obtain ⟨xs, hread', hxs⟩ := (parse_indent hg hr).mp hread
  obtain ⟨z, rfl, rfl⟩ := List.map_eq_singleton_iff.mp hxs.symm
  have hline' : ∀ c ∈ r, isLineEnd c = false := fun c hc => hline c (List.mem_append_right g hc)
  rw [Located.isDocumentation_shiftContent] at hx
  obtain ⟨hb, he⟩ := opens_of_parse hline' hr hread' hx
  obtain ⟨c', hs, ht⟩ := tail_of_parse hline' hb he hread'
  -- what stands behind it
  have hremains : IsRemains (blank ++ note) := ⟨blank, note, rfl, hblank, hnote⟩
  have hpadding : Meets isPadding (blank ++ note) := by
    obtain ⟨c, blank, rfl⟩ := List.exists_cons_of_ne_nil hne
    rintro d ⟨⟩
    exact hblank c List.mem_cons_self
  have hclosed : ∀ l ∈ lexemes r, l.terminated := by
    obtain ⟨space, hlexemes, -⟩ := lexemes_indent hg hr
    exact fun l hl => closed_of_tokenize hstrings l (hlexemes ▸ List.mem_append_right space hl)
  obtain ⟨y, d, hy, hd, heq⟩ := statement_append hs ht hclosed hremains hpadding
  have hsolid : Meets solid (r ++ (blank ++ note)) := by
    have hne : r ≠ [] := by
      rintro rfl
      exact he rfl
    rw [Meets, List.head?_append_of_ne_nil r hne]
    exact hr
  have hindent' : ∀ c ∈ indent ++ g, isPadding c := List.forall_mem_append.mpr ⟨hindent, hg⟩
  have hfinal := (parse_indent hindent' hsolid).mpr ⟨[y], parse_of_tail hy hd, rfl⟩
  refine ⟨y.shiftContent (indent ++ g).length, by simpa using hfinal, ?_, ?_⟩
  · rw [Located.eraseContent_shiftContent, Located.eraseContent_shiftContent, heq]
  · have hstart : y.span.start = 0 := congrArg Span.start (located_ok hy).2
    have hstart' : z.span.start = 0 := congrArg Span.start (located_ok hs).2
    have hshift : ∀ (n : Nat) (x : Located Content),
        (x.shiftContent n).span.start = n + x.span.start := fun _ _ => rfl
    rw [hshift, hshift, hstart, hstart', List.length_append]
    omega

/-- A message that ends with a slash does not take in the comment behind it. -/
theorem parse_surrounded_slash :
    ∃ x, parse "5|6|6|\"a//b\" /".toList = .ok [x] ∧ x.val.isDocumentation = false ∧
      (∀ t ∈ tokenize "5|6|6|\"a//b\" /".toList, t.type = .string → t.terminated) ∧
      ∃ y, parse (['\t'] ++ "5|6|6|\"a//b\" /".toList ++ [' '] ++ "//c".toList) = .ok [y] ∧
        y.eraseContent = x.eraseContent ∧ y.span.start = x.span.start + 1 := by
  obtain ⟨x, c', hs, hx, htail⟩ : ∃ x c',
      Grammar.statement false (.ofText "5|6|6|\"a//b\" /".toList) = .ok x c' ∧
        x.val.isDocumentation = false ∧ c'.ahead = [] := ⟨_, _, rfl, rfl, rfl⟩
  have hread := parse_of_tail hs (by simp [htail, IsTail])
  have hline : ∀ c ∈ "5|6|6|\"a//b\" /".toList, isLineEnd c = false := by simp [isLineEnd]
  have hstrings : ∀ t ∈ tokenize "5|6|6|\"a//b\" /".toList, t.type = .string → t.terminated := by
    decide
  have hindent : ∀ c ∈ ['\t'], isPadding c := by simp [isPadding]
  have hblank : ∀ c ∈ [' '], isPadding c := by simp [isPadding]
  have hnote : "//c".toList = [] ∨ ∃ body, "//c".toList = '/' :: '/' :: body ∧
      ∀ c ∈ body, isLineEnd c = false := .inr ⟨['c'], rfl, by simp [isLineEnd]⟩
  exact ⟨x, hread, hx, hstrings,
    parse_surrounded hline hread hx hstrings hindent (by simp) hblank hnote⟩

end SeedHeader
