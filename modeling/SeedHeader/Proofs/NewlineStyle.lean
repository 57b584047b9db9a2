import Mathlib.Data.Option.Basic
import SeedHeader.File
import SeedHeader.Proofs.Utf8
import SeedHeader.Proofs.UniformNewlines
import SeedHeader.Proofs.Sameness
import SeedHeader.Proofs.Soundness
import SeedHeader.Proofs.Recovery

/-!
# Proofs — The style of newlines does not matter

Reading a text and reading the uniform text go side by side.  Two cursors are *twins* when the
lexemes behind them, and so those ahead, are the same up to the characters of newlines.  Twins are a
correspondence that the rules of the grammar follow; passing a newline keeps it too.  So each round
leads from twins to twins, and what is read is the same at the places of the uniform text
(`ofText_unifyNewlines`).

A file is read as the uniform text of what it encodes; so a header means the same in a file and
out of it, whatever the style of its newlines (`newline_style_irrelevant`).
-/

namespace SeedHeader

open Text Lexeme Rule Grammar

variable {text : List Char} {c d : Cursor}

/-! ### Corresponding cursors -/

namespace Cursor

/-- The cursor `d` stands in the uniform text where `c` stands in the text. -/
def Twins (text : List Char) (c d : Cursor) : Prop :=
  ∃ w, (ofText text).Passes w c ∧ (ofText (unifyNewlines text)).Passes (w.map uniform) d

namespace Twins

theorem start (text : List Char) : Twins text (ofText text) (ofText (unifyNewlines text)) :=
  ⟨[], .refl _, .refl _⟩

theorem ahead (h : Twins text c d) : d.ahead = c.ahead.map uniform := by
  obtain ⟨w, hw, hw'⟩ := h
  have htext : lexemes text = w ++ c.ahead := hw.ahead
  have huniform : lexemes (unifyNewlines text) = w.map uniform ++ d.ahead := hw'.ahead
  rw [lexemes_unifyNewlines, htext, List.map_append] at huniform
  exact (List.append_cancel_left huniform).symm

theorem pos (h : Twins text c d) : d.pos = uniformOffset text c.pos := by
  obtain ⟨w, hw, hw'⟩ := h
  have htext : lexemes text = w ++ c.ahead := hw.ahead
  have hoffset := uniformOffset_charsOf htext
  rw [hw.pos, hw'.pos, ofText, ofText, Nat.zero_add, Nat.zero_add, hoffset]

/-- Twins that pass the same lexemes are twins again. -/
theorem pass {c' d' : Cursor} {v : List Lexeme} (h : Twins text c d) (hc : c.Passes v c')
    (hd : d.Passes (v.map uniform) d') : Twins text c' d' := by
  obtain ⟨w, hw, hw'⟩ := h
  refine ⟨w ++ v, hw.trans hc, ?_⟩
  rw [List.map_append]
  exact hw'.trans hd

theorem lexeme (h : Twins text c d) : d.lexeme = c.lexeme.uniform := by
  rw [Cursor.lexeme, h.ahead, Cursor.lexeme]
  cases c.ahead with
  | nil => rfl
  | cons l ls => rfl

theorem type (h : Twins text c d) : d.type = c.type := by
  rw [Cursor.type, h.lexeme, type_uniform, Cursor.type]

theorem next (h : Twins text c d) : Twins text c.next d.next := by
  have hpass : ∀ e : Cursor, e.Passes (e.ahead.take 1) e.next := by
    intro e
    refine ⟨?_, ?_⟩
    · cases ha : e.ahead <;> simp [Cursor.next, ha]
    · cases ha : e.ahead <;> simp [Cursor.next, Cursor.lexeme, ha, width]
  refine h.pass (hpass c) ?_
  rw [List.map_take, ← h.ahead]
  exact hpass d

theorem skipWhile (h : Twins text c d) (p : TokenType → Bool) :
    Twins text (c.skipWhile p) (d.skipWhile p) := by
  refine h.pass (passes_skipWhile p c) ?_
  have hd := passes_skipWhile p d
  rw [h.ahead, List.takeWhile_map] at hd
  simpa [Function.comp_def] using hd

theorem passed (h : Twins text c d) {p : TokenType → Bool} (hp : p .newline = false) :
    d.passed p = c.passed p := by
  rw [Cursor.passed, h.ahead, List.takeWhile_map, Cursor.passed]
  -- no newline is among the lexemes passed over
  have hsame : ∀ l ∈ c.ahead.takeWhile (fun l => p l.type), l.uniform = l := by
    intro l hl
    have hl' : p l.type = true := List.mem_takeWhile_imp (p := fun l : Lexeme => p l.type) hl
    refine uniform_of_ne fun ht => ?_
    rw [ht, hp] at hl'
    cases hl'
  simp only [Function.comp_def, type_uniform]
  rw [List.map_congr_left hsame, List.map_id']

end Twins

end Cursor

/-- Twins, as a correspondence of cursors. -/
def Simulation.uniform (text : List Char) : Simulation where
  offset := uniformOffset text
  Rel := Cursor.Twins text
  pos_eq h := h.pos
  stop_eq h := h.next.pos
  type_eq h := h.type
  lexeme_eq h ht := by rw [h.lexeme, uniform_of_ne ht]
  next h _ := h.next
  passed_eq hp h := h.passed hp
  skipWhile _ h := h.skipWhile _

/-! ### Between statements -/

/-- Where a span of the text is in the uniform text. -/
abbrev uniformSpan (text : List Char) : Span → Span := Span.map (uniformOffset text)

theorem remark_uniform {l : Lexeme} {ls : List Lexeme} (ha : c.ahead = l :: ls)
    (h : c.Twins text d) (skip : Bool) :
    remark skip d.pos l.uniform =
      ((remark skip c.pos l).1.map (Located.moveContent (uniformSpan text)),
        (remark skip c.pos l).2) := by
  have hl : c.lexeme = l := by rw [Cursor.lexeme, ha, List.headD_cons]
  by_cases ht : l.type = .newline
  · have hkind : l.commentKind = none := by simp [commentKind, ht]
    simp [remark, commentKind_uniform, hkind]
  · have hspan : d.span = uniformSpan text c.span := (Simulation.uniform text).span_eq h
    rw [Cursor.span, Cursor.span, h.lexeme, hl, uniform_of_ne ht] at hspan
    rw [uniform_of_ne ht]
    simp only [remark, hspan]
    split <;> rfl

/-- Twins pass the same newlines, whitespace and comments. -/
theorem interlude_uniform (h : c.Twins text d) (skip : Bool) :
    ∃ documentation skip' c' d',
      interlude skip c.pos c.ahead = (documentation, skip', c') ∧
      interlude skip d.pos d.ahead =
        (documentation.map (Located.moveContent (uniformSpan text)), skip', d') ∧
      c'.Twins text d' := by
  -- induction on what is ahead: passing one lexeme leads from twins to twins
  induction hls : c.ahead generalizing c d skip with
  | nil =>
    have hd : d.ahead = [] := by rw [h.ahead, hls, List.map_nil]
    refine ⟨[], skip, c, d, ?_, ?_, h⟩
    · rw [interlude, ← hls]
    · rw [hd, interlude, ← hd, List.map_nil]
  | cons l ls ih =>
    have hd : d.ahead = l.uniform :: ls.map uniform := by rw [h.ahead, hls, List.map_cons]
    rw [hd]
    by_cases hl : isBetween l.type
    · have hnext : c.next = ⟨c.pos + l.width, ls⟩ := by
        rw [Cursor.next, Cursor.lexeme, hls, List.headD_cons, List.tail_cons]
      have hnext' : d.next = ⟨d.pos + l.uniform.width, ls.map uniform⟩ := by
        rw [Cursor.next, Cursor.lexeme, hd, List.headD_cons, List.tail_cons]
      obtain ⟨documentation, skip', c', d', hc, hd', htwins⟩ :=
        ih h.next (remark skip c.pos l).2 (by rw [hnext])
      rw [hnext] at hc
      rw [hnext'] at hd'
      have hl' : isBetween l.uniform.type := by rwa [type_uniform]
      refine ⟨_, skip', c', d', by rw [interlude_of_between _ _ hl, hc], ?_, htwins⟩
      rw [interlude_of_between _ _ hl', remark_uniform hls h, hd', List.map_append]
      cases (remark skip c.pos l).1 <;> rfl
    · have hl' : ¬ isBetween l.uniform.type := by rwa [type_uniform]
      refine ⟨[], skip, c, d, ?_, ?_, h⟩
      · rw [interlude_of_not_between _ _ hl, ← hls]
      · rw [interlude_of_not_between _ _ hl', ← hd, List.map_nil]

/-! ### Rounds -/

namespace Reading

/-- The reading with `f` applied to every span. -/
def relocate (f : Span → Span) (r : Reading) : Reading :=
  ⟨r.contents.map (Located.moveContent f), r.faults.map (Fault.move f), r.skip⟩

theorem relocate_append (f : Span → Span) (r s : Reading) :
    (r.append s).relocate f = (r.relocate f).append (s.relocate f) := by
  simp [append, relocate]

theorem relocate_after (f : Span → Span) (documentation : List (Located Content)) (r : Reading) :
    (r.after documentation).relocate f =
      (r.relocate f).after (documentation.map (Located.moveContent f)) := by
  simp [after, relocate]

/-- What was read up to twins, and the twins from which reading goes on. -/
def Tallies (text : List Char) (x y : Reading × Option Cursor) : Prop :=
  y.1 = x.1.relocate (uniformSpan text) ∧ Option.Rel (Cursor.Twins text) x.2 y.2

/-- Twins read the same statement, or find the same fault. -/
theorem ofStatement_uniform (h : c.Twins text d) (skip : Bool) :
    Tallies text (ofStatement skip c) (ofStatement skip d) := by
  have hm : (Simulation.uniform text).Matches _ (statement skip c) (statement skip d) :=
    statement_follows skip c d h
  cases hc : statement skip c with
  | ok content c₁ =>
    cases hd : statement skip d with
    | error fault d₁ =>
      rw [hc, hd] at hm
      cases hm
    | ok content' d₁ =>
      rw [hc, hd] at hm
      obtain ⟨rfl, h₁⟩ := hm
      have hend : (c₁.skipWhile isTrailing).Twins text (d₁.skipWhile isTrailing) :=
        Cursor.Twins.skipWhile h₁ isTrailing
      have hspan := (Simulation.uniform text).span_eq hend
      -- the token behind the statement has the same type, so the same is done about it
      rw [ofStatement_of_ok hc, ofStatement_of_ok hd, hend.type, hspan]
      split
      · exact ⟨rfl, .none⟩
      split
      · exact ⟨rfl, .some hend.next⟩
      · exact ⟨rfl, .some (hend.skipWhile _).next⟩
  | error fault c₁ =>
    cases hd : statement skip d with
    | ok content' d₁ =>
      rw [hc, hd] at hm
      cases hm
    | error fault' d₁ =>
      rw [hc, hd] at hm
      obtain ⟨rfl, h₁⟩ := hm
      simp only [ofStatement, hc, hd]
      exact ⟨rfl, .some (Cursor.Twins.skipWhile h₁ _).next⟩

/-- **A round leads from twins to twins.** -/
theorem round_uniform (h : c.Twins text d) (skip : Bool) :
    Tallies text (round skip c) (round skip d) := by
  obtain ⟨documentation, skip', c', d', hc, hd, h'⟩ := interlude_uniform h skip
  by_cases he : c'.type = .eof
  · rw [round_of_eof hc he, round_of_eof hd (h'.type.trans he)]
    exact ⟨rfl, .none⟩
  · have he' : d'.type ≠ .eof := by rwa [h'.type]
    obtain ⟨hr, hnext⟩ := ofStatement_uniform h' skip'
    rw [round_of_ne_eof hc he, round_of_ne_eof hd he']
    refine ⟨?_, hnext⟩
    rw [relocate_after, hr]

/-- Reading on from twins. -/
theorem ofCursorFrom_uniform (h : c.Twins text d) (skip : Bool) :
    ofCursorFrom skip d = (ofCursorFrom skip c).relocate (uniformSpan text) := by
  induction skip, c using round_induction generalizing d with
  | step skip c ih =>
  obtain ⟨hr, hnext⟩ := round_uniform h skip
  cases hc : round skip c with
  | mk r next =>
  cases hd : round skip d with
  | mk r' next' =>
  rw [hc, hd] at hr hnext
  obtain rfl : r' = r.relocate (uniformSpan text) := hr
  cases hnext with
  | none => rw [ofCursorFrom_of_none hc, ofCursorFrom_of_none hd]
  | some h' =>
    rw [ofCursorFrom_of_some hc, ofCursorFrom_of_some hd, relocate_append, ← ih r _ hc h']
    rfl

/-- **What is read from the uniform text is what is read from the text**, at the places of the
uniform text. -/
theorem ofText_unifyNewlines (text : List Char) :
    ofText (unifyNewlines text) = (ofText text).relocate (uniformSpan text) :=
  ofCursorFrom_uniform (.start text) false

end Reading

/-! ### Texts and files -/

/-- The diagnostic with `f` applied to its offsets. -/
def Diagnostic.move (f : Nat → Nat) (d : Diagnostic) : Diagnostic :=
  ⟨d.message, ⟨f d.span.start.toNat, f d.span.stop.toNat⟩, d.suggestion⟩

theorem Fault.diagnostic_move (f : Nat → Nat) (fault : Fault) :
    (fault.move (Span.map f)).diagnostic = fault.diagnostic.move f := by
  simp [Fault.move, Fault.diagnostic, Diagnostic.move, Span.map, Span.toInt]

/-- A file is opened as the uniform text of what it encodes. -/
theorem openFile_encodeUtf8 (name : String) (text : List Char) :
    openFile name (some (encodeUtf8 text)) = .ok (unifyNewlines text) := by
  rw [openFile, fileText, decodeUtf8_encodeUtf8]

/-- **The style of newlines does not matter.**  The tokens of a text are those of the uniform text,
the diagnostics are the same, and so are the contents if there is no diagnostic; each offset is less
by the number of pairs of carriage return and line feed before it.  What is read from a file that
encodes the text is what is read from the uniform text, which without a carriage return is the text
itself. -/
theorem newline_style_irrelevant (text : List Char) :
    tokenize (unifyNewlines text) = (tokenize text).map (Token.move (uniformSpan text)) ∧
    (∀ contents, parse text = .ok contents → ∃ contents',
      parse (unifyNewlines text) = .ok contents' ∧
        Datum.sameAll (documentNodes contents) (documentNodes contents')) ∧
    (Reading.ofText (unifyNewlines text)).diagnostics =
      (Reading.ofText text).diagnostics.map (Diagnostic.move (uniformOffset text)) ∧
    (∀ name, (openFile name (some (encodeUtf8 text))).map Reading.ofText =
      .ok (Reading.ofText (unifyNewlines text))) ∧
    ('\r' ∉ text → ∀ name, (openFile name (some (encodeUtf8 text))).map Reading.ofText =
      .ok (Reading.ofText text)) := by
  have hread := Reading.ofText_unifyNewlines text
  have hfile : ∀ name, (openFile name (some (encodeUtf8 text))).map Reading.ofText =
      .ok (Reading.ofText (unifyNewlines text)) := by
    intro name
    rw [openFile_encodeUtf8]
    rfl
  refine ⟨tokenize_unifyNewlines text, ?_, ?_, hfile, ?_⟩
  · intro contents h
    have hwell : ∀ c ∈ (Reading.ofText text).contents, c.val.WellFormed :=
      Reading.wellFormed_of_mem (lexed_lexemes text)
    obtain ⟨hfaults, rfl⟩ := parse_eq_ok.mp h
    refine ⟨_, parse_eq_ok.mpr ⟨?_, rfl⟩, ?_⟩
    · rw [hread, Reading.relocate, hfaults, List.map_nil]
    · rw [hread]
      exact sameAll_documentNodes hwell (uniformSpan text)
  · rw [hread]
    simp only [Reading.diagnostics, Reading.relocate, List.map_map]
    exact List.map_congr_left fun fault _ => fault.diagnostic_move (uniformOffset text)
  · intro h name
    rw [hfile, unifyNewlines_eq_self h]

/-- An annotation before a newline of two characters, and in a file without any such newline. -/
theorem newline_style_irrelevant_annotation :
    (parse "#x\r\n".toList = .ok [⟨⟨0, 2⟩, .annotated "x"⟩] ∧
      ∃ contents, parse "#x\n".toList = .ok contents ∧
        Datum.sameAll (documentNodes [⟨⟨0, 2⟩, .annotated "x"⟩]) (documentNodes contents)) ∧
    '\r' ∉ "#x\n".toList ∧
      (openFile "x.wotwrh" (some (encodeUtf8 "#x\n".toList))).map Reading.ofText =
        .ok (Reading.ofText "#x\n".toList) := by
  have hround : Reading.round false (.ofText "#x\r\n".toList) =
      (⟨[⟨⟨0, 2⟩, .annotated "x"⟩], [], false⟩, some ⟨4, []⟩) := by rfl
  have hread : Reading.ofText "#x\r\n".toList = ⟨[⟨⟨0, 2⟩, .annotated "x"⟩], [], false⟩ := by
    rw [Reading.ofText, Reading.ofCursor, Reading.ofCursorFrom_of_some hround,
      Reading.ofCursorFrom_nil]
    rfl
  have hparse : parse "#x\r\n".toList = .ok [⟨⟨0, 2⟩, .annotated "x"⟩] :=
    parse_eq_ok.mpr ⟨by rw [hread], by rw [hread]⟩
  have hcarriage : '\r' ∉ "#x\n".toList := by decide
  exact ⟨⟨hparse, (newline_style_irrelevant "#x\r\n".toList).2.1 _ hparse⟩, hcarriage,
    (newline_style_irrelevant "#x\n".toList).2.2.2.2 hcarriage "x.wotwrh"⟩

end SeedHeader
