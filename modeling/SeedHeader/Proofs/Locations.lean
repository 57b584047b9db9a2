import Mathlib.Algebra.Ring.Nat
import SeedHeader.Proofs.LineNumbers

/-!
# Proofs — Locations

The line feeds of a text cut it into lines, and a place on these lines is given by a line and a
column, both counted from one (`Location.IsOn`).  In front of a place stand the lines before it and
the columns before it, and their characters are its offset (`Location.offset`).

**Locations** (`location_invertible`).  The location of a diagnostic is the place whose offset is
the start of the diagnostic.  So no two offsets have the same location, a greater offset has a
location that is read later, and each place is the location of an offset.

A text is taken apart character by character (`BrokenInto`): a line feed ends a line, and any other
character makes the line that it is on longer by one.
-/

namespace SeedHeader

/-! ### Places on the lines of a text -/

/-- The lines of a text are what its line feeds separate. -/
def feedLines (text : List Char) : List (List Char) := text.splitOn '\n'

namespace Location

/-- The place is on one of the lines, at one of its characters or behind the last of them. -/
def IsOn (lines : List (List Char)) (l : Location) : Prop :=
  1 ≤ l.line ∧ ∃ line, lines[l.line - 1]? = some line ∧ 1 ≤ l.column ∧ l.column ≤ line.length + 1

/-- The number of characters in front of a place: those of the lines before its own, with a line
feed behind each, and one for each column before its own. -/
def offset (lines : List (List Char)) (l : Location) : Int :=
  (((lines.take (l.line - 1)).map fun line => line.length + 1).sum : Nat) + (l.column - 1)

/-- The order of reading, line by line and on each line column by column. -/
def Before (l m : Location) : Prop :=
  l.line < m.line ∨ l.line = m.line ∧ l.column < m.column

/-- A place on the lines is on one of the first ones, or on the last. -/
theorem isOn_concat {lines : List (List Char)} {last : List Char} {l : Location} :
    l.IsOn (lines ++ [last]) ↔
      l.IsOn lines ∨ l.line = lines.length + 1 ∧ 1 ≤ l.column ∧ l.column ≤ last.length + 1 := by
  unfold IsOn
  rcases Nat.lt_trichotomy (l.line - 1) lines.length with h | h | h
  · rw [List.getElem?_append_left h]
    constructor
    · exact .inl
    · rintro (hl | ⟨hline, -⟩)
      · exact hl
      · omega
  · have hnone : lines[l.line - 1]? = none := List.getElem?_eq_none (by omega)
    rw [List.getElem?_append_right (by omega), hnone]
    simp [h]
    omega
  · have hnone : lines[l.line - 1]? = none := List.getElem?_eq_none (by omega)
    rw [List.getElem?_eq_none (by simp; omega), hnone]
    simp
    omega

end Location

/-! ### A text, character by character -/

/-- The characters are `lines`, with a line feed behind each, and then `last`. -/
inductive BrokenInto : List Char → List (List Char) → List Char → Prop where
  | nil : BrokenInto [] [] []
  | char {cs last : List Char} {lines : List (List Char)} {c : Char} (hc : c ≠ '\n')
      (h : BrokenInto cs lines last) : BrokenInto (cs ++ [c]) lines (last ++ [c])
  | feed {cs last : List Char} {lines : List (List Char)} (h : BrokenInto cs lines last) :
      BrokenInto (cs ++ ['\n']) (lines ++ [last]) []

theorem exists_brokenInto (cs : List Char) : ∃ lines last, BrokenInto cs lines last := by
  induction cs using List.reverseRecOn with
  | nil => exact ⟨[], [], .nil⟩
  | append_singleton cs c ih =>
    obtain ⟨lines, last, h⟩ := ih
    by_cases hc : c = '\n'
    · exact ⟨lines ++ [last], [], hc ▸ .feed h⟩
    · exact ⟨lines, last ++ [c], .char hc h⟩

theorem lineStart_concat (cs : List Char) (c : Char) :
    lineStart (cs ++ [c]) = if c = '\n' then cs.length + 1 else lineStart cs := by
  unfold lineStart
  split
  · next h => simp [h]
  · next h => simp [h]

theorem beq_feed_of_notMem {line : List Char} (h : '\n' ∉ line) :
    ∀ c ∈ line, (c == '\n') = false := by
  intro c hc
  rw [beq_eq_false_iff_ne]
  rintro rfl
  exact h hc

/-- Characters without a line feed stand at the front of the first line. -/
theorem feedLines_append_of_notMem {last : List Char} (h : '\n' ∉ last) (after : List Char) :
    ∃ first more, feedLines (last ++ after) = (last ++ first) :: more := by
  induction last with
  | nil => exact List.exists_cons_of_ne_nil (List.splitOnP_ne_nil _ after)
  | cons c last ih =>
    obtain ⟨hc, hlast⟩ := not_or.mp (List.mem_cons.not.mp h)
    obtain ⟨first, more, ih⟩ := ih hlast
    refine ⟨first, more, ?_⟩
    rw [feedLines, List.splitOn] at ih ⊢
    rw [List.cons_append, List.splitOnP_cons_eq_if_modifyHead, if_neg (by simpa using Ne.symm hc),
      ih]
    rfl

theorem locate_append {cs : List Char} {n : Nat} (h : n ≤ cs.length) (after : List Char) :
    locate (cs ++ after) n = locate cs n := by
  rw [locate_eq, locate_eq, List.take_append_of_le_length h]

namespace BrokenInto

variable {cs last : List Char} {lines : List (List Char)}

theorem count_eq (h : BrokenInto cs lines last) : cs.count '\n' = lines.length := by
  induction h with
  | nil => rfl
  | char hc _ ih => simp [ih, hc]
  | feed _ ih => simp [ih]

theorem feed_notMem (h : BrokenInto cs lines last) : '\n' ∉ last := by
  induction h with
  | nil | feed => simp
  | char hc _ ih => simp [ih, Ne.symm hc]

theorem length_eq (h : BrokenInto cs lines last) :
    cs.length = (lines.map fun line => line.length + 1).sum + last.length := by
  induction h with
  | nil => rfl
  | char _ _ ih => simp [ih, Nat.add_assoc]
  | feed _ ih => simp [ih, Nat.add_assoc]

theorem lineStart_add (h : BrokenInto cs lines last) :
    lineStart cs + last.length = cs.length := by
  induction h with
  | nil => rfl
  | char hc _ ih => simp [lineStart_concat, hc, ← ih, Nat.add_assoc]
  | feed => simp [lineStart_concat]

/-- Behind the characters the lines go on with the one that `last` is the front of. -/
theorem feedLines_append (h : BrokenInto cs lines last) (after : List Char) :
    feedLines (cs ++ after) = lines ++ feedLines (last ++ after) := by
  induction h generalizing after with
  | nil => rfl
  | char _ _ ih => simpa using ih _
  | @feed cs last lines h ih =>
    have hlast : feedLines (last ++ '\n' :: after) = last :: feedLines after :=
      List.splitOnP_append_cons_of_forall_mem (beq_feed_of_notMem h.feed_notMem) '\n' rfl after
    rw [List.append_assoc, List.singleton_append, ih, hlast, List.append_assoc,
      List.singleton_append, List.nil_append]

/-- The end of the characters is behind `last`. -/
theorem locate_length (h : BrokenInto cs lines last) :
    locate cs cs.length = ⟨lines.length + 1, last.length + 1⟩ := by
  rw [locate_eq, List.take_length, h.count_eq, ← h.lineStart_add]
  congr 1
  omega

/-- Each place on the lines is the location of an offset: that of the end, or of one before it. -/
theorem exists_locate (h : BrokenInto cs lines last) {l : Location}
    (hl : l.IsOn (lines ++ [last])) : ∃ n ≤ cs.length, locate cs n = l := by
  obtain ⟨line, column⟩ := l
  induction h with
  | nil =>
    rcases Location.isOn_concat.mp hl with ⟨-, _, hline, -⟩ | ⟨hline, hlow, hhigh⟩
    · simp at hline
    · obtain rfl : line = 1 := hline
      obtain rfl : column = 1 := Int.le_antisymm hhigh hlow
      exact ⟨0, Nat.le_refl _, nil.locate_length⟩
  | @char cs last lines c hc h ih =>
    have before : Location.IsOn (lines ++ [last]) ⟨line, column⟩ →
        ∃ n ≤ (cs ++ [c]).length, locate (cs ++ [c]) n = ⟨line, column⟩ := by
      intro hbefore
      obtain ⟨n, hn, hloc⟩ := ih hbefore
      exact ⟨n, by simp; omega, (locate_append hn [c]).trans hloc⟩
    rcases Location.isOn_concat.mp hl with hbefore | ⟨hline, hlow, hhigh⟩
    · exact before (Location.isOn_concat.mpr (.inl hbefore))
    by_cases hcolumn : column ≤ last.length + 1
    · exact before (Location.isOn_concat.mpr (.inr ⟨hline, hlow, hcolumn⟩))
    · obtain rfl : line = lines.length + 1 := hline
      obtain rfl : column = (last ++ [c]).length + 1 := by
        rw [List.length_append, List.length_singleton] at hhigh ⊢
        dsimp only at hhigh
        omega
      exact ⟨_, Nat.le_refl _, (char hc h).locate_length⟩
  | @feed cs last lines h ih =>
    rcases Location.isOn_concat.mp hl with hbefore | ⟨hline, hlow, hhigh⟩
    · obtain ⟨n, hn, hloc⟩ := ih hbefore
      exact ⟨n, by simp; omega, (locate_append hn ['\n']).trans hloc⟩
    · obtain rfl : line = (lines ++ [last]).length + 1 := hline
      obtain rfl : column = 1 := Int.le_antisymm hhigh hlow
      exact ⟨_, Nat.le_refl _, h.feed.locate_length⟩

end BrokenInto

/-! ### Locations and offsets -/

section
variable {text : List Char} {m n : Nat}

/-- The location of an offset is a place of the text, with that offset. -/
theorem locate_place (h : n ≤ text.length) :
    (locate text n).IsOn (feedLines text) ∧ (locate text n).offset (feedLines text) = n := by
  obtain ⟨lines, last, hb⟩ := exists_brokenInto (text.take n)
  have hlength : (text.take n).length = n := List.length_take_of_le h
  have htext : text.take n ++ text.drop n = text := List.take_append_drop n text
  obtain ⟨first, more, hfirst⟩ := feedLines_append_of_notMem hb.feed_notMem (text.drop n)
  have hlines : feedLines text = lines ++ (last ++ first) :: more := by
    rw [← htext, hb.feedLines_append, hfirst]
  have hlocate : locate text n = ⟨lines.length + 1, last.length + 1⟩ := by
    have hfront := locate_append (Nat.le_of_eq hlength.symm) (text.drop n)
    rw [htext] at hfront
    have hend := hb.locate_length
    rw [hlength] at hend
    exact hfront.trans hend
  have hn := hb.length_eq
  have hlow : (1 : Int) ≤ last.length + 1 := by omega
  have hhigh : (last.length : Int) + 1 ≤ (last ++ first).length + 1 := by
    rw [List.length_append]
    omega
  rw [hlocate, hlines]
  refine ⟨⟨by simp, last ++ first, by simp, hlow, hhigh⟩, ?_⟩
  rw [Location.offset, Nat.add_sub_cancel, List.take_left]
  dsimp only
  omega

/-- A greater offset is on the same line or on a later one. -/
theorem locate_line_le (h : m ≤ n) : (locate text m).line ≤ (locate text n).line := by
  rw [locate_line, locate_line]
  exact Nat.succ_le_succ ((List.take_prefix_take_left h).sublist.count_le _)

/-- On the same line the greater offset has the greater column, since the lines in front are the
same. -/
theorem locate_before (h : m < n) (hn : n ≤ text.length) :
    (locate text m).Before (locate text n) := by
  have hm := (locate_place (Nat.le_trans (Nat.le_of_lt h) hn)).2
  have hn := (locate_place hn).2
  have hline : (locate text m).line ≤ (locate text n).line := locate_line_le (Nat.le_of_lt h)
  rcases Nat.lt_or_eq_of_le hline with hlt | heq
  · exact .inl hlt
  · refine .inr ⟨heq, ?_⟩
    rw [Location.offset, heq] at hm
    rw [Location.offset] at hn
    omega

theorem BrokenInto.feedLines_eq {last : List Char} {lines : List (List Char)}
    (h : BrokenInto text lines last) : feedLines text = lines ++ [last] := by
  have hlast : feedLines last = [last] :=
    List.splitOnP_eq_singleton (beq_feed_of_notMem h.feed_notMem)
  have hlines := h.feedLines_append []
  rwa [List.append_nil, List.append_nil, hlast] at hlines

end

/-- **Locations.**  A diagnostic that starts at an offset of a text has as its location the place of
the text that has this offset.  The location comes later in reading order where the diagnostic
starts later, so diagnostics with the same location start at the same offset; and each place of the
text is the location of the diagnostics that start at some offset. -/
theorem location_invertible (text : List Char) :
    (∀ d : Diagnostic, 0 ≤ d.span.start → d.span.start ≤ text.length →
      (d.location text).IsOn (feedLines text) ∧
        (d.location text).offset (feedLines text) = d.span.start) ∧
    (∀ d e : Diagnostic, 0 ≤ d.span.start → d.span.start < e.span.start →
      e.span.start ≤ text.length → (d.location text).Before (e.location text)) ∧
    (∀ d e : Diagnostic, 0 ≤ d.span.start → d.span.start ≤ text.length →
      0 ≤ e.span.start → e.span.start ≤ text.length →
      d.location text = e.location text → d.span.start = e.span.start) ∧
    ∀ l : Location, l.IsOn (feedLines text) →
      ∃ n ≤ text.length, ∀ d : Diagnostic, d.span.start = n → d.location text = l := by
  have place : ∀ d : Diagnostic, 0 ≤ d.span.start → d.span.start ≤ text.length →
      (d.location text).IsOn (feedLines text) ∧
        (d.location text).offset (feedLines text) = d.span.start := by
    intro d hlow hhigh
    obtain ⟨n, hn⟩ := Int.eq_ofNat_of_zero_le hlow
    rw [Diagnostic.location, hn]
    exact locate_place (by omega)
  refine ⟨place, fun d e hlow hlt hhigh => ?_, fun d e hd hd' he he' hsame => ?_, fun l hl => ?_⟩
  · obtain ⟨m, hm⟩ := Int.eq_ofNat_of_zero_le hlow
    obtain ⟨n, hn⟩ := Int.eq_ofNat_of_zero_le (Int.le_trans hlow (Int.le_of_lt hlt))
    rw [Diagnostic.location, Diagnostic.location, hm, hn]
    exact locate_before (by omega) (by omega)
  · rw [← (place d hd hd').2, ← (place e he he').2, hsame]
  · obtain ⟨lines, last, hb⟩ := exists_brokenInto text
    obtain ⟨n, hn, hlocate⟩ := hb.exists_locate (hb.feedLines_eq ▸ hl)
    exact ⟨n, hn, fun d hd => by rw [Diagnostic.location, hd, hlocate]⟩

/-- The second of two line feeds is on an empty line, before the end of the text. -/
theorem location_invertible_feed :
    feedLines "a\n\nb".toList = [['a'], [], ['b']] ∧
      Diagnostic.location ⟨"", ⟨2, 3⟩, none⟩ "a\n\nb".toList = ⟨2, 1⟩ ∧
      (⟨2, 1⟩ : Location).IsOn [['a'], [], ['b']] ∧
      (⟨2, 1⟩ : Location).offset [['a'], [], ['b']] = 2 ∧
      (⟨2, 1⟩ : Location).Before (Diagnostic.location ⟨"", ⟨4, 4⟩, none⟩ "a\n\nb".toList) ∧
      ∃ n ≤ "a\n\nb".toList.length, ∀ d : Diagnostic, d.span.start = n →
        d.location "a\n\nb".toList = ⟨2, 1⟩ := by
  have hlines : feedLines "a\n\nb".toList = [['a'], [], ['b']] := by decide
  have hlocation : Diagnostic.location ⟨"", ⟨2, 3⟩, none⟩ "a\n\nb".toList = ⟨2, 1⟩ := by decide
  obtain ⟨hplace, hbefore, -, hoffset⟩ := location_invertible "a\n\nb".toList
  rw [← hlines, ← hlocation]
  obtain ⟨hon, hn⟩ := hplace ⟨"", ⟨2, 3⟩, none⟩ (by decide) (by decide)
  exact ⟨rfl, rfl, hon, hn, hbefore _ ⟨"", ⟨4, 4⟩, none⟩ (by decide) (by decide) (by decide),
    hoffset _ hon⟩

end SeedHeader
