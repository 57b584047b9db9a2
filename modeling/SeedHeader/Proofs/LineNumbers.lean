import SeedHeader.File
import SeedHeader.Proofs.UniformNewlines
import SeedHeader.Proofs.Recovery
import SeedHeader.Proofs.Operations

/-!
# Proofs — Line numbers

There are two ways to count the lines of a text.  The location of a diagnostic counts the line
feeds before it; reading goes from newline to newline, and a newline may be a line feed, a carriage
return, or both.  Line feeds and carriage returns are in newlines only, whatever strings and
comments the text has, so the two counts differ by the carriage returns that are newlines by
themselves (`count_feed`).

**Line numbers** (`line_numbers_agree_iff`).  The two counts agree at every token exactly if every
carriage return of the text stands in front of a line feed.  Then the line numbers of the
diagnostics increase, since there is a newline between each and the next.  The text of a file has
no carriage return at all (`carriage_notMem_unifyNewlines`).

The newline that decides is the last: at the end of the input all newlines of the text are counted.
-/

namespace SeedHeader

open Text Lexeme

/-! ### Carriage returns -/

/-- Every carriage return stands in front of a line feed. -/
def ReturnsPaired (text : List Char) : Prop :=
  ∀ a b, text = a ++ '\r' :: b → b.head? = some '\n'

/-- A newline that is a carriage return without a line feed. -/
def Lexeme.loneReturn : Lexeme := ⟨.newline, ['\r']⟩

/-- The last lexeme of a text that ends with a carriage return is that carriage return. -/
theorem loneReturn_mem_lexemes (a : List Char) : loneReturn ∈ lexemes (a ++ ['\r']) := by
  obtain ⟨ls, hls⟩ : ∃ ls, lexemes (a ++ ['\r']) = ls := ⟨_, rfl⟩
  have hchars : charsOf ls = a ++ ['\r'] := hls ▸ charsOf_lexemes _
  rw [hls]
  rcases ls.eq_nil_or_concat' with rfl | ⟨w, l, rfl⟩
  · simp at hchars
  have hmem : l ∈ lexemes (a ++ ['\r']) := by rw [hls]; simp
  have hl : l.Shaped := shaped_of_mem hmem
  have hlast : l.text.getLast? = some '\r' := by
    have h := congrArg List.getLast? hchars
    rwa [charsOf_append, charsOf_cons, charsOf_nil, List.append_nil,
      List.getLast?_append_of_ne_nil _ hl.text_ne_nil, List.getLast?_concat] at h
  have htype : l.type = .newline := by
    by_contra hne
    cases hl.not_lineEnd hne '\r' (List.mem_of_getLast? hlast)
  obtain ⟨t, cs⟩ := l
  obtain rfl : t = .newline := htype
  rcases hl.newline_text with rfl | rfl | rfl
  · simp at hlast
  · simp [loneReturn]
  · simp at hlast

/-- The carriage returns are paired if none of them is a newline by itself. -/
theorem returnsPaired_iff {text : List Char} : ReturnsPaired text ↔ loneReturn ∉ lexemes text := by
  constructor
  · intro h hmem
    obtain ⟨w, v, hl⟩ := List.append_of_mem hmem
    have hlexed : Lexed (w ++ loneReturn :: v) := hl ▸ lexed_lexemes text
    have htext : text = charsOf w ++ '\r' :: charsOf v := by
      rw [← charsOf_lexemes text, hl, charsOf_append]
      rfl
    exact hlexed.right.head?_ne rfl (h _ _ htext)
  · intro h a b htext
    by_contra hb
    -- the text is cut behind a carriage return that no line feed follows
    have hcut : LineBoundary (a ++ ['\r']) b := .inr (.inr ⟨List.getLast?_concat, hb⟩)
    have hlexemes : lexemes text = lexemes (a ++ ['\r']) ++ lexemes b := by
      rw [← lexemes_append hcut, htext, List.append_assoc]
      rfl
    exact h (hlexemes ▸ List.mem_append_left _ (loneReturn_mem_lexemes a))

theorem carriage_notMem_unifyNewlines (cs : List Char) : '\r' ∉ unifyNewlines cs := by
  fun_induction unifyNewlines cs with
  | case1 => simp
  | case2 cs ih => simp [ih]
  | case3 cs h ih => simp [ih]
  | case4 c cs _ h ih => exact List.not_mem_cons_of_ne_of_not_mem (fun e => h e.symm) ih

/-! ### Two ways to count lines -/

/-- The number of newlines that end at offset `n` or before. -/
def newlinesUpTo (text : List Char) (n : Nat) : Nat :=
  (tokenize text).countP fun t => t.type = .newline ∧ t.span.stop ≤ n

/-- A line feed stands in a newline, and each newline has one unless it is a lone carriage
return. -/
theorem Lexeme.Shaped.count_feed {l : Lexeme} (h : l.Shaped) :
    l.text.count '\n' + [l].count loneReturn = [l].countP (·.type = .newline) := by
  obtain ⟨t, cs⟩ := l
  by_cases ht : t = .newline
  · subst ht
    rcases h.newline_text with rfl | rfl | rfl <;> decide
  · have hfeed : '\n' ∉ cs := fun hmem => by cases h.not_lineEnd ht '\n' hmem
    have hne : (⟨t, cs⟩ : Lexeme) ≠ loneReturn := fun e => ht (congrArg Lexeme.type e)
    simp [List.count_eq_zero_of_not_mem hfeed, hne, ht]

/-- The line feeds and the lone carriage returns among lexemes are as many as the newlines. -/
theorem count_feed {ls : List Lexeme} (h : ∀ l ∈ ls, l.Shaped) :
    (charsOf ls).count '\n' + ls.count loneReturn = ls.countP (·.type = .newline) := by
  induction ls with
  | nil => rfl
  | cons l ls ih =>
    have hl := (h l (by simp)).count_feed
    have hls := ih fun m hm => h m (by simp [hm])
    rw [← List.singleton_append, List.count_append, List.countP_append, charsOf_append,
      List.count_append, charsOf_cons, charsOf_nil, List.append_nil]
    omega

/-- What stands before an offset is the front of the text. -/
theorem locate_eq (text : List Char) (n : Nat) :
    locate text n = ⟨(text.take n).count '\n' + 1, n - lineStart (text.take n) + 1⟩ := by
  have hzero : clamp text.length 0 = 0 := rfl
  have hclamp : clamp text.length n = min n text.length := if_neg (by omega)
  rw [locate, slice, hzero, hclamp, List.drop_zero, ← List.take_eq_take_min]

theorem locate_line (text : List Char) (n : Nat) :
    (locate text n).line = (text.take n).count '\n' + 1 :=
  congrArg Location.line (locate_eq text n)

namespace Cursor

variable {text : List Char} {w : List Lexeme} {c : Cursor}

/-- The newlines that end before a cursor are those that it has passed. -/
theorem Passes.newlinesUpTo_eq (h : (ofText text).Passes w c) :
    newlinesUpTo text c.pos = w.countP (·.type = .newline) := by
  have hpassed : (place 0 w).countP (fun t => t.type = .newline ∧ t.span.stop ≤ c.pos) =
      w.countP (·.type = .newline) := by
    rw [← countP_type_place (· = .newline) 0 w]
    refine List.countP_congr fun t ht => ?_
    have hstop := (mem_place_bounds ht).2.2
    rw [Nat.zero_add, ← h.pos_eq] at hstop
    simp only [hstop, and_true]
  have hahead : c.tokens.countP (fun t => t.type = .newline ∧ t.span.stop ≤ c.pos) = 0 := by
    refine List.countP_eq_zero.mpr fun t ht hn => ?_
    obtain ⟨hn, hstop⟩ : t.type = .newline ∧ t.span.stop ≤ c.pos := by simpa using hn
    have hmem : t ∈ tokenize text := h.tokenize_eq ▸ List.mem_append_right _ ht
    have hlt := (mem_tokenize_bounds hmem).2.2 (by rw [hn]; decide)
    have hle := pos_le_of_mem_tokens ht
    omega
  rw [newlinesUpTo, h.tokenize_eq, List.countP_append, hpassed, hahead, Nat.add_zero]

/-- The line of a cursor falls behind the newlines by the lone carriage returns it has passed. -/
theorem Passes.line_add (h : (ofText text).Passes w c) :
    (locate text c.pos).line + w.count loneReturn = 1 + newlinesUpTo text c.pos := by
  have hcount := count_feed fun l hl => shaped_of_mem (h.mem_lexemes hl)
  rw [locate_line, h.newlinesUpTo_eq, h.take_eq]
  omega

/-- Where the carriage returns are paired, the two counts agree. -/
theorem Passes.line_eq (h : (ofText text).Passes w c) (hp : ReturnsPaired text) :
    (locate text c.pos).line = 1 + newlinesUpTo text c.pos := by
  have hw : loneReturn ∉ w := fun hmem => returnsPaired_iff.mp hp (h.mem_lexemes hmem)
  rw [← h.line_add, List.count_eq_zero_of_not_mem hw, Nat.add_zero]

end Cursor

open Cursor

/-- A newline between two offsets is counted at the second and not at the first. -/
theorem newlinesUpTo_lt {text : List Char} {f g : Fault}
    (h : Reading.Apart (tokenize text) f g) :
    newlinesUpTo text f.span.start < newlinesUpTo text g.span.start := by
  obtain ⟨t, ht, hn, hstart, hstop⟩ := h
  have hlt := (mem_tokenize_bounds ht).2.2 (by rw [hn]; decide)
  obtain ⟨ts, us, hts⟩ := List.append_of_mem ht
  have hmono : ∀ vs : List Token,
      vs.countP (fun t => t.type = .newline ∧ t.span.stop ≤ f.span.start) ≤
        vs.countP (fun t => t.type = .newline ∧ t.span.stop ≤ g.span.start) := fun vs =>
    List.countP_mono_left fun u _ hu => by
      simp only [decide_eq_true_eq] at hu ⊢
      exact ⟨hu.1, by omega⟩
  have hts' := hmono ts
  have hus' := hmono us
  rw [newlinesUpTo, newlinesUpTo, hts, List.countP_append, List.countP_append,
    List.countP_cons_of_neg (by simp; omega), List.countP_cons_of_pos (by simp [hn, hstop])]
  omega

/-- The line numbers of the faults increase. -/
theorem Reading.lines_increase {text : List Char} (hp : ReturnsPaired text) :
    (Reading.ofText text).faults.Pairwise fun f g =>
      (locate text f.span.start).line < (locate text g.span.start).line := by
  have hline : ∀ f ∈ (Reading.ofText text).faults,
      (locate text f.span.start).line = 1 + newlinesUpTo text f.span.start := by
    intro f hf
    obtain ⟨w, c, hw, hspan⟩ := faults_ahead false (.ofText text) f hf
    rw [hspan]
    exact hw.line_eq hp
  have hchain := faults_apart false (.ofText text)
  rw [tokens_ofText] at hchain
  have hlt : (Reading.ofText text).faults.Pairwise fun f g =>
      newlinesUpTo text f.span.start < newlinesUpTo text g.span.start := by
    have : IsTrans Fault fun f g =>
        newlinesUpTo text f.span.start < newlinesUpTo text g.span.start :=
      ⟨fun _ _ _ => Nat.lt_trans⟩
    exact List.isChain_iff_pairwise.mp (hchain.imp fun _ _ => newlinesUpTo_lt)
  refine hlt.imp_of_mem fun hf hg h => ?_
  rw [hline _ hf, hline _ hg]
  omega

/-- **Line numbers.**  At every token the line that a diagnostic reports is one more than the
number of newlines in front of the token, exactly if every carriage return of the text stands in
front of a line feed.  If so, the line numbers of the diagnostics increase from each to the next;
and it is so in the text of every file. -/
theorem line_numbers_agree_iff (text : List Char) :
    ((∀ t ∈ tokenize text, ∀ d : Diagnostic, d.span.start = t.toInt.span.start →
        (d.location text).line = 1 + newlinesUpTo text t.span.start) ↔ ReturnsPaired text) ∧
    (ReturnsPaired text →
      ((Reading.ofText text).diagnostics.map fun d => (d.location text).line).Pairwise (· < ·)) ∧
    ∀ name bytes, openFile name bytes = .ok text → ReturnsPaired text := by
  refine ⟨⟨fun h => ?_, fun hp t ht d hd => ?_⟩, fun hp => ?_, fun name bytes h => ?_⟩
  · -- at the end of the input all newlines have been passed
    have heof : Token.eof text.length ∈ tokenize text := by simp [tokenize]
    have hend : (ofText text).Passes (lexemes text) ⟨text.length, []⟩ :=
      ⟨by simp [ofText], by simp [ofText, charsOf_lexemes]⟩
    have hline := h _ heof ⟨"", ⟨text.length, text.length⟩, none⟩ rfl
    have hadd : (locate text text.length).line + (lexemes text).count loneReturn =
        1 + newlinesUpTo text text.length := hend.line_add
    have hzero : (lexemes text).count loneReturn = 0 := Nat.add_left_cancel (hadd.trans hline.symm)
    exact returnsPaired_iff.mpr (List.count_eq_zero.mp hzero)
  · obtain ⟨w, c, hw, rfl⟩ := exists_passes_of_mem ht
    rw [Diagnostic.location, hd]
    exact hw.line_eq hp
  · rw [Reading.diagnostics, List.map_map, List.pairwise_map]
    exact Reading.lines_increase hp
  · intro a b htext
    cases bytes with
    | none => cases h
    | some bytes =>
      have hmem : '\r' ∈ fileText bytes := by
        rw [Except.ok.inj h, htext]
        simp
      exact absurd hmem (carriage_notMem_unifyNewlines _)

/-- In a file with a carriage return behind its first faulty line, the second one is on line two. -/
theorem line_numbers_agree_iff_file :
    openFile "a" (some [0x3D, 0x0D, 0x2F]) = .ok "=\n/".toList ∧ ReturnsPaired "=\n/".toList ∧
      ((Reading.ofText "=\n/".toList).diagnostics.map fun d =>
        (d.location "=\n/".toList).line).Pairwise (· < ·) ∧
      ∀ d : Diagnostic, d.span.start = 2 →
        (d.location "=\n/".toList).line = 1 + newlinesUpTo "=\n/".toList 2 := by
  obtain ⟨hiff, hincrease, hfile⟩ := line_numbers_agree_iff "=\n/".toList
  have hopen : openFile "a" (some [0x3D, 0x0D, 0x2F]) = .ok "=\n/".toList := by decide +kernel
  have hpaired : ReturnsPaired "=\n/".toList := hfile _ _ hopen
  have hslash : (⟨.unknown, ⟨2, 3⟩, true, none⟩ : Token) ∈ tokenize "=\n/".toList := by decide
  exact ⟨hopen, hpaired, hincrease hpaired, fun d hd => hiff.mpr hpaired _ hslash d hd⟩

end SeedHeader
