import Mathlib.Tactic.Tauto
import SeedHeader.Proofs.LexicalGrammar
import SeedHeader.Proofs.Recognition
import SeedHeader.Proofs.Statements
import SeedHeader.Proofs.Composition

/-!
# Proofs — Which headers are accepted

A header is accepted, that is, read without a fault, exactly if each of its lines is blank, a
comment, or a statement with nothing but whitespace and comments behind it (`parse_ok_iff`).

One line is a matter of one round of reading (`ofStatement_faults`); reading goes line by line
(`Proofs/Lines.lean`), so the lines of a text are judged one after the other.
-/

namespace SeedHeader

/-- The lines of a text, each as the list of its lexemes: what stands between newlines. -/
def linesOf (text : List Char) : List (List Lexeme) :=
  (lexemes text).splitOnP fun l => l.type = .newline

/-- A line that is accepted: after optional whitespace it is empty, a comment, or a statement and
whitespace and comments behind it. -/
def IsLine (line : List Lexeme) : Prop :=
  ∃ indent body, line = indent ++ body ∧ IsOptional .whitespace indent ∧
    (body = [] ∨ (∃ cs, body = [⟨.comment, cs⟩]) ∨
      ∃ w tail, body = w ++ tail ∧ IsStatement w tail ∧ ∀ l ∈ tail, isTrailing l.type)

/-! ### One statement -/

theorem Lexed.inked {ls : List Lexeme} (h : Lexed ls) : Inked ls :=
  fun _ hl => (h.shaped hl).type_ne_eof

theorem endsLine_iff {c : Cursor} (h : Inked c.ahead) :
    EndsLine c.ahead ↔ c.type = .eof ∨ c.type = .newline := by
  rw [h.type_eq_eof_iff, Cursor.type_eq]
  cases c.ahead <;> simp [EndsLine]

/-- A statement opens with a token that does not stand between statements. -/
theorem IsStatement.opens {w rest : List Lexeme} (h : IsStatement w rest) :
    ∃ l ls, w = l :: ls ∧ isBetween l.type = false := by
  cases h with
  | pickup hm hu =>
    obtain ⟨hg, hi⟩ := hu
    rcases hm with rfl | ⟨cs, rfl⟩
    · exact ⟨_, _, rfl, rfl⟩
    · exact ⟨_, _, rfl, rfl⟩
  | timer | annotated | command => exact ⟨_, _, rfl, rfl⟩

namespace Reading

open Rule Grammar

variable {skip : Bool} {c : Cursor}

/-- The line of a statement that is read without a fault ends behind whitespace and comments. -/
theorem ofStatement_ok_iff (hc : Lexed c.ahead) :
    (ofStatement skip c).1.faults = [] ↔
      ∃ content c₁, statement skip c = .ok content c₁ ∧
        EndsLine (c₁.skipWhile isTrailing).ahead := by
  cases hs : statement skip c with
  | error fault c₁ =>
    have he : (ofStatement skip c).1.faults = [fault] := by
      unfold ofStatement
      rw [hs]
    simp [he]
  | ok content c₁ =>
    obtain ⟨w, hw, -⟩ := (statement_steady skip).ok hs
    have hskip := Cursor.passes_skipWhile isTrailing c₁
    have hends := endsLine_iff (hskip.lexed (hw.lexed hc)).inked
    rw [ofStatement_of_ok hs]
    constructor
    · intro h
      refine ⟨content, c₁, rfl, hends.mpr ?_⟩
      split at h
      · next he => exact .inl he
      split at h
      · next hn => exact .inr hn
      · cases h
    · rintro ⟨content', c₂, e, h⟩
      cases e
      rcases hends.mp h with he | hn
      · rw [if_pos he]
      · rw [if_neg (by rw [hn]; decide), if_pos hn]

/-- A statement is read without a fault exactly if it is one, and only whitespace and comments
stand between it and the end of its line. -/
theorem ofStatement_faults (hc : Lexed c.ahead) :
    (ofStatement skip c).1.faults = [] ↔
      ∃ w tail rest, c.ahead = w ++ (tail ++ rest) ∧ IsStatement w (tail ++ rest) ∧
        (∀ l ∈ w, l.type ≠ .newline) ∧ (∀ l ∈ tail, isTrailing l.type) ∧ EndsLine rest := by
  rw [ofStatement_ok_iff hc]
  constructor
  · rintro ⟨content, c₁, hs, hends⟩
    obtain ⟨w, hw, hp⟩ := (statement_reads skip).ok hc hs
    obtain ⟨w', hw', htext⟩ := (statement_steady skip).ok hs
    obtain rfl : w' = w := List.append_cancel_right (hw'.ahead.symm.trans hw.ahead)
    have hskip := (Cursor.passes_skipWhile isTrailing c₁).ahead
    refine ⟨w', _, _, hskip ▸ hw.ahead, (isStatement_iff skip).mpr ⟨_, hskip ▸ hp⟩, ?_, ?_, hends⟩
    · intro l hl e
      have := htext l hl
      rw [e] at this
      cases this
    · exact List.all_eq_true.mp List.all_takeWhile
  · rintro ⟨w, tail, rest, hw, hs, -, htail, hrest⟩
    obtain ⟨content, hp⟩ := (isStatement_iff skip).mp hs
    obtain ⟨a, c₁, ha, -, -, hc₁⟩ := (statement_reads skip).of_phrase hc hw hp
    refine ⟨a, c₁, ha, ?_⟩
    have hstop : ∀ l ∈ rest.head?, isTrailing l.type = false := by
      intro l hl
      rw [hrest l hl]
      rfl
    have hskip : (c₁.skipWhile isTrailing).ahead = rest := by
      rw [Cursor.skipWhile, hc₁]
      exact dropWhile_append_of_head htail hstop
    rwa [hskip]

/-- Without a fault reading goes on behind the newline. -/
theorem ofStatement_next (hf : (ofStatement skip c).1.faults = []) {c' : Cursor}
    (hn : (ofStatement skip c).2 = some c') : ∃ w l, c.Passes (w ++ [l]) c' ∧ l.type = .newline := by
  cases hs : statement skip c with
  | error fault c₁ =>
    unfold ofStatement at hf
    rw [hs] at hf
    cases hf
  | ok content c₁ =>
    obtain ⟨w, hw, -⟩ := (statement_steady skip).ok hs
    have hskip := Cursor.passes_skipWhile isTrailing c₁
    rw [ofStatement_of_ok hs] at hf hn
    by_cases he : (c₁.skipWhile isTrailing).type = .eof
    · rw [if_pos he] at hn
      cases hn
    by_cases hl : (c₁.skipWhile isTrailing).type = .newline
    · rw [if_neg he, if_pos hl] at hn
      cases hn
      exact ⟨_, _, (hw.trans hskip).trans (Cursor.passes_next he), hl⟩
    · rw [if_neg he, if_neg hl] at hf
      cases hf

end Reading

/-! ### One line -/

/-- Of two tokens that may follow a statement the first is whitespace and the second a comment. -/
theorem trailing_pair {m m' : Lexeme} {ls : List Lexeme} (h : Lexed (m :: m' :: ls))
    (hm : isTrailing m.type) (hm' : isTrailing m'.type) :
    m.type = .whitespace ∧ m'.type = .comment := by
  simp only [isTrailing, Bool.or_eq_true, decide_eq_true_eq] at hm hm'
  rcases hm with hm | hm
  · exact ⟨hm, hm'.resolve_left (h.not_whitespace hm)⟩
  · rw [h.newline_of_comment hm] at hm'
    simp at hm'

/-- A comment goes on up to the newline. -/
theorem trailing_before {m l : Lexeme} {ls : List Lexeme} (h : Lexed (m :: l :: ls))
    (hm : isTrailing m.type) (hl : l.type ≠ .newline) : m.type = .whitespace := by
  simp only [isTrailing, Bool.or_eq_true, decide_eq_true_eq] at hm
  rcases hm with hm | hm
  · exact hm
  · exact absurd (h.newline_of_comment hm) hl

/-- In front of a token other than a newline there is whitespace at most. -/
theorem isOptional_of_trailing {w ls : List Lexeme} {l : Lexeme} (h : Lexed (w ++ l :: ls))
    (hw : ∀ m ∈ w, isTrailing m.type) (hl : l.type ≠ .newline) : IsOptional .whitespace w := by
  match w with
  | [] => exact .inl rfl
  | [⟨t, cs⟩] =>
    obtain rfl : t = .whitespace := trailing_before h (hw _ List.mem_cons_self) hl
    exact .inr ⟨cs, rfl⟩
  | [m, m'] =>
    have hc := (trailing_pair h (hw m (by simp)) (hw m' (by simp))).2
    have hb := trailing_before h.tail (hw m' (by simp)) hl
    rw [hc] at hb
    cases hb
  | m :: m' :: m'' :: w' =>
    have hc := (trailing_pair h (hw m (by simp)) (hw m' (by simp))).2
    have hb := (trailing_pair h.tail (hw m' (by simp)) (hw m'' (by simp))).1
    rw [hc] at hb
    cases hb

/-- A line of whitespace and comments is accepted. -/
theorem isLine_of_trailing {line rest : List Lexeme} (h : Lexed (line ++ rest))
    (hl : ∀ l ∈ line, isTrailing l.type) : IsLine line := by
  match line with
  | [] => exact ⟨[], [], rfl, .inl rfl, .inl rfl⟩
  | [⟨t, cs⟩] =>
    have ht : isTrailing t := hl _ List.mem_cons_self
    simp only [isTrailing, Bool.or_eq_true, decide_eq_true_eq] at ht
    rcases ht with rfl | rfl
    · exact ⟨[_], [], rfl, .inr ⟨cs, rfl⟩, .inl rfl⟩
    · exact ⟨[], [_], rfl, .inl rfl, .inr (.inl ⟨cs, rfl⟩)⟩
  | [⟨t, cs⟩, ⟨t', cs'⟩] =>
    obtain ⟨rfl, rfl⟩ : t = .whitespace ∧ t' = .comment :=
      trailing_pair h (hl _ (by simp)) (hl _ (by simp))
    exact ⟨[_], [_], rfl, .inr ⟨cs, rfl⟩, .inr (.inl ⟨cs', rfl⟩)⟩
  | m :: m' :: m'' :: _ =>
    have hc := (trailing_pair h (hl m (by simp)) (hl m' (by simp))).2
    have hb := (trailing_pair h.tail (hl m' (by simp)) (hl m'' (by simp))).1
    rw [hc] at hb
    cases hb

theorem interlude_ahead (skip : Bool) (pos : Nat) (ls : List Lexeme) :
    (interlude skip pos ls).2.2.ahead = ls.dropWhile fun l => isBetween l.type := by
  induction ls generalizing skip pos with
  | nil => rfl
  | cons l ls ih =>
    by_cases hl : isBetween l.type
    · rw [interlude_of_between _ _ hl, List.dropWhile_cons, if_pos hl]
      exact ih _ _
    · rw [interlude_of_not_between _ _ hl, List.dropWhile_cons, if_neg hl]

/-- Both decompositions of a list at its first newline are the same. -/
theorem split_at_newline {xs ys rest rest' : List Lexeme} (hx : ∀ l ∈ xs, l.type ≠ .newline)
    (hy : ∀ l ∈ ys, l.type ≠ .newline) (hr : EndsLine rest) (hr' : EndsLine rest')
    (h : xs ++ rest = ys ++ rest') : xs = ys ∧ rest = rest' := by
  have htake : ∀ {zs ts : List Lexeme}, (∀ l ∈ zs, l.type ≠ .newline) → EndsLine ts →
      ((zs ++ ts).takeWhile fun l => decide (l.type ≠ .newline)) = zs := by
    intro zs ts hz ht
    refine takeWhile_append_of_head (by simpa using hz) fun l hl => ?_
    simp [ht l hl]
  obtain rfl : xs = ys := by rw [← htake hx hr, h, htake hy hr']
  exact ⟨rfl, List.append_cancel_left h⟩

/-- The first line of a list of lexemes, and what follows it. -/
theorem exists_first_line (ls : List Lexeme) :
    ∃ line rest, ls = line ++ rest ∧ (∀ l ∈ line, l.type ≠ .newline) ∧ EndsLine rest := by
  refine ⟨_, _, (List.takeWhile_append_dropWhile (p := fun l => l.type ≠ .newline)).symm, ?_, ?_⟩
  · intro l hl
    simpa using List.all_eq_true.mp List.all_takeWhile l hl
  · intro l hl
    simpa using stop_dropWhile (fun l : Lexeme => decide (l.type ≠ .newline)) ls l hl

/-- Induction on lines: what holds of one line, and of a line and its newline in front of lexemes
that it holds of, holds of all lexemes. -/
theorem lines_induction {motive : List Lexeme → Prop}
    (last : ∀ line, (∀ l ∈ line, l.type ≠ .newline) → motive line)
    (next : ∀ line l more, (∀ m ∈ line, m.type ≠ .newline) → l.type = .newline → motive more →
      motive (line ++ l :: more)) (ls : List Lexeme) : motive ls := by
  induction hn : ls.length using Nat.strongRecOn generalizing ls with
  | ind n ih =>
  obtain ⟨line, rest, rfl, hline, hrest⟩ := exists_first_line ls
  cases rest with
  | nil => exact (List.append_nil line).symm ▸ last line hline
  | cons l more => exact next line l more hline (hrest l rfl) (ih _ (by simp at hn; omega) more rfl)

namespace Reading

/-- Behind a statement that is alone on its line, nothing is left to be read. -/
theorem ofStatement_next_nil {skip : Bool} {c c' : Cursor} {body rest : List Lexeme}
    (hc : c.ahead = body ++ rest) (hbody : ∀ l ∈ body, l.type ≠ .newline) (hlen : rest.length ≤ 1)
    (hf : (ofStatement skip c).1.faults = []) (hn : (ofStatement skip c).2 = some c') :
    c'.ahead = [] := by
  obtain ⟨w, l, hw, hl⟩ := ofStatement_next hf hn
  rcases List.append_eq_append_iff.mp (hc.symm.trans hw.ahead) with ⟨v, hv, hr⟩ | ⟨v, hv, -⟩
  · rcases List.eq_nil_or_concat v with rfl | ⟨v, m, rfl⟩
    · exact absurd hl (hbody l (by rw [List.append_nil] at hv; simp [← hv]))
    · rw [hr] at hlen
      simp only [List.length_append, List.concat_eq_append, List.length_singleton] at hlen
      exact List.length_eq_zero_iff.mp (by omega)
  · exact absurd hl (hbody l (by simp [hv]))

/-- After a statement that is alone on its line, nothing is left that could be faulty. -/
theorem faults_of_line {skip skip' : Bool} {c c₁ : Cursor}
    {documentation : List (Located Content)}
    (e : interlude skip c.pos c.ahead = (documentation, skip', c₁)) (hne : c₁.type ≠ .eof)
    {body rest : List Lexeme} (hc₁ : c₁.ahead = body ++ rest)
    (hbody : ∀ l ∈ body, l.type ≠ .newline) (hlen : rest.length ≤ 1) :
    (ofCursorFrom skip c).faults = [] ↔ (ofStatement skip' c₁).1.faults = [] := by
  have hr := round_of_ne_eof e hne
  cases hn : (ofStatement skip' c₁).2 with
  | none =>
    rw [hn] at hr
    rw [ofCursorFrom_of_none hr]
    rfl
  | some c₂ =>
    rw [hn] at hr
    rw [ofCursorFrom_of_some hr]
    simp only [append, after, List.append_eq_nil_iff, and_iff_left_iff_imp]
    intro hf
    obtain ⟨pos₂, ahead₂⟩ := c₂
    obtain rfl : ahead₂ = [] := ofStatement_next_nil hc₁ hbody hlen hf hn
    rw [ofCursorFrom_nil]
    rfl

/-- Whitespace, comments and newlines alone have no fault. -/
theorem faults_of_between (skip : Bool) (pos : Nat) {ls : List Lexeme} (h : Lexed ls)
    (hall : ∀ l ∈ ls, isBetween l.type) : (ofCursorFrom skip ⟨pos, ls⟩).faults = [] := by
  obtain ⟨documentation, skip', c₁, v, e, hv⟩ := exists_interlude skip ⟨pos, ls⟩
  have hahead := interlude_ahead skip pos ls
  rw [e] at hahead
  have hnil : c₁.ahead = [] := hahead.trans (List.dropWhile_eq_nil_iff.mpr hall)
  have heof := (hv.lexed h).inked.type_eq_eof_iff.mpr hnil
  rw [ofCursorFrom_of_none (round_of_eof e heof)]

/-- Up to the end of its line, a statement is read without a fault exactly if the line is one, with
whitespace and comments behind it. -/
theorem ofStatement_faults_line {skip : Bool} {c : Cursor} (hc : Lexed c.ahead)
    {body rest : List Lexeme} (hahead : c.ahead = body ++ rest)
    (hbody : ∀ l ∈ body, l.type ≠ .newline) (hrest : EndsLine rest) :
    (ofStatement skip c).1.faults = [] ↔
      ∃ w tail, body = w ++ tail ∧ IsStatement w tail ∧ ∀ l ∈ tail, isTrailing l.type := by
  rw [ofStatement_faults hc, hahead]
  constructor
  · rintro ⟨w, tail, rest', hw, hs, hwn, ht, hrest'⟩
    have htn : ∀ l ∈ w ++ tail, l.type ≠ .newline := by
      intro l hl
      rcases List.mem_append.mp hl with hl | hl
      · exact hwn l hl
      · intro e
        have := ht l hl
        rw [e] at this
        cases this
    obtain ⟨rfl, rfl⟩ := split_at_newline hbody htn hrest hrest' (by simpa using hw)
    exact ⟨w, tail, rfl, hs.lineLocal (hrest.sameAhead tail), ht⟩
  · rintro ⟨w, tail, rfl, hs, ht⟩
    exact ⟨w, tail, rest, List.append_assoc .., hs.lineLocal (hrest.sameAhead tail).symm,
      fun l hl => hbody l (List.mem_append_left _ hl), ht, hrest⟩

end Reading

/-- What stands between statements on one line. -/
theorem isTrailing_of_between {t : TokenType} (h : isBetween t) (hn : t ≠ .newline) :
    isTrailing t := by
  simp only [isBetween, isTrailing, Bool.or_eq_true, decide_eq_true_eq] at h ⊢
  tauto

/-- After its indent a line is accepted if it is a statement with whitespace and comments behind
it, provided that it does not start with these. -/
theorem isLine_iff {indent ls : List Lexeme} {l : Lexeme} (hi : IsOptional .whitespace indent)
    (hl : isBetween l.type = false) :
    IsLine (indent ++ l :: ls) ↔
      ∃ w tail, l :: ls = w ++ tail ∧ IsStatement w tail ∧ ∀ m ∈ tail, isTrailing m.type := by
  have hspace : ∀ {v : List Lexeme}, IsOptional .whitespace v →
      ∀ m ∈ v, decide (m.type = .whitespace) = true := by
    rintro v (rfl | ⟨cs, rfl⟩) <;> simp
  -- so the whitespace in front of such a token is determined
  have htake : ∀ (v : List Lexeme) (m : Lexeme) (ms : List Lexeme), IsOptional .whitespace v →
      isBetween m.type = false →
      ((v ++ m :: ms).takeWhile fun x => decide (x.type = .whitespace)) = v := by
    intro v m ms hv hm
    refine takeWhile_append_of_head (hspace hv) fun x hx => ?_
    obtain rfl : m = x := by simpa using hx
    simp only [isBetween, Bool.or_eq_false_iff, decide_eq_false_iff_not] at hm ⊢
    exact hm.1.2
  constructor
  · rintro ⟨indent', body, hbody, hi', rfl | ⟨cs, rfl⟩ | ⟨w, tail, rfl, hw, ht⟩⟩
    · have hmem : l ∈ indent' := by rw [← List.append_nil indent', ← hbody]; simp
      have := hspace hi' l hmem
      simp [isBetween, decide_eq_true_eq.mp this] at hl
    · have hmem : l ∈ indent' ++ [⟨.comment, cs⟩] := by rw [← hbody]; simp
      rcases List.mem_append.mp hmem with hmem | hmem
      · have := hspace hi' l hmem
        simp [isBetween, decide_eq_true_eq.mp this] at hl
      · rw [List.mem_singleton.mp hmem] at hl
        cases hl
    · obtain ⟨m, ms, rfl, hm⟩ := hw.opens
      obtain rfl : indent = indent' := by
        rw [← htake indent l ls hi hl, hbody]
        exact htake indent' m (ms ++ tail) hi' hm
      exact ⟨m :: ms, tail, List.append_cancel_left hbody, hw, ht⟩
  · rintro ⟨w, tail, hw, hs, ht⟩
    exact ⟨indent, l :: ls, rfl, hi, .inr (.inr ⟨w, tail, hw, hs, ht⟩)⟩

/-- A line that is not blank is its indent and what starts with the first token that counts. -/
theorem exists_indent {line rest : List Lexeme} (h : Lexed (line ++ rest))
    (hline : ∀ l ∈ line, l.type ≠ .newline) (hall : ¬ ∀ l ∈ line, isBetween l.type) :
    ∃ indent l ls, line = indent ++ l :: ls ∧ IsOptional .whitespace indent ∧
      (∀ m ∈ indent, isBetween m.type) ∧ isBetween l.type = false := by
  have hsplit := List.takeWhile_append_dropWhile (p := fun l => isBetween l.type) (l := line)
  have hbetween : ∀ m ∈ line.takeWhile fun l => isBetween l.type, isBetween m.type :=
    List.all_eq_true.mp List.all_takeWhile
  cases hbody : line.dropWhile fun l => isBetween l.type with
  | nil => exact absurd (List.dropWhile_eq_nil_iff.mp hbody) hall
  | cons l ls =>
    have hl : isBetween l.type = false := by
      simpa [hbody] using List.head?_dropWhile_not (fun l : Lexeme => isBetween l.type) line
    rw [hbody] at hsplit
    rw [← hsplit] at h hline
    refine ⟨_, l, ls, hsplit.symm, ?_, hbetween, hl⟩
    refine isOptional_of_trailing (by simpa using h) (fun m hm => ?_) (hline l (by simp))
    exact isTrailing_of_between (hbetween m hm) (hline m (List.mem_append_left _ hm))

/-- A single line is read without a fault exactly if it is an accepted one. -/
theorem line_faults (skip : Bool) (pos : Nat) {line rest : List Lexeme}
    (hline : ∀ l ∈ line, l.type ≠ .newline) (hrest : EndsLine rest) (hlen : rest.length ≤ 1)
    (h : Lexed (line ++ rest)) :
    (Reading.ofCursorFrom skip ⟨pos, line ++ rest⟩).faults = [] ↔ IsLine line := by
  by_cases hall : ∀ l ∈ line, isBetween l.type
  · -- nothing but whitespace and comments, and the newline
    refine iff_of_true (Reading.faults_of_between skip pos h fun l hl => ?_)
      (isLine_of_trailing h fun l hl => isTrailing_of_between (hall l hl) (hline l hl))
    rcases List.mem_append.mp hl with hl | hl
    · exact hall l hl
    · obtain ⟨m, rfl⟩ : ∃ m, rest = [m] :=
        List.length_eq_one_iff.mp (Nat.le_antisymm hlen (List.length_pos_of_mem hl))
      rw [List.mem_singleton.mp hl, hrest m rfl]
      rfl
  · -- the first token that is neither opens a statement, if the line is accepted
    obtain ⟨indent, l, ls, rfl, hindent, hbetween, hl⟩ := exists_indent h hline hall
    obtain ⟨documentation, skip', c₁, v, e, hv⟩ :=
      Reading.exists_interlude skip ⟨pos, indent ++ l :: ls ++ rest⟩
    have hahead : c₁.ahead = l :: ls ++ rest := by
      have hdrop := interlude_ahead skip pos (indent ++ l :: ls ++ rest)
      rw [e, List.append_assoc] at hdrop
      refine hdrop.trans (dropWhile_append_of_head hbetween fun m hm => ?_)
      obtain rfl : l = m := by simpa using hm
      exact hl
    have hne : c₁.type ≠ .eof := by
      rw [Cursor.type_eq, hahead]
      exact (h.shaped (by simp)).type_ne_eof
    have hls : ∀ m ∈ l :: ls, m.type ≠ .newline :=
      fun m hm => hline m (List.mem_append_right _ hm)
    rw [Reading.faults_of_line e hne hahead hls hlen,
      Reading.ofStatement_faults_line (hv.lexed h) hahead hls hrest, isLine_iff hindent hl]

/-! ### All lines -/

/-- Reading a line and the newline that ends it, and then what follows. -/
theorem Reading.ofCursorFrom_line (skip : Bool) (pos : Nat) {line more : List Lexeme} {l : Lexeme}
    (h : Lexed (line ++ l :: more)) (hl : l.type = .newline) :
    ofCursorFrom skip ⟨pos, line ++ l :: more⟩ =
      (ofCursorFrom skip ⟨pos, line ++ [l]⟩).append
        (ofCursorFrom (ofCursorFrom skip ⟨pos, line ++ [l]⟩).skip
          ⟨pos + (charsOf (line ++ [l])).length, more⟩) := by
  have hseal : more = [] ∨ Sealed (line ++ [l]) := .inr fun m hm => by
    obtain rfl : l = m := by simpa using hm
    exact hl
  have hlex : Lexed (line ++ [l]) := (List.append_cons line l more ▸ h).left
  have e := ofCursorFrom_embed (c := ⟨pos, line ++ [l]⟩) 0 skip hlex.inked hseal
  simpa only [Cursor.embed, Nat.zero_add, List.append_assoc, List.singleton_append,
    shift_zero] using e

theorem faults_iff (skip : Bool) (pos : Nat) {ls : List Lexeme} (h : Lexed ls) :
    (Reading.ofCursorFrom skip ⟨pos, ls⟩).faults = [] ↔
      ∀ line ∈ ls.splitOnP fun l => l.type = .newline, IsLine line := by
  induction ls using lines_induction generalizing skip pos with
  | last line hline =>
    have hnot : ∀ l ∈ line, decide (l.type = .newline) = false := by simpa using hline
    have hends : EndsLine [] := by simp [EndsLine]
    have hone := line_faults skip pos hline hends (by simp) (by rwa [List.append_nil])
    rw [List.append_nil] at hone
    rw [hone, List.splitOnP_eq_singleton hnot, List.forall_mem_singleton]
  | next line l more hline hl ih =>
    have hnot : ∀ l ∈ line, decide (l.type = .newline) = false := by simpa using hline
    have hlex : Lexed (line ++ [l]) := (List.append_cons line l more ▸ h).left
    have hends : EndsLine [l] := by simpa [EndsLine] using hl
    have hfirst := line_faults skip pos hline hends (by simp) hlex
    rw [Reading.ofCursorFrom_line skip pos h hl,
      List.splitOnP_append_cons_of_forall_mem hnot l (by simpa using hl), List.forall_mem_cons,
      ← hfirst]
    simp only [Reading.append, List.append_eq_nil_iff]
    rw [ih _ _ h.right.tail]

/-- **A header is accepted exactly if each of its lines is.** -/
theorem parse_ok_iff (text : List Char) :
    ((Reading.ofText text).diagnostics = [] ↔ ∀ line ∈ linesOf text, IsLine line) ∧
      ((∃ contents, parse text = .ok contents) ↔ ∀ line ∈ linesOf text, IsLine line) := by
  have h : (Reading.ofText text).faults = [] ↔ ∀ line ∈ linesOf text, IsLine line :=
    faults_iff false 0 (lexed_lexemes text)
  refine ⟨by rw [← h]; simp [Reading.diagnostics], ?_⟩
  rw [← h]
  simp [parse_eq_ok]

end SeedHeader
