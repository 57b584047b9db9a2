import Mathlib.Tactic.Tauto
import SeedHeader.Lexeme
import SeedHeader.Proofs.Scanning

/-!
# Proofs — The shape of a lexeme

What the characters of a lexeme look like, by its type: `Shaped` has one case for each way in which
`cut` takes a lexeme off a text, and every lexeme of a text has one of these shapes
(`shaped_of_mem`).  Only a newline holds a line end.
-/

namespace SeedHeader

open Text

namespace Lexeme

/-! ### The extent of a token -/

section
variable (p : Char → Bool) (cs : List Char)

theorem take_run : cs.take (run p cs) = cs.takeWhile p := by
  obtain ⟨xs, ys, rfl, hx⟩ : ∃ xs ys, cs = xs ++ ys ∧ cs.takeWhile p = xs :=
    ⟨_, _, (List.takeWhile_append_dropWhile (p := p) (l := cs)).symm, rfl⟩
  rw [run, hx, List.take_left]

theorem drop_run : cs.drop (run p cs) = cs.dropWhile p := by
  have h := List.takeWhile_append_dropWhile (p := p) (l := cs)
  exact List.append_cancel_left ((take_run p cs ▸ List.take_append_drop (run p cs) cs).trans h.symm)

theorem all_take_run : ∀ c ∈ cs.take (run p cs), p c := by
  rw [take_run]
  exact List.all_eq_true.mp List.all_takeWhile

end

/-- A point and at least one digit. -/
def IsFraction (p : Char → Bool) (cs : List Char) : Prop :=
  ∃ ds, cs = '.' :: ds ∧ ds ≠ [] ∧ ∀ d ∈ ds, p d

/-- A numeral over the digits `p`: a minus sign or none, digits, and a decimal part or none. -/
def IsNumeral (p : Char → Bool) (cs : List Char) : Prop :=
  ∃ sign ds part, cs = sign ++ (ds ++ part) ∧ (sign = [] ∨ sign = ['-']) ∧
    (ds ≠ [] ∧ ∀ d ∈ ds, p d) ∧ (part = [] ∨ IsFraction p part)

/-- A word: a letter or `_`, and then letters, numeric characters and `_`. -/
def IsWord (cs : List Char) : Prop :=
  ∃ d ds, cs = d :: ds ∧ isWordStart d ∧ ∀ e ∈ ds, isWordRest e

theorem take_fraction (cs : List Char) :
    cs.take (fraction cs) = [] ∨ IsFraction isDigit (cs.take (fraction cs)) := by
  unfold fraction
  split
  · next d cs =>
    split
    · next hd =>
      refine .inr ⟨d :: cs.take (run isDigit cs), ?_, by simp, ?_⟩
      · rw [Nat.add_comm]; rfl
      · intro e he
        rcases List.mem_cons.mp he with rfl | he
        · exact hd
        · exact all_take_run isDigit cs e he
    · exact .inl rfl
  · exact .inl rfl

theorem take_digits (cs : List Char) :
    ∃ part, cs.take (digits cs) = cs.takeWhile isDigit ++ part ∧
      (part = [] ∨ IsFraction isDigit part) := by
  refine ⟨_, ?_, take_fraction (cs.drop (run isDigit cs))⟩
  rw [digits, List.take_add, take_run]

/-- What the lexemes of each type are made of. -/
inductive Shaped : Lexeme → Prop where
  | newline (cs : List Char) (h : cs = ['\n'] ∨ cs = ['\r'] ∨ cs = ['\r', '\n']) :
      Shaped ⟨.newline, cs⟩
  | whitespace (cs : List Char) (hne : cs ≠ []) (h : ∀ c ∈ cs, isPadding c) :
      Shaped ⟨.whitespace, cs⟩
  | comment (cs : List Char) (h : ∀ c ∈ cs, isLineEnd c = false) :
      Shaped ⟨.comment, '/' :: '/' :: cs⟩
  | closed (cs : List Char) (h : ∀ c ∈ cs, c ≠ '"' ∧ isLineEnd c = false) :
      Shaped ⟨.string, '"' :: (cs ++ ['"'])⟩
  | unclosed (cs : List Char) (h : ∀ c ∈ cs, c ≠ '"' ∧ isLineEnd c = false) :
      Shaped ⟨.string, '"' :: cs⟩
  | number (cs : List Char) (h : IsNumeral isDigit cs) : Shaped ⟨.number, cs⟩
  | minus : Shaped ⟨.minus, ['-']⟩
  | identifier (cs : List Char) (h : IsWord cs) : Shaped ⟨.identifier, cs⟩
  | mark {t : TokenType} (c : Char) (ht : punctuation c = t) (hl : isLineEnd c = false)
      (hq : c ≠ '"') : Shaped ⟨t, [c]⟩

/-- A quote is closed, or lasts up to the end of the line. -/
theorem take_quotedRest (cs : List Char) :
    ∃ body, (cs.take (quotedRest cs) = body ∧ (∀ c ∈ (cs.drop (quotedRest cs)).head?, isLineEnd c) ∨
        cs.take (quotedRest cs) = body ++ ['"']) ∧
      ∀ c ∈ body, c ≠ '"' ∧ isLineEnd c = false := by
  induction cs with
  | nil => exact ⟨[], .inl ⟨rfl, by simp⟩, by simp⟩
  | cons c cs ih =>
    unfold quotedRest
    split
    · next hc => exact ⟨[], .inr (by simp [hc]), by simp⟩
    split
    · next hl => exact ⟨[], .inl ⟨rfl, by simpa using hl⟩, by simp⟩
    · next hc hl =>
      obtain ⟨body, h, hb⟩ := ih
      refine ⟨c :: body, ?_, ?_⟩
      · rw [Nat.add_comm, List.take_succ_cons, List.drop_succ_cons]
        exact h.imp (And.imp_left (congrArg _)) (congrArg _)
      · intro d hd
        rcases List.mem_cons.mp hd with rfl | hd
        · exact ⟨hc, by simpa using hl⟩
        · exact hb d hd

theorem shaped_digits {d : Char} (hd : isDigit d) (cs : List Char) :
    Shaped ⟨.number, d :: cs.take (digits cs)⟩ := by
  obtain ⟨part, h, hpart⟩ := take_digits cs
  refine .number _ ⟨[], d :: cs.takeWhile isDigit, part, by simp [h], .inl rfl, ⟨by simp, ?_⟩, hpart⟩
  intro e he
  rcases List.mem_cons.mp he with rfl | he
  · exact hd
  · exact List.all_eq_true.mp List.all_takeWhile e he

theorem shaped_minus_digits {cs : List Char} (h : cs.head?.any isDigit) :
    Shaped ⟨.number, '-' :: cs.take (digits cs)⟩ := by
  obtain ⟨part, he, hpart⟩ := take_digits cs
  refine .number _ ⟨['-'], cs.takeWhile isDigit, part, by simp [he], .inr rfl, ⟨?_, ?_⟩, hpart⟩
  · cases cs with
    | nil => cases h
    | cons d cs =>
      have hd : isDigit d := h
      simp [hd]
  · exact List.all_eq_true.mp List.all_takeWhile

/-- No lexeme of more than one character, and neither a newline nor a minus sign, starts with `c` in
front of `cs`. -/
structure Lone (c : Char) (cs : List Char) : Prop where
  not_lineEnd : isLineEnd c = false
  not_padding : isPadding c = false
  not_comment : c = '/' → cs.head? ≠ some '/'
  not_quote : c ≠ '"'
  not_digit : isDigit c = false
  not_minus : c ≠ '-'
  not_wordStart : isWordStart c = false

/-- The ways in which a lexeme is cut off, by its first character: the type of the lexeme, and the
number of characters that follow the first. -/
inductive Extent (c : Char) (cs : List Char) : TokenType × Nat → Prop where
  | feed (h : c = '\n') : Extent c cs (.newline, 0)
  | carriage (h : c = '\r') (h' : cs.head? ≠ some '\n') : Extent c cs (.newline, 0)
  | carriageFeed (h : c = '\r') (h' : cs.head? = some '\n') : Extent c cs (.newline, 1)
  | padding (h : isPadding c) : Extent c cs (.whitespace, run isPadding cs)
  | comment (h : c = '/') (h' : cs.head? = some '/') :
      Extent c cs (.comment, run (fun d => !isLineEnd d) cs)
  | quote (h : c = '"') : Extent c cs (.string, quotedRest cs)
  | digit (h : isDigit c) : Extent c cs (.number, digits cs)
  | negative (h : c = '-') (h' : cs.head?.any isDigit) : Extent c cs (.number, digits cs)
  | minus (h : c = '-') (h' : cs.head?.any isDigit = false) : Extent c cs (.minus, 0)
  | word (h : isWordStart c) : Extent c cs (.identifier, run isWordRest cs)
  | mark (h : Lone c cs) : Extent c cs (punctuation c, 0)

theorem extent_cases (c : Char) (cs : List Char) : Extent c cs (extent c cs) := by
  unfold extent
  split
  · next h => exact .feed h
  next hn =>
  split
  · next h =>
    split
    · next h' => exact .carriageFeed h h'
    · next h' => exact .carriage h h'
  next hr =>
  split
  · next h => exact .padding h
  next hp =>
  split
  · next h =>
    rw [Bool.and_eq_true, decide_eq_true_eq, decide_eq_true_eq] at h
    exact .comment h.1 h.2
  next hc =>
  split
  · next h => exact .quote h
  next hq =>
  split
  · next h => exact .digit h
  next hd =>
  split
  · next h =>
    split
    · next h' => exact .negative h h'
    · next h' => exact .minus h (Bool.not_eq_true _ ▸ h')
  next hm =>
  split
  · next h => exact .word h
  · next hw =>
    rw [Bool.and_eq_true, decide_eq_true_eq, decide_eq_true_eq, not_and] at hc
    rw [Bool.not_eq_true] at hp hd hw
    exact .mark ⟨by simp [isLineEnd, hn, hr], hp, hc, hq, hd, hm, hw⟩

/-- A lexeme that is cut off a text has the shape of its type. -/
theorem shaped_cut (c : Char) (cs : List Char) : (cut c cs).Shaped := by
  have h := extent_cases c cs
  unfold cut
  generalize extent c cs = e at h
  cases h with
  | feed h => exact .newline _ (.inl (by simp [h]))
  | carriage h _ => exact .newline _ (.inr (.inl (by simp [h])))
  | carriageFeed h h' =>
    obtain ⟨ds, rfl⟩ := List.head?_eq_some_iff.mp h'
    exact .newline _ (.inr (.inr (by simp [h])))
  | padding h =>
    refine .whitespace _ (by simp) fun d hd => ?_
    rcases List.mem_cons.mp hd with rfl | hd
    · exact h
    · exact all_take_run isPadding cs d hd
  | comment h h' =>
    obtain ⟨ds, rfl⟩ := List.head?_eq_some_iff.mp h'
    have hrun : run (fun d => !isLineEnd d) ('/' :: ds) = run (fun d => !isLineEnd d) ds + 1 := rfl
    simp only [h, hrun, List.take_succ_cons]
    refine .comment _ fun d hd => ?_
    simpa using all_take_run (fun d => !isLineEnd d) ds d hd
  | quote h =>
    subst h
    obtain ⟨body, ⟨h, -⟩ | h, hb⟩ := take_quotedRest cs
    · rw [h]; exact .unclosed body hb
    · rw [h]; exact .closed body hb
  | digit h => exact shaped_digits h cs
  | negative h h' => subst h; exact shaped_minus_digits h'
  | minus h _ => subst h; exact .minus
  | word h => exact .identifier _ ⟨c, _, rfl, h, all_take_run isWordRest cs⟩
  | mark h => exact .mark c rfl h.not_lineEnd h.not_quote

/-! ### Line ends and lexemes -/

theorem isPadding_lineEnd {c : Char} (h : isLineEnd c) : isPadding c = false := by
  simp only [isLineEnd, Bool.or_eq_true, decide_eq_true_eq] at h
  rcases h with rfl | rfl <;> decide

theorem isDigit_lineEnd {c : Char} (h : isLineEnd c) : isDigit c = false := by
  simp only [isLineEnd, Bool.or_eq_true, decide_eq_true_eq] at h
  rcases h with rfl | rfl <;> decide

theorem isWordRest_lineEnd {c : Char} (h : isLineEnd c) : isWordRest c = false := by
  simp only [isLineEnd, Bool.or_eq_true, decide_eq_true_eq] at h
  rcases h with rfl | rfl <;> decide

/-- A class without line ends holds none. -/
theorem isLineEnd_of_class {p : Char → Bool} (hp : ∀ d, isLineEnd d → p d = false) {c : Char} (h : p c) :
    isLineEnd c = false := by
  cases hl : isLineEnd c with
  | false => rfl
  | true => rw [hp c hl] at h; cases h

theorem isWordRest_of_start {c : Char} (h : isWordStart c) : isWordRest c := by
  simp only [isWordStart, isWordRest, Bool.or_eq_true] at h ⊢
  tauto

/-- The character is no line end, no slash and no quote: it has no meaning of its own. -/
def Plain (c : Char) : Prop := isLineEnd c = false ∧ c ≠ '/' ∧ c ≠ '"'

theorem plain_of_class {p : Char → Bool} (hl : ∀ d, isLineEnd d → p d = false)
    (hs : p '/' = false) (hq : p '"' = false) {c : Char} (h : p c) : Plain c := by
  refine ⟨isLineEnd_of_class hl h, ?_, ?_⟩
  · rintro rfl
    rw [hs] at h
    cases h
  · rintro rfl
    rw [hq] at h
    cases h

theorem plain_of_padding {c : Char} (h : isPadding c) : Plain c :=
  plain_of_class (fun _ => isPadding_lineEnd) rfl rfl h

theorem plain_of_digit {c : Char} (h : isDigit c) : Plain c :=
  plain_of_class (fun _ => isDigit_lineEnd) (by decide) (by decide) h

theorem plain_of_wordRest {c : Char} (h : isWordRest c) : Plain c :=
  plain_of_class (fun _ => isWordRest_lineEnd) (by decide) (by decide) h

theorem IsNumeral.plain {cs : List Char} (h : IsNumeral isDigit cs) : ∀ c ∈ cs, Plain c := by
  obtain ⟨sign, ds, part, rfl, hs, ⟨-, hd⟩, hp⟩ := h
  intro c hc
  rcases List.mem_append.mp hc with hc | hc
  · rcases hs with rfl | rfl
    · cases hc
    · rw [List.mem_singleton.mp hc]
      exact ⟨rfl, by decide, by decide⟩
  rcases List.mem_append.mp hc with hc | hc
  · exact plain_of_digit (hd c hc)
  · rcases hp with rfl | ⟨es, rfl, -, he⟩
    · cases hc
    rcases List.mem_cons.mp hc with rfl | hc
    · exact ⟨rfl, by decide, by decide⟩
    · exact plain_of_digit (he c hc)

theorem IsWord.plain {cs : List Char} (h : IsWord cs) : ∀ c ∈ cs, Plain c := by
  obtain ⟨d, ds, rfl, hd, hds⟩ := h
  intro c hc
  rcases List.mem_cons.mp hc with rfl | hc
  · exact plain_of_wordRest (isWordRest_of_start hd)
  · exact plain_of_wordRest (hds c hc)

/-- A lexeme that is no newline holds no line end. -/
theorem Shaped.not_lineEnd {l : Lexeme} (h : l.Shaped) (hl : l.type ≠ .newline) :
    ∀ c ∈ l.text, isLineEnd c = false := by
  intro c hc
  cases h with
  | newline => exact absurd rfl hl
  | whitespace cs _ h => exact (plain_of_padding (h c hc)).1
  | comment cs h =>
    rcases List.mem_cons.mp hc with rfl | hc
    · rfl
    rcases List.mem_cons.mp hc with rfl | hc
    · rfl
    · exact h c hc
  | closed cs h =>
    rcases List.mem_cons.mp hc with rfl | hc
    · rfl
    rcases List.mem_append.mp hc with hc | hc
    · exact (h c hc).2
    · rw [List.mem_singleton.mp hc]; rfl
  | unclosed cs h =>
    rcases List.mem_cons.mp hc with rfl | hc
    · rfl
    · exact (h c hc).2
  | number cs h => exact (h.plain c hc).1
  | minus => rw [List.mem_singleton.mp hc]; rfl
  | identifier cs h => exact (h.plain c hc).1
  | mark d _ h => rw [List.mem_singleton.mp hc]; exact h

theorem Shaped.text_ne_nil {l : Lexeme} (h : l.Shaped) : l.text ≠ [] := by
  cases h with
  | newline cs h => rcases h with rfl | rfl | rfl <;> simp
  | whitespace cs hne _ => exact hne
  | number cs h =>
    obtain ⟨sign, ds, part, rfl, -, ⟨hne, -⟩, -⟩ := h
    simp [hne]
  | identifier cs h => obtain ⟨d, ds, rfl, -⟩ := h; simp
  | comment | closed | unclosed | minus | mark => simp

/-- A mark is none of the lexemes that have a shape of their own. -/
theorem punctuation_mem (c : Char) :
    punctuation c ∈ [TokenType.separator, .eq, .colon, .pound, .bang, .dollar, .openParen,
      .closeParen, .dot, .unknown] := by
  unfold punctuation
  split <;> simp

theorem Shaped.type_ne_eof {l : Lexeme} (h : l.Shaped) : l.type ≠ .eof := by
  cases h with
  | mark c ht =>
    rintro rfl
    have := punctuation_mem c
    simp [ht] at this
  | _ => simp

theorem Shaped.newline_text {cs : List Char} (h : Shaped ⟨.newline, cs⟩) :
    cs = ['\n'] ∨ cs = ['\r'] ∨ cs = ['\r', '\n'] := by
  cases h with
  | newline _ h => exact h
  | mark c ht => have := punctuation_mem c; simp [ht] at this

theorem Shaped.padding {cs : List Char} (h : Shaped ⟨.whitespace, cs⟩) :
    ∀ c ∈ cs, isPadding c := by
  cases h with
  | whitespace _ _ h => exact h
  | mark c ht => have := punctuation_mem c; simp [ht] at this

theorem Shaped.isWord {cs : List Char} (h : Shaped ⟨.identifier, cs⟩) : IsWord cs := by
  cases h with
  | identifier _ h => exact h
  | mark c ht => have := punctuation_mem c; simp [ht] at this

theorem Shaped.isNumeral {cs : List Char} (h : Shaped ⟨.number, cs⟩) : IsNumeral isDigit cs := by
  cases h with
  | number _ h => exact h
  | mark c ht => have := punctuation_mem c; simp [ht] at this

end Lexeme

/-- Every lexeme of a text has the shape of its type. -/
theorem shaped_of_mem {text : List Char} {l : Lexeme} (h : l ∈ lexemes text) : l.Shaped := by
  induction text using lexemes_induction with
  | nil => cases h
  | cons c cs ih =>
    rw [lexemes_cons] at h
    rcases List.mem_cons.mp h with rfl | h
    · exact Lexeme.shaped_cut c cs
    · exact ih h

/-- Among lexemes that come from a text, line ends are in newlines only, and each newline has one. -/
theorem oneLine_iff {ls : List Lexeme} (h : ∀ l ∈ ls, l.Shaped) :
    (∀ l ∈ ls, l.type ≠ .newline) ↔ ∀ c ∈ charsOf ls, Lexeme.isLineEnd c = false := by
  have hchars : ∀ c, c ∈ charsOf ls ↔ ∃ l ∈ ls, c ∈ l.text := by simp [charsOf]
  constructor
  · intro hls c hc
    obtain ⟨l, hl, hcl⟩ := (hchars c).mp hc
    exact (h l hl).not_lineEnd (hls l hl) c hcl
  · rintro hls ⟨t, cs⟩ hl rfl
    have hcs : ∀ c ∈ cs, Lexeme.isLineEnd c = false :=
      fun c hc => hls c ((hchars c).mpr ⟨_, hl, hc⟩)
    rcases (h _ hl).newline_text with rfl | rfl | rfl
    · exact absurd (hcs '\n' List.mem_cons_self) (by decide)
    · exact absurd (hcs '\r' List.mem_cons_self) (by decide)
    · exact absurd (hcs '\r' List.mem_cons_self) (by decide)

end SeedHeader
