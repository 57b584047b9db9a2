import SeedHeader.Proofs.Lexing
import SeedHeader.Proofs.FreeText

/-!
# Proofs — Cutting off a token

A token is cut off in front of a text if the text does not go on in a way that would make the
token longer: a numeral ends where no digit and no point follows, a word where no character of a
word follows, a free text at the end of the line.

A character that may start a word is no digit; the two tables of ranges are told apart in one pass
over both (`apart_sound`).
-/

namespace SeedHeader

open Text

/-! ### Letters and digits -/

/-- No range of one table meets a range of the other; both are in increasing order. -/
def apart : List (Nat × Nat) → List (Nat × Nat) → Bool
  | [], _ => true
  | r :: rs, ss =>
    let ss' := ss.dropWhile fun s => Nat.blt s.2 r.1
    ss'.head?.all (fun s => Nat.blt r.2 s.1) && apart rs ss'

/-- The ranges are in increasing order of their first members. -/
def Ascending (rs : List (Nat × Nat)) : Prop := rs.Pairwise fun r s => r.1 ≤ s.1

theorem ascending_of_isChain {rs : List (Nat × Nat)} (h : rs.IsChain fun r s => r.1 ≤ s.1) :
    Ascending rs := by
  have : IsTrans (Nat × Nat) fun r s => r.1 ≤ s.1 := ⟨fun _ _ _ => Nat.le_trans⟩
  exact List.isChain_iff_pairwise.mp h

theorem apart_sound {rs ss : List (Nat × Nat)} (hr : Ascending rs) (hs : Ascending ss)
    (h : apart rs ss) : ∀ r ∈ rs, ∀ s ∈ ss, s.2 < r.1 ∨ r.2 < s.1 := by
  induction rs generalizing ss with
  | nil => simp
  | cons r₀ rs ih =>
    rw [apart, Bool.and_eq_true] at h
    obtain ⟨hhead, hrest⟩ := h
    have hdrop : Ascending (ss.dropWhile fun s => Nat.blt s.2 r₀.1) :=
      List.Pairwise.sublist (List.dropWhile_sublist _) hs
    intro r hmem s hs'
    have hle : r₀.1 ≤ r.1 := by
      rcases List.mem_cons.mp hmem with rfl | hmem
      · exact Nat.le_refl _
      · exact (List.pairwise_cons.mp hr).1 r hmem
    rw [← List.takeWhile_append_dropWhile (p := fun s => Nat.blt s.2 r₀.1) (l := ss)] at hs'
    rcases List.mem_append.mp hs' with hs' | hs'
    · -- the range ends before the first of `rs`, and so before all of them
      have : s.2 < r₀.1 := by simpa using List.mem_takeWhile_imp hs'
      exact .inl (by omega)
    · rcases List.mem_cons.mp hmem with rfl | hmem
      · right
        cases e : ss.dropWhile fun s => Nat.blt s.2 r.1 with
        | nil => rw [e] at hs'; cases hs'
        | cons s₀ ss' =>
          rw [e] at hs' hhead hdrop
          have hlt : r.2 < s₀.1 := by simpa using hhead
          rcases List.mem_cons.mp hs' with rfl | hs'
          · exact hlt
          · exact Nat.lt_of_lt_of_le hlt ((List.pairwise_cons.mp hdrop).1 s hs')
      · exact ih (List.pairwise_cons.mp hr).2 hdrop hrest r hmem s hs'

theorem letters_apart_digits :
    ∀ r ∈ letterRanges, ∀ s ∈ digitRanges, s.2 < r.1 ∨ r.2 < s.1 :=
  apart_sound (ascending_of_isChain (by decide +kernel)) (ascending_of_isChain (by decide +kernel))
    (by decide +kernel)

theorem isDigit_of_letter {c : Char} (h : isLetter c) : isDigit c = false := by
  by_cases hc : c.toNat < 0x80
  · rw [isLetter_of_ascii hc] at h
    rw [isDigit_of_ascii hc]
    unfold Char.isAlpha Char.isUpper Char.isLower at h
    unfold Char.isDigit
    grind
  · simp only [isLetter, isDigit, if_neg hc] at h ⊢
    obtain ⟨r, hr, h₁, h₂⟩ := inRanges_iff.mp h
    cases hd : inRanges digitRanges c with
    | false => rfl
    | true =>
      obtain ⟨s, hs, h₃, h₄⟩ := inRanges_iff.mp hd
      have := letters_apart_digits r hr s hs
      omega

namespace Lexeme

theorem isDigit_of_wordStart {c : Char} (h : isWordStart c) : isDigit c = false := by
  rw [isWordStart, Bool.or_eq_true, decide_eq_true_eq] at h
  rcases h with h | rfl
  · exact isDigit_of_letter h
  · decide

/-! ### The extent of a token -/

/-- A character of a class is none of those that the class leaves out. -/
theorem ne_of_class {p : Char → Bool} {c d : Char} (h : p c) (hd : p d = false) : c ≠ d := by
  rintro rfl
  rw [hd] at h
  cases h

theorem isPadding_of_class {p : Char → Bool} {c : Char} (h : p c) (hs : p ' ' = false)
    (ht : p '\t' = false) : isPadding c = false := by
  simp [isPadding, ne_of_class h hs, ne_of_class h ht]

theorem extent_of_digit {c : Char} (h : isDigit c) (cs : List Char) :
    extent c cs = (.number, digits cs) := by
  have hn : c ≠ '\n' := ne_of_class h (by decide)
  have hr : c ≠ '\r' := ne_of_class h (by decide)
  have hs : c ≠ '/' := ne_of_class h (by decide)
  have hq : c ≠ '"' := ne_of_class h (by decide)
  have hp : isPadding c = false := isPadding_of_class h (by decide) (by decide)
  simp [extent, hn, hr, hs, hq, hp, h]

theorem extent_of_wordStart {c : Char} (h : isWordStart c) (cs : List Char) :
    extent c cs = (.identifier, run isWordRest cs) := by
  have hn : c ≠ '\n' := ne_of_class h (by decide)
  have hr : c ≠ '\r' := ne_of_class h (by decide)
  have hs : c ≠ '/' := ne_of_class h (by decide)
  have hq : c ≠ '"' := ne_of_class h (by decide)
  have hm : c ≠ '-' := ne_of_class h (by decide)
  have hp : isPadding c = false := isPadding_of_class h (by decide) (by decide)
  simp [extent, hn, hr, hs, hq, hm, hp, isDigit_of_wordStart h, h]

theorem run_of_head {p : Char → Bool} {cs k : List Char} (h : ∀ c ∈ cs, p c)
    (hk : ∀ c ∈ k.head?, p c = false) : run p (cs ++ k) = cs.length := by
  rw [run, takeWhile_append_of_head h hk]

theorem fraction_of_head {part k : List Char} (h : part = [] ∨ IsFraction isDigit part)
    (hk : ∀ c ∈ k.head?, isDigit c = false ∧ c ≠ '.') : fraction (part ++ k) = part.length := by
  rcases h with rfl | ⟨ds, rfl, hne, hd⟩
  · cases k with
    | nil => rfl
    | cons c k => exact fraction_of_ne (hk c rfl).2 k
  · obtain ⟨d, ds, rfl⟩ := List.exists_cons_of_ne_nil hne
    rw [List.cons_append, List.cons_append, fraction, if_pos (hd d (by simp)),
      run_of_head (fun e he => hd e (by simp [he])) fun c hc => (hk c hc).1]
    simp only [List.length_cons]
    omega

theorem digits_of_head {ds part k : List Char} (hd : ∀ d ∈ ds, isDigit d)
    (hp : part = [] ∨ IsFraction isDigit part)
    (hk : ∀ c ∈ k.head?, isDigit c = false ∧ c ≠ '.') :
    digits (ds ++ (part ++ k)) = ds.length + part.length := by
  have hhead : ∀ c ∈ (part ++ k).head?, isDigit c = false := by
    rcases hp with rfl | ⟨es, rfl, -, -⟩
    · exact fun c hc => (hk c hc).1
    · rintro c hc
      obtain rfl : c = '.' := by simpa using hc.symm
      decide
  rw [digits, run_of_head hd hhead, List.drop_left, fraction_of_head hp hk]

theorem quotedRest_of_body {body k : List Char} (h : ∀ c ∈ body, c ≠ '"' ∧ isLineEnd c = false) :
    quotedRest (body ++ '"' :: k) = body.length + 1 := by
  induction body with
  | nil => rfl
  | cons c body ih =>
    obtain ⟨hq, hl⟩ := h c (by simp)
    rw [List.cons_append, quotedRest, if_neg hq, if_neg (by simp [hl]),
      ih fun d hd => h d (by simp [hd]), List.length_cons]
    omega

end Lexeme

open Lexeme

/-! ### Tokens in front of a text -/

theorem lexemes_of_extent {t : TokenType} {c : Char} (cs : List Char) {k : List Char}
    (h : extent c (cs ++ k) = (t, cs.length)) :
    lexemes (c :: (cs ++ k)) = ⟨t, c :: cs⟩ :: lexemes k := by
  rw [lexemes_cons, cut, rest, h, List.take_left, List.drop_left]

theorem lexemes_number {cs k : List Char} (h : IsNumeral isDigit cs)
    (hk : ∀ c ∈ k.head?, isDigit c = false ∧ c ≠ '.') :
    lexemes (cs ++ k) = ⟨.number, cs⟩ :: lexemes k := by
  obtain ⟨sign, ds, part, rfl, hs, ⟨hne, hd⟩, hp⟩ := h
  obtain ⟨d, ds, rfl⟩ := List.exists_cons_of_ne_nil hne
  have hdigits : ∀ es, (∀ e ∈ es, isDigit e) →
      digits ((es ++ part) ++ k) = (es ++ part).length := by
    intro es he
    rw [List.append_assoc, digits_of_head he hp hk, List.length_append]
  rcases hs with rfl | rfl
  · refine lexemes_of_extent (ds ++ part) ?_
    rw [extent_of_digit (hd d (by simp)), hdigits ds fun e he => hd e (by simp [he])]
  · refine lexemes_of_extent (d :: ds ++ part) ?_
    have hfirst : isDigit d := hd d (by simp)
    rw [← hdigits _ hd]
    simp [extent, isPadding, hfirst, show isDigit '-' = false by decide]

theorem lexemes_word {cs k : List Char} (h : IsWord cs)
    (hk : ∀ c ∈ k.head?, isWordRest c = false) :
    lexemes (cs ++ k) = ⟨.identifier, cs⟩ :: lexemes k := by
  obtain ⟨d, ds, rfl, hd, hds⟩ := h
  refine lexemes_of_extent _ ?_
  rw [extent_of_wordStart hd, run_of_head hds hk]

theorem lexemes_space {k : List Char} (hk : ∀ c ∈ k.head?, isPadding c = false) :
    lexemes (' ' :: k) = ⟨.whitespace, [' ']⟩ :: lexemes k := by
  refine lexemes_of_extent [] ?_
  have hrun : run isPadding ([] ++ k) = 0 := run_of_head (by simp) hk
  simpa [extent, isPadding] using hrun

/-- A minus sign in front of no digit is a token of its own. -/
theorem lexemes_minus {k : List Char} (hk : ∀ c ∈ k.head?, isDigit c = false) :
    lexemes ('-' :: k) = ⟨.minus, ['-']⟩ :: lexemes k := by
  refine lexemes_of_extent [] ?_
  have hnone : k.head?.any isDigit = false := by
    cases k with
    | nil => rfl
    | cons c k => exact hk c rfl
  simp [extent, isPadding, hnone, show isDigit '-' = false by decide]

theorem lexemes_quoted {body : List Char} (h : ∀ c ∈ body, c ≠ '"' ∧ isLineEnd c = false)
    (k : List Char) :
    lexemes ('"' :: (body ++ ['"'] ++ k)) = ⟨.string, '"' :: (body ++ ['"'])⟩ :: lexemes k := by
  refine lexemes_of_extent _ ?_
  rw [extent_quote, List.append_assoc, List.singleton_append, quotedRest_of_body h,
    List.length_append, List.length_singleton]

theorem lexemes_newline (k : List Char) : lexemes ('\n' :: k) = ⟨.newline, ['\n']⟩ :: lexemes k :=
  lexemes_of_extent [] rfl

/-- A comment lasts up to the end of the line. -/
theorem lexemes_comment {cs k : List Char} (h : ∀ c ∈ cs, isLineEnd c = false)
    (hk : ∀ c ∈ k.head?, isLineEnd c) :
    lexemes ('/' :: ('/' :: cs ++ k)) = ⟨.comment, '/' :: '/' :: cs⟩ :: lexemes k := by
  refine lexemes_of_extent _ ?_
  rw [extent_slash, if_pos (by rfl)]
  refine congrArg _ (run_of_head ?_ fun c hc => by simp [hk c hc])
  intro c hc
  rcases List.mem_cons.mp hc with rfl | hc
  · rfl
  · simp [h c hc]

/-- The texts that are a token of the given type, whatever follows them. -/
inductive IsMark : String → TokenType → Prop
  | bar : IsMark "|" .separator
  | eq : IsMark "=" .eq
  | colon : IsMark ":" .colon
  | pound : IsMark "#" .pound
  | bang : IsMark "!" .bang
  | dollar : IsMark "$" .dollar
  | openParen : IsMark "(" .openParen
  | closeParen : IsMark ")" .closeParen

theorem lexemes_mark {m : String} {t : TokenType} (h : IsMark m t) (k : List Char) :
    lexemes (m.toList ++ k) = ⟨t, m.toList⟩ :: lexemes k := by
  cases h <;> exact lexemes_of_extent [] rfl

/-- A free text is cut off at the end of the line, whatever its lexemes are. -/
theorem lexemes_free {cs k : List Char} (h : IsFree cs) (hk : ∀ c ∈ k.head?, isLineEnd c) :
    ∃ w, lexemes (cs ++ k) = w ++ lexemes k ∧ charsOf w = cs ∧
      (∀ l ∈ w, Grammar.isTextual l.type) ∧
        ∀ l ∈ (lexemes k).head?, Grammar.isTextual l.type = false := by
  obtain ⟨w, rest, hsplit, hchars, htext, hstop⟩ := exists_textual_append (cs ++ k)
  rw [freeRun_append h.1 h.2 hk] at hchars
  have hrest : rest = lexemes k := by
    have hlexed : Lexed rest := (hsplit ▸ lexed_lexemes (cs ++ k)).right
    have hall : charsOf (w ++ rest) = cs ++ k := by rw [← hsplit, charsOf_lexemes]
    rw [charsOf_append, hchars] at hall
    rw [← hlexed, List.append_cancel_left hall]
  subst hrest
  exact ⟨w, hsplit, hchars, htext, hstop⟩

end SeedHeader
