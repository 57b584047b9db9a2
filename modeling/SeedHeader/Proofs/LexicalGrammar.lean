import Mathlib.Data.List.Chain
import SeedHeader.Proofs.Cutting
import SeedHeader.Proofs.Placement

/-!
# Proofs — The lexical grammar

The lexical grammar says of each type of token which characters it is made of and what may follow
them, without regard to how a text is scanned (`Lexical`).  Where a class of tokens is closed under
going on, the token is the longest of its class.  A character that no other class can start with is
a token of unknown type.

What is cut off a text keeps to the grammar (`lexical_cut`), and whatever keeps to the grammar at
the front of a text is what is cut off (`Lexical.lexemes_eq`).  So the tokens of a text are the
only list that tiles the text and keeps to the grammar (`eq_tokenize_iff`).  What may follow a token
is a matter of what comes first there, so a text may also end where a token ends: the tokens before
that place stay the same (`Lexed.left`).
-/

namespace SeedHeader

open Text Lexeme

/-! ### The classes of tokens -/

/-- The characters that are tokens by themselves, with their types. -/
def reserved : List (Char × TokenType) :=
  [('|', .separator), ('=', .eq), (':', .colon), ('#', .pound), ('!', .bang), ('$', .dollar),
   ('(', .openParen), (')', .closeParen), ('.', .dot)]

/-- `chars` satisfies `P`, and no longer beginning of `chars ++ after` does. -/
def Longest (P : List Char → Prop) (chars after : List Char) : Prop :=
  P chars ∧ ∀ more rest, after = more ++ rest → more ≠ [] → ¬ P (chars ++ more)

/-- A line end follows, or nothing. -/
def AtLineEnd (after : List Char) : Prop := ∀ c ∈ after.head?, isLineEnd c

/-- The kind of a comment by the number of slashes that open it. -/
inductive OpenedBy : Nat → CommentKind → Prop where
  | note : OpenedBy 2 .note
  | headerDoc : OpenedBy 3 .headerDoc
  | configDoc {n : Nat} (h : 4 ≤ n) : OpenedBy n .configDoc

/-- **The lexical grammar.**  The characters `chars`, in front of `after`, are a token of the given
type, which is terminated or not and may be a comment of some kind. -/
inductive Lexical : TokenType → Bool → Option CommentKind → List Char → List Char → Prop where
  | feed {after : List Char} : Lexical .newline true none ['\n'] after
  | carriage {after : List Char} (h : after.head? ≠ some '\n') :
      Lexical .newline true none ['\r'] after
  | carriageFeed {after : List Char} : Lexical .newline true none ['\r', '\n'] after
  | whitespace {chars after : List Char}
      (h : Longest (fun cs => cs ≠ [] ∧ ∀ c ∈ cs, isPadding c) chars after) :
      Lexical .whitespace true none chars after
  | comment {kind : CommentKind} {body after : List Char}
      (hkind : OpenedBy (('/' :: '/' :: body).takeWhile (· = '/')).length kind)
      (hbody : ∀ c ∈ body, isLineEnd c = false) (hend : AtLineEnd after) :
      Lexical .comment true (some kind) ('/' :: '/' :: body) after
  | closed {body after : List Char} (h : ∀ c ∈ body, c ≠ '"' ∧ isLineEnd c = false) :
      Lexical .string true none ('"' :: (body ++ ['"'])) after
  | unclosed {body after : List Char} (h : ∀ c ∈ body, c ≠ '"' ∧ isLineEnd c = false)
      (hend : AtLineEnd after) : Lexical .string false none ('"' :: body) after
  | number {chars after : List Char} (h : Longest (IsNumeral isDigit) chars after) :
      Lexical .number true none chars after
  | minus {after : List Char} (h : ∀ c ∈ after.head?, isDigit c = false) :
      Lexical .minus true none ['-'] after
  | identifier {chars after : List Char} (h : Longest IsWord chars after) :
      Lexical .identifier true none chars after
  | mark {c : Char} {t : TokenType} {after : List Char} (h : (c, t) ∈ reserved) :
      Lexical t true none [c] after
  | unknown {c : Char} {after : List Char} (h : Lone c after) (hc : ∀ t, (c, t) ∉ reserved) :
      Lexical .unknown true none [c] after

/-! ### The longest token of a class -/

/-- What follows the longest run of a class is not of the class. -/
theorem longest_run_iff {P : List Char → Prop} {p : Char → Bool} {chars after : List Char}
    (hP : ∀ c, P (chars ++ [c]) ↔ p c) (hmore : ∀ c cs, P (chars ++ c :: cs) → p c) (h : P chars) :
    Longest P chars after ↔ ∀ c ∈ after.head?, p c = false := by
  constructor
  · rintro ⟨-, hlong⟩ c hc
    obtain ⟨rest, rfl⟩ := List.head?_eq_some_iff.mp hc
    have hnot := hlong [c] rest rfl (by simp)
    rwa [hP, Bool.not_eq_true] at hnot
  · intro hnot
    refine ⟨h, fun more rest hafter hne hmem => ?_⟩
    obtain ⟨c, cs, rfl⟩ := List.exists_cons_of_ne_nil hne
    have hc := hnot c (by rw [hafter]; rfl)
    rw [hmore c cs hmem] at hc
    cases hc

theorem longest_padding_iff {chars after : List Char} (hne : chars ≠ [])
    (h : ∀ c ∈ chars, isPadding c) :
    Longest (fun cs => cs ≠ [] ∧ ∀ c ∈ cs, isPadding c) chars after ↔
      ∀ c ∈ after.head?, isPadding c = false := by
  refine longest_run_iff (fun c => ?_) (fun c cs hall => hall.2 c (by simp)) ⟨hne, h⟩
  refine ⟨fun hall => hall.2 c (by simp), fun hc => ⟨by simp, fun d hd => ?_⟩⟩
  rcases List.mem_append.mp hd with hd | hd
  · exact h d hd
  · rwa [List.mem_singleton.mp hd]

theorem longest_word_iff {chars after : List Char} (h : IsWord chars) :
    Longest IsWord chars after ↔ ∀ c ∈ after.head?, isWordRest c = false := by
  obtain ⟨d, ds, rfl, hd, hds⟩ := h
  have hrest : ∀ c cs, IsWord (d :: ds ++ c :: cs) → isWordRest c := by
    rintro c cs ⟨e, es, he, -, hes⟩
    obtain ⟨-, rfl⟩ := List.cons.inj he
    exact hes c (by simp)
  refine longest_run_iff (fun c => ⟨hrest c [], fun hc => ?_⟩) hrest ⟨d, ds, rfl, hd, hds⟩
  refine ⟨d, ds ++ [c], rfl, hd, fun e he => ?_⟩
  rcases List.mem_append.mp he with he | he
  · exact hds e he
  · rwa [List.mem_singleton.mp he]

/-! ### The longest numeral -/

/-- A numeral opens with a digit, or with a minus sign in front of a digit. -/
theorem Lexeme.IsNumeral.of_cons {c : Char} {cs : List Char} (h : IsNumeral isDigit (c :: cs)) :
    ∃ ds part, cs = ds ++ part ∧ (∀ d ∈ ds, isDigit d) ∧ (part = [] ∨ IsFraction isDigit part) ∧
      (isDigit c ∨ c = '-' ∧ ds ≠ []) := by
  obtain ⟨sign, ds, part, he, rfl | rfl, ⟨hne, hd⟩, hp⟩ := h
  · obtain ⟨d, ds, rfl⟩ := List.exists_cons_of_ne_nil hne
    obtain ⟨rfl, rfl⟩ := List.cons.inj he
    exact ⟨ds, part, rfl, fun e he => hd e (by simp [he]), hp, .inl (hd c (by simp))⟩
  · obtain ⟨rfl, rfl⟩ := List.cons.inj he
    exact ⟨ds, part, rfl, hd, hp, .inr ⟨rfl, hne⟩⟩

theorem Lexeme.length_le_fraction {part : List Char} (h : part = [] ∨ IsFraction isDigit part)
    (k : List Char) : part.length ≤ fraction (part ++ k) := by
  rcases h with rfl | ⟨ds, rfl, hne, hd⟩
  · exact Nat.zero_le _
  · obtain ⟨d, ds, rfl⟩ := List.exists_cons_of_ne_nil hne
    have hrun : ds.length ≤ run isDigit (ds ++ k) := by
      rw [run, List.takeWhile_append_of_pos fun e he => hd e (by simp [he]), List.length_append]
      omega
    rw [List.cons_append, List.cons_append, fraction, if_pos (hd d (by simp))]
    simp only [List.length_cons]
    omega

/-- Digits and a decimal part are counted whole, whatever follows. -/
theorem Lexeme.length_le_digits {ds part : List Char} (hd : ∀ d ∈ ds, isDigit d)
    (hp : part = [] ∨ IsFraction isDigit part) (k : List Char) :
    (ds ++ part).length ≤ digits (ds ++ part ++ k) := by
  have hpart := length_le_fraction hp k
  rcases hp with rfl | ⟨es, rfl, -, -⟩
  · rw [List.append_nil, digits, run, List.takeWhile_append_of_pos hd, List.length_append]
    omega
  · have hstop : ∀ c ∈ ('.' :: es ++ k).head?, isDigit c = false := by
      rintro c hc
      obtain rfl : c = '.' := by simpa using hc.symm
      decide
    rw [List.append_assoc, digits, run_of_head hd hstop, List.drop_left, List.length_append]
    omega

theorem Lexeme.IsNumeral.extent_eq {c : Char} {cs : List Char} (h : IsNumeral isDigit (c :: cs))
    (k : List Char) :
    extent c (cs ++ k) = (.number, digits (cs ++ k)) ∧ cs.length ≤ digits (cs ++ k) := by
  obtain ⟨ds, part, rfl, hd, hp, hc⟩ := h.of_cons
  refine ⟨?_, length_le_digits hd hp k⟩
  rcases hc with hc | ⟨rfl, hne⟩
  · exact extent_of_digit hc _
  · obtain ⟨d, ds, rfl⟩ := List.exists_cons_of_ne_nil hne
    have hfirst : isDigit d := hd d (by simp)
    simp [extent, isPadding, hfirst, show isDigit '-' = false by decide]

/-- The characters counted as a number are the longest numeral. -/
theorem longest_numeral (c : Char) (cs : List Char) (h : (cut c cs).type = .number) :
    Longest (IsNumeral isDigit) (cut c cs).text (rest c cs) := by
  have hshape := shaped_cut c cs
  rw [show cut c cs = ⟨.number, (cut c cs).text⟩ by rw [← h]] at hshape
  refine ⟨hshape.isNumeral, fun more k hrest hne hlonger => ?_⟩
  -- a longer numeral would have been counted whole, by `extent_eq`
  have hsplit := cut_append_rest c cs
  rw [hrest, ← List.append_assoc] at hsplit
  have htext : (cut c cs).text ++ more = c :: (cs.take (extent c cs).2 ++ more) := rfl
  rw [htext] at hlonger hsplit
  rw [List.cons_append] at hsplit
  obtain ⟨-, hcs⟩ := List.cons.inj hsplit
  obtain ⟨he, hle⟩ := hlonger.extent_eq k
  rw [List.append_assoc] at hcs he hle
  rw [hcs] at he hle
  have hmore : 0 < more.length := List.length_pos_iff.mpr hne
  have htake : (cs.take (extent c cs).2).length = (extent c cs).2 :=
    List.length_take_of_le (extent_le c cs)
  rw [List.length_append, htake, he] at hle
  omega

/-- The longest numeral is what is cut off. -/
theorem lexemes_numeral {chars after : List Char} (h : Longest (IsNumeral isDigit) chars after) :
    lexemes (chars ++ after) = ⟨.number, chars⟩ :: lexemes after := by
  obtain ⟨hnum, hlong⟩ := h
  cases chars with
  | nil =>
    obtain ⟨sign, ds, part, he, -, ⟨hne, -⟩, -⟩ := hnum
    simp [hne] at he
  | cons c cs =>
    obtain ⟨he, hle⟩ := hnum.extent_eq after
    refine lexemes_of_extent cs ?_
    rw [he, Prod.mk.injEq]
    refine ⟨rfl, Nat.le_antisymm (Nat.le_of_not_lt fun hlt => ?_) hle⟩
    -- the characters beyond `cs` would make a longer numeral
    obtain ⟨n, hn⟩ : ∃ n, digits (cs ++ after) = cs.length + n :=
      ⟨_, (Nat.add_sub_cancel' hle).symm⟩
    have htake : (cs ++ after).take (digits (cs ++ after)) = cs ++ after.take n := by
      rw [hn, List.take_length_add_append]
    have hcut : cut c (cs ++ after) = ⟨.number, c :: cs ++ after.take n⟩ := by
      rw [cut, he, htake, List.cons_append]
    refine hlong (after.take n) (after.drop n) (List.take_append_drop n after).symm ?_ ?_
    · intro hnil
      have hbound := digits_le (cs ++ after)
      rw [hn, List.length_append] at hbound
      rcases List.take_eq_nil_iff.mp hnil with h0 | h0
      · omega
      · rw [h0, List.length_nil] at hbound
        omega
    · have hshape := shaped_cut c (cs ++ after)
      rw [hcut] at hshape
      exact hshape.isNumeral

/-! ### The other classes -/

theorem mem_reserved_iff {c : Char} {t : TokenType} :
    (c, t) ∈ reserved ↔ punctuation c = t ∧ t ≠ .unknown := by
  constructor
  · intro h
    have hall : ∀ p ∈ reserved, punctuation p.1 = p.2 ∧ p.2 ≠ .unknown := by decide
    exact hall _ h
  · rintro ⟨rfl, hne⟩
    unfold punctuation at hne ⊢
    split at hne <;> first | decide | exact absurd rfl hne

theorem lone_of_reserved {c : Char} {t : TokenType} (h : (c, t) ∈ reserved) (after : List Char) :
    Lone c after := by
  have hall : ∀ p ∈ reserved, isLineEnd p.1 = false ∧ isPadding p.1 = false ∧ p.1 ≠ '/' ∧
      p.1 ≠ '"' ∧ isDigit p.1 = false ∧ p.1 ≠ '-' ∧ isWordStart p.1 = false := by decide
  obtain ⟨hl, hp, hs, hq, hd, hm, hw⟩ := hall _ h
  exact ⟨hl, hp, fun hc => absurd hc hs, hq, hd, hm, hw⟩

theorem Lexeme.Lone.lexemes_eq {c : Char} {after : List Char} (h : Lone c after) :
    lexemes (c :: after) = ⟨punctuation c, [c]⟩ :: lexemes after := by
  refine lexemes_of_extent [] ?_
  obtain ⟨hl, hp, hc, hq, hd, hm, hw⟩ := h
  simp only [isLineEnd, Bool.or_eq_false_iff, decide_eq_false_iff_not] at hl
  have hcomment : ¬ (c = '/' ∧ after.head? = some '/') := fun h' => hc h'.1 h'.2
  simp [extent, hl.1, hl.2, hp, hcomment, hq, hd, hm, hw]

theorem lexemes_padding {chars after : List Char} (hne : chars ≠ []) (h : ∀ c ∈ chars, isPadding c)
    (hafter : ∀ c ∈ after.head?, isPadding c = false) :
    lexemes (chars ++ after) = ⟨.whitespace, chars⟩ :: lexemes after := by
  obtain ⟨c, cs, rfl⟩ := List.exists_cons_of_ne_nil hne
  refine lexemes_of_extent cs ?_
  have hc : isPadding c := h c (by simp)
  have hn : c ≠ '\n' := ne_of_class hc (by decide)
  have hr : c ≠ '\r' := ne_of_class hc (by decide)
  rw [extent, if_neg hn, if_neg hr, if_pos hc, run_of_head (fun d hd => h d (by simp [hd])) hafter]

/-- A quote that is not closed lasts up to the end of the line. -/
theorem lexemes_unclosed {body after : List Char} (h : ∀ c ∈ body, c ≠ '"' ∧ isLineEnd c = false)
    (hend : AtLineEnd after) :
    lexemes ('"' :: (body ++ after)) = ⟨.string, '"' :: body⟩ :: lexemes after := by
  refine lexemes_of_extent body ?_
  rw [extent_quote]
  congr 1
  induction body with
  | nil =>
    cases after with
    | nil => rfl
    | cons c after =>
      have hc : isLineEnd c := hend c rfl
      have hq : c ≠ '"' := ne_of_class hc (by decide)
      rw [List.nil_append, quotedRest, if_neg hq, if_pos hc, List.length_nil]
  | cons c body ih =>
    obtain ⟨hq, hl⟩ := h c (by simp)
    rw [List.cons_append, quotedRest, if_neg hq, if_neg (by simp [hl]),
      ih fun d hd => h d (by simp [hd]), List.length_cons]
    omega

theorem exists_openedBy {n : Nat} (h : 2 ≤ n) : ∃ kind, OpenedBy n kind := by
  match n, h with
  | 2, _ => exact ⟨_, .note⟩
  | 3, _ => exact ⟨_, .headerDoc⟩
  | n + 4, _ => exact ⟨_, .configDoc (by omega)⟩

theorem OpenedBy.commentKind_eq {chars : List Char} {kind : CommentKind}
    (h : OpenedBy (chars.takeWhile (· = '/')).length kind) :
    commentKind ⟨.comment, chars⟩ = some kind := by
  change OpenedBy (run (· = '/') chars) kind at h
  rw [commentKind, if_pos rfl]
  dsimp only
  generalize run (· = '/') chars = n at h ⊢
  cases h with
  | note | headerDoc => rfl
  | configDoc h =>
    obtain ⟨m, rfl⟩ := Nat.exists_eq_add_of_le' h
    rfl

/-! ### The grammar and the cutting of a text -/

/-- What keeps to the grammar at the front of a text is cut off. -/
theorem Lexical.lexemes_eq {t : TokenType} {b : Bool} {k : Option CommentKind}
    {chars after : List Char} (h : Lexical t b k chars after) :
    lexemes (chars ++ after) = ⟨t, chars⟩ :: lexemes after := by
  cases h with
  | feed => exact lexemes_newline after
  | carriage h => exact lexemes_of_extent [] (by simp [extent, h])
  | carriageFeed => exact lexemes_of_extent ['\n'] rfl
  | whitespace h =>
    have hafter := (longest_padding_iff h.1.1 h.1.2).mp h
    exact lexemes_padding h.1.1 h.1.2 hafter
  | comment _ hbody hend => exact lexemes_comment hbody hend
  | closed h => exact lexemes_quoted h after
  | unclosed h hend => exact lexemes_unclosed h hend
  | number h => exact lexemes_numeral h
  | minus h => exact lexemes_minus h
  | identifier h => exact lexemes_word h.1 ((longest_word_iff h.1).mp h)
  | mark h =>
    rw [List.singleton_append, (lone_of_reserved h after).lexemes_eq, (mem_reserved_iff.mp h).1]
  | unknown h hc =>
    have hunknown : punctuation _ = .unknown :=
      Decidable.byContradiction fun hne => hc _ (mem_reserved_iff.mpr ⟨rfl, hne⟩)
    rw [List.singleton_append, h.lexemes_eq, hunknown]

/-- The characters of a token tell whether it is terminated and which kind of comment it is. -/
theorem Lexical.flags {t : TokenType} {b : Bool} {k : Option CommentKind}
    {chars after : List Char} (h : Lexical t b k chars after) :
    terminated ⟨t, chars⟩ = b ∧ commentKind ⟨t, chars⟩ = k := by
  cases h with
  | comment hkind => exact ⟨rfl, hkind.commentKind_eq⟩
  | closed h => exact ⟨by simp [terminated], rfl⟩
  | unclosed h =>
    have hq : ¬ '"' ∈ _ := fun hmem => (h '"' hmem).1 rfl
    exact ⟨by simpa [terminated] using hq, rfl⟩
  | mark h =>
    have hall : ∀ p ∈ reserved, p.2 ≠ .string ∧ p.2 ≠ .comment := by decide
    obtain ⟨hs, hc⟩ := hall _ h
    exact ⟨by simp [terminated, hs], by simp [commentKind, hc]⟩
  | _ => exact ⟨rfl, rfl⟩

theorem head_drop_run (p : Char → Bool) (cs : List Char) :
    ∀ c ∈ (cs.drop (run p cs)).head?, p c = false := by
  rw [drop_run]
  exact stop_dropWhile p cs

/-- Two slashes and what follows them on the line keep to the grammar. -/
theorem lexical_slashes (ds : List Char) :
    ∃ k, Lexical .comment true k ('/' :: '/' :: ds.take (run (fun d => !isLineEnd d) ds))
      (ds.drop (run (fun d => !isLineEnd d) ds)) := by
  obtain ⟨kind, hkind⟩ := exists_openedBy (n := (('/' :: '/' :: ds.take
    (run (fun d => !isLineEnd d) ds)).takeWhile (· = '/')).length) (by simp)
  refine ⟨_, .comment hkind (fun d hd => ?_) fun d hd => ?_⟩
  · simpa using all_take_run (fun d => !isLineEnd d) ds d hd
  · simpa using head_drop_run (fun d => !isLineEnd d) ds d hd

/-- What is cut off a text keeps to the grammar. -/
theorem lexical_cut (c : Char) (cs : List Char) :
    Lexical (cut c cs).type (cut c cs).terminated (cut c cs).commentKind (cut c cs).text
      (rest c cs) := by
  suffices h : ∃ b k, Lexical (cut c cs).type b k (cut c cs).text (rest c cs) by
    obtain ⟨b, k, h⟩ := h
    obtain ⟨rfl, rfl⟩ := h.flags
    exact h
  have hnumber := longest_numeral c cs
  have h := extent_cases c cs
  unfold cut rest at hnumber ⊢
  generalize extent c cs = e at h hnumber ⊢
  cases h with
  | feed h =>
    subst h
    exact ⟨_, _, .feed⟩
  | carriage h h' =>
    subst h
    exact ⟨_, _, .carriage h'⟩
  | carriageFeed h h' =>
    subst h
    obtain ⟨ds, rfl⟩ := List.head?_eq_some_iff.mp h'
    exact ⟨_, _, .carriageFeed⟩
  | padding h =>
    have hall : ∀ d ∈ c :: cs.take (run isPadding cs), isPadding d := by
      intro d hd
      rcases List.mem_cons.mp hd with rfl | hd
      · exact h
      · exact all_take_run isPadding cs d hd
    exact ⟨_, _, .whitespace ((longest_padding_iff (by simp) hall).mpr (head_drop_run _ cs))⟩
  | comment h h' =>
    obtain ⟨ds, rfl⟩ := List.head?_eq_some_iff.mp h'
    subst h
    have hrun : run (fun d => !isLineEnd d) ('/' :: ds) = run (fun d => !isLineEnd d) ds + 1 := rfl
    obtain ⟨kind, hlexical⟩ := lexical_slashes ds
    simp only [hrun, List.take_succ_cons, List.drop_succ_cons]
    exact ⟨_, _, hlexical⟩
  | quote h =>
    subst h
    obtain ⟨body, ⟨h, hend⟩ | h, hb⟩ := take_quotedRest cs
    · simp only [h]
      exact ⟨_, _, .unclosed hb hend⟩
    · simp only [h]
      exact ⟨_, _, .closed hb⟩
  | digit h => exact ⟨_, _, .number (hnumber rfl)⟩
  | negative h h' => exact ⟨_, _, .number (hnumber rfl)⟩
  | minus h h' =>
    subst h
    refine ⟨_, _, .minus fun d hd => ?_⟩
    rw [List.drop_zero, Option.mem_def] at hd
    simpa [hd] using h'
  | word h =>
    have hword : IsWord (c :: cs.take (run isWordRest cs)) :=
      ⟨c, _, rfl, h, all_take_run isWordRest cs⟩
    exact ⟨_, _, .identifier ((longest_word_iff hword).mpr (head_drop_run _ cs))⟩
  | mark h =>
    by_cases hc : punctuation c = .unknown
    · rw [hc]
      refine ⟨_, _, .unknown h fun t ht => ?_⟩
      obtain ⟨rfl, hne⟩ := mem_reserved_iff.mp ht
      exact hne hc
    · exact ⟨_, _, .mark (mem_reserved_iff.mpr ⟨rfl, hc⟩)⟩

/-! ### A text that ends early -/

theorem mem_head?_append {α : Type} {xs ys : List α} {x : α} (h : x ∈ xs.head?) :
    x ∈ (xs ++ ys).head? := by
  obtain ⟨zs, rfl⟩ := List.head?_eq_some_iff.mp h
  rfl

/-- The longest of a class is the longest in a shorter text as well. -/
theorem Longest.of_append {P : List Char → Prop} {chars after more : List Char}
    (h : Longest P chars (after ++ more)) : Longest P chars after := by
  refine ⟨h.1, fun longer rest hafter => ?_⟩
  rw [hafter, List.append_assoc] at h
  exact h.2 longer (rest ++ more) rfl

theorem Lexeme.Lone.of_append {c : Char} {after more : List Char} (h : Lone c (after ++ more)) :
    Lone c after where
  not_lineEnd := h.not_lineEnd
  not_padding := h.not_padding
  not_comment hc hslash := h.not_comment hc (mem_head?_append hslash)
  not_quote := h.not_quote
  not_digit := h.not_digit
  not_minus := h.not_minus
  not_wordStart := h.not_wordStart

/-- A token keeps to the grammar if the text ends early behind it. -/
theorem Lexical.of_append {t : TokenType} {b : Bool} {k : Option CommentKind}
    {chars after more : List Char} (h : Lexical t b k chars (after ++ more)) :
    Lexical t b k chars after := by
  cases h with
  | feed => exact .feed
  | carriage h => exact .carriage fun hn => h (mem_head?_append hn)
  | carriageFeed => exact .carriageFeed
  | whitespace h => exact .whitespace h.of_append
  | comment hkind hbody hend => exact .comment hkind hbody fun c hc => hend c (mem_head?_append hc)
  | closed h => exact .closed h
  | unclosed h hend => exact .unclosed h fun c hc => hend c (mem_head?_append hc)
  | number h => exact .number h.of_append
  | minus h => exact .minus fun c hc => h c (mem_head?_append hc)
  | identifier h => exact .identifier h.of_append
  | mark h => exact .mark h
  | unknown h hc => exact .unknown h.of_append hc

/-- Lexemes that come first come from a text when they do with those that follow. -/
theorem Lexed.left {ls ms : List Lexeme} (h : Lexed (ls ++ ms)) : Lexed ls := by
  induction ls with
  | nil => rfl
  | cons l ls ih =>
    rw [List.cons_append] at h
    obtain ⟨c, cs, hl, hrest, -⟩ := cons_iff.mp h
    have hlexical := lexical_cut c cs
    rw [← hl, ← hrest, charsOf_append] at hlexical
    rw [Lexed, charsOf_cons, hlexical.of_append.lexemes_eq, ih h.tail]

/-! ### Tilings of a text -/

/-- The characters of the token keep to the grammar, in front of those that follow it. -/
def Token.Fits (text : List Char) (t : Token) : Prop :=
  Lexical t.type t.terminated t.commentKind (t.textIn text) (text.drop t.span.stop)

/-- The tokens cover the offsets from `pos` up to `n` without gaps, and the end of the input is the
last of them and no other. -/
structure Tiles (pos n : Nat) (ts : List Token) : Prop where
  start : ∀ t ∈ ts.head?, t.span.start = pos
  joined : ts.IsChain fun t u => u.span.start = t.span.stop
  filled : ∀ t ∈ ts.dropLast, t.span.start < t.span.stop ∧ t.type ≠ .eof
  last : ts.getLast? = some (.eof n)

theorem tiles_singleton {pos n : Nat} {t : Token} : Tiles pos n [t] ↔ t = .eof n ∧ pos = n := by
  constructor
  · intro h
    obtain rfl : t = .eof n := by simpa using h.last
    exact ⟨rfl, (h.start _ rfl).symm⟩
  · rintro ⟨rfl, rfl⟩
    exact ⟨by simp [Token.eof], .singleton _, by simp, rfl⟩

theorem tiles_cons {pos n : Nat} {t u : Token} {ts : List Token} :
    Tiles pos n (t :: u :: ts) ↔
      t.span.start = pos ∧ pos < t.span.stop ∧ t.type ≠ .eof ∧ Tiles t.span.stop n (u :: ts) := by
  constructor
  · intro h
    obtain rfl := h.start t rfl
    obtain ⟨hstop, hchain⟩ := List.isChain_cons_cons.mp h.joined
    obtain ⟨hlt, htype⟩ := h.filled t (by simp)
    refine ⟨rfl, hlt, htype, ⟨by simpa using hstop, hchain, fun v hv => ?_, ?_⟩⟩
    · exact h.filled v (by simpa using Or.inr hv)
    · simpa using h.last
  · rintro ⟨rfl, hlt, htype, h⟩
    refine ⟨by simp, List.isChain_cons_cons.mpr ⟨h.start u rfl, h.joined⟩, fun v hv => ?_, ?_⟩
    · rw [List.dropLast_cons_cons] at hv
      rcases List.mem_cons.mp hv with rfl | hv
      · exact ⟨hlt, htype⟩
      · exact h.filled v hv
    · simpa using h.last

theorem Tiles.pos_le {pos n : Nat} {ts : List Token} (h : Tiles pos n ts) : pos ≤ n := by
  induction ts generalizing pos with
  | nil => cases h.last
  | cons t ts ih =>
    cases ts with
    | nil => exact Nat.le_of_eq (tiles_singleton.mp h).2
    | cons u ts =>
      obtain ⟨-, hlt, -, h⟩ := tiles_cons.mp h
      exact Nat.le_of_lt (Nat.lt_of_lt_of_le hlt (ih h))

/-- Tokens that tile what is left of a text and keep to the grammar are those it is cut into. -/
theorem Tiles.eq_place {text : List Char} {pos : Nat} {ts : List Token}
    (h : Tiles pos text.length ts) (hfits : ∀ t ∈ ts, t.type ≠ .eof → t.Fits text) :
    ts = place pos (lexemes (text.drop pos)) ++ [.eof text.length] := by
  induction ts generalizing pos with
  | nil => cases h.last
  | cons t ts ih =>
    cases ts with
    | nil =>
      obtain ⟨rfl, rfl⟩ := tiles_singleton.mp h
      simp [place]
    | cons u ts =>
      obtain ⟨rfl, hlt, htype, h⟩ := tiles_cons.mp h
      have hle : t.span.stop ≤ text.length := h.pos_le
      have hfit : t.Fits text := hfits t (by simp) htype
      obtain ⟨hterm, hkind⟩ := Lexical.flags hfit
      -- the token and what follows it are what is left of the text
      have hsplit : text.drop t.span.start = t.textIn text ++ text.drop t.span.stop := by
        rw [Token.textIn, ← List.drop_append_of_le_length (by rw [List.length_take]; omega),
          List.take_append_drop]
      have hwidth : (t.textIn text).length = t.span.stop - t.span.start := by
        rw [Token.textIn, List.length_drop, List.length_take, Nat.min_eq_left hle]
      rw [ih h fun v hv => hfits v (by simp [hv]), hsplit, hfit.lexemes_eq, place, Lexeme.width,
        hwidth, Nat.add_sub_cancel' (Nat.le_of_lt hlt), List.cons_append]
      congr 1
      rw [Lexeme.tokenAt, Lexeme.width, hwidth, Nat.add_sub_cancel' (Nat.le_of_lt hlt), hterm,
        hkind]

theorem tiles_place (pos : Nat) {ls : List Lexeme} (h : Lexed ls) :
    Tiles pos (pos + (charsOf ls).length) (place pos ls ++ [.eof (pos + (charsOf ls).length)]) := by
  induction ls generalizing pos with
  | nil => exact tiles_singleton.mpr ⟨rfl, rfl⟩
  | cons l ls ih =>
    have hshape : l.Shaped := h.shaped List.mem_cons_self
    have hpos : 0 < l.width := List.length_pos_iff.mpr hshape.text_ne_nil
    have htail := ih (pos + l.width) h.tail
    rw [charsOf_cons, List.length_append, ← Nat.add_assoc]
    cases hts : place (pos + l.width) ls ++ [Token.eof (pos + l.width + (charsOf ls).length)] with
    | nil => simp at hts
    | cons u ts =>
      rw [hts] at htail
      rw [place, List.cons_append, show pos + l.text.length = pos + l.width from rfl, hts]
      exact tiles_cons.mpr ⟨rfl, Nat.lt_add_of_pos_right hpos, hshape.type_ne_eof, htail⟩

theorem fits_of_mem {text : List Char} {t : Token} (h : t ∈ place 0 (lexemes text)) :
    t.Fits text := by
  obtain ⟨w, l, v, hl, rfl⟩ := mem_place_iff.mp h
  obtain ⟨hchars, hafter⟩ := textIn_tokenAt hl
  have hlexed : Lexed (l :: v) := (hl ▸ lexed_lexemes text : Lexed (w ++ l :: v)).right
  obtain ⟨c, cs, rfl, hrest, -⟩ := Lexed.cons_iff.mp hlexed
  rw [Nat.zero_add, Token.Fits, hchars, hafter, hrest]
  exact lexical_cut c cs

/-- **Tokenizing computes the lexical grammar.**  The tokens of a text are the only tokens that
tile the text, with the end of the input at its end, and keep to the grammar. -/
theorem eq_tokenize_iff (text : List Char) (ts : List Token) :
    ts = tokenize text ↔
      Tiles 0 text.length ts ∧ ∀ t ∈ ts, t.type ≠ .eof → t.Fits text := by
  constructor
  · rintro rfl
    refine ⟨?_, fun t ht htype => ?_⟩
    · simpa [tokenize, charsOf_lexemes] using tiles_place 0 (lexed_lexemes text)
    · rcases List.mem_append.mp ht with ht | ht
      · exact fits_of_mem ht
      · obtain rfl := List.mem_singleton.mp ht
        exact absurd rfl htype
  · rintro ⟨h, hfits⟩
    exact h.eq_place hfits

end SeedHeader
