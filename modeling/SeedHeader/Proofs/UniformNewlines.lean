import SeedHeader.Text.Utf8
import SeedHeader.Proofs.LexicalGrammar
import SeedHeader.Proofs.Relocation

/-!
# Proofs — Tokens of a text with uniform newlines

Making the newlines of a text uniform changes the characters of its newline tokens and no other
token: a text and the uniform one are cut in the same way (`lexemes_unifyNewlines`).  The tokens of
the uniform text stand where those of the text do, less one character for each pair of carriage
return and line feed before them (`tokenize_unifyNewlines`).

That a token ends where it does is a matter of the lexical grammar, which looks at what follows the
token only up to the next line end; so it is kept when line ends are replaced
(`Lexical.unifyNewlines`).
-/

namespace SeedHeader

open Lexeme

namespace Text

/-! ### Uniform texts -/

theorem unifyNewlines_cons {c : Char} (h : c ≠ '\r') (cs : List Char) :
    unifyNewlines (c :: cs) = c :: unifyNewlines cs := by
  rw [unifyNewlines]
  · rintro _ rfl
    exact absurd rfl h
  · exact h

theorem unifyNewlines_carriage {cs : List Char} (h : cs.head? ≠ some '\n') :
    unifyNewlines ('\r' :: cs) = '\n' :: unifyNewlines cs := by
  rw [unifyNewlines]
  rintro ds rfl
  exact h rfl

/-- Characters that end no line are kept. -/
theorem unifyNewlines_append {cs : List Char} (h : ∀ c ∈ cs, isLineEnd c = false) (k : List Char) :
    unifyNewlines (cs ++ k) = cs ++ unifyNewlines k := by
  induction cs with
  | nil => rfl
  | cons c cs ih =>
    have hc : c ≠ '\r' := by
      rintro rfl
      exact absurd (h '\r' (by simp)) (by decide)
    rw [List.cons_append, unifyNewlines_cons hc, ih fun d hd => h d (by simp [hd]),
      List.cons_append]

/-- A text starts with a line end exactly if the uniform text does, and otherwise with the same
character. -/
theorem head?_unifyNewlines (cs : List Char) :
    (unifyNewlines cs).head? = cs.head?.map fun c => if c = '\r' then '\n' else c := by
  fun_cases unifyNewlines cs with
  | case1 => rfl
  | case2 => rfl
  | case3 => rfl
  | case4 c cs _ hc =>
    rw [List.head?_cons, List.head?_cons, Option.map_some, if_neg hc]

/-- A uniform text without carriage returns is the text. -/
theorem unifyNewlines_eq_self {cs : List Char} (h : '\r' ∉ cs) : unifyNewlines cs = cs := by
  induction cs with
  | nil => rfl
  | cons c cs ih =>
    rw [List.mem_cons, not_or] at h
    rw [unifyNewlines_cons (Ne.symm h.1), ih h.2]

/-- What stands before the first line end of the uniform text stands there in the text. -/
theorem exists_append_of_unifyNewlines {cs more rest : List Char}
    (h : unifyNewlines cs = more ++ rest) (hmore : ∀ c ∈ more, isLineEnd c = false) :
    ∃ k, cs = more ++ k := by
  induction more generalizing cs with
  | nil => exact ⟨cs, rfl⟩
  | cons d more ih =>
    cases cs with
    | nil => cases h
    | cons c cs =>
      have hhead := head?_unifyNewlines (c :: cs)
      rw [h, List.cons_append, List.head?_cons, List.head?_cons, Option.map_some,
        Option.some.injEq] at hhead
      have hd : isLineEnd d = false := hmore d (by simp)
      by_cases hc : c = '\r'
      · rw [hhead, if_pos hc] at hd
        cases hd
      · rw [if_neg hc] at hhead
        subst hhead
        rw [unifyNewlines_cons hc, List.cons_append] at h
        obtain ⟨k, rfl⟩ := ih (List.cons.inj h).2 fun e he => hmore e (by simp [he])
        exact ⟨k, rfl⟩

/-! ### Offsets -/

/-- The number of line feeds that follow a carriage return. -/
def carriageFeeds : List Char → Nat
  | [] => 0
  | '\r' :: '\n' :: cs => carriageFeeds cs + 1
  | _ :: cs => carriageFeeds cs

/-- Where an offset of a text is in the uniform text: each pair of carriage return and line feed
that ends there or before has become one character. -/
def uniformOffset (text : List Char) (n : Nat) : Nat := n - carriageFeeds (text.take n)

theorem length_unifyNewlines (cs : List Char) :
    (unifyNewlines cs).length + carriageFeeds cs = cs.length := by
  fun_induction unifyNewlines cs with
  | case1 => rfl
  | case2 cs ih =>
    simp only [carriageFeeds, List.length_cons]
    omega
  | case3 cs h ih =>
    rw [carriageFeeds, List.length_cons, List.length_cons]
    · omega
    · exact fun ds _ => h ds
  | case4 c cs h h' ih =>
    rw [carriageFeeds, List.length_cons, List.length_cons]
    · omega
    · exact h

end Text

open Text

/-! ### Uniform lexemes -/

/-- The lexeme, with a line feed for every newline. -/
def Lexeme.uniform (l : Lexeme) : Lexeme := if l.type = .newline then ⟨.newline, ['\n']⟩ else l

namespace Lexeme

theorem uniform_of_newline {l : Lexeme} (h : l.type = .newline) :
    l.uniform = ⟨.newline, ['\n']⟩ := if_pos h

theorem uniform_of_ne {l : Lexeme} (h : l.type ≠ .newline) : l.uniform = l := if_neg h

@[simp] theorem type_uniform (l : Lexeme) : l.uniform.type = l.type := by
  by_cases h : l.type = .newline
  · rw [uniform_of_newline h, h]
  · rw [uniform_of_ne h]

theorem terminated_uniform (l : Lexeme) : l.uniform.terminated = l.terminated := by
  by_cases h : l.type = .newline
  · simp [terminated, h]
  · rw [uniform_of_ne h]

theorem commentKind_uniform (l : Lexeme) : l.uniform.commentKind = l.commentKind := by
  by_cases h : l.type = .newline
  · simp [commentKind, h]
  · rw [uniform_of_ne h]

/-- A lexeme is made uniform by itself, unless it is a carriage return in front of a line feed. -/
theorem Shaped.unifyNewlines {l : Lexeme} (h : l.Shaped) {k : List Char}
    (hk : l.text = ['\r'] → k.head? ≠ some '\n') :
    unifyNewlines (l.text ++ k) = l.uniform.text ++ unifyNewlines k := by
  by_cases hl : l.type = .newline
  · rw [uniform_of_newline hl]
    obtain ⟨t, cs⟩ := l
    obtain rfl : t = .newline := hl
    rcases h.newline_text with rfl | rfl | rfl
    · exact unifyNewlines_cons (by decide) k
    · exact unifyNewlines_carriage (hk rfl)
    · rfl
  · rw [uniform_of_ne hl, unifyNewlines_append (h.not_lineEnd hl)]

end Lexeme

/-- The characters of the first lexemes of a text, made uniform. -/
theorem Lexed.unifyNewlines_charsOf {w v : List Lexeme} (h : Lexed (w ++ v)) :
    unifyNewlines (charsOf w) = charsOf (w.map uniform) := by
  induction w with
  | nil => rfl
  | cons l w ih =>
    have hk : l.text = ['\r'] → (charsOf w).head? ≠ some '\n' := by
      intro hl hn
      refine h.head?_ne hl ?_
      change (charsOf (w ++ v)).head? = some '\n'
      rw [charsOf_append, List.head?_append, hn]
      rfl
    rw [charsOf_cons, (h.shaped (by simp)).unifyNewlines hk, ih h.tail, List.map_cons, charsOf_cons]

/-! ### The uniform text is cut in the same way -/

theorem Longest.unifyNewlines {P : List Char → Prop} {chars after : List Char}
    (h : Longest P chars after) (hP : ∀ cs, P cs → ∀ c ∈ cs, isLineEnd c = false) :
    Longest P chars (unifyNewlines after) := by
  refine ⟨h.1, fun more rest hafter hne hlonger => ?_⟩
  -- what would make the token longer holds no line end, so it stands in the text itself
  have hmore : ∀ c ∈ more, isLineEnd c = false := fun c hc => hP _ hlonger c (by simp [hc])
  obtain ⟨k, rfl⟩ := exists_append_of_unifyNewlines hafter hmore
  exact h.2 more k rfl hne hlonger

theorem AtLineEnd.unifyNewlines {after : List Char} (h : AtLineEnd after) :
    AtLineEnd (unifyNewlines after) := by
  intro c hc
  rw [head?_unifyNewlines, Option.mem_def, Option.map_eq_some_iff] at hc
  obtain ⟨d, hd, rfl⟩ := hc
  split
  · rfl
  · exact h d hd

/-- A character that does not end a line stands at the front of the uniform text only if it stands
at the front of the text. -/
theorem head?_of_unifyNewlines {c : Char} {after : List Char} (hc : isLineEnd c = false)
    (h : (unifyNewlines after).head? = some c) : after.head? = some c := by
  rw [head?_unifyNewlines, Option.map_eq_some_iff] at h
  obtain ⟨d, hd, rfl⟩ := h
  split at hc
  · cases hc
  · rw [hd, if_neg ‹_›]

/-- A token that is no newline keeps to the grammar when what follows it is made uniform. -/
theorem Lexical.unifyNewlines {t : TokenType} {b : Bool} {k : Option CommentKind}
    {chars after : List Char} (h : Lexical t b k chars after) (ht : t ≠ .newline) :
    Lexical t b k chars (unifyNewlines after) := by
  cases h with
  | feed | carriage | carriageFeed => exact absurd rfl ht
  | whitespace h =>
    exact .whitespace (h.unifyNewlines fun _ hcs c hc => (plain_of_padding (hcs.2 c hc)).1)
  | comment hkind hbody hend => exact .comment hkind hbody hend.unifyNewlines
  | closed h => exact .closed h
  | unclosed h hend => exact .unclosed h hend.unifyNewlines
  | number h => exact .number (h.unifyNewlines fun _ hcs c hc => (hcs.plain c hc).1)
  | minus h =>
    refine .minus fun c hc => ?_
    by_cases hl : isLineEnd c
    · exact isDigit_lineEnd hl
    · exact h c (head?_of_unifyNewlines (by simpa using hl) hc)
  | identifier h => exact .identifier (h.unifyNewlines fun _ hcs c hc => (hcs.plain c hc).1)
  | mark h => exact .mark h
  | unknown h hc =>
    exact .unknown { h with
      not_comment := fun hs hn => h.not_comment hs (head?_of_unifyNewlines rfl hn) } hc

/-- **The uniform text is cut in the same way.**  Only newlines have other characters. -/
theorem lexemes_unifyNewlines (text : List Char) :
    lexemes (unifyNewlines text) = (lexemes text).map uniform := by
  induction text using lexemes_induction with
  | nil => rfl
  | cons c cs ih =>
    have hcut : Lexical _ _ _ (cut c cs).text (rest c cs) := lexical_cut c cs
    have hk : (cut c cs).text = ['\r'] → (rest c cs).head? ≠ some '\n' := by
      intro hl
      have hlexed : Lexed (cut c cs :: lexemes (rest c cs)) := by
        rw [← lexemes_cons]
        exact lexed_lexemes _
      have hne := hlexed.head?_ne hl
      rwa [charsOf_lexemes] at hne
    -- the first lexeme is cut off the uniform text as well, and what is left is uniform
    rw [lexemes_cons, List.map_cons, ← ih]
    nth_rewrite 1 [← cut_append_rest c cs]
    rw [(shaped_cut c cs).unifyNewlines hk]
    by_cases ht : (cut c cs).type = .newline
    · rw [uniform_of_newline ht]
      exact lexemes_newline _
    · rw [uniform_of_ne ht]
      exact (hcut.unifyNewlines ht).lexemes_eq

/-! ### Where the tokens of the uniform text stand -/

/-- The lexemes before a token of a text and those before the same token of the uniform text. -/
theorem uniformOffset_charsOf {text : List Char} {w v : List Lexeme} (h : lexemes text = w ++ v) :
    uniformOffset text (charsOf w).length = (charsOf (w.map uniform)).length := by
  have htext : text = charsOf w ++ charsOf v := by rw [← charsOf_append, ← h, charsOf_lexemes]
  have hlexed : Lexed (w ++ v) := h ▸ lexed_lexemes text
  have hlen := length_unifyNewlines (charsOf w)
  rw [hlexed.unifyNewlines_charsOf] at hlen
  rw [uniformOffset, htext, List.take_left]
  omega

/-- The token at another span. -/
def Token.move (f : Span → Span) (t : Token) : Token :=
  ⟨t.type, f t.span, t.terminated, t.commentKind⟩

theorem place_uniform {text : List Char} {w v : List Lexeme} (h : lexemes text = w ++ v) :
    place (charsOf (w.map uniform)).length (v.map uniform) =
      (place (charsOf w).length v).map (Token.move (Span.map (uniformOffset text))) := by
  induction v generalizing w with
  | nil => rfl
  | cons l v ih =>
    have hnext : lexemes text = (w ++ [l]) ++ v := by
      rw [h, List.append_assoc, List.singleton_append]
    have hstart := uniformOffset_charsOf h
    have hstop := uniformOffset_charsOf hnext
    have hrest := ih hnext
    simp only [List.map_append, List.map_cons, List.map_nil, charsOf_append, charsOf_cons,
      charsOf_nil, List.append_nil, List.length_append] at hstop hrest
    rw [List.map_cons, place, place, List.map_cons, Lexeme.width, Lexeme.width, hrest]
    congr 1
    simp only [Lexeme.tokenAt, Token.move, Span.map, Lexeme.width, hstart, hstop, type_uniform,
      terminated_uniform, commentKind_uniform]

/-- **The tokens of the uniform text are those of the text**, less one character for each pair of
carriage return and line feed before them. -/
theorem tokenize_unifyNewlines (text : List Char) :
    tokenize (unifyNewlines text) =
      (tokenize text).map (Token.move (Span.map (uniformOffset text))) := by
  have hplace := place_uniform (List.nil_append (lexemes text)).symm
  have hlen : uniformOffset text text.length = (unifyNewlines text).length := by
    have hall := length_unifyNewlines text
    rw [uniformOffset, List.take_length]
    omega
  have heof : Token.move (Span.map (uniformOffset text)) (.eof text.length) =
      .eof (unifyNewlines text).length := by
    simp only [Token.move, Span.map, Token.eof, hlen]
  rw [tokenize, lexemes_unifyNewlines, tokenize, List.map_append, List.map_singleton, heof]
  exact congrArg (· ++ _) hplace

end SeedHeader
