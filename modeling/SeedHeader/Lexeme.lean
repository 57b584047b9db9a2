import SeedHeader.Text.Digit
import SeedHeader.Text.Letter
import SeedHeader.Text.Numeric
import SeedHeader.Token

/-!
# Lexemes

A lexeme is a token without its place: a type and the characters it is made of.  `cut` takes the
first lexeme off a nonempty text and `lexemes` cuts a whole text; the characters of the lexemes,
put together, are the text again (`charsOf_lexemes`).  Whether a string is closed and what kind
a comment is can be read off the characters.

`place` gives lexemes their spans, and `tokenize` adds the end of the input.
-/

namespace SeedHeader

open Text

/-- A token type and the characters of the token. -/
structure Lexeme where
  type : TokenType
  text : List Char
deriving DecidableEq, Repr

namespace Lexeme

/-! ### Classes of characters -/

/-- The characters that separate words within a line. -/
def isPadding (c : Char) : Bool := c = ' ' || c = '\t'

/-- The characters that end a line. -/
def isLineEnd (c : Char) : Bool := c = '\n' || c = '\r'

/-- The characters a word may start with. -/
def isWordStart (c : Char) : Bool := isLetter c || c = '_'

/-- The characters a word may go on with. -/
def isWordRest (c : Char) : Bool := isLetter c || isNumeric c || c = '_'

/-- The token type of a character that is a token by itself. -/
def punctuation : Char → TokenType
  | '|' => .separator
  | '=' => .eq
  | ':' => .colon
  | '#' => .pound
  | '!' => .bang
  | '$' => .dollar
  | '(' => .openParen
  | ')' => .closeParen
  | '.' => .dot
  | _   => .unknown

/-! ### The extent of a token -/

/-- The number of characters at the front of the text that satisfy `p`. -/
def run (p : Char → Bool) (cs : List Char) : Nat := (cs.takeWhile p).length

/-- The length of a decimal part: a point and at least one digit. -/
def fraction : List Char → Nat
  | '.' :: d :: cs => if isDigit d then 2 + run isDigit cs else 0
  | _ => 0

/-- The length of a run of digits, with the decimal part that may follow it. -/
def digits (cs : List Char) : Nat :=
  let n := run isDigit cs
  n + fraction (cs.drop n)

/-- The length of what follows an opening quote: up to and with the closing quote, or up to the
end of the line. -/
def quotedRest : List Char → Nat
  | [] => 0
  | c :: cs => if c = '"' then 1 else if isLineEnd c then 0 else 1 + quotedRest cs

/-- The type of the first token of the text `c :: cs`, and the number of characters of `cs` that
belong to it. -/
def extent (c : Char) (cs : List Char) : TokenType × Nat :=
  if c = '\n' then (.newline, 0)
  else if c = '\r' then (.newline, if cs.head? = some '\n' then 1 else 0)
  else if isPadding c then (.whitespace, run isPadding cs)
  else if c = '/' && cs.head? = some '/' then (.comment, run (fun d => !isLineEnd d) cs)
  else if c = '"' then (.string, quotedRest cs)
  else if isDigit c then (.number, digits cs)
  else if c = '-' then
    if cs.head?.any isDigit then (.number, digits cs) else (.minus, 0)
  else if isWordStart c then (.identifier, run isWordRest cs)
  else (punctuation c, 0)

/-- The first lexeme of the text `c :: cs`. -/
def cut (c : Char) (cs : List Char) : Lexeme :=
  ⟨(extent c cs).1, c :: cs.take (extent c cs).2⟩

/-- What follows the first lexeme of the text `c :: cs`. -/
def rest (c : Char) (cs : List Char) : List Char :=
  cs.drop (extent c cs).2

theorem cut_append_rest (c : Char) (cs : List Char) : (cut c cs).text ++ rest c cs = c :: cs := by
  simp [cut, rest]

/-! ### What the characters tell -/

/-- The number of characters of the lexeme. -/
def width (l : Lexeme) : Nat := l.text.length

/-- Only a string can be incomplete: it is when no quote follows the opening one. -/
def terminated (l : Lexeme) : Bool :=
  l.type ≠ .string || l.text.tail.contains '"'

/-- The kind of a comment is decided by the slashes that open it. -/
def commentKind (l : Lexeme) : Option CommentKind :=
  if l.type = .comment then
    match run (· = '/') l.text with
    | 0 | 1 | 2 => some .note
    | 3         => some .headerDoc
    | _         => some .configDoc
  else none

/-- The lexeme as a token that starts at offset `pos`. -/
def tokenAt (pos : Nat) (l : Lexeme) : Token :=
  ⟨l.type, ⟨pos, pos + l.width⟩, l.terminated, l.commentKind⟩

end Lexeme

/-- The characters of lexemes, put together. -/
def charsOf (ls : List Lexeme) : List Char := (ls.map Lexeme.text).flatten

@[simp] theorem charsOf_nil : charsOf [] = [] := rfl

@[simp] theorem charsOf_cons (l : Lexeme) (ls : List Lexeme) :
    charsOf (l :: ls) = l.text ++ charsOf ls := rfl

@[simp] theorem charsOf_append (ls ms : List Lexeme) :
    charsOf (ls ++ ms) = charsOf ls ++ charsOf ms := by
  simp [charsOf]

open Lexeme (cut extent rest)

/-- The lexemes of a text after its first `n` characters, in order. -/
def lexemesAfter : (n : Nat) → List Char → List Lexeme
  | _, []          => []
  | n + 1, _ :: cs => lexemesAfter n cs
  | 0, c :: cs     => cut c cs :: lexemesAfter (extent c cs).2 cs

/-- The lexemes of a text, in order. -/
def lexemes (text : List Char) : List Lexeme := lexemesAfter 0 text

theorem lexemesAfter_eq (n : Nat) (cs : List Char) : lexemesAfter n cs = lexemes (cs.drop n) := by
  induction cs generalizing n with
  | nil => simp [lexemes, lexemesAfter]
  | cons c cs ih =>
    cases n with
    | zero => rfl
    | succ n => simp [lexemesAfter, ih]

@[simp] theorem lexemes_nil : lexemes [] = [] := rfl

theorem lexemes_cons (c : Char) (cs : List Char) :
    lexemes (c :: cs) = cut c cs :: lexemes (rest c cs) := by
  rw [lexemes, lexemesAfter, lexemesAfter_eq]; rfl

/-- Induction on a text, a lexeme at a time. -/
theorem lexemes_induction {motive : List Char → Prop} (nil : motive [])
    (cons : ∀ c cs, motive (rest c cs) → motive (c :: cs)) (text : List Char) : motive text := by
  induction h : text.length using Nat.strongRecOn generalizing text with
  | ind n ih =>
    cases text with
    | nil => exact nil
    | cons c cs =>
      refine cons c cs (ih _ ?_ (rest c cs) rfl)
      simp only [rest, List.length_drop, ← h, List.length_cons]; omega

/-- Cutting loses nothing and changes nothing. -/
theorem charsOf_lexemes (text : List Char) : charsOf (lexemes text) = text := by
  induction text using lexemes_induction with
  | nil => rfl
  | cons c cs ih => simp [lexemes_cons, ih, Lexeme.cut_append_rest]

/-- The token at the end of a text of `n` characters. -/
def Token.eof (n : Nat) : Token := ⟨.eof, ⟨n, n⟩, true, none⟩

/-- The lexemes as tokens, the first of which starts at `pos`. -/
def place : (pos : Nat) → List Lexeme → List Token
  | _, [] => []
  | pos, l :: ls => l.tokenAt pos :: place (pos + l.width) ls

/-- The tokens of a text; the last is the end of the input, and no other is. -/
def tokenize (text : List Char) : List Token :=
  place 0 (lexemes text) ++ [.eof text.length]

/-- The token that starts at offset `n`, wherever the tokens before it may end. -/
def tokenAt (text : List Char) (n : Nat) : Token :=
  match text.drop n with
  | []      => .eof text.length
  | c :: cs => (cut c cs).tokenAt n

end SeedHeader
