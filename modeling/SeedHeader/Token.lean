import SeedHeader.Span

/-!
# Tokens

A header is a sequence of tokens that covers its text without gaps.  A token has a type and a
span; a string also tells whether its closing quote was found, and a comment which of the three
kinds it is.
-/

namespace SeedHeader

/-- The classes of tokens. -/
inductive TokenType where
  | identifier | number | string
  | whitespace | newline | comment
  | separator | eq | colon | pound | bang | dollar | openParen | closeParen | minus | dot
  | unknown | eof
deriving DecidableEq, Repr

namespace TokenType

/-- Every token type, in the order of their numbers. -/
def all : List TokenType :=
  [identifier, number, string, whitespace, newline, comment, separator, eq, colon, pound, bang,
   dollar, openParen, closeParen, minus, dot, unknown, eof]

/-- The name under which a token type is listed. -/
def name : TokenType → String
  | identifier => "IDENTIFIER"
  | number     => "NUMBER"
  | string     => "STRING"
  | whitespace => "WHITESPACE"
  | newline    => "NEWLINE"
  | comment    => "COMMENT"
  | separator  => "SEPARATOR"
  | eq         => "EQ"
  | colon      => "COLON"
  | pound      => "POUND"
  | bang       => "BANG"
  | dollar     => "DOLLAR"
  | openParen  => "OPEN_PAREN"
  | closeParen => "CLOSE_PAREN"
  | minus      => "MINUS"
  | dot        => "DOT"
  | unknown    => "UNKNOWN"
  | eof        => "EOF"

/-- The number of a token type, counted from one. -/
def ordinal (t : TokenType) : Nat := all.idxOf t + 1

/-- What a diagnostic calls a token of this type. -/
def label : TokenType → String
  | identifier => "identifier"
  | number     => "number"
  | string     => "string"
  | whitespace => "whitespace"
  | newline    => "newline"
  | comment    => "comment"
  | separator  => "'|'"
  | eq         => "'='"
  | colon      => "':'"
  | pound      => "'#'"
  | bang       => "'!'"
  | dollar     => "'$'"
  | openParen  => "'('"
  | closeParen => "')'"
  | minus      => "'-'"
  | dot        => "'.'"
  | unknown    => "unknown"
  | eof        => "end of input"

end TokenType

/-- The kinds of comments: a note `//` is for the reader of the header, `///` documents the header
and `////` its configuration. -/
inductive CommentKind where
  | note | headerDoc | configDoc
deriving DecidableEq, Repr

namespace CommentKind

def all : List CommentKind := [note, headerDoc, configDoc]

/-- The number of slashes that open a comment of this kind. -/
def markerLength : CommentKind → Nat
  | note      => 2
  | headerDoc => 3
  | configDoc => 4

/-- The name under which a comment kind is listed. -/
def name : CommentKind → String
  | note      => "NOTE"
  | headerDoc => "HEADER_DOC"
  | configDoc => "CONFIG_DOC"

end CommentKind

/-- A token: its type, the span it covers, whether it is complete (only a string may lack its
closing quote) and, for a comment, its kind. -/
structure Token (ι : Type := Nat) where
  type : TokenType
  span : Span ι
  terminated : Bool := true
  commentKind : Option CommentKind := none
deriving DecidableEq, Repr

namespace Token

variable {ι : Type}

/-- The token with its offsets as integers. -/
def toInt (t : Token) : Token Int := ⟨t.type, t.span, t.terminated, t.commentKind⟩

/-- The remark that follows the span of a token when the token is shown. -/
def remark (t : Token ι) : String :=
  if t.type = .string && !t.terminated then ", unterminated"
  else match t.commentKind with
    | some k => ", " ++ k.name
    | none   => ""

/-- The text that shows a token. -/
def describe [ToString ι] (t : Token ι) : String :=
  s!"Token({t.type.name}, {t.span.start}..{t.span.stop}{t.remark})"

end Token

end SeedHeader
