/-!
# Keywords

Wherever a word decides how reading goes on, one enumeration lists the words that are possible.
A word is matched without regard to the case of its ASCII letters; a word with a character beyond
ASCII is no keyword.
-/

namespace SeedHeader

/-- An enumeration whose members are written as words. -/
class Worded (α : Type) where
  /-- The name of the enumeration. -/
  title : String
  /-- The members in their order. -/
  members : List α
  word : α → String
  mem_members : ∀ a, a ∈ members
  word_nodup : (members.map word).Nodup

namespace Worded

variable {α : Type} [Worded α]

/-- The name under which a member is listed: its word in capitals. -/
def name (a : α) : String := (word a).map Char.toUpper

/-- The words and what they stand for. -/
def table (α : Type) [Worded α] : List (String × α) :=
  members.map fun a => (word a, a)

end Worded

/-- What the word `w` stands for in a table, to the letter. -/
def lookup? {α : Type} (table : List (String × α)) (w : String) : Option α :=
  (table.find? fun entry => entry.1 = w).map (·.2)

/-- What a word of the text stands for in a table, without regard to case. -/
def keyword? {α : Type} (table : List (String × α)) (cs : List Char) : Option α :=
  lookup? table (String.ofList (cs.map Char.toLower))

/-- The words for the truth values. -/
def booleans : List (String × Bool) := [("true", true), ("false", false)]

/-- The words that open a statement. -/
inductive StatementWord where
  | setup
deriving DecidableEq, Repr

namespace StatementWord

def all : List StatementWord :=
  [setup]

def word : StatementWord → String
  | .setup => "setup"

instance : Worded StatementWord :=
  ⟨"ExpressionIdentKind", all, word, fun a => by cases a; decide, by decide⟩

end StatementWord

/-- What a setup statement declares. -/
inductive SetupKind where
  | timer
deriving DecidableEq, Repr

namespace SetupKind

def all : List SetupKind :=
  [timer]

def word : SetupKind → String
  | .timer => "timer"

instance : Worded SetupKind :=
  ⟨"SetupKind", all, word, fun a => by cases a; decide, by decide⟩

end SetupKind

/-- What may follow a dollar sign. -/
inductive Interpolation where
  | param
deriving DecidableEq, Repr

namespace Interpolation

def all : List Interpolation :=
  [param]

def word : Interpolation → String
  | .param => "param"

instance : Worded Interpolation :=
  ⟨"InterpolationCommand", all, word, fun a => by cases a; decide, by decide⟩

end Interpolation

/-- Where an icon is taken from. -/
inductive IconKind where
  | shard | spell | opher | lupo | grom | tuley | file
deriving DecidableEq, Repr

namespace IconKind

def all : List IconKind :=
  [shard, spell, opher, lupo, grom, tuley, file]

def word : IconKind → String
  | .shard => "shard"
  | .spell => "spell"
  | .opher => "opher"
  | .lupo  => "lupo"
  | .grom  => "grom"
  | .tuley => "tuley"
  | .file  => "file"

instance : Worded IconKind :=
  ⟨"IconKind", all, word, fun a => by cases a <;> decide, by decide⟩

end IconKind

/-- The types of uber states. -/
inductive UberType where
  | bool | teleporter | byte | int | float
deriving DecidableEq, Repr

namespace UberType

def all : List UberType :=
  [bool, teleporter, byte, int, float]

def word : UberType → String
  | .bool       => "bool"
  | .teleporter => "teleporter"
  | .byte       => "byte"
  | .int        => "int"
  | .float      => "float"

instance : Worded UberType :=
  ⟨"UberType", all, word, fun a => by cases a <;> decide, by decide⟩

end UberType

/-- The types of parameters. -/
inductive ParameterType where
  | bool | int | float | string
deriving DecidableEq, Repr

namespace ParameterType

def all : List ParameterType :=
  [bool, int, float, string]

def word : ParameterType → String
  | .bool   => "bool"
  | .int    => "int"
  | .float  => "float"
  | .string => "string"

instance : Worded ParameterType :=
  ⟨"ParameterType", all, word, fun a => by cases a <;> decide, by decide⟩

end ParameterType

/-- The words that open a command. -/
inductive CommandWord where
  | includeHeader | excludeHeader | add | remove | name | display | description | price | icon
  | parameter | setState | ifState | endif
deriving DecidableEq, Repr

namespace CommandWord

def all : List CommandWord :=
  [includeHeader, excludeHeader, add, remove, name, display, description, price, icon, parameter,
   setState, ifState, endif]

def word : CommandWord → String
  | .includeHeader => "include"
  | .excludeHeader => "exclude"
  | .add           => "add"
  | .remove        => "remove"
  | .name          => "name"
  | .display       => "display"
  | .description   => "description"
  | .price         => "price"
  | .icon          => "icon"
  | .parameter     => "parameter"
  | .setState      => "set"
  | .ifState       => "if"
  | .endif         => "endif"

instance : Worded CommandWord :=
  ⟨"HeaderCommandKind", all, word, fun a => by cases a <;> decide, by decide⟩

end CommandWord

end SeedHeader
