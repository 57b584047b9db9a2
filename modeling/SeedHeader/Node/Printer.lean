import SeedHeader.Node.Basic

/-!
# Node — Printing

`describe` shows a datum as an expression that builds it, `display` as it appears in a running
text.  They differ on texts, which are quoted in the first only, on members of enumerations, and
on uber identifiers, which appear as `group|id`.
-/

namespace SeedHeader

/-- The words for the truth values. -/
def boolText (b : Bool) : String := if b then "True" else "False"

namespace Atom

/-- An atom as an expression. -/
def describe : Atom → String
  | null         => "None"
  | bool b       => boolText b
  | int i        => toString i
  | float x      => x.toText
  | text s       => Text.quote s
  | member m     => m.describe
  | token t      => t.describe
  | diagnostic d => d.describe

/-- An atom in a running text. -/
def display : Atom → String
  | text s       => s
  | member m     => m.display
  | diagnostic d => d.message
  | a            => a.describe

end Atom

namespace Datum

/-- The names of the fields with the texts of what they hold. -/
def assignments (kind : NodeKind) (texts : List String) : String :=
  ", ".intercalate ((kind.fields.zip texts).map fun (field, text) => field.1 ++ "=" ++ text)

mutual

/-- A datum as an expression. -/
def describe : Datum → String
  | atom a => a.describe
  | node kind _ fields => kind.name ++ "(" ++ assignments kind (describeAll fields) ++ ")"

/-- Data as expressions. -/
def describeAll : List Datum → List String
  | [] => []
  | x :: xs => describe x :: describeAll xs

end

/-- A list of data as an expression. -/
def describeList (xs : List Datum) : String := "[" ++ ", ".intercalate (describeAll xs) ++ "]"

/-- A datum in a running text. -/
def display : Datum → String
  | atom a => a.display
  | node .uberIdentifier _ [group, id] => display group ++ "|" ++ display id
  | d => d.describe

end Datum

end SeedHeader
