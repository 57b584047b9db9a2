import SeedHeader.Text.Utf8
import SeedHeader.Log

/-!
# Header files

A file is decoded, its line ends are made uniform, and its text is read.  A file that is not there
is an error of its own, found after the opening is recorded.
-/

namespace SeedHeader

/-- There is no file of this name. -/
structure MissingFile where
  name : String
deriving DecidableEq, Repr

/-- The wording of the error. -/
def MissingFile.message (e : MissingFile) : String :=
  "[Errno 2] No such file or directory: " ++ Text.quote e.name

/-- The text that the bytes of a file stand for. -/
def fileText (bytes : List UInt8) : List Char := Text.unifyNewlines (Text.decodeUtf8 bytes)

/-- The text of the file with the given name and bytes. -/
def openFile (name : String) : Option (List UInt8) → Except MissingFile (List Char)
  | some bytes => .ok (fileText bytes)
  | none       => .error ⟨name⟩

/-- What is recorded while a file is read. -/
def fileEvents (name : String) (bytes : Option (List UInt8)) : List Event :=
  .opening name :: match openFile name bytes with
    | .ok text => (Reading.ofText text).events text name
    | .error _ => []

end SeedHeader
