import SeedHeader.Diagnostic
import SeedHeader.Game.Ability
import SeedHeader.Game.Bonus
import SeedHeader.Game.Item
import SeedHeader.Game.Place
import SeedHeader.Decode

/-!
# Node — Members of enumerations

A member of any enumeration, numbered or worded, as one type.
-/

namespace SeedHeader

/-- A member of some enumeration. -/
inductive Member where
  | numbered (enumeration name : String) (number : Nat)
  | worded (enumeration name word : String)
  | tokenType (type : TokenType)
  | commentKind (kind : CommentKind)
  | suggestion (what : Suggestion)
deriving DecidableEq, Repr

/-- The value of a member. -/
inductive MemberValue where
  | number (n : Nat)
  | word (s : String)
deriving DecidableEq, Repr

namespace Member

def ofNumbered {α : Type} [Numbered α] (a : α) : Member :=
  .numbered (Numbered.title α) (Numbered.name a) (Numbered.number a)

def ofWorded {α : Type} [Worded α] (a : α) : Member :=
  .worded (Worded.title α) (Worded.name a) (Worded.word a)

/-- The enumeration that a member belongs to. -/
def enumeration : Member → String
  | numbered e _ _ | worded e _ _ => e
  | tokenType _   => "TokenType"
  | commentKind _ => "CommentKind"
  | suggestion _  => "Suggestion"

/-- The name of a member within its enumeration. -/
def name : Member → String
  | numbered _ n _ | worded _ n _ => n
  | tokenType t   => t.name
  | commentKind k => k.name
  | suggestion s  => s.name

/-- What a member stands for. -/
def value : Member → MemberValue
  | numbered _ _ n => .number n
  | worded _ _ w   => .word w
  | tokenType t    => .number t.ordinal
  | commentKind k  => .number k.markerLength
  | suggestion s   => .word s.label

/-- What a diagnostic calls the member, if diagnostics speak of it. -/
def label? : Member → Option String
  | tokenType t  => some t.label
  | suggestion s => some s.label
  | _            => none

/-- The text that shows a member: enumeration, name and value. -/
def describe (m : Member) : String :=
  let value := match m.value with
    | .number n => toString n
    | .word w   => Text.quote w
  s!"<{m.enumeration}.{m.name}: {value}>"

/-- A member within a running text: a number as a number, a suggestion by its label, all others by
name. -/
def display : Member → String
  | numbered _ _ n => toString n
  | suggestion s   => s.label
  | m              => s!"{m.enumeration}.{m.name}"

/-! ### Enumerations by name -/

/-- The members of a numbered enumeration. -/
def allNumbered (α : Type) [Numbered α] : String × List Member :=
  (Numbered.title α, (Numbered.members : List α).map ofNumbered)

/-- The members of a worded enumeration. -/
def allWorded (α : Type) [Worded α] : String × List Member :=
  (Worded.title α, (Worded.members : List α).map ofWorded)

/-- Every enumeration with its name and its members. -/
def enumerations : List (String × List Member) :=
  [allNumbered ItemKind, allNumbered Resource, allNumbered Skill, allNumbered Shard,
   allNumbered Teleporter, allNumbered BonusItem, allNumbered BonusUpgrade, allNumbered Zone,
   allNumbered SysMessageKind, allNumbered CommandKind, allNumbered ToggleCommandKind,
   allNumbered EquipSlot,
   allWorded StatementWord, allWorded SetupKind, allWorded Interpolation, allWorded IconKind,
   allWorded UberType, allWorded ParameterType, allWorded CommandWord,
   ("TokenType", TokenType.all.map tokenType), ("CommentKind", CommentKind.all.map commentKind),
   ("Suggestion", Suggestion.all.map suggestion)]

/-- The members of the enumeration with the given name. -/
def ofEnumeration (e : String) : List Member := (lookup? enumerations e).getD []

/-- The member with the given name. -/
def find? (e n : String) : Option Member := (ofEnumeration e).find? fun m => m.name = n

/-- The decoder of a numbered enumeration. -/
def decoding (α : Type) [Numbered α] : String × Decoder Member :=
  (Numbered.title α, fun cs => (Decoder.member α cs).map ofNumbered)

/-- The numbered enumerations, by name. -/
def decoders : List (String × Decoder Member) :=
  [decoding ItemKind, decoding Resource, decoding Skill, decoding Shard, decoding Teleporter,
   decoding BonusItem, decoding BonusUpgrade, decoding Zone, decoding SysMessageKind,
   decoding CommandKind, decoding ToggleCommandKind, decoding EquipSlot]

end Member

end SeedHeader
