import SeedHeader.Document.Item

/-!
# Document — Contents

A header is a list of contents, one for each line that says something: documentation, an
annotation, a timer, a pickup or a command.
-/

namespace SeedHeader

/-- What a parameter stands for unless it is bound. -/
inductive Default where
  | bool (value : Bool)
  | int (value : Int)
  | float (value : Binary64)
  | string (value : String)
deriving DecidableEq, Repr

/-- A command to whoever compiles the header. -/
inductive Command where
  /-- Another header is needed as well. -/
  | needs (name : String)
  /-- Another header must not be used. -/
  | forbids (name : String)
  /-- The item joins the item pool. -/
  | add (item : Located Item)
  /-- The item leaves the item pool. -/
  | remove (item : Located Item)
  /-- The item is called by a name. -/
  | name (item : Located Item) (name : String)
  /-- The item is displayed under a name. -/
  | display (item : Located Item) (name : String)
  | description (item : Located Item) (text : String)
  | price (item : Located Item) (price : Field Nat)
  | icon (item : Located Item) (icon : Located Icon)
  /-- A parameter is declared. -/
  | parameter (name : String) (default : Default)
  /-- The logic may take the state for granted. -/
  | setState (identifier : Located UberIdentifier)
  /-- What follows holds only if the state has the value. -/
  | ifState (identifier : Located UberIdentifier) (value : Field String)
  /-- The end of what the last condition governs. -/
  | endif
deriving DecidableEq, Repr

/-- The trigger that gives an item, and how: an ignored pickup does not count as a location, and a
pickup may be excused from validation. -/
structure Pickup where
  trigger : Located Trigger
  item : Located Item
  ignore : Bool
  skipValidation : Bool
deriving DecidableEq, Repr

/-- A timer counts in one uber state while another is on. -/
structure Timer where
  switch : Located UberIdentifier
  counter : Located UberIdentifier
deriving DecidableEq, Repr

/-- What a line says. -/
inductive Content where
  /-- Documentation of the header. -/
  | outerDocumentation (text : String)
  /-- Documentation of the configuration. -/
  | innerDocumentation (text : String)
  | annotated (name : String)
  | timer (timer : Timer)
  | pickup (pickup : Pickup)
  | command (command : Command)
deriving DecidableEq, Repr

end SeedHeader
