import SeedHeader.Game.Ability
import SeedHeader.Game.Bonus
import SeedHeader.Game.Item
import SeedHeader.Game.Place
import SeedHeader.Document.Value

/-!
# Document — Items

An item is what a pickup gives or does.  Items with a flag `remove` can be taken away as well as
given.  Command items act on the game itself.
-/

namespace SeedHeader

/-- The value an uber state is set to, by the type of the state. -/
inductive Setting where
  | bool (value : Field Bool)
  | teleporter (value : Field Bool)
  | byte (value : Field Int)
  | int (value : Field Int)
  | float (value : Field Binary64)
deriving DecidableEq, Repr

/-- What a command item does. -/
inductive Action where
  | autosave
  | checkpoint
  | toggle (target : ToggleCommandKind) (on : Field Bool)
  | warp (x y : Field Binary64)
  | startTimer (identifier : Located UberIdentifier)
  | stopTimer (identifier : Located UberIdentifier)
  | setHealth (amount : Field Nat)
  | setEnergy (amount : Field Nat)
  | setSpiritLight (amount : Field Nat)
  | equip (slot : EquipSlot) (ability : Field Skill)
deriving DecidableEq, Repr

/-- An item. -/
inductive Item where
  | spiritLight (amount : Field Nat) (remove : Bool)
  | resource (resource : Field Resource)
  | skill (skill : Field Skill) (remove : Bool)
  | shard (shard : Field Shard) (remove : Bool)
  | command (action : Action)
  | teleporter (teleporter : Field Teleporter) (remove : Bool)
  | message (text : String)
  | uberState (identifier : Located UberIdentifier) (setting : Setting)
  | water (remove : Bool)
  | bonusItem (bonus : Field BonusItem) (remove : Bool)
  | bonusUpgrade (upgrade : Field BonusUpgrade) (remove : Bool)
  | relic (zone : Field Zone)
  | sysMessage (kind : SysMessageKind)
deriving DecidableEq, Repr

end SeedHeader
