import SeedHeader.Game.Numbered

/-!
# Game — Kinds of items

The numbers that open an item, and those that open a command item, a toggle, an equipment slot
and a system message.
-/

namespace SeedHeader

/-- What an item gives or does.  Seven is not in use. -/
inductive ItemKind where
  | spiritLight | resource | skill | shard | command | teleporter | message | uberState | water
  | bonusItem | bonusUpgrade | relic | sysMessage
deriving DecidableEq, Repr

namespace ItemKind

def all : List ItemKind :=
  [spiritLight, resource, skill, shard, command, teleporter, message, uberState, water, bonusItem,
   bonusUpgrade, relic, sysMessage]

def number : ItemKind → Nat
  | spiritLight  => 0
  | resource     => 1
  | skill        => 2
  | shard        => 3
  | command      => 4
  | teleporter   => 5
  | message      => 6
  | uberState    => 8
  | water        => 9
  | bonusItem    => 10
  | bonusUpgrade => 11
  | relic        => 12
  | sysMessage   => 13

def name : ItemKind → String
  | spiritLight  => "SPIRIT_LIGHT"
  | resource     => "RESOURCE"
  | skill        => "SKILL"
  | shard        => "SHARD"
  | command      => "COMMAND"
  | teleporter   => "TELEPORTER"
  | message      => "MESSAGE"
  | uberState    => "UBER_STATE"
  | water        => "WATER"
  | bonusItem    => "BONUS_ITEM"
  | bonusUpgrade => "BONUS_UPGRADE"
  | relic        => "RELIC"
  | sysMessage   => "SYS_MESSAGE"

instance : Numbered ItemKind :=
  ⟨"ItemKind", all, number, name, fun a => by cases a <;> decide, by decide⟩

end ItemKind

/-- What a command item does. -/
inductive CommandKind where
  | autosave | checkpoint | toggle | warp | startTimer | stopTimer | setHealth | setEnergy
  | setSpiritLight | equip
deriving DecidableEq, Repr

namespace CommandKind

def all : List CommandKind :=
  [autosave, checkpoint, toggle, warp, startTimer, stopTimer, setHealth, setEnergy,
   setSpiritLight, equip]

def number : CommandKind → Nat
  | autosave       => 0
  | checkpoint     => 2
  | toggle         => 7
  | warp           => 8
  | startTimer     => 9
  | stopTimer      => 10
  | setHealth      => 12
  | setEnergy      => 13
  | setSpiritLight => 14
  | equip          => 15

def name : CommandKind → String
  | autosave       => "AUTOSAVE"
  | checkpoint     => "CHECKPOINT"
  | toggle         => "TOGGLE"
  | warp           => "WARP"
  | startTimer     => "START_TIMER"
  | stopTimer      => "STOP_TIMER"
  | setHealth      => "SET_HEALTH"
  | setEnergy      => "SET_ENERGY"
  | setSpiritLight => "SET_SPIRIT_LIGHT"
  | equip          => "EQUIP"

instance : Numbered CommandKind :=
  ⟨"CommandKind", all, number, name, fun a => by cases a <;> decide, by decide⟩

end CommandKind

/-- What a toggle switches. -/
inductive ToggleCommandKind where
  | kwolokDoor | rain | howl
deriving DecidableEq, Repr

namespace ToggleCommandKind

def all : List ToggleCommandKind :=
  [kwolokDoor, rain, howl]

def number : ToggleCommandKind → Nat
  | kwolokDoor => 0
  | rain       => 1
  | howl       => 2

def name : ToggleCommandKind → String
  | kwolokDoor => "KWOLOK_DOOR"
  | rain       => "RAIN"
  | howl       => "HOWL"

instance : Numbered ToggleCommandKind :=
  ⟨"ToggleCommandKind", all, number, name, fun a => by cases a <;> decide, by decide⟩

end ToggleCommandKind

/-- The slots that hold an ability. -/
inductive EquipSlot where
  | ability1 | ability2 | ability3
deriving DecidableEq, Repr

namespace EquipSlot

def all : List EquipSlot :=
  [ability1, ability2, ability3]

def number : EquipSlot → Nat
  | ability1 => 0
  | ability2 => 1
  | ability3 => 2

def name : EquipSlot → String
  | ability1 => "ABILITY_1"
  | ability2 => "ABILITY_2"
  | ability3 => "ABILITY_3"

instance : Numbered EquipSlot :=
  ⟨"EquipSlot", all, number, name, fun a => by cases a <;> decide, by decide⟩

end EquipSlot

/-- The messages the game composes by itself. -/
inductive SysMessageKind where
  | relicList | mapRelicList | pickupCount | goalProgress
deriving DecidableEq, Repr

namespace SysMessageKind

def all : List SysMessageKind :=
  [relicList, mapRelicList, pickupCount, goalProgress]

def number : SysMessageKind → Nat
  | relicList    => 0
  | mapRelicList => 1
  | pickupCount  => 2
  | goalProgress => 3

def name : SysMessageKind → String
  | relicList    => "RELIC_LIST"
  | mapRelicList => "MAP_RELIC_LIST"
  | pickupCount  => "PICKUP_COUNT"
  | goalProgress => "GOAL_PROGRESS"

instance : Numbered SysMessageKind :=
  ⟨"SysMessageKind", all, number, name, fun a => by cases a <;> decide, by decide⟩

end SysMessageKind

end SeedHeader
