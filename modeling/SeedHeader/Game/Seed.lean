import SeedHeader.Decimal.Binary64
import SeedHeader.Document.Value

/-!
# Game — Seeds

Fixed tables for whoever makes a seed from a header: where a game may start, which zones hold
relics, what the doors cost, and where the shops keep their prices.
-/

namespace SeedHeader.Game

/-! ### Starting points and zones -/

/-- Where a game starts unless another place is chosen. -/
def defaultSpawn : String := "MarshSpawn.Main"

/-- Where a game of the easiest difficulty may start. -/
def mokiSpawns : List String :=
  ["MarshSpawn.Main", "HowlsDen.Teleporter", "GladesTown.Teleporter",
   "InnerWellspring.Teleporter", "MidnightBurrows.Teleporter"]

/-- Where a game of the second difficulty may start. -/
def gorlekSpawns : List String :=
  ["MarshSpawn.Main", "HowlsDen.Teleporter", "EastHollow.Teleporter", "GladesTown.Teleporter",
   "InnerWellspring.Teleporter", "MidnightBurrows.Teleporter", "WoodsEntry.Teleporter",
   "WoodsMain.Teleporter", "LowerReach.Teleporter", "UpperDepths.Teleporter",
   "EastPools.Teleporter", "LowerWastes.WestTP", "LowerWastes.EastTP", "UpperWastes.NorthTP",
   "WillowsEnd.InnerTP"]

/-- The zones in which relics are hidden. -/
def relicZones : List String :=
  ["Inkwater Marsh", "Midnight Burrows", "Kwoloks Hollow", "Wellspring Glades",
   "The Wellspring", "Luma Pools", "Silent Woods", "Baurs Reach", "Mouldwood Depths",
   "Windswept Wastes", "Willows End"]

/-! ### Doors -/

/-- The doors, and how many keystones each of them takes. -/
def keystoneDoors : List (String × Nat) :=
  [("MarshSpawn.KeystoneDoor", 2), ("HowlsDen.KeystoneDoor", 2),
   ("MarshPastOpher.EyestoneDoor", 2), ("MidnightBurrows.KeystoneDoor", 4),
   ("WoodsEntry.KeystoneDoor", 2), ("WoodsMain.KeystoneDoor", 4), ("LowerReach.KeystoneDoor", 4),
   ("UpperReach.KeystoneDoor", 4), ("UpperDepths.EntryKeystoneDoor", 2),
   ("UpperDepths.CentralKeystoneDoor", 2), ("UpperPools.KeystoneDoor", 4),
   ("UpperWastes.KeystoneDoor", 2)]

/-- The number of keystones that a door takes. -/
def keystoneCost? (door : String) : Option Nat :=
  (keystoneDoors.find? fun entry => entry.1 = door).map (·.2)

/-! ### Placement -/

/-- Slots kept free after random placements. -/
def reserveSlots : Nat := 2

/-- Attempts at one seed. -/
def retries : Nat := 5

/-- The chance that a random placement is a progression item. -/
def randomProgression : Binary64 := .ofRatio false 1 10

/-! ### Shops -/

/-- A slot of a shop: its location, the uber state of what is sold, and the uber state that holds
the price. -/
structure ShopSlot where
  location : String
  item : UberIdentifier
  price : UberIdentifier
deriving DecidableEq, Repr

/-- The slots of the shops. -/
def shopSlots : List ShopSlot :=
  [⟨"TwillenShop.Overcharge", ⟨2, 1⟩, ⟨12, 0⟩⟩,
   ⟨"TwillenShop.TripleJump", ⟨2, 2⟩, ⟨12, 1⟩⟩,
   ⟨"TwillenShop.Wingclip", ⟨2, 3⟩, ⟨12, 2⟩⟩,
   ⟨"TwillenShop.Swap", ⟨2, 5⟩, ⟨12, 3⟩⟩,
   ⟨"TwillenShop.LightHarvest", ⟨2, 19⟩, ⟨12, 4⟩⟩,
   ⟨"TwillenShop.Vitality", ⟨2, 22⟩, ⟨12, 5⟩⟩,
   ⟨"TwillenShop.Energy", ⟨2, 26⟩, ⟨12, 6⟩⟩,
   ⟨"TwillenShop.Finesse", ⟨2, 40⟩, ⟨12, 7⟩⟩,
   ⟨"OpherShop.WaterBreath", ⟨1, 23⟩, ⟨12, 8⟩⟩,
   ⟨"OpherShop.Spike", ⟨1, 74⟩, ⟨12, 9⟩⟩,
   ⟨"OpherShop.SpiritSmash", ⟨1, 98⟩, ⟨12, 10⟩⟩,
   ⟨"OpherShop.Teleport", ⟨1, 105⟩, ⟨12, 11⟩⟩,
   ⟨"OpherShop.SpiritStar", ⟨1, 106⟩, ⟨12, 12⟩⟩,
   ⟨"OpherShop.Blaze", ⟨1, 115⟩, ⟨12, 13⟩⟩,
   ⟨"OpherShop.Sentry", ⟨1, 116⟩, ⟨12, 14⟩⟩,
   ⟨"LupoShop.HCMapIcon", ⟨48248, 19396⟩, ⟨12, 15⟩⟩,
   ⟨"LupoShop.ECMapIcon", ⟨48248, 57987⟩, ⟨12, 16⟩⟩,
   ⟨"LupoShop.ShardMapIcon", ⟨48248, 41666⟩, ⟨12, 17⟩⟩]

/-- The uber state that holds the price at a location. -/
def priceAt? (location : String) : Option UberIdentifier :=
  (shopSlots.find? fun slot => slot.location = location).map ShopSlot.price

/-- The uber state that holds the price of what is sold. -/
def priceOf? (item : UberIdentifier) : Option UberIdentifier :=
  (shopSlots.find? fun slot => slot.item = item).map ShopSlot.price

end SeedHeader.Game
