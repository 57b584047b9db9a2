import SeedHeader.Game.Numbered

/-!
# Game — Places

Teleporters, and the zones that can hold a relic.
-/

namespace SeedHeader

/-- The teleporters. -/
inductive Teleporter where
  | burrows | den | eastPools | wellspring | reach | hollow | depths | westWoods | eastWoods
  | westWastes | eastWastes | outerRuins | willow | westPools | innerRuins | shriek | marsh
  | glades
deriving DecidableEq, Repr

namespace Teleporter

def all : List Teleporter :=
  [burrows, den, eastPools, wellspring, reach, hollow, depths, westWoods, eastWoods, westWastes,
   eastWastes, outerRuins, willow, westPools, innerRuins, shriek, marsh, glades]

def number : Teleporter → Nat
  | burrows    => 0
  | den        => 1
  | eastPools  => 2
  | wellspring => 3
  | reach      => 4
  | hollow     => 5
  | depths     => 6
  | westWoods  => 7
  | eastWoods  => 8
  | westWastes => 9
  | eastWastes => 10
  | outerRuins => 11
  | willow     => 12
  | westPools  => 13
  | innerRuins => 14
  | shriek     => 15
  | marsh      => 16
  | glades     => 17

def name : Teleporter → String
  | burrows    => "BURROWS"
  | den        => "DEN"
  | eastPools  => "EAST_POOLS"
  | wellspring => "WELLSPRING"
  | reach      => "REACH"
  | hollow     => "HOLLOW"
  | depths     => "DEPTHS"
  | westWoods  => "WEST_WOODS"
  | eastWoods  => "EAST_WOODS"
  | westWastes => "WEST_WASTES"
  | eastWastes => "EAST_WASTES"
  | outerRuins => "OUTER_RUINS"
  | willow     => "WILLOW"
  | westPools  => "WEST_POOLS"
  | innerRuins => "INNER_RUINS"
  | shriek     => "SHRIEK"
  | marsh      => "MARSH"
  | glades     => "GLADES"

instance : Numbered Teleporter :=
  ⟨"Teleporter", all, number, name, fun a => by cases a <;> decide, by decide⟩

end Teleporter

/-- The zones. -/
inductive Zone where
  | marsh | hollow | glades | wellspring | pools | burrows | reach | woods | depths | wastes
  | ruins | willow | void
deriving DecidableEq, Repr

namespace Zone

def all : List Zone :=
  [marsh, hollow, glades, wellspring, pools, burrows, reach, woods, depths, wastes, ruins, willow,
   void]

def number : Zone → Nat
  | marsh      => 0
  | hollow     => 1
  | glades     => 2
  | wellspring => 3
  | pools      => 4
  | burrows    => 5
  | reach      => 6
  | woods      => 7
  | depths     => 8
  | wastes     => 9
  | ruins      => 10
  | willow     => 11
  | void       => 12

def name : Zone → String
  | marsh      => "MARSH"
  | hollow     => "HOLLOW"
  | glades     => "GLADES"
  | wellspring => "WELLSPRING"
  | pools      => "POOLS"
  | burrows    => "BURROWS"
  | reach      => "REACH"
  | woods      => "WOODS"
  | depths     => "DEPTHS"
  | wastes     => "WASTES"
  | ruins      => "RUINS"
  | willow     => "WILLOW"
  | void       => "VOID"

instance : Numbered Zone :=
  ⟨"Zone", all, number, name, fun a => by cases a <;> decide, by decide⟩

end Zone

end SeedHeader
