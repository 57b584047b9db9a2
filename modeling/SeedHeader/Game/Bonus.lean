import SeedHeader.Game.Numbered

/-!
# Game — Bonuses

Resources and the bonuses that a seed adds to the game.
-/

namespace SeedHeader

/-- The resources. -/
inductive Resource where
  | health | energy | ore | keystone | shardSlot
deriving DecidableEq, Repr

namespace Resource

def all : List Resource :=
  [health, energy, ore, keystone, shardSlot]

def number : Resource → Nat
  | health    => 0
  | energy    => 1
  | ore       => 2
  | keystone  => 3
  | shardSlot => 4

def name : Resource → String
  | health    => "HEALTH"
  | energy    => "ENERGY"
  | ore       => "ORE"
  | keystone  => "KEYSTONE"
  | shardSlot => "SHARD_SLOT"

instance : Numbered Resource :=
  ⟨"Resource", all, number, name, fun a => by cases a <;> decide, by decide⟩

end Resource

/-- The bonus items. -/
inductive BonusItem where
  | relic | healthRegeneration | energyRegeneration | extraDoubleJump | extraAirDash
deriving DecidableEq, Repr

namespace BonusItem

def all : List BonusItem :=
  [relic, healthRegeneration, energyRegeneration, extraDoubleJump, extraAirDash]

def number : BonusItem → Nat
  | relic              => 20
  | healthRegeneration => 30
  | energyRegeneration => 31
  | extraDoubleJump    => 35
  | extraAirDash       => 36

def name : BonusItem → String
  | relic              => "RELIC"
  | healthRegeneration => "HEALTH_REGENERATION"
  | energyRegeneration => "ENERGY_REGENERATION"
  | extraDoubleJump    => "EXTRA_DOUBLE_JUMP"
  | extraAirDash       => "EXTRA_AIR_DASH"

instance : Numbered BonusItem :=
  ⟨"BonusItem", all, number, name, fun a => by cases a <;> decide, by decide⟩

end BonusItem

/-- The bonus upgrades. -/
inductive BonusUpgrade where
  | rapidHammer | rapidSword | blazeEfficiency | spearEfficiency | shurikenEfficiency
  | sentryEfficiency | bowEfficiency | regenerationEfficiency | flashEfficiency
  | grenadeEfficiency
deriving DecidableEq, Repr

namespace BonusUpgrade

def all : List BonusUpgrade :=
  [rapidHammer, rapidSword, blazeEfficiency, spearEfficiency, shurikenEfficiency,
   sentryEfficiency, bowEfficiency, regenerationEfficiency, flashEfficiency, grenadeEfficiency]

def number : BonusUpgrade → Nat
  | rapidHammer            => 0
  | rapidSword             => 1
  | blazeEfficiency        => 2
  | spearEfficiency        => 3
  | shurikenEfficiency     => 4
  | sentryEfficiency       => 5
  | bowEfficiency          => 6
  | regenerationEfficiency => 7
  | flashEfficiency        => 8
  | grenadeEfficiency      => 9

def name : BonusUpgrade → String
  | rapidHammer            => "RAPID_HAMMER"
  | rapidSword             => "RAPID_SWORD"
  | blazeEfficiency        => "BLAZE_EFFICIENCY"
  | spearEfficiency        => "SPEAR_EFFICIENCY"
  | shurikenEfficiency     => "SHURIKEN_EFFICIENCY"
  | sentryEfficiency       => "SENTRY_EFFICIENCY"
  | bowEfficiency          => "BOW_EFFICIENCY"
  | regenerationEfficiency => "REGENERATION_EFFICIENCY"
  | flashEfficiency        => "FLASH_EFFICIENCY"
  | grenadeEfficiency      => "GRENADE_EFFICIENCY"

instance : Numbered BonusUpgrade :=
  ⟨"BonusUpgrade", all, number, name, fun a => by cases a <;> decide, by decide⟩

end BonusUpgrade

end SeedHeader
