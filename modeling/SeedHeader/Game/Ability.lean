import SeedHeader.Game.Numbered

/-!
# Game — Abilities

Skills and the shards that modify them.
-/

namespace SeedHeader

/-- The skills. -/
inductive Skill where
  | bash | doubleJump | launch | glide | waterBreath | grenade | grapple | flash | spear
  | regenerate | bow | hammer | sword | burrow | dash | waterDash | shuriken | seir | blaze
  | sentry | flap | ancestralLight1 | ancestralLight2
deriving DecidableEq, Repr

namespace Skill

def all : List Skill :=
  [bash, doubleJump, launch, glide, waterBreath, grenade, grapple, flash, spear, regenerate, bow,
   hammer, sword, burrow, dash, waterDash, shuriken, seir, blaze, sentry, flap, ancestralLight1,
   ancestralLight2]

def number : Skill → Nat
  | bash            => 0
  | doubleJump      => 5
  | launch          => 8
  | glide           => 14
  | waterBreath     => 23
  | grenade         => 51
  | grapple         => 57
  | flash           => 62
  | spear           => 74
  | regenerate      => 77
  | bow             => 97
  | hammer          => 98
  | sword           => 100
  | burrow          => 101
  | dash            => 102
  | waterDash       => 104
  | shuriken        => 106
  | seir            => 108
  | blaze           => 115
  | sentry          => 116
  | flap            => 118
  | ancestralLight1 => 120
  | ancestralLight2 => 121

def name : Skill → String
  | bash            => "BASH"
  | doubleJump      => "DOUBLE_JUMP"
  | launch          => "LAUNCH"
  | glide           => "GLIDE"
  | waterBreath     => "WATER_BREATH"
  | grenade         => "GRENADE"
  | grapple         => "GRAPPLE"
  | flash           => "FLASH"
  | spear           => "SPEAR"
  | regenerate      => "REGENERATE"
  | bow             => "BOW"
  | hammer          => "HAMMER"
  | sword           => "SWORD"
  | burrow          => "BURROW"
  | dash            => "DASH"
  | waterDash       => "WATER_DASH"
  | shuriken        => "SHURIKEN"
  | seir            => "SEIR"
  | blaze           => "BLAZE"
  | sentry          => "SENTRY"
  | flap            => "FLAP"
  | ancestralLight1 => "ANCESTRAL_LIGHT_1"
  | ancestralLight2 => "ANCESTRAL_LIGHT_2"

instance : Numbered Skill :=
  ⟨"Skill", all, number, name, fun a => by cases a <;> decide, by decide⟩

end Skill

/-- The shards. -/
inductive Shard where
  | overcharge | tripleJump | wingclip | bounty | swap | magnet | splinter | reckless | quickshot
  | resilience | lightHarvest | vitality | lifeHarvest | energyHarvest | energy | lifePact
  | lastStand | sense | ultraBash | ultraGrapple | overflow | thorn | catalyst | turmoil | sticky
  | finesse | spiritSurge | lifeforce | deflector | fracture | arcing
deriving DecidableEq, Repr

namespace Shard

def all : List Shard :=
  [overcharge, tripleJump, wingclip, bounty, swap, magnet, splinter, reckless, quickshot,
   resilience, lightHarvest, vitality, lifeHarvest, energyHarvest, energy, lifePact, lastStand,
   sense, ultraBash, ultraGrapple, overflow, thorn, catalyst, turmoil, sticky, finesse,
   spiritSurge, lifeforce, deflector, fracture, arcing]

def number : Shard → Nat
  | overcharge    => 1
  | tripleJump    => 2
  | wingclip      => 3
  | bounty        => 4
  | swap          => 5
  | magnet        => 8
  | splinter      => 9
  | reckless      => 13
  | quickshot     => 14
  | resilience    => 18
  | lightHarvest  => 19
  | vitality      => 22
  | lifeHarvest   => 23
  | energyHarvest => 25
  | energy        => 26
  | lifePact      => 27
  | lastStand     => 28
  | sense         => 30
  | ultraBash     => 31
  | ultraGrapple  => 32
  | overflow      => 33
  | thorn         => 34
  | catalyst      => 35
  | turmoil       => 36
  | sticky        => 37
  | finesse       => 40
  | spiritSurge   => 41
  | lifeforce     => 43
  | deflector     => 44
  | fracture      => 46
  | arcing        => 47

def name : Shard → String
  | overcharge    => "OVERCHARGE"
  | tripleJump    => "TRIPLE_JUMP"
  | wingclip      => "WINGCLIP"
  | bounty        => "BOUNTY"
  | swap          => "SWAP"
  | magnet        => "MAGNET"
  | splinter      => "SPLINTER"
  | reckless      => "RECKLESS"
  | quickshot     => "QUICKSHOT"
  | resilience    => "RESILIENCE"
  | lightHarvest  => "LIGHT_HARVEST"
  | vitality      => "VITALITY"
  | lifeHarvest   => "LIFE_HARVEST"
  | energyHarvest => "ENERGY_HARVEST"
  | energy        => "ENERGY"
  | lifePact      => "LIFE_PACT"
  | lastStand     => "LAST_STAND"
  | sense         => "SENSE"
  | ultraBash     => "ULTRA_BASH"
  | ultraGrapple  => "ULTRA_GRAPPLE"
  | overflow      => "OVERFLOW"
  | thorn         => "THORN"
  | catalyst      => "CATALYST"
  | turmoil       => "TURMOIL"
  | sticky        => "STICKY"
  | finesse       => "FINESSE"
  | spiritSurge   => "SPIRIT_SURGE"
  | lifeforce     => "LIFEFORCE"
  | deflector     => "DEFLECTOR"
  | fracture      => "FRACTURE"
  | arcing        => "ARCING"

instance : Numbered Shard :=
  ⟨"Shard", all, number, name, fun a => by cases a <;> decide, by decide⟩

end Shard

end SeedHeader
