/-!
# Suggestions

A suggestion names the construct that the grammar expected where it failed.
-/

namespace SeedHeader

/-- The constructs that can be expected where reading fails. -/
inductive Suggestion where
  | uberGroup | uberId | uberTriggerValue | integer | float | boolean | numericBoolean
  | identifier | string | text | iconKind | shardIcon | spellIcon | opherIcon | lupoIcon
  | gromIcon | tuleyIcon | setupKind | annotationName | expression | interpolationCommand
  | uberConditionValue | itemKind | resource | skill | shard | commandKind | toggleCommandKind
  | equipSlot | spell | teleporter | messageFlag | uberType | worldEvent | bonusItem
  | bonusUpgrade | zone | sysMessageKind | wheelCommandKind | wheelItemPosition | wheelBind
  | shopCommandKind | headerCommand | parameterType
deriving DecidableEq, Repr

namespace Suggestion

/-- Every suggestion, in the order in which they are listed. -/
def all : List Suggestion :=
  [uberGroup, uberId, uberTriggerValue, integer, float, boolean, numericBoolean, identifier,
   string, text, iconKind, shardIcon, spellIcon, opherIcon, lupoIcon, gromIcon, tuleyIcon,
   setupKind, annotationName, expression, interpolationCommand, uberConditionValue, itemKind,
   resource, skill, shard, commandKind, toggleCommandKind, equipSlot, spell, teleporter,
   messageFlag, uberType, worldEvent, bonusItem, bonusUpgrade, zone, sysMessageKind,
   wheelCommandKind, wheelItemPosition, wheelBind, shopCommandKind, headerCommand, parameterType]

/-- What a diagnostic calls the construct. -/
def label : Suggestion → String
  | uberGroup            => "uber group"
  | uberId               => "uber id"
  | uberTriggerValue     => "uber trigger value"
  | integer              => "integer"
  | float                => "float"
  | boolean              => "boolean"
  | numericBoolean       => "numeric boolean"
  | identifier           => "identifier"
  | string               => "string"
  | text                 => "text"
  | iconKind             => "icon kind"
  | shardIcon            => "shard icon"
  | spellIcon            => "spell icon"
  | opherIcon            => "opher icon"
  | lupoIcon             => "lupo icon"
  | gromIcon             => "grom icon"
  | tuleyIcon            => "tuley icon"
  | setupKind            => "setup kind"
  | annotationName       => "annotation"
  | expression           => "expression"
  | interpolationCommand => "interpolation command"
  | uberConditionValue   => "uber condition value"
  | itemKind             => "item kind"
  | resource             => "resource"
  | skill                => "skill"
  | shard                => "shard"
  | commandKind          => "command kind"
  | toggleCommandKind    => "toggle command kind"
  | equipSlot            => "equip slot"
  | spell                => "spell"
  | teleporter           => "teleporter"
  | messageFlag          => "message flag"
  | uberType             => "uber type"
  | worldEvent           => "world event"
  | bonusItem            => "bonus item"
  | bonusUpgrade         => "bonus upgrade"
  | zone                 => "zone"
  | sysMessageKind       => "sys message kind"
  | wheelCommandKind     => "wheel command kind"
  | wheelItemPosition    => "wheel item position"
  | wheelBind            => "wheel bind"
  | shopCommandKind      => "shop command kind"
  | headerCommand        => "header command"
  | parameterType        => "parameter type"

/-- The name under which a suggestion is listed: its label in capitals, joined by underscores. -/
def name (s : Suggestion) : String :=
  s.label.map fun c => if c = ' ' then '_' else c.toUpper

end Suggestion

end SeedHeader
