/-!
# Node — Kinds

Every part of a document is a node of some kind.  Besides the kinds of the parts themselves there
are the general kinds they belong to: nodes, values, contents, setups, items, command items and
commands.
-/

namespace SeedHeader

/-- The kinds of nodes. -/
inductive NodeKind where
  | node | uberIdentifier | value | literal | parameter | uberState | icon | content
  | outerDocumentation | innerDocumentation | annotated | setup | setupTimer | pickup | item
  | spiritLight | resourceItem | skillItem | shardItem | teleporterItem | message | uberStateItem
  | water | bonus | upgrade | relic | sysMessage | commandItem | autosave | checkpoint | toggle
  | warp | startTimer | stopTimer | setHealth | setEnergy | setSpiritLight | equip | command
  | needs | forbids | add | remove | itemName | display | description | price | iconCommand
  | defineParameter | setLogicState | ifState | endif
deriving DecidableEq, Repr

namespace NodeKind

/-- Every kind of node. -/
def all : List NodeKind :=
  [node, uberIdentifier, value, literal, parameter, uberState, icon, content, outerDocumentation,
   innerDocumentation, annotated, setup, setupTimer, pickup, item, spiritLight, resourceItem,
   skillItem, shardItem, teleporterItem, message, uberStateItem, water, bonus, upgrade, relic,
   sysMessage, commandItem, autosave, checkpoint, toggle, warp, startTimer, stopTimer, setHealth,
   setEnergy, setSpiritLight, equip, command, needs, forbids, add, remove, itemName, display,
   description, price, iconCommand, defineParameter, setLogicState, ifState, endif]

/-- The name that opens the text of a node. -/
def name : NodeKind → String
  | node               => "AstNode"
  | uberIdentifier     => "UberIdentifier"
  | value              => "V"
  | literal            => "Literal"
  | parameter          => "Parameter"
  | uberState          => "VUberState"
  | icon               => "Icon"
  | content            => "HeaderContent"
  | outerDocumentation => "OuterDocumentation"
  | innerDocumentation => "InnerDocumentation"
  | annotated          => "Annotation"
  | setup              => "Setup"
  | setupTimer         => "SetupTimer"
  | pickup             => "VPickup"
  | item               => "Item"
  | spiritLight        => "SpiritLight"
  | resourceItem       => "ResourceItem"
  | skillItem          => "SkillItem"
  | shardItem          => "ShardItem"
  | teleporterItem     => "TeleporterItem"
  | message            => "Message"
  | uberStateItem      => "UberStateItem"
  | water              => "Water"
  | bonus              => "Bonus"
  | upgrade            => "Upgrade"
  | relic              => "Relic"
  | sysMessage         => "SysMessage"
  | commandItem        => "CommandItem"
  | autosave           => "Autosave"
  | checkpoint         => "Checkpoint"
  | toggle             => "Toggle"
  | warp               => "Warp"
  | startTimer         => "StartTimer"
  | stopTimer          => "StopTimer"
  | setHealth          => "SetHealth"
  | setEnergy          => "SetEnergy"
  | setSpiritLight     => "SetSpiritLight"
  | equip              => "Equip"
  | command            => "HeaderCommand"
  | needs              => "Include"
  | forbids            => "Exclude"
  | add                => "Add"
  | remove             => "Remove"
  | itemName           => "Name"
  | display            => "Display"
  | description        => "Description"
  | price              => "Price"
  | iconCommand        => "IconCommand"
  | defineParameter    => "DefineParameter"
  | setLogicState      => "SetLogicState"
  | ifState            => "If"
  | endif              => "EndIf"

/-- Whether a value is left to a parameter; the question makes sense for values only. -/
def isParameter? : NodeKind → Option Bool
  | parameter       => some true
  | literal | value => some false
  | _               => none

/-- The kind with the given name. -/
def ofName? (s : String) : Option NodeKind := all.find? fun k => k.name = s

end NodeKind

end SeedHeader
