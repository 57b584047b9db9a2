import SeedHeader.Document.Content
import SeedHeader.Node.Basic

/-!
# Node — Documents as nodes

Every part of a document as a node.  The position of a part that was not read from the text, such
as the value of a trigger that fires on any change, is empty.
-/

namespace SeedHeader

/-- The literals, as atoms. -/
class Leaf (α : Type) where
  atom : α → Atom

instance : Leaf Nat := ⟨fun n => .int n⟩
instance : Leaf Int := ⟨.int⟩
instance : Leaf Bool := ⟨.bool⟩
instance : Leaf String := ⟨.text⟩
instance : Leaf Binary64 := ⟨.float⟩
instance {α : Type} [Numbered α] : Leaf α := ⟨fun a => .member (.ofNumbered a)⟩

/-- A literal as a datum. -/
def leaf {α : Type} [Leaf α] (a : α) : Datum := .atom (Leaf.atom a)

/-- A word as a datum. -/
def wordLeaf {α : Type} [Worded α] (a : α) : Datum := .atom (.member (.ofWorded a))

/-- A field as a node. -/
def Field.node {α : Type} [Leaf α] : Field α → Datum
  | ⟨span, .literal a⟩   => .node .literal span [leaf a]
  | ⟨span, .parameter s⟩ => .node .parameter span [leaf s]

/-- An uber identifier as a node. -/
def uberNode (u : Located UberIdentifier) : Datum :=
  .node .uberIdentifier u.span [leaf u.val.group, leaf u.val.id]

/-- A trigger as a node. -/
def triggerNode (t : Located Trigger) : Datum :=
  .node .uberState t.span [uberNode t.val.identifier, (t.val.value.map Field.node).getD anyChange]

/-- An icon as a node. -/
def iconNode (i : Located Icon) : Datum :=
  let node (kind : IconKind) (value : Datum) : Datum := .node .icon i.span [wordLeaf kind, value]
  match i.val with
  | .shard n   => node .shard (leaf n)
  | .spell n   => node .spell (leaf n)
  | .opher n   => node .opher (leaf n)
  | .lupo n    => node .lupo (leaf n)
  | .grom n    => node .grom (leaf n)
  | .tuley n   => node .tuley (leaf n)
  | .file path => node .file (leaf path)

/-- The type and the value that an uber state is set to. -/
def Setting.fields : Setting → List Datum
  | .bool v       => [wordLeaf UberType.bool, v.node]
  | .teleporter v => [wordLeaf UberType.teleporter, v.node]
  | .byte v       => [wordLeaf UberType.byte, v.node]
  | .int v        => [wordLeaf UberType.int, v.node]
  | .float v      => [wordLeaf UberType.float, v.node]

/-- A command item as a node. -/
def Action.node (span : Span Int) : Action → Datum
  | .autosave         => .node .autosave span []
  | .checkpoint       => .node .checkpoint span []
  | .toggle target on => .node .toggle span [leaf target, on.node]
  | .warp x y         => .node .warp span [x.node, y.node]
  | .startTimer u     => .node .startTimer span [uberNode u]
  | .stopTimer u      => .node .stopTimer span [uberNode u]
  | .setHealth n      => .node .setHealth span [n.node]
  | .setEnergy n      => .node .setEnergy span [n.node]
  | .setSpiritLight n => .node .setSpiritLight span [n.node]
  | .equip slot skill => .node .equip span [leaf slot, skill.node]

/-- An item as a node. -/
def itemNode (i : Located Item) : Datum :=
  match i.val with
  | .spiritLight n r  => .node .spiritLight i.span [n.node, leaf r]
  | .resource v       => .node .resourceItem i.span [v.node]
  | .skill v r        => .node .skillItem i.span [v.node, leaf r]
  | .shard v r        => .node .shardItem i.span [v.node, leaf r]
  | .command a        => a.node i.span
  | .teleporter v r   => .node .teleporterItem i.span [v.node, leaf r]
  | .message s        => .node .message i.span [leaf s]
  | .uberState u s    => .node .uberStateItem i.span (uberNode u :: s.fields)
  | .water r          => .node .water i.span [leaf r]
  | .bonusItem v r    => .node .bonus i.span [v.node, leaf r]
  | .bonusUpgrade v r => .node .upgrade i.span [v.node, leaf r]
  | .relic v          => .node .relic i.span [v.node]
  | .sysMessage k     => .node .sysMessage i.span [leaf k]

/-- The type and the value of a default. -/
def Default.fields : Default → List Datum
  | .bool b   => [wordLeaf ParameterType.bool, leaf b]
  | .int i    => [wordLeaf ParameterType.int, leaf i]
  | .float x  => [wordLeaf ParameterType.float, leaf x]
  | .string s => [wordLeaf ParameterType.string, leaf s]

/-- A command as a node. -/
def Command.node (span : Span Int) : Command → Datum
  | .needs s         => .node .needs span [leaf s]
  | .forbids s       => .node .forbids span [leaf s]
  | .add i           => .node .add span [itemNode i]
  | .remove i        => .node .remove span [itemNode i]
  | .name i s        => .node .itemName span [itemNode i, leaf s]
  | .display i s     => .node .display span [itemNode i, leaf s]
  | .description i s => .node .description span [itemNode i, leaf s]
  | .price i n       => .node .price span [itemNode i, n.node]
  | .icon i c        => .node .iconCommand span [itemNode i, iconNode c]
  | .parameter s d   => .node .defineParameter span (leaf s :: d.fields)
  | .setState u      => .node .setLogicState span [uberNode u]
  | .ifState u v     => .node .ifState span [triggerNode ⟨.nowhere, u, some v⟩]
  | .endif           => .node .endif span []

/-- A timer as a node. -/
def Timer.node (span : Span Int) (t : Timer) : Datum :=
  .node .setupTimer span [uberNode t.switch, uberNode t.counter]

/-- A pickup as a node. -/
def Pickup.node (span : Span Int) (p : Pickup) : Datum :=
  .node .pickup span [triggerNode p.trigger, itemNode p.item, leaf p.ignore, leaf p.skipValidation]

/-- A content as a node. -/
def contentNode (c : Located Content) : Datum :=
  match c.val with
  | .outerDocumentation s => .node .outerDocumentation c.span [leaf s]
  | .innerDocumentation s => .node .innerDocumentation c.span [leaf s]
  | .annotated s          => .node .annotated c.span [leaf s]
  | .timer t              => t.node c.span
  | .pickup p             => p.node c.span
  | .command c'           => c'.node c.span

/-- The contents of a document as nodes. -/
def documentNodes (cs : List (Located Content)) : List Datum := cs.map contentNode

end SeedHeader
