import SeedHeader.Node.Kind
import SeedHeader.Node.Member

/-!
# Node — Nodes

A node has a kind, a span and fields; a field holds another node or an atom.  The kind fixes the
names of the fields and what they hold in a new node.  Nodes, and the tokens and diagnostics among
the atoms, may be built by hand, at any span.

Nodes are compared field by field, without regard to their spans: two nodes are the same when
they mean the same, wherever they were read.  Numbers are compared by their exact values,
whatever they are written as: truth values count as zero and one, and the members of numbered
enumerations as their numbers.
-/

namespace SeedHeader

/-- A value that is no node. -/
inductive Atom where
  | null
  | bool (value : Bool)
  | int (value : Int)
  | float (value : Binary64)
  | text (value : String)
  | member (value : Member)
  | token (value : Token Int)
  | diagnostic (value : Diagnostic)
deriving DecidableEq, Repr

/-- A node or an atom. -/
inductive Datum where
  | atom (value : Atom)
  | node (kind : NodeKind) (span : Span Int) (fields : List Datum)
deriving Repr

/-! ### Fields -/

/-- The value of a trigger that fires on any change. -/
def anyChange : Datum := .node .literal .nowhere [.atom (.text "")]

/-- The fields of a node of the given kind, in order, with what they hold in a new node. -/
def NodeKind.fields : NodeKind → List (String × Datum)
  | .uberIdentifier     => [("group", .atom (.int 0)), ("id", .atom (.int 0))]
  | .literal            => [("value", .atom .null)]
  | .parameter          => [("name", .atom (.text ""))]
  | .uberState          => [("identifier", .atom .null), ("value", anyChange)]
  | .icon               => [("kind", .atom .null), ("value", .atom .null)]
  | .outerDocumentation => [("text", .atom (.text ""))]
  | .innerDocumentation => [("text", .atom (.text ""))]
  | .annotated          => [("name", .atom (.text ""))]
  | .setupTimer         => [("switch", .atom .null), ("counter", .atom .null)]
  | .pickup =>
    [("trigger", .atom .null), ("item", .atom .null), ("ignore", .atom (.bool false)),
     ("skip_validation", .atom (.bool false))]
  | .spiritLight        => [("amount", .atom .null), ("remove", .atom (.bool false))]
  | .resourceItem       => [("resource", .atom .null)]
  | .skillItem          => [("skill", .atom .null), ("remove", .atom (.bool false))]
  | .shardItem          => [("shard", .atom .null), ("remove", .atom (.bool false))]
  | .teleporterItem     => [("teleporter", .atom .null), ("remove", .atom (.bool false))]
  | .message            => [("text", .atom (.text ""))]
  | .uberStateItem =>
    [("identifier", .atom .null), ("uber_type", .atom .null), ("value", .atom .null)]
  | .water              => [("remove", .atom (.bool false))]
  | .bonus              => [("bonus_item", .atom .null), ("remove", .atom (.bool false))]
  | .upgrade            => [("bonus_upgrade", .atom .null), ("remove", .atom (.bool false))]
  | .relic              => [("zone", .atom .null)]
  | .sysMessage         => [("kind", .atom .null)]
  | .toggle             => [("target", .atom .null), ("on", .atom .null)]
  | .warp               => [("x", .atom .null), ("y", .atom .null)]
  | .startTimer         => [("identifier", .atom .null)]
  | .stopTimer          => [("identifier", .atom .null)]
  | .setHealth          => [("amount", .atom .null)]
  | .setEnergy          => [("amount", .atom .null)]
  | .setSpiritLight     => [("amount", .atom .null)]
  | .equip              => [("slot", .atom .null), ("ability", .atom .null)]
  | .needs              => [("name", .atom (.text ""))]
  | .forbids            => [("name", .atom (.text ""))]
  | .add                => [("item", .atom .null)]
  | .remove             => [("item", .atom .null)]
  | .itemName           => [("item", .atom .null), ("name", .atom (.text ""))]
  | .display            => [("item", .atom .null), ("name", .atom (.text ""))]
  | .description        => [("item", .atom .null), ("description", .atom (.text ""))]
  | .price              => [("item", .atom .null), ("price", .atom .null)]
  | .iconCommand        => [("item", .atom .null), ("icon", .atom .null)]
  | .defineParameter =>
    [("identifier", .atom (.text "")), ("parameter_type", .atom .null), ("default", .atom .null)]
  | .setLogicState      => [("identifier", .atom .null)]
  | .ifState            => [("comparison", .atom .null)]
  | _ => []

namespace Datum

/-- A new node at the given span, in which some of the fields have been given values. -/
def build (kind : NodeKind) (span : Span Int) (given : List (String × Datum)) : Datum :=
  .node kind span (kind.fields.map fun f => (lookup? given f.1).getD f.2)

end Datum

/-! ### Sameness -/

namespace Atom

/-- The exact value of a number. -/
def quantity? : Atom → Option Quantity
  | bool b                       => some (.rational (if b then 1 else 0))
  | int i                        => some (.rational i)
  | float x                      => x.quantity?
  | member (.numbered _ _ n)     => some (.rational n)
  | _                            => none

/-- The value of an atom that counts as a natural number. -/
def natural? (a : Atom) : Option Nat :=
  match a.quantity? with
  | some (.rational r) => if r.den = 1 && 0 ≤ r.num then some r.num.toNat else none
  | _ => none

/-- Numbers are the same when their values are equal, all else when it is identical.  The
undefined float is not the same as anything. -/
def same (a b : Atom) : Bool :=
  match a.quantity?, b.quantity? with
  | some x, some y => x = y
  | none, none     => a = b && a ≠ .float .nan
  | _, _           => false

end Atom

namespace Datum

mutual

/-- Two data mean the same. -/
def same : Datum → Datum → Bool
  | atom a, atom b           => a.same b
  | node k _ xs, node l _ ys => k = l && sameAll xs ys
  | _, _                     => false

/-- Two lists of data mean the same, one by one. -/
def sameAll : List Datum → List Datum → Bool
  | [], []           => true
  | x :: xs, y :: ys => same x y && sameAll xs ys
  | _, _             => false

end

/-- What comparing two data says; nothing, if they are of different kinds. -/
def agree? : Datum → Datum → Option Bool
  | atom a, atom b           => some (a.same b)
  | node k _ xs, node l _ ys => if k = l then some (sameAll xs ys) else none
  | _, _                     => none

/-- Two data differ: comparing them says that they do, or says nothing. -/
def differs (d e : Datum) : Bool := ((d.agree? e).map (!·)).getD true

/-- The data of a list that mean something else than those before them. -/
def distinct (xs : List Datum) : List Datum :=
  xs.foldl (fun seen x => if seen.any (·.same x) then seen else seen ++ [x]) []

/-- A trigger waits for a value, unless it has the one that stands for any change. -/
def hasCondition? : Datum → Option Bool
  | node .uberState _ [_, value] => some (!value.same anyChange)
  | _ => none

end Datum

end SeedHeader
