import SeedHeader.Node.OfDocument
import SeedHeader.Proofs.WellFormed

/-!
# Proofs — Well-formed nodes

Nodes do not say by their type what their fields hold.  Here is what they hold in a document: no
field is left open, a literal has the type and the range that its place asks for, and a member
belongs to the enumeration of its field.  The nodes of a well-formed document are of this form
(`isContent_contentNode`).
-/

namespace SeedHeader

/-! ### Atoms -/

namespace Atom

/-- An unsigned integer of 32 bits. -/
def IsUnsigned : Atom → Prop
  | int i => 0 ≤ i ∧ i < 2 ^ 32
  | _ => False

/-- A signed integer of 32 bits. -/
def IsInteger : Atom → Prop
  | int i => -2 ^ 31 ≤ i ∧ i < 2 ^ 31
  | _ => False

def IsBoolean : Atom → Prop
  | bool _ => True
  | _ => False

/-- A float that is defined. -/
def IsFloat : Atom → Prop
  | float x => x ≠ .nan
  | _ => False

/-- A text that satisfies `p`. -/
def IsTextual (p : String → Prop) : Atom → Prop
  | text s => p s
  | _ => False

/-- A member of the enumeration `α`. -/
def IsMember (α : Type) [Numbered α] (a : Atom) : Prop := ∃ m : α, a = member (.ofNumbered m)

end Atom

/-- The literals of an uber state of the given type. -/
def UberType.Admits : UberType → Atom → Prop
  | .bool | .teleporter => Atom.IsBoolean
  | .byte | .int        => Atom.IsInteger
  | .float              => Atom.IsFloat

/-- The defaults of a parameter of the given type. -/
def ParameterType.Admits : ParameterType → Atom → Prop
  | .bool   => Atom.IsBoolean
  | .int    => Atom.IsInteger
  | .float  => Atom.IsFloat
  | .string => Atom.IsTextual IsText

/-! ### Nodes -/

namespace Datum

/-- An atom that satisfies `p`. -/
inductive IsAtom (p : Atom → Prop) : Datum → Prop
  | mk {a : Atom} : p a → IsAtom p (.atom a)

/-- A literal that satisfies `p`, or a parameter with a name. -/
inductive IsField (p : Atom → Prop) : Datum → Prop
  | literal {s : Span Int} {a : Datum} : a.IsAtom p → IsField p (.node .literal s [a])
  | parameter {s : Span Int} {a : Datum} :
      a.IsAtom (Atom.IsTextual IsName) → IsField p (.node .parameter s [a])

/-- An uber identifier with its two numbers. -/
inductive IsUber : Datum → Prop
  | mk {s : Span Int} {g i : Datum} :
      g.IsAtom Atom.IsUnsigned → i.IsAtom Atom.IsUnsigned → IsUber (.node .uberIdentifier s [g, i])

/-- A trigger that fires on any change, or on the change to a numeral or a parameter. -/
inductive IsTrigger : Datum → Prop
  | change {s : Span Int} {u : Datum} : u.IsUber → IsTrigger (.node .uberState s [u, anyChange])
  | condition {s : Span Int} {u v : Datum} :
      u.IsUber → v.IsField (Atom.IsTextual IsNumber) → IsTrigger (.node .uberState s [u, v])

/-- An icon: a file has a path, and all others have a number. -/
inductive IsIcon : Datum → Prop
  | file {s : Span Int} {v : Datum} :
      v.IsAtom (Atom.IsTextual IsPath) → IsIcon (.node .icon s [wordLeaf IconKind.file, v])
  | numbered {s : Span Int} {v : Datum} (k : IconKind) (hk : k ≠ .file) :
      v.IsAtom Atom.IsUnsigned → IsIcon (.node .icon s [wordLeaf k, v])

/-- A command item. -/
inductive IsAction : Datum → Prop
  | autosave {s : Span Int} : IsAction (.node .autosave s [])
  | checkpoint {s : Span Int} : IsAction (.node .checkpoint s [])
  | toggle {s : Span Int} {t v : Datum} :
      t.IsAtom (Atom.IsMember ToggleCommandKind) → v.IsField Atom.IsBoolean →
      IsAction (.node .toggle s [t, v])
  | warp {s : Span Int} {x y : Datum} :
      x.IsField Atom.IsFloat → y.IsField Atom.IsFloat → IsAction (.node .warp s [x, y])
  | timer {s : Span Int} {u : Datum} (k : NodeKind) (hk : k ∈ [.startTimer, .stopTimer]) :
      u.IsUber → IsAction (.node k s [u])
  | amount {s : Span Int} {v : Datum} (k : NodeKind)
      (hk : k ∈ [.setHealth, .setEnergy, .setSpiritLight]) :
      v.IsField Atom.IsUnsigned → IsAction (.node k s [v])
  | equip {s : Span Int} {t v : Datum} :
      t.IsAtom (Atom.IsMember EquipSlot) → v.IsField (Atom.IsMember Skill) →
      IsAction (.node .equip s [t, v])

/-- An item that another argument can follow. -/
inductive IsInnerItem : Datum → Prop
  | spiritLight {s : Span Int} {v r : Datum} :
      v.IsField Atom.IsUnsigned → r.IsAtom Atom.IsBoolean →
      IsInnerItem (.node .spiritLight s [v, r])
  | resource {s : Span Int} {v : Datum} :
      v.IsField (Atom.IsMember Resource) → IsInnerItem (.node .resourceItem s [v])
  | skill {s : Span Int} {v r : Datum} :
      v.IsField (Atom.IsMember Skill) → r.IsAtom Atom.IsBoolean →
      IsInnerItem (.node .skillItem s [v, r])
  | shard {s : Span Int} {v r : Datum} :
      v.IsField (Atom.IsMember Shard) → r.IsAtom Atom.IsBoolean →
      IsInnerItem (.node .shardItem s [v, r])
  | command {a : Datum} : a.IsAction → IsInnerItem a
  | teleporter {s : Span Int} {v r : Datum} :
      v.IsField (Atom.IsMember Teleporter) → r.IsAtom Atom.IsBoolean →
      IsInnerItem (.node .teleporterItem s [v, r])
  | uberState {s : Span Int} {u v : Datum} (t : UberType) :
      u.IsUber → v.IsField t.Admits → IsInnerItem (.node .uberStateItem s [u, wordLeaf t, v])
  | water {s : Span Int} {r : Datum} :
      r.IsAtom Atom.IsBoolean → IsInnerItem (.node .water s [r])
  | bonus {s : Span Int} {v r : Datum} :
      v.IsField (Atom.IsMember BonusItem) → r.IsAtom Atom.IsBoolean →
      IsInnerItem (.node .bonus s [v, r])
  | upgrade {s : Span Int} {v r : Datum} :
      v.IsField (Atom.IsMember BonusUpgrade) → r.IsAtom Atom.IsBoolean →
      IsInnerItem (.node .upgrade s [v, r])
  | relic {s : Span Int} {v : Datum} :
      v.IsField (Atom.IsMember Zone) → IsInnerItem (.node .relic s [v])
  | sysMessage {s : Span Int} {k : Datum} :
      k.IsAtom (Atom.IsMember SysMessageKind) → IsInnerItem (.node .sysMessage s [k])

/-- An item, which may be a message. -/
inductive IsItem : Datum → Prop
  | inner {d : Datum} : d.IsInnerItem → IsItem d
  | message {s : Span Int} {t : Datum} :
      t.IsAtom (Atom.IsTextual IsText) → IsItem (.node .message s [t])

/-- What a line says. -/
inductive IsContent : Datum → Prop
  | documentation {s : Span Int} {t : Datum} (k : NodeKind)
      (hk : k ∈ [.outerDocumentation, .innerDocumentation]) :
      t.IsAtom (Atom.IsTextual IsRemark) → IsContent (.node k s [t])
  | named {s : Span Int} {t : Datum} (k : NodeKind) (hk : k ∈ [.annotated, .needs, .forbids]) :
      t.IsAtom (Atom.IsTextual IsName) → IsContent (.node k s [t])
  | timer {s : Span Int} {u v : Datum} :
      u.IsUber → v.IsUber → IsContent (.node .setupTimer s [u, v])
  | pickup {s : Span Int} {t i b v : Datum} :
      t.IsTrigger → i.IsItem → b.IsAtom Atom.IsBoolean → v.IsAtom Atom.IsBoolean →
      IsContent (.node .pickup s [t, i, b, v])
  | pool {s : Span Int} {i : Datum} (k : NodeKind) (hk : k ∈ [.add, .remove]) :
      i.IsItem → IsContent (.node k s [i])
  | wording {s : Span Int} {i t : Datum} (k : NodeKind)
      (hk : k ∈ [.itemName, .display, .description]) :
      i.IsInnerItem → t.IsAtom (Atom.IsTextual IsText) → IsContent (.node k s [i, t])
  | price {s : Span Int} {i v : Datum} :
      i.IsInnerItem → v.IsField Atom.IsUnsigned → IsContent (.node .price s [i, v])
  | icon {s : Span Int} {i v : Datum} :
      i.IsInnerItem → v.IsIcon → IsContent (.node .iconCommand s [i, v])
  | parameter {s : Span Int} {n v : Datum} (t : ParameterType) :
      n.IsAtom (Atom.IsTextual IsName) → v.IsAtom t.Admits →
      IsContent (.node .defineParameter s [n, wordLeaf t, v])
  | setState {s : Span Int} {u : Datum} : u.IsUber → IsContent (.node .setLogicState s [u])
  | ifState {s s' : Span Int} {u v : Datum} :
      u.IsUber → v.IsField (Atom.IsTextual IsNumber) →
      IsContent (.node .ifState s [.node .uberState s' [u, v]])
  | endif {s : Span Int} : IsContent (.node .endif s [])

end Datum

/-! ### The nodes of a well-formed document -/

/-- Rounding never leads to the undefined float. -/
theorem Binary64.ofRatio_ne_nan (negative : Bool) (num den : Nat) :
    ofRatio negative num den ≠ nan := by
  unfold ofRatio
  split
  · simp
  · dsimp only
    split <;> split <;> simp

theorem Binary64.ofDecimal_ne_nan (negative : Bool) (d : Decimal) :
    ofDecimal negative d ≠ nan := by
  unfold ofDecimal
  dsimp only
  split
  · exact ofRatio_ne_nan _ _ _
  · split
    · simp
    · exact ofRatio_ne_nan _ _ _

theorem IsDecimalFloat.ne_nan {x : Binary64} (h : IsDecimalFloat x) : x ≠ .nan := by
  obtain ⟨cs, -, hx⟩ := h
  unfold Decoder.float at hx
  dsimp only at hx
  split at hx
  · cases hx
  · split at hx
    · cases hx
      exact Binary64.ofDecimal_ne_nan _ _
    · cases hx

theorem IsUint32.isUnsigned {n : Nat} (h : IsUint32 n) : Atom.IsUnsigned (.int n) := by
  unfold IsUint32 at h
  unfold Atom.IsUnsigned
  omega

open Datum

section
variable {α : Type} [Leaf α] {p : α → Prop} {q : Atom → Prop}

/-- A value that satisfies `p` is a field that satisfies what `p` says of the atoms. -/
theorem isField_node (hq : ∀ a, p a → q (Leaf.atom a)) {v : Field α} (h : v.val.Fits p) :
    v.node.IsField q := by
  obtain ⟨s, a | name⟩ := v
  · exact .literal (.mk (hq a h))
  · exact .parameter (.mk h)

end

theorem isField_member {α : Type} [Numbered α] {v : Field α} (h : v.val.Any) :
    v.node.IsField (Atom.IsMember α) :=
  isField_node (fun a _ => ⟨a, rfl⟩) h

theorem isField_bool {v : Field Bool} (h : v.val.Any) : v.node.IsField Atom.IsBoolean :=
  isField_node (fun _ _ => trivial) h

theorem isField_unsigned {v : Field Nat} (h : v.val.Fits IsUint32) :
    v.node.IsField Atom.IsUnsigned :=
  isField_node (fun _ => IsUint32.isUnsigned) h

theorem isField_integer {v : Field Int} (h : v.val.Fits IsInt32) : v.node.IsField Atom.IsInteger :=
  isField_node (fun _ h => h) h

theorem isField_float {v : Field Binary64} (h : v.val.Fits IsDecimalFloat) :
    v.node.IsField Atom.IsFloat :=
  isField_node (fun _ => IsDecimalFloat.ne_nan) h

theorem isField_number {v : Field String} (h : v.val.Fits IsNumber) :
    v.node.IsField (Atom.IsTextual IsNumber) :=
  isField_node (fun _ h => h) h

theorem isUber_uberNode {u : Located UberIdentifier} (h : u.val.WellFormed) :
    (uberNode u).IsUber :=
  .mk (.mk h.1.isUnsigned) (.mk h.2.isUnsigned)

theorem isTrigger_triggerNode {t : Located Trigger} (h : t.val.WellFormed) :
    (triggerNode t).IsTrigger := by
  obtain ⟨s, u, _ | v⟩ := t
  · exact .change (isUber_uberNode h.1)
  · exact .condition (isUber_uberNode h.1) (isField_number (h.2 v rfl))

theorem isIcon_iconNode {i : Located Icon} (h : i.val.WellFormed) : (iconNode i).IsIcon := by
  obtain ⟨s, i⟩ := i
  cases i with
  | shard n => exact .numbered .shard (by simp) (.mk (IsUint32.isUnsigned h))
  | spell n => exact .numbered .spell (by simp) (.mk (IsUint32.isUnsigned h))
  | opher n => exact .numbered .opher (by simp) (.mk (IsUint32.isUnsigned h))
  | lupo n => exact .numbered .lupo (by simp) (.mk (IsUint32.isUnsigned h))
  | grom n => exact .numbered .grom (by simp) (.mk (IsUint32.isUnsigned h))
  | tuley n => exact .numbered .tuley (by simp) (.mk (IsUint32.isUnsigned h))
  | file path => exact .file (.mk h)

theorem isAction_node {a : Action} (h : a.WellFormed) (s : Span Int) : (a.node s).IsAction := by
  cases a with
  | autosave => exact .autosave
  | checkpoint => exact .checkpoint
  | toggle target on => exact .toggle (.mk ⟨target, rfl⟩) (isField_bool h)
  | warp x y => exact .warp (isField_float h.1) (isField_float h.2)
  | startTimer u => exact .timer .startTimer (by simp) (isUber_uberNode h)
  | stopTimer u => exact .timer .stopTimer (by simp) (isUber_uberNode h)
  | setHealth n => exact .amount .setHealth (by simp) (isField_unsigned h)
  | setEnergy n => exact .amount .setEnergy (by simp) (isField_unsigned h)
  | setSpiritLight n => exact .amount .setSpiritLight (by simp) (isField_unsigned h)
  | equip slot skill => exact .equip (.mk ⟨slot, rfl⟩) (isField_member h)

theorem isInnerItem_itemNode {i : Located Item} (h : i.val.Inner) : (itemNode i).IsInnerItem := by
  obtain ⟨s, i⟩ := i
  obtain ⟨h, hm⟩ := h
  cases i with
  | spiritLight n r => exact .spiritLight (isField_unsigned h) (.mk trivial)
  | resource v => exact .resource (isField_member h)
  | skill v r => exact .skill (isField_member h) (.mk trivial)
  | shard v r => exact .shard (isField_member h) (.mk trivial)
  | command a => exact .command (isAction_node h _)
  | teleporter v r => exact .teleporter (isField_member h) (.mk trivial)
  | message t => exact absurd trivial hm
  | uberState u setting =>
    have hu := isUber_uberNode h.1
    cases setting with
    | bool v => exact .uberState .bool hu (isField_bool h.2)
    | teleporter v => exact .uberState .teleporter hu (isField_bool h.2)
    | byte v => exact .uberState .byte hu (isField_integer h.2)
    | int v => exact .uberState .int hu (isField_integer h.2)
    | float v => exact .uberState .float hu (isField_float h.2)
  | water r => exact .water (.mk trivial)
  | bonusItem v r => exact .bonus (isField_member h) (.mk trivial)
  | bonusUpgrade v r => exact .upgrade (isField_member h) (.mk trivial)
  | relic v => exact .relic (isField_member h)
  | sysMessage k => exact .sysMessage (.mk ⟨k, rfl⟩)

theorem isItem_itemNode {i : Located Item} (h : i.val.WellFormed) : (itemNode i).IsItem := by
  by_cases hm : i.val.IsMessage
  · obtain ⟨s, i⟩ := i
    cases i with
    | message t => exact .message (.mk h)
    | _ => cases hm
  · exact .inner (isInnerItem_itemNode ⟨h, hm⟩)

theorem isContent_command {c : Command} (h : c.WellFormed) (s : Span Int) :
    (c.node s).IsContent := by
  cases c with
  | needs name => exact .named .needs (by simp) (.mk h)
  | forbids name => exact .named .forbids (by simp) (.mk h)
  | add i => exact .pool .add (by simp) (isItem_itemNode h)
  | remove i => exact .pool .remove (by simp) (isItem_itemNode h)
  | name i t => exact .wording .itemName (by simp) (isInnerItem_itemNode h.1) (.mk h.2)
  | display i t => exact .wording .display (by simp) (isInnerItem_itemNode h.1) (.mk h.2)
  | description i t => exact .wording .description (by simp) (isInnerItem_itemNode h.1) (.mk h.2)
  | price i n => exact .price (isInnerItem_itemNode h.1) (isField_unsigned h.2)
  | icon i c => exact .icon (isInnerItem_itemNode h.1) (isIcon_iconNode h.2)
  | parameter name d =>
    cases d with
    | bool b => exact .parameter .bool (.mk h.1) (.mk trivial)
    | int i => exact .parameter .int (.mk h.1) (.mk h.2)
    | float x => exact .parameter .float (.mk h.1) (.mk h.2.ne_nan)
    | string t => exact .parameter .string (.mk h.1) (.mk h.2)
  | setState u => exact .setState (isUber_uberNode h)
  | ifState u v => exact .ifState (isUber_uberNode h.1) (isField_number h.2)
  | endif => exact .endif

/-- The node of a well-formed content holds what its kind asks for. -/
theorem isContent_contentNode {c : Located Content} (h : c.val.WellFormed) :
    (contentNode c).IsContent := by
  obtain ⟨s, c⟩ := c
  cases c with
  | outerDocumentation t => exact .documentation .outerDocumentation (by simp) (.mk h)
  | innerDocumentation t => exact .documentation .innerDocumentation (by simp) (.mk h)
  | annotated name => exact .named .annotated (by simp) (.mk h)
  | timer t => exact .timer (isUber_uberNode h.1) (isUber_uberNode h.2)
  | pickup p =>
    exact .pickup (isTrigger_triggerNode h.1) (isItem_itemNode h.2) (.mk trivial) (.mk trivial)
  | command c => exact isContent_command h _

end SeedHeader
