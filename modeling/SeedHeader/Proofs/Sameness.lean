import SeedHeader.Proofs.Nodes

/-!
# Proofs — Nodes that mean the same

Comparing nodes leaves out their spans.  So the nodes of a document that was read at one place and
those of the document at another mean the same, one by one (`sameAll_documentNodes`): they differ
in nothing but their spans (`unplaced_contentNode`).

A datum need not mean the same as itself, since the undefined float does not; but there is none in
a well-formed document (`IsContent.same_self`).
-/

namespace SeedHeader

/-! ### Data without spans -/

namespace Datum

mutual

/-- The datum with every span left out. -/
def unplaced : Datum → Datum
  | atom a      => atom a
  | node k _ xs => node k .nowhere (unplacedAll xs)

/-- The data with every span left out. -/
def unplacedAll : List Datum → List Datum
  | []      => []
  | x :: xs => unplaced x :: unplacedAll xs

end

mutual

/-- Spans do not count when data are compared. -/
theorem same_unplaced : ∀ d e : Datum, d.same e.unplaced = d.same e
  | atom _, atom _ => rfl
  | atom _, node _ _ _ => rfl
  | node _ _ _, atom _ => rfl
  | node _ _ xs, node _ _ ys => by rw [unplaced, same, same, sameAll_unplacedAll xs ys]

theorem sameAll_unplacedAll : ∀ xs ys : List Datum, sameAll xs (unplacedAll ys) = sameAll xs ys
  | [], [] => rfl
  | [], _ :: _ => rfl
  | _ :: _, [] => rfl
  | x :: xs, y :: ys => by
    rw [unplacedAll, sameAll, sameAll, same_unplaced x y, sameAll_unplacedAll xs ys]

end

theorem same_of_unplaced {d e : Datum} (h : e.unplaced = d.unplaced) (hd : d.same d) :
    d.same e := by
  rw [← same_unplaced, h, same_unplaced]
  exact hd

end Datum

open Datum

section
variable (f : Span → Span)

theorem unplaced_fieldNode {α : Type} [Leaf α] (v : Field α) :
    (Field.node (v.move f)).unplaced = v.node.unplaced := by
  obtain ⟨s, a | name⟩ := v <;> rfl

theorem unplaced_uberNode (u : Located UberIdentifier) :
    (uberNode (u.move f)).unplaced = (uberNode u).unplaced := rfl

theorem unplaced_triggerNode (t : Located Trigger) :
    (triggerNode (t.relocate f (Trigger.relocate f))).unplaced = (triggerNode t).unplaced := by
  obtain ⟨s, u, _ | v⟩ := t
  · rfl
  · have hv := unplaced_fieldNode f v
    simp only [triggerNode, Located.relocate, Trigger.relocate, Option.map_some, Option.getD_some,
      unplaced, unplacedAll, unplaced_uberNode, hv]

theorem unplaced_iconNode (i : Located Icon) :
    (iconNode (i.move f)).unplaced = (iconNode i).unplaced := by
  obtain ⟨s, i⟩ := i
  cases i <;> rfl

theorem unplaced_settingFields (s : Setting) :
    unplacedAll (s.relocate f).fields = unplacedAll s.fields := by
  cases s <;> simp only [Setting.relocate, Setting.fields, unplacedAll, unplaced_fieldNode]

theorem unplaced_actionNode (s s' : Span Int) (a : Action) :
    ((a.relocate f).node s).unplaced = (a.node s').unplaced := by
  cases a <;>
    simp only [Action.relocate, Action.node, unplaced, unplacedAll, unplaced_fieldNode,
      unplaced_uberNode]

theorem unplaced_itemNode (i : Located Item) :
    (itemNode (i.moveItem f)).unplaced = (itemNode i).unplaced := by
  obtain ⟨s, i⟩ := i
  cases i with
  | command a => exact unplaced_actionNode f _ _ a
  | _ =>
    simp only [Located.relocate, Item.relocate, itemNode, unplaced, unplacedAll,
      unplaced_fieldNode, unplaced_uberNode, unplaced_settingFields]

theorem unplaced_commandNode (s s' : Span Int) (c : Command) :
    ((c.relocate f).node s).unplaced = (c.node s').unplaced := by
  cases c <;>
    simp only [Command.relocate, Command.node, triggerNode, Option.map_some, Option.getD_some,
      unplaced, unplacedAll, unplaced_itemNode, unplaced_fieldNode, unplaced_uberNode,
      unplaced_iconNode]

theorem unplaced_pickupNode (s s' : Span Int) (p : Pickup) :
    ((p.relocate f).node s).unplaced = (p.node s').unplaced := by
  simp only [Pickup.relocate, Pickup.node, unplaced, unplacedAll, unplaced_triggerNode,
    unplaced_itemNode]

/-- Moving a content changes the spans of its node and nothing else. -/
theorem unplaced_contentNode (c : Located Content) :
    (contentNode (c.moveContent f)).unplaced = (contentNode c).unplaced := by
  obtain ⟨s, c⟩ := c
  cases c with
  | command c => exact unplaced_commandNode f _ _ c
  | pickup p => exact unplaced_pickupNode f _ _ p
  | timer t => rfl
  | outerDocumentation t | innerDocumentation t | annotated t => rfl

end

/-! ### Data that mean the same as themselves -/

theorem Atom.same_self {a : Atom} (h : a ≠ .float .nan) : a.same a := by
  unfold Atom.same
  cases hq : a.quantity? with
  | none => simp [h]
  | some x => simp

/-- The undefined float does not satisfy `p`. -/
def Definite (p : Atom → Prop) : Prop := ¬ p (.float .nan)

theorem definite_unsigned : Definite Atom.IsUnsigned := id

theorem definite_integer : Definite Atom.IsInteger := id

theorem definite_boolean : Definite Atom.IsBoolean := id

theorem definite_float : Definite Atom.IsFloat := fun h => h rfl

theorem definite_textual (p : String → Prop) : Definite (Atom.IsTextual p) := id

theorem definite_member (α : Type) [Numbered α] : Definite (Atom.IsMember α) := by
  rintro ⟨m, h⟩
  cases h

theorem definite_uberType (t : UberType) : Definite t.Admits := by
  cases t with
  | bool | teleporter => exact definite_boolean
  | byte | int => exact definite_integer
  | float => exact definite_float

theorem definite_parameterType (t : ParameterType) : Definite t.Admits := by
  cases t with
  | bool => exact definite_boolean
  | int => exact definite_integer
  | float => exact definite_float
  | string => exact definite_textual _

namespace Datum

variable {p : Atom → Prop} {d : Datum}

theorem IsAtom.same_self (h : d.IsAtom p) (hp : Definite p) : d.same d := by
  obtain ⟨ha⟩ := h
  refine Atom.same_self ?_
  rintro rfl
  exact hp ha

theorem wordLeaf_same_self {α : Type} [Worded α] (a : α) : (wordLeaf a).same (wordLeaf a) := by
  rw [wordLeaf, same]
  exact Atom.same_self (by simp)

theorem IsField.same_self (h : d.IsField p) (hp : Definite p) : d.same d := by
  cases h with
  | literal h => simp [same, sameAll, h.same_self hp]
  | parameter h => simp [same, sameAll, h.same_self (definite_textual _)]

theorem IsUber.same_self (h : d.IsUber) : d.same d := by
  obtain ⟨hg, hi⟩ := h
  simp [same, sameAll, hg.same_self definite_unsigned, hi.same_self definite_unsigned]

theorem IsTrigger.same_self (h : d.IsTrigger) : d.same d := by
  cases h with
  | change hu =>
    have hc : anyChange.same anyChange := by decide
    simp [same, sameAll, hu.same_self, hc]
  | condition hu hv => simp [same, sameAll, hu.same_self, hv.same_self (definite_textual _)]

theorem IsIcon.same_self (h : d.IsIcon) : d.same d := by
  cases h with
  | file h => simp [same, sameAll, wordLeaf_same_self, h.same_self (definite_textual _)]
  | numbered k _ h => simp [same, sameAll, wordLeaf_same_self, h.same_self definite_unsigned]

theorem IsAction.same_self (h : d.IsAction) : d.same d := by
  cases h with
  | autosave | checkpoint => simp [same, sameAll]
  | toggle ht hv =>
    simp [same, sameAll, ht.same_self (definite_member _), hv.same_self definite_boolean]
  | warp hx hy => simp [same, sameAll, hx.same_self definite_float, hy.same_self definite_float]
  | timer k _ hu => simp [same, sameAll, hu.same_self]
  | amount k _ hv => simp [same, sameAll, hv.same_self definite_unsigned]
  | equip ht hv =>
    simp [same, sameAll, ht.same_self (definite_member _), hv.same_self (definite_member _)]

theorem IsInnerItem.same_self (h : d.IsInnerItem) : d.same d := by
  cases h with
  | spiritLight hv hr =>
    simp [same, sameAll, hv.same_self definite_unsigned, hr.same_self definite_boolean]
  | skill hv hr | shard hv hr | teleporter hv hr | bonus hv hr | upgrade hv hr =>
    simp [same, sameAll, hv.same_self (definite_member _), hr.same_self definite_boolean]
  | resource hv | relic hv => simp [same, sameAll, hv.same_self (definite_member _)]
  | command h => exact h.same_self
  | uberState t hu hv =>
    simp [same, sameAll, hu.same_self, wordLeaf_same_self, hv.same_self (definite_uberType t)]
  | water hr => simp [same, sameAll, hr.same_self definite_boolean]
  | sysMessage hk => simp [same, sameAll, hk.same_self (definite_member _)]

theorem IsItem.same_self (h : d.IsItem) : d.same d := by
  cases h with
  | inner h => exact h.same_self
  | message h => simp [same, sameAll, h.same_self (definite_textual _)]

/-- What a well-formed document says means the same as itself. -/
theorem IsContent.same_self (h : d.IsContent) : d.same d := by
  cases h with
  | documentation k _ h | named k _ h => simp [same, sameAll, h.same_self (definite_textual _)]
  | timer hu hv => simp [same, sameAll, hu.same_self, hv.same_self]
  | pickup ht hi hb hv =>
    simp [same, sameAll, ht.same_self, hi.same_self, hb.same_self definite_boolean,
      hv.same_self definite_boolean]
  | pool k _ hi => simp [same, sameAll, hi.same_self]
  | wording k _ hi ht => simp [same, sameAll, hi.same_self, ht.same_self (definite_textual _)]
  | price hi hv => simp [same, sameAll, hi.same_self, hv.same_self definite_unsigned]
  | icon hi hv => simp [same, sameAll, hi.same_self, hv.same_self]
  | parameter t hn hv =>
    simp [same, sameAll, hn.same_self (definite_textual _), wordLeaf_same_self,
      hv.same_self (definite_parameterType t)]
  | setState hu => simp [same, sameAll, hu.same_self]
  | ifState hu hv => simp [same, sameAll, hu.same_self, hv.same_self (definite_textual _)]
  | endif => simp [same, sameAll]

end Datum

/-- The nodes of a well-formed document mean the same wherever it was read. -/
theorem sameAll_documentNodes {cs : List (Located Content)} (h : ∀ c ∈ cs, c.val.WellFormed)
    (f : Span → Span) :
    sameAll (documentNodes cs) (documentNodes (cs.map (Located.moveContent f))) := by
  induction cs with
  | nil => rfl
  | cons c cs ih =>
    have hc : (contentNode c).same (contentNode (c.moveContent f)) :=
      same_of_unplaced (unplaced_contentNode f c)
        (isContent_contentNode (h c (by simp))).same_self
    have hcs := ih fun d hd => h d (by simp [hd])
    rw [documentNodes] at hcs ⊢
    simp only [documentNodes, List.map_cons, sameAll, hc, Bool.true_and] at hcs ⊢
    exact hcs

end SeedHeader
