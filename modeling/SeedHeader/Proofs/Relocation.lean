import SeedHeader.Diagnostic
import SeedHeader.Document.Content

/-!
# Proofs — Relocation

A document keeps the span of every part that was read.  `relocate f` applies `f` to each of these
spans and changes nothing else.  Two cases matter: `shift n` moves a document `n` characters to the
right, and `erase` forgets where it was read, so that two documents mean the same when they are
equal after `erase`.  A part without a span, such as the absent value of a trigger, has nothing to
relocate.
-/

namespace SeedHeader

/-- The span with `f` applied to its offsets. -/
def Span.map (f : Nat → Nat) (s : Span) : Span := ⟨f s.start, f s.stop⟩

namespace Located

variable {α : Type}

/-- The value at another span, itself changed by `g`. -/
def relocate (f : Span → Span) (g : α → α) (x : Located α) : Located α := ⟨f x.span, g x.val⟩

/-- The same value at another span. -/
def move (f : Span → Span) (x : Located α) : Located α := ⟨f x.span, x.val⟩

end Located

/-! ### Every span of a document -/

/-- The setting with `f` applied to its spans. -/
def Setting.relocate (f : Span → Span) : Setting → Setting
  | .bool v       => .bool (v.move f)
  | .teleporter v => .teleporter (v.move f)
  | .byte v       => .byte (v.move f)
  | .int v        => .int (v.move f)
  | .float v      => .float (v.move f)

/-- The command item with `f` applied to its spans. -/
def Action.relocate (f : Span → Span) : Action → Action
  | .autosave         => .autosave
  | .checkpoint       => .checkpoint
  | .toggle target on => .toggle target (on.move f)
  | .warp x y         => .warp (x.move f) (y.move f)
  | .startTimer u     => .startTimer (u.move f)
  | .stopTimer u      => .stopTimer (u.move f)
  | .setHealth n      => .setHealth (n.move f)
  | .setEnergy n      => .setEnergy (n.move f)
  | .setSpiritLight n => .setSpiritLight (n.move f)
  | .equip slot skill => .equip slot (skill.move f)

/-- The item with `f` applied to its spans. -/
def Item.relocate (f : Span → Span) : Item → Item
  | .spiritLight v r  => .spiritLight (v.move f) r
  | .resource v       => .resource (v.move f)
  | .skill v r        => .skill (v.move f) r
  | .shard v r        => .shard (v.move f) r
  | .command a        => .command (a.relocate f)
  | .teleporter v r   => .teleporter (v.move f) r
  | .message s        => .message s
  | .uberState u s    => .uberState (u.move f) (s.relocate f)
  | .water r          => .water r
  | .bonusItem v r    => .bonusItem (v.move f) r
  | .bonusUpgrade v r => .bonusUpgrade (v.move f) r
  | .relic v          => .relic (v.move f)
  | .sysMessage k     => .sysMessage k

/-- The item at another place, with `f` applied to its spans. -/
abbrev Located.moveItem (f : Span → Span) (i : Located Item) : Located Item :=
  i.relocate f (Item.relocate f)

/-- The command with `f` applied to its spans. -/
def Command.relocate (f : Span → Span) : Command → Command
  | .needs s         => .needs s
  | .forbids s       => .forbids s
  | .add i           => .add (i.moveItem f)
  | .remove i        => .remove (i.moveItem f)
  | .name i s        => .name (i.moveItem f) s
  | .display i s     => .display (i.moveItem f) s
  | .description i s => .description (i.moveItem f) s
  | .price i v       => .price (i.moveItem f) (v.move f)
  | .icon i c        => .icon (i.moveItem f) (c.move f)
  | .parameter s d   => .parameter s d
  | .setState u      => .setState (u.move f)
  | .ifState u v     => .ifState (u.move f) (v.move f)
  | .endif           => .endif

/-- The trigger with `f` applied to its spans. -/
def Trigger.relocate (f : Span → Span) (t : Trigger) : Trigger :=
  ⟨t.identifier.move f, t.value.map (Located.move f)⟩

/-- The pickup with `f` applied to its spans. -/
def Pickup.relocate (f : Span → Span) (p : Pickup) : Pickup :=
  ⟨p.trigger.relocate f (Trigger.relocate f), p.item.moveItem f, p.ignore, p.skipValidation⟩

/-- The timer with `f` applied to its spans. -/
def Timer.relocate (f : Span → Span) (t : Timer) : Timer :=
  ⟨t.switch.move f, t.counter.move f⟩

/-- The content with `f` applied to its spans. -/
def Content.relocate (f : Span → Span) : Content → Content
  | .outerDocumentation s => .outerDocumentation s
  | .innerDocumentation s => .innerDocumentation s
  | .annotated s          => .annotated s
  | .timer t              => .timer (t.relocate f)
  | .pickup p             => .pickup (p.relocate f)
  | .command c            => .command (c.relocate f)

/-- A content as it was read, with `f` applied to every span. -/
abbrev Located.moveContent (f : Span → Span) (c : Located Content) : Located Content :=
  c.relocate f (Content.relocate f)

/-! ### Staying in place -/

@[simp] theorem Located.move_id {α : Type} (x : Located α) : x.move id = x := rfl

@[simp] theorem Setting.relocate_id (s : Setting) : s.relocate id = s := by
  cases s <;> rfl

@[simp] theorem Action.relocate_id (a : Action) : a.relocate id = a := by
  cases a <;> rfl

@[simp] theorem Item.relocate_id (i : Item) : i.relocate id = i := by
  cases i <;> simp [Item.relocate]

@[simp] theorem Located.moveItem_id (i : Located Item) : i.moveItem id = i := by
  simp [Located.relocate]

@[simp] theorem Command.relocate_id (c : Command) : c.relocate id = c := by
  cases c <;> simp [Command.relocate]

@[simp] theorem Trigger.relocate_id (t : Trigger) : t.relocate id = t := by
  obtain ⟨u, _ | v⟩ := t <;> rfl

@[simp] theorem Pickup.relocate_id (p : Pickup) : p.relocate id = p := by
  simp [Pickup.relocate, Located.relocate]

@[simp] theorem Content.relocate_id (c : Content) : c.relocate id = c := by
  cases c <;> simp [Content.relocate, Timer.relocate]

/-! ### Relocating twice -/

section
variable (f g : Span → Span)

theorem Setting.relocate_relocate (s : Setting) :
    (s.relocate f).relocate g = s.relocate (g ∘ f) := by
  cases s <;> rfl

theorem Action.relocate_relocate (a : Action) :
    (a.relocate f).relocate g = a.relocate (g ∘ f) := by
  cases a <;> rfl

theorem Item.relocate_relocate (i : Item) : (i.relocate f).relocate g = i.relocate (g ∘ f) := by
  cases i with
  | command a => exact congrArg Item.command (a.relocate_relocate f g)
  | uberState u s => exact congrArg (Item.uberState _) (s.relocate_relocate f g)
  | _ => rfl

theorem Located.moveItem_moveItem (i : Located Item) :
    (i.moveItem f).moveItem g = i.moveItem (g ∘ f) :=
  congrArg (Located.mk _) (i.val.relocate_relocate f g)

theorem Command.relocate_relocate (c : Command) :
    (c.relocate f).relocate g = c.relocate (g ∘ f) := by
  cases c <;> simp [Command.relocate, Located.moveItem_moveItem, Located.move]

theorem Pickup.relocate_relocate (p : Pickup) :
    (p.relocate f).relocate g = p.relocate (g ∘ f) := by
  obtain ⟨⟨s, u, v⟩, i, ignore, skip⟩ := p
  cases v <;>
    simp [Pickup.relocate, Trigger.relocate, Located.relocate, Located.move,
      Item.relocate_relocate]

theorem Content.relocate_relocate (c : Content) :
    (c.relocate f).relocate g = c.relocate (g ∘ f) := by
  cases c with
  | pickup p => exact congrArg Content.pickup (p.relocate_relocate f g)
  | command c => exact congrArg Content.command (c.relocate_relocate f g)
  | _ => rfl

end

/-! ### Shifting and erasing -/

/-- The content `n` characters further on. -/
def Located.shiftContent (n : Nat) (c : Located Content) : Located Content :=
  c.moveContent (Span.shift n)

theorem Located.shiftContent_zero : Located.shiftContent 0 = id := by
  have h : Span.shift 0 = id := by funext s; simp [Span.shift]
  funext c
  simp [Located.shiftContent, h, Located.relocate]

/-- The content without the places it was read from. -/
def Located.eraseContent (c : Located Content) : Content :=
  c.val.relocate fun _ => .nowhere

/-- Where a content was read does not matter once that is erased. -/
theorem Located.eraseContent_shiftContent (n : Nat) (c : Located Content) :
    (c.shiftContent n).eraseContent = c.eraseContent :=
  c.val.relocate_relocate (Span.shift n) fun _ => .nowhere

end SeedHeader
