import SeedHeader.Document.Content
import SeedHeader.Proofs.Decoding
import SeedHeader.Proofs.FreeText
import SeedHeader.Proofs.Relocation

/-!
# Proofs — Well-formed documents

The documents that a header can stand for.  The types of a document already say which enumeration
each leaf belongs to; what they leave open is here: the ranges of numbers, the spelling of names,
and the characters of texts.  Where a part was read does not matter.
-/

namespace SeedHeader

open Lexeme

/-- An unsigned integer of 32 bits. -/
def IsUint32 (n : Nat) : Prop := n < 2 ^ 32

/-- A signed integer of 32 bits. -/
def IsInt32 (i : Int) : Prop := -2 ^ 31 ≤ i ∧ i < 2 ^ 31

/-- The float that a numeral of ASCII digits stands for. -/
def IsDecimalFloat (x : Binary64) : Prop :=
  ∃ cs, IsNumeral Char.isDigit cs ∧ Decoder.float cs = .ok x

/-- An identifier. -/
def IsName (s : String) : Prop := IsWord s.toList

/-- A text that a line can end with: not empty, with no blanks around it, on one line, and without
a comment. -/
def IsText (s : String) : Prop := s.toList ≠ [] ∧ Text.trim s.toList = s.toList ∧ IsFree s.toList

/-- A text of documentation: without blanks around it, and on one line. -/
def IsRemark (s : String) : Prop :=
  Text.trim s.toList = s.toList ∧ ∀ c ∈ s.toList, isLineEnd c = false

/-- A path that can stand between quotes. -/
def IsPath (s : String) : Prop := ∀ c ∈ s.toList, c ≠ '"' ∧ isLineEnd c = false

/-- A numeral, kept as it is written. -/
def IsNumber (s : String) : Prop := IsNumeral Text.isDigit s.toList

section
variable {α : Type}

/-- A literal satisfies `p`, and a parameter has a name. -/
def Value.Fits (p : α → Prop) : Value α → Prop
  | .literal a   => p a
  | .parameter s => IsName s

/-- A value that is a member of some enumeration, or a parameter. -/
abbrev Value.Any : Value α → Prop := Value.Fits fun _ => True

end

/-- Both numbers are unsigned integers of 32 bits. -/
def UberIdentifier.WellFormed (u : UberIdentifier) : Prop := IsUint32 u.group ∧ IsUint32 u.id

/-- A file has a path, and any other icon a number. -/
def Icon.WellFormed : Icon → Prop
  | .shard n | .spell n | .opher n | .lupo n | .grom n | .tuley n => IsUint32 n
  | .file path => IsPath path

/-- The value has the range of its type. -/
def Setting.WellFormed : Setting → Prop
  | .bool v | .teleporter v => v.val.Any
  | .byte v | .int v        => v.val.Fits IsInt32
  | .float v                => v.val.Fits IsDecimalFloat

/-- The fields of a command item have their ranges. -/
def Action.WellFormed : Action → Prop
  | .autosave | .checkpoint => True
  | .toggle _ on => on.val.Any
  | .warp x y => x.val.Fits IsDecimalFloat ∧ y.val.Fits IsDecimalFloat
  | .startTimer u | .stopTimer u => u.val.WellFormed
  | .setHealth n | .setEnergy n | .setSpiritLight n => n.val.Fits IsUint32
  | .equip _ skill => skill.val.Any

/-- The fields of an item have their ranges. -/
def Item.WellFormed : Item → Prop
  | .spiritLight n _  => n.val.Fits IsUint32
  | .resource v       => v.val.Any
  | .skill v _        => v.val.Any
  | .shard v _        => v.val.Any
  | .command a        => a.WellFormed
  | .teleporter v _   => v.val.Any
  | .message s        => IsText s
  | .uberState u s    => u.val.WellFormed ∧ s.WellFormed
  | .water _          => True
  | .bonusItem v _    => v.val.Any
  | .bonusUpgrade v _ => v.val.Any
  | .relic v          => v.val.Any
  | .sysMessage _     => True

/-- A message takes up the rest of its line. -/
def Item.IsMessage : Item → Prop
  | .message _ => True
  | _ => False

/-- An item that another argument can follow. -/
def Item.Inner (i : Item) : Prop := i.WellFormed ∧ ¬ i.IsMessage

/-- The default has the range of its type. -/
def Default.WellFormed : Default → Prop
  | .bool _   => True
  | .int i    => IsInt32 i
  | .float x  => IsDecimalFloat x
  | .string s => IsText s

/-- The arguments of a command are well formed. -/
def Command.WellFormed : Command → Prop
  | .needs s | .forbids s => IsName s
  | .add i | .remove i => i.val.WellFormed
  | .name i s | .display i s | .description i s => i.val.Inner ∧ IsText s
  | .price i n => i.val.Inner ∧ n.val.Fits IsUint32
  | .icon i c => i.val.Inner ∧ c.val.WellFormed
  | .parameter s d => IsName s ∧ d.WellFormed
  | .setState u => u.val.WellFormed
  | .ifState u v => u.val.WellFormed ∧ v.val.Fits IsNumber
  | .endif => True

/-- The state is one, and the value it waits for is a numeral or a parameter. -/
def Trigger.WellFormed (t : Trigger) : Prop :=
  t.identifier.val.WellFormed ∧ ∀ v ∈ t.value, v.val.Fits IsNumber

/-- What a line says is well formed. -/
def Content.WellFormed : Content → Prop
  | .outerDocumentation s | .innerDocumentation s => IsRemark s
  | .annotated s => IsName s
  | .timer t => t.switch.val.WellFormed ∧ t.counter.val.WellFormed
  | .pickup p => p.trigger.val.WellFormed ∧ p.item.val.WellFormed
  | .command c => c.WellFormed

/-! ### Places do not matter -/

section
variable (f : Span → Span)

theorem Setting.wellFormed_relocate (s : Setting) : (s.relocate f).WellFormed ↔ s.WellFormed := by
  cases s <;> rfl

theorem Action.wellFormed_relocate (a : Action) : (a.relocate f).WellFormed ↔ a.WellFormed := by
  cases a <;> rfl

theorem Item.wellFormed_relocate (i : Item) : (i.relocate f).WellFormed ↔ i.WellFormed := by
  cases i with
  | command a => exact a.wellFormed_relocate f
  | uberState u s => exact and_congr_right' (s.wellFormed_relocate f)
  | _ => rfl

theorem Item.isMessage_relocate (i : Item) : (i.relocate f).IsMessage ↔ i.IsMessage := by
  cases i <;> rfl

theorem Item.inner_relocate (i : Item) : (i.relocate f).Inner ↔ i.Inner :=
  and_congr (i.wellFormed_relocate f) (not_congr (i.isMessage_relocate f))

theorem Command.wellFormed_relocate (c : Command) : (c.relocate f).WellFormed ↔ c.WellFormed := by
  cases c with
  | add i | remove i => exact i.val.wellFormed_relocate f
  | name i _ | display i _ | description i _ | price i _ | icon i _ =>
    exact and_congr_left' (i.val.inner_relocate f)
  | _ => rfl

theorem Trigger.wellFormed_relocate (t : Trigger) : (t.relocate f).WellFormed ↔ t.WellFormed := by
  obtain ⟨u, _ | v⟩ := t
  · simp [Trigger.WellFormed, Trigger.relocate, Located.move]
  · simp [Trigger.WellFormed, Trigger.relocate, Located.move]

/-- A content is well formed wherever its parts were read. -/
theorem Content.wellFormed_relocate (c : Content) : (c.relocate f).WellFormed ↔ c.WellFormed := by
  cases c with
  | pickup p =>
    exact and_congr (p.trigger.val.wellFormed_relocate f) (p.item.val.wellFormed_relocate f)
  | command c => exact c.wellFormed_relocate f
  | _ => rfl

end

end SeedHeader
