import SeedHeader.Document.Item
import SeedHeader.Grammar.Value

/-!
# Grammar — Items

An item is the number of its kind, a bar, and the fields of that kind with bars between them.
-/

namespace SeedHeader.Grammar

open Rule

/-- The bar after a field that was expected to be `what`. -/
def bar (what : Suggestion) : Rule Unit := do
  let _ ← eatFor .separator what

/-- The value of an uber state of the given type. -/
def setting : UberType → Rule Setting
  | .bool       => return .bool (← wordField .boolean Decoder.boolean)
  | .teleporter => return .teleporter (← wordField .boolean Decoder.boolean)
  | .byte       => return .byte (← numberField .integer Decoder.integer)
  | .int        => return .int (← numberField .integer Decoder.integer)
  | .float      => return .float (← numberField .float Decoder.float)

/-- What follows the number of a command kind.  Only the first two kinds have no fields. -/
def actionBody : CommandKind → Rule Action
  | .autosave   => return .autosave
  | .checkpoint => return .checkpoint
  | .toggle => do
    bar .commandKind
    let target ← number .toggleCommandKind (Decoder.member ToggleCommandKind)
    bar .toggleCommandKind
    return .toggle target (← numberField .numericBoolean Decoder.bit)
  | .warp => do
    bar .commandKind
    let x ← numberField .float Decoder.float
    bar .float
    return .warp x (← numberField .float Decoder.float)
  | .startTimer => do
    bar .commandKind
    return .startTimer (← uberIdentifier)
  | .stopTimer => do
    bar .commandKind
    return .stopTimer (← uberIdentifier)
  | .setHealth => do
    bar .commandKind
    return .setHealth (← numberField .integer Decoder.unsigned)
  | .setEnergy => do
    bar .commandKind
    return .setEnergy (← numberField .integer Decoder.unsigned)
  | .setSpiritLight => do
    bar .commandKind
    return .setSpiritLight (← numberField .integer Decoder.unsigned)
  | .equip => do
    bar .commandKind
    let slot ← number .equipSlot (Decoder.member EquipSlot)
    bar .equipSlot
    return .equip slot (← numberField .spell (Decoder.member Skill))

/-- A command item: `kind|…`. -/
def action : Rule Action := do
  actionBody (← number .commandKind (Decoder.member CommandKind))

/-- Water is given as `0` and taken away as `-0`. -/
def water : Rule Bool := do
  let span := (← get).span
  let (amount, remove) ← removable .integer Decoder.unsigned
  if amount = 0 then return remove else failAt span .waterNotZero

/-- Water is judged at the token that is taken. -/
def waterAt (token : Located (List Char)) : Rule Bool :=
  decoded Decoder.unsigned .integer token.span (Decoder.splitMinus token.val).2 >>= fun n =>
    if n = 0 then pure (Decoder.splitMinus token.val).1 else failAt token.span .waterNotZero

theorem water_apply (c : Cursor) :
    water c = (accept .number (.expected .integer) >>= waterAt) c := by
  by_cases h : c.type = .number
  · have ha : accept .number (.expected .integer) c = .ok ⟨c.span, c.lexeme.text⟩ c.next := by
      rw [accept_apply, if_pos h]
    rw [bind_of_ok ha, water, get_bind, removable]
    simp only [bind, EStateM.bind, eatFor, ha, waterAt]
    cases decoded Decoder.unsigned .integer c.span (Decoder.splitMinus c.lexeme.text).2 c.next <;> rfl
  · have ha : accept .number (.expected .integer) c = .error ⟨.expected .integer, c.span⟩ c := by
      rw [accept_apply, if_neg h]
    rw [bind_of_error ha, water, get_bind, removable]
    exact bind_of_error (bind_of_error ha)

/-- The fields of an item of the given kind. -/
def itemBody : ItemKind → Rule Item
  | .spiritLight => do
    let (amount, remove) ← removableField .integer Decoder.unsigned
    return .spiritLight amount remove
  | .resource => return .resource (← numberField .resource (Decoder.member Resource))
  | .skill => do
    let (skill, remove) ← removableField .skill (Decoder.member Skill)
    return .skill skill remove
  | .shard => do
    let (shard, remove) ← removableField .shard (Decoder.member Shard)
    return .shard shard remove
  | .command => return .command (← action)
  | .teleporter => do
    let (teleporter, remove) ← removableField .teleporter (Decoder.member Teleporter)
    return .teleporter teleporter remove
  | .message => return .message (← freeText)
  | .uberState => do
    let state ← uberIdentifier
    bar .uberId
    let type ← keyword (Worded.table UberType) .uberType
    bar .uberType
    return .uberState state (← setting type)
  | .water => return .water (← water)
  | .bonusItem => do
    let (bonus, remove) ← removableField .bonusItem (Decoder.member BonusItem)
    return .bonusItem bonus remove
  | .bonusUpgrade => do
    let (upgrade, remove) ← removableField .bonusUpgrade (Decoder.member BonusUpgrade)
    return .bonusUpgrade upgrade remove
  | .relic => return .relic (← numberField .zone (Decoder.member Zone))
  | .sysMessage => return .sysMessage (← number .sysMessageKind (Decoder.member SysMessageKind))

/-- An item: `kind|fields`. -/
def item : Rule (Located Item) := located do
  let kind ← number .itemKind (Decoder.member ItemKind)
  bar .itemKind
  itemBody kind

end SeedHeader.Grammar
