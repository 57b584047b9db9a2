import SeedHeader.Proofs.Decoding
import SeedHeader.Proofs.Phrase

/-!
# Proofs — The phrases of the grammar

The grammar of statements as phrases, and for every rule the phrase that it reads.  What a phrase
says has no places: a located part stands at `.nowhere`.
-/

namespace SeedHeader

/-- The value at no place in particular. -/
abbrev bare {α : Type} (a : α) : Located α := ⟨.nowhere, a⟩

/-- The span that every span is replaced by when places do not matter. -/
abbrev forget : Span → Span := fun _ => .nowhere

namespace Phrase

variable {α : Type}

/-! ### Values -/

/-- A number with a meaning. -/
def number (decode : Decoder α) : Phrase α := meaning .number decode

/-- A word of an enumeration, in any case. -/
def word (α : Type) [Worded α] : Phrase α := fun w _ a =>
  ∃ cs, w = [⟨.identifier, cs⟩] ∧ Spells (Worded.word a) cs

/-- An identifier. -/
def name : Phrase String := (token .identifier).map String.ofList

/-- A parameter: `$Param(name)`. -/
def parameter : Phrase (Value α) :=
  (token .dollar).before ((word Interpolation).before ((token .openParen).before
    ((token .identifier).seq fun cs => (token .closeParen).map fun _ =>
      .parameter (String.ofList cs))))

/-- A token of the given type with a meaning, or a parameter. -/
def field (t : TokenType) (decode : Decoder α) : Phrase (Value α) :=
  ((meaning t decode).map .literal).or parameter

/-- A number with a meaning, and whether a minus sign stands in front of it. -/
def removable (decode : Decoder α) : Phrase (α × Bool) := fun w _ a =>
  ∃ cs, w = [⟨.number, cs⟩] ∧ decode (Decoder.splitMinus cs).2 = .ok a.1 ∧
    (Decoder.splitMinus cs).1 = a.2

/-- A number with a meaning, or a parameter, and whether a minus sign stands in front of it. -/
def removableField (decode : Decoder α) : Phrase (Value α × Bool) :=
  ((removable decode).map fun a => (.literal a.1, a.2)).or
    (((token .minus).before ((field .number decode).map fun v => (v, true))).or
      (parameter.map fun v => (v, false)))

/-- A string that is closed says what stands between the quotes. -/
def quoted : Phrase String := fun w _ s =>
  ∃ cs, w = [⟨.string, cs⟩] ∧ Lexeme.terminated ⟨.string, cs⟩ ∧ String.ofList cs.tail.dropLast = s

/-- A free text goes on up to a newline or a comment, and says its characters without the blanks
around them.  There must be some. -/
def text : Phrase String := fun w rest s =>
  (∀ l ∈ w, Grammar.isTextual l.type) ∧ (∀ l ∈ rest.head?, Grammar.isTextual l.type = false) ∧
    Text.trim (charsOf w) ≠ [] ∧ String.ofList (Text.trim (charsOf w)) = s

/-- The bar between two fields. -/
def bar : Phrase Unit := (token .separator).map fun _ => ()

/-- The whitespace between two arguments. -/
def gap : Phrase Unit := (token .whitespace).map fun _ => ()

/-- An uber identifier: `group|id`. -/
def uber : Phrase UberIdentifier :=
  (number Decoder.unsigned).seq fun group =>
    (token .separator).before ((number Decoder.unsigned).map fun id => ⟨group, id⟩)

/-- The body of an icon of the given kind. -/
def iconBody : IconKind → Phrase Icon
  | .shard => (number Decoder.unsigned).map .shard
  | .spell => (number Decoder.unsigned).map .spell
  | .opher => (number Decoder.unsigned).map .opher
  | .lupo  => (number Decoder.unsigned).map .lupo
  | .grom  => (number Decoder.unsigned).map .grom
  | .tuley => (number Decoder.unsigned).map .tuley
  | .file  => quoted.map .file

/-- An icon: `kind:number`, or `file:"path"`. -/
def icon : Phrase Icon := (word IconKind).seq fun kind => (token .colon).before (iconBody kind)

/-! ### Items -/

/-- The value of an uber state of the given type. -/
def setting : UberType → Phrase Setting
  | .bool       => (field .identifier Decoder.boolean).map fun v => .bool (bare v)
  | .teleporter => (field .identifier Decoder.boolean).map fun v => .teleporter (bare v)
  | .byte       => (field .number Decoder.integer).map fun v => .byte (bare v)
  | .int        => (field .number Decoder.integer).map fun v => .int (bare v)
  | .float      => (field .number Decoder.float).map fun v => .float (bare v)

/-- What follows the number of a command kind. -/
def actionBody : CommandKind → Phrase Action
  | .autosave   => say .autosave
  | .checkpoint => say .checkpoint
  | .toggle =>
    bar.before ((number (Decoder.member ToggleCommandKind)).seq fun target =>
      bar.before ((field .number Decoder.bit).map fun on => .toggle target (bare on)))
  | .warp =>
    bar.before ((field .number Decoder.float).seq fun x =>
      bar.before ((field .number Decoder.float).map fun y => .warp (bare x) (bare y)))
  | .startTimer => bar.before (uber.map fun u => .startTimer (bare u))
  | .stopTimer  => bar.before (uber.map fun u => .stopTimer (bare u))
  | .setHealth  => bar.before ((field .number Decoder.unsigned).map fun n => .setHealth (bare n))
  | .setEnergy  => bar.before ((field .number Decoder.unsigned).map fun n => .setEnergy (bare n))
  | .setSpiritLight =>
    bar.before ((field .number Decoder.unsigned).map fun n => .setSpiritLight (bare n))
  | .equip =>
    bar.before ((number (Decoder.member EquipSlot)).seq fun slot =>
      bar.before ((field .number (Decoder.member Skill)).map fun skill => .equip slot (bare skill)))

/-- A command item: `kind|…`. -/
def action : Phrase Action := (number (Decoder.member CommandKind)).seq actionBody

/-- Water is given as `0` and taken away as `-0`. -/
def water : Phrase Bool := fun w _ remove => removable Decoder.unsigned w [] (0, remove)

/-- The fields of an item of the given kind. -/
def itemBody : ItemKind → Phrase Item
  | .spiritLight =>
    (removableField Decoder.unsigned).map fun v => .spiritLight (bare v.1) v.2
  | .resource => (field .number (Decoder.member Resource)).map fun v => .resource (bare v)
  | .skill => (removableField (Decoder.member Skill)).map fun v => .skill (bare v.1) v.2
  | .shard => (removableField (Decoder.member Shard)).map fun v => .shard (bare v.1) v.2
  | .command => action.map .command
  | .teleporter =>
    (removableField (Decoder.member Teleporter)).map fun v => .teleporter (bare v.1) v.2
  | .message => text.map .message
  | .uberState =>
    uber.seq fun u => bar.before ((word UberType).seq fun type =>
      bar.before ((setting type).map fun s => .uberState (bare u) s))
  | .water => water.map .water
  | .bonusItem =>
    (removableField (Decoder.member BonusItem)).map fun v => .bonusItem (bare v.1) v.2
  | .bonusUpgrade =>
    (removableField (Decoder.member BonusUpgrade)).map fun v => .bonusUpgrade (bare v.1) v.2
  | .relic => (field .number (Decoder.member Zone)).map fun v => .relic (bare v)
  | .sysMessage => (number (Decoder.member SysMessageKind)).map .sysMessage

/-- An item: `kind|fields`. -/
def item : Phrase Item :=
  (number (Decoder.member ItemKind)).seq fun kind => bar.before (itemBody kind)

/-! ### Commands -/

/-- The default of a parameter of the given type. -/
def default : ParameterType → Phrase Default
  | .bool   => (meaning .identifier Decoder.boolean).map .bool
  | .int    => (number Decoder.integer).map .int
  | .float  => (number Decoder.float).map .float
  | .string => text.map .string

/-- An item and the gap after it. -/
def itemThenGap : Phrase Item := item.seq fun i => gap.map fun _ => i

/-- The arguments of the command with the given word. -/
def arguments : CommandWord → Phrase Command
  | .includeHeader => name.map .needs
  | .excludeHeader => name.map .forbids
  | .add           => item.map fun i => .add (bare i)
  | .remove        => item.map fun i => .remove (bare i)
  | .name          => itemThenGap.seq fun i => text.map fun s => .name (bare i) s
  | .display       => itemThenGap.seq fun i => text.map fun s => .display (bare i) s
  | .description   => itemThenGap.seq fun i => text.map fun s => .description (bare i) s
  | .price         =>
    itemThenGap.seq fun i => (field .number Decoder.unsigned).map fun v => .price (bare i) (bare v)
  | .icon          => itemThenGap.seq fun i => icon.map fun c => .icon (bare i) (bare c)
  | .parameter     =>
    name.seq fun s => gap.before ((word ParameterType).seq fun type =>
      (token .colon).before ((default type).map fun d => .parameter s d))
  | .setState      => uber.map fun u => .setState (bare u)
  | .ifState       =>
    uber.seq fun u => bar.before ((field .number Decoder.text).map fun v =>
      .ifState (bare u) (bare v))
  | .endif         => say .endif

/-- A command: `word arguments`, or `endif` alone. -/
def command : Phrase Command :=
  (word CommandWord).seq fun w =>
    if w = .endif then say .endif else gap.before (arguments w)

/-! ### Statements -/

/-- Nothing, where what follows does not start with a token of the types `p`. -/
def otherwise (p : TokenType → Prop) (a : α) : Phrase α := fun w rest b =>
  w = [] ∧ ¬ p (firstType rest) ∧ b = a

/-- Whitespace, or nothing where no whitespace follows. -/
def blank : Phrase Unit := gap.or (otherwise (· = .whitespace) ())

/-- The types of the marks that may stand between the word `setup` and the kind. -/
def IsJoint (t : TokenType) : Prop := t = .dot ∨ t = .separator

/-- A dot or a bar, and the whitespace after it; or nothing where neither follows. -/
def joint : Phrase Unit :=
  ((token .dot).before blank).or (((token .separator).before blank).or (otherwise IsJoint ()))

/-- What may stand between the word `setup` and the kind: whitespace around a dot or a bar. -/
def joiner : Phrase Unit := blank.before joint

/-- A timer: `switch|counter`. -/
def timer : Phrase Timer :=
  uber.seq fun switch => bar.before (uber.map fun counter => ⟨bare switch, bare counter⟩)

/-- What follows the word `setup`: `timer|…` after a joiner. -/
def setup : Phrase Timer := joiner.before ((word SetupKind).before (bar.before timer))

/-- The value that a trigger waits for: `=value`. -/
def condition : Phrase (Option (Value String)) :=
  ((token .eq).before ((field .number Decoder.text).map some)).or (otherwise (· = .eq) none)

/-- A trigger: an uber identifier, and the value that it waits for if there is one. -/
def trigger : Phrase Trigger :=
  uber.seq fun u => condition.map fun v => ⟨bare u, v.map bare⟩

/-- A pickup: `trigger|item`. -/
def pickup (ignore skipValidation : Bool) : Phrase Pickup :=
  trigger.seq fun t => bar.before (item.map fun i => ⟨bare t, bare i, ignore, skipValidation⟩)

/-- What follows a bang: another bang and a command, or an ignored pickup. -/
def marked (skipValidation : Bool) : Phrase Content :=
  ((token .bang).before (command.map .command)).or ((pickup true skipValidation).map .pickup)

/-- A statement; `skipValidation` tells whether a pickup is excused. -/
def statement (skipValidation : Bool) : Phrase Content :=
  ((word StatementWord).before (setup.map .timer)).or
    (((token .bang).before (marked skipValidation)).or
      (((pickup false skipValidation).map .pickup).or
        ((token .pound).before (name.map .annotated))))

end Phrase

end SeedHeader
