import Mathlib.Computability.Language
import SeedHeader.Reading
import SeedHeader.Proofs.WellFormed

/-!
# Proofs — How documents are written

The written form of a document, with one content on each line: fields are separated by bars,
arguments by single spaces, numbers stand in decimal digits and keywords in small letters.  A
pickup that is excused from validation has the note that excuses it on the line before it.

A script is a set of texts.  All scripts here have one text, but for floats: a float may be written
as any numeral that stands for it.
-/

namespace SeedHeader

open Lexeme

/-- The texts that something may be written as. -/
abbrev Script := Language Char

namespace Script

/-- The one text `s`. -/
def exactly (s : String) : Script := {s.toList}

theorem mem_exactly (s : String) : s.toList ∈ exactly s := rfl

/-- Two texts with a bar between them. -/
def barred (a b : Script) : Script := a * (exactly "|" * b)

theorem mem_barred {a b : Script} {x y : List Char} (hx : x ∈ a) (hy : y ∈ b) :
    x ++ '|' :: y ∈ barred a b :=
  Language.append_mem_mul hx (Language.append_mem_mul (a := ['|']) rfl hy)

/-- Two texts with a space between them. -/
def spaced (a b : Script) : Script := a * (exactly " " * b)

/-! ### Values -/

/-- A number in decimal digits. -/
def decimal (n : Nat) : Script := {Nat.toDigits 10 n}

/-- An integer in decimal digits, with a minus sign if it is negative. -/
def integer (i : Int) : Script := {(if i < 0 then ['-'] else []) ++ Nat.toDigits 10 i.natAbs}

/-- A float, as any numeral that stands for it. -/
def float (x : Binary64) : Script := {cs | IsNumeral Char.isDigit cs ∧ Decoder.float cs = .ok x}

def boolean (b : Bool) : Script := exactly (if b then "true" else "false")

/-- A truth value as a digit. -/
def bit (b : Bool) : Script := exactly (if b then "1" else "0")

section
variable {α : Type}

/-- A member of a numbered enumeration by its number. -/
def member [Numbered α] (a : α) : Script := decimal (Numbered.number a)

/-- A member of a worded enumeration by its word. -/
def word [Worded α] (a : α) : Script := exactly (Worded.word a)

/-- A parameter: `$param(name)`. -/
def parameter (name : String) : Script :=
  exactly "$" * (word Interpolation.param * (exactly "(" * (exactly name * exactly ")")))

/-- A value: a literal in its own form, or a parameter. -/
def value (literal : α → Script) : Value α → Script
  | .literal a      => literal a
  | .parameter name => parameter name

/-- A value with a minus sign in front of it if it is taken away. -/
def removable (literal : α → Script) (v : Value α) (remove : Bool) : Script :=
  if remove then exactly "-" * value literal v else value literal v

end

/-- An uber identifier: `group|id`. -/
def uber (u : UberIdentifier) : Script := barred (decimal u.group) (decimal u.id)

/-- A path between quotes. -/
def quotation (path : String) : Script := {'"' :: (path.toList ++ ['"'])}

/-- A word with a colon behind it, and what it introduces. -/
def labelled {α : Type} [Worded α] (label : α) (s : Script) : Script :=
  word label * (exactly ":" * s)

/-- An icon: `kind:number`, or `file:"path"`. -/
def icon : Icon → Script
  | .shard n   => labelled IconKind.shard (decimal n)
  | .spell n   => labelled IconKind.spell (decimal n)
  | .opher n   => labelled IconKind.opher (decimal n)
  | .lupo n    => labelled IconKind.lupo (decimal n)
  | .grom n    => labelled IconKind.grom (decimal n)
  | .tuley n   => labelled IconKind.tuley (decimal n)
  | .file path => labelled IconKind.file (quotation path)

/-! ### Items -/

/-- The type of an uber state and the value it is set to: `type|value`. -/
def setting : Setting → Script
  | .bool v       => barred (word UberType.bool) (value boolean v.val)
  | .teleporter v => barred (word UberType.teleporter) (value boolean v.val)
  | .byte v       => barred (word UberType.byte) (value integer v.val)
  | .int v        => barred (word UberType.int) (value integer v.val)
  | .float v      => barred (word UberType.float) (value float v.val)

/-- A command item: the number of its kind and its fields. -/
def action : Action → Script
  | .autosave         => member CommandKind.autosave
  | .checkpoint       => member CommandKind.checkpoint
  | .toggle target on =>
    barred (member CommandKind.toggle) (barred (member target) (value bit on.val))
  | .warp x y         =>
    barred (member CommandKind.warp) (barred (value float x.val) (value float y.val))
  | .startTimer u     => barred (member CommandKind.startTimer) (uber u.val)
  | .stopTimer u      => barred (member CommandKind.stopTimer) (uber u.val)
  | .setHealth n      => barred (member CommandKind.setHealth) (value decimal n.val)
  | .setEnergy n      => barred (member CommandKind.setEnergy) (value decimal n.val)
  | .setSpiritLight n => barred (member CommandKind.setSpiritLight) (value decimal n.val)
  | .equip slot skill =>
    barred (member CommandKind.equip) (barred (member slot) (value member skill.val))

/-- An item: the number of its kind and its fields. -/
def item : Item → Script
  | .spiritLight n r  => barred (member ItemKind.spiritLight) (removable decimal n.val r)
  | .resource v       => barred (member ItemKind.resource) (value member v.val)
  | .skill v r        => barred (member ItemKind.skill) (removable member v.val r)
  | .shard v r        => barred (member ItemKind.shard) (removable member v.val r)
  | .command a        => barred (member ItemKind.command) (action a)
  | .teleporter v r   => barred (member ItemKind.teleporter) (removable member v.val r)
  | .message s        => barred (member ItemKind.message) (exactly s)
  | .uberState u s    => barred (member ItemKind.uberState) (barred (uber u.val) (setting s))
  | .water r          => barred (member ItemKind.water) (exactly (if r then "-0" else "0"))
  | .bonusItem v r    => barred (member ItemKind.bonusItem) (removable member v.val r)
  | .bonusUpgrade v r => barred (member ItemKind.bonusUpgrade) (removable member v.val r)
  | .relic v          => barred (member ItemKind.relic) (value member v.val)
  | .sysMessage k     => barred (member ItemKind.sysMessage) (member k)

/-! ### Contents -/

/-- The type of a parameter and its default: `type:default`. -/
def default : Default → Script
  | .bool b   => labelled ParameterType.bool (boolean b)
  | .int i    => labelled ParameterType.int (integer i)
  | .float x  => labelled ParameterType.float (float x)
  | .string s => labelled ParameterType.string (exactly s)

/-- A command: its word and its arguments. -/
def command : Command → Script
  | .needs s         => spaced (word CommandWord.includeHeader) (exactly s)
  | .forbids s       => spaced (word CommandWord.excludeHeader) (exactly s)
  | .add i           => spaced (word CommandWord.add) (item i.val)
  | .remove i        => spaced (word CommandWord.remove) (item i.val)
  | .name i s        => spaced (word CommandWord.name) (spaced (item i.val) (exactly s))
  | .display i s     => spaced (word CommandWord.display) (spaced (item i.val) (exactly s))
  | .description i s => spaced (word CommandWord.description) (spaced (item i.val) (exactly s))
  | .price i n       => spaced (word CommandWord.price) (spaced (item i.val) (value decimal n.val))
  | .icon i c        => spaced (word CommandWord.icon) (spaced (item i.val) (icon c.val))
  | .parameter s d   => spaced (word CommandWord.parameter) (spaced (exactly s) (default d))
  | .setState u      => spaced (word CommandWord.setState) (uber u.val)
  | .ifState u v     =>
    spaced (word CommandWord.ifState) (barred (uber u.val) (value exactly v.val))
  | .endif           => word CommandWord.endif

/-- A trigger: an uber identifier, and the value that it waits for if there is one. -/
def trigger (t : Trigger) : Script :=
  match t.value with
  | none   => uber t.identifier.val
  | some v => uber t.identifier.val * (exactly "=" * value exactly v.val)

/-- A pickup: `trigger|item`, with a bang in front of it if it is ignored. -/
def pickup (p : Pickup) : Script :=
  let s := barred (trigger p.trigger.val) (item p.item.val)
  if p.ignore then exactly "!" * s else s

/-- A content, without the end of its line. -/
def content : Content → Script
  | .outerDocumentation s => exactly "/// " * exactly s
  | .innerDocumentation s => exactly "//// " * exactly s
  | .annotated s          => exactly "#" * exactly s
  | .timer t              =>
    spaced (word StatementWord.setup)
      (barred (word SetupKind.timer) (barred (uber t.switch.val) (uber t.counter.val)))
  | .pickup p             => pickup p
  | .command c            => exactly "!" * (exactly "!" * command c)

/-- The content is documentation. -/
def IsDocumentation : Content → Prop
  | .outerDocumentation _ | .innerDocumentation _ => True
  | _ => False

/-- Whether the content is a pickup that is excused from validation. -/
def isExcused : Content → Bool
  | .pickup p => p.skipValidation
  | _ => false

/-- A content on its line, with the note on the line before it if it is excused. -/
def line (c : Content) : Script :=
  if isExcused c then exactly "// skip-validate\n" * (content c * exactly "\n")
  else content c * exactly "\n"

/-- A document, one content on each line. -/
def document : List Content → Script
  | []      => 1
  | c :: cs => line c * document cs

end Script

end SeedHeader
