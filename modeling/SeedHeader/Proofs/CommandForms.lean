import SeedHeader.Proofs.Casing
import SeedHeader.Proofs.ItemForms

/-!
# Proofs — The forms of a command

The grammar of commands written out token by token, with the words that stand in a text:
`CommandForm` is the word of a command and its arguments, and `ArgumentsForm` has the arguments for
each word.  Items within them have the forms of `ItemForm`.

A command is read exactly where one of these forms lies ahead, and all of it is read
(`command_iff_form`).
-/

namespace SeedHeader

/-! ### Arguments -/

/-- The characters stand for themselves. -/
def IsWritten (cs : List Char) (s : String) : Prop := String.ofList cs = s

/-- All that is left of the line, up to a comment; it is not blank. -/
inductive LineForm : (w rest : List Lexeme) → String → Prop where
  | mk {w rest : List Lexeme} (hw : ∀ l ∈ w, l.type ≠ .newline ∧ l.type ≠ .comment)
      (hrest : ∀ l ∈ rest.head?, l.type = .newline ∨ l.type = .comment)
      (hne : Text.trim (charsOf w) ≠ []) :
      LineForm w rest (String.ofList (Text.trim (charsOf w)))

/-- The words for the families of numbered icons. -/
def iconFamilies : List (String × (Nat → Icon)) :=
  [("shard", .shard), ("spell", .spell), ("opher", .opher), ("lupo", .lupo), ("grom", .grom),
   ("tuley", .tuley)]

/-- `IDENTIFIER(family) COLON NUMBER`, or `IDENTIFIER(file) COLON STRING` with a closing quote. -/
inductive IconForm : List Lexeme → Icon → Prop where
  | numbered {word colon cs : List Char} {family : String} {make : Nat → Icon} {n : Nat}
      (hf : (family, make) ∈ iconFamilies) (hw : Spells family word) (hn : IsNatural cs n) :
      IconForm [⟨.identifier, word⟩, ⟨.colon, colon⟩, ⟨.number, cs⟩] (make n)
  | file {word colon path : List Char} (hw : Spells "file" word) :
      IconForm [⟨.identifier, word⟩, ⟨.colon, colon⟩, ⟨.string, '"' :: (path ++ ['"'])⟩]
        (.file (String.ofList path))

/-- The default of a parameter, by the word for its type.  No default is a parameter. -/
inductive DefaultForm (rest : List Lexeme) : (type : String) → List Lexeme → Default → Prop where
  | bool {cs b} (h : IsBoolean cs b) : DefaultForm rest "bool" [⟨.identifier, cs⟩] (.bool b)
  | int {cs i} (h : IsInteger cs i) : DefaultForm rest "int" [⟨.number, cs⟩] (.int i)
  | float {cs x} (h : IsFloat cs x) : DefaultForm rest "float" [⟨.number, cs⟩] (.float x)
  | string {w s} (h : LineForm w rest s) : DefaultForm rest "string" w (.string s)

/-- The arguments of a command, by its word, in front of `rest`. -/
inductive ArgumentsForm (rest : List Lexeme) : (word : String) → List Lexeme → Command → Prop where
  | needs {cs} : ArgumentsForm rest "include" [⟨.identifier, cs⟩] (.needs (String.ofList cs))
  | forbids {cs} : ArgumentsForm rest "exclude" [⟨.identifier, cs⟩] (.forbids (String.ofList cs))
  | add {w i} (hi : ItemForm w rest i) : ArgumentsForm rest "add" w (.add (bare i))
  | remove {w i} (hi : ItemForm w rest i) : ArgumentsForm rest "remove" w (.remove (bare i))
  | name {w gap v i s} (hi : ItemForm w (⟨.whitespace, gap⟩ :: (v ++ rest)) i)
      (hs : LineForm v rest s) :
      ArgumentsForm rest "name" (w ++ ⟨.whitespace, gap⟩ :: v) (.name (bare i) s)
  | display {w gap v i s} (hi : ItemForm w (⟨.whitespace, gap⟩ :: (v ++ rest)) i)
      (hs : LineForm v rest s) :
      ArgumentsForm rest "display" (w ++ ⟨.whitespace, gap⟩ :: v) (.display (bare i) s)
  | description {w gap v i s} (hi : ItemForm w (⟨.whitespace, gap⟩ :: (v ++ rest)) i)
      (hs : LineForm v rest s) :
      ArgumentsForm rest "description" (w ++ ⟨.whitespace, gap⟩ :: v) (.description (bare i) s)
  | price {w gap v i n} (hi : ItemForm w (⟨.whitespace, gap⟩ :: (v ++ rest)) i)
      (hn : ValueForm .number IsNatural v n) :
      ArgumentsForm rest "price" (w ++ ⟨.whitespace, gap⟩ :: v) (.price (bare i) (bare n))
  | icon {w gap v i c} (hi : ItemForm w (⟨.whitespace, gap⟩ :: (v ++ rest)) i)
      (hc : IconForm v c) :
      ArgumentsForm rest "icon" (w ++ ⟨.whitespace, gap⟩ :: v) (.icon (bare i) (bare c))
  | parameter {name gap cs colon v type d} (ht : Spells type cs) (hd : DefaultForm rest type v d) :
      ArgumentsForm rest "parameter"
        (⟨.identifier, name⟩ :: ⟨.whitespace, gap⟩ :: ⟨.identifier, cs⟩ :: ⟨.colon, colon⟩ :: v)
        (.parameter (String.ofList name) d)
  | setState {w u} (hu : UberForm w u) : ArgumentsForm rest "set" w (.setState (bare u))
  | ifState {w bar v u s} (hu : UberForm w u) (hs : ValueForm .number IsWritten v s) :
      ArgumentsForm rest "if" (w ++ ⟨.separator, bar⟩ :: v) (.ifState (bare u) (bare s))

/-- A command: `IDENTIFIER(endif)`, or `IDENTIFIER(word) WHITESPACE arguments`. -/
inductive CommandForm : (w rest : List Lexeme) → Command → Prop where
  | endif {cs : List Char} {rest : List Lexeme} (h : Spells "endif" cs) :
      CommandForm [⟨.identifier, cs⟩] rest .endif
  | other {word : String} {cs gap : List Char} {w rest : List Lexeme} {a : Command}
      (h : Spells word cs) (ha : ArgumentsForm rest word w a) :
      CommandForm (⟨.identifier, cs⟩ :: ⟨.whitespace, gap⟩ :: w) rest a

/-! ### Forms and phrases -/

theorem decodes_written : Decodes Decoder.text IsWritten := by
  refine ⟨fun {cs s} => ?_⟩
  rw [IsWritten, Decoder.text, Except.ok.injEq]

section
variable {w rest : List Lexeme}

theorem lineForm_iff {s : String} : LineForm w rest s ↔ Phrase.text w rest s := by
  rw [Phrase.text_iff]
  constructor
  · rintro ⟨hw, hrest, hne⟩
    exact ⟨hw, hrest, hne, rfl⟩
  · rintro ⟨hw, hrest, hne, rfl⟩
    exact .mk hw hrest hne

/-- A string of a text says what stands between two quotes. -/
theorem Phrase.quoted_iff (hlexed : Lexed (w ++ rest)) {s : String} :
    Phrase.quoted w rest s ↔
      ∃ path, w = [⟨.string, '"' :: (path ++ ['"'])⟩] ∧ String.ofList path = s := by
  constructor
  · rintro ⟨cs, rfl, hclosed, rfl⟩
    generalize hl : (⟨.string, cs⟩ : Lexeme) = l at hlexed
    have hshaped := hlexed.shaped List.mem_cons_self
    cases hshaped with
    | closed path hpath =>
      cases hl
      exact ⟨path, rfl, by simp⟩
    | unclosed path hpath =>
      cases hl
      have hno : '"' ∉ path := fun hq => (hpath '"' hq).1 rfl
      simp [Lexeme.terminated, hno] at hclosed
    | mark c ht =>
      have htype : Lexeme.punctuation c = .string := ht.trans (congrArg Lexeme.type hl).symm
      have := Lexeme.punctuation_mem c
      simp [htype] at this
    | _ => cases hl
  · rintro ⟨path, rfl, rfl⟩
    exact ⟨_, rfl, by simp [Lexeme.terminated], by simp⟩

/-- A family of numbered icons has a kind, and the bodies of that kind are numbers. -/
theorem exists_kind_of_mem_iconFamilies {family : String} {make : Nat → Icon}
    (h : (family, make) ∈ iconFamilies) :
    ∃ kind : IconKind, Worded.word kind = family ∧
      Phrase.iconBody kind = (Phrase.number Decoder.unsigned).map make := by
  simp only [iconFamilies, List.mem_cons, Prod.mk.injEq, List.not_mem_nil, or_false] at h
  rcases h with ⟨rfl, rfl⟩ | ⟨rfl, rfl⟩ | ⟨rfl, rfl⟩ | ⟨rfl, rfl⟩ | ⟨rfl, rfl⟩ | ⟨rfl, rfl⟩
  · exact ⟨.shard, rfl, rfl⟩
  · exact ⟨.spell, rfl, rfl⟩
  · exact ⟨.opher, rfl, rfl⟩
  · exact ⟨.lupo, rfl, rfl⟩
  · exact ⟨.grom, rfl, rfl⟩
  · exact ⟨.tuley, rfl, rfl⟩

theorem iconForm_iff (hlexed : Lexed (w ++ rest)) {c : Icon} :
    IconForm w c ↔ Phrase.icon w rest c := by
  constructor
  · intro h
    cases h with
    | numbered hf hw hn =>
      obtain ⟨kind, rfl, hkind⟩ := exists_kind_of_mem_iconFamilies hf
      refine Phrase.word_seq_iff.mpr ⟨kind, _, _, rfl, hw,
        Phrase.token_before_iff.mpr ⟨_, _, rfl, ?_⟩⟩
      rw [hkind]
      exact ⟨_, ⟨_, rfl, decodes_natural.iff.mp hn⟩, rfl⟩
    | file hw =>
      exact Phrase.word_seq_iff.mpr ⟨.file, _, _, rfl, hw, Phrase.token_before_iff.mpr
        ⟨_, _, rfl, _, (Phrase.quoted_iff hlexed.tail.tail).mpr ⟨_, rfl, rfl⟩, rfl⟩⟩
  · intro h
    obtain ⟨kind, word, w₁, rfl, hw, h₁⟩ := Phrase.word_seq_iff.mp h
    obtain ⟨colon, w₂, rfl, hb⟩ := Phrase.token_before_iff.mp h₁
    cases kind with
    | file =>
      obtain ⟨s, hs, rfl⟩ := hb
      obtain ⟨path, rfl, rfl⟩ := (Phrase.quoted_iff hlexed.tail.tail).mp hs
      exact .file hw
    | shard | spell | opher | lupo | grom | tuley =>
      obtain ⟨n, ⟨cs, rfl, hn⟩, rfl⟩ := hb
      exact .numbered (by simp [iconFamilies, Worded.word, IconKind.word]) hw
        (decodes_natural.iff.mpr hn)

theorem defaultForm_iff {type : String} {d : Default} :
    DefaultForm rest type w d ↔
      ∃ t : ParameterType, Worded.word t = type ∧ Phrase.default t w rest d := by
  constructor
  · intro h
    cases h with
    | bool h => exact ⟨.bool, rfl, _, ⟨_, rfl, decodes_boolean.iff.mp h⟩, rfl⟩
    | int h => exact ⟨.int, rfl, _, ⟨_, rfl, decodes_integer.iff.mp h⟩, rfl⟩
    | float h => exact ⟨.float, rfl, _, ⟨_, rfl, decodes_float.iff.mp h⟩, rfl⟩
    | string h => exact ⟨.string, rfl, _, lineForm_iff.mp h, rfl⟩
  · rintro ⟨t, rfl, h⟩
    cases t with
    | bool =>
      obtain ⟨b, ⟨cs, rfl, hb⟩, rfl⟩ := h
      exact .bool (decodes_boolean.iff.mpr hb)
    | int =>
      obtain ⟨i, ⟨cs, rfl, hi⟩, rfl⟩ := h
      exact .int (decodes_integer.iff.mpr hi)
    | float =>
      obtain ⟨x, ⟨cs, rfl, hx⟩, rfl⟩ := h
      exact .float (decodes_float.iff.mpr hx)
    | string =>
      obtain ⟨s, hs, rfl⟩ := h
      exact .string (lineForm_iff.mpr hs)

/-- Among lexemes that come from a text, the form says what the phrase says. -/
structure Describes {α : Type} (form : (w rest : List Lexeme) → α → Prop) (P : Phrase α) :
    Prop where
  iff : ∀ {w rest a}, Lexed (w ++ rest) → (form w rest a ↔ P w rest a)

theorem line_describes : Describes LineForm Phrase.text := ⟨fun _ => lineForm_iff⟩

theorem price_describes :
    Describes (fun w _ => ValueForm .number IsNatural w) (Phrase.field .number Decoder.unsigned) :=
  ⟨fun _ => decodes_natural.value_iff⟩

theorem icon_describes : Describes (fun w _ => IconForm w) Phrase.icon :=
  ⟨fun hlexed => iconForm_iff hlexed⟩

/-- An item, the gap after it, and an argument whose form is known. -/
theorem Describes.itemThenGap_seq_iff {α : Type} {form : (w rest : List Lexeme) → α → Prop}
    {P : Phrase α} (hform : Describes form P) (hlexed : Lexed (w ++ rest))
    {f : Item → α → Command} {c : Command} :
    (Phrase.itemThenGap.seq fun i => P.map (f i)) w rest c ↔
      ∃ u gap v i a, w = u ++ ⟨.whitespace, gap⟩ :: v ∧
        ItemForm u (⟨.whitespace, gap⟩ :: (v ++ rest)) i ∧ form v rest a ∧ f i a = c := by
  constructor
  · rintro ⟨_, v, i, rfl, ⟨u, _, _, rfl, hi, ⟨_, ⟨gap, rfl, -⟩, rfl⟩⟩, a, ha, rfl⟩
    have hsplit : u ++ [⟨.whitespace, gap⟩] ++ v ++ rest =
        u ++ ⟨.whitespace, gap⟩ :: (v ++ rest) := by simp
    rw [hsplit] at hlexed
    exact ⟨u, gap, v, _, a, by simp, (itemForm_iff hlexed).mpr hi,
      (hform.iff hlexed.right.tail).mpr ha, rfl⟩
  · rintro ⟨u, gap, v, i, a, rfl, hi, ha, rfl⟩
    have hsplit : u ++ ⟨.whitespace, gap⟩ :: v ++ rest =
        u ++ ⟨.whitespace, gap⟩ :: (v ++ rest) := by simp
    rw [hsplit] at hlexed
    exact ⟨u ++ [_], v, i, by simp, ⟨u, [_], i, rfl, (itemForm_iff hlexed).mp hi, _,
      ⟨gap, rfl, rfl⟩, rfl⟩, a, (hform.iff hlexed.right.tail).mp ha, rfl⟩

theorem ArgumentsForm.exists_word (hlexed : Lexed (w ++ rest)) {s : String} {c : Command}
    (h : ArgumentsForm rest s w c) :
    ∃ word : CommandWord, Worded.word word = s ∧ word ≠ .endif ∧
      Phrase.arguments word w rest c := by
  cases h with
  | needs => exact ⟨.includeHeader, rfl, nofun, _, ⟨_, rfl, rfl⟩, rfl⟩
  | forbids => exact ⟨.excludeHeader, rfl, nofun, _, ⟨_, rfl, rfl⟩, rfl⟩
  | add hi => exact ⟨.add, rfl, nofun, _, (itemForm_iff hlexed).mp hi, rfl⟩
  | remove hi => exact ⟨.remove, rfl, nofun, _, (itemForm_iff hlexed).mp hi, rfl⟩
  | name hi hs =>
    exact ⟨.name, rfl, nofun, (line_describes.itemThenGap_seq_iff hlexed).mpr
      ⟨_, _, _, _, _, rfl, hi, hs, rfl⟩⟩
  | display hi hs =>
    exact ⟨.display, rfl, nofun, (line_describes.itemThenGap_seq_iff hlexed).mpr
      ⟨_, _, _, _, _, rfl, hi, hs, rfl⟩⟩
  | description hi hs =>
    exact ⟨.description, rfl, nofun,
      (line_describes.itemThenGap_seq_iff hlexed).mpr
        ⟨_, _, _, _, _, rfl, hi, hs, rfl⟩⟩
  | price hi hn =>
    exact ⟨.price, rfl, nofun,
      (price_describes.itemThenGap_seq_iff hlexed).mpr
        ⟨_, _, _, _, _, rfl, hi, hn, rfl⟩⟩
  | icon hi hc =>
    exact ⟨.icon, rfl, nofun, (icon_describes.itemThenGap_seq_iff hlexed).mpr
      ⟨_, _, _, _, _, rfl, hi, hc, rfl⟩⟩
  | parameter ht hd =>
    obtain ⟨type, rfl, hdefault⟩ := defaultForm_iff.mp hd
    exact ⟨.parameter, rfl, nofun, [_], _, _, rfl, ⟨_, rfl, rfl⟩, Phrase.gap_before_iff.mpr
      ⟨_, _, rfl, Phrase.word_seq_iff.mpr ⟨type, _, _, rfl, ht, Phrase.token_before_iff.mpr
        ⟨_, _, rfl, _, hdefault, rfl⟩⟩⟩⟩
  | setState hu => exact ⟨.setState, rfl, nofun, _, uberForm_iff.mp hu, rfl⟩
  | ifState hu hs =>
    exact ⟨.ifState, rfl, nofun, _, _, _, rfl, uberForm_iff.mp hu, Phrase.bar_before_iff.mpr
      ⟨_, _, rfl, _, decodes_written.value_iff.mp hs, rfl⟩⟩

theorem ArgumentsForm.of_arguments (hlexed : Lexed (w ++ rest)) {word : CommandWord}
    (hword : word ≠ .endif) {c : Command} (h : Phrase.arguments word w rest c) :
    ArgumentsForm rest (Worded.word word) w c := by
  cases word with
  | includeHeader =>
    obtain ⟨s, ⟨cs, rfl, rfl⟩, rfl⟩ := h
    exact .needs
  | excludeHeader =>
    obtain ⟨s, ⟨cs, rfl, rfl⟩, rfl⟩ := h
    exact .forbids
  | add =>
    obtain ⟨i, hi, rfl⟩ := h
    exact .add ((itemForm_iff hlexed).mpr hi)
  | remove =>
    obtain ⟨i, hi, rfl⟩ := h
    exact .remove ((itemForm_iff hlexed).mpr hi)
  | name =>
    obtain ⟨u, gap, v, i, s, rfl, hi, hs, rfl⟩ :=
      (line_describes.itemThenGap_seq_iff hlexed).mp h
    exact .name hi hs
  | display =>
    obtain ⟨u, gap, v, i, s, rfl, hi, hs, rfl⟩ :=
      (line_describes.itemThenGap_seq_iff hlexed).mp h
    exact .display hi hs
  | description =>
    obtain ⟨u, gap, v, i, s, rfl, hi, hs, rfl⟩ :=
      (line_describes.itemThenGap_seq_iff hlexed).mp h
    exact .description hi hs
  | price =>
    obtain ⟨u, gap, v, i, n, rfl, hi, hn, rfl⟩ :=
      (price_describes.itemThenGap_seq_iff hlexed).mp h
    exact .price hi hn
  | icon =>
    obtain ⟨u, gap, v, i, c, rfl, hi, hc, rfl⟩ :=
      (icon_describes.itemThenGap_seq_iff hlexed).mp h
    exact .icon hi hc
  | parameter =>
    obtain ⟨_, w₁, _, rfl, ⟨name, rfl, rfl⟩, h₁⟩ := h
    obtain ⟨gap, w₂, rfl, h₂⟩ := Phrase.gap_before_iff.mp h₁
    obtain ⟨type, cs, w₃, rfl, ht, h₃⟩ := Phrase.word_seq_iff.mp h₂
    obtain ⟨colon, v, rfl, d, hd, rfl⟩ := Phrase.token_before_iff.mp h₃
    exact .parameter ht (defaultForm_iff.mpr ⟨type, rfl, hd⟩)
  | setState =>
    obtain ⟨u, hu, rfl⟩ := h
    exact .setState (uberForm_iff.mpr hu)
  | ifState =>
    obtain ⟨u, w₁, id, rfl, hu, h₁⟩ := h
    obtain ⟨bar, v, rfl, s, hs, rfl⟩ := Phrase.bar_before_iff.mp h₁
    exact .ifState (uberForm_iff.mpr hu) (decodes_written.value_iff.mpr hs)
  | endif => exact absurd rfl hword

/-- In front of what follows it in a text, the phrase of commands has the form of a command. -/
theorem commandForm_iff (hlexed : Lexed (w ++ rest)) {c : Command} :
    CommandForm w rest c ↔ Phrase.command w rest c := by
  constructor
  · intro h
    cases h with
    | endif hs => exact Phrase.word_seq_iff.mpr ⟨.endif, _, _, rfl, hs, rfl, rfl⟩
    | other hs ha =>
      obtain ⟨word, rfl, hword, hargs⟩ := ArgumentsForm.exists_word hlexed.tail.tail ha
      refine Phrase.word_seq_iff.mpr ⟨word, _, _, rfl, hs, ?_⟩
      rw [if_neg hword]
      exact Phrase.gap_before_iff.mpr ⟨_, _, rfl, hargs⟩
  · intro h
    obtain ⟨word, cs, w₁, rfl, hs, h₁⟩ := Phrase.word_seq_iff.mp h
    by_cases hword : word = .endif
    · subst hword
      obtain ⟨rfl, rfl⟩ := h₁
      exact .endif hs
    · rw [if_neg hword] at h₁
      obtain ⟨gap, w₂, rfl, hargs⟩ := Phrase.gap_before_iff.mp h₁
      exact .other hs (.of_arguments hlexed.tail.tail hword hargs)

end

/-! ### Where commands are read -/

section
variable (text : List Char) (n : Nat)

/-- The rule takes the tokens of a form and yields what the form says. -/
theorem command_ok_iff (c' : Cursor) (a : Command) :
    (∃ b, Grammar.command (.atOffset text n) = .ok b c' ∧ b.relocate forget = a) ↔
      ∃ w, (Cursor.atOffset text n).Passes w c' ∧ CommandForm w c'.ahead a := by
  have hlexed : Lexed (Cursor.atOffset text n).ahead := lexed_lexemes _
  rw [Grammar.command_reads _ hlexed c' a]
  constructor
  · rintro ⟨w, hw, hp⟩
    exact ⟨w, hw, (commandForm_iff (hw.ahead ▸ hlexed)).mpr hp⟩
  · rintro ⟨w, hw, hp⟩
    exact ⟨w, hw, (commandForm_iff (hw.ahead ▸ hlexed)).mp hp⟩

/-- A form ahead is what it takes for the rule to succeed. -/
theorem command_succeeds_iff :
    (∃ b c', Grammar.command (.atOffset text n) = .ok b c') ↔
      ∃ w rest a, lexemes (text.drop n) = w ++ rest ∧ CommandForm w rest a := by
  constructor
  · rintro ⟨b, c', hb⟩
    obtain ⟨w, hw, hp⟩ := (command_ok_iff text n c' _).mp ⟨b, hb, rfl⟩
    exact ⟨w, c'.ahead, _, hw.ahead, hp⟩
  · rintro ⟨w, rest, a, hahead, hp⟩
    obtain ⟨c', hw, rfl⟩ := Cursor.exists_passes (c := .atOffset text n) hahead
    obtain ⟨b, hb, -⟩ := (command_ok_iff text n c' a).mpr ⟨w, hw, hp⟩
    exact ⟨b, c', hb⟩

/-- **A command is read exactly where the form of a command lies ahead.**  At any offset of a text
the rule succeeds if the tokens from there on begin with such a form, and faults the text
otherwise; it takes the tokens of the form, no more and no less, and yields what the form says.

No word with a character beyond ASCII is a keyword, and it makes no difference whether the case of
all letters is dropped or of ASCII letters only. -/
theorem command_iff_form :
    ((∃ b c', Grammar.command (.atOffset text n) = .ok b c') ↔
        ∃ w rest a, lexemes (text.drop n) = w ++ rest ∧ CommandForm w rest a) ∧
      (∀ c' a,
        (∃ b, Grammar.command (.atOffset text n) = .ok b c' ∧ b.relocate forget = a) ↔
          ∃ w, (Cursor.atOffset text n).Passes w c' ∧ CommandForm w c'.ahead a) ∧
      ((¬ ∃ w rest a, lexemes (text.drop n) = w ++ rest ∧ CommandForm w rest a) →
        ∃ fault c', Grammar.command (.atOffset text n) = .error fault c') ∧
      ∀ {α : Type} (table : List (String × α)), table.map Prod.fst ⊆ keywords → ∀ cs,
        (∀ a, keyword? table cs = some a → ∀ c ∈ cs, c.toNat < 128) ∧
          ∀ ds, Lowered cs ds → lookup? table (String.ofList ds) = keyword? table cs := by
  refine ⟨command_succeeds_iff text n, command_ok_iff text n, fun hno => ?_, ?_⟩
  · rw [← command_succeeds_iff] at hno
    cases h : Grammar.command (.atOffset text n) with
    | ok b c' => exact absurd ⟨b, c', h⟩ hno
    | error fault c' => exact ⟨fault, c', rfl⟩
  · intro α table htable cs
    exact ⟨fun a ha => ascii_of_keyword? htable ha, fun ds hds => lookup?_of_lowered htable hds⟩

end

end SeedHeader
