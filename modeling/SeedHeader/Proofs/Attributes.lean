import SeedHeader.Proofs.Acceptance
import SeedHeader.Proofs.Rereading
import SeedHeader.Proofs.CommandForms
import SeedHeader.Proofs.FirmTokens

/-!
# Proofs — What can be said about an item

The commands `name`, `display`, `description`, `price` and `icon` say something about an item: the
item comes first, then a gap, and then what is said.

An item that can be added can stand there unless it is a message (`attribute_iff_not_message`).  The
tokens of any other item stay the same in front of a gap.  A message does not end there: it goes on
through the gap and what is said, and then there is no gap left.
-/

namespace SeedHeader

open Lexeme Rule Grammar Script

/-! ### What is said -/

/-- The words for what can be said about an item. -/
def attributeWords : List CommandWord := [.name, .display, .description, .price, .icon]

/-- A text that stands on one line without blanks around it, and without two slashes in a row. -/
structure IsCaption (cs : List Char) : Prop where
  ne_nil : cs ≠ []
  trimmed : Text.trim cs = cs
  not_lineEnd : ∀ c ∈ cs, isLineEnd c = false
  slashes : ¬ ['/', '/'] <:+: cs

/-- What the characters `cs` say about an item after the given word, as a command. -/
inductive AttributeForm : (word : CommandWord) → (cs : List Char) → (Item → Command) → Prop where
  | name {cs : List Char} (h : IsCaption cs) :
      AttributeForm .name cs fun i => .name (bare i) (String.ofList cs)
  | display {cs : List Char} (h : IsCaption cs) :
      AttributeForm .display cs fun i => .display (bare i) (String.ofList cs)
  | description {cs : List Char} (h : IsCaption cs) :
      AttributeForm .description cs fun i => .description (bare i) (String.ofList cs)
  | price {cs : List Char} {n : Value Nat} (h : ValueForm .number IsNatural (lexemes cs) n) :
      AttributeForm .price cs fun i => .price (bare i) (bare n)
  | icon {cs : List Char} {c : Icon} (h : IconForm (lexemes cs) c) :
      AttributeForm .icon cs fun i => .icon (bare i) (bare c)

theorem commentFree_of_slashes {cs : List Char} (h : ¬ ['/', '/'] <:+: cs) (quoted : Bool) :
    commentFree quoted cs := by
  induction cs generalizing quoted with
  | nil => rfl
  | cons c cs ih =>
    have hrest : ¬ ['/', '/'] <:+: cs := fun h' => h (h'.trans (List.suffix_cons c cs).isInfix)
    have hfirst : ¬ (c = '/' ∧ cs.head? = some '/') := by
      rintro ⟨rfl, hhead⟩
      obtain ⟨ds, rfl⟩ := List.head?_eq_some_iff.mp hhead
      exact h (List.prefix_append ['/', '/'] ds).isInfix
    rw [commentFree, ih hrest, Bool.and_true]
    simpa using .inr (not_and_or.mp hfirst)

theorem IsCaption.isText {cs : List Char} (h : IsCaption cs) : IsText (String.ofList cs) := by
  rw [IsText, String.toList_ofList]
  exact ⟨h.ne_nil, h.trimmed, h.not_lineEnd, commentFree_of_slashes h.slashes false⟩

/-- A caption is all that is left of its line. -/
theorem IsCaption.lineForm {cs : List Char} (h : IsCaption cs) :
    LineForm (lexemes cs) [] (String.ofList cs) := by
  obtain ⟨w, hw, hp⟩ := (writes_free h.isText).cut _ rfl [] nofun
  simp only [String.toList_ofList, List.append_nil, lexemes_nil] at hw hp
  rw [hw]
  exact lineForm_iff.mpr hp

/-- A text whose first token is no whitespace does not start with a blank. -/
theorem solid_of_firstType {cs : List Char} (h : firstType (lexemes cs) ≠ .whitespace) :
    Meets solid cs := by
  cases cs with
  | nil => exact nofun
  | cons c cs =>
    rintro d ⟨⟩
    by_contra hd
    have hc : isPadding c := by simpa [solid] using hd
    have hn : c ≠ '\n' := ne_of_class hc (by decide)
    have hr : c ≠ '\r' := ne_of_class hc (by decide)
    refine h ?_
    rw [lexemes_cons, firstType_cons, cut, extent, if_neg hn, if_neg hr, if_pos hc]

/-- A text is on one line exactly if it is cut without a newline. -/
theorem lexemes_oneLine_iff {cs : List Char} :
    (∀ l ∈ lexemes cs, l.type ≠ .newline) ↔ ∀ c ∈ cs, isLineEnd c = false := by
  rw [oneLine_iff fun l => shaped_of_mem, charsOf_lexemes]

theorem IconForm.types {w : List Lexeme} {c : Icon} (h : IconForm w c) :
    firstType w = .identifier ∧ ∀ l ∈ w, l.type ≠ .newline := by
  cases h with
  | numbered | file => exact ⟨rfl, by simp⟩

theorem ValueForm.types {α : Type} {means : List Char → α → Prop} {w : List Lexeme} {v : Value α}
    (h : ValueForm .number means w v) :
    firstType w ≠ .whitespace ∧ ∀ l ∈ w, l.type ≠ .newline := by
  refine ⟨?_, fun l hl hn => ?_⟩
  · cases h with
    | literal => nofun
    | parameter h => cases h; nofun
  · have := h.firm trivial l hl
    rw [hn] at this
    exact this

namespace AttributeForm

variable {word : CommandWord} {cs : List Char} {make : Item → Command}

theorem word_mem (h : AttributeForm word cs make) : word ∈ attributeWords := by
  cases h <;> decide

/-- What is said is on one line. -/
theorem not_lineEnd (h : AttributeForm word cs make) : ∀ c ∈ cs, isLineEnd c = false := by
  cases h with
  | name h | display h | description h => exact h.not_lineEnd
  | price h => exact lexemes_oneLine_iff.mp h.types.2
  | icon h => exact lexemes_oneLine_iff.mp h.types.2

/-- What is said does not start with a blank. -/
theorem meets_solid (h : AttributeForm word cs make) : Meets solid cs := by
  have hcaption : IsCaption cs → Meets solid cs := fun h => by
    simpa using begins_free h.isText _ rfl []
  cases h with
  | name h | display h | description h => exact hcaption h
  | price h => exact solid_of_firstType h.types.1
  | icon h => exact solid_of_firstType (by rw [h.types.1]; nofun)

/-- Behind an item and a gap it is what the word takes as its arguments. -/
theorem arguments (h : AttributeForm word cs make) {w : List Lexeme} {gap : List Char} {i : Item}
    (hlexed : Lexed (w ++ ⟨.whitespace, gap⟩ :: lexemes cs))
    (hi : ItemForm w (⟨.whitespace, gap⟩ :: lexemes cs) i) :
    Phrase.arguments word (w ++ ⟨.whitespace, gap⟩ :: lexemes cs) [] (make i) := by
  rw [← List.append_nil (lexemes cs)] at hi
  rw [← List.append_nil (w ++ _)] at hlexed
  cases h with
  | name h | display h | description h =>
    exact (line_describes.itemThenGap_seq_iff hlexed).mpr
      ⟨w, gap, _, i, _, rfl, hi, h.lineForm, rfl⟩
  | price h =>
    exact (price_describes.itemThenGap_seq_iff hlexed).mpr ⟨w, gap, _, i, _, rfl, hi, h, rfl⟩
  | icon h =>
    exact (icon_describes.itemThenGap_seq_iff hlexed).mpr ⟨w, gap, _, i, _, rfl, hi, h, rfl⟩

end AttributeForm

/-! ### Commands on a line -/

/-- A command that is a whole text: two bangs, the word, a space, and what follows it. -/
def commandText (word : CommandWord) (rest : List Char) : List Char :=
  '!' :: '!' :: ((Worded.word word).toList ++ ' ' :: rest)

theorem length_commandText (word : CommandWord) (g r : List Char) :
    (commandText word (g ++ r)).length = (commandText word g).length + r.length := by
  simp only [commandText, List.length_cons, List.length_append]
  omega

theorem keyword_of_spells {α : Type} [Worded α] {what : Suggestion} {c : Cursor} {cs : List Char}
    (hc : c.lexeme = ⟨.identifier, cs⟩) {a : α} (hs : Spells (Worded.word a) cs) :
    keyword (Worded.table α) what c = .ok a c.next := by
  have htype : c.type = .identifier := by rw [Cursor.type, hc]
  rw [keyword, eatFor, bind_of_ok ((accept_apply _ _ _).trans (if_pos htype)), hc,
    keyword?_table_iff.mpr hs]
  rfl

theorem command_of_word {word : CommandWord} (hword : word ≠ .endif) {c : Cursor} {cs : List Char}
    (hc : c.lexeme = ⟨.identifier, cs⟩) (hs : Spells (Worded.word word) cs)
    (hgap : c.next.type = .whitespace) :
    Grammar.command c = Grammar.arguments word c.next.next := by
  rw [Grammar.command, bind_of_ok (keyword_of_spells hc hs), if_neg hword]
  exact bind_of_ok (bind_of_ok ((accept_apply _ _ _).trans (if_pos hgap)))

/-- Two bangs introduce a command. -/
theorem statementBody_of_bangs (skip : Bool) {c : Cursor} (h : c.type = .bang)
    (h' : c.next.type = .bang) :
    statementBody skip c =
      (Grammar.command >>= fun a => pure (Content.command a)) c.next.next := by
  rw [statementBody, peek_bind, h]
  exact (bind_of_ok (take_apply c)).trans
    ((marked_of_bang skip h').trans (bind_of_ok ((accept_apply _ _ _).trans (if_pos h'))))

section
variable {word : CommandWord} {g r : List Char} (hg : ∀ c ∈ g, isPadding c) (hr : Meets solid r)

include hg hr

theorem lexemes_commandText :
    lexemes (commandText word (g ++ r)) =
      ⟨.bang, ['!']⟩ :: ⟨.bang, ['!']⟩ :: ⟨.identifier, (Worded.word word).toList⟩ ::
        ⟨.whitespace, ' ' :: g⟩ :: lexemes r := by
  have hbang : ∀ k, lexemes ('!' :: k) = ⟨.bang, ['!']⟩ :: lexemes k := lexemes_mark .bang
  have hgap : lexemes (' ' :: (g ++ r)) = ⟨.whitespace, ' ' :: g⟩ :: lexemes r :=
    lexemes_padding (by simp) (List.forall_mem_cons.mpr ⟨rfl, hg⟩)
      fun c hc => by simpa [solid] using hr c hc
  rw [commandText, hbang, hbang, lexemes_word (isSmall_word word).isWord ?_, hgap]
  rintro c ⟨⟩
  decide

/-- Behind its word, the command is its arguments. -/
theorem statementBody_commandText (skip : Bool) (hword : word ≠ .endif) :
    statementBody skip (.ofText (commandText word (g ++ r))) =
      (Grammar.arguments word >>= fun a => pure (Content.command a))
        ⟨(commandText word g).length, lexemes r⟩ := by
  have htext : Cursor.ofText (commandText word (g ++ r)) =
      ⟨0, ⟨.bang, ['!']⟩ :: ⟨.bang, ['!']⟩ :: ⟨.identifier, (Worded.word word).toList⟩ ::
        ⟨.whitespace, ' ' :: g⟩ :: lexemes r⟩ := by
    rw [Cursor.ofText, lexemes_commandText hg hr]
  have hpos : (commandText word g).length =
      0 + 1 + 1 + (Worded.word word).toList.length + (' ' :: g).length := by
    simp only [commandText, List.length_cons, List.length_append]
    omega
  rw [htext, statementBody_of_bangs skip rfl rfl, hpos]
  simp only [bind, EStateM.bind]
  rw [command_of_word hword rfl (isSmall_word word).spells rfl]
  rfl

end

/-- A command opens as a statement does. -/
theorem opens_commandText (word : CommandWord) (s : List Char) :
    isBetween (Cursor.ofText (commandText word s)).type = false ∧
      (Cursor.ofText (commandText word s)).type ≠ .eof := by
  have htype : (Cursor.ofText (commandText word s)).type = .bang :=
    congrArg firstType (lexemes_mark .bang _)
  rw [htype]
  exact ⟨rfl, nofun⟩

theorem exists_padding_append (s : List Char) :
    ∃ g r, s = g ++ r ∧ (∀ c ∈ g, isPadding c) ∧ Meets solid r := by
  refine ⟨s.takeWhile isPadding, s.dropWhile isPadding, ?_, ?_, ?_⟩
  · rw [List.takeWhile_append_dropWhile]
  · exact List.all_eq_true.mp List.all_takeWhile
  · intro c hc
    simpa [solid] using stop_dropWhile isPadding s c hc

/-! ### One statement in a text -/

section
variable {text : List Char} (hb : isBetween (Cursor.ofText text).type = false)
  (he : (Cursor.ofText text).type ≠ .eof)

include hb he

/-- If a text is one content, the statement at its start is that content. -/
theorem statement_of_parse {x : Located Content} (h : parse text = .ok [x]) :
    ∃ c', statement false (.ofText text) = .ok x c' := by
  obtain ⟨hfaults, hcontents⟩ := parse_eq_ok.mp h
  rw [Reading.ofText, Reading.ofCursor] at hfaults hcontents
  have hround := Reading.round_of_opening false hb he
  obtain ⟨r, next, hr⟩ : ∃ r next, Reading.ofStatement false (.ofText text) = (r, next) :=
    ⟨_, _, rfl⟩
  rw [hr] at hround
  -- what is read first has no faults, and its content comes first
  have hfirst : r.faults = [] ∧ r.contents <+: [x] := by
    cases next with
    | none =>
      rw [Reading.ofCursorFrom_of_none hround] at hfaults hcontents
      exact ⟨hfaults, hcontents ▸ List.prefix_rfl⟩
    | some c' =>
      rw [Reading.ofCursorFrom_of_some hround] at hfaults hcontents
      exact ⟨(List.append_eq_nil_iff.mp hfaults).1, _, hcontents⟩
  have hfaults : (Reading.ofStatement false (.ofText text)).1.faults = [] := by rw [hr, hfirst.1]
  have hlexed : Lexed (Cursor.ofText text).ahead := lexed_lexemes text
  obtain ⟨y, c', hs, -⟩ := (Reading.ofStatement_ok_iff hlexed).mp hfaults
  have hy : r.contents = [y] := by
    rw [Reading.ofStatement_of_ok hs] at hr
    split_ifs at hr <;> exact (Prod.mk.inj hr).1 ▸ rfl
  rw [hy] at hfirst
  obtain rfl : y = x := by simpa using hfirst.2
  exact ⟨c', hs⟩

/-- A fault in a text of one line is the only one. -/
theorem ofText_of_error (hline : ∀ c ∈ text, isLineEnd c = false) {fault : Fault} {c' : Cursor}
    (h : statement false (.ofText text) = .error fault c') :
    Reading.ofText text = ⟨[], [fault], false⟩ := by
  obtain ⟨t, ht, ht', -⟩ := (statement_steady false).error h
  obtain ⟨w, hw, -⟩ := ht.trans ht'
  have hnext : c'.nextLine.ahead = [] := by
    have hnone : c'.ahead.dropWhile (fun l => l.type ≠ .newline) = [] := by
      rw [List.dropWhile_eq_nil_iff]
      intro m hm
      have hmem : m ∈ (Cursor.ofText text).ahead := hw.ahead ▸ List.mem_append_right w hm
      simpa using lexemes_oneLine_iff.mpr hline m hmem
    rw [Cursor.nextLine, Cursor.next, Cursor.skipWhile, hnone]
    rfl
  have hround := Reading.round_of_opening false hb he
  rw [Reading.ofStatement, h] at hround
  rw [Reading.ofText, Reading.ofCursor, Reading.ofCursorFrom_of_some hround]
  rw [show c'.nextLine = ⟨c'.nextLine.pos, []⟩ by rw [← hnext], Reading.ofCursorFrom_nil]
  rfl

end

/-! ### Items in front of a gap -/

/-- Tokens that a free text passes are a free text. -/
theorem isFree_of_textual {w : List Lexeme} (h : Lexed w) (hw : ∀ l ∈ w, isTextual l.type) :
    IsFree (charsOf w) := by
  have hrun := charsOf_textual (charsOf w)
  rw [(h : lexemes (charsOf w) = w), List.takeWhile_eq_self_iff.mpr hw] at hrun
  rw [hrun]
  exact isFree_freeRun false _

/-- An item starts with a number, so with no blank. -/
theorem ItemForm.meets_solid {r : List Char} {rest : List Lexeme} {i : Item}
    (h : ItemForm (lexemes r) rest i) (k : List Char) : Meets solid (r ++ k) := by
  have hne : r ≠ [] := by
    rintro rfl
    cases h
  have hr : Meets solid r := by
    refine solid_of_firstType ?_
    generalize lexemes r = w at h
    cases h
    nofun
  rw [Meets, List.head?_append_of_ne_nil r hne]
  exact hr

theorem ItemForm.exists_of_message {w rest : List Lexeme} {i : Item} (h : ItemForm w rest i)
    (hlexed : Lexed w) (hm : i.IsMessage) :
    ∃ kind bar v, w = ⟨.number, kind⟩ :: ⟨.separator, bar⟩ :: v ∧ IsNatural kind 6 ∧
      IsFree (charsOf v) ∧ Text.trim (charsOf v) ≠ [] := by
  obtain ⟨hk, hf⟩ := h
  cases hf with
  | message hw _ hne =>
    have hfree := isFree_of_textual hlexed.tail.tail fun l hl => by simpa [isTextual] using hw l hl
    exact ⟨_, _, _, rfl, hk, hfree, hne⟩
  | _ => cases hm

/-- A message takes all of a free text that is not blank. -/
theorem exists_message {cs : List Char} (h : Text.trim (freeRun false cs) ≠ []) :
    ∃ w rest i, lexemes cs = w ++ rest ∧ firstType rest ≠ .whitespace ∧
      FieldsForm rest 6 w i := by
  obtain ⟨w, rest, hsplit, hchars, htext, hstop⟩ := exists_textual_append cs
  have hends : ∀ l ∈ rest.head?, l.type = .newline ∨ l.type = .comment := fun l hl => by
    simpa [isTextual, or_iff_not_imp_left] using hstop l hl
  have htype : firstType rest ≠ .whitespace := by
    cases rest with
    | nil => decide
    | cons l rest =>
      rcases hends l rfl with hl | hl <;> simp [hl]
  rw [← hchars] at h
  exact ⟨w, rest, _, hsplit, htype,
    .message (fun l hl => by simpa [isTextual] using htext l hl) hends h⟩

theorem Cursor.Passes.ahead_eq_nil {r : List Char} {n : Nat} {w : List Lexeme} {c' : Cursor}
    (h : Cursor.Passes ⟨n, lexemes r⟩ w c') (hpos : c'.pos = n + r.length) : c'.ahead = [] := by
  have hchars : r = charsOf w ++ charsOf c'.ahead := by
    rw [← charsOf_append, ← h.ahead, charsOf_lexemes]
  have hlength : r.length = (charsOf w).length := Nat.add_left_cancel (hpos.symm.trans h.pos)
  have hnone : charsOf c'.ahead = [] := by
    have := congrArg List.length hchars
    rw [List.length_append] at this
    exact List.eq_nil_of_length_eq_zero (by omega)
  rw [← (h.lexed (lexed_lexemes r) : lexemes _ = _), hnone]
  rfl

/-- An item that is added at the end of a text has the form of an item. -/
theorem itemForm_of_add {s : List Char} {span : Span} {i : Located Item}
    (hadd : parse (commandText .add s) = .ok [⟨span, .command (.add i)⟩])
    (hstop : i.span.stop = (commandText .add s).length) :
    ∃ g r, s = g ++ r ∧ (∀ c ∈ g, isPadding c) ∧
      ItemForm (lexemes r) [] (i.val.relocate forget) := by
  obtain ⟨g, r, rfl, hg, hr⟩ := exists_padding_append s
  refine ⟨g, r, rfl, hg, ?_⟩
  obtain ⟨hb, he⟩ := opens_commandText .add (g ++ r)
  obtain ⟨c', hstatement⟩ := statement_of_parse hb he hadd
  have hbody := (located_ok hstatement).1
  have hword : CommandWord.add ≠ .endif := nofun
  rw [statementBody_commandText hg hr false hword] at hbody
  obtain ⟨a, c₁, hargs, hpure⟩ := bind_ok hbody
  cases hpure
  obtain ⟨j, c₂, hitem, hpure⟩ := bind_ok hargs
  cases hpure
  obtain ⟨w, hw, hp⟩ := item_reads.ok (lexed_lexemes r) hitem
  have hnil : c'.ahead = [] := by
    rw [(located_ok hitem).2, length_commandText] at hstop
    exact hw.ahead_eq_nil hstop
  have hsplit : lexemes r = w ++ c'.ahead := hw.ahead
  have hlexed : Lexed (w ++ c'.ahead) := hsplit ▸ lexed_lexemes r
  rw [hsplit, hnil, List.append_nil, ← hnil]
  exact (itemForm_iff hlexed).mpr hp

/-- Without a gap behind the item nothing is said about it. -/
theorem arguments_of_no_gap {word : CommandWord} (hword : word ∈ attributeWords) {c c' : Cursor}
    {j : Located Item} (h : item c = .ok j c') (hgap : c'.type ≠ .whitespace) :
    Grammar.arguments word c = .error ⟨.expectedToken .whitespace, c'.span⟩ c' := by
  have hitem : itemThenGap c = .error ⟨.expectedToken .whitespace, c'.span⟩ c' :=
    (bind_of_ok h).trans
      (bind_of_error (bind_of_error ((accept_apply _ _ _).trans (if_neg hgap))))
  simp only [attributeWords, List.mem_cons, List.not_mem_nil, or_false] at hword
  rcases hword with rfl | rfl | rfl | rfl | rfl <;> exact bind_of_error hitem

theorem clear_gap (cs : List Char) : Meets clear (' ' :: cs) := by
  rintro c ⟨⟩
  decide

section
variable {word : CommandWord} {g r cs : List Char} {i : Item} (hg : ∀ c ∈ g, isPadding c)
  (hi : ItemForm (lexemes r) [] i)

include hg hi

/-- Something is said about an item that is no message. -/
theorem parse_attribute {make : Item → Command} (hm : ¬ i.IsMessage)
    (h : AttributeForm word cs make) :
    ∃ x, parse (commandText word (g ++ (r ++ ' ' :: cs))) = .ok [x] ∧
      x.eraseContent = .command (make i) := by
  have hword : word ≠ .endif := by
    rintro rfl
    exact absurd h.word_mem (by decide)
  have hgap : lexemes (' ' :: cs) = ⟨.whitespace, [' ']⟩ :: lexemes cs :=
    lexemes_space fun c hc => by simpa [solid] using h.meets_solid c hc
  -- the tokens of the item stay the same
  have hcut : lexemes (r ++ ' ' :: cs) = lexemes r ++ ⟨.whitespace, [' ']⟩ :: lexemes cs := by
    have hlexed : Lexed (lexemes r ++ []) := by
      rw [List.append_nil]
      exact lexed_lexemes r
    simpa [charsOf_lexemes, hgap] using lexemes_append_of_firm hlexed (hi.firm hm) (clear_gap cs)
  have hlexed : Lexed (lexemes r ++ ⟨.whitespace, [' ']⟩ :: lexemes cs) :=
    hcut ▸ lexed_lexemes (r ++ ' ' :: cs)
  obtain ⟨a, c', ha, he, -, hrest⟩ := (arguments_reads word).of_phrase
    (c := ⟨(commandText word g).length, lexemes (r ++ ' ' :: cs)⟩) (lexed_lexemes _)
    (by rw [hcut, List.append_nil]) (h.arguments hlexed (hi.anywhere hm _))
  have hbody := statementBody_commandText hg (hi.meets_solid (' ' :: cs)) false hword
  rw [bind_of_ok ha] at hbody
  have hstatement := located_apply (.ofText (commandText word (g ++ (r ++ ' ' :: cs))))
    (statementBody false)
  rw [hbody] at hstatement
  obtain ⟨pos, ahead⟩ := c'
  obtain rfl : ahead = [] := hrest
  exact ⟨_, parse_of_statement rfl hstatement, congrArg Content.command he⟩

omit hg in
/-- A message goes on through the gap. -/
theorem item_through_gap (cs : List Char) (hm : i.IsMessage) (pos : Nat) :
    ∃ j c', item ⟨pos, lexemes (r ++ ' ' :: cs)⟩ = .ok j c' ∧ c'.type ≠ .whitespace := by
  obtain ⟨kind, bar, w, hw, hk, hfree, hne⟩ := hi.exists_of_message (lexed_lexemes r) hm
  have hchars : r = kind ++ (bar ++ charsOf w) := by
    rw [← charsOf_lexemes r, hw]
    rfl
  -- the number of the kind and the bar stay, and the text becomes longer
  have hcut : lexemes (r ++ ' ' :: cs) =
      ⟨.number, kind⟩ :: ⟨.separator, bar⟩ :: lexemes (charsOf w ++ ' ' :: cs) := by
    rw [hchars]
    have hlexed : Lexed ([⟨.number, kind⟩, ⟨.separator, bar⟩] ++ w) :=
      (hw ▸ lexed_lexemes r : Lexed (_ :: _ :: w))
    simpa using lexemes_append_of_firm hlexed (by simp [IsFirm]) (clear_gap cs)
  obtain ⟨quoted, hmore⟩ := exists_freeRun_append (k := ' ' :: cs) hfree.1 hfree.2 (by simp)
  have hlonger : Text.trim (freeRun false (charsOf w ++ ' ' :: cs)) ≠ [] := by
    rw [hmore]
    intro hblank
    exact hne (Text.trim_eq_nil_iff.mpr fun c hc =>
      Text.trim_eq_nil_iff.mp hblank c (List.mem_append_left _ hc))
  obtain ⟨v, u, j, hsplit, hu, hf⟩ := exists_message hlonger
  have hlexed : Lexed (⟨.number, kind⟩ :: ⟨.separator, bar⟩ :: v ++ u) := by
    rw [List.cons_append, List.cons_append, ← hsplit, ← hcut]
    exact lexed_lexemes _
  obtain ⟨x, c', hx, -, -, hc'⟩ := item_reads.of_phrase (c := ⟨pos, lexemes (r ++ ' ' :: cs)⟩)
    (lexed_lexemes _) (hcut.trans (by rw [hsplit]; rfl)) ((itemForm_iff hlexed).mp (.mk hk hf))
  exact ⟨x, c', hx, by rwa [Cursor.type_eq, hc']⟩

/-- Nothing is said about a message. -/
theorem attribute_of_message (hm : i.IsMessage) (hword : word ∈ attributeWords)
    (hline : ∀ c ∈ g ++ (r ++ ' ' :: cs), isLineEnd c = false) :
    ∃ d, (Reading.ofText (commandText word (g ++ (r ++ ' ' :: cs)))).diagnostics = [d] ∧
      d.message = "Expected whitespace" := by
  have hne : word ≠ .endif := by
    rintro rfl
    exact absurd hword (by decide)
  obtain ⟨j, c', hitem, hgap⟩ := item_through_gap hi cs hm (commandText word g).length
  have hbody := statementBody_commandText hg (hi.meets_solid (' ' :: cs)) false hne
  rw [bind_of_error (arguments_of_no_gap hword hitem hgap)] at hbody
  have hstatement := located_apply (.ofText (commandText word (g ++ (r ++ ' ' :: cs))))
    (statementBody false)
  rw [hbody] at hstatement
  have honeLine : ∀ c ∈ commandText word (g ++ (r ++ ' ' :: cs)), isLineEnd c = false := by
    have hletters : ∀ c ∈ (Worded.word word).toList, isLineEnd c = false :=
      fun c hc => ((isSmall_word word).isWord.plain c hc).1
    exact List.forall_mem_cons.mpr ⟨rfl, List.forall_mem_cons.mpr ⟨rfl,
      List.forall_mem_append.mpr ⟨hletters, List.forall_mem_cons.mpr ⟨rfl, hline⟩⟩⟩⟩
  obtain ⟨hb, he⟩ := opens_commandText word (g ++ (r ++ ' ' :: cs))
  have hread := ofText_of_error hb he honeLine hstatement
  exact ⟨_, congrArg Reading.diagnostics hread, rfl⟩

end

/-! ### Which items something can be said about -/

/-- **Something can be said about an item unless it is a message.**  Let a text of one line add an
item that goes on to the end of the text.  With another word in front of it and something behind it
that is said about an item, the text is read as one command about the same item exactly if the item
is no message.  If it is one, the text has a single fault, whatever stands behind the item on its
line: whitespace was expected. -/
theorem attribute_iff_not_message {s : List Char} {span : Span} {i : Located Item}
    (hs : ∀ c ∈ s, isLineEnd c = false)
    (hadd : parse (commandText .add s) = .ok [⟨span, .command (.add i)⟩])
    (hstop : i.span.stop = (commandText .add s).length) :
    (∀ word cs make, AttributeForm word cs make →
        word ∈ attributeWords ∧ (∀ c ∈ cs, isLineEnd c = false) ∧
          ((∃ x, parse (commandText word (s ++ ' ' :: cs)) = .ok [x] ∧
              x.eraseContent = .command (make (i.val.relocate forget))) ↔ ¬ i.val.IsMessage)) ∧
      (i.val.IsMessage → ∀ word ∈ attributeWords, ∀ cs, (∀ c ∈ cs, isLineEnd c = false) →
        ∃ d, (Reading.ofText (commandText word (s ++ ' ' :: cs))).diagnostics = [d] ∧
          d.message = "Expected whitespace") := by
  obtain ⟨g, r, rfl, hg, hi⟩ := itemForm_of_add hadd hstop
  have hmessage : i.val.IsMessage → ∀ word ∈ attributeWords, ∀ cs,
      (∀ c ∈ cs, isLineEnd c = false) →
        ∃ d, (Reading.ofText (commandText word (g ++ r ++ ' ' :: cs))).diagnostics = [d] ∧
          d.message = "Expected whitespace" := by
    intro hm word hword cs hcs
    rw [List.append_assoc]
    refine attribute_of_message hg hi ((i.val.isMessage_relocate _).mpr hm) hword ?_
    rw [← List.append_assoc]
    exact List.forall_mem_append.mpr ⟨hs, List.forall_mem_cons.mpr ⟨rfl, hcs⟩⟩
  refine ⟨fun word cs make h => ⟨h.word_mem, h.not_lineEnd, ?_, fun hm => ?_⟩, hmessage⟩
  · rintro ⟨x, hx, -⟩ hm
    obtain ⟨d, hd, -⟩ := hmessage hm word h.word_mem cs h.not_lineEnd
    rw [Reading.diagnostics, (parse_eq_ok.mp hx).1] at hd
    cases hd
  · rw [List.append_assoc]
    exact parse_attribute hg hi (mt (i.val.isMessage_relocate _).mp hm) h

/-- Spirit light with a price, and a message with a name. -/
theorem attribute_iff_not_message_price :
    (∃ x, parse "!!price 0|5 100".toList = .ok [x] ∧
        x.eraseContent = .command (.price (bare (.spiritLight (bare (.literal 5)) false))
          (bare (.literal 100)))) ∧
      ∃ d, (Reading.ofText "!!name 6|hi Orb".toList).diagnostics = [d] ∧
        d.message = "Expected whitespace" := by
  have hlight : parse (commandText .add "0|5".toList) =
      .ok [⟨⟨0, 9⟩, .command (.add ⟨⟨6, 9⟩, .spiritLight ⟨⟨8, 9⟩, .literal 5⟩ false⟩)⟩] := by
    rw [parse, Reading.ofText, Reading.ofCursor, Reading.ofCursorFrom_of_none (by rfl)]
    rfl
  have hmessage : parse (commandText .add "6|hi".toList) =
      .ok [⟨⟨0, 10⟩, .command (.add ⟨⟨6, 10⟩, .message "hi"⟩)⟩] := by
    rw [parse, Reading.ofText, Reading.ofCursor, Reading.ofCursorFrom_of_none (by rfl)]
    rfl
  have hprice : AttributeForm .price "100".toList fun i => .price (bare i) (bare (.literal 100)) :=
    .price (.literal (decodes_natural.iff.mpr rfl))
  refine ⟨?_, ?_⟩
  · have hiff := (attribute_iff_not_message (by simp [isLineEnd]) hlight rfl).1 _ _ _ hprice
    exact hiff.2.2.mpr id
  · exact (attribute_iff_not_message (by simp [isLineEnd]) hmessage rfl).2 trivial .name (by decide)
      "Orb".toList (by simp [isLineEnd])

end SeedHeader
