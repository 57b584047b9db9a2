import SeedHeader.Proofs.Placement
import SeedHeader.Proofs.Composition

/-!
# Proofs — Operations on a cursor

A text may be read by hand, one operation after the other: take a token, pass over some, read
a construct of the grammar, or read all that is left.  An operation that fails leaves the cursor
where the fault was found, and the next one goes on from there.

Every operation passes lexemes and puts none back (`Operation.passes`).  So however a cursor was
moved, it stands between two tokens of its text, and what lies ahead of it is what is left of the
text (`Cursor.Passes.eq_atOffset`).  The constructs of the grammar also stay within their line, and
their faults are at tokens they have seen (`cursor_invariant`).
-/

namespace SeedHeader

open Rule Grammar

/-! ### The end of the input -/

namespace Cursor

theorem finish_eq (c : Cursor) : c.finish = ⟨c.pos + (charsOf c.ahead).length, []⟩ := by
  have h : c.ahead.takeWhile (fun _ => true) = c.ahead :=
    List.takeWhile_eq_self_iff.mpr fun _ _ => rfl
  simp [finish, skipWhile, passed, h]

theorem Passes.finish_eq {c c' : Cursor} {w : List Lexeme} (h : c.Passes w c') :
    c'.finish = c.finish := by
  rw [Cursor.finish_eq, Cursor.finish_eq, h.ahead, h.pos, charsOf_append, List.length_append,
    Nat.add_assoc]

theorem eq_finish {c : Cursor} (hi : Inked c.ahead) (h : c.type = .eof) : c = c.finish := by
  obtain ⟨pos, ahead⟩ := c
  obtain rfl : ahead = [] := hi.type_eq_eof_iff.mp h
  simp [finish_eq]

end Cursor

namespace Reading

/-- Where the cursor is after a statement and the rest of its line. -/
def statementStop (skip : Bool) (c : Cursor) : Cursor :=
  match statement skip c with
  | .error _ c => c.nextLine
  | .ok _ c =>
    match endOfLine c with
    | .error _ c => c.nextLine
    | .ok _ c    => c

/-- Where the cursor is after a round. -/
def roundStop (skip : Bool) (c : Cursor) : Cursor :=
  let (_, skip, c) := interlude skip c.pos c.ahead
  if c.type = .eof then c else statementStop skip c

/-- Where the cursor is after the last round. -/
def stopFrom (skip : Bool) (c : Cursor) : Cursor :=
  match _h : round skip c with
  | (_, none)    => roundStop skip c
  | (r, some c') => stopFrom r.skip c'
termination_by c.ahead.length
decreasing_by exact round_length_lt _h

theorem statementStop_of_ok {skip : Bool} {c c₁ c₂ : Cursor} {content : Located Content}
    {ended : Bool} (hs : statement skip c = .ok content c₁) (he : endOfLine c₁ = .ok ended c₂) :
    statementStop skip c = c₂ := by
  unfold statementStop
  rw [hs]
  dsimp only
  rw [he]

/-- If reading ends with a statement, the rest of its line is the rest of the input. -/
theorem statementStop_of_none {skip : Bool} {c : Cursor} (hi : Inked c.ahead)
    (h : (ofStatement skip c).2 = none) : statementStop skip c = c.finish := by
  cases hs : statement skip c with
  | error fault c₁ =>
    unfold ofStatement at h
    rw [hs] at h
    cases h
  | ok content c₁ =>
    obtain ⟨w, hw, -⟩ := (statement_steady skip).ok hs
    have hp := hw.trans (Cursor.passes_skipWhile isTrailing c₁)
    rw [ofStatement_of_ok hs] at h
    split at h
    · next heof =>
      rw [statementStop_of_ok hs ((endOfLine_apply c₁).trans (if_pos heof)), ← hp.finish_eq]
      exact Cursor.eq_finish (hp.ahead ▸ hi).right heof
    split at h
    · cases h
    · cases h

/-- The last round ends at the end of the input. -/
theorem roundStop_of_none {skip : Bool} {c : Cursor} {r : Reading} (hi : Inked c.ahead)
    (h : round skip c = (r, none)) : roundStop skip c = c.finish := by
  obtain ⟨documentation, skip', c₁, w, e, hw⟩ := exists_interlude skip c
  have hi₁ : Inked c₁.ahead := (hw.ahead ▸ hi).right
  have hfinish : c₁.finish = c.finish := hw.finish_eq
  rw [roundStop, e]
  by_cases hc : c₁.type = .eof
  · simp only [if_pos hc]
    rw [← hfinish]
    exact Cursor.eq_finish hi₁ hc
  · simp only [if_neg hc]
    rw [← hfinish]
    rw [round_of_ne_eof e hc] at h
    exact statementStop_of_none hi₁ (Prod.mk.inj h).2

/-- **Reading ends at the end of the input**, wherever it started. -/
theorem stopFrom_eq_finish {skip : Bool} {c : Cursor} (hi : Inked c.ahead) :
    stopFrom skip c = c.finish := by
  induction skip, c using stopFrom.induct with
  | case1 skip c r h =>
    rw [stopFrom]
    split
    · exact roundStop_of_none hi h
    · next e => rw [h] at e; cases e
  | case2 skip c r c' h ih =>
    obtain ⟨w, -, hw⟩ := round_passes h
    rw [stopFrom]
    split
    · next e => rw [h] at e; cases e
    · next e =>
      rw [h] at e
      cases e
      rw [ih (hw.ahead ▸ hi).right, hw.finish_eq]

end Reading

/-! ### Constructs -/

/-- The constructs of the grammar, each with what it yields.  A literal has the decoder of its
characters, and a statement or a pickup tells whether it is excused from validation. -/
inductive Construct : Type → Type 1 where
  | keyword {α : Type} (table : List (String × α)) (what : Suggestion) : Construct α
  | identifier (what : Suggestion) : Construct String
  | number {α : Type} (what : Suggestion) (decode : Decoder α) : Construct α
  | removable {α : Type} (what : Suggestion) (decode : Decoder α) : Construct (α × Bool)
  | quoted (what : Suggestion) : Construct String
  | freeText (what : Suggestion) : Construct String
  | wordField {α : Type} (what : Suggestion) (decode : Decoder α) : Construct (Field α)
  | numberField {α : Type} (what : Suggestion) (decode : Decoder α) : Construct (Field α)
  | removableField {α : Type} (what : Suggestion) (decode : Decoder α) :
      Construct (Field α × Bool)
  | uberIdentifier : Construct (Located UberIdentifier)
  | icon : Construct (Located Icon)
  | item : Construct (Located Item)
  | command : Construct Command
  | timer : Construct Timer
  | setup : Construct Timer
  | pickup (ignore skip : Bool) : Construct Pickup
  | statement (skip : Bool) : Construct (Located Content)

namespace Construct

/-- The rule that reads a construct. -/
def rule {α : Type} : Construct α → Rule α
  | keyword table what         => Grammar.keyword table what
  | identifier what            => Grammar.identifier what
  | number what decode         => Grammar.number what decode
  | removable what decode      => Grammar.removable what decode
  | quoted what                => Grammar.quoted what
  | freeText what              => Grammar.freeText what
  | wordField what decode      => Grammar.wordField what decode
  | numberField what decode    => Grammar.numberField what decode
  | removableField what decode => Grammar.removableField what decode
  | uberIdentifier             => Grammar.uberIdentifier
  | icon                       => Grammar.icon
  | item                       => Grammar.item
  | command                    => Grammar.command
  | timer                      => Grammar.timer
  | setup                      => Grammar.setup
  | pickup ignore skip         => Grammar.pickup ignore skip
  | statement skip             => Grammar.statement skip

theorem steady {α : Type} (k : Construct α) : Steady k.rule := by
  cases k with
  | keyword table what => exact keyword_steady table what
  | identifier what => exact identifier_steady what
  | number what decode => exact number_steady what decode
  | removable what decode => exact removable_steady what decode
  | quoted what => exact quoted_steady what
  | freeText what => exact freeText_steady what
  | wordField what decode => exact wordField_steady what decode
  | numberField what decode => exact numberField_steady what decode
  | removableField what decode => exact removableField_steady what decode
  | uberIdentifier => exact uberIdentifier_built.steady
  | icon => exact icon_built.steady
  | item => exact item_built.steady
  | command => exact command_built.steady
  | timer => exact timer_built.steady
  | setup => exact setup_built.steady
  | pickup ignore skip => exact (pickup_built ignore skip).steady
  | statement skip => exact statement_steady skip

/-- Whether a construct is read or not, what was passed is neither a newline nor a comment. -/
theorem reaches_stop {α : Type} (k : Construct α) (c : Cursor) : c.Reaches (stop (k.rule c)) := by
  cases h : k.rule c with
  | ok a c' => exact k.steady.ok h
  | error fault c' =>
    obtain ⟨t, ht, ht', -⟩ := k.steady.error h
    exact ht.trans ht'

end Construct

/-! ### Operations -/

/-- The operations on a cursor, each with what it yields. -/
inductive Operation : Type → Type 1 where
  | next : Operation Token
  | eat (type : TokenType) : Operation Token
  | eatFor (type : TokenType) (what : Suggestion) : Operation Token
  | skip (type : TokenType) : Operation Unit
  | skipWhile (p : TokenType → Bool) : Operation (List Char)
  /-- Passes over what stands between statements: the documentation, and whether the next pickup
  is excused. -/
  | interlude (excused : Bool) : Operation (List (Located Content) × Bool)
  | read {α : Type} (construct : Construct α) : Operation α
  /-- Reads all that is left: the contents, if there is no fault, and the diagnostics. -/
  | finish : Operation (Option (List (Located Content)) × List Diagnostic)

namespace Operation

/-- Yields the token that the rule takes. -/
def taken (r : Rule (Located (List Char))) : Rule Token := do
  let c ← get
  let _ ← r
  return c.token

/-- What an operation does to a cursor. -/
def run {α : Type} : Operation α → Rule α
  | next              => taken Rule.take
  | eat type          => taken (Rule.eat type)
  | eatFor type what  => taken (Rule.eatFor type what)
  | skip type         => Rule.skip type
  | skipWhile p       => Rule.skipWhile p
  | interlude excused => fun c =>
    let (documentation, excused, c) := SeedHeader.interlude excused c.pos c.ahead
    .ok (documentation, excused) c
  | read construct    => construct.rule
  | finish            => fun c =>
    let r := Reading.ofCursor c
    .ok (r.document?, r.diagnostics) (Reading.stopFrom false c)

theorem taken_accept_apply (type : TokenType) (cause : Cause) (c : Cursor) :
    taken (accept type cause) c =
      if c.type = type then .ok c.token c.next else .error ⟨cause, c.span⟩ c := by
  rw [taken, get_bind, accept_bind]
  rfl

theorem taken_accept_passes (type : TokenType) (cause : Cause) (c : Cursor) :
    ∃ w, c.Passes w (stop (taken (accept type cause) c)) := by
  rw [taken_accept_apply]
  split
  · exact c.exists_passes_next
  · exact ⟨[], .refl c⟩

/-- Every operation goes forward, lexeme by lexeme. -/
theorem passes {α : Type} (op : Operation α) {c : Cursor} (hi : Inked c.ahead) :
    ∃ w, c.Passes w (stop (op.run c)) := by
  cases op with
  | next => exact c.exists_passes_next
  | eat type => exact taken_accept_passes type _ c
  | eatFor type what => exact taken_accept_passes type _ c
  | skip type => exact ⟨_, c.passes_skipWhile _⟩
  | skipWhile p => exact ⟨_, c.passes_skipWhile p⟩
  | interlude excused => exact Reading.interlude_passes excused c.pos c.ahead
  | read construct =>
    obtain ⟨w, hw, -⟩ := construct.reaches_stop c
    exact ⟨w, hw⟩
  | finish =>
    have h : stop (finish.run c) = c.finish := Reading.stopFrom_eq_finish hi
    rw [h]
    exact ⟨_, c.passes_skipWhile fun _ => true⟩

/-- The cursor after some operations, whether they fail or not. -/
def after (ops : List (Sigma Operation)) (c : Cursor) : Cursor :=
  ops.foldl (fun c op => stop (op.2.run c)) c

/-- So does every sequence of operations. -/
theorem after_passes (ops : List (Sigma Operation)) {c : Cursor} (hi : Inked c.ahead) :
    ∃ w, c.Passes w (after ops c) := by
  induction ops generalizing c with
  | nil => exact ⟨[], .refl c⟩
  | cons op ops ih =>
    obtain ⟨w, hw⟩ := op.2.passes hi
    obtain ⟨v, hv⟩ := ih (hw.ahead ▸ hi).right
    exact ⟨w ++ v, hw.trans hv⟩

end Operation

/-! ### Cursors in a text -/

namespace Cursor

/-- The cursor at offset `n` of a text. -/
def atOffset (text : List Char) (n : Nat) : Cursor := ⟨n, lexemes (text.drop n)⟩

/-- The cursor is reached from the start of the text by some operations. -/
def ReachedIn (text : List Char) (c : Cursor) : Prop :=
  ∃ ops, Operation.after ops (ofText text) = c

theorem ReachedIn.step {text : List Char} {c : Cursor} (h : c.ReachedIn text) {α : Type}
    (op : Operation α) : (stop (op.run c)).ReachedIn text := by
  obtain ⟨ops, rfl⟩ := h
  exact ⟨ops ++ [⟨α, op⟩], by rw [Operation.after, List.foldl_append]; rfl⟩

theorem ReachedIn.passes {text : List Char} {c : Cursor} (h : c.ReachedIn text) :
    ∃ w, (ofText text).Passes w c := by
  obtain ⟨ops, rfl⟩ := h
  exact Operation.after_passes ops (inked_lexemes text)

section
variable {text : List Char} {c : Cursor} {w : List Lexeme}

/-- The characters of a text are those that were passed and those that lie ahead. -/
theorem Passes.text_eq (h : (ofText text).Passes w c) : text = charsOf w ++ charsOf c.ahead := by
  rw [← charsOf_append, ← h.ahead, ofText, charsOf_lexemes]

theorem Passes.pos_eq (h : (ofText text).Passes w c) : c.pos = (charsOf w).length := by
  rw [h.pos, ofText, Nat.zero_add]

theorem Passes.pos_le_length (h : (ofText text).Passes w c) : c.pos ≤ text.length := by
  rw [h.pos_eq, h.text_eq, List.length_append]
  omega

theorem Passes.mem_lexemes (h : (ofText text).Passes w c) {l : Lexeme} (hl : l ∈ w) :
    l ∈ lexemes text := by
  have hahead : lexemes text = w ++ c.ahead := h.ahead
  exact hahead ▸ List.mem_append_left _ hl

theorem Passes.take_eq (h : (ofText text).Passes w c) : text.take c.pos = charsOf w := by
  rw [h.pos_eq, h.text_eq, List.take_left]

theorem Passes.drop_eq (h : (ofText text).Passes w c) : text.drop c.pos = charsOf c.ahead := by
  rw [h.pos_eq, h.text_eq, List.drop_left]

/-- What lies ahead of a cursor is what is left of the text, cut into lexemes. -/
theorem Passes.eq_atOffset (h : (ofText text).Passes w c) : c = atOffset text c.pos := by
  have hlexed : Lexed c.ahead := (h.ahead ▸ lexed_lexemes text : Lexed (w ++ c.ahead)).right
  rw [atOffset, h.drop_eq, hlexed]

/-- The token under the cursor is the one that starts there in the text. -/
theorem Passes.token_eq (h : (ofText text).Passes w c) : c.token = tokenAt text c.pos := by
  rw [tokenAt, token, lexeme, h.eq_atOffset, atOffset]
  cases hcs : text.drop c.pos with
  | nil =>
    -- nothing is left, so the cursor is at the end of the text
    have hlength : text.length = c.pos := by
      rw [h.text_eq, h.pos_eq, ← h.drop_eq, hcs, List.append_nil]
    rw [hlength]
    rfl
  | cons d cs => rw [lexemes_cons]; rfl

/-- A token of a text stands under a cursor. -/
theorem exists_passes_of_mem {t : Token} (h : t ∈ tokenize text) :
    ∃ w c, (ofText text).Passes w c ∧ c.token = t := by
  rcases List.mem_append.mp h with h | h
  · obtain ⟨w, l, v, hl, rfl⟩ := mem_place_iff.mp h
    refine ⟨w, ⟨(charsOf w).length, l :: v⟩, ⟨hl, by simp [ofText]⟩, ?_⟩
    simp [token, lexeme]
  · obtain rfl := List.mem_singleton.mp h
    exact ⟨lexemes text, ⟨text.length, []⟩,
      ⟨by simp [ofText], by simp [ofText, charsOf_lexemes]⟩, rfl⟩

/-- A cursor in a text is at its start, or where a token ends. -/
theorem Passes.pos_boundary (h : (ofText text).Passes w c) :
    c.pos = 0 ∨ ∃ t ∈ tokenize text, t.span.stop = c.pos := by
  rcases w.eq_nil_or_concat with rfl | ⟨v, l, rfl⟩
  · exact .inl h.pos_eq
  · refine .inr ⟨l.tokenAt (charsOf v).length, List.mem_append_left _ (mem_place_iff.mpr
      ⟨v, l, c.ahead, ?_, by rw [Nat.zero_add]⟩), ?_⟩
    · have hahead : lexemes text = _ := h.ahead
      rw [hahead, List.concat_eq_append, List.append_assoc, List.singleton_append]
    · rw [h.pos_eq, List.concat_eq_append, charsOf_append, List.length_append, charsOf_cons,
        charsOf_nil, List.append_nil]
      rfl

theorem Passes.tokenize_eq (h : (ofText text).Passes w c) :
    tokenize text = place 0 w ++ c.tokens := by
  rw [← tokens_ofText, h.tokens]
  rfl

end

theorem pos_le_of_mem_tokens {c : Cursor} {t : Token} (h : t ∈ c.tokens) :
    c.pos ≤ t.span.start := by
  rcases List.mem_append.mp h with h | h
  · exact (mem_place_bounds h).1
  · obtain rfl := List.mem_singleton.mp h
    exact Nat.le_add_right _ _

end Cursor

open Cursor

variable {text : List Char} {c c' : Cursor} {w : List Lexeme}

/-- Where no newline and no comment is passed, the cursor stops at the next of them. -/
theorem Cursor.Reaches.pos_le (h : (ofText text).Passes w c) (hr : c.Reaches c') {t : Token}
    (ht : t ∈ tokenize text) (htype : t.type = .newline ∨ t.type = .comment)
    (hstart : c.pos ≤ t.span.start) : c'.pos ≤ t.span.start := by
  obtain ⟨v, hv, htextual⟩ := hr
  have hne : t.type ≠ .eof := by
    rcases htype with e | e <;> rw [e] <;> decide
  have hlt := (mem_tokenize_bounds ht).2.2 hne
  rw [h.tokenize_eq, hv.tokens] at ht
  rcases List.mem_append.mp ht with ht | ht
  · -- it would stand before the cursor
    have hstop := (mem_place_bounds ht).2.2
    rw [← h.pos_eq, Nat.zero_add] at hstop
    omega
  rcases List.mem_append.mp ht with ht | ht
  · -- it would be passed
    obtain ⟨v₁, l, v₂, rfl, rfl⟩ := mem_place_iff.mp ht
    have hl := htextual l (by simp)
    have htype : l.type = .newline ∨ l.type = .comment := htype
    rcases htype with e | e <;> rw [e] at hl <;> cases hl
  · exact pos_le_of_mem_tokens ht

/-- The token under a cursor that was passed on the way. -/
theorem Cursor.Reaches.exists_token (h : (ofText text).Passes w c) {d : Cursor}
    (hd : c.Reaches d) (hd' : d.Reaches c') :
    ∃ t ∈ tokenize text, t.span = d.span ∧ c.pos ≤ t.span.start ∧ t.span.start ≤ c'.pos := by
  obtain ⟨v, hv, -⟩ := hd
  obtain ⟨v', hv', -⟩ := hd'
  obtain ⟨t, ht, hspan⟩ := d.exists_mem_tokens
  refine ⟨t, ?_, hspan, ?_, ?_⟩
  · rw [(h.trans hv).tokenize_eq]
    exact List.mem_append_right _ ht
  · rw [hspan]
    exact hv.pos_le
  · rw [hspan]
    exact hv'.pos_le

/-- **What holds of a cursor however it was moved.**  The token under it is the one that the text
has at its offset, and that offset is 0 or the end of a token.  No operation takes the cursor back.
A construct of the grammar is read, or given up, before the next newline or comment; if it is given
up, the diagnostic covers a token from where the construct was tried to where the cursor stopped. -/
theorem cursor_invariant (h : c.ReachedIn text) :
    c.token = tokenAt text c.pos ∧ c.token.span.start = c.pos ∧
      (c.pos = 0 ∨ ∃ t ∈ tokenize text, t.span.stop = c.pos) ∧
      (∀ {α : Type} (op : Operation α),
        (stop (op.run c)).ReachedIn text ∧ c.pos ≤ (stop (op.run c)).pos) ∧
      ∀ {α : Type} (k : Construct α),
        (∀ t ∈ tokenize text, t.type = .newline ∨ t.type = .comment → c.pos ≤ t.span.start →
          (stop (k.rule c)).pos ≤ t.span.start) ∧
        ∀ fault c', k.rule c = .error fault c' →
          ∃ t ∈ tokenize text, fault.diagnostic.span = t.span.toInt ∧
            c.pos ≤ t.span.start ∧ t.span.start ≤ c'.token.span.start := by
  obtain ⟨w, hw⟩ := h.passes
  refine ⟨hw.token_eq, rfl, hw.pos_boundary, fun {α} op => ⟨h.step op, ?_⟩, fun {α} k => ⟨?_, ?_⟩⟩
  · obtain ⟨v, hv⟩ := op.passes (hw.ahead ▸ inked_lexemes text : Inked (w ++ c.ahead)).right
    exact hv.pos_le
  · intro t ht htype hstart
    exact (k.reaches_stop c).pos_le hw ht htype hstart
  · intro fault c' he
    obtain ⟨d, hd, hd', hspan⟩ := k.steady.error he
    obtain ⟨t, ht, htspan, hbounds⟩ := hd.exists_token hw hd'
    exact ⟨t, ht, by rw [Fault.diagnostic, hspan, htspan], hbounds⟩

/-- An uber identifier that was given up is tried again at the word where its number is missing. -/
theorem cursor_invariant_retried :
    (atOffset "1|a\n".toList 2).ReachedIn "1|a\n".toList ∧
      (atOffset "1|a\n".toList 2).token = tokenAt "1|a\n".toList 2 ∧
      ∃ fault c', uberIdentifier (atOffset "1|a\n".toList 2) = .error fault c' ∧
        ∃ t ∈ tokenize "1|a\n".toList, fault.diagnostic.span = t.span.toInt ∧
          2 ≤ t.span.start ∧ t.span.start ≤ c'.token.span.start := by
  have h : (atOffset "1|a\n".toList 2).ReachedIn "1|a\n".toList :=
    ⟨[⟨_, .read .uberIdentifier⟩], by rfl⟩
  have hfault : uberIdentifier (atOffset "1|a\n".toList 2) =
      .error ⟨.expected .uberGroup, ⟨2, 3⟩⟩ (atOffset "1|a\n".toList 2) := by rfl
  obtain ⟨htoken, -, -, -, hconstruct⟩ := cursor_invariant h
  exact ⟨h, htoken, _, _, hfault, (hconstruct .uberIdentifier).2 _ _ hfault⟩

end SeedHeader
