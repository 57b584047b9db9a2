import SeedHeader.Grammar.Statement

/-!
# Grammar — What rules are built of

The rules of the grammar are built of a few steps: to take a token of some type and judge it, to
pass over tokens of some types, to read a free text, and to go on as the token under the cursor
tells (`Rule.Built`).  Which tokens a step may take and what it may blame one for are parameters of
the notion.  The grammar takes textual tokens, and blames a token for what can concern it
(`Cause.Concerns`).  A rule that is firm takes a token at least, and only such rules are chosen
between.

Every rule is built of these steps, up to whole statements (`statement_built`).  So a property that
each step has, and that sequencing keeps, holds of every statement: it is proved by induction on how
a rule is built.
-/

namespace SeedHeader

/-- The constructs that a free text stands for. -/
def Suggestion.IsText (what : Suggestion) : Prop := what = .text ∨ what = .string

/-! ### What a token is blamed for -/

/-- The token can be blamed for this.  Any token can be blamed for not being the construct that was
expected.  It is invalid only as a number or as a word, and as a float only if it is refused as
one. -/
inductive Cause.Concerns : Cause → Lexeme → Prop where
  | token {t : TokenType} (h : t ∈ [TokenType.whitespace, .identifier, .closeParen]) {l : Lexeme}
      (hl : l.type ≠ t) : Concerns (.expectedToken t) l
  | lineEnd {l : Lexeme} (hl : l.type ∉ [TokenType.newline, .whitespace, .comment, .eof]) :
      Concerns (.expectedToken .newline) l
  | expected (what : Suggestion) (l : Lexeme) : Concerns (.expected what) l
  | invalid {what : Suggestion} {l : Lexeme} (hl : l.type = .number ∨ l.type = .identifier)
      (hfloat : what = .float → l.type = .number ∧ ∃ e, Decoder.float l.text = .error e) :
      Concerns (.invalid what) l
  | string (l : Lexeme) : Concerns (.expectedString .string) l
  | unterminated {l : Lexeme} (hl : l.type = .string) (h : l.terminated = false) :
      Concerns (.unterminatedString .string) l
  | water {l : Lexeme} (hl : l.type = .number) : Concerns .waterNotZero l

namespace Rule

variable {α β : Type} {T U : TokenType → Bool} {P Q : Cause → Lexeme → Prop}

/-! ### Rules and their steps -/

/-- The token, which is of the type `t`, yields a value or is blamed by `P`, whatever lies ahead. -/
def Judged (P : Cause → Lexeme → Prop) (t : TokenType) (token : Located (List Char))
    (r : Rule α) : Prop :=
  (∃ a, r = pure a) ∨ ∃ cause, P cause ⟨t, token.val⟩ ∧ r = failAt token.span cause

namespace Judged

variable {t : TokenType} {token : Located (List Char)}

theorem pure (a : α) : Judged P t token (pure a : Rule α) := .inl ⟨a, rfl⟩

theorem failAt {cause : Cause} (h : P cause ⟨t, token.val⟩) :
    Judged P t token (failAt token.span cause : Rule α) :=
  .inr ⟨cause, h, rfl⟩

theorem bind {r : Rule α} {f : α → Rule β} (hr : Judged P t token r)
    (hf : ∀ a, Judged P t token (f a)) : Judged P t token (r >>= f) := by
  rcases hr with ⟨a, rfl⟩ | ⟨cause, hcause, rfl⟩
  · rw [pure_bind]
    exact hf a
  · exact .inr ⟨cause, hcause, rfl⟩

theorem mono (h : ∀ {cause l}, P cause l → Q cause l) {r : Rule α} (hr : Judged P t token r) :
    Judged Q t token r := by
  rcases hr with ha | ⟨cause, hcause, e⟩
  · exact .inl ha
  · exact .inr ⟨cause, h hcause, e⟩

end Judged

/-- The rule is built of the steps of the grammar.  It takes tokens of the types `T` only and blames
tokens by `P`.  Where it is firm, it takes a token at least. -/
inductive Built (T : TokenType → Bool) (P : Cause → Lexeme → Prop) :
    (firm : Bool) → {α : Type} → Rule α → Prop where
  | pure {α : Type} (a : α) : Built T P false (pure a : Rule α)
  | fail {α : Type} {firm : Bool} {cause : Cause} (h : ∀ l, P cause l) :
      Built T P firm (fail cause : Rule α)
  | judged {α : Type} {firm : Bool} {t : TokenType} (ht : T t) (he : t ≠ .eof) {cause : Cause}
      (hcause : ∀ l : Lexeme, l.type ≠ t → P cause l) {f : Located (List Char) → Rule α}
      (hf : ∀ token, Judged P t token (f token)) : Built T P firm (accept t cause >>= f)
  | skipWhile {p : TokenType → Bool} (hp : ∀ t, p t → T t) : Built T P false (skipWhile p)
  | freeText (hT : ∀ t, Grammar.isTextual t → T t) {what : Suggestion} (hwhat : what.IsText)
      (h : ∀ l, P (.expected what) l) : Built T P false (Grammar.freeText what)
  | located {α : Type} {firm : Bool} {r : Rule α} (hr : Built T P firm r) :
      Built T P firm (located r)
  | bind {α β : Type} {firm : Bool} {r : Rule α} {f : α → Rule β} (hr : Built T P firm r)
      (hf : ∀ a, Built T P false (f a)) : Built T P firm (r >>= f)
  /-- What is done depends on where the cursor is and on the token under it. -/
  | choice {α : Type} {firm : Bool} {r : Rule α} (s : Cursor → Rule α)
      (hs : ∀ c, Built T P true (s c))
      (hr : ∀ c d : Cursor, d.pos = c.pos → d.lexeme = c.lexeme → r d = s c d) : Built T P firm r
  /-- Something is there if a token of the types `q` opens it, and otherwise it is left out. -/
  | optional {α : Type} {r : Rule α} {q : TokenType → Prop} (hq : ∀ t, q t → T t) (he : ¬ q .eof)
      (s : TokenType → Rule α) (hs : ∀ t, q t → Built T P true (s t))
      (hr : ∀ c : Cursor, q c.type → r c = s c.type c) {a : α}
      (habsent : ∀ c : Cursor, ¬ q c.type → r c = .ok a c) : Built T P false r

namespace Built

variable {firm : Bool}

theorem mono (hT : ∀ t, T t → U t) (h : ∀ {cause l}, P cause l → Q cause l) {r : Rule α}
    (hr : Built T P firm r) : Built U Q firm r := by
  induction hr with
  | pure a => exact .pure a
  | fail hcause => exact .fail fun l => h (hcause l)
  | judged ht he hcause hf =>
    exact .judged (hT _ ht) he (fun l hl => h (hcause l hl)) fun token => (hf token).mono h
  | skipWhile hp => exact .skipWhile fun t ht => hT t (hp t ht)
  | freeText hp hwhat hcause =>
    exact .freeText (fun t ht => hT t (hp t ht)) hwhat fun l => h (hcause l)
  | located _ ih => exact .located ih
  | bind _ _ ihr ihf => exact .bind ihr ihf
  | choice s _ hr ih => exact .choice s ih hr
  | optional hq he s _ hr habsent ih =>
    exact .optional (fun t ht => hT t (hq t ht)) he s ih hr habsent

/-- A firm rule may stand where none needs to be. -/
theorem loose {r : Rule α} (hr : Built T P firm r) : Built T P false r := by
  induction hr with
  | pure a => exact .pure a
  | fail h => exact .fail h
  | judged ht he hcause hf => exact .judged ht he hcause hf
  | skipWhile hp => exact .skipWhile hp
  | freeText hT hwhat h => exact .freeText hT hwhat h
  | located _ ih => exact .located ih
  | bind _ hf ih _ => exact .bind ih hf
  | choice s hs hr _ => exact .choice s hs hr
  | optional hq he s hs hr habsent _ => exact .optional hq he s hs hr habsent

theorem accept {t : TokenType} (ht : T t) (he : t ≠ .eof) {cause : Cause}
    (hcause : ∀ l : Lexeme, l.type ≠ t → P cause l) : Built T P firm (accept t cause) := by
  have h : Built T P firm (Rule.accept t cause >>= Pure.pure) :=
    .judged ht he hcause fun _ => .pure _
  rwa [bind_pure] at h

theorem of_lexeme {r : Rule α} (h : ∀ c : Cursor, ∃ s : Rule α, Built T P true s ∧
    ∀ d : Cursor, d.pos = c.pos → d.lexeme = c.lexeme → r d = s d) : Built T P firm r :=
  .choice (fun c => (h c).choose) (fun c => (h c).choose_spec.1) fun c => (h c).choose_spec.2

theorem skip {t : TokenType} (ht : T t) : Built T P false (skip t) :=
  .bind (.skipWhile fun _ h => of_decide_eq_true h ▸ ht) fun _ => .pure ()

/-- The choice may be made by the type of the token. -/
theorem of_type {r : Rule α} (h : ∀ c : Cursor, ∃ s : Rule α, Built T P true s ∧
    ∀ d : Cursor, d.type = c.type → r d = s d) : Built T P firm r := by
  refine .of_lexeme fun c => ?_
  obtain ⟨s, hs, hr⟩ := h c
  exact ⟨s, hs, fun d _ hd => hr d (congrArg Lexeme.type hd)⟩

end Built

end Rule

namespace Grammar

open Rule

variable {α : Type} {firm : Bool}

/-! ### Values -/

/-- `P` admits what the grammar blames tokens for.  It admits also that `what` is invalid at a token
of the type `t`, if the decoder refuses the token. -/
structure Admits (P : Cause → Lexeme → Prop) (t : TokenType) (what : Suggestion)
    (decode : Decoder α) : Prop where
  concerns : ∀ {cause l}, cause.Concerns l → P cause l
  invalid : ∀ {cs e}, decode cs = .error e → P (.invalid what) ⟨t, cs⟩

namespace Admits

variable {P : Cause → Lexeme → Prop} {t : TokenType} {what : Suggestion} {decode : Decoder α}

theorem expected (h : Admits P t what decode) (l : Lexeme) : P (.expected what) l :=
  h.concerns (.expected what l)

theorem any : Admits (fun _ _ => True) t what decode := ⟨fun _ => trivial, fun _ => trivial⟩

theorem number (h : what ≠ .float) : Admits Cause.Concerns .number what decode where
  concerns hl := hl
  invalid _ := .invalid (.inl rfl) fun e => absurd e h

theorem word (h : what ≠ .float) : Admits Cause.Concerns .identifier what decode where
  concerns hl := hl
  invalid _ := .invalid (.inr rfl) fun e => absurd e h

theorem float : Admits Cause.Concerns .number what Decoder.float where
  concerns hl := hl
  invalid he := .invalid (.inl rfl) fun _ => ⟨rfl, _, he⟩

end Admits

section
variable {P : Cause → Lexeme → Prop} {what : Suggestion} {decode : Decoder α}

theorem decoded_judged {t : TokenType} {token : Located (List Char)} {cs : List Char}
    (h : ∀ e, decode cs = .error e → P (.invalid what) ⟨t, token.val⟩) :
    Judged P t token (decoded decode what token.span cs) := by
  unfold decoded
  cases hd : decode cs with
  | ok a => exact .pure a
  | error e => exact .failAt (h e hd)

theorem eatFor_built {t : TokenType} (ht : isTextual t) (he : t ≠ .eof)
    (h : ∀ l, P (.expected what) l) : Built isTextual P firm (eatFor t what) :=
  .accept ht he fun l _ => h l

theorem keyword_built (table : List (String × α)) (hexpected : ∀ l, P (.expected what) l)
    (hinvalid : ∀ cs, P (.invalid what) ⟨.identifier, cs⟩) :
    Built isTextual P firm (keyword table what) := by
  refine .judged rfl (by decide) (fun l _ => hexpected l) fun word => ?_
  cases keyword? table word.val with
  | some a => exact .pure a
  | none => exact .failAt (hinvalid word.val)

theorem identifier_built (h : ∀ l, P (.expected what) l) :
    Built isTextual P firm (identifier what) :=
  .bind (eatFor_built rfl (by decide) h) fun _ => .pure _

theorem number_built (h : Admits P .number what decode) :
    Built isTextual P firm (number what decode) :=
  .judged rfl (by decide) (fun l _ => h.expected l) fun _ => decoded_judged fun _ => h.invalid

/-- A removable number is refused for what stands behind its sign. -/
theorem removable_built
    (h : Admits P .number what fun cs => decode (Decoder.splitMinus cs).2) :
    Built isTextual P firm (removable what decode) :=
  .judged rfl (by decide) (fun l _ => h.expected l) fun _ =>
    .bind (decoded_judged fun _ => h.invalid) fun _ => .pure _

/-- Whether a string is closed can be seen from its characters alone. -/
theorem quoted_eq (what : Suggestion) :
    quoted what = accept .string (.expectedString what) >>= fun token =>
      if Lexeme.terminated ⟨.string, token.val⟩ then
        pure (String.ofList token.val.tail.dropLast)
      else failAt token.span (.unterminatedString what) := by
  funext c
  rw [quoted, get_bind, accept_bind, accept_bind]
  split
  · next h =>
    have hl : c.lexeme = ⟨.string, c.lexeme.text⟩ := congrArg (Lexeme.mk · c.lexeme.text) h
    rw [hl]
  · rfl

theorem quoted_built (hstring : ∀ l, P (.expectedString what) l)
    (hopen : ∀ l : Lexeme, l.type = .string → l.terminated = false →
      P (.unterminatedString what) l) : Built isTextual P firm (quoted what) := by
  rw [quoted_eq]
  refine .judged rfl (by decide) (fun l _ => hstring l) fun token => ?_
  split
  · exact .pure _
  · next h => exact .failAt (hopen _ rfl (Bool.not_eq_true _ ▸ h))

theorem eat_built {t : TokenType} (h : t ∈ [TokenType.whitespace, .identifier, .closeParen]) :
    Built isTextual Cause.Concerns firm (eat t) := by
  have ht : isTextual t ∧ t ≠ .eof := by
    simp only [List.mem_cons, List.not_mem_nil, or_false] at h
    rcases h with rfl | rfl | rfl <;> decide
  exact .accept ht.1 ht.2 fun l hl => .token h hl

theorem word_built (table : List (String × α)) {what : Suggestion} (h : what ≠ .float) :
    Built isTextual Cause.Concerns firm (keyword table what) :=
  keyword_built table (.expected what) fun _ => .invalid (.inr rfl) fun e => absurd e h

theorem parameter_built (hP : ∀ {cause l}, Cause.Concerns cause l → P cause l) :
    Built isTextual P firm (parameter what : Rule (Field α)) := by
  refine .mono (fun _ h => h) hP (.located (.bind (.accept rfl (by decide) fun l _ => .expected _ l)
    fun _ => .bind (word_built _ (by decide)) fun command => ?_))
  cases command with
  | param =>
    exact .bind (eatFor_built rfl (by decide) (.expected _)) fun _ =>
      .bind (eat_built (by simp)) fun _ => .bind (eat_built (by simp)) fun _ => .pure _

theorem field_built {t : TokenType} (ht : isTextual t) (he : t ≠ .eof)
    (h : Admits P t what decode) : Built isTextual P firm (field t what decode) := by
  refine .of_type fun c => ?_
  by_cases hc : c.type = t
  · exact ⟨accept t (.expected what) >>= fun token =>
      decoded decode what token.span token.val >>= fun a => pure ⟨token.span, .literal a⟩,
      .judged ht he (fun l _ => h.expected l) fun _ =>
        .bind (decoded_judged fun _ => h.invalid) fun _ => .pure _,
      fun d hd => (field_of_type what decode (hd.trans hc)).trans (eat_bind (hd.trans hc) _)⟩
  · exact ⟨_, parameter_built h.concerns,
      fun d hd => field_of_ne what decode (hd ▸ hc)⟩

theorem wordField_built (h : Admits P .identifier what decode) :
    Built isTextual P firm (wordField what decode) :=
  field_built rfl (by decide) h

theorem numberField_built (h : Admits P .number what decode) :
    Built isTextual P firm (numberField what decode) :=
  field_built rfl (by decide) h

/-- Where a token of the type `t` stands, the rule takes it and goes on. -/
theorem eaten_built {t : TokenType} (ht : isTextual t) (he : t ≠ .eof)
    (hP : ∀ {cause l}, Cause.Concerns cause l → P cause l) {r : Rule α}
    {f : Located (List Char) → Rule α} (hf : ∀ token, Built isTextual P false (f token))
    {c : Cursor} (hc : c.type = t) (hr : ∀ {d : Cursor}, d.type = t → r d = (eat t >>= f) d) :
    ∃ s : Rule α, Built isTextual P true s ∧ ∀ d : Cursor, d.type = c.type → r d = s d :=
  ⟨accept t (.expected .expression) >>= f, .bind (.accept ht he fun l _ => hP (.expected _ l)) hf,
    fun _ hd => (hr (hd.trans hc)).trans (eat_bind (hd.trans hc) _)⟩

theorem removableField_built (h : Admits P .number what decode)
    (h' : Admits P .number what fun cs => decode (Decoder.splitMinus cs).2) :
    Built isTextual P firm (removableField what decode) := by
  refine .of_lexeme fun c => ?_
  by_cases hc : c.type = .number
  · refine ⟨removable what decode >>= fun a => pure (⟨c.span, .literal a.1⟩, a.2),
      .bind (removable_built h') fun _ => .pure _, fun d hpos hd => ?_⟩
    rw [removableField_of_number what decode ((congrArg Lexeme.type hd).trans hc),
      Cursor.span_congr hpos hd]
  by_cases hc' : c.type = .minus
  · obtain ⟨s, hs, hr⟩ := eaten_built rfl (by decide) h.concerns
      (fun _ => .bind (numberField_built h) fun _ => .pure _) hc'
      (removableField_of_minus what decode)
    exact ⟨s, hs, fun d _ hd => hr d (congrArg Lexeme.type hd)⟩
  · refine ⟨parameter what >>= fun v => pure (v, false),
      .bind (parameter_built h.concerns) fun _ => .pure _, fun d _ hd => ?_⟩
    have htype : d.type = c.type := congrArg Lexeme.type hd
    exact removableField_of_ne what decode (htype ▸ hc) (htype ▸ hc')

end

/-! ### Compound values -/

theorem uberIdentifier_built : Built isTextual Cause.Concerns firm uberIdentifier :=
  .located (.bind (number_built (.number (by decide))) fun _ =>
    .bind (eatFor_built rfl (by decide) (.expected _)) fun _ =>
      .bind (number_built (.number (by decide))) fun _ => .pure _)

theorem iconBody_built (kind : IconKind) : Built isTextual Cause.Concerns firm (iconBody kind) := by
  cases kind with
  | file => exact .bind (quoted_built .string fun _ => .unterminated) fun _ => .pure _
  | shard | spell | opher | lupo | grom | tuley =>
    exact .bind (number_built (.number (by decide))) fun _ => .pure _

theorem icon_built : Built isTextual Cause.Concerns firm icon :=
  .located (.bind (word_built _ (by decide)) fun kind =>
    .bind (eatFor_built rfl (by decide) (.expected _)) fun _ => iconBody_built kind)

/-! ### Items -/

theorem bar_built (what : Suggestion) : Built isTextual Cause.Concerns firm (bar what) :=
  .bind (eatFor_built rfl (by decide) (.expected what)) fun _ => .pure ()

theorem setting_built (type : UberType) : Built isTextual Cause.Concerns firm (setting type) := by
  cases type with
  | bool | teleporter => exact .bind (wordField_built (.word (by decide))) fun _ => .pure _
  | byte | int => exact .bind (numberField_built (.number (by decide))) fun _ => .pure _
  | float => exact .bind (numberField_built .float) fun _ => .pure _

theorem actionBody_built (kind : CommandKind) :
    Built isTextual Cause.Concerns false (actionBody kind) := by
  cases kind with
  | autosave | checkpoint => exact .pure _
  | toggle | equip =>
    exact .bind (bar_built _) fun _ => .bind (number_built (.number (by decide))) fun _ =>
      .bind (bar_built _) fun _ => .bind (numberField_built (.number (by decide))) fun _ => .pure _
  | warp =>
    exact .bind (bar_built _) fun _ => .bind (numberField_built .float) fun _ =>
      .bind (bar_built _) fun _ => .bind (numberField_built .float) fun _ => .pure _
  | startTimer | stopTimer =>
    exact .bind (bar_built _) fun _ => .bind uberIdentifier_built fun _ => .pure _
  | setHealth | setEnergy | setSpiritLight =>
    exact .bind (bar_built _) fun _ => .bind (numberField_built (.number (by decide))) fun _ =>
      .pure _

theorem action_built : Built isTextual Cause.Concerns firm action :=
  .bind (number_built (.number (by decide))) actionBody_built

/-- Water has two causes of its own, both at the number. -/
theorem water_built : Built isTextual Cause.Concerns firm water := by
  refine .of_type fun c => ⟨accept .number (.expected .integer) >>= waterAt,
    .judged rfl (by decide) (fun l _ => .expected _ l) fun token => ?_, fun d _ => water_apply d⟩
  refine .bind (decoded_judged fun _ _ => .invalid (.inl rfl) nofun) fun n => ?_
  split
  · exact .pure _
  · exact .failAt (.water rfl)

theorem itemBody_built (kind : ItemKind) :
    Built isTextual Cause.Concerns false (itemBody kind) := by
  cases kind with
  | spiritLight | skill | shard | teleporter | bonusItem | bonusUpgrade =>
    exact .bind (removableField_built (.number (by decide)) (.number (by decide))) fun _ => .pure _
  | resource | relic => exact .bind (numberField_built (.number (by decide))) fun _ => .pure _
  | command => exact .bind action_built fun _ => .pure _
  | message => exact .bind (.freeText (fun _ h => h) (.inl rfl) (.expected _)) fun _ => .pure _
  | uberState =>
    exact .bind uberIdentifier_built fun _ => .bind (bar_built _) fun _ =>
      .bind (word_built _ (by decide)) fun type => .bind (bar_built _) fun _ =>
        .bind (setting_built type) fun _ => .pure _
  | water => exact .bind water_built fun _ => .pure _
  | sysMessage => exact .bind (number_built (.number (by decide))) fun _ => .pure _

theorem item_built : Built isTextual Cause.Concerns firm item :=
  .located (.bind (number_built (.number (by decide))) fun kind => .bind (bar_built _) fun _ =>
    itemBody_built kind)

/-! ### Commands -/

theorem gap_built : Built isTextual Cause.Concerns firm gap :=
  .bind (eat_built (by simp)) fun _ => .pure ()

theorem itemThenGap_built : Built isTextual Cause.Concerns firm itemThenGap :=
  .bind item_built fun _ => .bind gap_built fun _ => .pure _

theorem defaultValue_built (type : ParameterType) :
    Built isTextual Cause.Concerns false (defaultValue type) := by
  cases type with
  | bool =>
    exact .judged rfl (by decide) (fun l _ => .expected _ l) fun _ =>
      .bind (decoded_judged fun _ _ => .invalid (.inr rfl) nofun) fun _ => .pure _
  | int => exact .bind (number_built (.number (by decide))) fun _ => .pure _
  | float => exact .bind (number_built .float) fun _ => .pure _
  | string => exact .bind (.freeText (fun _ h => h) (.inr rfl) (.expected _)) fun _ => .pure _

theorem arguments_built (word : CommandWord) :
    Built isTextual Cause.Concerns false (arguments word) := by
  cases word with
  | includeHeader | excludeHeader => exact .bind (identifier_built (.expected _)) fun _ => .pure _
  | add | remove => exact .bind item_built fun _ => .pure _
  | name | display | description =>
    exact .bind itemThenGap_built fun _ =>
      .bind (.freeText (fun _ h => h) (.inl rfl) (.expected _)) fun _ => .pure _
  | price =>
    exact .bind itemThenGap_built fun _ =>
      .bind (numberField_built (.number (by decide))) fun _ => .pure _
  | icon => exact .bind itemThenGap_built fun _ => .bind icon_built fun _ => .pure _
  | parameter =>
    exact .bind (identifier_built (.expected _)) fun _ => .bind gap_built fun _ =>
      .bind (word_built _ (by decide)) fun type =>
        .bind (eatFor_built rfl (by decide) (.expected _)) fun _ =>
          .bind (defaultValue_built type) fun _ => .pure _
  | setState => exact .bind uberIdentifier_built fun _ => .pure _
  | ifState =>
    exact .bind uberIdentifier_built fun _ => .bind (bar_built _) fun _ =>
      .bind (numberField_built (.number (by decide))) fun _ => .pure _
  | endif => exact .pure _

theorem command_built : Built isTextual Cause.Concerns firm command := by
  refine .bind (word_built _ (by decide)) fun word => ?_
  split
  · exact .pure _
  · exact .bind gap_built fun _ => arguments_built word

/-! ### Statements -/

theorem timer_built : Built isTextual Cause.Concerns firm timer :=
  .bind uberIdentifier_built fun _ => .bind (bar_built _) fun _ =>
    .bind uberIdentifier_built fun _ => .pure _

theorem joint_built : Built isTextual Cause.Concerns false joint := by
  have hq : ∀ t, t = .dot ∨ t = .separator → isTextual t := by rintro t (rfl | rfl) <;> rfl
  refine .optional hq (by decide)
    (fun t => accept t (.expected .expression) >>= fun _ => skip .whitespace)
    (fun t ht => .bind (.accept (hq t ht) ?_ fun l _ => .expected _ l) fun _ => .skip rfl)
    (fun c hc => (joint_of_type hc rfl).trans (eat_bind rfl _)) (a := ())
    fun c hc => joint_of_ne (fun e => hc (.inl e)) fun e => hc (.inr e)
  rcases ht with rfl | rfl <;> decide

theorem joiner_built : Built isTextual Cause.Concerns false joiner :=
  .bind (.skip rfl) fun _ => joint_built

theorem setup_built : Built isTextual Cause.Concerns false setup := by
  refine .bind joiner_built fun _ => .bind (word_built _ (by decide)) fun kind => ?_
  cases kind with
  | timer => exact .bind (bar_built _) fun _ => timer_built

theorem condition_built : Built isTextual Cause.Concerns false condition := by
  refine .optional (q := (· = .eq)) (fun _ e => e ▸ rfl) (by decide)
    (fun _ => accept .eq (.expected .expression) >>= fun _ =>
      numberField .uberTriggerValue Decoder.text >>= fun v => pure (some v))
    (fun _ _ => ?_) (fun c hc => (condition_of_eq hc).trans (eat_bind hc _))
    fun c hc => condition_of_ne hc
  exact .bind (.accept rfl (by decide) fun l _ => .expected _ l) fun _ =>
    .bind (numberField_built (.number (by decide))) fun _ => .pure _

theorem trigger_built : Built isTextual Cause.Concerns firm trigger :=
  .located (.bind uberIdentifier_built fun _ => .bind condition_built fun _ => .pure _)

theorem pickup_built (ignore skipValidation : Bool) :
    Built isTextual Cause.Concerns firm (pickup ignore skipValidation) :=
  .bind trigger_built fun _ => .bind (bar_built _) fun _ => .bind item_built fun _ => .pure _

theorem setupStatement_built : Built isTextual Cause.Concerns firm setupStatement := by
  refine .bind (word_built _ (by decide)) fun word => ?_
  cases word with
  | setup => exact .bind setup_built fun _ => .pure _

theorem marked_built (skipValidation : Bool) :
    Built isTextual Cause.Concerns firm (marked skipValidation) := by
  refine .of_type fun c => ?_
  by_cases h : c.type = .bang
  · exact eaten_built rfl (by decide) id (fun _ => .bind command_built fun _ => .pure _) h
      (marked_of_bang skipValidation)
  · exact ⟨_, .bind (pickup_built _ _) fun _ => .pure _, fun d hd => marked_of_ne _ (hd ▸ h)⟩

theorem statementBody_built (skipValidation : Bool) :
    Built isTextual Cause.Concerns firm (statementBody skipValidation) := by
  refine .of_type fun c => ?_
  by_cases hb : c.type = .bang
  · exact eaten_built rfl (by decide) id (fun _ => marked_built _) hb
      (statementBody_of_bang skipValidation)
  by_cases hp : c.type = .pound
  · exact eaten_built rfl (by decide) id
      (fun _ => .bind (identifier_built (.expected _)) fun _ => .pure _) hp
      (statementBody_of_pound skipValidation)
  simp only [statementBody, peek_bind]
  cases h : c.type with
  | identifier => exact ⟨_, setupStatement_built, fun d hd => by rw [hd]⟩
  | number | dollar =>
    exact ⟨_, .bind (pickup_built _ _) fun _ => .pure _, fun d hd => by rw [hd]⟩
  | bang => exact absurd h hb
  | pound => exact absurd h hp
  | _ => exact ⟨_, .fail (.expected .expression), fun d hd => by rw [hd]⟩

/-- **A statement is built of the steps of the grammar**, and so is each of its parts. -/
theorem statement_built (skipValidation : Bool) :
    Built isTextual Cause.Concerns firm (statement skipValidation) :=
  .located (statementBody_built skipValidation)

end Grammar

end SeedHeader
