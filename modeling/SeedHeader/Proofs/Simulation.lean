import SeedHeader.Grammar.Motion
import SeedHeader.Proofs.Relocation

/-!
# Proofs — Reading at corresponding places of two texts

What a rule of the grammar does depends on the types of the tokens ahead and on their characters,
and on those of a newline not at all: no rule takes one.  A `Simulation` is a correspondence of the
cursors in one text to those in another that keeps just this much.  `Follows` says that from
corresponding cursors one rule does what the other does: the value is changed by `g`, a fault is
moved to where its token stands in the other text, and the cursors correspond again.

The relation passes through sequencing, so under every simulation each rule of the grammar follows
itself, up to whole statements (`statement_follows`).
-/

namespace SeedHeader

/-- The fault at another span. -/
def Fault.move (f : Span → Span) (fault : Fault) : Fault := ⟨fault.cause, f fault.span⟩

/-- A correspondence of the cursors in one text to those in another. -/
structure Simulation where
  /-- Where an offset of the one text is in the other. -/
  offset : Nat → Nat
  /-- The two cursors correspond to each other. -/
  Rel : Cursor → Cursor → Prop
  pos_eq : ∀ {c d}, Rel c d → d.pos = offset c.pos
  stop_eq : ∀ {c d}, Rel c d → d.span.stop = offset c.span.stop
  type_eq : ∀ {c d}, Rel c d → d.type = c.type
  /-- Only the characters of a newline may differ. -/
  lexeme_eq : ∀ {c d}, Rel c d → c.type ≠ .newline → d.lexeme = c.lexeme
  next : ∀ {c d}, Rel c d → c.type ≠ .newline → Rel c.next d.next
  passed_eq : ∀ {p c d}, p .newline = false → Rel c d → d.passed p = c.passed p
  skipWhile : ∀ {p c d}, p .newline = false → Rel c d → Rel (c.skipWhile p) (d.skipWhile p)

namespace Simulation

/-- Where a span of the one text is in the other. -/
def move (σ : Simulation) : Span → Span := Span.map σ.offset

/-- The results of two rules correspond to each other. -/
def Matches {α : Type} (σ : Simulation) (g : α → α) :
    EStateM.Result Fault Cursor α → EStateM.Result Fault Cursor α → Prop
  | .ok a c, .ok b d => b = g a ∧ σ.Rel c d
  | .error fault c, .error fault' d => fault' = fault.move σ.move ∧ σ.Rel c d
  | _, _ => False

/-- From corresponding cursors `r'` does what `r` does, with its value changed by `g`. -/
def Follows {α : Type} (σ : Simulation) (g : α → α) (r r' : Rule α) : Prop :=
  ∀ c d, σ.Rel c d → σ.Matches g (r c) (r' d)

variable {α β : Type} {σ : Simulation} {c d : Cursor}

theorem span_eq (h : σ.Rel c d) : d.span = σ.move c.span := by
  have hpos : d.span.start = σ.offset c.span.start := σ.pos_eq h
  rw [move, Span.map, ← hpos, ← σ.stop_eq h]

/-- Whether a string is closed is seen, and a newline is no string. -/
theorem terminated_eq (h : σ.Rel c d) : d.lexeme.terminated = c.lexeme.terminated := by
  by_cases ht : c.type = .newline
  · have hd : d.lexeme.type = .newline := (σ.type_eq h).trans ht
    have hc : c.lexeme.type = .newline := ht
    simp [Lexeme.terminated, hd, hc]
  · rw [σ.lexeme_eq h ht]

namespace Follows

theorem pure {g : α → α} {a b : α} (h : b = g a) : σ.Follows g (pure a) (pure b) :=
  fun _ _ hcd => ⟨h, hcd⟩

theorem failAt (g : α → α) (span : Span) (cause : Cause) :
    σ.Follows g (Rule.failAt span cause) (Rule.failAt (σ.move span) cause) :=
  fun _ _ h => ⟨rfl, h⟩

theorem fail (g : α → α) (cause : Cause) : σ.Follows g (Rule.fail cause) (Rule.fail cause) := by
  intro c d h
  rw [Rule.fail_apply, Rule.fail_apply, σ.span_eq h]
  exact ⟨rfl, h⟩

theorem bind {r r' : Rule α} {f f' : α → Rule β} {g : α → α} {k : β → β}
    (hr : σ.Follows g r r') (hf : ∀ a, σ.Follows k (f a) (f' (g a))) :
    σ.Follows k (r >>= f) (r' >>= f') := by
  intro c d h
  -- the two rules succeed together or fail together
  have hm := hr c d h
  cases hc : r c with
  | ok a c₁ =>
    cases hd : r' d with
    | ok b d₁ =>
      rw [hc, hd] at hm
      obtain ⟨rfl, h₁⟩ := hm
      rw [Rule.bind_of_ok hc, Rule.bind_of_ok hd]
      exact hf a c₁ d₁ h₁
    | error fault d₁ =>
      rw [hc, hd] at hm
      cases hm
  | error fault c₁ =>
    cases hd : r' d with
    | ok b d₁ =>
      rw [hc, hd] at hm
      cases hm
    | error fault' d₁ =>
      rw [hc, hd] at hm
      rw [Rule.bind_of_error hc, Rule.bind_of_error hd]
      exact hm

/-- The relation is a matter of one pair of cursors at a time. -/
theorem of_apply {r r' : Rule α} {g : α → α}
    (h : ∀ c d, σ.Rel c d → ∃ s s' : Rule α, r c = s c ∧ r' d = s' d ∧ σ.Follows g s s') :
    σ.Follows g r r' := by
  intro c d hcd
  obtain ⟨s, s', e, e', hs⟩ := h c d hcd
  rw [e, e']
  exact hs c d hcd

theorem accept {t : TokenType} (ht : t ≠ .newline) (cause : Cause) :
    σ.Follows (Located.move σ.move) (Rule.accept t cause) (Rule.accept t cause) := by
  intro c d h
  rw [Rule.accept_apply, Rule.accept_apply, σ.type_eq h, σ.span_eq h]
  split
  · next hc =>
    have hne : c.type ≠ .newline := hc ▸ ht
    rw [σ.lexeme_eq h hne]
    exact ⟨rfl, σ.next h hne⟩
  · exact ⟨rfl, h⟩

theorem skipWhile {p : TokenType → Bool} (hp : p .newline = false) :
    σ.Follows id (Rule.skipWhile p) (Rule.skipWhile p) :=
  fun _ _ h => ⟨σ.passed_eq hp h, σ.skipWhile hp h⟩

theorem located {r r' : Rule α} {g : α → α} (hr : σ.Follows g r r') :
    σ.Follows (Located.relocate σ.move g) (Rule.located r) (Rule.located r') := by
  intro c d h
  have hm := hr c d h
  rw [Rule.located_apply, Rule.located_apply]
  cases hc : r c <;> cases hd : r' d <;> rw [hc, hd] at hm
  · obtain ⟨rfl, h₁⟩ := hm
    refine ⟨?_, h₁⟩
    rw [σ.pos_eq h, σ.pos_eq h₁]
    rfl
  · cases hm
  · cases hm
  · exact hm

end Follows

end Simulation

/-! ### The rules of the grammar -/

namespace Grammar

open Rule

variable {α : Type} {σ : Simulation}

theorem decoded_follows (decode : Decoder α) (what : Suggestion) (span : Span) (cs : List Char) :
    σ.Follows id (decoded decode what span cs) (decoded decode what (σ.move span) cs) := by
  unfold decoded
  cases decode cs with
  | ok a => exact .pure rfl
  | error e => exact .failAt id span _

theorem keyword_follows (table : List (String × α)) (what : Suggestion) :
    σ.Follows id (keyword table what) (keyword table what) := by
  refine .bind (.accept (by decide) _) fun word => ?_
  simp only [Located.move]
  cases keyword? table word.val with
  | some a => exact .pure rfl
  | none => exact .failAt id word.span _

theorem identifier_follows (what : Suggestion) :
    σ.Follows id (identifier what) (identifier what) :=
  .bind (.accept (by decide) _) fun _ => .pure rfl

theorem number_follows (what : Suggestion) (decode : Decoder α) :
    σ.Follows id (number what decode) (number what decode) :=
  .bind (.accept (by decide) _) fun token => decoded_follows decode what token.span token.val

theorem removable_follows (what : Suggestion) (decode : Decoder α) :
    σ.Follows id (removable what decode) (removable what decode) :=
  .bind (.accept (by decide) _) fun token =>
    .bind (decoded_follows decode what token.span _) fun _ => .pure rfl

theorem quoted_follows (what : Suggestion) : σ.Follows id (quoted what) (quoted what) := by
  -- the lexeme is looked at before it is known to be a string
  refine .of_apply fun c d hc => ⟨_, _, get_bind c, get_bind d, ?_⟩
  rw [σ.terminated_eq hc]
  refine .bind (.accept (by decide) _) fun token => ?_
  split
  · exact .pure rfl
  · exact .failAt id token.span _

theorem freeText_follows (what : Suggestion) : σ.Follows id (freeText what) (freeText what) := by
  intro c d h
  rw [freeText_apply, freeText_apply, σ.passed_eq rfl h, σ.span_eq h]
  split
  · exact ⟨rfl, σ.skipWhile rfl h⟩
  · exact ⟨rfl, σ.skipWhile rfl h⟩

theorem bar_follows (what : Suggestion) : σ.Follows id (bar what) (bar what) :=
  .bind (.accept (by decide) _) fun _ => .pure rfl

theorem parameter_follows (what : Suggestion) :
    σ.Follows (Located.move σ.move) (parameter what : Rule (Field α)) (parameter what) := by
  refine .located (g := id) (.bind (.accept (by decide) _) fun _ =>
    .bind (keyword_follows _ _) fun command => ?_)
  cases command with
  | param =>
    exact .bind (.accept (by decide) _) fun _ => .bind (.accept (by decide) _) fun _ =>
      .bind (.accept (by decide) _) fun _ => .pure rfl

theorem field_follows {t : TokenType} (ht : t ≠ .newline) (what : Suggestion) (decode : Decoder α) :
    σ.Follows (Located.move σ.move) (field t what decode) (field t what decode) := by
  refine .of_apply fun c d hc => ?_
  by_cases h : c.type = t
  · exact ⟨_, _, field_of_type what decode h,
      field_of_type what decode (by rw [σ.type_eq hc, h]),
      .bind (.accept ht _) fun token =>
        .bind (decoded_follows decode what token.span token.val) fun _ => .pure rfl⟩
  · exact ⟨_, _, field_of_ne what decode h,
      field_of_ne what decode (by rwa [σ.type_eq hc]), parameter_follows what⟩

theorem wordField_follows (what : Suggestion) (decode : Decoder α) :
    σ.Follows (Located.move σ.move) (wordField what decode) (wordField what decode) :=
  field_follows (by decide) what decode

theorem numberField_follows (what : Suggestion) (decode : Decoder α) :
    σ.Follows (Located.move σ.move) (numberField what decode) (numberField what decode) :=
  field_follows (by decide) what decode

theorem removableField_follows (what : Suggestion) (decode : Decoder α) :
    σ.Follows (fun p => (p.1.move σ.move, p.2)) (removableField what decode)
      (removableField what decode) := by
  refine .of_apply fun c d hc => ?_
  have ht := σ.type_eq hc
  by_cases h : c.type = .number
  · refine ⟨_, _, removableField_of_number what decode h,
      removableField_of_number what decode (ht.trans h),
      .bind (removable_follows what decode) fun a => .pure ?_⟩
    rw [σ.span_eq hc]
    rfl
  by_cases h' : c.type = .minus
  · exact ⟨_, _, removableField_of_minus what decode h',
      removableField_of_minus what decode (ht.trans h'),
      .bind (.accept (by decide) _) fun _ =>
        .bind (numberField_follows what decode) fun v => .pure rfl⟩
  · exact ⟨_, _, removableField_of_ne what decode h h',
      removableField_of_ne what decode (ht ▸ h) (ht ▸ h'),
      .bind (parameter_follows what) fun v => .pure rfl⟩

theorem uberIdentifier_follows : σ.Follows (Located.move σ.move) uberIdentifier uberIdentifier :=
  .located (g := id) (.bind (number_follows _ _) fun _ => .bind (.accept (by decide) _) fun _ =>
    .bind (number_follows _ _) fun _ => .pure rfl)

theorem iconBody_follows (kind : IconKind) : σ.Follows id (iconBody kind) (iconBody kind) := by
  cases kind with
  | file => exact .bind (quoted_follows _) fun _ => .pure rfl
  | shard | spell | opher | lupo | grom | tuley =>
    exact .bind (number_follows _ _) fun _ => .pure rfl

theorem icon_follows : σ.Follows (Located.move σ.move) icon icon :=
  .located (g := id) (.bind (keyword_follows _ _) fun kind => .bind (.accept (by decide) _) fun _ =>
    iconBody_follows kind)

theorem setting_follows (type : UberType) :
    σ.Follows (Setting.relocate σ.move) (setting type) (setting type) := by
  cases type with
  | bool | teleporter => exact .bind (wordField_follows _ _) fun _ => .pure rfl
  | byte | int | float => exact .bind (numberField_follows _ _) fun _ => .pure rfl

theorem actionBody_follows (kind : CommandKind) :
    σ.Follows (Action.relocate σ.move) (actionBody kind) (actionBody kind) := by
  cases kind with
  | autosave | checkpoint => exact .pure rfl
  | toggle | equip =>
    exact .bind (bar_follows _) fun _ => .bind (number_follows _ _) fun _ =>
      .bind (bar_follows _) fun _ => .bind (numberField_follows _ _) fun _ => .pure rfl
  | warp =>
    exact .bind (bar_follows _) fun _ => .bind (numberField_follows _ _) fun _ =>
      .bind (bar_follows _) fun _ => .bind (numberField_follows _ _) fun _ => .pure rfl
  | startTimer | stopTimer =>
    exact .bind (bar_follows _) fun _ => .bind uberIdentifier_follows fun _ => .pure rfl
  | setHealth | setEnergy | setSpiritLight =>
    exact .bind (bar_follows _) fun _ => .bind (numberField_follows _ _) fun _ => .pure rfl

theorem action_follows : σ.Follows (Action.relocate σ.move) action action :=
  .bind (number_follows _ _) actionBody_follows

theorem water_follows : σ.Follows id water water := by
  refine .of_apply fun c d hc => ⟨_, _, water_apply c, water_apply d, ?_⟩
  refine .bind (.accept (by decide) _) fun token =>
    .bind (decoded_follows Decoder.unsigned .integer token.span _) fun amount => ?_
  simp only [Located.move, id_eq]
  split
  · exact .pure rfl
  · exact .failAt id token.span _

theorem itemBody_follows (kind : ItemKind) :
    σ.Follows (Item.relocate σ.move) (itemBody kind) (itemBody kind) := by
  cases kind with
  | spiritLight | skill | shard | teleporter | bonusItem | bonusUpgrade =>
    exact .bind (removableField_follows _ _) fun _ => .pure rfl
  | resource | relic => exact .bind (numberField_follows _ _) fun _ => .pure rfl
  | command => exact .bind action_follows fun _ => .pure rfl
  | message => exact .bind (freeText_follows _) fun _ => .pure rfl
  | uberState =>
    exact .bind uberIdentifier_follows fun _ => .bind (bar_follows _) fun _ =>
      .bind (keyword_follows _ _) fun type => .bind (bar_follows _) fun _ =>
        .bind (setting_follows type) fun _ => .pure rfl
  | water => exact .bind water_follows fun _ => .pure rfl
  | sysMessage => exact .bind (number_follows _ _) fun _ => .pure rfl

theorem item_follows : σ.Follows (Located.moveItem σ.move) item item :=
  .located (.bind (number_follows _ _) fun kind => .bind (bar_follows _) fun _ =>
    itemBody_follows kind)

theorem gap_follows : σ.Follows id gap gap :=
  .bind (.accept (by decide) _) fun _ => .pure rfl

theorem itemThenGap_follows : σ.Follows (Located.moveItem σ.move) itemThenGap itemThenGap :=
  .bind item_follows fun _ => .bind gap_follows fun _ => .pure rfl

theorem defaultValue_follows (type : ParameterType) :
    σ.Follows id (defaultValue type) (defaultValue type) := by
  cases type with
  | bool =>
    exact .bind (.accept (by decide) _) fun token =>
      .bind (decoded_follows _ _ token.span token.val) fun _ => .pure rfl
  | int | float => exact .bind (number_follows _ _) fun _ => .pure rfl
  | string => exact .bind (freeText_follows _) fun _ => .pure rfl

theorem arguments_follows (word : CommandWord) :
    σ.Follows (Command.relocate σ.move) (arguments word) (arguments word) := by
  cases word with
  | includeHeader | excludeHeader => exact .bind (identifier_follows _) fun _ => .pure rfl
  | add | remove => exact .bind item_follows fun _ => .pure rfl
  | name | display | description =>
    exact .bind itemThenGap_follows fun _ => .bind (freeText_follows _) fun _ => .pure rfl
  | price =>
    exact .bind itemThenGap_follows fun _ => .bind (numberField_follows _ _) fun _ => .pure rfl
  | icon => exact .bind itemThenGap_follows fun _ => .bind icon_follows fun _ => .pure rfl
  | parameter =>
    exact .bind (identifier_follows _) fun _ => .bind gap_follows fun _ =>
      .bind (keyword_follows _ _) fun type => .bind (.accept (by decide) _) fun _ =>
        .bind (defaultValue_follows type) fun _ => .pure rfl
  | setState => exact .bind uberIdentifier_follows fun _ => .pure rfl
  | ifState =>
    exact .bind uberIdentifier_follows fun _ => .bind (bar_follows _) fun _ =>
      .bind (numberField_follows _ _) fun _ => .pure rfl
  | endif => exact .pure rfl

theorem command_follows : σ.Follows (Command.relocate σ.move) command command := by
  refine .bind (keyword_follows _ _) fun word => ?_
  simp only [id_eq]
  split
  · exact .pure rfl
  · exact .bind gap_follows fun _ => arguments_follows word

theorem timer_follows : σ.Follows (Timer.relocate σ.move) timer timer :=
  .bind uberIdentifier_follows fun _ => .bind (bar_follows _) fun _ =>
    .bind uberIdentifier_follows fun _ => .pure rfl

theorem skip_follows {t : TokenType} (ht : t ≠ .newline) : σ.Follows id (skip t) (skip t) :=
  .bind (.skipWhile (by simpa using ht.symm)) fun _ => .pure rfl

theorem joint_follows : σ.Follows id joint joint := by
  refine .of_apply fun c d hc => ?_
  have ht := σ.type_eq hc
  by_cases h : c.type = .dot
  · exact ⟨_, _, joint_of_type (.inl rfl) h, joint_of_type (.inl rfl) (ht.trans h),
      .bind (.accept (by decide) _) fun _ => skip_follows (by decide)⟩
  by_cases h' : c.type = .separator
  · exact ⟨_, _, joint_of_type (.inr rfl) h', joint_of_type (.inr rfl) (ht.trans h'),
      .bind (.accept (by decide) _) fun _ => skip_follows (by decide)⟩
  · exact ⟨pure (), pure (), joint_of_ne h h', joint_of_ne (ht ▸ h) (ht ▸ h'), .pure rfl⟩

theorem setup_follows : σ.Follows (Timer.relocate σ.move) setup setup := by
  refine .bind (g := id) (.bind (skip_follows (by decide)) fun _ => joint_follows) fun _ =>
    .bind (keyword_follows _ _) fun kind => ?_
  cases kind with
  | timer => exact .bind (bar_follows _) fun _ => timer_follows

theorem condition_follows :
    σ.Follows (Option.map (Located.move σ.move)) condition condition := by
  refine .of_apply fun c d hc => ?_
  have ht := σ.type_eq hc
  by_cases h : c.type = .eq
  · exact ⟨_, _, condition_of_eq h, condition_of_eq (ht.trans h),
      .bind (.accept (by decide) _) fun _ => .bind (numberField_follows _ _) fun _ => .pure rfl⟩
  · exact ⟨pure none, pure none, condition_of_ne h, condition_of_ne (ht ▸ h), .pure rfl⟩

theorem trigger_follows :
    σ.Follows (Located.relocate σ.move (Trigger.relocate σ.move)) trigger trigger :=
  .located (.bind uberIdentifier_follows fun _ => .bind condition_follows fun _ => .pure rfl)

theorem pickup_follows (ignore skipValidation : Bool) :
    σ.Follows (Pickup.relocate σ.move) (pickup ignore skipValidation)
      (pickup ignore skipValidation) := by
  refine .bind trigger_follows fun t => ?_
  -- which bar is missing depends on whether there is a value, which moving does not change
  have e : (t.relocate σ.move (Trigger.relocate σ.move)).val.value.isSome =
      t.val.value.isSome := by
    simp [Located.relocate, Trigger.relocate]
  rw [e]
  exact .bind (bar_follows _) fun _ => .bind item_follows fun _ => .pure rfl

theorem setupStatement_follows :
    σ.Follows (Content.relocate σ.move) setupStatement setupStatement := by
  refine .bind (keyword_follows _ _) fun word => ?_
  cases word with
  | setup => exact .bind setup_follows fun _ => .pure rfl

theorem marked_follows (skipValidation : Bool) :
    σ.Follows (Content.relocate σ.move) (marked skipValidation) (marked skipValidation) := by
  refine .of_apply fun c d hc => ?_
  have ht := σ.type_eq hc
  by_cases h : c.type = .bang
  · exact ⟨_, _, marked_of_bang _ h, marked_of_bang _ (ht.trans h),
      .bind (.accept (by decide) _) fun _ => .bind command_follows fun _ => .pure rfl⟩
  · exact ⟨_, _, marked_of_ne _ h, marked_of_ne _ (ht ▸ h),
      .bind (pickup_follows _ _) fun _ => .pure rfl⟩

theorem statementBody_follows (skipValidation : Bool) :
    σ.Follows (Content.relocate σ.move) (statementBody skipValidation)
      (statementBody skipValidation) := by
  refine .of_apply fun c d hc => ?_
  have ht := σ.type_eq hc
  rw [statementBody, peek_bind, peek_bind, ht]
  cases h : c.type with
  | identifier => exact ⟨_, _, rfl, rfl, setupStatement_follows⟩
  | bang =>
    exact ⟨_, _, take_bind h, take_bind (ht.trans h),
      .bind (.accept (by decide) _) fun _ => marked_follows _⟩
  | number | dollar => exact ⟨_, _, rfl, rfl, .bind (pickup_follows _ _) fun _ => .pure rfl⟩
  | pound =>
    exact ⟨_, _, take_bind h, take_bind (ht.trans h),
      .bind (.accept (by decide) _) fun _ => .bind (identifier_follows _) fun _ => .pure rfl⟩
  | _ => exact ⟨_, _, rfl, rfl, .fail _ _⟩

/-- **A statement is read in the same way at corresponding places.**  Its spans, and that of its
fault, are those of the other text. -/
theorem statement_follows (skipValidation : Bool) :
    σ.Follows (Located.moveContent σ.move) (statement skipValidation) (statement skipValidation) :=
  .located (statementBody_follows skipValidation)

end Grammar

end SeedHeader
