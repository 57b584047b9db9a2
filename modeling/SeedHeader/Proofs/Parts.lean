import SeedHeader.Proofs.Settling
import SeedHeader.Proofs.Recognition

/-!
# Proofs — The parts of what is read

A content has parts that stand at places of their own: uber identifiers, triggers, items and icons,
each read by a rule of its own, and the values in them.  The parts are listed in the order of the
text.

`c.Finds ps c'` says that from `c` to `c'` these parts lie one behind the other, each read by its
rule where it lies.  A rule *collects* parts when it adds them to those that were found before it;
that passes through sequencing, so every content, every item and every trigger lists what was found
in the tokens that it was read from (`statement_finds`, `item_finds`, `trigger_finds`).
-/

namespace SeedHeader

open Rule Grammar

/-! ### Parts -/

/-- A part of a content with a place of its own.  Of a value only the place matters. -/
inductive Part where
  | value (span : Span)
  | uber (u : Located UberIdentifier)
  | trigger (t : Located Trigger)
  | item (i : Located Item)
  | icon (i : Located Icon)

/-- The parts of a setting. -/
def Setting.parts : Setting → List Part
  | .bool v | .teleporter v => [.value v.span]
  | .byte v | .int v        => [.value v.span]
  | .float v                => [.value v.span]

/-- The parts of a command item. -/
def Action.parts : Action → List Part
  | .autosave | .checkpoint => []
  | .toggle _ on => [.value on.span]
  | .warp x y => [.value x.span, .value y.span]
  | .startTimer u | .stopTimer u => [.uber u]
  | .setHealth n | .setEnergy n | .setSpiritLight n => [.value n.span]
  | .equip _ skill => [.value skill.span]

/-- The parts of an item. -/
def Item.parts : Item → List Part
  | .spiritLight v _  => [.value v.span]
  | .resource v       => [.value v.span]
  | .skill v _        => [.value v.span]
  | .shard v _        => [.value v.span]
  | .command a        => a.parts
  | .teleporter v _   => [.value v.span]
  | .message _        => []
  | .uberState u s    => .uber u :: s.parts
  | .water _          => []
  | .bonusItem v _    => [.value v.span]
  | .bonusUpgrade v _ => [.value v.span]
  | .relic v          => [.value v.span]
  | .sysMessage _     => []

/-- The parts of a trigger: it need not have a value. -/
def Trigger.parts (t : Trigger) : List Part :=
  .uber t.identifier :: (t.value.map fun v => Part.value v.span).toList

/-- The parts of a command. -/
def Command.parts : Command → List Part
  | .needs _ | .forbids _ | .parameter _ _ | .endif => []
  | .add i | .remove i => [.item i]
  | .name i _ | .display i _ | .description i _ => [.item i]
  | .price i n => [.item i, .value n.span]
  | .icon i c => [.item i, .icon c]
  | .setState u => [.uber u]
  | .ifState u v => [.uber u, .value v.span]

/-- The parts of a timer. -/
def Timer.parts (t : Timer) : List Part := [.uber t.switch, .uber t.counter]

/-- The parts of a pickup. -/
def Pickup.parts (p : Pickup) : List Part := [.trigger p.trigger, .item p.item]

/-- The parts of a content. -/
def Content.parts : Content → List Part
  | .outerDocumentation _ | .innerDocumentation _ | .annotated _ => []
  | .timer t   => t.parts
  | .pickup p  => p.parts
  | .command c => c.parts

/-- The parts of a part. -/
def Part.parts : Part → List Part
  | .value _ | .uber _ | .icon _ => []
  | .trigger t => t.val.parts
  | .item i => i.val.parts

/-! ### Parts that are found -/

/-- From `c` to `c'` the part is read by its rule. -/
def Part.ReadFrom (c c' : Cursor) : Part → Prop
  | .value span => span = ⟨c.pos, c'.pos⟩ ∧ ∃ l w, c.Passes (l :: w) c'
  | .uber u     => Grammar.uberIdentifier c = .ok u c'
  | .trigger t  => Grammar.trigger c = .ok t c'
  | .item i     => Grammar.item c = .ok i c'
  | .icon i     => Grammar.icon c = .ok i c'

namespace Cursor

/-- From `c` to `c'` the parts lie one behind the other. -/
def Finds : Cursor → List Part → Cursor → Prop
  | c, [], c'      => c.Reaches c'
  | c, p :: ps, c' => ∃ d d', c.Reaches d ∧ p.ReadFrom d d' ∧ Finds d' ps c'

namespace Finds

variable {ps : List Part} {c d c' : Cursor}

theorem reaches (h : c.Finds ps d) (h' : d.Reaches c') : c.Finds ps c' := by
  induction ps generalizing c with
  | nil => exact Reaches.trans h h'
  | cons p ps ih =>
    obtain ⟨e, e', he, hp, hps⟩ := h
    exact ⟨e, e', he, hp, ih hps⟩

theorem snoc {p : Part} (h : c.Finds ps d) (hp : p.ReadFrom d c') : c.Finds (ps ++ [p]) c' := by
  induction ps generalizing c with
  | nil => exact ⟨d, c', h, hp, .refl c'⟩
  | cons q ps ih =>
    obtain ⟨e, e', he, hq, hps⟩ := h
    exact ⟨e, e', he, hq, ih hps⟩

end Finds

end Cursor

namespace Rule

variable {α β : Type} {found : List Part}

/-- After `found`, the rule collects the parts of what it yields. -/
def Collects (found : List Part) (r : Rule α) (parts : α → List Part) : Prop :=
  ∀ ⦃c₀ c : Cursor⦄ ⦃a c'⦄, c₀.Finds found c → r c = .ok a c' → c₀.Finds (parts a) c'

namespace Collects

theorem pure {a : α} {parts : α → List Part} (h : parts a = found) :
    Collects found (pure a) parts := by
  intro c₀ c b c' hc hr
  cases hr
  exact h ▸ hc

theorem bind {r : Rule α} {f : α → Rule β} {parts : α → List Part} {parts' : β → List Part}
    (hr : Collects found r parts) (hf : ∀ a, Collects (parts a) (f a) parts') :
    Collects found (r >>= f) parts' := by
  intro c₀ c b c' hc h
  obtain ⟨a, c₁, h₁, h₂⟩ := bind_ok h
  exact hf a (hr hc h₁) h₂

/-- What is taken adds nothing. -/
theorem of_steady {r : Rule α} (hr : Steady r) : Collects found r fun _ => found :=
  fun _ _ _ _ hc h => hc.reaches (hr.ok h)

theorem after {r : Rule α} {f : α → Rule β} {parts : β → List Part} (hr : Steady r)
    (hf : ∀ a, Collects found (f a) parts) : Collects found (r >>= f) parts :=
  (of_steady hr).bind hf

theorem part {r : Rule α} (part : α → Part)
    (h : ∀ {c a c'}, r c = .ok a c' → (part a).ReadFrom c c') :
    Collects found r fun a => found ++ [part a] :=
  fun _ _ _ _ hc hr => hc.snoc (h hr)

theorem of_apply {r : Rule α} {parts : α → List Part}
    (h : ∀ c : Cursor, ∃ r' : Rule α, Collects found r' parts ∧ r c = r' c) :
    Collects found r parts := by
  intro c₀ c a c' hc hr
  obtain ⟨r', hr', e⟩ := h c
  exact hr' hc (e ▸ hr)

theorem fail {parts : α → List Part} (cause : Cause) : Collects found (fail cause) parts := by
  intro c₀ c a c' _ h
  cases h

end Collects

end Rule

/-! ### The rules of the grammar -/

namespace Grammar

open Rule

variable {α : Type} {found : List Part}

theorem accept_ok {t : TokenType} {cause : Cause} {c c' : Cursor} {token : Located (List Char)}
    (h : accept t cause c = .ok token c') : token.span = c.span ∧ c.span = ⟨c.pos, c'.pos⟩ := by
  rw [accept_apply] at h
  split at h
  · cases h
    exact ⟨rfl, rfl⟩
  · cases h

theorem parameter_readFrom {what : Suggestion} {c c' : Cursor} {v : Field α}
    (h : parameter what c = .ok v c') : (Part.value v.span).ReadFrom c c' :=
  ⟨(located_ok h).2, (parameter_built (P := Cause.Concerns) id).token h⟩

theorem field_readFrom {t : TokenType} (ht : isTextual t) (he : t ≠ .eof) {what : Suggestion}
    {decode : Decoder α} {c c' : Cursor} {v : Field α} (h : field t what decode c = .ok v c') :
    (Part.value v.span).ReadFrom c c' := by
  refine ⟨?_, (field_built ht he .any).token h⟩
  by_cases hc : c.type = t
  · rw [field_of_type what decode hc] at h
    obtain ⟨token, c₁, htoken, h₁⟩ := bind_ok h
    obtain ⟨a, c₂, ha, hv⟩ := bind_ok h₁
    obtain ⟨hspan, hpos⟩ := accept_ok htoken
    obtain ⟨rfl, -⟩ := decoded_iff.mp ha
    cases hv
    rw [hspan, hpos]
  · rw [field_of_ne what decode hc] at h
    exact (parameter_readFrom h).1

theorem wordField_collects (what : Suggestion) (decode : Decoder α) :
    Collects found (wordField what decode) fun v => found ++ [.value v.span] :=
  .part (fun v : Field α => .value v.span) (field_readFrom (t := .identifier) rfl (by decide))

theorem numberField_collects (what : Suggestion) (decode : Decoder α) :
    Collects found (numberField what decode) fun v => found ++ [.value v.span] :=
  .part (fun v : Field α => .value v.span) (field_readFrom (t := .number) rfl (by decide))

theorem removable_readFrom {what : Suggestion} {decode : Decoder α} {c c' : Cursor} {a : α × Bool}
    (h : removable what decode c = .ok a c') : (Part.value c.span).ReadFrom c c' := by
  refine ⟨?_, (removable_built .any).token h⟩
  obtain ⟨token, c₁, htoken, h₁⟩ := bind_ok h
  obtain ⟨b, c₂, hb, ha⟩ := bind_ok h₁
  obtain ⟨rfl, -⟩ := decoded_iff.mp hb
  cases ha
  exact (accept_ok htoken).2

theorem removableField_collects (what : Suggestion) (decode : Decoder α) :
    Collects found (removableField what decode) fun v => found ++ [.value v.1.span] := by
  intro c₀ c v c' hc h
  by_cases ht : c.type = .number
  · rw [removableField_of_number what decode ht] at h
    obtain ⟨a, c₁, ha, hv⟩ := bind_ok h
    cases hv
    exact hc.snoc (removable_readFrom ha)
  by_cases ht' : c.type = .minus
  · rw [removableField_of_minus what decode ht'] at h
    obtain ⟨token, c₁, htoken, h₁⟩ := bind_ok h
    obtain ⟨a, c₂, ha, hv⟩ := bind_ok h₁
    cases hv
    have hreach : c.Reaches c₁ := (eat_steady (t := .minus) (by decide) (by decide)).ok htoken
    exact (hc.reaches hreach).snoc (field_readFrom (t := .number) rfl (by decide) ha)
  · rw [removableField_of_ne what decode ht ht'] at h
    obtain ⟨a, c₁, ha, hv⟩ := bind_ok h
    cases hv
    exact hc.snoc (parameter_readFrom ha)

theorem uberIdentifier_collects : Collects found uberIdentifier fun u => found ++ [.uber u] :=
  .part .uber id

theorem icon_collects : Collects found icon fun i => found ++ [.icon i] := .part .icon id

theorem item_collects : Collects found item fun i => found ++ [.item i] := .part .item id

theorem trigger_collects : Collects found trigger fun t => found ++ [.trigger t] :=
  .part .trigger id

theorem setting_collects (type : UberType) :
    Collects found (setting type) fun s => found ++ s.parts := by
  cases type with
  | bool | teleporter => exact (wordField_collects _ _).bind fun _ => .pure rfl
  | byte | int | float => exact (numberField_collects _ _).bind fun _ => .pure rfl

theorem actionBody_collects (kind : CommandKind) :
    Collects [] (actionBody kind) Action.parts := by
  cases kind with
  | autosave | checkpoint => exact .pure rfl
  | toggle | equip =>
    exact .after (bar_built _).steady fun _ => .after (number_steady _ _) fun _ =>
      .after (bar_built _).steady fun _ => (numberField_collects _ _).bind fun _ => .pure rfl
  | warp =>
    exact .after (bar_built _).steady fun _ => (numberField_collects _ _).bind fun _ =>
      .after (bar_built _).steady fun _ => (numberField_collects _ _).bind fun _ => .pure rfl
  | startTimer | stopTimer =>
    exact .after (bar_built _).steady fun _ => uberIdentifier_collects.bind fun _ => .pure rfl
  | setHealth | setEnergy | setSpiritLight =>
    exact .after (bar_built _).steady fun _ => (numberField_collects _ _).bind fun _ => .pure rfl

theorem itemBody_collects (kind : ItemKind) : Collects [] (itemBody kind) Item.parts := by
  cases kind with
  | spiritLight | skill | shard | teleporter | bonusItem | bonusUpgrade =>
    exact (removableField_collects _ _).bind fun _ => .pure rfl
  | resource | relic => exact (numberField_collects _ _).bind fun _ => .pure rfl
  | command =>
    exact .bind (.after (number_steady _ _) actionBody_collects) fun _ => .pure rfl
  | message => exact .after (freeText_steady _) fun _ => .pure rfl
  | uberState =>
    exact uberIdentifier_collects.bind fun _ => .after (bar_built _).steady fun _ =>
      .after (keyword_steady _ _) fun type => .after (bar_built _).steady fun _ =>
        (setting_collects type).bind fun _ => .pure rfl
  | water => exact .after water_built.steady fun _ => .pure rfl
  | sysMessage => exact .after (number_steady _ _) fun _ => .pure rfl

/-- The parts of an item are found where it was read. -/
theorem item_finds {c c' : Cursor} {i : Located Item} (h : item c = .ok i c') :
    c.Finds i.val.parts c' := by
  have hbody : Collects [] (number .itemKind (Decoder.member ItemKind) >>= fun kind =>
      bar .itemKind >>= fun _ => itemBody kind) Item.parts :=
    .after (number_steady _ _) fun kind => .after (bar_built _).steady fun _ =>
      itemBody_collects kind
  exact hbody (.refl c) (located_ok h).1

theorem itemThenGap_collects : Collects [] itemThenGap fun i => [.item i] :=
  item_collects.bind fun _ => .after gap_built.steady fun _ => .pure rfl

theorem arguments_collects (word : CommandWord) :
    Collects [] (arguments word) Command.parts := by
  cases word with
  | includeHeader | excludeHeader => exact .after (identifier_steady _) fun _ => .pure rfl
  | add | remove => exact item_collects.bind fun _ => .pure rfl
  | name | display | description =>
    exact itemThenGap_collects.bind fun _ => .after (freeText_steady _) fun _ => .pure rfl
  | price =>
    exact itemThenGap_collects.bind fun _ => (numberField_collects _ _).bind fun _ => .pure rfl
  | icon => exact itemThenGap_collects.bind fun _ => icon_collects.bind fun _ => .pure rfl
  | parameter =>
    exact .after (identifier_steady _) fun _ => .after gap_built.steady fun _ =>
      .after (keyword_steady _ _) fun type => .after (eatFor_steady (by decide) (by decide) _)
        fun _ => .after (defaultValue_built type).steady fun _ => .pure rfl
  | setState => exact uberIdentifier_collects.bind fun _ => .pure rfl
  | ifState =>
    exact uberIdentifier_collects.bind fun _ => .after (bar_built _).steady fun _ =>
      (numberField_collects _ _).bind fun _ => .pure rfl
  | endif => exact .pure rfl

theorem command_collects : Collects [] command Command.parts := by
  refine .after (keyword_steady _ _) fun word => ?_
  split
  · exact .pure rfl
  · exact .after gap_built.steady fun _ => arguments_collects word

theorem setup_collects : Collects [] setup Timer.parts := by
  refine .after joiner_built.steady fun _ => .after (keyword_steady _ _) fun kind => ?_
  cases kind with
  | timer =>
    exact .after (bar_built _).steady fun _ => uberIdentifier_collects.bind fun _ =>
      .after (bar_built _).steady fun _ => uberIdentifier_collects.bind fun _ => .pure rfl

theorem condition_collects :
    Collects found condition fun v => found ++ (v.map fun v => Part.value v.span).toList := by
  refine .of_apply fun c => ?_
  by_cases h : c.type = .eq
  · exact ⟨_, .after (eat_steady (by decide) (by decide)) fun _ =>
      (numberField_collects _ _).bind fun _ => .pure rfl, condition_of_eq h⟩
  · exact ⟨pure none, .pure (List.append_nil _), condition_of_ne h⟩

/-- The parts of a trigger are found where it was read. -/
theorem trigger_finds {c c' : Cursor} {t : Located Trigger} (h : trigger c = .ok t c') :
    c.Finds t.val.parts c' := by
  have hbody : Collects [] (uberIdentifier >>= fun u => condition >>= fun v => pure ⟨u, v⟩)
      Trigger.parts :=
    uberIdentifier_collects.bind fun _ => condition_collects.bind fun _ => .pure rfl
  exact hbody (.refl c) (located_ok h).1

theorem pickup_collects (ignore skipValidation : Bool) :
    Collects [] (pickup ignore skipValidation) Pickup.parts :=
  trigger_collects.bind fun _ => .after (bar_built _).steady fun _ => item_collects.bind fun _ =>
    .pure rfl

theorem setupStatement_collects : Collects [] setupStatement Content.parts := by
  refine .after (keyword_steady _ _) fun word => ?_
  cases word with
  | setup => exact setup_collects.bind fun _ => .pure rfl

theorem marked_collects (skipValidation : Bool) :
    Collects [] (marked skipValidation) Content.parts := by
  refine .of_apply fun c => ?_
  by_cases h : c.type = .bang
  · exact ⟨_, .after (eat_steady (by decide) (by decide)) fun _ =>
      command_collects.bind fun _ => .pure rfl, marked_of_bang skipValidation h⟩
  · exact ⟨_, (pickup_collects _ _).bind fun _ => .pure rfl, marked_of_ne skipValidation h⟩

theorem statementBody_collects (skipValidation : Bool) :
    Collects [] (statementBody skipValidation) Content.parts := by
  refine .of_apply fun c => ?_
  rw [statementBody, peek_bind]
  cases h : c.type with
  | identifier => exact ⟨_, setupStatement_collects, rfl⟩
  | bang =>
    exact ⟨_, .after (eat_steady (by decide) (by decide)) fun _ => marked_collects _, take_bind h⟩
  | number | dollar => exact ⟨_, (pickup_collects _ _).bind fun _ => .pure rfl, rfl⟩
  | pound =>
    exact ⟨_, .after (eat_steady (by decide) (by decide)) fun _ =>
      .after (identifier_steady _) fun _ => .pure rfl, take_bind h⟩
  | _ => exact ⟨_, .fail _, rfl⟩

/-- **The parts of a statement are found where it was read**, one behind the other. -/
theorem statement_finds {skipValidation : Bool} {c c' : Cursor} {x : Located Content}
    (h : statement skipValidation c = .ok x c') : c.Finds x.val.parts c' :=
  statementBody_collects skipValidation (.refl c) (located_ok h).1

end Grammar

end SeedHeader
