import SeedHeader.Proofs.Writing

/-!
# Proofs — Written statements

Every well-formed statement, in its written form, says itself: for each script of a value, an item,
a command or a statement, that it is cut into lexemes that say what the script was made from.
-/

namespace SeedHeader

open Lexeme

namespace Script

/-! ### Compound values -/

theorem writes_decimal {n : Nat} (h : IsUint32 n) :
    Writes clear (decimal n) (Phrase.number Decoder.unsigned) n :=
  (isRow_decimal h).writes

theorem writes_uber {u : UberIdentifier} (h : u.WellFormed) :
    Writes clear (uber u) Phrase.uber u := by
  have hid := (writes_decimal h.2).map fun id => (⟨u.group, id⟩ : UberIdentifier)
  exact (writes_decimal h.1).seq (begins_mark .bar _) (hid.marked .bar)

theorem begins_uber {u : UberIdentifier} (h : u.WellFormed) : Begins solid (uber u) :=
  (isRow_decimal h.1).begins.mul _

section
variable {α : Type} [Worded α] [Small α]

/-- A word with a colon behind it decides how its body is read. -/
theorem writes_labelled {β : Type} (label : α) {F : Char → Bool} {s : Script} {Q : α → Phrase β}
    {b : β} (hQ : Writes F s (Q label) b) :
    Writes F (labelled label s)
      ((Phrase.word α).seq fun label => (Phrase.token .colon).before (Q label)) b :=
  (writes_word label).seq (begins_mark .colon _) (hQ.marked .colon)

theorem begins_word (a : α) : Begins solid (word a) :=
  begins_name (isSmall_word a).isWord

end

theorem writes_icon {i : Icon} (h : i.WellFormed) : Writes clear (icon i) Phrase.icon i := by
  cases i with
  | shard n | spell n | opher n | lupo n | grom n | tuley n =>
    exact writes_labelled _ ((writes_decimal h).map _)
  | file path =>
    exact writes_labelled _ (((writes_quotation h).map _).weaken fun _ _ => rfl)

theorem begins_icon (i : Icon) : Begins solid (icon i) := by
  cases i <;> exact (begins_word _).mul _

/-! ### Items -/

theorem writes_amount {v : Value Nat} (h : v.Fits IsUint32) :
    Writes clear (value decimal v) (Phrase.field .number Decoder.unsigned) v :=
  writes_value (fun _ => writes_decimal) h

theorem begins_amount {v : Value Nat} (h : v.Fits IsUint32) : Begins solid (value decimal v) := by
  cases v with
  | literal n => exact (isRow_decimal h).begins
  | parameter name => exact (begins_exactly rfl rfl).mul _

/-- The type of an uber state decides how its value is read. -/
theorem writes_setting {β : Type} {s : Setting} (h : s.WellFormed) (f : Setting → β) :
    Writes clear (setting s)
      ((Phrase.word UberType).seq fun type => Phrase.bar.before ((Phrase.setting type).map f))
      (f (s.relocate forget)) := by
  cases s with
  | bool v | teleporter v =>
    exact (writes_word _).barred (((writes_value (fun b _ => writes_boolean b) h).map _).map f)
  | byte v | int v =>
    exact (writes_word _).barred (((writes_value (fun _ => writes_integer) h).map _).map f)
  | float v =>
    exact (writes_word _).barred (((writes_value (fun _ => writes_float) h).map _).map f)

section
variable {α : Type} [Numbered α] [Bounded α]

theorem writes_member (a : α) : Writes clear (member a) (Phrase.number (Decoder.member α)) a :=
  (isRow_member a).writes

theorem writes_memberField {v : Value α} (h : v.Any) :
    Writes clear (value member v) (Phrase.field .number (Decoder.member α)) v :=
  writes_value (fun a _ => writes_member a) h

theorem writes_memberRemovable {v : Value α} (h : v.Any) (remove : Bool) :
    Writes clear (removable member v remove) (Phrase.removableField (Decoder.member α))
      (v, remove) :=
  writes_removable (fun a _ => isRow_member a) h remove

end

/-- The number of a command kind decides how the fields behind it are read. -/
theorem writes_actionFields (kind : CommandKind) {s : Script} {R : Phrase Action} {a : Action}
    (hkind : Phrase.actionBody kind = Phrase.bar.before R) (hR : Writes clear s R a) :
    Writes clear (barred (member kind) s) Phrase.action a := by
  refine (writes_member kind).seq (begins_mark .bar s) ?_
  rw [hkind]
  exact Writes.bar.before (begins_anything s) hR

theorem writes_action {a : Action} (h : a.WellFormed) :
    Writes clear (action a) Phrase.action (a.relocate forget) := by
  cases a with
  | autosave => exact (writes_member CommandKind.autosave).seqNothing fun _ _ => ⟨rfl, rfl⟩
  | checkpoint => exact (writes_member CommandKind.checkpoint).seqNothing fun _ _ => ⟨rfl, rfl⟩
  | toggle target on =>
    refine writes_actionFields .toggle rfl ?_
    exact (writes_member target).barred ((writes_value (fun b _ => writes_bit b) h).map _)
  | warp x y =>
    refine writes_actionFields .warp rfl ?_
    exact (writes_value (fun _ => writes_float) h.1).barred
      ((writes_value (fun _ => writes_float) h.2).map _)
  | startTimer u => exact writes_actionFields .startTimer rfl ((writes_uber h).map _)
  | stopTimer u => exact writes_actionFields .stopTimer rfl ((writes_uber h).map _)
  | setHealth n => exact writes_actionFields .setHealth rfl ((writes_amount h).map _)
  | setEnergy n => exact writes_actionFields .setEnergy rfl ((writes_amount h).map _)
  | setSpiritLight n => exact writes_actionFields .setSpiritLight rfl ((writes_amount h).map _)
  | equip slot skill =>
    refine writes_actionFields .equip rfl ?_
    exact (writes_member slot).barred ((writes_memberField h).map _)

theorem writes_water (remove : Bool) :
    Writes clear (exactly (if remove then "-0" else "0")) Phrase.water remove := by
  refine writes_numeral ⟨_, rfl⟩ ?_ ?_
  · rintro cs rfl
    cases remove with
    | false => exact isNumeral_toDigits (.inl rfl) 0
    | true => exact isNumeral_toDigits (.inr rfl) 0
  · rintro cs rfl rest
    cases remove with
    | false => exact ⟨_, rfl, rfl, rfl⟩
    | true => exact ⟨_, rfl, rfl, rfl⟩

/-- The number of its kind decides how an item is read. -/
theorem writes_itemFields (kind : ItemKind) {F : Char → Bool} {s : Script} {i : Item}
    (h : Writes F s (Phrase.itemBody kind) i) :
    Writes F (barred (member kind) s) Phrase.item i :=
  (writes_member kind).barred h

theorem writes_innerItem {i : Item} (h : i.Inner) :
    Writes clear (item i) Phrase.item (i.relocate forget) := by
  obtain ⟨h, hm⟩ := h
  cases i with
  | spiritLight n r =>
    exact writes_itemFields .spiritLight
      ((writes_removable (fun _ => isRow_decimal) h r).map _)
  | resource v => exact writes_itemFields .resource ((writes_memberField h).map _)
  | skill v r => exact writes_itemFields .skill ((writes_memberRemovable h r).map _)
  | shard v r => exact writes_itemFields .shard ((writes_memberRemovable h r).map _)
  | command a => exact writes_itemFields .command ((writes_action h).map _)
  | teleporter v r => exact writes_itemFields .teleporter ((writes_memberRemovable h r).map _)
  | message s => exact absurd trivial hm
  | uberState u s =>
    refine writes_itemFields .uberState ?_
    exact (writes_uber h.1).barred (writes_setting h.2 _)
  | water r => exact writes_itemFields .water ((writes_water r).map _)
  | bonusItem v r => exact writes_itemFields .bonusItem ((writes_memberRemovable h r).map _)
  | bonusUpgrade v r => exact writes_itemFields .bonusUpgrade ((writes_memberRemovable h r).map _)
  | relic v => exact writes_itemFields .relic ((writes_memberField h).map _)
  | sysMessage k => exact writes_itemFields .sysMessage ((writes_member k).map _)

/-- Any item may stand at the end of a line. -/
theorem writes_item {i : Item} (h : i.WellFormed) :
    Writes isLineEnd (item i) Phrase.item (i.relocate forget) := by
  by_cases hm : i.IsMessage
  · cases i with
    | message s => exact writes_itemFields .message ((writes_free h).map _)
    | _ => cases hm
  · exact (writes_innerItem ⟨h, hm⟩).weaken fun _ => clear_of_lineEnd

theorem begins_item (i : Item) : Begins solid (item i) := by
  have hkind : ∀ (kind : ItemKind) (s : Script), Begins solid (barred (member kind) s) :=
    fun kind s => (isRow_member kind).begins.mul _
  cases i <;> exact hkind _ _

/-! ### Commands -/

/-- The type of a parameter decides how its default is read. -/
theorem writes_default {β : Type} {d : Default} (h : d.WellFormed) (f : Default → β) :
    Writes isLineEnd (default d)
      ((Phrase.word ParameterType).seq fun type =>
        (Phrase.token .colon).before ((Phrase.default type).map f))
      (f d) := by
  cases d with
  | bool b =>
    exact writes_labelled _
      ((((writes_boolean b).map _).map f).weaken fun _ => clear_of_lineEnd)
  | int i =>
    exact writes_labelled _
      ((((writes_integer h).map _).map f).weaken fun _ => clear_of_lineEnd)
  | float x =>
    exact writes_labelled _
      ((((writes_float h).map _).map f).weaken fun _ => clear_of_lineEnd)
  | string s => exact writes_labelled _ (((writes_free h).map _).map f)

theorem begins_default (d : Default) : Begins solid (default d) := by
  cases d <;> exact (begins_word _).mul _

/-- The word of a command decides how its arguments are read. -/
theorem writes_arguments (w : CommandWord) (hw : w ≠ .endif) {s : Script} {c : Command}
    (hs : Begins solid s) (h : Writes isLineEnd s (Phrase.arguments w) c) :
    Writes isLineEnd (spaced (word w) s) Phrase.command c := by
  refine (writes_word w).seq ((begins_exactly rfl rfl).mul s) ?_
  rw [if_neg hw]
  exact writes_gap.before hs h

/-- An item with an argument behind it. -/
theorem writes_itemThen {β : Type} {i : Item} (hi : i.Inner) {s : Script} {Q : Item → Phrase β}
    {b : β} (hs : Begins solid s) (h : Writes isLineEnd s (Q (i.relocate forget)) b) :
    Writes isLineEnd (spaced (item i) s) (Phrase.itemThenGap.seq Q) b := by
  have hgap : Writes solid (item i * exactly " ") Phrase.itemThenGap (i.relocate forget) :=
    (writes_innerItem hi).seq (begins_exactly rfl rfl) (writes_gap.map _)
  rw [spaced, ← mul_assoc]
  exact hgap.seq hs h

theorem writes_command {c : Command} (h : c.WellFormed) :
    Writes isLineEnd (command c) Phrase.command (c.relocate forget) := by
  cases c with
  | needs s =>
    exact writes_arguments .includeHeader nofun (begins_name h)
      (((writes_name h).map _).weaken fun _ => clear_of_lineEnd)
  | forbids s =>
    exact writes_arguments .excludeHeader nofun (begins_name h)
      (((writes_name h).map _).weaken fun _ => clear_of_lineEnd)
  | add i => exact writes_arguments .add nofun (begins_item i.val) ((writes_item h).map _)
  | remove i => exact writes_arguments .remove nofun (begins_item i.val) ((writes_item h).map _)
  | name i s =>
    exact writes_arguments .name nofun ((begins_item i.val).mul _)
      (writes_itemThen h.1 (begins_free h.2) ((writes_free h.2).map _))
  | display i s =>
    exact writes_arguments .display nofun ((begins_item i.val).mul _)
      (writes_itemThen h.1 (begins_free h.2) ((writes_free h.2).map _))
  | description i s =>
    exact writes_arguments .description nofun ((begins_item i.val).mul _)
      (writes_itemThen h.1 (begins_free h.2) ((writes_free h.2).map _))
  | price i n =>
    exact writes_arguments .price nofun ((begins_item i.val).mul _)
      (writes_itemThen h.1 (begins_amount h.2)
        (((writes_amount h.2).map _).weaken fun _ => clear_of_lineEnd))
  | icon i c =>
    exact writes_arguments .icon nofun ((begins_item i.val).mul _)
      (writes_itemThen h.1 (begins_icon c.val)
        (((writes_icon h.2).map _).weaken fun _ => clear_of_lineEnd))
  | parameter s d =>
    exact writes_arguments .parameter nofun ((begins_name h.1).mul _)
      ((writes_name h.1).spaced (begins_default d) (writes_default h.2 _))
  | setState u =>
    exact writes_arguments .setState nofun (begins_uber h)
      (((writes_uber h).map _).weaken fun _ => clear_of_lineEnd)
  | ifState u v =>
    exact writes_arguments .ifState nofun ((begins_uber h.1).mul _)
      (((writes_uber h.1).barred ((writes_value (fun _ => writes_text) h.2).map _)).weaken
        fun _ => clear_of_lineEnd)
  | endif =>
    have hend : Writes clear (word CommandWord.endif) Phrase.command .endif :=
      (writes_word _).seqNothing fun _ _ => ⟨rfl, rfl⟩
    exact hend.weaken fun _ => clear_of_lineEnd

/-! ### Statements -/

/-- A bar follows. -/
def atBar (d : Char) : Bool := d = '|'

theorem firstType_of_bar {k : List Char} (h : Meets atBar k) : firstType (lexemes k) ≠ .eq := by
  cases k with
  | nil => simp [firstType]
  | cons c k =>
    obtain rfl : c = '|' := by simpa [atBar] using h c rfl
    rw [show lexemes ('|' :: k) = _ from lexemes_mark .bar k]
    simp

theorem writes_trigger {t : Trigger} (h : t.WellFormed) :
    Writes atBar (trigger t) Phrase.trigger (t.relocate forget) := by
  have hclear : ∀ d, atBar d → clear d := by
    intro d hd
    obtain rfl : d = '|' := by simpa [atBar] using hd
    decide
  obtain ⟨u, v⟩ := t
  cases v with
  | none =>
    refine ((writes_uber h.1).weaken hclear).seqNothing fun k hk => ?_
    exact ⟨none, .inr ⟨rfl, firstType_of_bar hk, rfl⟩, rfl⟩
  | some v =>
    have hv := (writes_value (fun _ => writes_text) (h.2 v rfl)).map some
    exact ((writes_uber h.1).seq (begins_mark .eq _) ((hv.marked .eq).inl.map _)).weaken hclear

theorem writes_pickup {p : Pickup} (ht : p.trigger.val.WellFormed) (hi : p.item.val.WellFormed) :
    Writes isLineEnd (barred (trigger p.trigger.val) (item p.item.val))
      (Phrase.pickup p.ignore p.skipValidation) (p.relocate forget) :=
  (writes_trigger ht).barredOf rfl ((writes_item hi).map _)

theorem firstType_of_wordStart {k : List Char} (h : Meets isWordStart k) :
    firstType (lexemes k) = .identifier ∨ firstType (lexemes k) = .eof := by
  cases k with
  | nil => exact .inr rfl
  | cons c k =>
    rw [lexemes_cons, firstType_cons, Lexeme.cut, extent_of_wordStart (h c rfl)]
    exact .inl rfl

/-- A space is enough between the word `setup` and the kind. -/
theorem writes_joiner : Writes isWordStart (exactly " ") Phrase.joiner () := by
  have hsolid : ∀ d, isWordStart d → solid d := by
    intro d hd
    simp [solid, isPadding_of_class hd (by decide) (by decide)]
  refine (writes_gap.inl.weaken hsolid).seqNothing fun k hk => ?_
  refine .inr (.inr ⟨rfl, ?_, rfl⟩)
  rcases firstType_of_wordStart hk with h | h
  · simp [h, Phrase.IsJoint]
  · simp [h, Phrase.IsJoint]

theorem writes_timer {t : Timer} (hs : t.switch.val.WellFormed) (hc : t.counter.val.WellFormed) :
    Writes clear (barred (uber t.switch.val) (uber t.counter.val)) Phrase.timer
      (t.relocate forget) :=
  (writes_uber hs).barred ((writes_uber hc).map _)

/-- **A statement in its written form says itself.** -/
theorem writes_statement {c : Content} (h : c.WellFormed) (hc : ¬ IsDocumentation c) :
    Writes isLineEnd (content c) (Phrase.statement (isExcused c)) (c.relocate forget) := by
  cases c with
  | outerDocumentation s | innerDocumentation s => exact absurd trivial hc
  | annotated s =>
    have hname := ((writes_name h).map Content.annotated).weaken fun _ => clear_of_lineEnd
    exact (hname.marked .pound).inr.inr.inr
  | timer t =>
    have htimer := (writes_timer h.1 h.2).weaken fun _ => clear_of_lineEnd
    have hkind := (writes_word SetupKind.timer).barred (Q := fun _ => Phrase.timer) htimer
    have hword : Begins isWordStart (word SetupKind.timer) := begins_exactly rfl rfl
    have hsetup := (writes_joiner.before (hword.mul _) hkind).map Content.timer
    exact ((writes_word StatementWord.setup).before ((begins_exactly rfl rfl).mul _) hsetup).inl
  | pickup p =>
    have hp := (writes_pickup h.1 h.2).map Content.pickup
    obtain ⟨t, i, ignore, skip⟩ := p
    cases ignore with
    | false => exact hp.inl.inr.inr
    | true => exact (hp.inr.marked .bang).inl.inr
  | command c =>
    have hcommand := (writes_command h).map Content.command
    exact ((hcommand.marked .bang).inl.marked .bang).inl.inr

end Script

end SeedHeader
