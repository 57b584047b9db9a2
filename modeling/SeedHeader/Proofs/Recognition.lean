import SeedHeader.Proofs.Syntax

/-!
# Proofs — Every rule reads its phrase

For each rule of the grammar, that it reads the phrase of the same name.  At a choice the phrase
offers all alternatives; the rule looks at one token, which decides between them because no two
of them open with the same type.
-/

namespace SeedHeader.Grammar

open Rule

variable {α : Type}

/-! ### Values -/

theorem decoded_iff {decode : Decoder α} {what : Suggestion} {span : Span} {cs : List Char}
    {c c' : Cursor} {a : α} :
    decoded decode what span cs c = .ok a c' ↔ c' = c ∧ decode cs = .ok a := by
  unfold decoded
  cases h : decode cs with
  | ok b =>
    constructor
    · intro e
      cases e
      exact ⟨rfl, rfl⟩
    · rintro ⟨rfl, e⟩
      cases e
      rfl
  | error e => simp [failAt_apply]

theorem meaning_reads {β γ : Type} (t : TokenType) (ht : t ≠ .eof) {cause : Cause}
    (what : Suggestion) (decode : Decoder α) {f : Located (List Char) → α → β} {e : β → γ}
    {g : α → γ} (h : ∀ x a, e (f x a) = g a) :
    Reads e (accept t cause >>= fun x =>
      decoded decode what x.span x.val >>= fun a => pure (f x a)) ((Phrase.meaning t decode).map g) := by
  refine (Reads.judged t ht (m := fun cs b => ∃ a, decode cs = .ok a ∧ g a = b)
    fun x c c' b => ?_).congr fun w rest b => ?_
  · constructor
    · rintro ⟨y, hy, rfl⟩
      obtain ⟨a, c₁, ha, hy⟩ := bind_ok hy
      cases hy
      obtain ⟨rfl, hd⟩ := decoded_iff.mp ha
      exact ⟨rfl, a, hd, (h x a).symm⟩
    · rintro ⟨rfl, a, ha, rfl⟩
      exact ⟨_, (bind_of_ok (decoded_iff.mpr ⟨rfl, ha⟩)).trans rfl, h x a⟩
  · constructor
    · rintro ⟨cs, rfl, a, ha, rfl⟩
      exact ⟨a, ⟨cs, rfl, ha⟩, rfl⟩
    · rintro ⟨a, ⟨cs, rfl, ha⟩, rfl⟩
      exact ⟨cs, rfl, a, ha, rfl⟩

theorem number_reads (what : Suggestion) (decode : Decoder α) :
    Reads id (number what decode) (Phrase.number decode) := by
  refine .judged .number nofun (m := fun cs a => decode cs = .ok a) fun x c c' a => ?_
  simp [decoded_iff]

theorem keyword_reads (α : Type) [Worded α] (what : Suggestion) :
    Reads id (keyword (Worded.table α) what) (Phrase.word α) := by
  refine .judged .identifier nofun (m := fun cs a => Spells (Worded.word a) cs)
    fun x c c' a => ?_
  rw [← keyword?_table_iff]
  cases h : keyword? (Worded.table α) x.val with
  | some b => simp [EStateM.Result.ok.injEq, and_comm, eq_comm]
  | none => simp [failAt_apply]

theorem identifier_reads (what : Suggestion) : Reads id (identifier what) Phrase.name :=
  (Reads.accept .identifier nofun).map fun _ => rfl

theorem removable_reads (what : Suggestion) (decode : Decoder α) :
    Reads id (removable what decode) (Phrase.removable decode) := by
  refine .judged .number nofun (m := fun cs (a : α × Bool) =>
    decode (Decoder.splitMinus cs).2 = .ok a.1 ∧ (Decoder.splitMinus cs).1 = a.2)
    fun x c c' ⟨v, remove⟩ => ?_
  constructor
  · rintro ⟨b, hb, rfl⟩
    obtain ⟨v, c₁, hv, hb⟩ := bind_ok hb
    cases hb
    obtain ⟨rfl, hd⟩ := decoded_iff.mp hv
    exact ⟨rfl, hd, rfl⟩
  · rintro ⟨rfl, hv, rfl⟩
    exact ⟨_, (bind_of_ok (decoded_iff.mpr ⟨rfl, hv⟩)).trans rfl, rfl⟩

theorem water_reads : Reads id water Phrase.water := by
  refine .of_apply fun c => ⟨_, water_apply c, _, .judged .number nofun (m := fun cs remove =>
    Decoder.unsigned (Decoder.splitMinus cs).2 = .ok 0 ∧ (Decoder.splitMinus cs).1 = remove)
    fun x c c' remove => ?_, fun w rest b _ => .rfl⟩
  unfold waterAt
  constructor
  · rintro ⟨b, hb, rfl⟩
    obtain ⟨n, c₁, hn, hif⟩ := bind_ok hb
    obtain ⟨rfl, hd⟩ := decoded_iff.mp hn
    split at hif
    · next h => cases hif; exact ⟨rfl, h ▸ hd, rfl⟩
    · cases hif
  · rintro ⟨rfl, hn, rfl⟩
    exact ⟨_, (bind_of_ok (decoded_iff.mpr ⟨rfl, hn⟩)).trans rfl, rfl⟩

theorem quoted_reads (what : Suggestion) : Reads id (quoted what) Phrase.quoted := by
  refine .of_apply fun c => ⟨_, get_bind c, _, .judged .string nofun
    (m := fun cs s => c.lexeme.terminated ∧ String.ofList cs.tail.dropLast = s)
    fun x c₁ c' s => ?_, fun w rest s hw => ?_⟩
  · split
    · next h => simp [h, and_comm, eq_comm]
    · next h => simp [h, failAt_apply]
  · -- the lexeme that is judged is the one under the cursor
    have hl : ∀ cs, w = [⟨.string, cs⟩] → c.lexeme = ⟨.string, cs⟩ := by
      rintro cs rfl
      rw [Cursor.lexeme, hw]
      rfl
    constructor
    · rintro ⟨cs, h, ht, hs⟩
      exact ⟨cs, h, by rw [hl cs h]; exact ht, hs⟩
    · rintro ⟨cs, h, ht, hs⟩
      exact ⟨cs, h, by rw [hl cs h] at ht; exact ht, hs⟩

theorem freeText_reads (what : Suggestion) : Reads id (freeText what) Phrase.text := by
  intro c hc c' s
  rw [freeText_apply]
  constructor
  · rintro ⟨a, ha, rfl⟩
    split at ha
    · cases ha
    · next h =>
      cases ha
      refine ⟨_, Cursor.passes_skipWhile isTextual c, ?_, ?_, by simpa [Cursor.passed] using h, rfl⟩
      · exact List.all_eq_true.mp List.all_takeWhile
      · exact stop_dropWhile _ c.ahead
  · rintro ⟨w, hw, htext, hstop, hne, rfl⟩
    have hpass : c.passed isTextual = charsOf w := by
      rw [Cursor.passed, hw.ahead, takeWhile_append_of_head htext hstop]
    have hskip : c.skipWhile isTextual = c' := by
      refine Cursor.Passes.unique (w := w) ?_ hw
      have := Cursor.passes_skipWhile isTextual c
      rwa [hw.ahead, takeWhile_append_of_head htext hstop] at this
    rw [hpass, hskip, if_neg (by simpa using hne)]
    exact ⟨_, rfl, rfl⟩

theorem bar_reads (what : Suggestion) : Reads id (bar what) Phrase.bar :=
  (Reads.accept .separator nofun).map fun _ => rfl

theorem gap_reads : Reads id gap Phrase.gap :=
  (Reads.accept .whitespace nofun).map fun _ => rfl

theorem parameter_reads (what : Suggestion) :
    Reads Located.val (parameter what : Rule (Field α)) Phrase.parameter := by
  refine .located (e := id) ((Reads.accept .dollar nofun).before
    ((keyword_reads Interpolation _).bind fun command => ?_))
  cases command with
  | param =>
    exact (Reads.accept .openParen nofun).before ((Reads.accept .identifier nofun).bind fun name =>
      (Reads.accept .closeParen nofun).map fun _ => rfl)

theorem parameter_opens : (Phrase.parameter : Phrase (Value α)).Opens (· = .dollar) :=
  (Phrase.Opens.token .dollar).seq _

theorem field_reads (t : TokenType) (ht : t ≠ .eof) (hd : t ≠ .dollar) (what : Suggestion)
    (decode : Decoder α) : Reads Located.val (field t what decode) (Phrase.field t decode) := by
  refine .choice (· = t) (field_of_type what decode) (field_of_ne what decode) ?_
    (parameter_reads what) ((Phrase.Opens.meaning t decode).map _) ?_
  · exact meaning_reads t ht what decode fun _ _ => rfl
  · exact parameter_opens.mono fun u hu => by rw [hu]; exact hd.symm

theorem numberField_reads (what : Suggestion) (decode : Decoder α) :
    Reads Located.val (numberField what decode) (Phrase.field .number decode) :=
  field_reads .number nofun nofun what decode

theorem wordField_reads (what : Suggestion) (decode : Decoder α) :
    Reads Located.val (wordField what decode) (Phrase.field .identifier decode) :=
  field_reads .identifier nofun nofun what decode

theorem removableField_reads (what : Suggestion) (decode : Decoder α) :
    Reads (fun v => (v.1.val, v.2)) (removableField what decode)
      (Phrase.removableField decode) := by
  have hnum : ((Phrase.removable decode).map fun a => (Value.literal a.1, a.2)).Opens
      (· = .number) := by
    rintro w rest a ⟨b, ⟨cs, rfl, -⟩, -⟩
    rfl
  have hminus : ((Phrase.token .minus).before
      ((Phrase.field .number decode).map fun v => (v, true))).Opens (· = .minus) :=
    (Phrase.Opens.token .minus).seq _
  have hdollar := parameter_opens.map fun v : Value α => (v, false)
  refine .of_apply fun c => ?_
  by_cases h : c.type = .number
  · refine ⟨_, removableField_of_number what decode h, _,
      (removable_reads what decode).map fun _ => rfl, fun w rest b hw => or_iff_left ?_⟩
    exact not_or_intro (hminus.absent hw (by simp [h])) (hdollar.absent hw (by simp [h]))
  by_cases h' : c.type = .minus
  · refine ⟨_, removableField_of_minus what decode h', _,
      (Reads.accept .minus nofun).before
        ((numberField_reads what decode).map (g := fun v => (v, true)) fun _ => rfl),
      fun w rest b hw => ?_⟩
    exact (or_iff_right (hnum.absent hw h)).trans
      (or_iff_left (hdollar.absent hw (by simp [h'])))
  · refine ⟨_, removableField_of_ne what decode h h', _,
      (parameter_reads what).map (g := fun v => (v, false)) fun _ => rfl, fun w rest b hw => ?_⟩
    exact (or_iff_right (hnum.absent hw h)).trans (or_iff_right (hminus.absent hw h'))

theorem uberIdentifier_reads : Reads Located.val uberIdentifier Phrase.uber :=
  .located (e := id) ((number_reads _ _).bind fun _ =>
    (Reads.accept .separator nofun).before ((number_reads _ _).map fun _ => rfl))

theorem iconBody_reads (kind : IconKind) : Reads id (iconBody kind) (Phrase.iconBody kind) := by
  cases kind with
  | file => exact (quoted_reads _).map fun _ => rfl
  | shard | spell | opher | lupo | grom | tuley => exact (number_reads _ _).map fun _ => rfl

theorem icon_reads : Reads Located.val icon Phrase.icon :=
  .located (e := id) ((keyword_reads IconKind _).bind fun kind =>
    (Reads.accept .colon nofun).before (iconBody_reads kind))

/-! ### Items -/

theorem setting_reads (type : UberType) :
    Reads (Setting.relocate forget) (setting type) (Phrase.setting type) := by
  cases type with
  | bool | teleporter => exact (wordField_reads _ _).map fun _ => rfl
  | byte | int | float => exact (numberField_reads _ _).map fun _ => rfl

theorem actionBody_reads (kind : CommandKind) :
    Reads (Action.relocate forget) (actionBody kind) (Phrase.actionBody kind) := by
  cases kind with
  | autosave | checkpoint => exact .pure rfl
  | toggle | equip =>
    exact (bar_reads _).before ((number_reads _ _).bind fun _ =>
      (bar_reads _).before ((numberField_reads _ _).map fun _ => rfl))
  | warp =>
    exact (bar_reads _).before ((numberField_reads _ _).bind fun _ =>
      (bar_reads _).before ((numberField_reads _ _).map fun _ => rfl))
  | startTimer | stopTimer =>
    exact (bar_reads _).before (uberIdentifier_reads.map fun _ => rfl)
  | setHealth | setEnergy | setSpiritLight =>
    exact (bar_reads _).before ((numberField_reads _ _).map fun _ => rfl)

theorem action_reads : Reads (Action.relocate forget) action Phrase.action :=
  (number_reads _ _).bind actionBody_reads

theorem itemBody_reads (kind : ItemKind) :
    Reads (Item.relocate forget) (itemBody kind) (Phrase.itemBody kind) := by
  cases kind with
  | spiritLight | skill | shard | teleporter | bonusItem | bonusUpgrade =>
    exact (removableField_reads _ _).map fun _ => rfl
  | resource | relic => exact (numberField_reads _ _).map fun _ => rfl
  | command => exact action_reads.map fun _ => rfl
  | message => exact (freeText_reads _).map fun _ => rfl
  | uberState =>
    exact uberIdentifier_reads.bind fun _ => (bar_reads _).before
      ((keyword_reads UberType _).bind fun type => (bar_reads _).before
        ((setting_reads type).map fun _ => rfl))
  | water => exact water_reads.map fun _ => rfl
  | sysMessage => exact (number_reads _ _).map fun _ => rfl

theorem item_reads : Reads (fun i => i.val.relocate forget) item Phrase.item :=
  .located ((number_reads _ _).bind fun kind => (bar_reads _).before (itemBody_reads kind))

/-! ### Commands -/

theorem defaultValue_reads (type : ParameterType) :
    Reads id (defaultValue type) (Phrase.default type) := by
  cases type with
  | bool => exact meaning_reads .identifier nofun _ _ fun _ _ => rfl
  | int | float => exact (number_reads _ _).map fun _ => rfl
  | string => exact (freeText_reads _).map fun _ => rfl

theorem itemThenGap_reads :
    Reads (fun i => i.val.relocate forget) itemThenGap (Phrase.item.seq fun i =>
      Phrase.gap.map fun _ => i) :=
  item_reads.bind fun _ => gap_reads.map fun _ => rfl

theorem arguments_reads (word : CommandWord) :
    Reads (Command.relocate forget) (arguments word) (Phrase.arguments word) := by
  cases word with
  | includeHeader | excludeHeader => exact (identifier_reads _).map fun _ => rfl
  | add | remove => exact item_reads.map fun _ => rfl
  | name | display | description =>
    exact itemThenGap_reads.bind fun _ => (freeText_reads _).map fun _ => rfl
  | price => exact itemThenGap_reads.bind fun _ => (numberField_reads _ _).map fun _ => rfl
  | icon => exact itemThenGap_reads.bind fun _ => icon_reads.map fun _ => rfl
  | parameter =>
    exact (identifier_reads _).bind fun _ => gap_reads.before
      ((keyword_reads ParameterType _).bind fun type => (Reads.accept .colon nofun).before
        ((defaultValue_reads type).map fun _ => rfl))
  | setState => exact uberIdentifier_reads.map fun _ => rfl
  | ifState =>
    exact uberIdentifier_reads.bind fun _ =>
      (bar_reads _).before ((numberField_reads _ _).map fun _ => rfl)
  | endif => exact .pure rfl

theorem command_reads : Reads (Command.relocate forget) command Phrase.command := by
  refine (keyword_reads CommandWord _).bind fun word => ?_
  simp only [id_eq]
  split
  · exact .pure rfl
  · exact gap_reads.before (arguments_reads word)

/-! ### Statements -/

theorem firstType_ne_iff {t : TokenType} (ht : t ≠ .eof) {ls : List Lexeme} :
    firstType ls ≠ t ↔ ∀ l ∈ ls.head?, l.type ≠ t := by
  cases ls with
  | nil => simp [firstType, ht.symm]
  | cons l ls => simp

/-- Whitespace is one token where the lexemes come from a text. -/
theorem blank_iff {w rest : List Lexeme} (h : Lexed (w ++ rest)) :
    Phrase.blank w rest () ↔
      (∀ l ∈ w, l.type = .whitespace) ∧ ∀ l ∈ rest.head?, l.type ≠ .whitespace := by
  rw [← firstType_ne_iff (by decide)]
  constructor
  · rintro (⟨cs, rfl, -⟩ | ⟨rfl, hrest, -⟩)
    · refine ⟨by simp, ?_⟩
      cases rest with
      | nil => decide
      | cons l ls => exact h.not_whitespace rfl
    · exact ⟨by simp, hrest⟩
  · rintro ⟨hw, hrest⟩
    match w with
    | [] => exact .inr ⟨rfl, hrest, rfl⟩
    | [⟨t, cs⟩] =>
      obtain rfl : t = .whitespace := hw _ List.mem_cons_self
      exact .inl ⟨cs, rfl, rfl⟩
    | l :: m :: _ => exact absurd (hw m (by simp)) (h.not_whitespace (hw l (by simp)))

theorem skip_reads : Reads id (skip .whitespace) Phrase.blank := by
  intro c hc c' u
  have hpass := Cursor.passes_skipWhile (fun t => t = .whitespace) c
  have hskip : skip .whitespace c = .ok () (c.skipWhile fun t => t = .whitespace) := rfl
  constructor
  · rintro ⟨a, ha, rfl⟩
    rw [hskip] at ha
    cases ha
    refine ⟨_, hpass, (blank_iff (hpass.ahead ▸ hc)).mpr ⟨?_, ?_⟩⟩
    · intro l hl
      simpa using List.all_eq_true.mp List.all_takeWhile l hl
    · intro l hl
      simpa using stop_dropWhile (fun l : Lexeme => decide (l.type = .whitespace)) c.ahead l hl
  · rintro ⟨w, hw, hb⟩
    obtain ⟨hall, hstop⟩ := (blank_iff (hw.ahead ▸ hc)).mp hb
    have htake : (c.ahead.takeWhile fun l => decide (l.type = .whitespace)) = w := by
      rw [hw.ahead]
      exact takeWhile_append_of_head (by simpa using hall) (by simpa using hstop)
    rw [htake] at hpass
    exact ⟨(), by rw [hskip, hpass.unique hw], rfl⟩

theorem otherwise_opens {p : TokenType → Prop} (a : α) :
    (Phrase.otherwise p a).Opens fun t => ¬ p t := by
  rintro w rest b ⟨rfl, h, -⟩
  exact h

/-- Nothing is taken where no token of the types `p` follows. -/
theorem otherwise_reads {p : TokenType → Prop} {β : Type} {e : α → β} {a : α} {b : β}
    (he : e a = b) {c : Cursor} (hc : ¬ p c.type) :
    ∃ Q : Phrase β, Reads e (pure a) Q ∧
      ∀ w rest x, c.ahead = w ++ rest → (Phrase.otherwise p b w rest x ↔ Q w rest x) := by
  refine ⟨Phrase.say b, .pure he, fun w rest x hw => ?_⟩
  constructor
  · rintro ⟨rfl, -, rfl⟩
    exact ⟨rfl, rfl⟩
  · rintro ⟨rfl, rfl⟩
    exact ⟨rfl, (hw ▸ hc : ¬ p (firstType ([] ++ rest))), rfl⟩

theorem condition_reads :
    Reads (Option.map Located.val) condition Phrase.condition := by
  refine .of_apply fun c => ?_
  by_cases h : c.type = .eq
  · refine ⟨_, condition_of_eq h, _, (Reads.accept .eq nofun).before
      ((numberField_reads _ Decoder.text).map (g := some) fun _ => rfl), fun w rest b hw => ?_⟩
    exact or_iff_left ((otherwise_opens none).absent hw (not_not_intro h))
  · obtain ⟨Q, hQ, hiff⟩ := otherwise_reads (p := (· = .eq)) (e := Option.map Located.val)
      (a := (none : Option (Field String))) rfl h
    refine ⟨_, condition_of_ne h, Q, hQ, fun w rest b hw => ?_⟩
    exact (or_iff_right (((Phrase.Opens.token .eq).seq _).absent hw h)).trans (hiff w rest b hw)

theorem joint_reads : Reads id joint Phrase.joint := by
  have hdot : ((Phrase.token .dot).before Phrase.blank).Opens (· = .dot) :=
    (Phrase.Opens.token .dot).seq _
  have hbar : ((Phrase.token .separator).before Phrase.blank).Opens (· = .separator) :=
    (Phrase.Opens.token .separator).seq _
  refine .of_apply fun c => ?_
  by_cases h : c.type = .dot
  · refine ⟨_, joint_of_type (.inl rfl) h, _, (Reads.accept .dot nofun).before skip_reads,
      fun w rest b hw => or_iff_left (not_or_intro (hbar.absent hw (by simp [h])) ?_)⟩
    exact (otherwise_opens ()).absent hw (not_not_intro (.inl h))
  by_cases h' : c.type = .separator
  · refine ⟨_, joint_of_type (.inr rfl) h', _, (Reads.accept .separator nofun).before skip_reads,
      fun w rest b hw => (or_iff_right (hdot.absent hw h)).trans (or_iff_left ?_)⟩
    exact (otherwise_opens ()).absent hw (not_not_intro (.inr h'))
  · obtain ⟨Q, hQ, hiff⟩ := otherwise_reads (p := Phrase.IsJoint) (e := id) (a := ()) rfl
      (not_or_intro h h')
    refine ⟨_, joint_of_ne h h', Q, hQ, fun w rest b hw => ?_⟩
    exact (or_iff_right (hdot.absent hw h)).trans
      ((or_iff_right (hbar.absent hw h')).trans (hiff w rest b hw))

theorem timer_reads : Reads (Timer.relocate forget) timer Phrase.timer :=
  uberIdentifier_reads.bind fun _ => (bar_reads _).before (uberIdentifier_reads.map fun _ => rfl)

theorem setup_reads : Reads (Timer.relocate forget) setup Phrase.setup := by
  refine (skip_reads.before joint_reads).before ((keyword_reads SetupKind _).bind fun kind => ?_)
  cases kind with
  | timer => exact (bar_reads _).before timer_reads

theorem trigger_reads : Reads (fun t => t.val.relocate forget) trigger Phrase.trigger :=
  .located (uberIdentifier_reads.bind fun _ => condition_reads.map fun v => by
    cases v <;> rfl)

theorem pickup_reads (ignore skipValidation : Bool) :
    Reads (Pickup.relocate forget) (pickup ignore skipValidation)
      (Phrase.pickup ignore skipValidation) :=
  trigger_reads.bind fun _ => (bar_reads _).before (item_reads.map fun _ => rfl)

theorem pickup_opens (ignore skipValidation : Bool) :
    (Phrase.pickup ignore skipValidation).Opens (· = .number) :=
  (((Phrase.Opens.meaning .number Decoder.unsigned).seq _).seq _).seq _

theorem marked_reads (skipValidation : Bool) :
    Reads (Content.relocate forget) (marked skipValidation) (Phrase.marked skipValidation) :=
  .choice (· = .bang) (marked_of_bang skipValidation) (marked_of_ne skipValidation)
    ((Reads.accept .bang nofun).before (command_reads.map fun _ => rfl))
    ((pickup_reads true skipValidation).map fun _ => rfl) ((Phrase.Opens.token .bang).seq _)
    (((pickup_opens true skipValidation).map _).mono fun t ht => by simp [ht])

theorem setupStatement_reads :
    Reads (Content.relocate forget) setupStatement
      ((Phrase.word StatementWord).before (Phrase.setup.map .timer)) := by
  refine (keyword_reads StatementWord _).bind fun word => ?_
  cases word with
  | setup => exact setup_reads.map fun _ => rfl

theorem word_opens (α : Type) [Worded α] : (Phrase.word α).Opens (· = .identifier) := by
  rintro w rest a ⟨cs, rfl, -⟩
  rfl

/-- The first token of a statement tells the four kinds of statements apart. -/
theorem statementBody_reads (skipValidation : Bool) :
    Reads (Content.relocate forget) (statementBody skipValidation)
      (Phrase.statement skipValidation) := by
  have hsetup := (word_opens StatementWord).seq fun _ => Phrase.setup.map Content.timer
  have hbang := (Phrase.Opens.token .bang).seq fun _ => Phrase.marked skipValidation
  have hpickup := (pickup_opens false skipValidation).map Content.pickup
  have hpound := (Phrase.Opens.token .pound).seq fun _ => Phrase.name.map Content.annotated
  refine .of_apply fun c => ?_
  rw [statementBody, peek_bind]
  cases h : c.type with
  | identifier =>
    refine ⟨_, rfl, _, setupStatement_reads, fun w rest b hw => or_iff_left ?_⟩
    rintro (hb | hb | hb)
    · exact hbang.absent hw (by simp [h]) hb
    · exact hpickup.absent hw (by simp [h]) hb
    · exact hpound.absent hw (by simp [h]) hb
  | bang =>
    refine ⟨_, take_bind h, _, (Reads.accept .bang (by decide)).before (marked_reads skipValidation),
      fun w rest b hw => (or_iff_right (hsetup.absent hw (by simp [h]))).trans (or_iff_left ?_)⟩
    rintro (hb | hb)
    · exact hpickup.absent hw (by simp [h]) hb
    · exact hpound.absent hw (by simp [h]) hb
  | number | dollar =>
    refine ⟨_, rfl, _, (pickup_reads false skipValidation).map fun _ => rfl,
      fun w rest b hw => (or_iff_right (hsetup.absent hw (by simp [h]))).trans
        ((or_iff_right (hbang.absent hw (by simp [h]))).trans (or_iff_left ?_))⟩
    exact hpound.absent hw (by simp [h])
  | pound =>
    refine ⟨_, take_bind h, _,
      (Reads.accept .pound (by decide)).before ((identifier_reads _).map fun _ => rfl),
      fun w rest b hw => (or_iff_right (hsetup.absent hw (by simp [h]))).trans
        ((or_iff_right (hbang.absent hw (by simp [h]))).trans (or_iff_right ?_))⟩
    exact hpickup.absent hw (by simp [h])
  | _ =>
    refine ⟨_, rfl, _, .fail _, fun w rest b hw => iff_of_false ?_ id⟩
    rintro (hb | hb | hb | hb)
    · exact hsetup.absent hw (by simp [h]) hb
    · exact hbang.absent hw (by simp [h]) hb
    · exact hpickup.absent hw (by simp [h]) hb
    · exact hpound.absent hw (by simp [h]) hb

/-- **A statement reads the phrase of statements**, no more and no less. -/
theorem statement_reads (skipValidation : Bool) :
    Reads Located.eraseContent (statement skipValidation) (Phrase.statement skipValidation) :=
  .located (statementBody_reads skipValidation)

end SeedHeader.Grammar
