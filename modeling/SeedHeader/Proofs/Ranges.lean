import SeedHeader.Node.OfDocument
import SeedHeader.Proofs.LineContents
import SeedHeader.Proofs.Provenance

/-!
# Proofs — Source ranges are nested

The nodes of a document cover ranges of its text that start and end with tokens.  The range of
a field lies within that of its node, and the fields of a node lie one behind the other
(`Laid`).  Two nodes have no range of their own: the value of a trigger that fires on any change,
and what a condition compares.

The parts of what is read are found in the order of the text, and they are the fields of its node
(`Shown`).  So what holds of how parts are found holds of how fields are laid out
(`laidAll_of_finds`); and that leads from values and uber identifiers up to triggers and items, and
from there to contents (`ranges_nested`).
-/

namespace SeedHeader

open Rule Grammar

/-! ### Ranges -/

/-- The span covers tokens of the text, one at least, between the offsets `lo` and `hi`. -/
structure Span.PlacedIn (text : List Char) (lo hi : Int) (span : Span Int) : Prop where
  lo_le : lo ≤ span.start
  start_lt : span.start < span.stop
  le_hi : span.stop ≤ hi
  start_token : ∃ t ∈ tokenize text, (t.span.start : Int) = span.start
  stop_token : ∃ t ∈ tokenize text, (t.span.stop : Int) = span.stop

mutual

/-- The datum, and all that is in it, is laid out between the offsets `lo` and `hi`. -/
inductive Laid (text : List Char) : (lo hi : Int) → Datum → Prop
  | atom {lo hi : Int} {a : Atom} (h : lo ≤ hi) : Laid text lo hi (.atom a)
  | node {lo hi : Int} {kind : NodeKind} {span : Span Int} {fields : List Datum}
      (hspan : span.PlacedIn text lo hi) (hfields : LaidAll text span.start span.stop fields) :
      Laid text lo hi (.node kind span fields)
  /-- A trigger that fires on any change has no place for its value. -/
  | anyChange {lo hi : Int} {span : Span Int} {identifier : Datum}
      (hspan : span.PlacedIn text lo hi) (h : Laid text span.start span.stop identifier) :
      Laid text lo hi (.node .uberState span [identifier, anyChange])
  /-- What a condition compares has no range of its own. -/
  | comparison {lo hi : Int} {span : Span Int} {fields : List Datum}
      (hspan : span.PlacedIn text lo hi) (hfields : LaidAll text span.start span.stop fields) :
      Laid text lo hi (.node .ifState span [.node .uberState .nowhere fields])

/-- The data are laid out between the offsets `lo` and `hi`, one behind the other. -/
inductive LaidAll (text : List Char) : (lo hi : Int) → List Datum → Prop
  | nil {lo hi : Int} (h : lo ≤ hi) : LaidAll text lo hi []
  | cons {lo mid hi : Int} {d : Datum} {ds : List Datum} (h : Laid text lo mid d)
      (hs : LaidAll text mid hi ds) : LaidAll text lo hi (d :: ds)

end

variable {text : List Char} {lo lo' hi hi' : Int}

theorem Span.PlacedIn.mono {span : Span Int} (h : span.PlacedIn text lo hi) (hlo : lo' ≤ lo)
    (hhi : hi ≤ hi') : span.PlacedIn text lo' hi' :=
  { h with lo_le := Int.le_trans hlo h.lo_le, le_hi := Int.le_trans h.le_hi hhi }

theorem Laid.mono {d : Datum} (h : Laid text lo hi d) (hlo : lo' ≤ lo) (hhi : hi ≤ hi') :
    Laid text lo' hi' d := by
  cases h with
  | atom h => exact .atom (Int.le_trans (Int.le_trans hlo h) hhi)
  | node hspan hfields => exact .node (hspan.mono hlo hhi) hfields
  | anyChange hspan h => exact .anyChange (hspan.mono hlo hhi) h
  | comparison hspan hfields => exact .comparison (hspan.mono hlo hhi) hfields

theorem LaidAll.single {d : Datum} (h : LaidAll text lo hi [d]) : Laid text lo hi d := by
  obtain _ | ⟨hd, hrest⟩ := h
  obtain ⟨hle⟩ := hrest
  exact hd.mono (Int.le_refl _) hle

/-- What is read from tokens covers them. -/
theorem placedIn_of_passes {u w : List Lexeme} {l : Lexeme} {c c' : Cursor}
    (hc : (Cursor.ofText text).Passes u c) (h : c.Passes (l :: w) c') :
    (⟨c.pos, c'.pos⟩ : Span).toInt.PlacedIn text c.pos c'.pos := by
  have htokens : ∀ t ∈ place c.pos (l :: w), t ∈ tokenize text := by
    intro t ht
    rw [hc.tokenize_eq, h.tokens]
    exact List.mem_append_right _ (List.mem_append_left _ ht)
  -- the first token starts the range, and the last one ends it
  obtain ⟨v, last, hlast⟩ : ∃ v last, l :: w = v ++ [last] :=
    ⟨_, _, (List.dropLast_concat_getLast (List.cons_ne_nil l w)).symm⟩
  have hfirst := htokens _ (mem_place_iff.mpr ⟨[], l, w, rfl, rfl⟩)
  have hfinal := htokens _ (mem_place_iff.mpr ⟨v, last, [], hlast, rfl⟩)
  have hstop : c'.pos = c.pos + (charsOf v).length + last.width := by
    rw [h.pos, hlast, charsOf_append, List.length_append, charsOf_cons, charsOf_nil,
      List.append_nil, Lexeme.width, Nat.add_assoc]
  have hne : c.pos < c'.pos := by
    have hlexed : Lexed (u ++ (l :: w ++ c'.ahead)) := by
      rw [← h.ahead, ← hc.ahead]
      exact lexed_lexemes text
    have hwidth := List.length_pos_iff.mpr (hlexed.shaped (l := l) (by simp)).text_ne_nil
    rw [h.pos, charsOf_cons, List.length_append]
    omega
  refine ⟨Int.le_refl _, Int.ofNat_lt.mpr hne, Int.le_refl _, ⟨_, hfirst, rfl⟩,
    ⟨_, hfinal, ?_⟩⟩
  exact congrArg Int.ofNat hstop.symm

/-! ### Parts as fields -/

/-- The part as a datum. -/
def Part.Shows (d : Datum) : Part → Prop
  | .value span => ∃ kind a, d = .node kind span [.atom a]
  | .uber u     => d = uberNode u
  | .trigger t  => d = triggerNode t
  | .item i     => d = itemNode i
  | .icon i     => d = iconNode i

/-- The data are the parts, with atoms among them. -/
inductive Shown : List Part → List Datum → Prop
  | nil : Shown [] []
  | atom {ps : List Part} {a : Atom} {ds : List Datum} (h : Shown ps ds) : Shown ps (.atom a :: ds)
  | part {p : Part} {ps : List Part} {d : Datum} {ds : List Datum} (hp : p.Shows d)
      (h : Shown ps ds) : Shown (p :: ps) (d :: ds)

theorem Field.shows {α : Type} [Leaf α] (v : Field α) : (Part.value v.span).Shows v.node := by
  obtain ⟨span, v⟩ := v
  cases v with
  | literal a | parameter a => exact ⟨_, _, rfl⟩

/-- One value and an atom. -/
theorem shown_value_atom {α : Type} [Leaf α] (v : Field α) (a : Atom) :
    Shown [.value v.span] [v.node, .atom a] := .part v.shows (.atom .nil)

theorem shown_value {α : Type} [Leaf α] (v : Field α) : Shown [.value v.span] [v.node] :=
  .part v.shows .nil

theorem Setting.shown (s : Setting) : Shown s.parts s.fields := by
  cases s with
  | bool v | teleporter v | byte v | int v | float v => exact .atom (shown_value v)

theorem Action.shown (span : Span Int) (a : Action) :
    ∃ kind ds, a.node span = .node kind span ds ∧ Shown a.parts ds := by
  cases a with
  | autosave | checkpoint => exact ⟨_, _, rfl, .nil⟩
  | toggle target on => exact ⟨_, _, rfl, .atom (shown_value on)⟩
  | warp x y => exact ⟨_, _, rfl, .part x.shows (shown_value y)⟩
  | startTimer u | stopTimer u => exact ⟨_, _, rfl, .part rfl .nil⟩
  | setHealth n | setEnergy n | setSpiritLight n => exact ⟨_, _, rfl, shown_value n⟩
  | equip slot skill => exact ⟨_, _, rfl, .atom (shown_value skill)⟩

theorem itemNode_shown (i : Located Item) :
    ∃ kind ds, itemNode i = .node kind i.span ds ∧ Shown i.val.parts ds := by
  obtain ⟨span, i⟩ := i
  cases i with
  | spiritLight v r | skill v r | shard v r | teleporter v r | bonusItem v r | bonusUpgrade v r =>
    exact ⟨_, _, rfl, shown_value_atom v _⟩
  | resource v | relic v => exact ⟨_, _, rfl, shown_value v⟩
  | command a => exact a.shown span
  | message | water | sysMessage => exact ⟨_, _, rfl, .atom .nil⟩
  | uberState u s => exact ⟨_, _, rfl, .part rfl s.shown⟩

theorem Command.shown (span : Span Int) {c : Command} (h : ∀ u v, c ≠ .ifState u v) :
    ∃ kind ds, c.node span = .node kind span ds ∧ Shown c.parts ds := by
  cases c with
  | needs | forbids => exact ⟨_, _, rfl, .atom .nil⟩
  | add i | remove i => exact ⟨_, _, rfl, .part rfl .nil⟩
  | name i s | display i s | description i s => exact ⟨_, _, rfl, .part rfl (.atom .nil)⟩
  | price i n => exact ⟨_, _, rfl, .part rfl (shown_value n)⟩
  | icon i c => exact ⟨_, _, rfl, .part rfl (.part rfl .nil)⟩
  | parameter s d => cases d <;> exact ⟨_, _, rfl, .atom (.atom (.atom .nil))⟩
  | setState u => exact ⟨_, _, rfl, .part rfl .nil⟩
  | ifState u v => exact absurd rfl (h u v)
  | endif => exact ⟨_, _, rfl, .nil⟩

/-! ### Parts are laid out -/

/-- Where the part is read, its datum is laid out. -/
def Part.IsLaid (text : List Char) (p : Part) : Prop :=
  ∀ {u : List Lexeme} {c c' : Cursor} {d : Datum}, (Cursor.ofText text).Passes u c →
    p.ReadFrom c c' → p.Shows d → Laid text c.pos c'.pos d

/-- Fields are laid out as the parts that they show were found. -/
theorem laidAll_of_finds {ps : List Part} {ds : List Datum} (hshown : Shown ps ds)
    (hlaid : ∀ p ∈ ps, p.IsLaid text) {u : List Lexeme} {c c' : Cursor}
    (hc : (Cursor.ofText text).Passes u c) (hfinds : c.Finds ps c') :
    LaidAll text c.pos c'.pos ds := by
  induction hshown generalizing u c with
  | nil =>
    obtain ⟨w, hw, -⟩ := hfinds
    exact .nil (Int.ofNat_le.mpr hw.pos_le)
  | atom _ ih => exact .cons (.atom (Int.le_refl _)) (ih hlaid hc hfinds)
  | part hp _ ih =>
    obtain ⟨d, d', ⟨w, hw, -⟩, hread, hrest⟩ := hfinds
    obtain ⟨l, v, hv⟩ := hread.token
    have hd := hlaid _ List.mem_cons_self (hc.trans hw) hread hp
    exact .cons (hd.mono (Int.ofNat_le.mpr hw.pos_le) (Int.le_refl _))
      (ih (fun q hq => hlaid q (List.mem_cons_of_mem _ hq)) ((hc.trans hw).trans hv) hrest)

/-- A node is laid out if its fields are, from its start to its end. -/
theorem laid_of_fields {u : List Lexeme} {c c' : Cursor} {kind : NodeKind} {span : Span}
    {ds : List Datum} (hc : (Cursor.ofText text).Passes u c)
    (htoken : ∃ l w, c.Passes (l :: w) c') (hspan : span = ⟨c.pos, c'.pos⟩)
    (hfields : LaidAll text c.pos c'.pos ds) : Laid text c.pos c'.pos (.node kind span ds) := by
  obtain ⟨l, w, hw⟩ := htoken
  subst hspan
  exact .node (placedIn_of_passes hc hw) hfields

/-- Atoms have no places. -/
theorem laidAll_of_atoms {ds : List Datum} (h : Shown [] ds) (hle : lo ≤ hi) :
    LaidAll text lo hi ds := by
  generalize hps : ([] : List Part) = ps at h
  induction h with
  | nil => exact .nil hle
  | atom _ ih => exact .cons (.atom (Int.le_refl _)) (ih hps)
  | part => cases hps

theorem isLaid_value (span : Span) : (Part.value span).IsLaid text := by
  rintro u c c' - hc hread ⟨kind, a, rfl⟩
  obtain ⟨l, w, hw⟩ := hread.token
  exact laid_of_fields hc ⟨l, w, hw⟩ hread.1
    (laidAll_of_atoms (.atom .nil) (Int.ofNat_le.mpr hw.pos_le))

theorem isLaid_uber (v : Located UberIdentifier) : (Part.uber v).IsLaid text := by
  rintro u c c' - hc hread rfl
  obtain ⟨l, w, hw⟩ := Part.ReadFrom.token hread
  exact laid_of_fields hc ⟨l, w, hw⟩ (located_ok hread).2
    (laidAll_of_atoms (.atom (.atom .nil)) (Int.ofNat_le.mpr hw.pos_le))

theorem isLaid_icon (i : Located Icon) : (Part.icon i).IsLaid text := by
  rintro u c c' - hc hread rfl
  obtain ⟨l, w, hw⟩ := Part.ReadFrom.token hread
  have hnode : ∃ ds, iconNode i = .node .icon i.span ds ∧ Shown [] ds := by
    obtain ⟨span, i⟩ := i
    cases i <;> exact ⟨_, rfl, .atom (.atom .nil)⟩
  obtain ⟨ds, hds, hshown⟩ := hnode
  rw [hds]
  exact laid_of_fields hc ⟨l, w, hw⟩ (located_ok hread).2
    (laidAll_of_atoms hshown (Int.ofNat_le.mpr hw.pos_le))

theorem Setting.isLaid_parts (s : Setting) : ∀ p ∈ s.parts, p.IsLaid text := by
  cases s with
  | bool v | teleporter v | byte v | int v | float v =>
    exact List.forall_mem_singleton.mpr (isLaid_value _)

theorem Action.isLaid_parts (a : Action) : ∀ p ∈ a.parts, p.IsLaid text := by
  cases a with
  | autosave | checkpoint => exact List.forall_mem_nil _
  | warp x y =>
    exact List.forall_mem_cons.mpr ⟨isLaid_value _, List.forall_mem_singleton.mpr (isLaid_value _)⟩
  | startTimer u | stopTimer u => exact List.forall_mem_singleton.mpr (isLaid_uber u)
  | toggle | setHealth | setEnergy | setSpiritLight | equip =>
    exact List.forall_mem_singleton.mpr (isLaid_value _)

theorem Item.isLaid_parts (i : Item) : ∀ p ∈ i.parts, p.IsLaid text := by
  cases i with
  | command a => exact a.isLaid_parts
  | uberState u s => exact List.forall_mem_cons.mpr ⟨isLaid_uber u, s.isLaid_parts⟩
  | message | water | sysMessage => exact List.forall_mem_nil _
  | spiritLight | resource | skill | shard | teleporter | bonusItem | bonusUpgrade | relic =>
    exact List.forall_mem_singleton.mpr (isLaid_value _)

theorem isLaid_item (i : Located Item) : (Part.item i).IsLaid text := by
  rintro u c c' - hc hread rfl
  obtain ⟨kind, ds, hds, hshown⟩ := itemNode_shown i
  rw [hds]
  exact laid_of_fields hc (Part.ReadFrom.token hread) (located_ok hread).2
    (laidAll_of_finds hshown i.val.isLaid_parts hc (item_finds hread))

theorem Trigger.isLaid_parts (t : Trigger) : ∀ p ∈ t.parts, p.IsLaid text := by
  obtain ⟨u, v⟩ := t
  cases v with
  | none => exact List.forall_mem_singleton.mpr (isLaid_uber u)
  | some v =>
    exact List.forall_mem_cons.mpr ⟨isLaid_uber u, List.forall_mem_singleton.mpr (isLaid_value _)⟩

theorem isLaid_trigger (t : Located Trigger) : (Part.trigger t).IsLaid text := by
  rintro u c c' - hc hread rfl
  obtain ⟨l, w, hw⟩ := Part.ReadFrom.token hread
  have hspan := (located_ok hread).2
  have hfinds := trigger_finds hread
  have hparts : ∀ p ∈ t.val.parts, p.IsLaid text := t.val.isLaid_parts
  obtain ⟨span, v, value⟩ := t
  obtain rfl : span = ⟨c.pos, c'.pos⟩ := hspan
  cases value with
  | some n =>
    exact .node (placedIn_of_passes hc hw)
      (laidAll_of_finds (.part (p := .uber v) rfl (shown_value n)) hparts hc hfinds)
  | none =>
    have hfields := laidAll_of_finds (.part (p := .uber v) rfl .nil) hparts hc hfinds
    exact .anyChange (placedIn_of_passes hc hw) hfields.single

theorem Part.isLaid (p : Part) : p.IsLaid text := by
  cases p with
  | value span => exact isLaid_value span
  | uber u => exact isLaid_uber u
  | trigger t => exact isLaid_trigger t
  | item i => exact isLaid_item i
  | icon i => exact isLaid_icon i

/-! ### Contents -/

/-- Apart from conditions, the fields of a content are its parts and atoms. -/
theorem contentNode_shown (x : Located Content) (h : ∀ u v, x.val ≠ .command (.ifState u v)) :
    ∃ kind ds, contentNode x = .node kind x.span ds ∧ Shown x.val.parts ds := by
  obtain ⟨span, x⟩ := x
  cases x with
  | outerDocumentation | innerDocumentation | annotated => exact ⟨_, _, rfl, .atom .nil⟩
  | timer t => exact ⟨_, _, rfl, .part rfl (.part rfl .nil)⟩
  | pickup p => exact ⟨_, _, rfl, .part rfl (.part rfl (.atom (.atom .nil)))⟩
  | command c => exact c.shown span fun u v e => h u v (congrArg Content.command e)

theorem ReadIn.laid {x : Located Content} (h : ReadIn text x) :
    Laid text x.span.start x.span.stop (contentNode x) ∧ x.span.stop ≤ text.length := by
  cases h with
  | @remark u ls pos l skip x hc hl hx =>
    have hpass : Cursor.Passes ⟨pos, l :: ls⟩ [l] ⟨pos + l.width, ls⟩ :=
      ⟨rfl, by simp [Lexeme.width]⟩
    have hdoc := remark_kind x hx
    obtain ⟨kind, ds, hnode, hshown⟩ := contentNode_shown x fun u v e => by
      rw [e] at hdoc
      cases hdoc
    rw [Content.parts_of_documentation hdoc] at hshown
    have hfields : LaidAll text pos (pos + l.width) ds :=
      laidAll_of_atoms hshown (Int.ofNat_le.mpr hpass.pos_le)
    rw [hnode, span_of_remark hx]
    exact ⟨laid_of_fields hc ⟨l, [], hpass⟩ rfl hfields, (hc.trans hpass).pos_le_length⟩
  | @statement u c c' skip x hc hx =>
    obtain ⟨l, w, hw⟩ := (statement_built skip).token hx
    have hspan := (located_ok hx).2
    have hlaid : Laid text c.pos c'.pos (contentNode x) := by
      by_cases hif : ∃ u v, x.val = .command (.ifState u v)
      · obtain ⟨v, n, hif⟩ := hif
        have hfinds := statement_finds hx
        obtain ⟨span, x⟩ := x
        obtain rfl : x = _ := hif
        obtain rfl : span = ⟨c.pos, c'.pos⟩ := hspan
        exact .comparison (placedIn_of_passes hc hw)
          (laidAll_of_finds (.part (p := .uber v) rfl (shown_value n)) (fun p _ => p.isLaid) hc
            hfinds)
      · obtain ⟨kind, ds, hnode, hshown⟩ :=
          contentNode_shown x fun u v e => hif ⟨u, v, e⟩
        rw [hnode]
        exact laid_of_fields hc ⟨l, w, hw⟩ hspan
          (laidAll_of_finds hshown (fun p _ => p.isLaid) hc (statement_finds hx))
    rw [hspan]
    exact ⟨hlaid, (hc.trans hw).pos_le_length⟩

/-- Contents that stand one behind the other are laid out where all of them are. -/
theorem laidAll_of_pairwise {xs : List (Located Content)} {lo hi : Nat} (hle : lo ≤ hi)
    (hxs : ∀ x ∈ xs, Laid text x.span.start x.span.stop (contentNode x))
    (hlo : ∀ x ∈ xs, lo ≤ x.span.start) (hhi : ∀ x ∈ xs, x.span.stop ≤ hi)
    (hpairs : xs.Pairwise fun x y => x.span.stop ≤ y.span.start) :
    LaidAll text lo hi (documentNodes xs) := by
  induction xs generalizing lo with
  | nil => exact .nil (Int.ofNat_le.mpr hle)
  | cons x xs ih =>
    obtain ⟨hx, hxs⟩ := List.forall_mem_cons.mp hxs
    obtain ⟨hbehind, hpairs⟩ := List.pairwise_cons.mp hpairs
    obtain ⟨hstop, hhi⟩ := List.forall_mem_cons.mp hhi
    have hstart := hlo x List.mem_cons_self
    exact .cons (hx.mono (Int.ofNat_le.mpr hstart) (Int.le_refl _))
      (ih hstop hxs hbehind hhi hpairs)

/-! ### Items that end a statement -/

/-- The item that a pickup gives, or that is added or removed. -/
def Content.lastItem? : Content → Option (Located Item)
  | .pickup p => some p.item
  | .command (.add i) | .command (.remove i) => some i
  | _ => none

namespace Rule

variable {α β : Type} {last : α → Option (Located Item)} {last' : β → Option (Located Item)}

/-- If what the rule yields has a last item, that stops where the rule stops. -/
def StopsWith (last : α → Option (Located Item)) (r : Rule α) : Prop :=
  ∀ ⦃c a c'⦄, r c = .ok a c' → ∀ i ∈ last a, i.span.stop = c'.pos

namespace StopsWith

theorem pure {a : α} (h : last a = none) : StopsWith last (pure a) := by
  intro c b c' hr i hi
  cases hr
  simp [h] at hi

theorem fail (cause : Cause) : StopsWith last (fail cause : Rule α) := by
  intro c a c' h
  cases h

theorem bind {r : Rule α} {f : α → Rule β} (hf : ∀ a, StopsWith last' (f a)) :
    StopsWith last' (r >>= f) := by
  intro c b c' hr
  obtain ⟨a, c₁, -, h⟩ := bind_ok hr
  exact hf a h

theorem map {r : Rule α} {f : α → β} (hr : StopsWith (last' ∘ f) r) :
    StopsWith last' (r >>= fun a => Pure.pure (f a)) := by
  intro c b c' h
  obtain ⟨a, c₁, ha, hb⟩ := bind_ok h
  cases hb
  exact hr ha

theorem of_apply {r : Rule α} (h : ∀ c : Cursor, ∃ r' : Rule α, StopsWith last r' ∧ r c = r' c) :
    StopsWith last r := by
  intro c a c' hr
  obtain ⟨r', hr', e⟩ := h c
  exact hr' (e ▸ hr)

end StopsWith

end Rule

namespace Grammar

theorem item_stops : StopsWith some item := by
  intro c i c' h j hj
  obtain rfl := Option.some.inj hj
  rw [(located_ok h).2]

theorem arguments_stops (word : CommandWord) :
    StopsWith (fun a => (Content.command a).lastItem?) (arguments word) := by
  cases word with
  | add | remove => exact .map item_stops
  | includeHeader | excludeHeader | setState => exact .bind fun _ => .pure rfl
  | name | display | description | price | icon => exact .bind fun _ => .bind fun _ => .pure rfl
  | parameter =>
    exact .bind fun _ => .bind fun _ => .bind fun _ => .bind fun _ => .bind fun _ => .pure rfl
  | ifState => exact .bind fun _ => .bind fun _ => .bind fun _ => .pure rfl
  | endif => exact .pure rfl

theorem command_stops : StopsWith (fun a => (Content.command a).lastItem?) command := by
  refine .bind fun word => ?_
  split
  · exact .pure rfl
  · exact .bind fun _ => arguments_stops word

theorem pickup_stops (ignore skip : Bool) :
    StopsWith (fun p => (Content.pickup p).lastItem?) (pickup ignore skip) :=
  .bind fun _ => .bind fun _ => .map item_stops

theorem marked_stops (skip : Bool) : StopsWith Content.lastItem? (marked skip) := by
  refine .of_apply fun c => ?_
  by_cases h : c.type = .bang
  · exact ⟨_, .bind fun _ => .map command_stops, marked_of_bang skip h⟩
  · exact ⟨_, .map (pickup_stops _ _), marked_of_ne skip h⟩

theorem statementBody_stops (skip : Bool) : StopsWith Content.lastItem? (statementBody skip) := by
  refine .of_apply fun c => ?_
  rw [statementBody, peek_bind]
  cases c.type with
  | identifier =>
    refine ⟨setupStatement, .bind fun word => ?_, rfl⟩
    cases word with
    | setup => exact .bind fun _ => .pure rfl
  | bang => exact ⟨_, .bind fun _ => marked_stops _, rfl⟩
  | number | dollar => exact ⟨_, .map (pickup_stops _ _), rfl⟩
  | pound => exact ⟨_, .bind fun _ => .bind fun _ => .pure rfl, rfl⟩
  | _ => exact ⟨_, .fail _, rfl⟩

end Grammar

theorem ReadIn.lastItem_stop {x : Located Content} (h : ReadIn text x) {i : Located Item}
    (hi : i ∈ x.val.lastItem?) : i.span.stop = x.span.stop := by
  cases h with
  | remark h hl hx =>
    have hdoc := remark_kind x hx
    cases hval : x.val with
    | outerDocumentation | innerDocumentation => simp [hval, Content.lastItem?] at hi
    | _ => rw [hval] at hdoc; cases hdoc
  | statement h hx =>
    obtain ⟨hbody, hspan⟩ := located_ok hx
    rw [hspan]
    exact statementBody_stops _ hbody i hi

/-- **Source ranges are properly nested.**  The contents of a document lie one behind the other in
its text.  Every node, at any depth, covers a range of the text that starts and ends with a token;
it lies within the range of the node it belongs to, and behind the fields before it.  An item that
ends a pickup, or that is added or removed, ends where that statement ends. -/
theorem ranges_nested {contents : List (Located Content)} (h : parse text = .ok contents) :
    LaidAll text 0 text.length (documentNodes contents) ∧
      ∀ x ∈ contents, ∀ i ∈ x.val.lastItem?, i.span.stop = x.span.stop := by
  have hlaid : ∀ x ∈ contents, Laid text x.span.start x.span.stop (contentNode x) ∧
      x.span.stop ≤ text.length := fun x hx => (readIn_of_mem h hx).laid
  refine ⟨?_, fun x hx i hi => (readIn_of_mem h hx).lastItem_stop hi⟩
  exact laidAll_of_pairwise (Nat.zero_le _) (fun x hx => (hlaid x hx).1)
    (fun _ _ => Nat.zero_le _) (fun x hx => (hlaid x hx).2) (pairwise_of_parse h)

/-- An ignored pickup that takes away as much as a parameter says. -/
theorem ranges_nested_pickup :
    ∃ x i, parse "!3|0=1|0|-$Param(y) // c".toList = .ok [x] ∧ i ∈ x.val.lastItem? ∧
      x.span = ⟨0, 19⟩ ∧ i.span = ⟨7, 19⟩ ∧ i.span.stop = x.span.stop ∧
      LaidAll "!3|0=1|0|-$Param(y) // c".toList 0 24 [contentNode x] := by
  have h : parse "!3|0=1|0|-$Param(y) // c".toList =
      .ok [⟨⟨0, 19⟩, .pickup ⟨⟨⟨1, 6⟩, ⟨⟨1, 4⟩, ⟨3, 0⟩⟩, some ⟨⟨5, 6⟩, .literal "1"⟩⟩,
        ⟨⟨7, 19⟩, .spiritLight ⟨⟨10, 19⟩, .parameter "y"⟩ true⟩, true, false⟩⟩] := by
    rw [parse, Reading.ofText, Reading.ofCursor, Reading.ofCursorFrom_of_none (by rfl)]
    rfl
  obtain ⟨hlaid, hstop⟩ := ranges_nested h
  exact ⟨_, _, h, rfl, rfl, rfl, hstop _ List.mem_cons_self _ rfl, hlaid⟩

end SeedHeader
