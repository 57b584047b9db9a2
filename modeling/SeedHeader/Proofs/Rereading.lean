import SeedHeader.Proofs.Remainder
import SeedHeader.Proofs.Slices
import SeedHeader.Proofs.Provenance

/-!
# Proofs — Slices are read again

The span of what was read is exact: from its slice of the text alone, it is read again
(`parse_slice`).  A rule is settled by the tokens that it takes, so it reads the same from them when
nothing follows and the text starts with them (`Construct.ok_alone`); and the slice is cut into
these tokens.  A content that is read from its slice is not excused from validation, since the
excuse was said before it.
-/

namespace SeedHeader

open Text Rule Grammar

/-! ### Constructs that stand alone -/

/-- A construct that is settled by its tokens is read from them alone. -/
theorem Construct.ok_alone {α : Type} {k : Construct α} (hk : Settles Ends k.rule) {c c' : Cursor}
    {a : α} (h : k.rule c = .ok a c') :
    ∃ w b, c.Passes w c' ∧ k.rule ⟨0, w⟩ = .ok b ⟨(charsOf w).length, []⟩ ∧
      k.relocate (Span.shift c.pos) b = a := by
  obtain ⟨w, hw, hsettled⟩ := hk h
  have halone := hsettled [] (.inr ends_nil)
  have hmoved := (Moved.of_follows (k.follows (.embedding c.pos [])) ⟨0, w⟩
    (Cursor.guards_nil _)).1
  have hembed : (⟨0, w⟩ : Cursor).embed c.pos [] = ⟨c.pos, w ++ []⟩ := rfl
  rw [hembed, halone] at hmoved
  cases hr : k.rule ⟨0, w⟩ with
  | error fault d =>
    rw [hr] at hmoved
    cases hmoved
  | ok b d =>
    obtain ⟨n, ls⟩ := d
    rw [hr] at hmoved
    obtain ⟨hb, hd⟩ := EStateM.Result.ok.inj hmoved
    obtain ⟨hpos, hls⟩ := Cursor.mk.inj hd
    rw [List.append_nil] at hls
    obtain rfl := hls
    obtain rfl : n = (charsOf w).length := Nat.add_left_cancel (hpos.symm.trans hw.pos)
    exact ⟨w, b, hw, hr, hb.symm⟩

/-- From its slice of the text alone, the construct reads `x` again and is at the end then.  The
spans in `x` are counted from where the slice starts. -/
def Construct.Rereads {α : Type} (k : Construct (Located α)) (text : List Char) (x : Located α) :
    Prop :=
  ∃ y c', k.rule (.ofText (slice text x.span.start x.span.stop)) = .ok y c' ∧ c'.type = .eof ∧
    k.relocate (Span.shift x.span.start) y = x

variable {text : List Char} {u : List Lexeme} {c c' : Cursor}

theorem Construct.rereads {α : Type} {k : Construct (Located α)} (hk : Settles Ends k.rule)
    (hc : (Cursor.ofText text).Passes u c) {x : Located α} (h : k.rule c = .ok x c')
    (hspan : x.span = ⟨c.pos, c'.pos⟩) : k.Rereads text x := by
  obtain ⟨w, y, hw, hy, hshift⟩ := ok_alone hk h
  have hslice := Cursor.ofText_slice hc hw
  rw [Rereads, hspan]
  exact ⟨y, _, hslice ▸ hy, rfl, hshift⟩

/-! ### Statements that stand alone -/

/-- The content, not excused from validation if it is a pickup. -/
def Content.unexcused : Content → Content
  | .pickup p => .pickup { p with skipValidation := false }
  | c         => c

/-- The content where it was read, not excused from validation if it is a pickup. -/
def Located.unexcused (x : Located Content) : Located Content := ⟨x.span, x.val.unexcused⟩

theorem Content.StatedUnder.unexcused_eq {a : Content} (h : a.StatedUnder false) :
    a.unexcused = a := by
  cases a with
  | pickup p => rw [Content.unexcused, ← show p.skipValidation = false from h]
  | _ => rfl

theorem Content.unexcused_of_documentation {a : Content} (h : a.isDocumentation) :
    a.unexcused = a := by
  cases a with
  | pickup => cases h
  | _ => rfl

theorem Located.unexcused_excused (x : Located Content) : x.excused.unexcused = x.unexcused := by
  obtain ⟨span, a⟩ := x
  cases a <;> rfl

theorem Located.unexcused_shiftContent (n : Nat) (x : Located Content) :
    (x.shiftContent n).unexcused = x.unexcused.shiftContent n := by
  obtain ⟨span, a⟩ := x
  cases a <;> rfl

/-- Without an excuse a statement reads the same, except that it is not excused. -/
theorem statement_unexcused {skip : Bool} {x : Located Content}
    (h : statement skip c = .ok x c') : statement false c = .ok x.unexcused c' := by
  have hexcused : statement true c = (Located.excused <$> statement false) c := by
    rw [statement_excuse false]
  cases hs : statement false c with
  | error fault c₁ =>
    cases skip with
    | false => rw [hs] at h; cases h
    | true =>
      rw [hexcused] at h
      simp [Functor.map, EStateM.map, hs] at h
  | ok y c₁ =>
    have hy : y.unexcused = y := congrArg (Located.mk y.span) (statement_kind hs).1.unexcused_eq
    cases skip with
    | false =>
      rw [hs] at h
      cases h
      rw [hy]
    | true =>
      rw [hexcused] at h
      simp only [Functor.map, EStateM.map, hs, EStateM.Result.ok.injEq] at h
      obtain ⟨rfl, rfl⟩ := h
      rw [Located.unexcused_excused, hy]

/-- A text that is one statement is read as such. -/
theorem parse_of_statement {w : List Lexeme} (htext : Cursor.ofText text = ⟨0, w⟩) {n : Nat}
    {y : Located Content} (h : statement false ⟨0, w⟩ = .ok y ⟨n, []⟩) : parse text = .ok [y] := by
  obtain ⟨hb, he⟩ := Reading.statement_opens h
  have hs : Reading.ofStatement false ⟨0, w⟩ = (⟨[y], [], false⟩, none) :=
    (Reading.ofStatement_of_ok h).trans (if_pos rfl)
  have hr := (Reading.round_of_opening false hb he).trans hs
  rw [parse, Reading.ofText, Reading.ofCursor, htext, Reading.ofCursorFrom_of_none hr]
  rfl

/-- A text that is one comment is read as what that remarks. -/
theorem parse_of_remark {l : Lexeme} (htext : Cursor.ofText text = ⟨0, [l]⟩)
    (hl : isBetween l.type) {y : Located Content} (h : y ∈ (remark false 0 l).1) :
    parse text = .ok [y] := by
  have hi := interlude_of_between false 0 hl []
  rw [Option.mem_def.mp h] at hi
  have hr := Reading.round_of_eof (c := ⟨0, [l]⟩) hi rfl
  rw [parse, Reading.ofText, Reading.ofCursor, htext, Reading.ofCursorFrom_of_none hr]
  rfl

/-- What a comment remarks depends on its place by a shift only. -/
theorem exists_remark {skip : Bool} {pos : Nat} {l : Lexeme} {x : Located Content}
    (h : x ∈ (remark skip pos l).1) :
    ∃ y ∈ (remark false 0 l).1, y.shiftContent pos = x := by
  have hexcuse (skip : Bool) : (remark skip pos l).1 = (remark true pos l).1 := by
    rw [remark_excuse skip]
  have hshift := congrArg Prod.fst (remark_shift pos false 0 l)
  rw [Nat.add_zero, hexcuse, ← hexcuse skip] at hshift
  rwa [hshift, Option.mem_def, Option.map_eq_some_iff] at h

/-! ### Slices of a header -/

/-- A content is read again from its slice, without an excuse. -/
theorem ReadIn.exists_parse {x : Located Content} (h : ReadIn text x) :
    ∃ y, parse (slice text x.span.start x.span.stop) = .ok [y] ∧
      y.shiftContent x.span.start = x.unexcused := by
  cases h with
  | @remark u ls pos l skip x hc hl hx =>
    obtain ⟨y, hy, hshift⟩ := exists_remark hx
    have hpass : Cursor.Passes ⟨pos, l :: ls⟩ [l] ⟨pos + l.width, ls⟩ :=
      ⟨rfl, by simp [Lexeme.width]⟩
    have hsame : x.unexcused = x :=
      congrArg (Located.mk x.span) (Content.unexcused_of_documentation (remark_kind x hx))
    rw [span_of_remark hx, hsame]
    exact ⟨y, parse_of_remark (Cursor.ofText_slice hc hpass) hl hy, hshift⟩
  | @statement u c c' skip x hc hx =>
    obtain ⟨w, y, hw, hy, hshift⟩ :=
      Construct.ok_alone (k := .statement skip) ((statement_built skip).settles fun _ => id) hx
    rw [(located_ok hx).2]
    refine ⟨y.unexcused,
      parse_of_statement (Cursor.ofText_slice hc hw) (statement_unexcused hy), ?_⟩
    rw [← Located.unexcused_shiftContent]
    exact congrArg Located.unexcused hshift

/-- **Spans are exact.**  From its slice of the text alone each content is read again, and nothing
else; only an excuse from validation is not in the slice.  Each item, uber identifier and icon in
the content is read again from its own slice, all of it. -/
theorem parse_slice {contents : List (Located Content)} (h : parse text = .ok contents)
    {x : Located Content} (hx : x ∈ contents) :
    (∃ y, parse (slice text x.span.start x.span.stop) = .ok [y] ∧
        y.shiftContent x.span.start = x.unexcused) ∧
      (∀ i, .item i ∈ x.val.allParts → Construct.item.Rereads text i) ∧
      (∀ u, .uber u ∈ x.val.allParts → Construct.uberIdentifier.Rereads text u) ∧
      ∀ i, .icon i ∈ x.val.allParts → Construct.icon.Rereads text i := by
  have hread := readIn_of_mem h hx
  refine ⟨hread.exists_parse, fun i hi => ?_, fun v hv => ?_, fun i hi => ?_⟩
  · obtain ⟨u, d, d', hd, hi⟩ := hread.part hi
    exact Construct.rereads (k := .item) (item_built.settles fun _ => id) hd hi (located_ok hi).2
  · obtain ⟨u, d, d', hd, hv⟩ := hread.part hv
    exact Construct.rereads (k := .uberIdentifier) (uberIdentifier_built.settles fun _ => id) hd hv
      (located_ok hv).2
  · obtain ⟨u, d, d', hd, hi⟩ := hread.part hi
    exact Construct.rereads (k := .icon) (icon_built.settles fun _ => id) hd hi (located_ok hi).2

/-- A pickup that was excused, with a message up to a comment. -/
theorem parse_slice_excused :
    ∃ x y, parse "//skip-validate\n 1|2|6|hi // c".toList = .ok [x] ∧ x.span = ⟨17, 26⟩ ∧
      parse "1|2|6|hi ".toList = .ok [y] ∧ y.shiftContent 17 = x.unexcused := by
  have h : parse "//skip-validate\n 1|2|6|hi // c".toList =
      .ok [⟨⟨17, 26⟩, .pickup ⟨⟨⟨17, 20⟩, ⟨⟨17, 20⟩, ⟨1, 2⟩⟩, none⟩,
        ⟨⟨21, 26⟩, .message "hi"⟩, false, true⟩⟩] := by
    rw [parse, Reading.ofText, Reading.ofCursor, Reading.ofCursorFrom_of_none (by rfl)]
    rfl
  obtain ⟨⟨y, hy, hshift⟩, -⟩ := parse_slice h List.mem_cons_self
  exact ⟨_, y, h, rfl, hy, hshift⟩

end SeedHeader
