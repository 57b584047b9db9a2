import SeedHeader.Proofs.Settling
import SeedHeader.Proofs.Recovery
import SeedHeader.Proofs.Slices

/-!
# Proofs — A fault does not depend on what follows it

Reading goes from left to right and sees one token at a time.  So a fault is settled by the tokens
before it and by the token that it is at: whatever stands behind that token, the fault is the same
(`Foreseen`).  Free text is the exception: it is at fault for being blank, which is seen only after
it was passed over.

Rules have this by how they are built (`Built.foreseen`), a line has it since it is read by a
rule, and a reading has it up to its first fault, round by round.  Texts that agree on characters
agree on the tokens among them, except on the last one; that it is the same in both is what has to
be known of them (`first_diagnostic_settled`).
-/

namespace SeedHeader

open Rule Grammar

/-- The fault of a free text that is blank. -/
def Cause.IsBlank (cause : Cause) : Prop := ∃ what, what.IsText ∧ cause = .expected what

namespace Cursor

variable {c c' : Cursor} {w more : List Lexeme}

/-- The token under a cursor stays if all that is passed and the token behind it stay. -/
theorem Passes.lexeme_eq (h : c.Passes w c') (hmore : more.head? = c'.ahead.head?) :
    (⟨c.pos, w ++ more⟩ : Cursor).lexeme = c.lexeme := by
  simp only [lexeme, List.headD_eq_head?_getD, h.ahead, List.head?_append, hmore]

theorem Passes.head?_append (h : c.Passes w c') (hmore : more.head? = c'.ahead.head?) :
    (w ++ more).head? = c.ahead.head? := by
  rw [h.ahead, List.head?_append, List.head?_append, hmore]

end Cursor

namespace Rule

variable {α β : Type} {T : TokenType → Bool} {P : Cause → Lexeme → Prop}

/-! ### Foreseen faults -/

/-- The fault at `t` is there as well if something else stands behind the token at fault. -/
def FaultSettled (r : Rule α) (c : Cursor) (fault : Fault) : Prop :=
  ∃ w t, c.Passes w t ∧ fault.span = t.span ∧
    ∀ more, more.head? = t.ahead.head? → ∃ d, r ⟨c.pos, w ++ more⟩ = .error fault d

/-- The faults of the rule, but for blank texts, are settled by the tokens up to the faulty one. -/
def Foreseen (r : Rule α) : Prop :=
  ∀ ⦃c fault c'⦄, r c = .error fault c' → fault.cause.IsBlank ∨ FaultSettled r c fault

/-- A fault at the token under the cursor is settled if the rule depends on that token only. -/
theorem FaultSettled.here {r : Rule α} {c : Cursor} {cause : Cause}
    (h : ∀ d : Cursor, d.pos = c.pos → d.lexeme = c.lexeme →
      ∃ d', r d = .error ⟨cause, c.span⟩ d') :
    FaultSettled r c ⟨cause, c.span⟩ :=
  ⟨[], c, .refl c, rfl, fun _ hmore => h _ rfl ((Cursor.Passes.refl c).lexeme_eq hmore)⟩

/-- A rule that fails where another one does has its faults settled where that one has. -/
theorem FaultSettled.imp {r : Rule α} {r' : Rule β} {c : Cursor} {fault : Fault}
    (h : FaultSettled r c fault)
    (himp : ∀ d d' : Cursor, d.pos = c.pos → d.lexeme = c.lexeme → r d = .error fault d' →
      r' d = .error fault d') : FaultSettled r' c fault := by
  obtain ⟨w, t, hw, hspan, hsettled⟩ := h
  refine ⟨w, t, hw, hspan, fun more hmore => ?_⟩
  obtain ⟨d, hd⟩ := hsettled more hmore
  exact ⟨d, himp _ d rfl (hw.lexeme_eq hmore) hd⟩

/-- A fault of the second rule is settled if what the first one takes is. -/
theorem FaultSettled.after {r : Rule α} {f : α → Rule β} {c c' : Cursor} {a : α} {fault : Fault}
    (hr : Settled (fun _ => False) r c a c') (h : FaultSettled (f a) c' fault) :
    FaultSettled (r >>= f) c fault := by
  obtain ⟨w, hw, hread⟩ := hr
  obtain ⟨v, t, hv, hspan, hsettled⟩ := h
  refine ⟨w ++ v, t, hw.trans hv, hspan, fun more hmore => ?_⟩
  obtain ⟨d, hd⟩ := hsettled more hmore
  rw [List.append_assoc, bind_of_ok (hread _ (.inl (hv.head?_append hmore)))]
  exact ⟨d, hd⟩

/-- A token that is not there, or has no meaning, is itself at fault. -/
theorem FaultSettled.of_accept {t : TokenType} {cause : Cause}
    {f : Located (List Char) → Rule α} (hf : ∀ token, Judged P t token (f token)) {c c' : Cursor}
    {fault : Fault} (h : (accept t cause >>= f) c = .error fault c') :
    FaultSettled (accept t cause >>= f) c fault := by
  have hrule : ∀ d : Cursor, d.pos = c.pos → d.lexeme = c.lexeme →
      (accept t cause >>= f) d = if c.type = t then f ⟨c.span, c.lexeme.text⟩ d.next
        else .error ⟨cause, c.span⟩ d := by
    intro d hpos hlexeme
    rw [accept_bind, Cursor.type, Cursor.span_congr hpos hlexeme, hlexeme]
    rfl
  rw [hrule c rfl rfl] at h
  by_cases ht : c.type = t
  · -- the token has no meaning
    simp only [if_pos ht] at h hrule
    rcases hf ⟨c.span, c.lexeme.text⟩ with ⟨a, ha⟩ | ⟨cause', -, hcause⟩
    · rw [ha] at h
      cases h
    · rw [hcause] at h hrule
      cases h
      exact .here fun d hpos hlexeme => ⟨d.next, hrule d hpos hlexeme⟩
  · -- the token is not there
    simp only [if_neg ht] at h hrule
    cases h
    exact .here fun d hpos hlexeme => ⟨d, hrule d hpos hlexeme⟩

namespace Built

/-- **The faults of a rule are settled by the tokens up to the one at fault.** -/
theorem foreseen {r : Rule α} (h : Built T P false r) : Foreseen r := by
  generalize false = firm at h
  induction h with
  | pure a =>
    intro c fault c' h
    cases h
  | fail _ =>
    intro c fault c' h
    cases h
    refine .inr (.here fun d hpos hlexeme => ⟨d, ?_⟩)
    rw [fail_apply, Cursor.span_congr hpos hlexeme]
  | judged _ _ _ hf =>
    intro c fault c' h
    exact .inr (.of_accept hf h)
  | skipWhile _ =>
    intro c fault c' h
    cases h
  | freeText _ htext _ =>
    intro c fault c' h
    rw [freeText_apply] at h
    split at h
    · cases h
      exact .inl ⟨_, htext, rfl⟩
    · cases h
  | located hr ih =>
    intro c fault c' h
    rw [located_apply] at h
    split at h
    · cases h
    · next hc =>
      cases h
      refine (ih hc).imp_right fun hs => hs.imp fun d d' _ _ hd => ?_
      rw [located_apply, hd]
  | bind hr hf ihr ihf =>
    intro c fault c' h
    rcases bind_error h with h | ⟨a, c₁, h₁, h₂⟩
    · exact (ihr h).imp_right fun hs => hs.imp fun d d' _ _ => bind_of_error
    · exact (ihf a h₂).imp_right (.after (hr.loose.settles (fun _ h => h.elim) h₁))
  | choice s _ hr ih =>
    intro c fault c' h
    rw [hr c c rfl rfl] at h
    refine (ih c h).imp_right fun hs => hs.imp fun d d' hpos hlexeme hd => ?_
    rw [hr c d hpos hlexeme, hd]
  | @optional _ r q _ _ s _ hr a habsent ih =>
    intro c fault c' h
    by_cases hc : q c.type
    · rw [hr c hc] at h
      refine (ih _ hc h).imp_right fun hs => hs.imp fun d d' _ hlexeme hd => ?_
      have htype : d.type = c.type := congrArg Lexeme.type hlexeme
      rw [hr d (htype ▸ hc), htype, hd]
    · rw [habsent c hc] at h
      cases h

end Built

end Rule

/-! ### Lines -/

/-- A statement and the rest of its line. -/
def statementLine (skip : Bool) : Rule (Located Content × Bool) := do
  let content ← statement skip
  return (content, ← endOfLine)

/-- A line may end with tokens of any type. -/
theorem endOfLine_built : Built (fun _ => true) (fun _ _ => True) false endOfLine := by
  refine .bind (.skipWhile fun _ _ => rfl) fun _ => .optional (q := (· ≠ .eof)) (fun _ _ => rfl)
    (not_not_intro rfl) (fun _ => eat .newline >>= fun _ => pure false)
    (fun _ _ => .bind (.accept rfl (by decide) fun _ _ => trivial) fun _ => .pure _)
    (fun c hc => ?_) (a := true) fun c hc => ?_
  · rw [peek_bind, if_neg hc]
  · rw [peek_bind, if_pos (not_not.mp hc)]
    rfl

theorem statementLine_built (skip : Bool) :
    Built (fun _ => true) (fun _ _ => True) false (statementLine skip) :=
  .bind ((statement_built skip).mono (fun _ _ => rfl) fun _ => trivial) fun _ =>
    .bind endOfLine_built fun _ => .pure _

namespace Reading

theorem ofStatement_of_line_error {skip : Bool} {c c' : Cursor} {fault : Fault}
    (h : statementLine skip c = .error fault c') : ∃ r, ofStatement skip c = (r, some c'.nextLine) ∧
      r.faults = [fault] := by
  unfold ofStatement
  rcases bind_error h with h | ⟨content, c₁, h₁, h₂⟩
  · rw [h]
    exact ⟨_, rfl, rfl⟩
  · have h₂ := (bind_error h₂).resolve_right (by rintro ⟨a, d, -, h⟩; cases h)
    rw [h₁]
    simp only [h₂]
    exact ⟨_, rfl, rfl⟩

theorem ofStatement_of_line_ok {skip : Bool} {c c' : Cursor} {x : Located Content × Bool}
    (h : statementLine skip c = .ok x c') : ofStatement skip c =
      (⟨[x.1], [], skip && x.2⟩, if x.2 then none else some c') := by
  obtain ⟨content, c₁, h₁, h₂⟩ := bind_ok h
  obtain ⟨last, c₂, h₂, h₃⟩ := bind_ok h₂
  cases h₃
  unfold ofStatement
  rw [h₁]
  simp only [h₂]
  cases last <;> simp

/-! ### The first fault of a reading -/

/-- What is passed before a statement is settled by the tokens that are passed and the one behind
them. -/
theorem interlude_settled (skip : Bool) (pos : Nat) (ls : List Lexeme) :
    ∃ w, Cursor.Passes ⟨pos, ls⟩ w (interlude skip pos ls).2.2 ∧
      ∀ more, more.head? = (interlude skip pos ls).2.2.ahead.head? →
        interlude skip pos (w ++ more) = ((interlude skip pos ls).1, (interlude skip pos ls).2.1,
          ⟨(interlude skip pos ls).2.2.pos, more⟩) := by
  induction ls generalizing skip pos with
  | nil =>
    refine ⟨[], .refl _, fun more hmore => ?_⟩
    obtain rfl : more = [] := List.head?_eq_none_iff.mp hmore
    rfl
  | cons l ls ih =>
    by_cases hl : isBetween l.type
    · obtain ⟨w, hw, hsettled⟩ := ih (remark skip pos l).2 (pos + l.width)
      have hl' : Cursor.Passes ⟨pos, l :: ls⟩ [l] ⟨pos + l.width, ls⟩ :=
        ⟨rfl, by simp [Lexeme.width]⟩
      rw [interlude_of_between skip pos hl]
      refine ⟨l :: w, hl'.trans hw, fun more hmore => ?_⟩
      rw [List.cons_append, interlude_of_between skip pos hl, hsettled more hmore]
    · rw [interlude_of_not_between skip pos hl]
      refine ⟨[], .refl _, fun more hmore => ?_⟩
      obtain ⟨ms, rfl⟩ : ∃ ms, more = l :: ms := List.head?_eq_some_iff.mp hmore
      rw [List.nil_append, interlude_of_not_between skip pos hl]

/-- Behind the same tokens a round comes to the same statement. -/
theorem round_settled {skip skip' : Bool} {c c₁ : Cursor} {documentation : List (Located Content)}
    (e : interlude skip c.pos c.ahead = (documentation, skip', c₁)) (hc : c₁.type ≠ .eof) :
    ∃ w, c.Passes w c₁ ∧ ∀ v t more, c₁.Passes v t → more.head? = t.ahead.head? →
      round skip ⟨c.pos, w ++ (v ++ more)⟩ =
        ((ofStatement skip' ⟨c₁.pos, v ++ more⟩).1.after documentation,
          (ofStatement skip' ⟨c₁.pos, v ++ more⟩).2) := by
  obtain ⟨w, hw, hinterlude⟩ := interlude_settled skip c.pos c.ahead
  simp only [e] at hw hinterlude
  refine ⟨w, hw, fun v t more hv hmore => ?_⟩
  have htype : (⟨c₁.pos, v ++ more⟩ : Cursor).type ≠ .eof := by
    rwa [Cursor.type, hv.lexeme_eq hmore]
  exact round_of_ne_eof (hinterlude _ (hv.head?_append hmore)) htype

/-- **The first fault of a reading is settled by the tokens up to it**, but for blank texts. -/
theorem first_fault_settled (skip : Bool) (c : Cursor) {fault : Fault}
    (h : (ofCursorFrom skip c).faults.head? = some fault) (hblank : ¬ fault.cause.IsBlank) :
    ∃ w t, c.Passes w t ∧ fault.span = t.span ∧ ∀ more, more.head? = t.ahead.head? →
      (ofCursorFrom skip ⟨c.pos, w ++ more⟩).faults.head? = some fault := by
  induction skip, c using round_induction with
  | step skip c ih =>
  obtain ⟨documentation, skip', c₁, -, e, -⟩ := exists_interlude skip c
  by_cases hc : c₁.type = .eof
  · rw [ofCursorFrom_of_none (round_of_eof e hc)] at h
    cases h
  have hround := round_of_ne_eof e hc
  obtain ⟨w, hw, reround⟩ := round_settled e hc
  cases hline : statementLine skip' c₁ with
  | error f c₂ =>
    -- the line is at fault
    obtain ⟨r, hr, hfaults⟩ := ofStatement_of_line_error hline
    rw [hr] at hround
    obtain rfl : f = fault := by
      simpa [ofCursorFrom_of_some hround, append, after, hfaults] using h
    obtain ⟨v, t, hv, hspan, hsettled⟩ :=
      ((statementLine_built skip').foreseen hline).resolve_left hblank
    refine ⟨w ++ v, t, hw.trans hv, hspan, fun more hmore => ?_⟩
    obtain ⟨d, hd⟩ := hsettled more hmore
    obtain ⟨r', hr', hfaults'⟩ := ofStatement_of_line_error hd
    have hround' := reround v t more hv hmore
    rw [hr'] at hround'
    rw [List.append_assoc, ofCursorFrom_of_some hround']
    simp [append, after, hfaults']
  | ok x c₂ =>
    rw [ofStatement_of_line_ok hline] at hround
    cases hlast : x.2 with
    | true =>
      rw [hlast, if_pos rfl] at hround
      simp [ofCursorFrom_of_none hround, after] at h
    | false =>
      -- the line is read, and a later round has the fault
      rw [hlast, if_neg Bool.false_ne_true] at hround
      rw [ofCursorFrom_of_some hround] at h
      obtain ⟨u, hu, hread⟩ :=
        (statementLine_built skip').settles (p := fun _ => False) (fun _ h => h.elim) hline
      obtain ⟨v, t, hv, hspan, hsettled⟩ := ih _ _ hround (by simpa [append, after] using h)
      refine ⟨w ++ (u ++ v), t, hw.trans (hu.trans hv), hspan, fun more hmore => ?_⟩
      have hline' := hread (v ++ more) (.inl (hv.head?_append hmore))
      have hround' := reround (u ++ v) t more (hu.trans hv) hmore
      rw [List.append_assoc, ofStatement_of_line_ok hline', hlast, if_neg Bool.false_ne_true]
        at hround'
      rw [List.append_assoc, List.append_assoc, ofCursorFrom_of_some hround']
      simpa [append, after] using hsettled more hmore

end Reading

/-! ### The tokens of two texts -/

namespace Cursor

variable {text : List Char}

/-- What is passed is cut from the characters that are passed. -/
theorem Passes.eq_lexemes {w : List Lexeme} {c : Cursor} (h : (ofText text).Passes w c) :
    w = lexemes (text.take c.pos) := by
  have hlexed : Lexed (w ++ c.ahead) := h.ahead ▸ lexed_lexemes text
  rw [h.take_eq]
  exact hlexed.left.symm

/-- The same token, of the same characters, is the same lexeme. -/
theorem Passes.head?_eq {x y : List Char} {w v : List Lexeme} {c d : Cursor}
    (h : (ofText x).Passes w c) (h' : (ofText y).Passes v d) (htoken : c.token = d.token)
    (hchars : x.take c.token.span.stop = y.take c.token.span.stop) :
    c.ahead.head? = d.ahead.head? := by
  have hinked := (h.ahead ▸ inked_lexemes x : Inked (w ++ c.ahead)).right
  have hinked' := (h'.ahead ▸ inked_lexemes y : Inked (v ++ d.ahead)).right
  have htype : c.type = d.type := congrArg Token.type htoken
  by_cases he : c.type = .eof
  · rw [hinked.type_eq_eof_iff.mp he, hinked'.type_eq_eof_iff.mp (htype ▸ he)]
  obtain ⟨l, ls, hl, hlexeme⟩ := ahead_of_type he
  obtain ⟨m, ms, hm, hlexeme'⟩ := ahead_of_type (htype ▸ he)
  have htokenAt : l.tokenAt (charsOf w).length = c.token := by
    rw [token, hlexeme, h.pos_eq]
  have htokenAt' : m.tokenAt (charsOf v).length = c.token := by
    rw [htoken, token, hlexeme', h'.pos_eq]
  have htext := (textIn_tokenAt (hl ▸ h.ahead)).1
  have htext' := (textIn_tokenAt (hm ▸ h'.ahead)).1
  rw [htokenAt, Token.textIn, hchars] at htext
  rw [htokenAt', Token.textIn] at htext'
  have hlm : l = m := by
    obtain ⟨type, text⟩ := l
    obtain ⟨type', text'⟩ := m
    obtain rfl : type = type' := congrArg Token.type (htokenAt.trans htokenAt'.symm)
    rw [show text = text' from htext.symm.trans htext']
  rw [hl, hm, hlm, List.head?_cons, List.head?_cons]

end Cursor

theorem Cause.message_of_isBlank {cause : Cause} (h : cause.IsBlank) :
    cause.message = "Expected text" ∨ cause.message = "Expected string" := by
  obtain ⟨what, rfl | rfl, rfl⟩ := h
  · exact .inl rfl
  · exact .inr rfl

/-- **A diagnostic does not depend on what follows it.**  Let the first diagnostic of a text be
another than that text or a string was expected.  A text that has the same characters up to the end
of that diagnostic, and the same token there, has the same first diagnostic. -/
theorem first_diagnostic_settled {x y : List Char} {d : Diagnostic} {t : Token}
    (hd : (Reading.ofText x).diagnostics.head? = some d) (htext : d.message ≠ "Expected text")
    (hstring : d.message ≠ "Expected string") (hx : t ∈ tokenize x) (hspan : t.toInt.span = d.span)
    (hchars : x.take t.span.stop = y.take t.span.stop) (hy : t ∈ tokenize y) :
    (Reading.ofText y).diagnostics.head? = some d := by
  rw [Reading.diagnostics, List.head?_map, Option.map_eq_some_iff] at hd
  obtain ⟨fault, hfault, rfl⟩ := hd
  have hblank : ¬ fault.cause.IsBlank := fun hblank =>
    (Cause.message_of_isBlank hblank).elim htext hstring
  obtain ⟨w, c, hw, hat, hsettled⟩ := Reading.first_fault_settled false _ hfault hblank
  obtain ⟨v, c', hv, rfl⟩ := Cursor.exists_passes_of_mem hx
  obtain ⟨u, e, hu, htoken⟩ := Cursor.exists_passes_of_mem hy
  -- the token at fault is the one that is in both texts
  have hpos : c'.pos = c.pos := by
    have hstart : (c'.pos : Int) = fault.span.start := congrArg Span.start hspan
    rw [hat] at hstart
    exact Int.ofNat_inj.mp hstart
  obtain rfl : c' = c := by rw [hv.eq_atOffset, hw.eq_atOffset, hpos]
  have hpos' : e.pos = c'.pos := congrArg (fun t : Token => t.span.start) htoken
  have hle : c'.pos ≤ c'.token.span.stop := Nat.le_add_right _ _
  have hu' : u = w := by
    rw [hu.eq_lexemes, hw.eq_lexemes, hpos', ← Nat.min_eq_left hle, ← List.take_take,
      ← List.take_take, hchars]
  have hsame := hw.head?_eq hu htoken.symm hchars
  have hread := hsettled e.ahead hsame.symm
  have hahead : lexemes y = w ++ e.ahead := hu' ▸ hu.ahead
  rw [Reading.diagnostics, List.head?_map, Reading.ofText, Reading.ofCursor, Cursor.ofText, hahead]
  exact congrArg (Option.map Fault.diagnostic) hread

/-- A wrong word behind a dollar sign is at fault, whatever follows it on its line and after it. -/
theorem first_diagnostic_settled_word :
    (Reading.ofText "!!add 2|-$x\n7".toList).diagnostics.head? =
        some ⟨"Invalid interpolation command", ⟨10, 11⟩, some .interpolationCommand⟩ ∧
      ⟨.identifier, ⟨10, 11⟩, true, none⟩ ∈ tokenize "!!add 2|-$x\n7".toList ∧
      "!!add 2|-$x\n7".toList.take 11 = "!!add 2|-$x(a) \"b".toList.take 11 ∧
      ⟨.identifier, ⟨10, 11⟩, true, none⟩ ∈ tokenize "!!add 2|-$x(a) \"b".toList ∧
      (Reading.ofText "!!add 2|-$x(a) \"b".toList).diagnostics.head? =
        some ⟨"Invalid interpolation command", ⟨10, 11⟩, some .interpolationCommand⟩ := by
  have hround : Reading.round false (.ofText "!!add 2|-$x\n7".toList) =
      (⟨[], [⟨.invalid .interpolationCommand, ⟨10, 11⟩⟩], false⟩,
        some ⟨12, [⟨.number, ['7']⟩]⟩) := by rfl
  have hd : (Reading.ofText "!!add 2|-$x\n7".toList).diagnostics.head? =
      some ⟨"Invalid interpolation command", ⟨10, 11⟩, some .interpolationCommand⟩ := by
    rw [Reading.ofText, Reading.ofCursor, Reading.ofCursorFrom_of_some hround]
    rfl
  have hx : ⟨.identifier, ⟨10, 11⟩, true, none⟩ ∈ tokenize "!!add 2|-$x\n7".toList := by decide
  have hy : ⟨.identifier, ⟨10, 11⟩, true, none⟩ ∈ tokenize "!!add 2|-$x(a) \"b".toList := by decide
  have hchars : "!!add 2|-$x\n7".toList.take 11 = "!!add 2|-$x(a) \"b".toList.take 11 := by decide
  exact ⟨hd, hx, hchars, hy, first_diagnostic_settled hd (by decide) (by decide) hx rfl hchars hy⟩

end SeedHeader
