import SeedHeader.Proofs.Lexing
import SeedHeader.Proofs.Excuse

/-!
# Proofs — Reading is compositional at line boundaries

Reading `a ++ b`, where a line ends between `a` and `b`, is reading `a` and reading `b`
(`ofText_append`): the faults of `a` come first and then those of `b`, further on by the length
of `a`, and so do the contents.  One thing passes the boundary, the excuse that the last note
of `a` may leave for the first statement of `b`.  Reading under that excuse differs from reading
without it at no other place (`ofCursorFrom_excuse`).
-/

namespace SeedHeader

/-! ### The lexemes of a text -/

theorem inked_lexemes (text : List Char) : Inked (lexemes text) :=
  fun _ hl => (shaped_of_mem hl).type_ne_eof

/-- Before a line boundary the last lexeme is a newline. -/
theorem sealed_lexemes {a b : List Char} (h : LineBoundary a b) : Sealed (lexemes a) := by
  intro l hl
  obtain ⟨ms, hms⟩ := List.getLast?_eq_some_iff.mp hl
  have hmem : l ∈ lexemes a := by simp [hms]
  have hshape := shaped_of_mem hmem
  have ha : a = charsOf ms ++ l.text := by
    rw [← charsOf_lexemes a, hms, charsOf_append, charsOf_cons, charsOf_nil, List.append_nil]
  obtain ⟨s, d, hs, hd⟩ := h.exists_lineEnd (by simp [ha, hshape.text_ne_nil])
  have hd' : d ∈ l.text := by
    have hlast : (charsOf ms ++ l.text).getLast? = some d := by rw [← ha, hs, List.getLast?_concat]
    rw [List.getLast?_append, List.getLast?_eq_some_getLast hshape.text_ne_nil] at hlast
    exact Option.some.inj hlast ▸ List.getLast_mem hshape.text_ne_nil
  by_contra hne
  rw [hshape.not_lineEnd hne d hd'] at hd
  cases hd

/-! ### Texts in sequence -/

namespace Reading

theorem shift_zero (r : Reading) : r.shift 0 = r := by
  have hf : Fault.shift 0 = id := by funext f; simp [Fault.shift, Span.shift]
  simp [shift, Located.shiftContent_zero, hf]

/-- Reading two texts in sequence: what is read from the second is further on by the length of the
first, and starts with the excuse that the first one leaves. -/
theorem ofText_append {a b : List Char} (h : LineBoundary a b) :
    ofText (a ++ b) =
      (ofText a).append ((ofCursorFrom (ofText a).skip (.ofText b)).shift a.length) := by
  have ha : ofText (a ++ b) =
      (ofText a).append (ofCursorFrom (ofText a).skip ⟨a.length, lexemes b⟩) := by
    have hseal : lexemes b = [] ∨ Sealed (Cursor.ofText a).ahead := .inr (sealed_lexemes h)
    have e := ofCursorFrom_embed 0 false (inked_lexemes a) hseal
    simpa [ofText, ofCursor, Cursor.ofText, Cursor.embed, lexemes_append h, shift_zero,
      charsOf_lexemes] using e
  have hb : ofCursorFrom (ofText a).skip ⟨a.length, lexemes b⟩ =
      (ofCursorFrom (ofText a).skip (.ofText b)).shift a.length := by
    have hnil : ([] : List Lexeme) = [] ∨ Sealed (Cursor.ofText b).ahead := .inl rfl
    have e := ofCursorFrom_embed a.length (ofText a).skip (inked_lexemes b) hnil
    rw [ofCursorFrom_nil, ← skip_shift a.length (ofCursorFrom (ofText a).skip (.ofText b)),
      append_empty] at e
    simpa [Cursor.ofText, Cursor.embed] using e
  rw [ha, hb]

theorem faults_append {a b : List Char} (h : LineBoundary a b) :
    (ofText (a ++ b)).faults =
      (ofText a).faults ++ (ofText b).faults.map (Fault.shift a.length) := by
  have hb : (ofCursorFrom (ofText a).skip (.ofText b)).faults = (ofText b).faults := by
    cases (ofText a).skip with
    | false => rfl
    | true => exact (ofCursorFrom_excuse (.ofText b)).1
  rw [ofText_append h]
  simp only [append, shift, hb]

theorem contents_append {a b : List Char} (h : LineBoundary a b) (hb : (ofText b).faults = []) :
    (ofText (a ++ b)).contents =
      (ofText a).contents ++
        (if (ofText a).skip then excuse (ofText b).contents else (ofText b).contents).map
          (Located.shiftContent a.length) := by
  rw [ofText_append h]
  cases (ofText a).skip with
  | false => rfl
  | true =>
    have hc : (ofCursorFrom true (.ofText b)).contents = excuse (ofText b).contents :=
      (ofCursorFrom_excuse (.ofText b)).2 hb
    simp [append, shift, hc]

end Reading

/-- The diagnostic moved `n` characters to the right. -/
def Diagnostic.shift (n : Nat) (d : Diagnostic) : Diagnostic :=
  ⟨d.message, ⟨n + d.span.start, n + d.span.stop⟩, d.suggestion⟩

theorem parse_eq_ok {text : List Char} {contents : List (Located Content)} :
    parse text = .ok contents ↔
      (Reading.ofText text).faults = [] ∧ (Reading.ofText text).contents = contents := by
  unfold parse
  cases h : (Reading.ofText text).faults <;> simp [h]

/-- **Reading is compositional at line boundaries.**  The diagnostics of `a ++ b` are those of `a`
and then those of `b`, moved by the length of `a`.  So `a ++ b` is a header exactly if `a` and `b`
are.  Its contents then are those of `a` and then those of `b`, moved in the same way, of which the
first statement is excused if `a` leaves an excuse. -/
theorem parse_append {a b : List Char} (h : LineBoundary a b) :
    (Reading.ofText (a ++ b)).diagnostics =
        (Reading.ofText a).diagnostics ++
          (Reading.ofText b).diagnostics.map (Diagnostic.shift a.length) ∧
      ((∃ cs, parse (a ++ b) = .ok cs) ↔ (∃ cs, parse a = .ok cs) ∧ ∃ cs, parse b = .ok cs) ∧
      ∀ cs ds, parse a = .ok cs → parse b = .ok ds →
        parse (a ++ b) = .ok (cs ++
          (if (Reading.ofText a).skip then excuse ds else ds).map
            (Located.shiftContent a.length)) := by
  refine ⟨?_, ?_, ?_⟩
  · have hd : ∀ f : Fault, (f.shift a.length).diagnostic = f.diagnostic.shift a.length := by
      intro f
      simp [Fault.shift, Fault.diagnostic, Diagnostic.shift, Span.shift, Span.toInt]
    simp [Reading.diagnostics, Reading.faults_append h, hd]
  · simp [parse_eq_ok, Reading.faults_append h]
  · intro cs ds ha hb
    rw [parse_eq_ok] at ha hb ⊢
    obtain ⟨ha, rfl⟩ := ha
    obtain ⟨hb, rfl⟩ := hb
    exact ⟨by simp [Reading.faults_append h, ha, hb], Reading.contents_append h hb⟩

/-- A note at the end of one text excuses the pickup at the start of the next. -/
theorem parse_append_note :
    LineBoundary "// skip-validate\n".toList "1|2|9|0".toList ∧
      parse ("// skip-validate\n".toList ++ "1|2|9|0".toList) =
        .ok [⟨⟨17, 24⟩, .pickup ⟨⟨⟨17, 20⟩, ⟨⟨17, 20⟩, ⟨1, 2⟩⟩, none⟩, ⟨⟨21, 24⟩, .water false⟩,
          false, true⟩⟩] := by
  have h : LineBoundary "// skip-validate\n".toList "1|2|9|0".toList := by decide
  have hnote : Reading.ofText "// skip-validate\n".toList = ⟨[], [], true⟩ :=
    Reading.ofCursorFrom_of_none (by rfl)
  have hpickup : Reading.ofText "1|2|9|0".toList =
      ⟨[⟨⟨0, 7⟩, .pickup ⟨⟨⟨0, 3⟩, ⟨⟨0, 3⟩, ⟨1, 2⟩⟩, none⟩, ⟨⟨4, 7⟩, .water false⟩,
        false, false⟩⟩], [], false⟩ :=
    Reading.ofCursorFrom_of_none (by rfl)
  have happend := (parse_append h).2.2 _ _ (parse_eq_ok.mpr ⟨by rw [hnote], rfl⟩)
    (parse_eq_ok.mpr ⟨by rw [hpickup], rfl⟩)
  rw [happend, hnote, hpickup]
  exact ⟨h, rfl⟩

end SeedHeader
