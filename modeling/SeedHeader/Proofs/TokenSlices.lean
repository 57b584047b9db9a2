import SeedHeader.Proofs.UniformNewlines
import SeedHeader.Proofs.Slices

/-!
# Proofs — Tokens of a slice

A text can be cut where its tokens meet.  A token may look beyond its own end, but what it looks at
only keeps it from being longer; so a token stays what it is when nothing follows it any more, and
the tokens of a slice between two tokens are those of the text (`tokenize_slice`).  Lexemes are
placed from the start of the slice on, which is the same as moving the tokens (`place_shift`).

A text cannot be put together anywhere: only behind a line end the tokens of the two parts are
those of the whole (`tokenize_append`).

**Cutting** (`tokenize_cut`).  Both statements, for any two tokens of a text and for any text that
ends with a line feed.
-/

namespace SeedHeader

open Text Lexeme Cursor

/-! ### Moving tokens -/

/-- Lexemes that are placed further to the right are the tokens moved there. -/
theorem place_shift (n pos : Nat) (ls : List Lexeme) :
    place (n + pos) ls = (place pos ls).map (Token.move (Span.shift n)) := by
  induction ls generalizing pos with
  | nil => rfl
  | cons l ls ih =>
    rw [place, place, List.map_cons, Nat.add_assoc, ih]
    simp only [Lexeme.tokenAt, Token.move, Span.shift, Nat.add_assoc]

theorem move_eof (n m : Nat) : Token.move (Span.shift n) (.eof m) = .eof (n + m) := rfl

/-- Across a line boundary the tokens of the parts are those of the whole. -/
theorem tokenize_append {a b : List Char} (h : LineBoundary a b) :
    tokenize (a ++ b) =
      (tokenize a).dropLast ++ (tokenize b).map (Token.move (Span.shift a.length)) := by
  rw [tokenize, tokenize, tokenize, lexemes_append h, place_append, charsOf_lexemes,
    List.length_append, List.dropLast_concat, List.map_append, ← place_shift, List.map_singleton,
    move_eof, List.append_assoc, Nat.add_comm 0]

/-! ### Tokens between two cursors -/

section
variable {text : List Char} {c c' : Cursor} {w v : List Lexeme}

/-- The tokens of the slice between two cursors, moved to where the slice starts. -/
theorem tokenize_slice (h : (ofText text).Passes w c) (h' : c.Passes v c') :
    (tokenize (slice text c.pos c'.pos)).map (Token.move (Span.shift c.pos)) =
      place c.pos v ++ [.eof c'.pos] := by
  rw [← tokens_ofText, ofText_slice h h', Cursor.tokens, List.map_append, ← place_shift,
    List.map_singleton, move_eof, Nat.add_zero, Nat.zero_add, ← h'.pos]

/-- The tokens of the text that stand between two cursors. -/
theorem tokens_between (h : (ofText text).Passes w c) (h' : c.Passes v c') :
    ((tokenize text).take (w.length + v.length)).drop w.length = place c.pos v := by
  have htokens : tokenize text = place 0 w ++ (place c.pos v ++ c'.tokens) := by
    rw [h.tokenize_eq, h'.tokens]
  rw [htokens, ← List.append_assoc, List.take_left', List.drop_left']
  · exact length_place 0 w
  · rw [List.length_append, length_place, length_place]

/-- What lies between two cursors, if the first has passed no more than the second. -/
theorem Cursor.Passes.of_append {o : Cursor} (h : o.Passes w c) (h' : o.Passes (w ++ v) c') :
    c.Passes v c' := by
  refine ⟨?_, ?_⟩
  · have hahead := h.ahead.symm.trans h'.ahead
    rw [List.append_assoc] at hahead
    exact List.append_cancel_left hahead
  · rw [h'.pos, h.pos, charsOf_append, List.length_append, Nat.add_assoc]

/-- The token at index `k` stands under a cursor that has passed `k` lexemes. -/
theorem Cursor.exists_passes_getElem {k : Nat} {t : Token} (h : (tokenize text)[k]? = some t) :
    ∃ w c, (ofText text).Passes w c ∧ w.length = k ∧ c.token = t := by
  have hlt : k < (tokenize text).length := (List.getElem?_eq_some_iff.mp h).1
  rw [tokenize, List.length_append, length_place, List.length_singleton] at hlt
  have hk : ((lexemes text).take k).length = k := List.length_take_of_le (Nat.le_of_lt_succ hlt)
  have hw : (ofText text).Passes ((lexemes text).take k)
      ⟨(charsOf ((lexemes text).take k)).length, (lexemes text).drop k⟩ :=
    ⟨(List.take_append_drop k _).symm, (Nat.zero_add _).symm⟩
  refine ⟨_, _, hw, hk, ?_⟩
  have hhead := head?_tokens ⟨(charsOf ((lexemes text).take k)).length, (lexemes text).drop k⟩
  rw [hw.tokenize_eq, List.getElem?_append_right (by rw [length_place, hk]), length_place, hk,
    Nat.sub_self, ← List.head?_eq_getElem?, hhead] at h
  exact Option.some.inj h

end

/-- **Cutting.**  The tokens of a slice that reaches from one token to another are the tokens from
the one to the other, moved to the start of the slice, and the end of the input.  The tokens of a
text that ends with a line feed, without the end of the input, and those of what is put behind it,
moved there, are the tokens of both together. -/
theorem tokenize_cut (text : List Char) :
    (∀ (i j : Nat) (t u : Token), i ≤ j → (tokenize text)[i]? = some t →
      (tokenize text)[j]? = some u → u.type ≠ .eof →
        (tokenize (slice text t.span.start u.span.stop)).map
            (Token.move (Span.shift t.span.start)) =
          ((tokenize text).take (j + 1)).drop i ++ [.eof u.span.stop]) ∧
    ∀ more : List Char, text.getLast? = some '\n' →
      tokenize (text ++ more) =
        (tokenize text).dropLast ++ (tokenize more).map (Token.move (Span.shift text.length)) := by
  refine ⟨fun i j t u hij ht hu heof => ?_, fun more h => tokenize_append (.inr (.inl h))⟩
  obtain ⟨w, c, hw, rfl, rfl⟩ := exists_passes_getElem ht
  obtain ⟨x, d, hx, rfl, rfl⟩ := exists_passes_getElem hu
  -- what has been passed before the second token starts with what has been before the first
  obtain ⟨v, rfl⟩ : w <+: x :=
    List.prefix_of_prefix_length_le ⟨_, hw.ahead.symm⟩ ⟨_, hx.ahead.symm⟩ hij
  have hv : c.Passes (v ++ [d.lexeme]) d.next := (hw.of_append hx).trans (passes_next heof)
  have hbetween := tokens_between hw hv
  rw [List.length_append, List.length_singleton, ← Nat.add_assoc, ← List.length_append] at hbetween
  have hstart : c.token.span.start = c.pos := rfl
  have hstop : d.token.span.stop = d.next.pos := rfl
  rw [hbetween, hstart, hstop]
  exact tokenize_slice hw hv

/-- A negative number cut out behind another number, and a number behind a comment. -/
theorem tokenize_cut_number :
    (tokenize (slice "7-2 =".toList 1 4)).map (Token.move (Span.shift 1)) =
        [⟨.number, ⟨1, 3⟩, true, none⟩, ⟨.whitespace, ⟨3, 4⟩, true, none⟩, .eof 4] ∧
      tokenize ("//\n".toList ++ "1".toList) =
        (tokenize "//\n".toList).dropLast ++
          (tokenize "1".toList).map (Token.move (Span.shift 3)) := by
  have hslice := (tokenize_cut "7-2 =".toList).1 1 2 ⟨.number, ⟨1, 3⟩, true, none⟩
    ⟨.whitespace, ⟨3, 4⟩, true, none⟩ (by decide) (by decide) (by decide) (by decide)
  exact ⟨hslice.trans (by decide), (tokenize_cut "//\n".toList).2 "1".toList (by decide)⟩

end SeedHeader
