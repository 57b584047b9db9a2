import SeedHeader.Grammar.Motion
import SeedHeader.Proofs.Lexed

/-!
# Proofs — Where tokens stand

`place` gives lexemes their spans, one after the other.  So a token of a placed list is one of the
lexemes, put where the characters before it end (`mem_place_iff`).

The tokens *ahead* of a cursor are its lexemes, placed from its offset on, and the end of the
input.  At the start of a text they are the tokens of the text (`tokens_ofText`); a cursor that
passes lexemes leaves their tokens behind and has the others ahead of it (`Passes.tokens`).
-/

namespace SeedHeader

/-! ### Placed lexemes -/

theorem place_append (pos : Nat) (ls ms : List Lexeme) :
    place pos (ls ++ ms) = place pos ls ++ place (pos + (charsOf ls).length) ms := by
  induction ls generalizing pos with
  | nil => simp [place]
  | cons l ls ih =>
    simp only [List.cons_append, place, ih, charsOf_cons, List.length_append, Lexeme.width,
      Nat.add_assoc]

theorem mem_place_iff {pos : Nat} {ls : List Lexeme} {t : Token} :
    t ∈ place pos ls ↔
      ∃ w l v, ls = w ++ l :: v ∧ t = l.tokenAt (pos + (charsOf w).length) := by
  constructor
  · intro h
    induction ls generalizing pos with
    | nil => cases h
    | cons l ls ih =>
      rcases List.mem_cons.mp h with rfl | h
      · exact ⟨[], l, ls, rfl, rfl⟩
      · obtain ⟨w, m, v, rfl, rfl⟩ := ih h
        refine ⟨l :: w, m, v, rfl, ?_⟩
        rw [charsOf_cons, List.length_append, Lexeme.width, Nat.add_assoc]
  · rintro ⟨w, l, v, rfl, rfl⟩
    rw [place_append]
    exact List.mem_append_right _ List.mem_cons_self

theorem map_type_place (pos : Nat) (ls : List Lexeme) :
    (place pos ls).map Token.type = ls.map Lexeme.type := by
  induction ls generalizing pos with
  | nil => rfl
  | cons l ls ih => simp [place, ih, Lexeme.tokenAt]

theorem length_place (pos : Nat) (ls : List Lexeme) : (place pos ls).length = ls.length := by
  simpa only [List.length_map] using congrArg List.length (map_type_place pos ls)

theorem countP_type_place (p : TokenType → Bool) (pos : Nat) (ls : List Lexeme) :
    (place pos ls).countP (fun t => p t.type) = ls.countP fun l => p l.type := by
  have h := congrArg (List.countP p) (map_type_place pos ls)
  rwa [List.countP_map, List.countP_map] at h

theorem mem_place_bounds {pos : Nat} {ls : List Lexeme} {t : Token} (h : t ∈ place pos ls) :
    pos ≤ t.span.start ∧ t.span.start ≤ t.span.stop ∧
      t.span.stop ≤ pos + (charsOf ls).length := by
  obtain ⟨w, l, v, rfl, rfl⟩ := mem_place_iff.mp h
  simp only [Lexeme.tokenAt, Lexeme.width, charsOf_append, charsOf_cons, List.length_append]
  omega

/-- The token of each lexeme is among those of the list. -/
theorem exists_mem_place {ls : List Lexeme} {l : Lexeme} (h : l ∈ ls) (pos : Nat) :
    ∃ t ∈ place pos ls, t.type = l.type := by
  obtain ⟨w, v, rfl⟩ := List.append_of_mem h
  exact ⟨_, mem_place_iff.mpr ⟨w, l, v, rfl, rfl⟩, rfl⟩

/-- Tokens stand one behind the other. -/
theorem pairwise_place_stop (pos : Nat) (ls : List Lexeme) :
    (place pos ls).Pairwise fun t u => t.span.stop ≤ u.span.start := by
  induction ls generalizing pos with
  | nil => exact .nil
  | cons l ls ih => exact .cons (fun t ht => (mem_place_bounds ht).1) (ih _)

/-- Tokens stand in increasing order, since none of them is empty. -/
theorem pairwise_place {ls : List Lexeme} (h : ∀ l ∈ ls, l.text ≠ []) (pos : Nat) :
    (place pos ls).Pairwise fun t u => t.span.start < u.span.start := by
  refine (pairwise_place_stop pos ls).imp_of_mem fun ht _ hstop => ?_
  obtain ⟨w, l, v, rfl, rfl⟩ := mem_place_iff.mp ht
  have hwidth : 0 < l.width := List.length_pos_iff.mpr (h l (by simp))
  exact Nat.lt_of_lt_of_le (Nat.lt_add_of_pos_right hwidth) hstop

/-! ### The characters of a token -/

/-- The characters of a text that a token covers. -/
def Token.textIn (text : List Char) (t : Token) : List Char :=
  (text.take t.span.stop).drop t.span.start

/-- A lexeme of a text, put in its place, covers its characters; and what follows it are those of
the lexemes after it. -/
theorem textIn_tokenAt {text : List Char} {w v : List Lexeme} {l : Lexeme}
    (h : lexemes text = w ++ l :: v) :
    (l.tokenAt (charsOf w).length).textIn text = l.text ∧
      text.drop (l.tokenAt (charsOf w).length).span.stop = charsOf v := by
  have htext : text = (charsOf w ++ l.text) ++ charsOf v := by
    rw [← charsOf_lexemes text, h, charsOf_append, charsOf_cons, List.append_assoc]
  have hstop : (l.tokenAt (charsOf w).length).span.stop = (charsOf w ++ l.text).length := by
    rw [List.length_append]
    rfl
  rw [Token.textIn, hstop, htext, List.take_left, List.drop_left]
  exact ⟨List.drop_left, rfl⟩

/-! ### Tokens ahead -/

namespace Cursor

/-- The tokens ahead of a cursor, with the end of the input. -/
def tokens (c : Cursor) : List Token :=
  place c.pos c.ahead ++ [.eof (c.pos + (charsOf c.ahead).length)]

theorem tokens_ofText (text : List Char) : (ofText text).tokens = tokenize text := by
  simp [tokens, ofText, tokenize, charsOf_lexemes]

theorem Passes.tokens {c c' : Cursor} {w : List Lexeme} (h : c.Passes w c') :
    c.tokens = place c.pos w ++ c'.tokens := by
  rw [Cursor.tokens, h.ahead, place_append, Cursor.tokens, h.pos, charsOf_append,
    List.length_append, List.append_assoc, Nat.add_assoc]

theorem Passes.pos_le {c c' : Cursor} {w : List Lexeme} (h : c.Passes w c') : c.pos ≤ c'.pos := by
  rw [h.pos]
  omega

/-- The token under the cursor is the first one ahead. -/
theorem head?_tokens (c : Cursor) : c.tokens.head? = some c.token := by
  obtain ⟨pos, _ | ⟨l, ls⟩⟩ := c <;> rfl

/-- The token under the cursor is among those ahead. -/
theorem exists_mem_tokens (c : Cursor) : ∃ t ∈ c.tokens, t.span = c.span :=
  ⟨c.token, List.mem_of_mem_head? c.head?_tokens, rfl⟩

end Cursor

/-! ### The tokens of a text -/

/-- A token of a text lies within the text, and only the end of the input is empty. -/
theorem mem_tokenize_bounds {text : List Char} {t : Token} (h : t ∈ tokenize text) :
    t.span.start ≤ t.span.stop ∧ t.span.stop ≤ text.length ∧
      (t.type ≠ .eof → t.span.start < t.span.stop) := by
  rcases List.mem_append.mp h with h | h
  · have hb := mem_place_bounds h
    obtain ⟨w, l, v, hl, rfl⟩ := mem_place_iff.mp h
    have hne : l.text ≠ [] := (shaped_of_mem (by rw [hl]; simp)).text_ne_nil
    have hpos : 0 < l.text.length := List.length_pos_iff.mpr hne
    rw [charsOf_lexemes] at hb
    refine ⟨hb.2.1, by omega, fun _ => ?_⟩
    simp only [Lexeme.tokenAt, Lexeme.width]
    omega
  · obtain rfl := List.mem_singleton.mp h
    exact ⟨Nat.le_refl _, Nat.le_refl _, fun hne => absurd rfl hne⟩

end SeedHeader
