import SeedHeader.Proofs.LexicalGrammar
import SeedHeader.Proofs.Operations

/-!
# Proofs — Slices of a text between tokens

A text may end wherever a token ends: the tokens before that place stay the same (`Lexed.left`).  So
a slice of a text between two cursors is cut into the lexemes between them (`ofText_slice`).
-/

namespace SeedHeader

open Text Lexeme

namespace Cursor

variable {text : List Char} {u w : List Lexeme} {c c' : Cursor}

theorem slice_eq (h : (ofText text).Passes u c) (h' : c.Passes w c') :
    slice text c.pos c'.pos = charsOf w := by
  have hstart : c.pos = (charsOf u).length := h.pos_eq
  have hstop : c'.pos = (charsOf (u ++ w)).length := (h.trans h').pos_eq
  have htext : text = charsOf (u ++ w) ++ charsOf c'.ahead := (h.trans h').text_eq
  have hle : c'.pos ≤ text.length := (h.trans h').pos_le_length
  have hclamp : ∀ n : Nat, n ≤ text.length → clamp text.length n = n := by
    intro n hn
    rw [clamp, if_neg (by omega)]
    omega
  rw [slice, hclamp _ hle, hclamp _ (Nat.le_trans h'.pos_le hle), hstart, hstop]
  rw [htext, List.take_left, charsOf_append, List.drop_left]

/-- The slice between two cursors is cut into the lexemes between them. -/
theorem ofText_slice (h : (ofText text).Passes u c) (h' : c.Passes w c') :
    ofText (slice text c.pos c'.pos) = ⟨0, w⟩ := by
  have hlexed : Lexed (u ++ (w ++ c'.ahead)) := by
    rw [← h'.ahead, ← h.ahead]
    exact lexed_lexemes text
  rw [ofText, slice_eq h h', hlexed.right.left]

end Cursor

end SeedHeader
