import SeedHeader.Proofs.Operations
import SeedHeader.Proofs.Slices
import SeedHeader.Proofs.Attributes

/-!
# Proofs — Where a free text stops

A free text is read token by token: it never looks at a character.  `scanStop` finds the place where
it stops from the characters alone, and that is where the cursor is left, whether the text is
accepted or blank (`freeText_scan`).  So a caption is read as it is written.
-/

namespace SeedHeader

open Lexeme Rule Grammar Text

/-- The offset at which a free text from offset `pos` on stops: at a line end, at two slashes
outside double quotes, or at the end of the text. -/
def scanStop (text : List Char) (pos : Nat) : Nat :=
  pos + (freeRun false (text.drop pos)).length

namespace Cursor

variable {text : List Char} {w : List Lexeme} {c : Cursor}

/-- What a free text passes is what the scan passes. -/
theorem Passes.passed_textual (h : (ofText text).Passes w c) :
    c.passed isTextual = freeRun false (text.drop c.pos) := by
  have hahead : c.ahead = lexemes (text.drop c.pos) := congrArg Cursor.ahead h.eq_atOffset
  rw [passed, hahead, charsOf_textual]

/-- The cursor behind a free text is where the scan stops. -/
theorem Passes.skipWhile_textual (h : (ofText text).Passes w c) :
    c.skipWhile isTextual = atOffset text (scanStop text c.pos) := by
  have hstop := (h.trans (passes_skipWhile isTextual c)).eq_atOffset
  rw [hstop, scanStop, ← h.passed_textual]
  rfl

/-- The slice up to where the scan stops is what the scan passes. -/
theorem Passes.slice_scanStop (h : (ofText text).Passes w c) :
    slice text c.pos (scanStop text c.pos) = freeRun false (text.drop c.pos) := by
  have hslice := slice_eq h (passes_skipWhile isTextual c)
  rw [h.skipWhile_textual] at hslice
  exact hslice.trans h.passed_textual

end Cursor

/-- **A free text, read by tokens, is what a scan by characters finds.**  From any cursor that was
reached in a text, reading a free text leaves the cursor where the scan stops.  It yields the slice
up to there without the blanks around it; if nothing is left of that, the fault says what was
expected, at the token that was under the cursor.  So a caption up to the end of its line is read
as it is written. -/
theorem freeText_scan {text : List Char} {c : Cursor} (h : c.ReachedIn text) (what : Suggestion) :
    stop (freeText what c) = .atOffset text (scanStop text c.pos) ∧
      (trim (slice text c.pos (scanStop text c.pos)) ≠ [] →
        freeText what c =
          .ok (String.ofList (trim (slice text c.pos (scanStop text c.pos))))
            (.atOffset text (scanStop text c.pos))) ∧
      (trim (slice text c.pos (scanStop text c.pos)) = [] →
        ∃ fault, freeText what c = .error fault (.atOffset text (scanStop text c.pos)) ∧
          fault.diagnostic = ⟨"Expected " ++ what.label, c.token.span, some what⟩) ∧
      ∀ caption rest, text.drop c.pos = caption ++ rest → IsCaption caption → AtLineEnd rest →
        freeText what c =
          .ok (String.ofList caption) (.atOffset text (c.pos + caption.length)) := by
  obtain ⟨w, hw⟩ := h.passes
  have hread := freeText_apply what c
  rw [hw.passed_textual, hw.skipWhile_textual, ← hw.slice_scanStop] at hread
  have hok : trim (slice text c.pos (scanStop text c.pos)) ≠ [] →
      freeText what c =
        .ok (String.ofList (trim (slice text c.pos (scanStop text c.pos))))
          (.atOffset text (scanStop text c.pos)) := by
    intro hne
    rw [hread, if_neg (by simpa using hne)]
  have herror : trim (slice text c.pos (scanStop text c.pos)) = [] →
      freeText what c =
        .error ⟨.expected what, c.span⟩ (.atOffset text (scanStop text c.pos)) := by
    intro he
    rw [hread, if_pos (by simpa using he)]
  refine ⟨?_, hok, fun he => ⟨_, herror he, rfl⟩, fun caption rest hdrop hcaption hrest => ?_⟩
  · by_cases he : trim (slice text c.pos (scanStop text c.pos)) = []
    · rw [herror he]
      rfl
    · rw [hok he]
      rfl
  · -- the scan passes the whole caption, and nothing is trimmed off
    have hrun : freeRun false (text.drop c.pos) = caption := by
      rw [hdrop]
      exact freeRun_append hcaption.not_lineEnd (commentFree_of_slashes hcaption.slashes false)
        hrest
    have hslice : slice text c.pos (scanStop text c.pos) = caption := hw.slice_scanStop.trans hrun
    have hstop : scanStop text c.pos = c.pos + caption.length := by rw [scanStop, hrun]
    rw [hslice, hcaption.trimmed, hstop] at hok
    exact hok hcaption.ne_nil

/-- Behind the bar of a message, quotes that stay open and a single slash are read as written. -/
theorem freeText_scan_quote :
    (Cursor.atOffset "6|a/b \"c\n0".toList 2).ReachedIn "6|a/b \"c\n0".toList ∧
      freeText .text (.atOffset "6|a/b \"c\n0".toList 2) =
        .ok "a/b \"c" (.atOffset "6|a/b \"c\n0".toList 8) := by
  have h : (Cursor.atOffset "6|a/b \"c\n0".toList 2).ReachedIn "6|a/b \"c\n0".toList :=
    ⟨[⟨_, .next⟩, ⟨_, .next⟩], by rfl⟩
  have hcaption : IsCaption "a/b \"c".toList := by
    refine ⟨by decide, by decide, by simp [isLineEnd], ?_⟩
    decide
  exact ⟨h, (freeText_scan h .text).2.2.2 "a/b \"c".toList "\n0".toList (by rfl) hcaption
    (by simp [AtLineEnd, isLineEnd])⟩

end SeedHeader
