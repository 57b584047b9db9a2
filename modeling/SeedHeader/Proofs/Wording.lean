import SeedHeader.Proofs.Blame
import SeedHeader.Proofs.Operations

/-!
# Proofs — What diagnostics say about their tokens

The message of a diagnostic suits the token it is at.  Without a suggestion it names a type that
the token does not have; with one it names the construct that was expected there, and it calls the
token invalid, or a string unterminated, only if the token is of that type (`Token.Suits`).

Every fault of a reading concerns the token that it is at, and what concerns a token suits it
(`Cause.Concerns.suits`).

**Wording** (`diagnostic_suits_token`).  Every diagnostic of a text has the span of one token, and
suits it.
-/

namespace SeedHeader

/-! ### Messages and tokens -/

/-- What may be said about a token: a message and a suggestion. -/
inductive Token.Suits (t : Token) : String → Option Suggestion → Prop where
  | token (type : TokenType) (h : type ∈ [TokenType.whitespace, .identifier, .closeParen])
      (ht : t.type ≠ type) : t.Suits ("Expected " ++ type.label) none
  | lineEnd (ht : t.type ∉ [TokenType.newline, .whitespace, .comment, .eof]) :
      t.Suits ("Expected " ++ TokenType.newline.label) none
  | expected (s : Suggestion) : t.Suits ("Expected " ++ s.label) (some s)
  | invalid (s : Suggestion) (ht : t.type = .number ∨ t.type = .identifier) :
      t.Suits ("Invalid " ++ s.label) (some s)
  | unterminated (ht : t.type = .string) (h : t.terminated = false) :
      t.Suits "Unterminated string" (some .string)
  | water (ht : t.type = .number) : t.Suits "Invalid water, expected 0" (some .integer)

/-- What concerns a token, suits it. -/
theorem Cause.Concerns.suits {cause : Cause} {c : Cursor} (h : cause.Concerns c.lexeme) :
    c.token.Suits cause.message cause.suggestion := by
  cases h with
  | token ht hl => exact .token _ ht hl
  | lineEnd hl => exact .lineEnd hl
  | expected what => exact .expected what
  | invalid hl _ => exact .invalid _ hl
  | string => exact .expected .string
  | unterminated hl h => exact .unterminated hl h
  | water hl => exact .water hl

/-! ### The tokens of a text -/

/-- The token under a cursor in a text is one of the text, and no other starts there. -/
theorem Cursor.Passes.token_unique {text : List Char} {w : List Lexeme} {c : Cursor}
    (h : (ofText text).Passes w c) :
    c.token ∈ tokenize text ∧
      ∀ u ∈ tokenize text, u.span.start = c.token.span.start → u = c.token := by
  refine ⟨?_, fun u hu hstart => ?_⟩
  · rw [h.tokenize_eq]
    exact List.mem_append_right _ (List.mem_of_mem_head? c.head?_tokens)
  · obtain ⟨v, d, hd, rfl⟩ := exists_passes_of_mem hu
    have hpos : d.pos = c.pos := hstart
    rw [hd.token_eq, h.token_eq, hpos]

/-- **Wording.**  Every diagnostic of a text has the span of one token of the text and of no other,
and what it says suits that token. -/
theorem diagnostic_suits_token (text : List Char) :
    ∀ d ∈ (Reading.ofText text).diagnostics,
      ∃ t ∈ tokenize text, t.toInt.span = d.span ∧
        (∀ u ∈ tokenize text, u.toInt.span = d.span → u = t) ∧ t.Suits d.message d.suggestion := by
  intro d hd
  obtain ⟨f, hf, rfl⟩ := List.mem_map.mp hd
  obtain ⟨w, c, hw, hspan, hcause⟩ := Reading.faults_concern false (.ofText text) f hf
  obtain ⟨hmem, hunique⟩ := hw.token_unique
  have hat : c.token.toInt.span = f.diagnostic.span := congrArg Span.toInt hspan.symm
  refine ⟨c.token, hmem, hat, fun u hu hspan' => hunique u hu ?_, hcause.suits⟩
  have hstart : (u.span.start : Int) = c.token.span.start :=
    congrArg Span.start (hspan'.trans hat.symm)
  exact Int.ofNat_inj.mp hstart

/-- Water with an amount is at fault at the number that is the amount. -/
theorem diagnostic_suits_token_water :
    (Reading.ofText "0|0|9|1".toList).diagnostics =
        [⟨"Invalid water, expected 0", ⟨6, 7⟩, some .integer⟩] ∧
      (⟨.number, ⟨6, 7⟩, true, none⟩ : Token) ∈ tokenize "0|0|9|1".toList ∧
      Token.Suits ⟨.number, ⟨6, 7⟩, true, none⟩ "Invalid water, expected 0" (some .integer) := by
  have hread : (Reading.ofText "0|0|9|1".toList).diagnostics =
      [⟨"Invalid water, expected 0", ⟨6, 7⟩, some .integer⟩] := by decide +kernel
  have hmem : ⟨"Invalid water, expected 0", ⟨6, 7⟩, some .integer⟩ ∈
      (Reading.ofText "0|0|9|1".toList).diagnostics := by rw [hread]; exact List.mem_singleton_self _
  have hnumber : (⟨.number, ⟨6, 7⟩, true, none⟩ : Token) ∈ tokenize "0|0|9|1".toList := by
    decide +kernel
  obtain ⟨t, -, -, hunique, hsuits⟩ := diagnostic_suits_token "0|0|9|1".toList _ hmem
  exact ⟨hread, hnumber, hunique _ hnumber rfl ▸ hsuits⟩

end SeedHeader
