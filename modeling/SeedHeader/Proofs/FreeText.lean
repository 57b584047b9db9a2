import SeedHeader.Grammar.Value
import SeedHeader.Proofs.Trimming
import SeedHeader.Proofs.Lexed

/-!
# Proofs — Free texts, character by character

A free text is passed token by token, up to a newline or a comment.  Read character by character
that is: up to a line end, or up to two slashes outside double quotes (`charsOf_textual`).  A quote
that is not closed lasts up to the end of the line.
-/

namespace SeedHeader

open Lexeme Text

/-- What a free text passes at the front of a text; `quoted` tells whether a quote is open. -/
def freeRun : (quoted : Bool) → List Char → List Char
  | _, [] => []
  | quoted, c :: cs =>
    if isLineEnd c then []
    else if !quoted && c = '/' && cs.head? = some '/' then []
    else c :: freeRun (if c = '"' then !quoted else quoted) cs

/-- No comment opens in the text: outside double quotes no slash follows another. -/
def commentFree : (quoted : Bool) → List Char → Bool
  | _, [] => true
  | quoted, c :: cs =>
    (quoted || !(c = '/' && cs.head? = some '/')) &&
      commentFree (if c = '"' then !quoted else quoted) cs

/-- The text holds no line end, and no comment opens in it. -/
def IsFree (cs : List Char) : Prop := (∀ c ∈ cs, isLineEnd c = false) ∧ commentFree false cs

/-! ### Runs of characters -/

theorem freeRun_plain {xs : List Char} (h : ∀ c ∈ xs, Plain c) (quoted : Bool) (ys : List Char) :
    freeRun quoted (xs ++ ys) = xs ++ freeRun quoted ys := by
  induction xs with
  | nil => rfl
  | cons c xs ih =>
    obtain ⟨hl, hs, hq⟩ := h c (by simp)
    rw [List.cons_append, freeRun, if_neg (by simp [hl]), if_neg (by simp [hs]), if_neg hq,
      ih fun d hd => h d (by simp [hd]), List.cons_append]

theorem freeRun_quoted {xs : List Char} (h : ∀ c ∈ xs, c ≠ '"' ∧ isLineEnd c = false)
    (ys : List Char) : freeRun true (xs ++ ys) = xs ++ freeRun true ys := by
  induction xs with
  | nil => rfl
  | cons c xs ih =>
    obtain ⟨hq, hl⟩ := h c (by simp)
    rw [List.cons_append, freeRun, if_neg (by simp [hl]), if_neg (by simp), if_neg hq,
      ih fun d hd => h d (by simp [hd]), List.cons_append]

theorem freeRun_of_lineEnd {ys : List Char} (h : ∀ d ∈ ys.head?, isLineEnd d) (quoted : Bool) :
    freeRun quoted ys = [] := by
  cases ys with
  | nil => rfl
  | cons c ys => rw [freeRun, if_pos (h c rfl)]

/-! ### Free texts and lexemes -/

theorem extent_slash (cs : List Char) :
    extent '/' cs =
      if cs.head? = some '/' then (.comment, run (fun d => !isLineEnd d) cs) else (.unknown, 0) := by
  have hd : isDigit '/' = false := by decide
  have hw : isWordStart '/' = false := by decide
  simp [extent, isPadding, punctuation, hd, hw]

theorem extent_quote (cs : List Char) : extent '"' cs = (.string, quotedRest cs) := by
  simp [extent, isPadding]

/-- A lexeme that a free text passes is passed character by character. -/
theorem freeRun_cut {c : Char} {cs : List Char} (h : Grammar.isTextual (cut c cs).type) :
    freeRun false (c :: cs) = (cut c cs).text ++ freeRun false (rest c cs) := by
  have hsplit := cut_append_rest c cs
  by_cases hslash : c = '/'
  · subst hslash
    have hnext : cs.head? ≠ some '/' := by
      intro hn
      rw [cut, extent_slash, if_pos hn] at h
      cases h
    rw [cut, rest, extent_slash, if_neg hnext, freeRun, if_neg (by decide), if_neg (by simp [hnext])]
    rfl
  by_cases hquote : c = '"'
  · subst hquote
    rw [cut, rest, extent_quote, freeRun, if_neg (by decide), if_neg (by simp)]
    obtain ⟨body, hb, hbody⟩ := take_quotedRest cs
    have hrun : freeRun true (cs.take (quotedRest cs) ++ cs.drop (quotedRest cs)) =
        cs.take (quotedRest cs) ++ freeRun false (cs.drop (quotedRest cs)) := by
      rcases hb with ⟨hb, hend⟩ | hb
      · rw [hb, freeRun_quoted hbody, freeRun_of_lineEnd hend, freeRun_of_lineEnd hend]
      · rw [hb, List.append_assoc, freeRun_quoted hbody, List.singleton_append, freeRun,
          if_neg (by decide), if_neg (by simp), List.append_assoc]
        rfl
    rw [List.take_append_drop] at hrun
    exact congrArg (List.cons '"') hrun
  -- all characters are plain
  have hplain : ∀ d ∈ (cut c cs).text, Plain d := by
    have hshape := shaped_cut c cs
    have hhead : (cut c cs).text.head? = some c := rfl
    generalize cut c cs = l at h hshape hhead
    cases hshape with
    | newline => cases h
    | whitespace _ _ hp => exact fun d hd => plain_of_padding (hp d hd)
    | comment => cases h
    | closed | unclosed => exact absurd (Option.some.inj hhead).symm hquote
    | number _ hn => exact hn.plain
    | minus => intro d hd; rw [List.mem_singleton.mp hd]; exact ⟨rfl, by decide, by decide⟩
    | identifier _ hw => exact hw.plain
    | mark d _ hl hq =>
      obtain rfl : d = c := Option.some.inj hhead
      intro e he
      rw [List.mem_singleton.mp he]
      exact ⟨hl, hslash, hq⟩
  rw [← hsplit, freeRun_plain hplain]

/-- A lexeme that ends a free text is not entered. -/
theorem freeRun_stop {c : Char} {cs : List Char} (h : Grammar.isTextual (cut c cs).type = false) :
    freeRun false (c :: cs) = [] := by
  have hshape := shaped_cut c cs
  have hsplit := cut_append_rest c cs
  generalize cut c cs = l at h hshape hsplit
  cases hshape with
  | newline ds hds =>
    have hc : isLineEnd c := by
      rcases hds with rfl | rfl | rfl <;> (obtain ⟨rfl, -⟩ := List.cons.inj hsplit; rfl)
    rw [freeRun, if_pos hc]
  | comment ds =>
    obtain ⟨rfl, hcs⟩ := List.cons.inj hsplit
    have hhead : cs.head? = some '/' := by rw [← hcs]; rfl
    rw [freeRun, if_neg (by decide), if_pos (by simp [hhead])]
  | mark d ht =>
    have hmem := punctuation_mem d
    rw [ht] at hmem
    simp only [Grammar.isTextual, Bool.and_eq_false_iff, decide_eq_false_iff_not,
      Decidable.not_not] at h
    rcases h with rfl | rfl <;> simp at hmem
  | _ => cases h

/-- **A free text, character by character.** -/
theorem charsOf_textual (text : List Char) :
    charsOf ((lexemes text).takeWhile fun l => Grammar.isTextual l.type) = freeRun false text := by
  induction text using lexemes_induction with
  | nil => rfl
  | cons c cs ih =>
    rw [lexemes_cons, List.takeWhile_cons]
    split
    · next h => rw [charsOf_cons, ih, freeRun_cut h]
    · next h => rw [freeRun_stop (by simpa using h)]; rfl

/-- A text splits into the tokens of a free text and those from where it stops. -/
theorem exists_textual_append (text : List Char) :
    ∃ w rest, lexemes text = w ++ rest ∧ charsOf w = freeRun false text ∧
      (∀ l ∈ w, Grammar.isTextual l.type) ∧ ∀ l ∈ rest.head?, Grammar.isTextual l.type = false :=
  ⟨_, _, List.takeWhile_append_dropWhile.symm, charsOf_textual text,
    List.all_eq_true.mp List.all_takeWhile, stop_dropWhile _ (lexemes text)⟩

/-! ### What a free text holds -/

theorem isFree_freeRun (quoted : Bool) (cs : List Char) :
    (∀ c ∈ freeRun quoted cs, isLineEnd c = false) ∧ commentFree quoted (freeRun quoted cs) := by
  induction cs generalizing quoted with
  | nil => exact ⟨by simp [freeRun], rfl⟩
  | cons c cs ih =>
    rw [freeRun]
    split
    · exact ⟨by simp, rfl⟩
    split
    · exact ⟨by simp, rfl⟩
    · next hl hs =>
      obtain ⟨hline, hfree⟩ := ih (if c = '"' then !quoted else quoted)
      refine ⟨List.forall_mem_cons.mpr ⟨by simpa using hl, hline⟩, ?_⟩
      have hhead : ∀ quoted', (freeRun quoted' cs).head? = some '/' → cs.head? = some '/' := by
        intro quoted' h
        cases cs with
        | nil => cases h
        | cons d ds =>
          rw [freeRun] at h
          split at h
          · cases h
          split at h
          · cases h
          · exact h
      simp only [commentFree, hfree, Bool.and_true, Bool.or_eq_true, Bool.not_eq_true',
        Bool.and_eq_false_iff, decide_eq_false_iff_not]
      simp only [Bool.and_eq_true, Bool.not_eq_true', decide_eq_true_eq, not_and] at hs
      cases quoted with
      | true => exact .inl rfl
      | false =>
        right
        by_cases hc : c = '/'
        · exact .inr fun h => hs ⟨rfl, hc⟩ (hhead _ h)
        · exact .inl hc

/-- A free text goes on behind characters in which no comment opens, unless a slash comes next. -/
theorem exists_freeRun_append {quoted : Bool} {cs k : List Char}
    (hl : ∀ c ∈ cs, isLineEnd c = false) (hc : commentFree quoted cs)
    (hk : ∀ d ∈ k.head?, d ≠ '/') :
    ∃ quoted', freeRun quoted (cs ++ k) = cs ++ freeRun quoted' k := by
  induction cs generalizing quoted with
  | nil => exact ⟨quoted, rfl⟩
  | cons c cs ih =>
    obtain ⟨hc₁, hc₂⟩ := Bool.and_eq_true_iff.mp hc
    have hline := hl c (by simp)
    have hnext : (cs ++ k).head? = some '/' → cs.head? = some '/' := by
      intro h
      cases cs with
      | nil => exact absurd rfl (hk '/' h)
      | cons d ds => exact h
    have hslash : ¬ (!quoted && c = '/' && (cs ++ k).head? = some '/') := by
      intro h
      simp only [Bool.and_eq_true, decide_eq_true_eq] at h
      rw [Bool.or_eq_true] at hc₁
      rcases hc₁ with hc₁ | hc₁
      · simp [hc₁] at h
      · simp [h.1.2, hnext h.2] at hc₁
    obtain ⟨quoted', hmore⟩ := ih (fun d hd => hl d (by simp [hd])) hc₂
    refine ⟨quoted', ?_⟩
    rw [List.cons_append, freeRun, if_neg (by simp [hline]), if_neg hslash, hmore, List.cons_append]

/-- A free text ends at the end of the line. -/
theorem freeRun_append {quoted : Bool} {cs k : List Char} (hl : ∀ c ∈ cs, isLineEnd c = false)
    (hc : commentFree quoted cs) (hk : ∀ d ∈ k.head?, isLineEnd d) :
    freeRun quoted (cs ++ k) = cs := by
  have hslash : ∀ d ∈ k.head?, d ≠ '/' := by
    rintro d hd rfl
    exact absurd (hk '/' hd) (by decide)
  obtain ⟨quoted', h⟩ := exists_freeRun_append hl hc hslash
  rw [h, freeRun_of_lineEnd hk, List.append_nil]

theorem commentFree_append {quoted : Bool} {xs ys : List Char} (h : commentFree quoted (xs ++ ys)) :
    commentFree quoted xs := by
  induction xs generalizing quoted with
  | nil => rfl
  | cons c xs ih =>
    rw [List.cons_append, commentFree, Bool.and_eq_true_iff] at h
    obtain ⟨h₁, h₂⟩ := h
    rw [commentFree, Bool.and_eq_true_iff]
    refine ⟨?_, ih h₂⟩
    cases xs with
    | nil => simp
    | cons d xs => exact h₁

theorem commentFree_plain {quoted : Bool} {xs ys : List Char} (hx : ∀ c ∈ xs, Plain c) :
    commentFree quoted (xs ++ ys) = commentFree quoted ys := by
  induction xs with
  | nil => rfl
  | cons c xs ih =>
    obtain ⟨-, hs, hq⟩ := hx c (by simp)
    rw [List.cons_append, commentFree, if_neg hq, ih fun d hd => hx d (by simp [hd])]
    simp [hs]

/-- The blanks around a text do not matter for whether it is free. -/
theorem IsFree.trim {cs : List Char} (h : IsFree cs) : IsFree (trim cs) := by
  obtain ⟨hl, hc⟩ := h
  obtain ⟨front, back, hcs, hf, -⟩ := trim_infix cs
  refine ⟨fun c hc => hl c (mem_of_mem_trim hc), ?_⟩
  have hplain : ∀ c ∈ front, Plain c := by
    intro c hc
    refine ⟨hl c (by rw [hcs]; simp [hc]), ?_, ?_⟩ <;>
      (rintro rfl; exact absurd (hf _ hc) (by decide))
  rw [hcs, commentFree_plain hplain] at hc
  exact commentFree_append hc

end SeedHeader
