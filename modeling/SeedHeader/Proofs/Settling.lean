import SeedHeader.Grammar.Motion
import SeedHeader.Proofs.Scanning

/-!
# Proofs — What a rule takes settles what it reads

Behind the tokens that a rule has taken, other tokens may stand than did, and the rule still takes
the same and yields the same (`Rule.Settles`).  They may start with the same token as before, since
no rule looks further ahead than that; or they may be such that no rule goes on with them.  What is
needed for that is a parameter: what the grammar reads may go on up to a newline or a comment
(`Ends`).

Rules have this by how they are built (`Built.settles`).  A rule that takes a token at least may
choose by what that token is (`Settled.of_eq`).
-/

namespace SeedHeader

/-- No statement goes on with these lexemes: they start with a newline or a comment, or there are
none. -/
def Ends (rest : List Lexeme) : Prop := ∀ l ∈ rest.head?, Grammar.isTextual l.type = false

theorem ends_nil : Ends [] := by simp [Ends]

namespace Cursor

variable {q : TokenType → Bool} {rest : List Lexeme} (c : Cursor)

theorem stops_skipWhile (q : TokenType → Bool) :
    ∀ l ∈ (c.skipWhile q).ahead.head?, q l.type = false :=
  stop_dropWhile (fun l : Lexeme => q l.type) c.ahead

theorem passed_cut (hstop : ∀ l ∈ rest.head?, q l.type = false) :
    Cursor.passed q ⟨c.pos, (c.ahead.takeWhile fun l => q l.type) ++ rest⟩ = c.passed q := by
  have htaken := List.all_eq_true.mp (List.all_takeWhile (p := fun l => q l.type) (l := c.ahead))
  rw [passed, takeWhile_append_of_head htaken hstop, passed]

theorem skipWhile_cut (hstop : ∀ l ∈ rest.head?, q l.type = false) :
    Cursor.skipWhile q ⟨c.pos, (c.ahead.takeWhile fun l => q l.type) ++ rest⟩ =
      ⟨(c.skipWhile q).pos, rest⟩ := by
  have htaken := List.all_eq_true.mp (List.all_takeWhile (p := fun l => q l.type) (l := c.ahead))
  rw [skipWhile, passed_cut c hstop, dropWhile_append_of_head htaken hstop, skipWhile]

end Cursor

namespace Rule

variable {α β : Type} {p : List Lexeme → Prop}

/-! ### Settled rules -/

/-- From `c` the rule takes certain tokens, and still does so and still yields `a` if behind them
stands whatever starts with the same token as before or satisfies `p`. -/
def Settled (p : List Lexeme → Prop) (r : Rule α) (c : Cursor) (a : α) (c' : Cursor) : Prop :=
  ∃ w, c.Passes w c' ∧
    ∀ rest, rest.head? = c'.ahead.head? ∨ p rest → r ⟨c.pos, w ++ rest⟩ = .ok a ⟨c'.pos, rest⟩

/-- What the rule reads is settled by the tokens it takes. -/
def Settles (p : List Lexeme → Prop) (r : Rule α) : Prop :=
  ∀ ⦃c a c'⦄, r c = .ok a c' → Settled p r c a c'

namespace Settles

theorem pure (a : α) : Settles p (pure a : Rule α) := by
  intro c b c' h
  cases h
  exact ⟨[], .refl c, fun _ _ => rfl⟩

theorem fail (cause : Cause) : Settles p (fail cause : Rule α) := by
  intro c a c' h
  cases h

theorem failAt (span : Span) (cause : Cause) : Settles p (failAt span cause : Rule α) := by
  intro c a c' h
  cases h

theorem accept {t : TokenType} (he : t ≠ .eof) (cause : Cause) :
    Settles p (accept t cause) := by
  intro c a c' h
  rw [accept_apply] at h
  split at h
  · next ht =>
    cases h
    refine ⟨_, Cursor.passes_next (ht ▸ he), fun rest _ => ?_⟩
    exact (accept_apply _ _ _).trans (if_pos ht)
  · cases h

theorem bind {r : Rule α} {f : α → Rule β} (hr : Settles p r) (hf : ∀ a, Settles p (f a)) :
    Settles p (r >>= f) := by
  intro c b c' h
  obtain ⟨a, c₁, h₁, h₂⟩ := bind_ok h
  obtain ⟨w, hw, hsettled⟩ := hr h₁
  obtain ⟨v, hv, hsettled'⟩ := hf a h₂
  refine ⟨w ++ v, hw.trans hv, fun rest hrest => ?_⟩
  have hnext : (v ++ rest).head? = c₁.ahead.head? ∨ p (v ++ rest) := by
    rw [hv.ahead]
    cases v with
    | nil => exact hrest
    | cons l v => exact .inl rfl
  rw [List.append_assoc, bind_of_ok (hsettled _ hnext)]
  exact hsettled' rest hrest

theorem located {r : Rule α} (hr : Settles p r) : Settles p (located r) := by
  intro c x c' h
  obtain ⟨h₁, hspan⟩ := located_ok h
  obtain ⟨w, hw, hsettled⟩ := hr h₁
  refine ⟨w, hw, fun rest hrest => ?_⟩
  obtain ⟨span, a⟩ := x
  obtain rfl : span = ⟨c.pos, c'.pos⟩ := hspan
  rw [located_apply, hsettled rest hrest]

/-- Tokens are passed over up to the first one that is not to be passed. -/
theorem skipWhile {q : TokenType → Bool}
    (hp : ∀ rest, p rest → ∀ l ∈ rest.head?, q l.type = false) : Settles p (skipWhile q) := by
  intro c cs c' h
  cases h
  refine ⟨_, Cursor.passes_skipWhile q c, fun rest hrest => ?_⟩
  have hstop : ∀ l ∈ rest.head?, q l.type = false := by
    rcases hrest with hsame | hrest
    · exact hsame ▸ Cursor.stops_skipWhile c q
    · exact hp rest hrest
  rw [skipWhile_apply, Cursor.passed_cut c hstop, Cursor.skipWhile_cut c hstop]

end Settles

/-- Where the first token decides which rule it is, and is taken, that is settled as well. -/
theorem Settled.of_eq {r r' : Rule α} {c c' : Cursor} {a : α} (h : Settled p r' c a c')
    (htoken : ∃ l w, c.Passes (l :: w) c')
    (heq : ∀ d : Cursor, d.pos = c.pos → d.lexeme = c.lexeme → r d = r' d) :
    Settled p r c a c' := by
  obtain ⟨w, hw, hsettled⟩ := h
  obtain ⟨l, v, hv⟩ := htoken
  obtain rfl : w = l :: v := List.append_cancel_right (hw.ahead.symm.trans hv.ahead)
  refine ⟨l :: v, hw, fun rest hrest => ?_⟩
  rw [heq ⟨c.pos, l :: v ++ rest⟩ rfl (by simp [Cursor.lexeme, hw.ahead])]
  exact hsettled rest hrest

theorem Judged.settles {P : Cause → Lexeme → Prop} {t : TokenType}
    {token : Located (List Char)} {r : Rule α} (h : Judged P t token r) : Settles p r := by
  rcases h with ⟨a, rfl⟩ | ⟨cause, -, rfl⟩
  · exact .pure a
  · exact .failAt _ _

theorem Settles.freeText (hp : ∀ rest, p rest → Ends rest) (what : Suggestion) :
    Settles p (Grammar.freeText what) := by
  intro c s c' h
  obtain ⟨w, hw, hsettled⟩ := Settles.skipWhile hp (skipWhile_apply c Grammar.isTextual)
  rw [Grammar.freeText_apply] at h
  split at h
  · cases h
  · next hne =>
    cases h
    refine ⟨w, hw, fun rest hrest => ?_⟩
    have h := hsettled rest hrest
    rw [skipWhile_apply] at h
    obtain ⟨hpassed, hskip⟩ := EStateM.Result.ok.inj h
    rw [Grammar.freeText_apply, hpassed, hskip, if_neg hne]

/-! ### Built rules -/

namespace Built

variable {T : TokenType → Bool} {P : Cause → Lexeme → Prop} {r : Rule α}

/-- Tokens are taken from the front, and at least one where the rule is firm. -/
theorem passes {firm : Bool} (h : Built T P firm r) {c c' : Cursor} {a : α}
    (hr : r c = .ok a c') : ∃ w, c.Passes w c' ∧ (firm → w ≠ []) := by
  induction h generalizing c c' with
  | pure _ =>
    cases hr
    exact ⟨[], .refl c, nofun⟩
  | fail _ => cases hr
  | judged _ he _ hf =>
    rw [accept_bind] at hr
    split at hr
    · next ht =>
      rcases hf ⟨c.span, c.lexeme.text⟩ with ⟨b, hb⟩ | ⟨cause, -, hcause⟩
      · rw [hb] at hr
        cases hr
        exact ⟨_, Cursor.passes_next (ht ▸ he), fun _ => List.cons_ne_nil _ _⟩
      · rw [hcause] at hr
        cases hr
    · cases hr
  | skipWhile _ =>
    cases hr
    exact ⟨_, Cursor.passes_skipWhile _ c, nofun⟩
  | freeText _ _ _ =>
    rw [Grammar.freeText_apply] at hr
    split at hr
    · cases hr
    · cases hr
      exact ⟨_, Cursor.passes_skipWhile _ c, nofun⟩
  | located _ ih => exact ih (located_ok hr).1
  | bind _ _ ihr ihf =>
    obtain ⟨b, c₁, h₁, h₂⟩ := bind_ok hr
    obtain ⟨w, hw, hne⟩ := ihr h₁
    obtain ⟨v, hv, -⟩ := ihf b h₂
    exact ⟨w ++ v, hw.trans hv, fun hfirm => List.append_ne_nil_of_left_ne_nil (hne hfirm) v⟩
  | choice s _ heq ih =>
    rw [heq c c rfl rfl] at hr
    obtain ⟨w, hw, hne⟩ := ih c hr
    exact ⟨w, hw, fun _ => hne rfl⟩
  | @optional _ r q _ _ s _ heq _ habsent ih =>
    by_cases hc : q c.type
    · rw [heq c hc] at hr
      obtain ⟨w, hw, -⟩ := ih _ hc hr
      exact ⟨w, hw, nofun⟩
    · rw [habsent c hc] at hr
      cases hr
      exact ⟨[], .refl c, nofun⟩

/-- A firm rule takes a token. -/
theorem token (h : Built T P true r) {c c' : Cursor} {a : α} (hr : r c = .ok a c') :
    ∃ l w, c.Passes (l :: w) c' := by
  obtain ⟨w, hw, hne⟩ := h.passes hr
  obtain ⟨l, v, rfl⟩ := List.exists_cons_of_ne_nil (hne rfl)
  exact ⟨l, v, hw⟩

/-- **What a rule reads is settled by the tokens it takes**, if what may stand behind them starts
with none that the rule could take. -/
theorem settles (h : Built T P false r)
    (hp : ∀ rest, p rest → ∀ l ∈ rest.head?, T l.type = false) : Settles p r := by
  have hstop {q : TokenType → Prop} (hq : ∀ t, q t → T t) {rest : List Lexeme} (hrest : p rest)
      {l : Lexeme} (hl : l ∈ rest.head?) : ¬ q l.type :=
    fun htaken => Bool.eq_false_iff.mp (hp rest hrest l hl) (hq l.type htaken)
  generalize false = firm at h
  induction h with
  | pure a => exact .pure a
  | fail _ => exact .fail _
  | judged _ he _ hf => exact .bind (.accept he _) fun token => (hf token).settles
  | skipWhile hT =>
    exact .skipWhile fun _ hrest _ hl => Bool.eq_false_iff.mpr (hstop hT hrest hl)
  | freeText hT _ _ =>
    exact .freeText (fun _ hrest _ hl => Bool.eq_false_iff.mpr (hstop hT hrest hl)) _
  | located _ ih => exact .located ih
  | bind _ _ ihr ihf => exact .bind ihr ihf
  | choice s hs heq ih =>
    intro c a c' hr
    rw [heq c c rfl rfl] at hr
    exact (ih c hr).of_eq ((hs c).token hr) (heq c)
  | @optional _ r q hq he s hs heq _ habsent ih =>
    intro c a c' hr
    by_cases hc : q c.type
    · rw [heq c hc] at hr
      refine (ih _ hc hr).of_eq ((hs _ hc).token hr) fun d _ hd => ?_
      have htype : d.type = c.type := congrArg Lexeme.type hd
      rw [heq d (htype ▸ hc), htype]
    · -- the token behind does not open what was left out
      rw [habsent c hc] at hr
      cases hr
      refine ⟨[], .refl c, fun rest hrest => habsent _ ?_⟩
      cases rest with
      | nil => exact he
      | cons l ls =>
        rcases hrest with hsame | hrest
        · obtain ⟨ms, hms⟩ : ∃ ms, c.ahead = l :: ms := List.head?_eq_some_iff.mp hsame.symm
          have htype : c.type = l.type := by rw [Cursor.type, Cursor.lexeme, hms, List.headD_cons]
          rwa [htype] at hc
        · exact hstop hq hrest rfl

end Built

end Rule

end SeedHeader
