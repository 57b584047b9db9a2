import SeedHeader.Proofs.Meanings
import SeedHeader.Proofs.Nodes
import SeedHeader.Proofs.Composition
import SeedHeader.Proofs.Acceptance

/-!
# Proofs — Every document that is read is well formed

What a statement yields is said by its tokens, so it is well formed; and so is documentation.
Reading adds nothing else (`wellFormed_of_mem`), so every document is well formed, and its nodes
hold what their kinds ask for (`wellFormed_of_parse`).
-/

namespace SeedHeader

open Lexeme Rule Grammar

/-! ### What is read -/

theorem wellFormed_statement {skip : Bool} {c c' : Cursor} {x : Located Content}
    (hc : Lexed c.ahead) (h : statement skip c = .ok x c') : x.val.WellFormed := by
  obtain ⟨w, hw, hp⟩ := (statement_reads skip).ok hc h
  exact (x.val.wellFormed_relocate forget).mp (Phrase.Yields.statement skip (hw.ahead ▸ hc) hp)

/-- What a comment says is trimmed, and on the line of the comment. -/
theorem isRemark_commentText {l : Lexeme} (hl : l.Shaped) {k : CommentKind}
    (hk : l.commentKind = some k) : IsRemark (String.ofList (commentText k l)) := by
  have htype : l.type = .comment := by
    unfold commentKind at hk
    split at hk
    · assumption
    · cases hk
  rw [IsRemark, String.toList_ofList]
  refine ⟨Text.trim_trim _, fun c hc => ?_⟩
  exact hl.not_lineEnd (by simp [htype]) c (List.mem_of_mem_drop (Text.mem_of_mem_trim hc))

theorem wellFormed_remark {skip : Bool} {pos : Nat} {l : Lexeme} (hl : l.Shaped) :
    ∀ x ∈ (remark skip pos l).1, x.val.WellFormed := by
  intro x hx
  obtain ⟨hk, rfl⟩ | ⟨hk, rfl⟩ := mem_remark_iff.mp hx <;> exact isRemark_commentText hl hk

theorem Reading.wellFormed_of_mem {skip : Bool} {c : Cursor} (hc : Lexed c.ahead) :
    ∀ x ∈ (ofCursorFrom skip c).contents, x.val.WellFormed :=
  contents_forall (P := fun c => Lexed c.ahead) (fun hc hw => hw.lexed hc)
    (fun hc _ => wellFormed_remark (hc.shaped List.mem_cons_self)) wellFormed_statement skip hc

/-- **Every parsed document is well formed.**  Numbers, names and texts keep to their ranges and
forms; and in the nodes of the document no field is left open, and each holds an atom of its own
type or a member of its own enumeration. -/
theorem wellFormed_of_parse {text : List Char} {contents : List (Located Content)}
    (h : parse text = .ok contents) :
    (∀ c ∈ contents, c.val.WellFormed) ∧ ∀ d ∈ documentNodes contents, d.IsContent := by
  obtain ⟨-, rfl⟩ := parse_eq_ok.mp h
  have hall : ∀ c ∈ (Reading.ofText text).contents, c.val.WellFormed :=
    Reading.wellFormed_of_mem (lexed_lexemes text)
  refine ⟨hall, fun d hd => ?_⟩
  obtain ⟨c, hc, rfl⟩ := List.mem_map.mp hd
  exact isContent_contentNode (hall c hc)

/-- A message may hold slashes between quotes, and ends before the comment. -/
theorem wellFormed_of_parse_message :
    ∃ x : Located Content, x.val = .pickup ⟨⟨⟨0, 13⟩, ⟨⟨0, 3⟩, ⟨3, 0⟩⟩, some ⟨⟨4, 13⟩, .parameter "x"⟩⟩,
        ⟨⟨14, 25⟩, .message "a \"// b\""⟩, false, false⟩ ∧
      parse "3|0=$Param(x)|6|a \"// b\" // c".toList = .ok [x] ∧
      x.val.WellFormed ∧ (contentNode x).IsContent := by
  refine ⟨⟨⟨0, 25⟩, _⟩, rfl, ?_⟩
  have h : parse "3|0=$Param(x)|6|a \"// b\" // c".toList =
      .ok [⟨⟨0, 25⟩, .pickup ⟨⟨⟨0, 13⟩, ⟨⟨0, 3⟩, ⟨3, 0⟩⟩, some ⟨⟨4, 13⟩, .parameter "x"⟩⟩,
        ⟨⟨14, 25⟩, .message "a \"// b\""⟩, false, false⟩⟩] := by
    rw [parse, Reading.ofText, Reading.ofCursor, Reading.ofCursorFrom_of_none (by rfl)]
    rfl
  have hall := wellFormed_of_parse h
  exact ⟨h, hall.1 _ (by simp), hall.2 _ (by simp [documentNodes])⟩

end SeedHeader
