import SeedHeader.Proofs.Recognition
import SeedHeader.Proofs.Composition
import SeedHeader.Proofs.WrittenForms

/-!
# Proofs — Reading undoes writing

The written form of a well-formed document is read without a fault, and yields the document again,
up to the places of its parts (`parse_written`).  A line is read by itself, and lines are read one
after the other since reading is compositional at line boundaries.
-/

namespace SeedHeader

open Lexeme Rule Grammar

namespace Reading

/-! ### One line -/

/-- A statement with nothing but the last newline behind it uses up the excuse. -/
theorem ofStatement_of_newline {skip : Bool} {c c' : Cursor} {x : Located Content}
    (hr : statement skip c = .ok x c') {cs : List Char} (hc' : c'.ahead = [⟨.newline, cs⟩]) :
    ∃ pos, ofStatement skip c = (⟨[x], [], false⟩, some ⟨pos, []⟩) := by
  have hskip : (c'.skipWhile isTrailing).ahead = [⟨.newline, cs⟩] := by
    rw [Cursor.skipWhile, hc']
    rfl
  have hnl : (c'.skipWhile isTrailing).type = .newline := by
    rw [Cursor.type_eq, hskip]
    rfl
  rw [ofStatement_of_ok hr, if_neg (by simp [hnl]), if_pos hnl, Cursor.next, hskip]
  exact ⟨_, rfl⟩

/-- A statement in its written form is read from its line. -/
theorem ofCursorFrom_statement {skip : Bool} {s : Script} {c : Content}
    (h : s.Writes isLineEnd (Phrase.statement skip) c) {cs : List Char} (hcs : cs ∈ s) :
    ∃ x, ofCursorFrom skip (.ofText (cs ++ ['\n'])) = ⟨[x], [], false⟩ ∧ x.eraseContent = c := by
  obtain ⟨w, hw, hp⟩ := h.cut cs hcs ['\n'] (by simp [Script.Meets, isLineEnd])
  have hlexed : Lexed (w ++ lexemes ['\n']) := hw ▸ lexed_lexemes (cs ++ ['\n'])
  rw [Cursor.ofText, hw]
  obtain ⟨x, c', hr, he, -, hrest⟩ :=
    (statement_reads skip).of_phrase (c := ⟨0, _⟩) hlexed rfl hp
  obtain ⟨hb, hne⟩ := statement_opens hr
  obtain ⟨pos, hread⟩ := ofStatement_of_newline hr hrest
  have hround := (round_of_opening skip hb hne).trans hread
  refine ⟨x, ?_, he⟩
  rw [ofCursorFrom_of_some hround, ofCursorFrom_nil]
  rfl

theorem interlude_newline (skip : Bool) (pos : Nat) :
    interlude skip pos (lexemes ['\n']) = ([], skip, ⟨pos + 1, []⟩) := by
  rw [lexemes_newline, interlude_of_between _ _ rfl]
  rfl

/-- A comment that has a line to itself contributes its remark. -/
theorem ofText_comment {cs : List Char} (h : ∀ c ∈ cs, isLineEnd c = false) :
    ofText ('/' :: ('/' :: cs ++ ['\n'])) =
      ⟨(remark false 0 ⟨.comment, '/' :: '/' :: cs⟩).1.toList, [],
        (remark false 0 ⟨.comment, '/' :: '/' :: cs⟩).2⟩ := by
  have hlex := lexemes_comment h (k := ['\n']) (by simp [isLineEnd])
  have hi := interlude_of_between false 0 (l := ⟨.comment, '/' :: '/' :: cs⟩) rfl (lexemes ['\n'])
  rw [interlude_newline, List.append_nil] at hi
  rw [ofText, ofCursor, Cursor.ofText, hlex]
  exact ofCursorFrom_of_none (round_of_eof hi rfl)

/-- What documentation says is read from behind its marker. -/
theorem commentText_of_remark {s : String} (h : IsRemark s) (kind : CommentKind)
    (marker : List Char) (hm : marker.length = kind.markerLength) :
    String.ofList (commentText kind ⟨.comment, marker ++ ' ' :: s.toList⟩) = s := by
  rw [commentText, ← hm, List.drop_left, Text.trim_cons_of_blank (by decide), h.1,
    String.ofList_toList]

/-- Documentation is read from its line. -/
theorem ofText_documentation {c : Content} (h : c.WellFormed) (hc : Script.IsDocumentation c)
    {cs : List Char} (hcs : cs ∈ Script.content c) :
    ∃ x, ofText (cs ++ ['\n']) = ⟨[x], [], false⟩ ∧ x.eraseContent = c.relocate forget := by
  have hline : ∀ {s : String}, IsRemark s → ∀ marker : List Char,
      (∀ d ∈ marker, isLineEnd d = false) → ∀ d ∈ marker ++ s.toList, isLineEnd d = false := by
    intro s hs marker hm d hd
    exact (List.mem_append.mp hd).elim (hm d) (hs.2 d)
  cases c with
  | outerDocumentation s =>
    obtain ⟨x, rfl, y, rfl, rfl⟩ := Language.mem_mul.mp hcs
    refine ⟨_, ofText_comment (hline h ['/', ' '] (by simp [isLineEnd])), ?_⟩
    exact congrArg Content.outerDocumentation
      (commentText_of_remark h .headerDoc ['/', '/', '/'] rfl)
  | innerDocumentation s =>
    obtain ⟨x, rfl, y, rfl, rfl⟩ := Language.mem_mul.mp hcs
    refine ⟨_, ofText_comment (hline h ['/', '/', ' '] (by simp [isLineEnd])), ?_⟩
    exact congrArg Content.innerDocumentation
      (commentText_of_remark h .configDoc ['/', '/', '/', '/'] rfl)
  | _ => cases hc

theorem ofText_note : ofText "// skip-validate\n".toList = ⟨[], [], true⟩ :=
  ofCursorFrom_of_none (by rfl)

/-- The note excuses what is read next. -/
theorem ofText_note_append {cs : List Char} {x : Located Content}
    (h : ofCursorFrom true (.ofText cs) = ⟨[x], [], false⟩) :
    ofText ("// skip-validate\n".toList ++ cs) = ⟨[x.shiftContent 17], [], false⟩ := by
  have hb : LineBoundary "// skip-validate\n".toList cs := .inr (.inl rfl)
  rw [ofText_append hb, ofText_note, h]
  rfl

/-- A content in its written form is read from its line, and leaves no excuse behind. -/
theorem ofText_line {c : Content} (h : c.WellFormed) {text : List Char}
    (ht : text ∈ Script.line c) :
    ∃ x, ofText text = ⟨[x], [], false⟩ ∧ x.eraseContent = c.relocate forget := by
  unfold Script.line at ht
  by_cases hd : Script.IsDocumentation c
  · have hskip : Script.isExcused c = false := by
      cases c with
      | pickup p => cases hd
      | _ => rfl
    rw [hskip, if_neg (by simp)] at ht
    obtain ⟨cs, hcs, y, rfl, rfl⟩ := Language.mem_mul.mp ht
    exact ofText_documentation h hd hcs
  have hw := Script.writes_statement h hd
  cases hskip : Script.isExcused c with
  | false =>
    rw [hskip, if_neg (by simp)] at ht
    obtain ⟨cs, hcs, y, rfl, rfl⟩ := Language.mem_mul.mp ht
    rw [hskip] at hw
    exact ofCursorFrom_statement hw hcs
  | true =>
    rw [hskip, if_pos rfl] at ht
    obtain ⟨note, rfl, z, hz, rfl⟩ := Language.mem_mul.mp ht
    obtain ⟨cs, hcs, y, rfl, rfl⟩ := Language.mem_mul.mp hz
    rw [hskip] at hw
    obtain ⟨x, hx, he⟩ := ofCursorFrom_statement hw hcs
    exact ⟨_, ofText_note_append hx, (Located.eraseContent_shiftContent 17 x).trans he⟩

/-! ### Whole documents -/

theorem getLast?_of_line {c : Content} {text : List Char} (ht : text ∈ Script.line c) :
    text.getLast? = some '\n' := by
  have hlast : ∀ cs : List Char, (cs ++ "\n".toList).getLast? = some '\n' := fun cs =>
    List.getLast?_concat
  unfold Script.line at ht
  split at ht
  · obtain ⟨note, -, z, hz, rfl⟩ := Language.mem_mul.mp ht
    obtain ⟨cs, -, y, rfl, rfl⟩ := Language.mem_mul.mp hz
    rw [← List.append_assoc]
    exact hlast _
  · obtain ⟨cs, -, y, rfl, rfl⟩ := Language.mem_mul.mp ht
    exact hlast cs

/-- Lines are read one after the other. -/
theorem ofText_document {cs : List Content} (h : ∀ c ∈ cs, c.WellFormed) {text : List Char}
    (ht : text ∈ Script.document cs) :
    ∃ xs, ofText text = ⟨xs, [], false⟩ ∧
      xs.map Located.eraseContent = cs.map (Content.relocate forget) := by
  induction cs generalizing text with
  | nil =>
    obtain rfl : text = [] := ht
    exact ⟨[], ofCursorFrom_nil false 0, rfl⟩
  | cons c cs ih =>
    obtain ⟨a, ha, b, hb, rfl⟩ := Language.mem_mul.mp ht
    obtain ⟨x, hx, he⟩ := ofText_line (h c (by simp)) ha
    obtain ⟨xs, hxs, hes⟩ := ih (fun d hd => h d (by simp [hd])) hb
    have hboundary : LineBoundary a b := .inr (.inl (getLast?_of_line ha))
    refine ⟨x :: xs.map (Located.shiftContent a.length), ?_, ?_⟩
    · rw [ofText_append hboundary, hx]
      change append _ ((ofText b).shift a.length) = _
      rw [hxs]
      rfl
    · rw [List.map_cons, List.map_cons, he, List.map_map, ← hes]
      congr 1
      exact List.map_congr_left fun y _ => Located.eraseContent_shiftContent a.length y

end Reading

namespace Script

/-- A well-formed document has a written form. -/
theorem exists_mem_line {c : Content} (h : c.WellFormed) : ∃ text, text ∈ line c := by
  have hcontent : ∃ cs, cs ∈ content c := by
    by_cases hd : IsDocumentation c
    · cases c with
      | outerDocumentation s | innerDocumentation s =>
        exact ⟨_, Language.append_mem_mul rfl rfl⟩
      | _ => cases hd
    · exact (writes_statement h hd).exists_mem
  obtain ⟨cs, hcs⟩ := hcontent
  have hline : cs ++ "\n".toList ∈ content c * exactly "\n" := Language.append_mem_mul hcs rfl
  unfold line
  split
  · exact ⟨_, Language.append_mem_mul rfl hline⟩
  · exact ⟨_, hline⟩

theorem exists_mem_document {cs : List Content} (h : ∀ c ∈ cs, c.WellFormed) :
    ∃ text, text ∈ document cs := by
  induction cs with
  | nil => exact ⟨[], rfl⟩
  | cons c cs ih =>
    obtain ⟨a, ha⟩ := exists_mem_line (h c (by simp))
    obtain ⟨b, hb⟩ := ih fun d hd => h d (by simp [hd])
    exact ⟨a ++ b, Language.append_mem_mul ha hb⟩

end Script

/-- **Reading undoes writing.**  Every well-formed document has a written form, and each of its
written forms is read without a fault as the same document, up to the places of its parts. -/
theorem parse_written {cs : List Content} (h : ∀ c ∈ cs, c.WellFormed) :
    (∃ text, text ∈ Script.document cs) ∧
      ∀ text ∈ Script.document cs, ∃ xs, parse text = .ok xs ∧
        xs.map Located.eraseContent = cs.map (Content.relocate forget) := by
  refine ⟨Script.exists_mem_document h, fun text ht => ?_⟩
  obtain ⟨xs, hxs, he⟩ := Reading.ofText_document h ht
  exact ⟨xs, parse_eq_ok.mpr (by rw [hxs]; exact ⟨rfl, rfl⟩), he⟩

/-- An excused pickup that does not count as a location, and sets an uber state to a negative
float. -/
theorem parse_written_excused :
    ∃ c : Content,
      c = .pickup ⟨bare ⟨bare ⟨3, 0⟩, none⟩,
        bare (.uberState (bare ⟨1, 2⟩) (.float (bare (.literal (.ofDecimal true ⟨5, -1⟩))))),
        true, true⟩ ∧
      c.WellFormed ∧
      "// skip-validate\n!3|0|8|1|2|float|-0.5\n".toList ∈ Script.document [c] ∧
      ∃ xs, parse "// skip-validate\n!3|0|8|1|2|float|-0.5\n".toList = .ok xs ∧
        xs.map Located.eraseContent = [c] := by
  have hfloat : "-0.5".toList ∈ Script.float (.ofDecimal true ⟨5, -1⟩) :=
    ⟨⟨['-'], ['0'], ['.', '5'], rfl, .inr rfl, by simp,
      .inr ⟨['5'], rfl, by simp⟩⟩, rfl⟩
  have hwell : Content.WellFormed (.pickup ⟨bare ⟨bare ⟨3, 0⟩, none⟩,
      bare (.uberState (bare ⟨1, 2⟩) (.float (bare (.literal (.ofDecimal true ⟨5, -1⟩))))),
      true, true⟩) := by
    have hbits : ∀ n ≤ 3, IsUint32 n := fun n hn => Nat.lt_of_le_of_lt hn (by decide)
    exact ⟨⟨⟨hbits 3 (by decide), hbits 0 (by decide)⟩, by simp⟩,
      ⟨hbits 1 (by decide), hbits 2 (by decide)⟩, _, hfloat⟩
  have hmem : "// skip-validate\n!3|0|8|1|2|float|-0.5\n".toList ∈
      Script.document [.pickup ⟨bare ⟨bare ⟨3, 0⟩, none⟩,
        bare (.uberState (bare ⟨1, 2⟩) (.float (bare (.literal (.ofDecimal true ⟨5, -1⟩))))),
        true, true⟩] := by
    have huber : ∀ g i, Nat.toDigits 10 g ++ '|' :: Nat.toDigits 10 i ∈ Script.uber ⟨g, i⟩ :=
      fun g i => Script.mem_barred rfl rfl
    have hitem : Nat.toDigits 10 8 ++ '|' :: (Nat.toDigits 10 1 ++ '|' :: Nat.toDigits 10 2 ++
        '|' :: ("float".toList ++ '|' :: "-0.5".toList)) ∈
          Script.item (.uberState (bare ⟨1, 2⟩) (.float (bare (.literal (.ofDecimal true ⟨5, -1⟩))))) :=
      Script.mem_barred rfl (Script.mem_barred (huber 1 2) (Script.mem_barred rfl hfloat))
    have hpickup := Script.mem_barred (huber 3 0) hitem
    have hline := Language.append_mem_mul
      (Language.append_mem_mul (Script.mem_exactly "!") hpickup) (Script.mem_exactly "\n")
    exact Language.append_mem_mul
      (Language.append_mem_mul (Script.mem_exactly "// skip-validate\n") hline) Language.nil_mem_one
  exact ⟨_, rfl, hwell, hmem, (parse_written fun c hc => List.mem_singleton.mp hc ▸ hwell).2 _ hmem⟩

end SeedHeader
