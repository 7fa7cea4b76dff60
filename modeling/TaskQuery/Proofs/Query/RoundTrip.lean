import TaskQuery.Proofs.Query.Derivation
import TaskQuery.Proofs.Query.LeafText
import TaskQuery.Proofs.Query.Rows

/-!
# Writing a query and reading it back

A normal query is read back from its written form, whatever spelling is chosen.

* `WrittenAs`: wherever a text stands, its tokens have a property.
* `isReadBack_written`: the tokens of a written query are read as the query, as an operand, as a row
  without `OR` or as an expression.
* `parse_written`: so the whole text is parsed as the query, positions apart.
-/

namespace TaskQuery

open Text Lexer

namespace Query

variable {q : Query}

/-- Wherever it stands, the text has tokens of which `P` holds. -/
def WrittenAs (w : List Char) (P : List Token → Prop) : Prop :=
  ∀ position, ∃ ts, Scans position w ts ∧ P ts

/-- What is written is read as anything that follows from what it is read as. -/
theorem WrittenAs.mono {w : List Char} {P P' : List Token → Prop} (h : WrittenAs w P)
    (hP : ∀ ts, P ts → P' ts) : WrittenAs w P' := by
  intro position
  obtain ⟨ts, hscans, hts⟩ := h position
  exact ⟨ts, hscans, hP ts hts⟩

/-- What is written behind something that ends there is read behind it. -/
theorem WrittenAs.append {w v : List Char} {P P' P'' : List Token → Prop} (hw : WrittenAs w P)
    (hv : WrittenAs v P') (hends : Ends v) (hP : ∀ ts us, P ts → P' us → P'' (ts ++ us)) :
    WrittenAs (w ++ v) P'' := by
  intro position
  obtain ⟨ts, hts, hPts⟩ := hw position
  obtain ⟨us, hus, hPus⟩ := hv (position + w.length)
  exact ⟨ts ++ us, hts.append hus hends, hP ts us hPts hPus⟩

/-- A blank in front is not read. -/
theorem WrittenAs.blank {w : List Char} {P : List Token → Prop} (h : WrittenAs w P) :
    WrittenAs (' ' :: w) P := by
  intro position
  obtain ⟨ts, hts, hP⟩ := h (position + 1)
  exact ⟨ts, hts.blank, hP⟩

/-- An expression in parentheses is read as an operand. -/
theorem WrittenAs.parens {w : List Char} (h : WrittenAs w (ReadsExpression · q)) :
    WrittenAs ('(' :: (w ++ [')'])) (ReadsOperand · q) := by
  intro position
  obtain ⟨ts, hts, hread⟩ := h (position + 1)
  exact ⟨_, hts.parens, hread.operand rfl rfl⟩

/-- The words of the language. -/
theorem writtenAs_keyword :
    WrittenAs ['A', 'N', 'D'] (fun ts => ∃ t, ts = [t] ∧ t.kind = .and) ∧
      WrittenAs ['O', 'R'] (fun ts => ∃ t, ts = [t] ∧ t.kind = .or) ∧
      WrittenAs ['N', 'O', 'T'] (fun ts => ∃ t, ts = [t] ∧ t.kind = .not) := by
  refine ⟨fun position => ?_, fun position => ?_, fun position => ?_⟩
  · exact ⟨_, scans_word (List.all_eq_true.1 rfl) (by simp [opensWord]) (by decide),
      _, rfl, rfl⟩
  · exact ⟨_, scans_word (List.all_eq_true.1 rfl) (by simp [opensWord]) (by decide),
      _, rfl, rfl⟩
  · exact ⟨_, scans_word (List.all_eq_true.1 rfl) (by simp [opensWord]) (by decide),
      _, rfl, rfl⟩

/-- Written conjuncts end where they do. -/
theorem ends_conjunctsWritten (spelling : Spelling) (path : List Nat) (i : Nat) (qs : List Query) :
    Ends (conjunctsWritten spelling path i qs) := by
  cases qs with
  | nil => exact ends_nil
  | cons q qs =>
    rw [conjunctsWritten]
    split
    · exact ends_cons (by decide) _
    · exact ends_cons (by decide) _

/-- Written disjuncts end where they do. -/
theorem ends_disjunctsWritten (spelling : Spelling) (path : List Nat) (i : Nat) (qs : List Query) :
    Ends (disjunctsWritten spelling path i qs) := by
  cases qs with
  | nil => exact ends_nil
  | cons q qs => exact ends_cons (by decide) _

/-- What a written query is read as: a row unless it is a disjunction, an expression in any case,
and an operand once it is in parentheses where it needs them. -/
structure IsReadBack (w : List Char) (q : Query) : Prop where
  /-- A query that is no disjunction is a row. -/
  row : q.isOr = false → WrittenAs w (ReadsRow · q)
  /-- Every query is an expression. -/
  expression : WrittenAs w (ReadsExpression · q)
  /-- Every query is an operand, in parentheses or not. -/
  operand : WrittenAs (inParens (q.isAnd || q.isOr) w) (ReadsOperand · q)

/-- An operand on its own is a row and an expression. -/
theorem isReadBack_of_operand {w : List Char} (hq : (q.isAnd || q.isOr) = false)
    (h : WrittenAs w (ReadsOperand · q)) : IsReadBack w q where
  row _ := h.mono fun _ => ReadsOperand.row
  expression := h.mono fun _ h => h.row.expression
  operand := by rwa [hq]

/-- In parentheses an expression is an operand. -/
theorem isReadBack_of_expression {w : List Char} (hq : (q.isAnd || q.isOr) = true)
    (hrow : q.isOr = false → WrittenAs w (ReadsRow · q)) (h : WrittenAs w (ReadsExpression · q)) :
    IsReadBack w q where
  row := hrow
  expression := h
  operand := by rw [hq]; exact h.parens

/-- An operand of a conjunction is in parentheses when it is a disjunction. -/
theorem IsReadBack.conjunct {w : List Char} (h : IsReadBack w q) (hand : q.isAnd = false) :
    WrittenAs (inParens q.isOr w) (ReadsOperand · q) := by
  have hoperand := h.operand
  rwa [hand, Bool.false_or] at hoperand

mutual

/-- A normal query is read back from its written form. -/
theorem isReadBack_written (spelling : Spelling) (path : List Nat) (q : Query) (h : q.IsNormal) :
    IsReadBack (q.written spelling path) q := by
  match q with
  | .leaf l p =>
    refine isReadBack_of_operand rfl fun position => ?_
    obtain ⟨ts, hts, hread⟩ := l.scans_written (by rwa [IsNormal] at h) (spelling path) position
    rw [written]
    exact ⟨ts, hts, _, hread, rfl⟩
  | .not q p =>
    rw [IsNormal] at h
    have hoperand := (isReadBack_written spelling (0 :: path) q h).operand
    refine isReadBack_of_operand rfl ?_
    rw [written]
    refine writtenAs_keyword.2.2.append hoperand.blank (ends_cons (by decide) _) ?_
    rintro _ us ⟨t, rfl, ht⟩ hus
    exact hus.not ht p
  | .and [] p => simp [IsNormal] at h
  | .and (q :: qs) p =>
    rw [IsNormal, AllNormal] at h
    obtain ⟨hlen, hand, hq, hqs⟩ := h
    have hfirst := (isReadBack_written spelling (0 :: path) q hq).conjunct (hand q List.mem_cons_self)
    have hrest := conjunctsWritten_reads spelling path 1 qs hqs
      fun q' hq' => hand q' (List.mem_cons_of_mem q hq')
    have hne : qs ≠ [] := by
      rintro rfl
      simp at hlen
    have hrow : WrittenAs (written spelling path (.and (q :: qs) p)) (ReadsRow · (.and (q :: qs) p)) := by
      rw [written]
      exact hfirst.append hrest (ends_conjunctsWritten spelling path 1 qs)
        fun ts us hts hus => hts.rowAnd hus hne hand p
    exact isReadBack_of_expression rfl (fun _ => hrow) (hrow.mono fun _ => ReadsRow.expression)
  | .or [] p => simp [IsNormal] at h
  | .or (q :: qs) p =>
    rw [IsNormal, AllNormal] at h
    obtain ⟨hlen, hor, hq, hqs⟩ := h
    have hfirst := (isReadBack_written spelling (0 :: path) q hq).row (hor q List.mem_cons_self)
    have hrest := disjunctsWritten_reads spelling path 1 qs hqs
      fun q' hq' => hor q' (List.mem_cons_of_mem q hq')
    have hne : qs ≠ [] := by
      rintro rfl
      simp at hlen
    refine isReadBack_of_expression rfl (fun h => by simp [isOr] at h) ?_
    rw [written]
    exact hfirst.append hrest (ends_disjunctsWritten spelling path 1 qs)
      fun ts us hts hus => hts.expressionOr hus hne (hor q List.mem_cons_self) p

/-- The operands of a conjunction behind its first one are read back. -/
theorem conjunctsWritten_reads (spelling : Spelling) (path : List Nat) (i : Nat) (qs : List Query)
    (h : AllNormal qs) (hand : ∀ q ∈ qs, q.isAnd = false) :
    WrittenAs (conjunctsWritten spelling path i qs) (ReadsConjuncts · qs) := by
  match qs with
  | [] => exact fun _ => ⟨[], scans_nil, readsConjuncts_nil⟩
  | q :: qs =>
    rw [AllNormal] at h
    obtain ⟨hq, hqs⟩ := List.forall_mem_cons.1 hand
    have hfirst := (isReadBack_written spelling (i :: path) q h.1).conjunct hq
    have hrest := conjunctsWritten_reads spelling path (i + 1) qs h.2 hqs
    have hends := ends_conjunctsWritten spelling path (i + 1) qs
    rw [conjunctsWritten, List.append_assoc]
    split
    · -- the space in front of `AND`, the keyword, the space behind it, and the operand
      have hboth : WrittenAs _ fun ts => ∀ t : Token, t.kind = .and →
          ReadsConjuncts (t :: ts) (q :: qs) :=
        hfirst.append hrest hends fun _ _ hts hus _ ht => ReadsConjuncts.and hts hus ht
      refine (writtenAs_keyword.1.append hboth.blank (ends_cons (by decide) _) ?_).blank
      rintro _ us ⟨t, rfl, ht⟩ hus
      exact hus t ht
    · exact (hfirst.append hrest hends fun _ _ => ReadsConjuncts.beside).blank

/-- The operands of a disjunction behind its first one are read back. -/
theorem disjunctsWritten_reads (spelling : Spelling) (path : List Nat) (i : Nat) (qs : List Query)
    (h : AllNormal qs) (hor : ∀ q ∈ qs, q.isOr = false) :
    WrittenAs (disjunctsWritten spelling path i qs) (ReadsDisjuncts · qs) := by
  match qs with
  | [] => exact fun _ => ⟨[], scans_nil, readsDisjuncts_nil⟩
  | q :: qs =>
    rw [AllNormal] at h
    obtain ⟨hq, hqs⟩ := List.forall_mem_cons.1 hor
    have hfirst := (isReadBack_written spelling (i :: path) q h.1).row hq
    have hrest := disjunctsWritten_reads spelling path (i + 1) qs h.2 hqs
    have hends := ends_disjunctsWritten spelling path (i + 1) qs
    have hboth : WrittenAs _ fun ts => ∀ t : Token, t.kind = .or →
        ReadsDisjuncts (t :: ts) (q :: qs) :=
      hfirst.append hrest hends fun _ _ hts hus _ ht => ReadsDisjuncts.or hts hus ht hq
    rw [disjunctsWritten, List.append_assoc]
    refine (writtenAs_keyword.2.1.append hboth.blank (ends_cons (by decide) _) ?_).blank
    rintro _ us ⟨t, rfl, ht⟩ hus
    exact hus t ht

end

/-- A leaf is read back as it stands when it is the whole text. -/
theorem parse_leaf_written {l : Leaf} (h : l.IsNormal) (choice : Choice) :
    parse (String.ofList (l.written choice)) = .ok (.leaf l 0) := by
  obtain ⟨ts, hts, hread⟩ := Leaf.scans_written h choice 0
  have hrow := Expression.Reads.row hread .nil
  rw [List.append_nil, ← hts.scan_eq] at hrow
  exact parse_eq_ok_iff.2 ⟨.row (.test l 0) .nil, hrow, rfl⟩

/-- Two words of small letters with a colon between them are a field and its value. -/
theorem parse_field_letters {name value : String}
    (hname : name ≠ "" ∧ ∀ c ∈ name.toList, c.isLower = true)
    (hvalue : value ≠ "" ∧ ∀ c ∈ value.toList, c.isLower = true) :
    parse (name ++ ":" ++ value) = .ok (.leaf (.field name value false) 0) := by
  have hsmall : ∀ c : Char, c.toNat < 128 → c.isLower = true →
      isBlank c = false ∧ c ∉ ['(', ')', '"'] := forall_ascii (by decide)
  have hnormal : Leaf.IsNormal (.field name value false) := by
    refine ⟨hname.1, hname.2, ⟨hvalue.1, fun c hc => ?_⟩, fun _ hdots => ?_⟩
    · have hletter := hvalue.2 c hc
      exact hsmall c (Leaf.isAsciiLetter_of_isLower hletter).2.1 hletter
    · exact absurd (hvalue.2 '.' (hdots.subset List.mem_cons_self)) (by decide)
  have hwritten : (name ++ ":" ++ value).toList =
      Leaf.written ⟨true, true, true⟩ (.field name value false) := by
    rw [String.toList_append, String.toList_append, List.append_assoc]
    rfl
  rw [← String.ofList_toList (s := name ++ ":" ++ value), hwritten]
  exact parse_leaf_written hnormal _

/-- **A normal query is read back from its written form**, in every spelling and up to positions. -/
theorem parse_written {n : Query} (h : n.IsNormal) (spelling : Spelling) :
    ∃ q, parse (String.ofList (n.written spelling [])) = .ok q ∧ q.bare = n.bare := by
  obtain ⟨ts, hts, e, he, hq⟩ := (isReadBack_written spelling [] n h).expression 0
  rw [← hts.scan_eq] at he
  exact ⟨e.query, parse_eq_ok_iff.2 ⟨e, he, rfl⟩, hq⟩

/-- `fix AND NOT ("a \"b\"" OR tag:x)` is read back as the query that it writes. -/
theorem parse_written_nested :
    let n : Query := .and [.leaf (.term "fix") 0, .not (.or [.leaf (.phrase "a \"b\"") 0,
      .leaf (.field "tag" "x" false) 0] 0) 0] 0
    let spelling : Spelling := fun _ => ⟨true, false, true⟩
    n.IsNormal ∧
      String.ofList (n.written spelling []) = "fix AND NOT (\"a \\\"b\\\"\" OR tag:x)" ∧
      ∃ q, parse (String.ofList (n.written spelling [])) = .ok q ∧ q.bare = n.bare := by
  intro n spelling
  have hterm : Leaf.IsNormal (.term "fix") := ⟨by decide, by simp [isBlank], by decide⟩
  have hphrase : Leaf.IsNormal (.phrase "a \"b\"") := by
    rw [Leaf.IsNormal]
    decide
  have hfield : Leaf.IsNormal (.field "tag" "x" false) :=
    ⟨by decide, List.all_eq_true.1 rfl, ⟨by decide, by simp [isBlank]⟩, fun _ => by decide⟩
  have hn : n.IsNormal := ⟨by decide, by decide, hterm, ⟨by decide, by decide, hphrase, hfield,
    trivial⟩, trivial⟩
  exact ⟨hn, by decide, parse_written hn spelling⟩

end Query

end TaskQuery
