import TaskQuery.Command.Check
import TaskQuery.Proofs.Query.Leaves
import TaskQuery.Proofs.Terminal.Markup
import TaskQuery.Proofs.Terminal.Tree
import TaskQuery.Proofs.Token.Gluing
import TaskQuery.Proofs.Token.Units
import TaskQuery.Proofs.Text.SmallLetters

/-!
# What a check ends with

A check ends with status zero or one, as the query can be parsed or not, and it breaks off for one
reason only: the tree is to be shown, and the label of a range holds a tag that its ends make
together.  Then the end of the range closes a bracket that it does not open.

* `isAsciiLetter_of_mem_field`: a field is named by letters, so its name makes no tag.
* `isBalanced_leafLabel`, `isBalanced_treeOf`: labels that can be shown, and trees of them.
* `check_ending`: how every check ends.
-/

namespace TaskQuery

open Text

/-! ## Names of fields -/

namespace Lexer

/-- Every field among some pieces is named by letters. -/
def NamesFields (ps : List Piece) : Prop :=
  ∀ p ∈ ps, p.kind = .field → ∀ c ∈ p.value, isAsciiLetter c = true

/-- No pieces name no fields. -/
theorem namesFields_nil : NamesFields [] := fun _ hp => absurd hp List.not_mem_nil

/-- A piece of another kind names no field. -/
theorem NamesFields.cons {p : Piece} {ps : List Piece} (hp : p.kind ≠ .field)
    (h : NamesFields ps) : NamesFields (p :: ps) :=
  List.forall_mem_cons.2 ⟨fun hk => absurd hk hp, h⟩

/-- The end of a range names no field. -/
theorem namesFields_rangeEnd (s : List Char) : NamesFields (rangeEnd s).1 := by
  unfold rangeEnd
  split
  · exact namesFields_nil
  · exact namesFields_nil.cons nofun
  · split
    · exact namesFields_nil.cons nofun
    · exact namesFields_nil

/-- A range operator and its end name no field. -/
theorem namesFields_rangeTail (s : List Char) : NamesFields (rangeTail s).1 := by
  unfold rangeTail
  split
  · exact (namesFields_rangeEnd _).cons nofun
  · exact namesFields_nil

/-- The value of a field names no field. -/
theorem namesFields_fieldValue (s : List Char) : NamesFields (fieldValue s).1 := by
  unfold fieldValue
  split
  · exact namesFields_nil
  · exact (namesFields_rangeTail _).cons nofun
  · split
    · exact (namesFields_rangeTail _).cons nofun
    · exact namesFields_nil

/-- A word is no field. -/
theorem wordKind_ne_field (w : List Char) : wordKind w ≠ .field := by
  unfold wordKind
  split <;> exact nofun

/-- A field is named by letters, and a word names none. -/
theorem namesFields_fieldOrWord (s : List Char) : NamesFields (fieldOrWord s).1 := by
  unfold fieldOrWord
  split
  · next name rest hname =>
    refine List.forall_mem_cons.2 ⟨fun _ c hc => ?_, namesFields_fieldValue rest⟩
    simp only [fieldName?] at hname
    split at hname
    · obtain ⟨rfl, rfl⟩ := Prod.mk.inj (Option.some.inj hname)
      exact List.mem_takeWhile_imp hc
    · cases hname
  · exact namesFields_nil.cons (wordKind_ne_field _)

/-- The fields of a chunk are named by letters. -/
theorem namesFields_chunk (c : Char) (cs : List Char) : NamesFields (chunk c cs).1 := by
  unfold chunk
  split
  · exact namesFields_nil.cons nofun
  · exact namesFields_nil.cons nofun
  · exact namesFields_nil.cons nofun
  · split
    · next p rest hp =>
      refine namesFields_nil.cons ?_
      rw [kind_of_property? hp]
      exact nofun
    · exact namesFields_fieldOrWord _
  · split
    · exact namesFields_nil.cons nofun
    · exact namesFields_fieldOrWord _
  · exact namesFields_fieldOrWord _

/-- The tokens of pieces are those pieces at some positions. -/
theorem exists_mem_of_mem_place {position : Nat} {ps : List Piece} {t : Token}
    (h : t ∈ Piece.place position ps) : ∃ p ∈ ps, ∃ at', t = p.toToken at' := by
  induction ps generalizing position with
  | nil => exact absurd h List.not_mem_nil
  | cons p ps ih =>
    rcases List.mem_cons.1 h with rfl | h
    · exact ⟨p, List.mem_cons_self, position, rfl⟩
    · obtain ⟨q, hq, hplace⟩ := ih h
      exact ⟨q, List.mem_cons_of_mem p hq, hplace⟩

/-- The fields among the tokens of a text are named by letters. -/
theorem isAsciiLetter_of_mem_tokensFrom {position : Nat} {s : List Char} {t : Token}
    (ht : t ∈ tokensFrom position s) (hk : t.kind = .field) :
    ∀ c ∈ t.value.toList, isAsciiLetter c = true := by
  fun_induction tokensFrom position s with
  | case1 => exact absurd ht List.not_mem_nil
  | case2 position c cs hc ih => exact ih ht
  | case3 position c cs hc ih =>
    rcases List.mem_append.1 ht with ht | ht
    · obtain ⟨p, hp, at', rfl⟩ := exists_mem_of_mem_place ht
      intro d hd
      exact namesFields_chunk c cs p hp hk d (by simpa [Piece.toToken] using hd)
    · exact ih ht

end Lexer

/-- A letter made small is an ASCII character in lower case, no bracket and no backslash. -/
theorem toLower_of_isAsciiLetter {c : Char} (h : isAsciiLetter c = true) :
    (c.toLower.toNat < 128 ∧ c.toLower.toLower = c.toLower) ∧
      c.toLower ≠ '\\' ∧ c.toLower ≠ '[' := by
  have hall := forall_ascii (P := fun c => isAsciiLetter c = true →
    (c.toLower.toNat < 128 ∧ c.toLower.toLower = c.toLower) ∧ c.toLower ≠ '\\' ∧ c.toLower ≠ '[')
    (by decide +kernel) c
  have hcode := Lexer.toNat_of_isAsciiLetter h
  exact hall (by omega) h

/-- Letters in lower case make no tag. -/
theorem makesNoTag_lower {s : List Char} (h : ∀ c ∈ s, isAsciiLetter c = true) :
    Terminal.MakesNoTag (lower s) := by
  have hlower : lower s = small s := by
    rw [← lower_small]
    refine lower_of_isLower fun c hc => ?_
    obtain ⟨d, hd, rfl⟩ := List.mem_map.1 hc
    exact (toLower_of_isAsciiLetter (h d hd)).1
  intro c hc
  rw [hlower] at hc
  obtain ⟨d, hd, rfl⟩ := List.mem_map.1 hc
  exact (toLower_of_isAsciiLetter (h d hd)).2

/-- A leaf whose name makes no tag. -/
def Leaf.HasPlainName : Leaf → Prop
  | .field name _ _ | .range name _ _ _ _ => Terminal.MakesNoTag name.toList
  | .term _ | .phrase _ | .property _ _ => True

/-- A leaf whose ends may make a tag together: a range whose end closes a bracket first. -/
def Leaf.MayCloseTag : Leaf → Prop
  | .range _ _ stop _ _ => Terminal.firstBracket? stop.toList = some ']'
  | _ => False

/-- What is marked among tokens is marked at one of them. -/
theorem Token.exists_mark?_of_mem {taken : Bool} {ts : List Token} {m : Mark}
    (h : m ∈ Token.marksFrom taken ts) :
    ∃ taken' t behind, t ∈ ts ∧ Token.mark? taken' t behind = some m := by
  induction ts generalizing taken with
  | nil => exact absurd h List.not_mem_nil
  | cons t ts ih =>
    rcases List.mem_append.1 h with h | h
    · exact ⟨taken, t, ts, List.mem_cons_self, by simpa using h⟩
    · obtain ⟨taken', u, behind, hu, hm⟩ := ih h
      exact ⟨taken', u, behind, List.mem_cons_of_mem t hu, hm⟩

/-- What a field asks for has a plain name when the field is named by letters. -/
theorem Token.hasPlainName_fieldTest {f : Token}
    (h : ∀ c ∈ f.value.toList, isAsciiLetter c = true) (v : Token) (behind : List Token) :
    (f.fieldTest v behind).HasPlainName := by
  have hname : Terminal.MakesNoTag (lowerString f.value).toList := by
    rw [lowerString, String.toList_ofList]
    exact makesNoTag_lower h
  unfold Token.fieldTest
  split
  · split
    · exact hname
    · exact hname
  · exact hname

/-- The leaves of a query that is parsed have plain names. -/
theorem hasPlainName_of_parse {text : String} {q : Query} (h : Query.parse text = .ok q)
    {leaf : Leaf × Nat} (hl : leaf ∈ q.leaves) : leaf.1.HasPlainName := by
  rw [(Query.leaves_of_parse h).1] at hl
  obtain ⟨m, hm, htest⟩ := List.mem_filterMap.1 hl
  obtain ⟨taken, t, behind, ht, hmark⟩ := Token.exists_mark?_of_mem hm
  unfold Token.mark? at hmark
  split at hmark
  case h_4 hk =>
    obtain ⟨v, -, rfl⟩ := Option.map_eq_some_iff.1 hmark
    obtain rfl := Option.some.inj htest
    exact Token.hasPlainName_fieldTest (Lexer.isAsciiLetter_of_mem_tokensFrom ht hk) v _
  case h_6 => cases hmark
  case h_5 =>
    obtain rfl := Option.some.inj hmark
    cases htest
  case h_3 =>
    obtain rfl := Option.some.inj hmark
    obtain rfl := Option.some.inj htest
    trivial
  all_goals
    split at hmark
    · cases hmark
    · obtain rfl := Option.some.inj hmark
      obtain rfl := Option.some.inj htest
      trivial

namespace Command

open Terminal

/-! ## Labels -/

/-- A name in a label can be shown in front of what can be shown. -/
theorem closesOpened_labelName {name : String} (hname : MakesNoTag name.toList)
    {opened : List (List Char)} {t : List Char}
    (ht : closesOpened opened (Terminal.pieces t) = true) :
    closesOpened opened (Terminal.pieces (labelName name ++ t)) = true := by
  have hstyle : IsStyleName "token.type".toList := by decide
  rw [labelName, List.append_assoc, List.append_assoc, pieces_bracketed hstyle.1,
    closesOpened_opening (by decide) hstyle.2, closesOpened_makesNoTag hname]
  have hclose : Terminal.pieces (Terminal.bracketed "/token.type".toList ++ t) =
      .tag 0 ('/' :: "token.type".toList) :: Terminal.pieces t :=
    pieces_bracketed (isTagName_slash hstyle.1) t
  rw [hclose]
  exact closesOpened_closing_last ht 0

/-- The mark behind an exact value can be shown. -/
theorem closesOpened_exactMark (exact : Bool) :
    closesOpened [] (Terminal.pieces (exactMark exact)) = true := by
  cases exact with
  | false =>
    rw [exactMark, if_neg nofun, pieces_nil]
    rfl
  | true =>
    have hspace := closesOpened_makesNoTag (s := [' ']) (by decide) []
      (styled "dim" "(exact)".toList)
    exact hspace.trans (isBalanced_styled (by decide) _)

/-- The mark behind an exact value holds no end of a tag. -/
theorem exactMark_spec (exact : Bool) :
    leadingTag? (exactMark exact) = none ∧ firstBracket? (exactMark exact) ≠ some ']' := by
  cases exact with
  | false => exact ⟨rfl, nofun⟩
  | true =>
    have hfirst : firstBracket? (exactMark true) = some '[' := by
      rw [exactMark, if_pos rfl, firstBracket?_cons (by decide)]
      rfl
    refine ⟨leadingTag?_other (by decide) (by decide) _, ?_⟩
    rw [hfirst]
    decide

/-- A label of a name and an escaped text can be shown. -/
theorem isBalanced_label (name : String) (hname : MakesNoTag name.toList)
    (joint : List Char) (hjoint : MakesNoTag joint) (value : List Char)
    (exact : Bool) :
    isBalanced (labelName name ++ (joint ++ (escape value ++ exactMark exact))) = true := by
  obtain ⟨htag, hbracket⟩ := exactMark_spec exact
  refine closesOpened_labelName hname ?_
  rw [closesOpened_makesNoTag hjoint, closesOpened_escape_append [] value htag hbracket]
  exact closesOpened_exactMark exact

/-- The first bracket of escaped text is that of the text. -/
theorem firstBracket?_escape (s : List Char) : firstBracket? (escape s) = firstBracket? s := by
  rcases escape_eq s with h | h
  · rw [h, firstBracket?_escapedTags]
  · rw [h, firstBracket?_append, firstBracket?_escapedTags]
    cases firstBracket? s <;> rfl

/-- **The label of a leaf can be shown**, unless it is a range whose end closes a bracket first. -/
theorem isBalanced_leafLabel {l : Leaf} (hname : l.HasPlainName) (hl : ¬l.MayCloseTag) :
    isBalanced (leafLabel l) = true := by
  cases l with
  | term value =>
    have h := isBalanced_label "term" (by decide) [' '] (by decide) (quotedText value.toList) false
    simpa [leafLabel, exactMark] using h
  | phrase value =>
    have h := isBalanced_label "phrase" (by decide) [' '] (by decide)
      (quotedText value.toList) false
    simpa [leafLabel, exactMark] using h
  | field name value exact =>
    have h := isBalanced_label name hname [':', ' '] (by decide) value.toList exact
    simpa [leafLabel] using h
  | property text exact =>
    have h := isBalanced_label "property" (by decide) [' '] (by decide)
      (Terminal.bracketed text.toList) exact
    simpa [leafLabel] using h
  | range name start stop startExact stopExact =>
    have hstop : firstBracket? (" .. ".toList ++ escape stop.toList) ≠ some ']' := by
      rw [firstBracket?_append, firstBracket?_escape]
      exact hl
    have htag : leadingTag? (" .. ".toList ++ escape stop.toList) = none :=
      leadingTag?_other (by decide) (by decide) _
    have hrest : closesOpened [] (Terminal.pieces ([':', ' '] ++
        (escape start.toList ++ (" .. ".toList ++ escape stop.toList)))) = true := by
      rw [closesOpened_makesNoTag (by decide), closesOpened_escape_append [] _ htag hstop,
        closesOpened_makesNoTag (by decide)]
      exact isBalanced_escape stop.toList
    have h : isBalanced _ = true := closesOpened_labelName hname hrest
    simpa [leafLabel] using h

/-! ## Trees -/

/-- A leaf of an operand is one of the node. -/
theorem mem_leaves_node (j : Junction) {qs : List Query} {q : Query} {p : Nat} {leaf : Leaf × Nat}
    (hq : q ∈ qs) (hl : leaf ∈ q.leaves) : leaf ∈ (j.node qs p).leaves := by
  obtain ⟨m, hm, htest⟩ := List.mem_filterMap.1 hl
  have hmarks : (j.node qs p).marks = qs.flatMap Query.marks := by
    cases j with
    | all => exact Query.marks_and qs p
    | any => exact Query.marks_or qs p
  rw [Query.leaves, hmarks]
  exact List.mem_filterMap.2 ⟨m, List.mem_flatMap.2 ⟨q, hq, hm⟩, htest⟩

/-- The label of an operator can be shown. -/
theorem isBalanced_operatorLabel (name : String) : isBalanced (operatorLabel name) = true :=
  isBalanced_styled (by decide) name.toList

mutual

/-- **The tree of a query can be shown** when the labels of its leaves can. -/
theorem isBalanced_treeOf : ∀ (q : Query),
    (∀ leaf ∈ q.leaves, leaf.1.HasPlainName ∧ ¬leaf.1.MayCloseTag) → (treeOf q).isBalanced = true
  | .leaf l p, h => by
    obtain ⟨hname, hl⟩ := h (l, p) (by simp [Query.leaves, Query.marks, Mark.test?])
    rw [treeOf, Tree.isBalanced, isBalanced_leafLabel hname hl]
    rfl
  | .and qs p, h => by
    have hqs := areBalanced_treesOf qs fun q hq leaf hl => h leaf (mem_leaves_node .all hq hl)
    rw [treeOf, Tree.isBalanced, isBalanced_operatorLabel, hqs]
    rfl
  | .or qs p, h => by
    have hqs := areBalanced_treesOf qs fun q hq leaf hl => h leaf (mem_leaves_node .any hq hl)
    rw [treeOf, Tree.isBalanced, isBalanced_operatorLabel, hqs]
    rfl
  | .not q p, h => by
    have hq := isBalanced_treeOf q fun leaf hl => h leaf (by
      rw [Query.leaves, Query.marks, List.filterMap_cons]
      exact hl)
    rw [treeOf, Tree.isBalanced, isBalanced_operatorLabel, Tree.areBalanced, hq]
    rfl

/-- The trees of queries can be shown when the labels of their leaves can. -/
theorem areBalanced_treesOf : ∀ (qs : List Query),
    (∀ q ∈ qs, ∀ leaf ∈ q.leaves, leaf.1.HasPlainName ∧ ¬leaf.1.MayCloseTag) →
      Tree.areBalanced (treesOf qs) = true
  | [], _ => rfl
  | q :: qs, h => by
    obtain ⟨hq, hqs⟩ := List.forall_mem_cons.1 h
    rw [treesOf, Tree.areBalanced, isBalanced_treeOf q hq, areBalanced_treesOf qs hqs]
    rfl

end

/-! ## Endings -/

/-- **What a check ends with.**  It ends with status one when the query cannot be parsed, and else
with status zero, unless it breaks off: the tree is asked for, and the query has a range whose end
closes a bracket first. -/
theorem check_ending (s : Session) (r : CheckRequest) :
    match Query.parse r.query with
    | .error _ => (check s r).ending = .status 1
    | .ok q => (check s r).ending = .status 0 ∨
        (check s r).ending = .broken .unbalanced ∧ r.tree = true ∧
          ∃ leaf ∈ q.leaves, leaf.1.MayCloseTag := by
  have hending : (check s r).ending = (verdict s r (Query.parse r.query)).ending := rfl
  rw [hending]
  cases hq : Query.parse r.query with
  | error e => rfl
  | ok q =>
    by_cases hshown : r.tree = true ∧ (treeOf q).isBalanced = false
    · obtain ⟨htree, hbalanced⟩ := hshown
      refine .inr ⟨?_, htree, ?_⟩
      · simp [verdict, htree, hbalanced, breaking]
      · -- otherwise the tree could be shown
        by_contra hnone
        have hall : ∀ leaf ∈ q.leaves, leaf.1.HasPlainName ∧ ¬leaf.1.MayCloseTag := by
          intro leaf hl
          exact ⟨hasPlainName_of_parse hq hl, fun hclose => hnone ⟨leaf, hl, hclose⟩⟩
        rw [isBalanced_treeOf q hall] at hbalanced
        cases hbalanced
    · left
      have hno : (r.tree && !(treeOf q).isBalanced) = false := by
        cases htree : r.tree <;> cases hbalanced : (treeOf q).isBalanced <;> simp_all
      simp [verdict, hno]

end Command

end TaskQuery
