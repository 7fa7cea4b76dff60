import Mathlib
import TaskQuery.Proofs.Query.Derivation
import TaskQuery.Proofs.Token.Tiling

/-!
# Where a query is at fault

A text that is no query is refused with a message and a position, and what the message speaks of
stands at that position.

* `Token.IsBlamed`: the messages that speak of a token, by its kind.
* `Query.Blames`: a message and a position that go together, over the tokens that are read.
* `isAbout_ranges`, `operandBlames_cons`: each reader complains about a token in front of it, or about
  the end of the text.  What the parser has no words for, a value or a range operator where an operand
  should start, does not occur in glued tokens.
* `linksConclude_cons`: an expression is read up to the end of the text or a closing parenthesis, so
  that nothing else is ever left over.
* `position_of_fault`: the errors of all texts.
-/

namespace TaskQuery

/-- The message speaks of the token. -/
inductive Token.IsBlamed (t : Token) : (message : String) → Prop where
  /-- An opening parenthesis that is not closed. -/
  | unclosed (h : t.kind = .openParen) : t.IsBlamed "Expected closing parenthesis"
  /-- A closing parenthesis behind a whole query. -/
  | unopened (h : t.kind = .closeParen) : t.IsBlamed "Unmatched closing parenthesis"
  /-- A field name without a value. -/
  | missingValue (h : t.kind = .field) : t.IsBlamed ("Expected value after '" ++ t.lexeme ++ "'")
  /-- A range operator behind something else than a date field. -/
  | misplacedRange (h : t.kind = .range) :
      t.IsBlamed "Range operator can only follow scheduled: or deadline:"
  /-- A range operator without an end. -/
  | missingRangeEnd (h : t.kind = .range) : t.IsBlamed "Expected date value after range operator"
  /-- A joint or a closing parenthesis where an operand should start. -/
  | unexpected (h : t.kind = .and ∨ t.kind = .or ∨ t.kind = .closeParen) :
      t.IsBlamed ("Unexpected token: " ++ t.lexeme)

namespace Query

variable {stop : Nat} {t : Token} {ts us : List Token} {left : Query} {e : SyntaxError}

/-- The message is about the end of the text and the position is that end, or the message is about
one of the tokens and the position is that of the token. -/
inductive Blames (stop : Nat) (ts : List Token) : (message : String) → (position : Nat) → Prop where
  | ending : Blames stop ts "Unexpected end of query" stop
  | token {t : Token} {message : String} (ht : t ∈ ts) (h : t.IsBlamed message) :
      Blames stop ts message t.position

/-- The error is about the end of the text or one of the tokens. -/
def IsAbout (stop : Nat) (ts : List Token) (e : SyntaxError) : Prop :=
  Blames stop ts e.fault.message e.position

/-- What is blamed among tokens is blamed among more of them. -/
theorem Blames.mono {message : String} {position : Nat} (h : Blames stop ts message position)
    (hs : ts ⊆ us) : Blames stop us message position := by
  cases h with
  | ending => exact .ending
  | token ht hm => exact .token (hs ht) hm

/-- What is about tokens is about more of them. -/
theorem IsAbout.mono (h : IsAbout stop ts e) (hs : ts ⊆ us) : IsAbout stop us e :=
  Blames.mono h hs

/-- What is about the tokens behind one is about all of them. -/
theorem IsAbout.cons (h : IsAbout stop ts e) (t : Token) : IsAbout stop (t :: ts) e :=
  h.mono (List.subset_cons_self t ts)

/-- An error about the first token. -/
theorem isAbout_head {fault : SyntaxFault} (h : t.IsBlamed fault.message) :
    IsAbout stop (t :: ts) ⟨fault, t.position⟩ :=
  .token List.mem_cons_self h

/-! ## What each reader complains about -/

/-- Behind an operand only range operators are at fault. -/
theorem isAbout_ranges {left : Query} {ts : List Token} {e : SyntaxError}
    (h : outcome (ranges left ts) = .error e) : IsAbout stop ts e := by
  match ts with
  | [] => simp [ranges] at h
  | op :: ts =>
    by_cases hop : op.kind = .range
    · have hend : outcome (ranges left (op :: ts)) = .error ⟨.missingRangeEnd, op.position⟩ →
          IsAbout stop (op :: ts) e := by
        intro hmissing
        obtain rfl := Except.error.inj (hmissing.symm.trans h)
        exact isAbout_head (.missingRangeEnd hop)
      by_cases hdate : left.IsDateField
      · cases ts with
        | nil => exact hend (outcome_ranges_missing hop hdate (by simp))
        | cons w us =>
          by_cases hw : w.kind.isOperandValue = true
          · obtain ⟨name, value, exact, p, rfl, hd⟩ := hdate
            rw [outcome_ranges_range hop hd hw] at h
            exact ((isAbout_ranges h).cons _).cons _
          · exact hend (outcome_ranges_missing hop hdate (by simpa using hw))
      · rw [outcome_ranges_misplaced hop hdate] at h
        obtain rfl := Except.error.inj h
        exact isAbout_head (.misplacedRange hop)
    · rw [outcome_ranges_of_noRange (noRange_cons hop)] at h
      cases h
termination_by ts.length

/-- A field name is at fault when no value follows. -/
theorem isAbout_fieldOperand (ht : t.kind = .field) (h : outcome (fieldOperand t ts) = .error e) :
    IsAbout stop (t :: ts) e := by
  have hvalue : IsAbout stop (t :: ts) ⟨.missingValue t.lexeme, t.position⟩ :=
    isAbout_head (.missingValue ht)
  unfold fieldOperand at h
  split at h
  · obtain rfl := Except.error.inj h
    exact hvalue
  · split at h
    · rw [outcome_weaken] at h
      exact ((isAbout_ranges h).cons _).cons _
    · obtain rfl := Except.error.inj h
      exact hvalue

/-- An opening parenthesis is at fault when what it opens does not end in a closing one. -/
theorem isAbout_closed (ht : t.kind = .openParen) (hs : us ⊆ ts)
    (h : outcome (closed t.position left us) = .error e) : IsAbout stop (t :: ts) e := by
  have hopen : IsAbout stop (t :: ts) ⟨.unclosed, t.position⟩ := isAbout_head (.unclosed ht)
  unfold closed at h
  split at h
  · obtain rfl := Except.error.inj h
    exact hopen
  · next r us =>
    split at h
    · rw [outcome_weaken] at h
      have hrest : IsAbout stop (r :: us) e := (isAbout_ranges h).cons r
      exact (hrest.mono hs).cons t
    · obtain rfl := Except.error.inj h
      exact hopen

/-! ## Rows and operands -/

/-- Where an operand should start, an error is about the end of the text or a token from there on. -/
def OperandBlames (stop : Nat) (ts : List Token) : Prop :=
  ∀ e, Glued ts → outcome (operand stop ts) = .error e → IsAbout stop ts e

/-- An error is about the tokens, and a query is read up to their end or a closing parenthesis. -/
def Concludes (stop : Nat) (ts : List Token) (r : Except SyntaxError (Query × List Token)) : Prop :=
  match r with
  | .error e => IsAbout stop ts e
  | .ok (_, rest) => Closes rest

/-- What is read behind an operand concludes. -/
def LinksConclude (stop : Nat) (ts : List Token) : Prop :=
  ∀ wrap left, Glued ts → Concludes stop ts (linked stop wrap left ts)

variable {r : Except SyntaxError (Query × List Token)}

/-- What concludes for tokens concludes for more of them. -/
theorem Concludes.mono (h : Concludes stop ts r) (hs : ts ⊆ us) : Concludes stop us r := by
  cases r with
  | error e => exact IsAbout.mono h hs
  | ok p => exact h

/-- Changing the query that is read changes no conclusion. -/
theorem Concludes.map (h : Concludes stop ts r) (f : Query → Query) :
    Concludes stop ts (r >>= fun (q, rest) => .ok (f q, rest)) := by
  cases r with
  | error e => exact h
  | ok p => exact h

/-- An operand and what is read behind it: `k` goes on with fewer tokens. -/
theorem concludes_behind {k : Query × List Token → Except SyntaxError (Query × List Token)}
    (hs : Glued ts) (ho : OperandBlames stop ts)
    (hk : ∀ q rest, rest.length < ts.length → Glued rest → Concludes stop rest (k (q, rest))) :
    Concludes stop ts (outcome (operand stop ts) >>= k) := by
  cases hr : outcome (operand stop ts) with
  | error e => exact ho e hs hr
  | ok p =>
    obtain ⟨q, rest⟩ := p
    obtain ⟨us, o, rfl, hrest, -⟩ := (parsed_sound ts).1 q rest hs hr
    exact (hk q rest (length_lt_of_outcome hr) hrest).mono (List.subset_append_right us rest)

/-- An expression concludes as its operand and its links do. -/
theorem concludes_disjunction (hs : Glued ts) (ho : OperandBlames stop ts)
    (hl : ∀ us : List Token, us.length ≤ ts.length → LinksConclude stop us) :
    Concludes stop ts (outcome (disjunction stop ts)) := by
  rw [outcome_disjunction_eq_linked]
  apply concludes_behind hs ho
  intro q rest hlt hrest
  exact hl rest (Nat.le_of_lt hlt) id q hrest

/-- At the end the end is blamed. -/
theorem operandBlames_nil : OperandBlames stop [] := by
  intro e _ h
  rw [outcome_operand_nil] at h
  obtain rfl := Except.error.inj h
  exact .ending

/-- An operand at a token blames one of the tokens from there on, or the end. -/
theorem operandBlames_cons (ho : OperandBlames stop ts)
    (hl : ∀ us : List Token, us.length ≤ ts.length → LinksConclude stop us) :
    OperandBlames stop (t :: ts) := by
  intro e hs h
  have hfree := hs.startsFree
  cases hk : t.kind with
  | not =>
    rw [outcome_operand_not hk, bind_eq_error] at h
    obtain h | ⟨p, -, h⟩ := h
    · exact (ho e (glued_of_ne_field hs (by simp [hk])) h).cons t
    · cases h
  | openParen =>
    have hts := glued_of_ne_field hs (by simp [hk])
    have hinner := concludes_disjunction hts ho hl
    rw [outcome_operand_openParen hk, bind_eq_error] at h
    obtain h | ⟨⟨q, rest⟩, hq, h⟩ := h
    · rw [h] at hinner
      exact IsAbout.cons hinner t
    · obtain ⟨us, -, rfl, -⟩ := disjunction_sound hts hq
      exact isAbout_closed hk (List.subset_append_right us rest) h
  | field =>
    rw [operand] at h
    simp only [hk] at h
    exact isAbout_fieldOperand hk h
  | word =>
    rw [outcome_operand_word hk] at h
    exact (isAbout_ranges h).cons t
  | phrase =>
    rw [outcome_operand_phrase hk] at h
    exact (isAbout_ranges h).cons t
  | property =>
    rw [outcome_operand_property hk] at h
    exact (isAbout_ranges h).cons t
  | and | or | closeParen =>
    rw [operand] at h
    simp only [hk] at h
    obtain rfl := Except.error.inj h
    exact isAbout_head (.unexpected (by simp [hk]))
  | value | quotedValue | range => simp [hk, Token.Kind.isFree] at hfree

/-- At the end nothing more is linked. -/
theorem linksConclude_nil : LinksConclude stop [] := by
  intro wrap left _
  rw [linked_nil]
  intro t ht
  simp at ht

/-- A row ends in front of a token that joins nothing, and among free tokens that is a closing
parenthesis. -/
theorem linksConclude_cons (ho : OperandBlames stop ts) (ho' : OperandBlames stop (t :: ts))
    (hl : ∀ us : List Token, us.length ≤ ts.length → LinksConclude stop us) :
    LinksConclude stop (t :: ts) := by
  intro wrap left hs
  have hfree := hs.startsFree
  have hsub : ts ⊆ t :: ts := List.subset_cons_self t ts
  by_cases hb : t.kind.opensOperand = true
  · rw [linked_beside hb]
    apply concludes_behind hs ho'
    intro q rest hlt hrest
    exact hl rest (Nat.le_of_lt_succ hlt) _ _ hrest
  by_cases ha : t.kind = .and
  · rw [linked_and ha]
    have hts := glued_of_ne_field hs (by simp [ha])
    apply (concludes_behind hts ho _).mono hsub
    intro q rest hlt hrest
    exact hl rest (Nat.le_of_lt hlt) _ _ hrest
  by_cases hor : t.kind = .or
  · rw [linked_or hor]
    have hts := glued_of_ne_field hs (by simp [hor])
    apply (concludes_behind hts ho _).mono hsub
    intro q rest hlt hrest
    exact (hl rest (Nat.le_of_lt hlt) _ _ hrest).map fun r => (wrap left).joinOr r t.position
  · rw [linked_of_not_opens (by simpa using hb) ha hor]
    intro u hu
    obtain rfl : t = u := by simpa using hu
    cases hk : t.kind <;> simp_all [Token.Kind.isFree, Token.Kind.opensOperand]

/-- Both hold of all token sequences. -/
theorem parsed_concludes (ts : List Token) : OperandBlames stop ts ∧ LinksConclude stop ts := by
  match ts with
  | [] => exact ⟨operandBlames_nil, linksConclude_nil⟩
  | t :: ts =>
    have ho := (parsed_concludes ts).1
    have hl : ∀ us : List Token, us.length ≤ ts.length → LinksConclude stop us :=
      fun us _ => (parsed_concludes us).2
    have ho' := operandBlames_cons (t := t) ho hl
    exact ⟨ho', linksConclude_cons ho ho' hl⟩
termination_by ts.length

/-- **What is left over behind an expression starts with a closing parenthesis.** -/
theorem concludes_of_glued (hs : Glued ts) : Concludes stop ts (outcome (disjunction stop ts)) :=
  concludes_disjunction hs (parsed_concludes ts).1 fun us _ => (parsed_concludes us).2

/-! ## Whole texts -/

/-- Tokens are refused when there are none, when no expression can be read off their front, or for
the token behind the expression. -/
theorem ofTokens_eq_error (h : ofTokens ts stop = .error e) :
    ts = [] ∧ e = ⟨.emptyQuery, 0⟩ ∨ outcome (disjunction stop ts) = .error e ∨
      ∃ q t rest, outcome (disjunction stop ts) = .ok (q, t :: rest) ∧
        (t.kind = .closeParen → e = ⟨.unopened, t.position⟩) := by
  cases ts with
  | nil =>
    obtain rfl := Except.error.inj h
    exact .inl ⟨rfl, rfl⟩
  | cons t ts =>
    rw [ofTokens_cons, bind_eq_error] at h
    obtain h | ⟨⟨q, rest⟩, hq, h⟩ := h
    · exact .inr (.inl h)
    · cases rest with
      | nil => cases h
      | cons u rest =>
        refine .inr (.inr ⟨q, u, rest, hq, fun hu => ?_⟩)
        rw [whole, if_pos hu] at h
        exact (Except.error.inj h).symm

/-- A token ends inside the text. -/
theorem stop_le_of_mem_scan {text : String} (ht : t ∈ Token.scan text) : t.stop ≤ text.length := by
  have htiles : Tiles 0 text.toList (Token.scan text) := Lexer.tiles_tokensFrom 0 text.toList
  have htoken : text.toList.extract t.position t.stop = t.lexeme.toList :=
    htiles.extract_eq [] rfl t ht
  have hlexeme : 0 < t.lexeme.length := by
    have := htiles.lexeme_ne_empty t ht
    rwa [Nat.pos_iff_ne_zero, ne_eq, String.length_eq_zero_iff]
  have hlength := congrArg List.length htoken
  rw [List.extract_eq_take_drop, List.length_take, List.length_drop, String.length_toList,
    String.length_toList, Token.stop] at hlength
  rw [Token.stop]
  omega

/-- What is blamed lies in the text or at its end. -/
theorem Blames.position_le {text message : String} {position : Nat}
    (h : Blames text.length (Token.scan text) message position) : position ≤ text.length := by
  cases h with
  | ending => exact Nat.le_refl _
  | token ht _ => exact Nat.le_trans (Nat.le_add_right _ _) (stop_le_of_mem_scan ht)

/-- **An error points at what its message speaks of.**  That no query is there is said of a text
without tokens only; that the query ends too early, of the end of the text; and every other message
is said of a token, of the kind that it speaks of, at the position of that token.  So the position
lies in the text, and what is left over behind the expression that is read first is nothing, or
starts with a closing parenthesis. -/
theorem position_of_fault {text : String} (h : parse text = .error e) :
    (e.fault.message = "Empty search query" ∧ Token.scan text = [] ∧ e.position = 0 ∨
        Blames text.length (Token.scan text) e.fault.message e.position) ∧
      e.position ≤ text.length ∧
      ∀ q rest, outcome (disjunction text.length (Token.scan text)) = .ok (q, rest) →
        Closes rest := by
  have hread : Concludes text.length (Token.scan text)
      (outcome (disjunction text.length (Token.scan text))) := concludes_of_glued (glued_scan text)
  have hblames : e.fault.message = "Empty search query" ∧ Token.scan text = [] ∧ e.position = 0 ∨
      Blames text.length (Token.scan text) e.fault.message e.position := by
    obtain ⟨hnil, rfl⟩ | h | ⟨q, t, rest, hq, herror⟩ := ofTokens_eq_error h
    · exact .inl ⟨rfl, hnil, rfl⟩
    · rw [h] at hread
      exact .inr hread
    · rw [hq] at hread
      have ht : t.kind = .closeParen := hread t rfl
      obtain rfl := herror ht
      obtain ⟨us, -, hus, -⟩ := disjunction_sound (glued_scan text) hq
      exact .inr (.token (hus ▸ by simp) (.unopened ht))
  refine ⟨hblames, ?_, fun q rest hq => ?_⟩
  · obtain ⟨-, -, hzero⟩ | hblames := hblames
    · rw [hzero]
      exact Nat.zero_le _
    · exact hblames.position_le
  · rw [hq] at hread
    exact hread

/-- A range behind a field without dates, inside a parenthesis that is not closed. -/
theorem position_of_fault_priority :
    let text := "a OR (b priority:high..low"
    let message := "Range operator can only follow scheduled: or deadline:"
    parse text = .error ⟨.misplacedRange, 21⟩ ∧
      (message = "Empty search query" ∧ Token.scan text = [] ∧ 21 = 0 ∨
        Blames text.length (Token.scan text) message 21) ∧
      21 ≤ text.length ∧
      ∀ q rest, outcome (disjunction text.length (Token.scan text)) = .ok (q, rest) →
        Closes rest := by
  intro text message
  have hscan : Token.scan text =
      [⟨.word, "a", "a", 0⟩, ⟨.or, "or", "OR", 2⟩, ⟨.openParen, "(", "(", 5⟩,
        ⟨.word, "b", "b", 6⟩, ⟨.field, "priority", "priority:", 8⟩, ⟨.value, "high", "high", 17⟩,
        ⟨.range, "..", "..", 21⟩, ⟨.word, "low", "low", 23⟩] := by
    decide +kernel
  have hparse : parse text = .error ⟨.misplacedRange, 21⟩ := by
    rw [parse, hscan]
    cbv
  exact ⟨hparse, position_of_fault hparse⟩

end Query

end TaskQuery
