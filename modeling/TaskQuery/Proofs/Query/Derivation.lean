import TaskQuery.Proofs.Query.Grammar
import TaskQuery.Proofs.Query.Steps
import TaskQuery.Proofs.Token.Gluing

/-!
# The parser reads the grammar

The parser takes decisions by the token in front of it and stops early; the grammar of
`Proofs.Query.Grammar` only says which token sequences are expressions.  They agree on the tokens
of every text.

* **Soundness** (`parsed_sound`): what is read off the front of glued tokens is derived by the
  grammar, and the query that comes out is that of the tree.  Gluing rules out what the grammar
  does not know, a value as an operand and a range behind a parenthesis.
* **Completeness** (`operand_complete`, `disjunction_complete`, `links_complete`): a derivation
  is read to its end, whatever follows that cannot continue it.
* `parse_eq_ok_iff`: a text writes a query exactly when its tokens derive a tree of that query.
* `parses_iff_derives`: so a text parses exactly when the grammar derives its tokens; all other
  texts are refused with a fault.
-/

namespace TaskQuery

namespace Query

variable {stop : Nat} {t : Token} {ts : List Token} {left : Query}

/-! ## What is parsed is derived -/

/-- Among glued tokens no range mark comes first. -/
theorem noRange_of_glued (h : Glued ts) : NoRange ts := by
  cases ts with
  | nil => simp [NoRange]
  | cons t ts =>
    intro t' ht'
    obtain rfl : t = t' := by simpa using ht'
    intro hk
    have := h.startsFree
    simp [hk, Token.Kind.isFree] at this

/-- A property token makes up a leaf. -/
theorem exists_ofProperty (t : Token) : ∃ l, ofProperty t = leaf l t.position := by
  unfold ofProperty
  exact ⟨_, rfl⟩

/-- A single token that makes up a leaf is read as such. -/
theorem ranges_sound {q : Query} {rest : List Token} (hs : Glued ts)
    (h : outcome (ranges left ts) = .ok (q, rest)) : q = left ∧ rest = ts := by
  rw [outcome_ranges_of_noRange (noRange_of_glued hs)] at h
  simpa [eq_comm] using h

/-- A field with its value, and a range if one is glued to it. -/
theorem field_sound {q : Query} {rest : List Token} (hs : Glued (t :: ts)) (ht : t.kind = .field)
    (h : outcome (operand stop (t :: ts)) = .ok (q, rest)) :
    ∃ us o, t :: ts = us ++ rest ∧ Glued rest ∧ Operand.Reads us o ∧ o.query = q := by
  obtain ⟨v, vs, rfl, hv⟩ := operand_field_inv ht h
  rw [outcome_operand_field ht hv] at h
  -- behind the value there is a range only if it is glued to the value
  have hplain : ∀ (_ : Glued vs), ∃ us o,
      t :: v :: vs = us ++ rest ∧ Glued rest ∧ Operand.Reads us o ∧ o.query = q := by
    intro hvs
    obtain ⟨rfl, rfl⟩ := ranges_sound hvs h
    exact ⟨[t, v], _, rfl, hvs, .field ht hv, rfl⟩
  cases hs with
  | free _ hs =>
    cases hs with
    | free _ hvs => exact hplain hvs
    | valued hf | ranged hf => simp [hf, Token.Kind.isOperandValue] at hv
  | valued _ _ hvs => exact hplain hvs
  | ranged _ _ hr hs =>
    obtain ⟨name, value, exact, position, w, ws, hl, hd, hw, rfl⟩ := ranges_range_inv hr h
    unfold ofField at hl h
    simp only [leaf.injEq, Leaf.field.injEq] at hl
    obtain ⟨⟨rfl, rfl, rfl⟩, rfl⟩ := hl
    rw [outcome_ranges_range hr hd hw] at h
    cases hs with
    | free _ hws =>
      obtain ⟨rfl, rfl⟩ := ranges_sound hws h
      exact ⟨[t, v, _, w], _, rfl, hws, .range ht hv hr hw hd, rfl⟩
    | valued hf | ranged hf => simp [hf, Token.Kind.isOperandValue] at hw

/-- An operand that is parsed is derived by the grammar, and has the query of its tree. -/
def OperandSound (stop : Nat) (ts : List Token) : Prop :=
  ∀ q rest, Glued ts → outcome (operand stop ts) = .ok (q, rest) →
    ∃ us o, ts = us ++ rest ∧ Glued rest ∧ Operand.Reads us o ∧ o.query = q

/-- What is parsed behind `left` is derived by the grammar, and is gathered from its trees. -/
def LinksSound (stop : Nat) (ts : List Token) : Prop :=
  ∀ wrap left q rest, Glued ts → linked stop wrap left ts = .ok (q, rest) →
    ∃ us l, ts = us ++ rest ∧ Glued rest ∧ Links.Reads us l ∧ gather wrap left l.queries = q

/-- A token that is no field name has nothing glued to it. -/
theorem glued_of_ne_field (hs : Glued (t :: ts)) (h : t.kind ≠ .field) : Glued ts := by
  cases hs with
  | free _ hs => exact hs
  | valued hf | ranged hf => exact absurd hf h

/-- An operand that is read at a token is one of the grammar. -/
theorem operandSound_cons (ho : OperandSound stop ts)
    (hl : ∀ us : List Token, us.length ≤ ts.length → LinksSound stop us) :
    OperandSound stop (t :: ts) := by
  intro q rest hs h
  have hopen := operand_inv h
  have hfree := hs.startsFree
  cases hk : t.kind with
  | field => exact field_sound hs hk h
  | not =>
    rw [outcome_operand_not hk] at h
    simp only [bind_eq_ok, Prod.exists, Except.ok.injEq, Prod.mk.injEq] at h
    obtain ⟨q', rest', hq', rfl, rfl⟩ := h
    obtain ⟨us, o, rfl, hr, hread, rfl⟩ := ho _ _ (glued_of_ne_field hs (by simp [hk])) hq'
    exact ⟨t :: us, _, rfl, hr, .negated hk hread, rfl⟩
  | openParen =>
    rw [outcome_operand_openParen hk, outcome_disjunction_eq_linked] at h
    simp only [bind_eq_ok, Prod.exists] at h
    obtain ⟨q', rest', ⟨q₁, rest₁, hq₁, hq'⟩, h⟩ := h
    obtain ⟨us, o, rfl, hr₁, hread, rfl⟩ := ho _ _ (glued_of_ne_field hs (by simp [hk])) hq₁
    obtain ⟨vs, l, rfl, hr', hreads, rfl⟩ := hl _ (by simp) _ _ _ _ hr₁ hq'
    obtain ⟨r, ws, rfl, hr⟩ := closed_inv h
    rw [outcome_closed hr] at h
    have hws := glued_of_ne_field hr' (by simp [hr])
    obtain ⟨rfl, rfl⟩ := ranges_sound hws h
    refine ⟨t :: (us ++ vs ++ [r]), .group (.row o l), ?_, hws, ?_, rfl⟩
    · simp
    · exact .group hk (.row hread hreads) hr
  | word =>
    rw [outcome_operand_word hk] at h
    have hts := glued_of_ne_field hs (by simp [hk])
    obtain ⟨rfl, rfl⟩ := ranges_sound hts h
    exact ⟨[t], _, rfl, hts, .word hk, rfl⟩
  | phrase =>
    rw [outcome_operand_phrase hk] at h
    have hts := glued_of_ne_field hs (by simp [hk])
    obtain ⟨rfl, rfl⟩ := ranges_sound hts h
    exact ⟨[t], _, rfl, hts, .phrase hk, rfl⟩
  | property =>
    rw [outcome_operand_property hk] at h
    have hts := glued_of_ne_field hs (by simp [hk])
    obtain ⟨rfl, rfl⟩ := ranges_sound hts h
    obtain ⟨l, hl⟩ := exists_ofProperty t
    exact ⟨[t], _, rfl, hts, .property hk hl, hl.symm⟩
  | value | quotedValue => simp [hk, Token.Kind.isFree] at hfree
  | _ => simp [hk, Token.Kind.opensOperand, Token.Kind.isOperandValue] at hopen

/-- At the end there are no links, as in the grammar. -/
theorem linksSound_nil : LinksSound stop [] := by
  intro wrap left q rest _ h
  rw [linked_nil] at h
  simp only [Except.ok.injEq, Prod.mk.injEq] at h
  obtain ⟨rfl, rfl⟩ := h
  exact ⟨[], .nil, rfl, .nil, .nil, rfl⟩

/-- Links that are read at a token are those of the grammar. -/
theorem linksSound_cons (ho : OperandSound stop ts) (ho' : OperandSound stop (t :: ts))
    (hl : ∀ us : List Token, us.length ≤ ts.length → LinksSound stop us) :
    LinksSound stop (t :: ts) := by
  intro wrap left q rest hs h
  by_cases hb : t.kind.opensOperand = true
  · rw [linked_beside hb] at h
    simp only [bind_eq_ok, Prod.exists] at h
    obtain ⟨q', rest', hq', h⟩ := h
    obtain ⟨us, o, hus, hr, hread, rfl⟩ := ho' _ _ hs hq'
    obtain ⟨u, us, rfl, -⟩ := hread.exists_cons
    obtain ⟨rfl, rfl⟩ : t = u ∧ ts = us ++ rest' := by simpa using hus
    obtain ⟨vs, l, rfl, hr', hreads, rfl⟩ := hl _ (by simp) _ _ _ _ hr h
    exact ⟨t :: (us ++ vs), _, by simp, hr', .beside hread hreads, rfl⟩
  by_cases ha : t.kind = .and
  · rw [linked_and ha] at h
    simp only [bind_eq_ok, Prod.exists] at h
    obtain ⟨q', rest', hq', h⟩ := h
    obtain ⟨us, o, rfl, hr, hread, rfl⟩ := ho _ _ (glued_of_ne_field hs (by simp [ha])) hq'
    obtain ⟨vs, l, rfl, hr', hreads, rfl⟩ := hl _ (by simp) _ _ _ _ hr h
    have hj : Joint.and.kind? = some t.kind := by rw [ha]; rfl
    exact ⟨t :: (us ++ vs), _, by simp, hr', .written hj hread hreads, rfl⟩
  by_cases hor : t.kind = .or
  · rw [linked_or hor] at h
    simp only [bind_eq_ok, Prod.exists, Except.ok.injEq, Prod.mk.injEq] at h
    obtain ⟨q', rest', hq', q₁, rest₁, h, rfl, rfl⟩ := h
    obtain ⟨us, o, rfl, hr, hread, rfl⟩ := ho _ _ (glued_of_ne_field hs (by simp [hor])) hq'
    obtain ⟨vs, l, rfl, hr', hreads, rfl⟩ := hl _ (by simp) _ _ _ _ hr h
    have hj : Joint.or.kind? = some t.kind := by rw [hor]; rfl
    exact ⟨t :: (us ++ vs), _, by simp, hr', .written hj hread hreads, rfl⟩
  · rw [linked_of_not_opens (by simpa using hb) ha hor] at h
    simp only [Except.ok.injEq, Prod.mk.injEq] at h
    obtain ⟨rfl, rfl⟩ := h
    exact ⟨[], .nil, rfl, hs, .nil, rfl⟩

/-- Both hold of all token sequences. -/
theorem parsed_sound (ts : List Token) : OperandSound stop ts ∧ LinksSound stop ts := by
  match ts with
  | [] =>
    refine ⟨?_, linksSound_nil⟩
    intro q rest _ h
    simp [outcome_operand_nil] at h
  | t :: ts =>
    have ho := (parsed_sound ts).1
    have hl : ∀ us : List Token, us.length ≤ ts.length → LinksSound stop us :=
      fun us _ => (parsed_sound us).2
    have ho' := operandSound_cons (t := t) ho hl
    exact ⟨ho', linksSound_cons ho ho' hl⟩
termination_by ts.length

/-- **An expression that is parsed is derived by the grammar.** -/
theorem disjunction_sound {q : Query} {rest : List Token} (hs : Glued ts)
    (h : outcome (disjunction stop ts) = .ok (q, rest)) :
    ∃ us e, ts = us ++ rest ∧ Expression.Reads us e ∧ e.query = q := by
  rw [outcome_disjunction_eq_linked] at h
  simp only [bind_eq_ok, Prod.exists] at h
  obtain ⟨q', rest', hq', h⟩ := h
  obtain ⟨us, o, rfl, hr, hread, rfl⟩ := (parsed_sound ts).1 _ _ hs hq'
  obtain ⟨vs, l, rfl, -, hreads, rfl⟩ := (parsed_sound rest').2 _ _ _ _ hr h
  exact ⟨us ++ vs, .row o l, by simp, .row hread hreads, rfl⟩


/-! ## What is derived is parsed -/

/-- What can stand behind an expression: nothing, or a closing parenthesis. -/
def Closes (ts : List Token) : Prop := ∀ t ∈ ts.head?, t.kind = .closeParen

/-- Where an expression closes, nothing more is linked. -/
theorem linked_of_closes {wrap : Query → Query} {rest : List Token} (h : Closes rest) :
    linked stop wrap left rest = .ok (wrap left, rest) := by
  cases rest with
  | nil => exact linked_nil
  | cons t ts =>
    have ht : t.kind = .closeParen := h t rfl
    exact linked_of_not_opens (by rw [ht]; rfl) (by rw [ht]; decide) (by rw [ht]; decide)

/-- No range operator stands behind an operand. -/
theorem noRange_links {us rest : List Token} {l : Links} (hl : Links.Reads us l)
    (h : Closes rest) : NoRange (us ++ rest) := by
  intro t ht hk
  cases hl with
  | nil =>
    have := h t ht
    simp [hk] at this
  | beside ho _ =>
    obtain ⟨u, us, hu, hopen⟩ := ho.exists_cons
    simp only [List.cons.injEq] at hu
    obtain ⟨rfl, rfl⟩ := hu
    obtain rfl : _ = t := by simpa using ht
    simp [hk, Token.Kind.opensOperand] at hopen
  | @written u _ _ j _ _ hj _ _ =>
    obtain rfl : u = t := by simpa using ht
    rw [hk] at hj
    cases j <;> simp [Joint.kind?] at hj

mutual

/-- An operand that is derived by the grammar is parsed. -/
theorem operand_complete {us rest : List Token} {o : Operand} (h : Operand.Reads us o)
    (hr : NoRange rest) : outcome (operand stop (us ++ rest)) = .ok (o.query, rest) := by
  match h with
  | .negated ht ho =>
    rw [List.cons_append, outcome_operand_not ht, operand_complete ho hr]
    rfl
  | .group (r := r) hl he hr' =>
    have hcloses : Closes (r :: rest) := fun t ht => by
      obtain rfl : r = t := by simpa using ht
      exact hr'
    rw [List.cons_append, outcome_operand_openParen hl, List.append_assoc,
      List.singleton_append, disjunction_complete he hcloses]
    show outcome (closed _ _ (r :: rest)) = _
    rw [outcome_closed hr', outcome_ranges_of_noRange hr]
    rfl
  | .word ht =>
    rw [List.singleton_append, outcome_operand_word ht, outcome_ranges_of_noRange hr]
    rfl
  | .phrase ht =>
    rw [List.singleton_append, outcome_operand_phrase ht, outcome_ranges_of_noRange hr]
    rfl
  | .property ht hl =>
    rw [List.singleton_append, outcome_operand_property ht, outcome_ranges_of_noRange hr, hl]
    rfl
  | .field hf hv =>
    rw [List.cons_append, List.singleton_append, outcome_operand_field hf hv,
      outcome_ranges_of_noRange hr]
    rfl
  | .range hf hv hr' hw hd =>
    simp only [List.cons_append, List.nil_append]
    rw [outcome_operand_field hf hv, ofField, outcome_ranges_range hr' hd hw,
      outcome_ranges_of_noRange hr]
    rfl

/-- An expression that is derived by the grammar is parsed. -/
theorem disjunction_complete {us rest : List Token} {e : Expression} (h : Expression.Reads us e)
    (hr : Closes rest) : outcome (disjunction stop (us ++ rest)) = .ok (e.query, rest) := by
  match h with
  | .row ho hl =>
    rw [outcome_disjunction_eq_linked, List.append_assoc,
      operand_complete ho (noRange_links hl hr)]
    exact links_complete hl id _ hr

/-- What is derived by the grammar behind `left` is parsed there. -/
theorem links_complete {us rest : List Token} {l : Links} (h : Links.Reads us l)
    (wrap : Query → Query) (left : Query) (hr : Closes rest) :
    linked stop wrap left (us ++ rest) = .ok (gather wrap left l.queries, rest) := by
  match h with
  | .nil => exact linked_of_closes hr
  | @Links.Reads.beside t ts vs _ _ ho hl =>
    obtain ⟨u, us, hu, hopen⟩ := ho.exists_cons
    obtain ⟨rfl, rfl⟩ : t = u ∧ ts = us := by simpa using hu
    rw [List.cons_append, linked_beside hopen, List.append_assoc, ← List.cons_append,
      operand_complete ho (noRange_links hl hr)]
    exact links_complete hl wrap _ hr
  | @Links.Reads.written t ts vs .and _ _ hj ho hl =>
    have ht : t.kind = .and := by simpa [Joint.kind?, eq_comm] using hj
    rw [List.cons_append, linked_and ht, List.append_assoc,
      operand_complete ho (noRange_links hl hr)]
    exact links_complete hl (fun right => wrap (left.joinAnd right t.position)) _ hr
  | @Links.Reads.written t ts vs .or _ _ hj ho hl =>
    have ht : t.kind = .or := by simpa [Joint.kind?, eq_comm] using hj
    rw [List.cons_append, linked_or ht, List.append_assoc,
      operand_complete ho (noRange_links hl hr)]
    show (linked stop id _ (vs ++ rest) >>= _) = _
    rw [links_complete hl id _ hr]
    rfl

end


/-! ## Whole texts -/

/-- Tokens make up a query when they are read as one expression to the end. -/
theorem ofTokens_eq_ok_iff {q : Query} :
    ofTokens ts stop = .ok q ↔ ts ≠ [] ∧ outcome (disjunction stop ts) = .ok (q, []) := by
  cases ts with
  | nil => simp [ofTokens]
  | cons t ts =>
    rw [ofTokens_cons, bind_eq_ok]
    constructor
    · rintro ⟨⟨q', rest⟩, hread, hwhole⟩
      obtain ⟨rfl, rfl⟩ := whole_eq_ok_iff.1 hwhole
      exact ⟨List.cons_ne_nil t ts, hread⟩
    · rintro ⟨-, hread⟩
      exact ⟨(q, []), hread, rfl⟩

/-- A text writes a query exactly when its tokens derive a tree of that query. -/
theorem parse_eq_ok_iff {text : String} {q : Query} :
    parse text = .ok q ↔ ∃ e, Expression.Reads (Token.scan text) e ∧ e.query = q := by
  rw [parse, ofTokens_eq_ok_iff]
  constructor
  · rintro ⟨-, h⟩
    obtain ⟨us, e, hus, he, hq⟩ := disjunction_sound (glued_scan text) h
    rw [List.append_nil] at hus
    exact ⟨e, hus ▸ he, hq⟩
  · rintro ⟨e, he, rfl⟩
    refine ⟨he.ne_nil, ?_⟩
    have hnil : Closes [] := fun t ht => by simp at ht
    rw [← List.append_nil (Token.scan text)]
    exact disjunction_complete he hnil

/-- **The texts that write a query are those whose tokens the grammar derives.**  All others are
refused with a fault, and both ways of asking for it agree. -/
theorem parses_iff_derives (text : String) :
    ((∃ q, parse text = .ok q) ↔ ∃ e, Expression.Reads (Token.scan text) e) ∧
      ((∃ fault, parse text = .error fault) ↔ ¬∃ e, Expression.Reads (Token.scan text) e) ∧
      (isValid text = true ↔ ∃ q, parse text = .ok q) ∧
      (errorText? text = none ↔ ∃ q, parse text = .ok q) := by
  have hok : (∃ q, parse text = .ok q) ↔ ∃ e, Expression.Reads (Token.scan text) e := by
    simp only [parse_eq_ok_iff]
    constructor
    · rintro ⟨-, e, he, -⟩
      exact ⟨e, he⟩
    · rintro ⟨e, he⟩
      exact ⟨_, e, he, rfl⟩
  refine ⟨hok, ?_, ?_, ?_⟩
  · rw [← hok]
    cases parse text <;> simp
  · unfold isValid
    cases parse text <;> simp
  · unfold errorText?
    cases parse text <;> simp

end Query
end TaskQuery
