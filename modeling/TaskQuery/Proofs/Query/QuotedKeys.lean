import TaskQuery.Match.Query
import TaskQuery.Proofs.Query.PropertyText

/-!
# Keys in double quotes

In quotes a key may hold brackets, colons and blanks, and the lexer takes it whole: the colon that
separates key and value is the first one outside quotes.  But the property keeps its key and its
value in one text without the quotes, and there the key ends at the first colon.

* `WritesProperty`: a text is the query that consists of a property with a given key and value.
* `writesProperty_quotedKey`, `writesProperty_quotedPair`: what is read where the key is in quotes.
* `parse_quotedKey`: a quoted key is looked up as it is written if it holds no colon; else its part
  in front of the first colon is, and the rest goes to the value.
-/

namespace TaskQuery

open Text Lexer

namespace Query

/-- The text is the query that consists of a property with the key and the value. -/
def WritesProperty (w key : List Char) (value : Option (List Char)) (exact : Bool) : Prop :=
  ∃ text, parse (String.ofList w) = .ok (.leaf (.property text exact) 0) ∧
    Leaf.propertyKey text = String.ofList key ∧
    Leaf.propertyValue? text = value.map String.ofList

variable {w key : List Char} {value : Option (List Char)} {exact : Bool}

/-- A text is no query of two properties with different keys. -/
theorem WritesProperty.key_eq {key' : List Char} {value' : Option (List Char)} {exact' : Bool}
    (h : WritesProperty w key value exact) (h' : WritesProperty w key' value' exact') :
    key = key' := by
  obtain ⟨text, hparse, hkey, -⟩ := h
  obtain ⟨text', hparse', hkey', -⟩ := h'
  rw [hparse, Except.ok.injEq, Query.leaf.injEq, Leaf.property.injEq] at hparse'
  rw [← hparse'.1.1, hkey] at hkey'
  simpa using congrArg String.toList hkey'

/-- A text that is read as a property wherever it stands is that property as a query. -/
theorem WritesTest.writesProperty (h : WritesTest w
    (.property (String.ofList (propertyText key value)) exact)) (hcolon : ':' ∉ key) :
    WritesProperty w key value exact :=
  ⟨_, h.parse_eq, Leaf.propertyKey_propertyText hcolon value,
    Leaf.propertyValue?_propertyText hcolon value⟩

/-- A key or value that can be written in quotes as it is. -/
structure IsQuotable (s : List Char) : Prop where
  /-- The text is not empty. -/
  ne_nil : s ≠ []
  /-- There is no quote in the text. -/
  quote : '"' ∉ s
  /-- There is no backslash in the text. -/
  backslash : '\\' ∉ s

/-- No character of a key that can be quoted ends the quotes or the bracket. -/
theorem IsQuotable.isInert {s : List Char} (h : IsQuotable s) (stop : Char) :
    ∀ c ∈ s, IsInert stop true c := by
  intro c hc
  refine ⟨?_, ?_⟩
  · rintro rfl
    exact h.quote hc
  · rintro rfl
    exact h.backslash hc

/-- A quoted key alone is the key, up to its first colon. -/
theorem writesProperty_quotedKey {k : List Char} (hk : IsQuotable k)
    (htext : k = propertyText key value) (hcolon : ':' ∉ key) :
    WritesProperty ('[' :: (partText true k ++ [']'])) key (value.filter (· ≠ [])) true := by
  have hsplit : Property.split (partText true k) = (partText true k, none) :=
    (split_key (isUncut_quotes (hk.isInert ':'))).trans (congrArg (·, none) (trim_quotes k))
  have hunquote : Property.unquote (partText true k) = k := unquote_quotes hk.backslash
  have h := writesTest_bracket (isSpanned_quotes (hk.isInert ']')) hsplit
    (by rw [hunquote]; exact hk.ne_nil) (by rw [hunquote]; exact htext) hcolon
  rw [show Property.isQuoted (partText true k) = true from isQuoted_quotes k, Bool.true_or] at h
  exact h.writesProperty hcolon

/-- A quoted key with a quoted value is the key, up to its first colon, and the rest is the value
of the property. -/
theorem writesProperty_quotedPair {k u : List Char} (hk : IsQuotable k) (hu : IsQuotable u)
    (htext : k ++ ':' :: u = propertyText key value) (hcolon : ':' ∉ key) :
    WritesProperty ('[' :: (innerText true true k (some u) ++ [']'])) key (value.filter (· ≠ []))
      true := by
  have hsplit : Property.split (innerText true true k (some u)) =
      (partText true k, some (partText true u)) := by
    refine (split_keyValue (isUncut_quotes (hk.isInert ':')) _).trans ?_
    rw [trim_quotes]
    exact congrArg (fun t => (partText true k, some t)) (trim_quotes u)
  have hspanned : IsSpanned (innerText true true k (some u)) := by
    have hcolon : IsSpanned [':'] := isSpanned_bare (by simp [IsInert])
    exact (isSpanned_quotes (hk.isInert ']')).append
      (hcolon.append (isSpanned_quotes (hu.isInert ']')))
  have hunquote : ∀ {s : List Char}, IsQuotable s → Property.unquote (partText true s) = s :=
    fun hs => unquote_quotes hs.backslash
  have h := writesTest_bracket hspanned hsplit (by rw [hunquote hk]; exact hk.ne_nil)
    (by rw [hunquote hk, propertyValue, hunquote hu]; exact htext) hcolon
  rw [show Property.isQuoted (partText true k) = true from isQuoted_quotes k, Bool.true_or] at h
  exact h.writesProperty hcolon

/-- A property without a value asks whether the key is there. -/
theorem WritesProperty.matchesText_eq (h : WritesProperty w key none exact) (s : Scope) :
    s.matchesText (String.ofList w) = .ok (s.properties.get? (String.ofList key)).isSome := by
  obtain ⟨text, hparse, hkey, hvalue⟩ := h
  rw [Scope.matchesText, hparse]
  show s.evaluate (.leaf (.property text exact) 0) = _
  rw [Scope.evaluate, Scope.matchesLeaf, Scope.test, Scope.matchesProperty, hkey, hvalue]
  cases s.properties.get? (String.ofList key) <;> rfl

/-- **Keys in double quotes.**  `["key":"value"]` and `["key"]` are the property with that key, and
with that value or none, exactly if the key holds no colon, and then `["key"]` asks whether that
key is there.  A key with a colon ends in front of the first one: what stands behind it is read as
the value or as a part of it. -/
theorem parse_quotedKey {k u : List Char} (hk : IsQuotable k) (hu : IsQuotable u) :
    let pair := '[' :: (innerText true true k (some u) ++ [']'])
    let alone := '[' :: (innerText true true k none ++ [']'])
    (WritesProperty pair k (some u) true ↔ ':' ∉ k) ∧
      (WritesProperty alone k none true ↔ ':' ∉ k) ∧
      (':' ∉ k → ∀ s : Scope, s.matchesText (String.ofList alone) =
        .ok (s.properties.get? (String.ofList k)).isSome) ∧
      ∀ key rest, k = key ++ ':' :: rest → ':' ∉ key →
        WritesProperty pair key (some (rest ++ ':' :: u)) true ∧
          WritesProperty alone key (if rest = [] then none else some rest) true := by
  intro pair alone
  have hpair : ':' ∉ k → WritesProperty pair k (some u) true := by
    intro hcolon
    have h : WritesProperty pair k ((some u).filter (· ≠ [])) true :=
      writesProperty_quotedPair hk hu rfl hcolon
    rwa [Option.filter_some_pos (by simp [hu.ne_nil])] at h
  have halone : ':' ∉ k → WritesProperty alone k none true := by
    intro hcolon
    have h : WritesProperty alone k (none.filter (· ≠ [])) true :=
      writesProperty_quotedKey hk rfl hcolon
    exact h
  have hcut : ∀ key rest, k = key ++ ':' :: rest → ':' ∉ key →
      WritesProperty pair key (some (rest ++ ':' :: u)) true ∧
        WritesProperty alone key (if rest = [] then none else some rest) true := by
    rintro key rest rfl hcolon
    constructor
    · have h : WritesProperty pair key ((some (rest ++ ':' :: u)).filter (· ≠ [])) true :=
        writesProperty_quotedPair hk hu (by simp [propertyText]) hcolon
      rwa [Option.filter_some_pos (by simp)] at h
    · have h : WritesProperty alone key ((some rest).filter (· ≠ [])) true :=
        writesProperty_quotedKey hk rfl hcolon
      have hfilter : (some rest).filter (· ≠ []) = if rest = [] then none else some rest := by
        by_cases hrest : rest = [] <;> simp [hrest]
      rwa [hfilter] at h
  -- a key with a colon is not read as a whole
  have hwhole : ∀ {w : List Char} {v : Option (List Char)}, WritesProperty w k v true →
      (∀ key rest, k = key ++ ':' :: rest → ':' ∉ key → ∃ v', WritesProperty w key v' true) →
      ':' ∉ k := by
    intro w v h hshort hcolon
    obtain ⟨key, rest, hkey, hfree⟩ := List.eq_append_cons_of_mem hcolon
    obtain ⟨v', h'⟩ := hshort key rest hkey hfree
    exact hfree (h.key_eq h' ▸ hcolon)
  refine ⟨⟨fun h => hwhole h ?_, hpair⟩, ⟨fun h => hwhole h ?_, halone⟩,
    fun hcolon => (halone hcolon).matchesText_eq, hcut⟩
  · exact fun key rest hkey hfree => ⟨_, (hcut key rest hkey hfree).1⟩
  · exact fun key rest hkey hfree => ⟨_, (hcut key rest hkey hfree).2⟩

/-- `["a:b":"v"]` is the property `a` with the value `b:v`, and `["a:b"]` is `a` with the value
`b`. -/
theorem parse_quotedKey_colon :
    IsQuotable ['a', ':', 'b'] ∧ IsQuotable ['v'] ∧
      ¬WritesProperty "[\"a:b\":\"v\"]".toList ['a', ':', 'b'] (some ['v']) true ∧
      WritesProperty "[\"a:b\":\"v\"]".toList ['a'] (some ['b', ':', 'v']) true ∧
      ¬WritesProperty "[\"a:b\"]".toList ['a', ':', 'b'] none true ∧
      WritesProperty "[\"a:b\"]".toList ['a'] (some ['b']) true := by
  have hk : IsQuotable ['a', ':', 'b'] := ⟨by decide, by decide, by decide⟩
  have hu : IsQuotable ['v'] := ⟨by decide, by decide, by decide⟩
  obtain ⟨hpair, halone, -, hcut⟩ := parse_quotedKey hk hu
  obtain ⟨hpairCut, haloneCut⟩ := hcut ['a'] ['b'] rfl (by decide)
  exact ⟨hk, hu, fun h => hpair.1 h (by decide), hpairCut, fun h => halone.1 h (by decide),
    haloneCut⟩

end Query

end TaskQuery
