import TaskQuery.Proofs.DateFilter.Reading
import TaskQuery.Proofs.Match.PropertyDates
import TaskQuery.Proofs.Match.Reach
import TaskQuery.Proofs.Number.Reading
import TaskQuery.Proofs.Query.PropertyText

/-!
# Alternatives of a property

Between alternatives of a value stands `OR`, as it does between two filters.  Without quotes the
two are the same.  In quotes they are not: only the first and the last quote of the whole value are
taken off, and the inner ones stay in the alternatives.

* `Property.alternatives_append`: two alternatives are found again, without the blanks around them.
* `matchesProperty_or`: a property that lists two alternatives matches like one and then the other.
* `matchesValue_of_count`: with a single quote a value can only be a text.
* `parse_alternatives`: what `[key:a OR b]` and `[key:"a" OR "b"]` ask for.
-/

namespace TaskQuery

open Text Lexer

variable {a b key : List Char}

/-! ## Listing alternatives -/

/-- An alternative that is written as it is, in quotes or not. -/
structure IsAlternative (s : List Char) : Prop where
  /-- The alternative is not blank. -/
  not_blank : trim s ≠ []
  /-- No character has a meaning inside brackets or between alternatives. -/
  plain : ∀ c ∈ s, c ∉ ['"', '\\', '[', ']', '(', ')', ':']
  /-- The word that stands between alternatives is not in it. -/
  or : "OR".toList ∉ words s

/-- Two alternatives as they are written, each of them in quotes or none. -/
def listed (quoted : Bool) (a b : List Char) : List Char :=
  partText quoted a ++ (" OR ".toList ++ partText quoted b)

/-- A property with a key and a value as it is written. -/
def bracketed (key value : List Char) : List Char := '[' :: (key ++ ':' :: value ++ [']'])

namespace Property

/-- Alternatives around ` OR ` are found again. -/
theorem alternatives_append (ha : trim a ≠ []) (hb : trim b ≠ []) (hparen : '(' ∉ a)
    (hora : "OR".toList ∉ words a) (horb : "OR".toList ∉ words b) :
    alternatives (a ++ (" OR ".toList ++ b)) = [trim a, trim b] := by
  have htrim := trim_append ha hb " OR ".toList
  have hfront : a.dropWhile isBlank ≠ [] := by
    intro hnil
    rw [trim_eq, hnil] at ha
    exact ha rfl
  have hhead : (trim (a ++ (" OR ".toList ++ b))).head? ≠ some '(' := by
    intro h
    rw [htrim, List.head?_append_of_ne_nil _ hfront] at h
    exact hparen ((List.dropWhile_suffix isBlank).subset (List.mem_of_mem_head? h))
  have hsplit : splitOn " OR ".toList (trim (a ++ (" OR ".toList ++ b))) =
      [a.dropWhile isBlank, trimEnd b] := by
    rw [htrim]
    exact splitOn_word (w := "OR".toList) (by decide) (by decide) (by rwa [words_dropWhile])
      (by rwa [words_trimEnd])
  unfold alternatives
  simp only [hhead, decide_false, Bool.false_and, Bool.false_eq_true, if_false, hsplit,
    List.map_cons, List.map_nil, trim_dropWhile, trim_trimEnd hb]
  simp [ha, hb]

/-- Blanks around a text do not change its alternatives. -/
theorem alternatives_trim (s : List Char) : alternatives (trim s) = alternatives s := by
  unfold alternatives
  simp only [trim_trim]

/-- Without quotes there are none to take off. -/
theorem unquote_of_not_mem {s : List Char} (h : '"' ∉ s) : unquote s = s := by
  cases s with
  | nil => rfl
  | cons c s => rw [unquote, enclosed?_of_head_ne fun hc => h (hc ▸ List.mem_cons_self)]

/-- Without quotes a text is not in quotes. -/
theorem isQuoted_of_not_mem {s : List Char} (h : '"' ∉ s) : isQuoted s = false := by
  have htrim : '"' ∉ trim s := fun hmem => h ((infix_trim s).subset hmem)
  rw [isQuoted]
  cases hs : trim s with
  | nil => rfl
  | cons c t =>
    rw [enclosed?_of_head_ne fun hc => htrim (hs ▸ hc ▸ List.mem_cons_self)]
    rfl

end Property

namespace IsAlternative

/-- An alternative has none of the characters that mean something to the reader. -/
theorem not_mem (h : IsAlternative a) {c : Char}
    (hc : c ∈ ['"', '\\', '[', ']', '(', ')', ':']) : c ∉ a := fun hmem => h.plain c hmem hc

/-- An alternative, in quotes or not, is one piece for the reader of brackets. -/
theorem isSpanned (h : IsAlternative a) (quoted : Bool) : IsSpanned (partText quoted a) := by
  have hinert : ∀ c ∈ a, IsInert ']' quoted c := by
    intro c hc
    refine ⟨?_, ?_⟩
    · rintro rfl
      exact h.not_mem (by decide) hc
    · rintro rfl
      cases quoted <;> exact h.not_mem (by decide) hc
  cases quoted with
  | false => exact isSpanned_bare hinert
  | true => exact isSpanned_quotes hinert

/-- Two alternatives with `OR` between them are one piece for the reader of brackets. -/
theorem isSpanned_listed (ha : IsAlternative a) (hb : IsAlternative b) (quoted : Bool) :
    IsSpanned (listed quoted a b) := by
  have hor : IsSpanned " OR ".toList := isSpanned_bare (by simp [IsInert])
  exact (ha.isSpanned quoted).append (hor.append (hb.isSpanned quoted))

/-- An alternative is not empty. -/
theorem ne_nil (h : IsAlternative a) : a ≠ [] := by
  rintro rfl
  exact h.not_blank rfl

/-- An alternative by itself is the only one. -/
theorem alternatives_eq (h : IsAlternative a) : Property.alternatives a = [trim a] := by
  refine Property.alternatives_eq_singleton h.not_blank (h.not_mem (by decide)) ?_
  intro hspaced
  exact h.or (mem_words_of_spaced (by decide) (by decide) hspaced)

/-- Bare alternatives have no quotes. -/
theorem quote_not_mem_listed (ha : IsAlternative a) (hb : IsAlternative b) :
    '"' ∉ listed false a b := by
  have hor : '"' ∉ " OR ".toList := by decide
  simp only [listed, partText, Bool.false_eq_true, if_false, List.mem_append, not_or]
  exact ⟨ha.not_mem (by decide), hor, hb.not_mem (by decide)⟩

end IsAlternative

/-! ## Reading properties with alternatives -/

namespace Query

/-- A property without quotes keeps the value that is written. -/
theorem writesTest_unquoted {value : List Char} (hkey : IsPart key) (hspanned : IsSpanned value)
    (hquote : '"' ∉ value) (hne : trim value ≠ []) :
    WritesTest (bracketed key value)
      (.property (String.ofList (key ++ ':' :: trim value)) false) := by
  have htrim : '"' ∉ trim value := fun hmem => hquote ((infix_trim value).subset hmem)
  have h := writesTest_bareKey hkey hspanned (Property.unquote_of_not_mem htrim) hne
  rwa [Property.isQuoted_of_not_mem htrim] at h

/-- A property in quotes loses the first one and the last one. -/
theorem writesTest_quoted {value : List Char} (hkey : IsPart key)
    (hspanned : IsSpanned (partText true value)) (hbackslash : '\\' ∉ value) (hne : value ≠ []) :
    WritesTest (bracketed key (partText true value))
      (.property (String.ofList (key ++ ':' :: value)) true) := by
  have htrim : trim (partText true value) = partText true value := trim_quotes value
  have hunquote : Property.unquote (partText true value) = value := unquote_quotes hbackslash
  have hquoted : Property.isQuoted (partText true value) = true := isQuoted_quotes value
  have h := writesTest_bareKey hkey hspanned (by rw [htrim]; exact hunquote) hne
  rwa [htrim, hquoted] at h

end Query

namespace Scope

/-- A property with a key and a value matches like the alternatives of the value. -/
theorem matchesLeaf_keyValue (s : Scope) (hkey : ':' ∉ key) {value : List Char}
    {as : List (List Char)} (has : Property.alternatives value = as) (exact : Bool) :
    s.matchesLeaf (.property (String.ofList (key ++ ':' :: value)) exact) =
      Verdict.any (as.map fun a => s.matchesAlternative (String.ofList key) a exact) := by
  have hvalue := Leaf.propertyValue?_propertyText hkey (some value)
  have hkeyText := Leaf.propertyKey_propertyText hkey (some value)
  rw [propertyText] at hvalue hkeyText
  rw [matchesLeaf_property, matchesProperty_eq_any s hvalue, hkeyText, String.toList_ofList, has]

end Scope

namespace Query

variable {value : List Char} {as : List (List Char)} {exact : Bool}

/-- A property is a query that matches like the alternatives of its value. -/
theorem WritesTest.exists_parse {w : List Char}
    (h : WritesTest w (.property (String.ofList (key ++ ':' :: value)) exact)) (hkey : ':' ∉ key)
    (has : Property.alternatives value = as) :
    ∃ q, parse (String.ofList w) = .ok q ∧ ∀ s : Scope, s.evaluate q =
      Verdict.any (as.map fun a => s.matchesAlternative (String.ofList key) a exact) := by
  refine ⟨_, h.parse_eq, fun s => ?_⟩
  rw [Scope.evaluate, s.matchesLeaf_keyValue hkey has]

/-- Two properties with one alternative each are a query that tries one after the other. -/
theorem WritesTest.exists_parse_or {w w' value' : List Char}
    (h : WritesTest w (.property (String.ofList (key ++ ':' :: value)) exact))
    (h' : WritesTest w' (.property (String.ofList (key ++ ':' :: value')) exact))
    (hkey : ':' ∉ key) (ha : Property.alternatives value = [a])
    (hb : Property.alternatives value' = [b]) :
    ∃ q, parse (String.ofList (w ++ (" OR ".toList ++ w'))) = .ok q ∧ ∀ s : Scope,
      s.evaluate q = Verdict.orElse (s.matchesAlternative (String.ofList key) a exact)
        (s.matchesAlternative (String.ofList key) b exact) := by
  obtain ⟨p, p', hparse⟩ := h.parse_or h'
  refine ⟨_, hparse, fun s => ?_⟩
  rw [s.evaluate_or (by simp), List.map_cons, List.map_singleton, Scope.evaluate, Scope.evaluate,
    s.matchesLeaf_keyValue hkey ha, s.matchesLeaf_keyValue hkey hb, List.map_singleton,
    List.map_singleton, Verdict.any, Verdict.any_singleton, Verdict.any_singleton,
    Verdict.any_singleton]

/-- An alternative without quotes around it is a property that is read as it stands. -/
theorem writesTest_alternative (hkey : IsPart key) (ha : IsAlternative a) :
    WritesTest (bracketed key a) (.property (String.ofList (key ++ ':' :: trim a)) false) ∧
      Property.alternatives (trim a) = [trim a] := by
  refine ⟨writesTest_unquoted hkey (ha.isSpanned false) (ha.not_mem (by decide)) ha.not_blank, ?_⟩
  rw [Property.alternatives_trim, ha.alternatives_eq]

end Query

/-! ## A quote that is left -/

namespace Scope

variable {wanted : List Char}

/-- A single quote names no day. -/
theorem matchesPropertyDay_of_count (s : Scope) (h : wanted.count '"' = 1) (v : Value) :
    s.matchesPropertyDay wanted v = .ok false := by
  have hlower : (lower wanted).count '"' = 1 := by rw [count_lower (by decide), h]
  rw [matchesPropertyDay, DateFilter.read?, String.toList_ofList,
    DateFilter.readLower?_eq_none_of_count hlower]
  cases Property.day? s.clock v <;> rfl

/-- **With a single quote a value can only be a text.** -/
theorem matchesValue_of_count (s : Scope) (h : wanted.count '"' = 1) (v : Value) (exact : Bool) :
    s.matchesValue wanted v exact =
      if v.isTextual then s.matchesPropertyText wanted v exact else .ok false := by
  have hmem : '"' ∈ wanted := List.count_pos_iff.1 (by omega)
  have hname : ∀ name : String, '"' ∉ name.toList → String.ofList (lower wanted) ≠ name := by
    rintro name hname rfl
    rw [String.toList_ofList, ← List.count_eq_zero, count_lower (by decide), h] at hname
    cases hname
  have hbody := (matchesValue.eq_def s wanted v exact).trans (if_neg (hname "null" (by decide)))
  have hnumeric : Property.numericComparison? wanted = none :=
    Property.numericComparison?_eq_none_of_mem hmem (by decide) (by decide)
  rw [hbody, hnumeric]
  cases v with
  | null => rfl
  | bool b => cases b <;> simp [hname, Value.isTextual]
  | int n | float x =>
    simp [Property.magnitude?, Binary64.ofText?_eq_none_of_quote hmem, Value.isTextual]
  | text t | stamp t | time t | list t | object t =>
    simp only [Property.magnitude?, s.matchesPropertyDay_of_count h]
    rfl

/-- So the alternative is found in a value that has it as its text. -/
theorem matchesValue_of_count_iff (s : Scope) (h : wanted.count '"' = 1) (v : Value) :
    s.matchesValue wanted v true = .ok true ↔
      v.isTextual = true ∧
        ∃ t, v.toText s.settings.nesting = .ok t ∧ s.fold t = s.fold wanted := by
  rw [s.matchesValue_of_count h]
  by_cases htextual : v.isTextual = true
  · rw [if_pos htextual, and_iff_right htextual]
    cases htext : v.toText s.settings.nesting with
    | error fault => simp [matchesPropertyText_of_fault htext]
    | ok t => simp [matchesPropertyText_of_toText htext, comparesText]
  · simp [htextual]

/-- What goes wrong is that the value has no text. -/
theorem exists_fault_of_matchesValue (s : Scope) (h : wanted.count '"' = 1) {v : Value}
    {e : MatchError} (he : s.matchesValue wanted v true = .error e) :
    v.isTextual = true ∧
      ∃ fault, v.toText s.settings.nesting = .error fault ∧ e = .noText fault := by
  refine (day_or_noText_of_matchesValue he).resolve_left fun hday => ?_
  rw [s.matchesPropertyDay_of_count h] at hday
  cases hday

/-- Letter case adds no quote. -/
theorem quote_mem_of_fold_eq (s : Scope) {text : List Char} (h : wanted.count '"' = 1)
    (heq : s.fold text = s.fold wanted) : '"' ∈ text := by
  have hcount : ∀ u : List Char, (s.fold u).count '"' = u.count '"' := by
    intro u
    unfold fold
    split
    · rfl
    · exact count_lower (by decide) u
  refine List.count_pos_iff.1 ?_
  rw [← hcount, heq, hcount, h]
  decide

end Scope

/-! ## Both ways of asking -/

namespace Query

/-- In each of the two alternatives that are listed in quotes one quote is left. -/
theorem count_quotes_listed (ha : IsAlternative a) (hb : IsAlternative b) :
    (trim (a ++ ['"'])).count '"' = 1 ∧ (trim ('"' :: b)).count '"' = 1 := by
  have hblank : isBlank '"' = false := by decide
  have hcount : ∀ {c : List Char}, IsAlternative c → c.count '"' = 0 := fun hc =>
    List.count_eq_zero.2 (hc.not_mem (by decide))
  constructor
  · rw [count_eq_of_words_eq (words_trim _) hblank, List.count_append, hcount ha]
    rfl
  · rw [count_eq_of_words_eq (words_trim _) hblank, List.count_cons_self, hcount hb]

/-- The alternatives that are listed in quotes. -/
theorem alternatives_quotes (ha : IsAlternative a) (hb : IsAlternative b) :
    Property.alternatives (a ++ ['"'] ++ (" OR ".toList ++ '"' :: b)) =
      [trim (a ++ ['"']), trim ('"' :: b)] := by
  have hne : ∀ {s : List Char}, s.count '"' = 1 → s ≠ [] := by
    rintro s hs rfl
    cases hs
  obtain ⟨hcounta, hcountb⟩ := count_quotes_listed ha hb
  refine Property.alternatives_append (hne hcounta) (hne hcountb) ?_ (fun hmem => ?_) fun hmem => ?_
  · simpa using ha.not_mem (by decide)
  · exact (mem_words_append_cons (by decide) (by decide) (by decide) hmem).elim ha.or (by decide)
  · exact (mem_words_append_cons (a := []) (by decide) (by decide) (by decide) hmem).elim
      (by decide) hb.or

/-- Without quotes, `OR` between alternatives is `OR` between filters. -/
theorem parse_unquoted (hkey : IsPart key) (ha : IsAlternative a) (hb : IsAlternative b) :
    ∃ q q', parse (String.ofList (bracketed key (listed false a b))) = .ok q ∧
      parse (String.ofList (bracketed key a ++ (" OR ".toList ++ bracketed key b))) = .ok q' ∧
      ∀ s : Scope, s.evaluate q = s.evaluate q' := by
  obtain ⟨hwritesa, halternativesa⟩ := writesTest_alternative hkey ha
  obtain ⟨hwritesb, halternativesb⟩ := writesTest_alternative hkey hb
  have hlisted : Property.alternatives (trim (listed false a b)) = [trim a, trim b] :=
    (Property.alternatives_trim _).trans (Property.alternatives_append ha.not_blank hb.not_blank
      (ha.not_mem (by decide)) ha.or hb.or)
  have hne : trim (listed false a b) ≠ [] := by
    have hmem : 'O' ∈ listed false a b := by simp [listed]
    exact List.ne_nil_of_mem ((mem_iff_of_words_eq (words_trim _) (by decide)).2 hmem)
  obtain ⟨q, hq, heval⟩ := (writesTest_unquoted hkey (ha.isSpanned_listed hb false)
    (ha.quote_not_mem_listed hb) hne).exists_parse hkey.colon_not_mem hlisted
  obtain ⟨q', hq', heval'⟩ :=
    hwritesa.exists_parse_or hwritesb hkey.colon_not_mem halternativesa halternativesb
  refine ⟨q, q', hq, hq', fun s => ?_⟩
  rw [heval, heval', List.map_cons, List.map_singleton, Verdict.any, Verdict.any_singleton]

/-- In quotes, each listed alternative keeps the quote that stands next to `OR`. -/
theorem parse_quotes (hkey : IsPart key) (ha : IsAlternative a) (hb : IsAlternative b) :
    ∃ q, parse (String.ofList (bracketed key (listed true a b))) = .ok q ∧ ∀ s : Scope,
      s.evaluate q = Verdict.any ([trim (a ++ ['"']), trim ('"' :: b)].flatMap fun w =>
        (s.valuesUnder (String.ofList key)).map fun v => s.matchesValue w v true) := by
  have hlisted : listed true a b = partText true (a ++ ['"'] ++ (" OR ".toList ++ '"' :: b)) := by
    simp [listed, partText]
  have hspanned := ha.isSpanned_listed hb true
  have hbackslash : '\\' ∉ a ++ ['"'] ++ (" OR ".toList ++ '"' :: b) := by
    simp [ha.not_mem (c := '\\') (by decide), hb.not_mem (c := '\\') (by decide)]
  rw [hlisted] at hspanned ⊢
  have hwrites := writesTest_quoted hkey hspanned hbackslash (by simp)
  obtain ⟨q, hq, heval⟩ := hwrites.exists_parse hkey.colon_not_mem (alternatives_quotes ha hb)
  refine ⟨q, hq, fun s => ?_⟩
  rw [heval, Verdict.any_flatMap]
  rfl

/-- **Alternatives of a property.**  Without quotes `[key:a OR b]` is `[key:a] OR [key:b]`: it has
the same result, or the same error, in every scope.  In quotes the two differ: `[key:"a" OR "b"]`
asks for the texts `a"` and `"b` and finds no text without a quote, and it fails only where a value
has no text, while `[key:"a"] OR [key:"b"]` asks for `a` and for `b`. -/
theorem parse_alternatives (hkey : IsPart key) (ha : IsAlternative a) (hb : IsAlternative b) :
    (∃ q q', parse (String.ofList (bracketed key (listed false a b))) = .ok q ∧
      parse (String.ofList (bracketed key a ++ (" OR ".toList ++ bracketed key b))) = .ok q' ∧
      ∀ s : Scope, s.evaluate q = s.evaluate q') ∧
    ∃ q q', parse (String.ofList (bracketed key (listed true a b))) = .ok q ∧
      parse (String.ofList (bracketed key (partText true a) ++
        (" OR ".toList ++ bracketed key (partText true b)))) = .ok q' ∧
      ∀ s : Scope,
        ((∃ found, s.evaluate q = .ok found ∧
            (found = true ↔ ∃ v ∈ s.valuesUnder (String.ofList key), v.isTextual = true ∧
              ∃ t, v.toText s.settings.nesting = .ok t ∧
                (s.fold t = s.fold (trim (a ++ ['"'])) ∨ s.fold t = s.fold (trim ('"' :: b)))) ∧
            (found = true → ∃ v ∈ s.valuesUnder (String.ofList key),
              ∃ t, v.toText s.settings.nesting = .ok t ∧ '"' ∈ t)) ∨
          ∃ v ∈ s.valuesUnder (String.ofList key), v.isTextual = true ∧
            ∃ fault, v.toText s.settings.nesting = .error fault ∧
              s.evaluate q = .error (.noText fault)) ∧
        s.evaluate q' =
          Verdict.orElse (s.matchesAlternative (String.ofList key) (trim a) true)
            (s.matchesAlternative (String.ofList key) (trim b) true) := by
  have hone : ∀ {c : List Char}, IsAlternative c →
      WritesTest (bracketed key (partText true c))
        (.property (String.ofList (key ++ ':' :: c)) true) :=
    fun hc => writesTest_quoted hkey (hc.isSpanned true) (hc.not_mem (by decide)) hc.ne_nil
  obtain ⟨hcounta, hcountb⟩ := count_quotes_listed ha hb
  obtain ⟨q, hq, heval⟩ := parse_quotes hkey ha hb
  obtain ⟨q', hq', heval'⟩ :=
    (hone ha).exists_parse_or (hone hb) hkey.colon_not_mem ha.alternatives_eq hb.alternatives_eq
  refine ⟨parse_unquoted hkey ha hb, q, q', hq, hq', fun s => ⟨?_, heval' s⟩⟩
  have hcount : ∀ w ∈ [trim (a ++ ['"']), trim ('"' :: b)], w.count '"' = 1 :=
    List.forall_mem_cons.2 ⟨hcounta, List.forall_mem_singleton.2 hcountb⟩
  cases hresult : s.evaluate q with
  | error e =>
    rw [heval] at hresult
    obtain ⟨w, hw, hmem⟩ := List.mem_flatMap.1 (Verdict.mem_of_any_eq_error hresult)
    obtain ⟨v, hv, he⟩ := List.mem_map.1 hmem
    obtain ⟨htextual, fault, htext, rfl⟩ := s.exists_fault_of_matchesValue (hcount w hw) he
    exact .inr ⟨v, hv, htextual, fault, htext, rfl⟩
  | ok found =>
    rw [heval] at hresult
    have hfound : found = true ↔ ∃ v ∈ s.valuesUnder (String.ofList key), v.isTextual = true ∧
        ∃ t, v.toText s.settings.nesting = .ok t ∧
          (s.fold t = s.fold (trim (a ++ ['"'])) ∨ s.fold t = s.fold (trim ('"' :: b))) := by
      rw [Verdict.eq_true_iff_of_any_eq_ok hresult]
      simp only [List.mem_flatMap, List.mem_map, List.mem_cons, List.not_mem_nil, or_false,
        exists_eq_or_imp, exists_eq_left, s.matchesValue_of_count_iff hcounta,
        s.matchesValue_of_count_iff hcountb, and_or_left, exists_or]
    refine .inl ⟨found, rfl, hfound, fun htrue => ?_⟩
    obtain ⟨v, hv, -, t, ht, heq | heq⟩ := hfound.1 htrue
    · exact ⟨v, hv, t, ht, s.quote_mem_of_fold_eq hcounta heq⟩
    · exact ⟨v, hv, t, ht, s.quote_mem_of_fold_eq hcountb heq⟩

/-- Where the property `k` is the text `x`, `[k:"x" OR "y"]` does not match, but
`[k:"x"] OR [k:"y"]` does. -/
theorem parse_alternatives_letters :
    let s : Scope :=
      { task := { path := "a.md" }, caseSensitive := false, settings := {}
        properties := [("k", .text "x")], clock := ⟨2024, 1, 10, by decide⟩ }
    IsPart ['k'] ∧ IsAlternative ['x'] ∧ IsAlternative ['y'] ∧
      (∃ q q', parse "[k:x OR y]" = .ok q ∧ parse "[k:x] OR [k:y]" = .ok q' ∧
        ∀ s : Scope, s.evaluate q = s.evaluate q') ∧
      ∃ q q', parse "[k:\"x\" OR \"y\"]" = .ok q ∧ parse "[k:\"x\"] OR [k:\"y\"]" = .ok q' ∧
        s.evaluate q = .ok false ∧ s.evaluate q' = .ok true := by
  intro s
  have hkey : IsPart ['k'] := isPart_of_isAsciiLetter (by decide) (by decide)
  have hx : IsAlternative ['x'] := ⟨by decide, List.forall_mem_singleton.2 (by decide), by decide⟩
  have hy : IsAlternative ['y'] := ⟨by decide, List.forall_mem_singleton.2 (by decide), by decide⟩
  obtain ⟨hbare, q, q', hq, hq', heval⟩ := parse_alternatives hkey hx hy
  obtain ⟨hresult, heval'⟩ := heval s
  refine ⟨hkey, hx, hy, hbare, q, q', hq, hq', ?_, ?_⟩
  · rcases hresult with ⟨found, hfound, -, hquote⟩ | ⟨v, hv, -, fault, hfault, -⟩
    · cases found with
      | false => exact hfound
      | true =>
        obtain ⟨v, hv, t, ht, hmem⟩ := hquote rfl
        obtain rfl : v = .text "x" := List.mem_singleton.1 hv
        rw [← Except.ok.inj ht] at hmem
        exact absurd hmem (by decide)
    · obtain rfl : v = .text "x" := List.mem_singleton.1 hv
      cases hfault
  · rw [heval']
    decide +kernel

end Query

end TaskQuery
