import TaskQuery.Proofs.Match.LetterCase
import TaskQuery.Proofs.Match.Phrases
import TaskQuery.Proofs.Text.Spellings

/-!
# Phrases and terms

A phrase asks for more than a term with the same text: it has to stand as a whole.  But without
regard to letter case the two compare by different rules.  A term is compared in lower case, a
phrase letter by letter, and there are letters with several spellings in lower case.

* `hasTerm_of_sameLower`: where a phrase stands in spellings of the same lower case, the term is
  found.
* `exists_hasPhrase_not_hasTerm`: each letter with several spellings parts the two.
* `matchesLeaf_term_of_phrase`: a task that matches a phrase matches the term, with regard to letter
  case always, without it unless one of the letters stands in the task in another spelling.
-/

namespace TaskQuery.Scope

open Text FreeText

variable {s : Scope} {value : String}

/-- A word always has an answer. -/
theorem matchesLeaf_term_eq (s : Scope) (value : String) :
    s.matchesLeaf (.term value) = .ok (s.hasTerm value) := rfl

/-- With regard to letter case a term is found where the phrase stands. -/
theorem hasTerm_of_hasPhrase (hcase : s.caseSensitive = true) (h : s.hasPhrase value = true) :
    s.hasTerm value = true := by
  obtain ⟨hvalue, text, htext, hoccurs⟩ := hasPhrase_iff.1 h
  obtain ⟨before, place, after, rfl, hplace, -⟩ := occurs_iff.1 hoccurs
  obtain rfl := (spells_sameChar_iff hcase).1 hplace
  rw [hasTerm_iff]
  refine ⟨hvalue, _, htext, ?_⟩
  rw [fold, fold, if_pos hcase, if_pos hcase]
  exact ⟨before, after, List.append_assoc before value.toList after⟩

/-- Without regard to letter case a term is found where the phrase stands, when the characters of
the phrase that stand in the task have the same lower case there. -/
theorem hasTerm_of_sameLower (hcase : s.caseSensitive = false)
    (hsame : ∀ text ∈ s.task.searchable, ∀ c ∈ value.toList, ∀ d ∈ text,
      equalsIgnoringCase c d = true → SameLower c d)
    (h : s.hasPhrase value = true) : s.hasTerm value = true := by
  obtain ⟨hvalue, text, htext, hoccurs⟩ := hasPhrase_iff.1 h
  obtain ⟨before, place, after, rfl, hplace, -⟩ := occurs_iff.1 hoccurs
  rw [sameChar_of_insensitive hcase] at hplace
  have hlower : List.Forall₂ SameLower value.toList place := by
    obtain ⟨hlength, hzip⟩ := List.forall₂_iff_zip.1 hplace
    refine List.forall₂_iff_zip.2 ⟨hlength, fun {c d} hcd => ?_⟩
    obtain ⟨hc, hd⟩ := List.of_mem_zip hcd
    exact hsame _ htext c hc d (by simp [hd]) (hzip hcd)
  rw [hasTerm_iff]
  refine ⟨hvalue, _, htext, ?_⟩
  rw [fold_of_insensitive hcase]
  exact lower_infix_of_sameLower hlower before after

/-- A phrase spells itself in any letter case. -/
theorem spells_self (phrase : List Char) : Spells equalsIgnoringCase phrase phrase :=
  List.forall₂_same.2 fun c _ => equalsIgnoringCase_self c

/-- A value with a letter that has several spellings is found as a phrase, but not as a term, in the
line in which this letter is spelled otherwise. -/
theorem exists_hasPhrase_not_hasTerm {c : Char} (hc : c ∈ value.toList) (h : ¬HasOneSpelling c) :
    ∃ s : Scope, s.caseSensitive = false ∧ s.hasPhrase value = true ∧ s.hasTerm value = false := by
  obtain ⟨a, b, hvalue⟩ := List.append_of_mem hc
  have hne : value ≠ "" := by
    rintro rfl
    simp at hvalue
  obtain ⟨d, hd, hform⟩ := exists_isSpelling_of_ne h (lowerBetween a.reverse [c] b)
  have hline : a ++ d :: b ≠ [] := by simp
  refine ⟨ofLine false (a ++ d :: b), rfl, ?_, ?_⟩
  · rw [hasPhrase_iff]
    refine ⟨hne, _, mem_searchable_ofLine.2 ⟨rfl, hline⟩, ?_⟩
    rw [occurs_iff]
    refine ⟨[], a ++ d :: b, [], by simp, ?_, fun _ => rfl, fun _ => rfl⟩
    rw [sameChar_of_insensitive rfl, hvalue]
    exact List.rel_append (spells_self a) (.cons hd.equal (spells_self b))
  · rw [Bool.eq_false_iff, ne_eq, hasTerm_iff]
    rintro ⟨-, text, htext, hinfix⟩
    obtain ⟨rfl, -⟩ := mem_searchable_ofLine.1 htext
    rw [hvalue] at hinfix
    exact not_lower_infix_of_isSpelling hd hform hinfix

/-- **A phrase is no looser than the term, other spellings apart.**  With regard to letter case a
task that matches a phrase matches the term with the same text.  Without it the same holds of the
tasks in which the characters of the phrase stand in spellings of one lower case only; and of all
tasks exactly when each letter of the phrase has one spelling. -/
theorem matchesLeaf_term_of_phrase (value : String) :
    (∀ s : Scope, s.caseSensitive = true → s.matchesLeaf (.phrase value) = .ok true →
      s.matchesLeaf (.term value) = .ok true) ∧
    (∀ s : Scope, s.caseSensitive = false →
      (∀ text ∈ s.task.searchable, ∀ c ∈ value.toList, ∀ d ∈ text,
        equalsIgnoringCase c d = true → SameLower c d) →
      s.matchesLeaf (.phrase value) = .ok true → s.matchesLeaf (.term value) = .ok true) ∧
    ((∀ s : Scope, s.caseSensitive = false → s.matchesLeaf (.phrase value) = .ok true →
      s.matchesLeaf (.term value) = .ok true) ↔ ∀ c ∈ value.toList, HasOneSpelling c) := by
  simp only [matchesLeaf_phrase_eq, matchesLeaf_term_eq, Except.ok.injEq]
  refine ⟨fun s => hasTerm_of_hasPhrase, fun s => hasTerm_of_sameLower, ?_, ?_⟩
  · intro h c hc
    by_contra hspelling
    obtain ⟨s, hcase, hphrase, hterm⟩ := exists_hasPhrase_not_hasTerm hc hspelling
    rw [h s hcase hphrase] at hterm
    exact Bool.noConfusion hterm
  · intro hone s hcase
    exact hasTerm_of_sameLower hcase fun text _ c hc d _ heq => hone c hc d heq

/-- The phrase `kelvin` stands in `300 KELVIN`, written with the Kelvin sign, and so does the term,
because the sign has the lower case of the letter.  With a dotless `ı` it would be found as a phrase
only. -/
theorem matchesLeaf_term_of_phrase_kelvin :
    let s := ofLine false "300 \u212aELVIN".toList
    s.caseSensitive = false ∧
      (∀ text ∈ s.task.searchable, ∀ c ∈ "kelvin".toList, ∀ d ∈ text,
        equalsIgnoringCase c d = true → SameLower c d) ∧
      s.matchesLeaf (.phrase "kelvin") = .ok true ∧ s.matchesLeaf (.term "kelvin") = .ok true ∧
        ¬∀ s : Scope, s.caseSensitive = false → s.matchesLeaf (.phrase "kelvin") = .ok true →
          s.matchesLeaf (.term "kelvin") = .ok true := by
  intro s
  obtain ⟨-, hlike, hall⟩ := matchesLeaf_term_of_phrase "kelvin"
  have hpairs : "kelvin".toList.all (fun c => "300 \u212aELVIN".toList.all fun d =>
      decide (equalsIgnoringCase c d = true → SameLower c d)) = true := by decide +kernel
  simp only [List.all_eq_true, decide_eq_true_eq] at hpairs
  have hsame : ∀ text ∈ s.task.searchable, ∀ c ∈ "kelvin".toList, ∀ d ∈ text,
      equalsIgnoringCase c d = true → SameLower c d := by
    intro text htext c hc d hd
    obtain ⟨rfl, -⟩ := mem_searchable_ofLine.1 htext
    exact hpairs c hc d hd
  have hphrase : s.matchesLeaf (.phrase "kelvin") = .ok true := by decide +kernel
  refine ⟨rfl, hsame, hphrase, hlike s rfl hsame hphrase, ?_⟩
  rw [hall]
  intro hone
  -- the letter that has a dotless spelling
  have hi : ¬HasOneSpelling 'i' := by decide +kernel
  exact hi (hone 'i' (by decide))

/-- The long `ſ` is found as the phrase `s`, but not as the term. -/
example : (ofLine false ['ſ']).matchesLeaf (.phrase "s") = .ok true ∧
    (ofLine false ['ſ']).matchesLeaf (.term "s") = .ok false := by decide +kernel

end TaskQuery.Scope
