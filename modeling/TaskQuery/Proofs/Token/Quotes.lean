import Mathlib.Data.List.TakeWhile
import TaskQuery.Proofs.Text.Quoting
import TaskQuery.Proofs.Token.Gluing
import TaskQuery.Proofs.Token.Tiling

/-!
# Texts in double quotes, read pair by pair

Behind an opening quote the text is read in units: a backslash together with the character behind
it, or a single character.  The first quote that is a unit of its own closes, and without one the
quotes run to the end of the query.

* `units`, `meaning`: the units of a text, and what each of them stands for.
* `quotedSpan_fst`, `quotedValue_quotedSpan`: what is taken up, and which value that gives.
* `ReadsQuotes`: pieces and the text that they start; `readsQuotes_chunk` says of all readers that a
  quoted piece is what stands behind an opening quote.
* `scan_quoted`: the tokens in double quotes of every query.  Their value is what their units stand
  for, with one exception: an escaped quote at the end of a query that leaves the quotes open is
  taken for the closing one.
-/

namespace TaskQuery

open Text

namespace Lexer

/-- The units behind an opening quote: a backslash takes the next character with it. -/
def units : List Char → List (List Char)
  | [] => []
  | '\\' :: c :: cs => ['\\', c] :: units cs
  | c :: cs => [c] :: units cs

/-- What a unit stands for: a backslash in front of a quote is dropped. -/
def meaning (u : List Char) : List Char := if u = ['\\', '"'] then ['"'] else u

/-- The units in front of the first quote that stands alone. -/
def contents (cs : List Char) : List (List Char) := (units cs).takeWhile (· ≠ ['"'])

/-- The quotes are closed: some quote stands alone. -/
def IsClosed (cs : List Char) : Prop := ['"'] ∈ units cs

/-- Whether quotes are closed can be checked. -/
instance (cs : List Char) : Decidable (IsClosed cs) := inferInstanceAs (Decidable (_ ∈ _))

/-! ## Unit by unit -/

/-- A text is empty, or it starts with a pair, with a quote or with another character. -/
theorem induction_units {P : List Char → Prop} (nil : P [])
    (pair : ∀ c cs, P cs → P ('\\' :: c :: cs)) (quote : ∀ cs, P ('"' :: cs))
    (single : ∀ c cs, c ≠ '"' → (c = '\\' → cs = []) → P cs → P (c :: cs)) (cs : List Char) :
    P cs := by
  induction cs using units.induct with
  | case1 => exact nil
  | case2 c cs ih => exact pair c cs ih
  | case3 c cs hpair ih =>
    by_cases hquote : c = '"'
    · exact hquote ▸ quote cs
    · refine single c cs hquote ?_ ih
      rintro rfl
      cases cs with
      | nil => rfl
      | cons d cs => exact absurd rfl (hpair d cs rfl)

variable {cs : List Char} {c : Char}

/-- An escaped character is one unit of the contents. -/
theorem contents_pair (c : Char) (cs : List Char) :
    contents ('\\' :: c :: cs) = ['\\', c] :: contents cs := by
  rw [contents, units, List.takeWhile_cons_of_pos (by simp), contents]

/-- An escaped character does not close the quotes. -/
theorem isClosed_pair : IsClosed ('\\' :: c :: cs) ↔ IsClosed cs := by simp [IsClosed, units]

/-- A quote is a unit. -/
theorem units_quote (cs : List Char) : units ('"' :: cs) = ['"'] :: units cs := by
  rw [units]
  simp

/-- The contents end at a quote. -/
theorem contents_quote (cs : List Char) : contents ('"' :: cs) = [] := by
  rw [contents, units_quote, List.takeWhile_cons_of_neg (by simp)]

/-- A quote closes the quotes. -/
theorem isClosed_quote (cs : List Char) : IsClosed ('"' :: cs) := by simp [IsClosed, units_quote]

/-- Any other character is a unit, and so is a backslash at the end. -/
theorem units_single (hpair : c = '\\' → cs = []) : units (c :: cs) = [c] :: units cs := by
  rw [units]
  rintro d ds rfl rfl
  cases hpair rfl

/-- Any other character is a unit of the contents. -/
theorem contents_single (hquote : c ≠ '"') (hpair : c = '\\' → cs = []) :
    contents (c :: cs) = [c] :: contents cs := by
  rw [contents, units_single hpair, List.takeWhile_cons_of_pos (by simpa using hquote), contents]

/-- Any other character does not close the quotes. -/
theorem isClosed_single (hquote : c ≠ '"') (hpair : c = '\\' → cs = []) :
    IsClosed (c :: cs) ↔ IsClosed cs := by
  simp [IsClosed, units_single hpair, hquote.symm]

/-! ## What is taken up -/

/-- Behind the opening quote the contents are taken up, and the closing quote if there is one. -/
theorem quotedSpan_fst (cs : List Char) :
    (quotedSpan cs).1 = (contents cs).flatten ++ if IsClosed cs then ['"'] else [] := by
  induction cs using induction_units with
  | nil => rfl
  | pair c cs ih =>
    simp only [quotedSpan, contents_pair, isClosed_pair, ih]
    rfl
  | quote cs =>
    rw [quotedSpan, contents_quote, if_pos (isClosed_quote cs)]
    rfl
  | single c cs hquote hpair ih =>
    rw [quotedSpan]
    · simp only [contents_single hquote hpair, isClosed_single hquote hpair, ih]
      rfl
    · rintro d ds rfl rfl
      cases hpair rfl
    · exact hquote

/-! ## What the units stand for -/

/-- A unit is a pair or a single character. -/
theorem pair_or_single {u : List Char} (hu : u ∈ units cs) :
    (∃ c, u = ['\\', c]) ∨ ∃ c, u = [c] := by
  induction cs using units.induct with
  | case1 => cases hu
  | case2 c cs ih =>
    rw [units, List.mem_cons] at hu
    exact hu.elim (fun h => .inl ⟨c, h⟩) ih
  | case3 c cs hpair ih =>
    rw [units, List.mem_cons] at hu
    · exact hu.elim (fun h => .inr ⟨c, h⟩) ih
    · exact hpair

/-- A unit among the contents of quotes. -/
def IsContent (u : List Char) : Prop := (∃ c, u = ['\\', c]) ∨ ∃ c, c ≠ '"' ∧ u = [c]

/-- The units of the contents are no quotes. -/
theorem isContent_of_mem {u : List Char} (hu : u ∈ contents cs) : IsContent u := by
  have hne : u ≠ ['"'] := by simpa using List.all_eq_true.1 List.all_takeWhile u hu
  refine (pair_or_single ((List.takeWhile_prefix _).subset hu)).imp_right ?_
  rintro ⟨c, rfl⟩
  refine ⟨c, ?_, rfl⟩
  rintro rfl
  exact hne rfl

/-- No quote stands where a unit starts. -/
theorem head?_flatten_append {us : List (List Char)} {t : List Char} (hus : ∀ u ∈ us, IsContent u)
    (ht : t.head? ≠ some '"') : (us.flatten ++ t).head? ≠ some '"' := by
  cases us with
  | nil => exact ht
  | cons u us =>
    obtain ⟨c, rfl⟩ | ⟨c, hc, rfl⟩ := hus u List.mem_cons_self
    · simp
    · simpa using hc

/-- To undo the escaped quotes from left to right is to do it in every unit. -/
theorem unescapeQuotes_flatten_append {us : List (List Char)} {t : List Char}
    (hus : ∀ u ∈ us, IsContent u) (ht : t.head? ≠ some '"') :
    unescapeQuotes (us.flatten ++ t) = us.flatMap meaning ++ unescapeQuotes t := by
  induction us with
  | nil => rfl
  | cons u us ih =>
    obtain ⟨hu, hrest⟩ := List.forall_mem_cons.1 hus
    have hhead := head?_flatten_append hrest ht
    rw [List.flatten_cons, List.flatMap_cons, List.append_assoc, List.append_assoc, ← ih hrest]
    obtain ⟨c, rfl⟩ | ⟨c, hc, rfl⟩ := hu
    · by_cases hc : c = '"'
      · subst hc
        simp [meaning, unescapeQuotes]
      · -- the pair is kept, and its second character escapes no quote
        rw [meaning, if_neg (by simpa using hc), List.cons_append, List.cons_append,
          List.nil_append, unescapeQuotes_cons_of_head (by simpa using hc),
          unescapeQuotes_cons_of_head fun _ => hhead]
        rfl
    · rw [meaning, if_neg (by simp), List.singleton_append,
        unescapeQuotes_cons_of_head fun _ => hhead]
      rfl

/-- The quotes are left open and an escaped quote stands at the end. -/
def EndsEscaped (cs : List Char) : Prop :=
  ¬IsClosed cs ∧ (units cs).getLast? = some ['\\', '"']

/-- Whether quotes end escaped can be checked. -/
instance (cs : List Char) : Decidable (EndsEscaped cs) := inferInstanceAs (Decidable (_ ∧ _))

/-- Quotes that are not closed have all that follows as contents. -/
theorem contents_of_not_isClosed (h : ¬IsClosed cs) : contents cs = units cs := by
  refine List.takeWhile_eq_self_iff.2 fun u hu => ?_
  rw [decide_eq_true_eq]
  rintro rfl
  exact h hu

/-- The contents end with a quote only where it is escaped. -/
theorem getLast?_contents_iff (cs : List Char) :
    (contents cs).flatten.getLast? = some '"' ↔ (contents cs).getLast? = some ['\\', '"'] := by
  cases hlast : (contents cs).getLast? with
  | none =>
    rw [List.getLast?_eq_none_iff] at hlast
    simp [hlast]
  | some u =>
    obtain ⟨us, hus⟩ := List.getLast?_eq_some_iff.1 hlast
    have hu : u ∈ contents cs := hus ▸ List.mem_append_right us List.mem_cons_self
    rw [hus, List.flatten_append, Option.some.injEq]
    obtain ⟨c, rfl⟩ | ⟨c, hc, rfl⟩ := isContent_of_mem hu
    · simp
    · simp [hc]

/-- An escaped quote at the end of open quotes stands for a quote. -/
theorem flatMap_meaning_of_endsEscaped (h : EndsEscaped cs) :
    (contents cs).flatMap meaning = (contents cs).dropLast.flatMap meaning ++ ['"'] := by
  obtain ⟨hopen, hlast⟩ := h
  obtain ⟨us, hus⟩ := List.getLast?_eq_some_iff.1 (contents_of_not_isClosed hopen ▸ hlast)
  rw [hus, List.dropLast_concat, List.flatMap_append]
  rfl

/-- The value of what is taken up is what its units stand for, unless the quotes are left open with
an escaped quote at the end: that quote is dropped like a closing one, and its backslash stays. -/
theorem quotedValue_quotedSpan (cs : List Char) :
    quotedValue (quotedSpan cs).1 =
      if EndsEscaped cs then (contents cs).dropLast.flatMap meaning ++ ['\\']
      else (contents cs).flatMap meaning := by
  have hvalue : unescapeQuotes (contents cs).flatten = (contents cs).flatMap meaning := by
    have happ : unescapeQuotes ((contents cs).flatten ++ []) =
        (contents cs).flatMap meaning ++ [] :=
      unescapeQuotes_flatten_append (fun _ => isContent_of_mem) (by simp)
    rwa [List.append_nil, List.append_nil] at happ
  rw [quotedSpan_fst, quotedValue]
  by_cases hclosed : IsClosed cs
  · rw [if_pos hclosed, if_pos List.getLast?_concat, List.dropLast_concat, hvalue,
      if_neg fun h => h.1 hclosed]
  rw [if_neg hclosed, List.append_nil]
  by_cases hlast : (units cs).getLast? = some ['\\', '"']
  · have hcontents := contents_of_not_isClosed hclosed
    obtain ⟨us, hus⟩ := List.getLast?_eq_some_iff.1 (hcontents ▸ hlast)
    have hchars : (us ++ [['\\', '"']]).flatten = us.flatten ++ ['\\'] ++ ['"'] := by simp
    have hall : ∀ u ∈ us, IsContent u := by
      intro u hu
      exact isContent_of_mem (hus ▸ List.mem_append_left _ hu)
    rw [if_pos ((getLast?_contents_iff cs).2 (hcontents ▸ hlast)), if_pos ⟨hclosed, hlast⟩, hus,
      hchars, List.dropLast_concat, List.dropLast_concat,
      unescapeQuotes_flatten_append hall (by simp)]
    rfl
  · have hopen : (contents cs).flatten.getLast? ≠ some '"' := by
      rw [ne_eq, getLast?_contents_iff, contents_of_not_isClosed hclosed]
      exact hlast
    rw [if_neg hopen, hvalue, if_neg fun h => hlast h.2]

/-! ## Which pieces are quoted -/

/-- A piece at the front of a text is quoted exactly when a quote stands there, and then it is what
`quoted` reads behind that quote. -/
def ReadsQuote (s : List Char) (p : Piece) : Prop :=
  if p.kind.isQuoted then ∃ cs, s = '"' :: cs ∧ p = (quoted p.kind cs).1 else s.head? ≠ some '"'

/-- All pieces that stand next to each other at the front of a text are as they should be. -/
def ReadsQuotes : List Char → List Piece → Prop
  | _, [] => True
  | s, p :: ps => ReadsQuote s p ∧ ReadsQuotes (s.drop p.lexeme.length) ps

/-- What is read behind a quote is quoted. -/
theorem readsQuote_quoted {kind : Token.Kind} (h : kind.isQuoted = true) (cs : List Char) :
    ReadsQuote ('"' :: cs) (quoted kind cs).1 := by
  have hkind : (quoted kind cs).1.kind.isQuoted = true := h
  rw [ReadsQuote, if_pos hkind]
  exact ⟨cs, rfl, rfl⟩

/-- What begins with no quote is not quoted. -/
theorem readsQuote_cons {p : Piece} (hkind : p.kind.isQuoted = false) (hc : c ≠ '"')
    (cs : List Char) : ReadsQuote (c :: cs) p := by
  rw [ReadsQuote, if_neg (by simp [hkind])]
  simpa using hc

/-- A quote stands in no bare word. -/
theorem ne_quote_of_isBare (h : isBare c = true) : c ≠ '"' := by
  rintro rfl
  exact absurd h (by decide)

/-- The end of a range is quoted where a quote stands. -/
theorem readsQuotes_rangeEnd (s : List Char) : ReadsQuotes s (rangeEnd s).1 := by
  unfold rangeEnd
  split
  · trivial
  · exact ⟨readsQuote_quoted rfl _, trivial⟩
  · split
    · next hc => exact ⟨readsQuote_cons rfl (ne_quote_of_isBare hc) _, trivial⟩
    · trivial

/-- A range is quoted where a quote stands. -/
theorem readsQuotes_rangeTail (s : List Char) : ReadsQuotes s (rangeTail s).1 := by
  unfold rangeTail
  split
  · exact ⟨readsQuote_cons rfl (by decide) _, readsQuotes_rangeEnd _⟩
  · trivial

/-- The value of a field is quoted where a quote stands. -/
theorem readsQuotes_fieldValue (s : List Char) : ReadsQuotes s (fieldValue s).1 := by
  unfold fieldValue
  split
  · trivial
  · next cs =>
    refine ⟨readsQuote_quoted rfl cs, ?_⟩
    -- behind the quoted value the text goes on where its quotes end
    have hdrop : ('"' :: cs).drop (quoted .quotedValue cs).1.lexeme.length =
        (quoted .quotedValue cs).2 := by
      rw [← quoted_append .quotedValue cs, List.drop_left]
    show ReadsQuotes (('"' :: cs).drop (quoted .quotedValue cs).1.lexeme.length)
      (rangeTail (quoted .quotedValue cs).2).1
    rw [hdrop]
    exact readsQuotes_rangeTail _
  · split
    · next hc => exact ⟨readsQuote_cons rfl (ne_quote_of_isBare hc) _, readsQuotes_rangeTail _⟩
    · trivial

/-- A word is not quoted. -/
theorem isQuoted_wordKind (w : List Char) : (wordKind w).isQuoted = false := by
  unfold wordKind
  split <;> rfl

/-- A field or word is quoted where a quote stands. -/
theorem readsQuotes_fieldOrWord (hc : c ≠ '"') (cs : List Char) :
    ReadsQuotes (c :: cs) (fieldOrWord (c :: cs)).1 := by
  unfold fieldOrWord
  split
  · next name rest h =>
    refine ⟨readsQuote_cons rfl hc cs, ?_⟩
    have hdrop : (c :: cs).drop (name ++ [':']).length = rest := by
      rw [← fieldName?_append h, List.append_cons name ':' rest, List.drop_left]
    show ReadsQuotes ((c :: cs).drop (name ++ [':']).length) (fieldValue rest).1
    rw [hdrop]
    exact readsQuotes_fieldValue rest
  · exact ⟨readsQuote_cons (isQuoted_wordKind _) hc cs, trivial⟩

/-- A chunk is quoted where a quote stands. -/
theorem readsQuotes_chunk (c : Char) (cs : List Char) : ReadsQuotes (c :: cs) (chunk c cs).1 := by
  unfold chunk
  split
  · exact ⟨readsQuote_cons rfl (by decide) cs, trivial⟩
  · exact ⟨readsQuote_cons rfl (by decide) cs, trivial⟩
  · exact ⟨readsQuote_quoted rfl cs, trivial⟩
  · split
    · next p rest hp =>
      have hkind : p.kind.isQuoted = false := by
        rw [kind_of_property? hp]
        rfl
      exact ⟨readsQuote_cons hkind (by decide) cs, trivial⟩
    · exact readsQuotes_fieldOrWord (by decide) cs
  · split
    · exact ⟨readsQuote_cons rfl (by decide) cs, trivial⟩
    · exact readsQuotes_fieldOrWord (by decide) cs
  · next _ _ hquote _ _ => exact readsQuotes_fieldOrWord hquote cs

/-- A token is a piece at the front of the text from its position on. -/
theorem exists_piece_of_mem_place {position : Nat} {s : List Char} {ps : List Piece}
    (h : ReadsQuotes s ps) : ∀ t ∈ Piece.place position ps, ∃ p, t = p.toToken t.position ∧
      position ≤ t.position ∧ ReadsQuote (s.drop (t.position - position)) p := by
  induction ps generalizing position s with
  | nil => simp [Piece.place]
  | cons p ps ih =>
    obtain ⟨hp, hps⟩ := h
    refine List.forall_mem_cons.2 ⟨⟨p, rfl, Nat.le_refl _, ?_⟩, fun t ht => ?_⟩
    · show ReadsQuote (s.drop (position - position)) p
      rwa [Nat.sub_self]
    · obtain ⟨q, hq, hle, hreads⟩ := ih hps t ht
      refine ⟨q, hq, Nat.le_of_add_right_le hle, ?_⟩
      rwa [List.drop_drop, ← Nat.sub_sub, Nat.add_sub_cancel' (Nat.le_sub_of_add_le' hle)] at hreads

/-- Every token is a piece read where it stands. -/
theorem exists_piece_of_mem_tokensFrom (position : Nat) (s : List Char) :
    ∀ t ∈ tokensFrom position s, ∃ p, t = p.toToken t.position ∧
      position ≤ t.position ∧ ReadsQuote (s.drop (t.position - position)) p := by
  fun_induction tokensFrom position s with
  | case1 position => simp
  | case2 position c cs hc ih =>
    intro t ht
    obtain ⟨p, hp, hle, hreads⟩ := ih t ht
    refine ⟨p, hp, by omega, ?_⟩
    rwa [show t.position - position = t.position - (position + 1) + 1 by omega,
      List.drop_succ_cons]
  | case3 position c cs hc ih =>
    intro t ht
    rcases List.mem_append.1 ht with ht | ht
    · exact exists_piece_of_mem_place (readsQuotes_chunk c cs) t ht
    · obtain ⟨p, hp, hle, hreads⟩ := ih t ht
      refine ⟨p, hp, by omega, ?_⟩
      rwa [← chunk_append c cs, show t.position - position = (Piece.text (chunk c cs).1).length +
        (t.position - (position + (Piece.text (chunk c cs).1).length)) by omega,
        List.drop_length_add_append]

end Lexer

open Lexer

/-- **Tokens in double quotes.**  The tokens that start at a quote are the phrases, quoted values
and quoted ends of ranges.  Let `cs` be what stands behind the opening quote in the query.  Then
the token takes up the units of `cs` to the first quote that stands alone, or to the end of the
query if there is none, and its value is what the units between the quotes stand for, unless the
quotes are left open and an escaped quote stands at the end: that quote is missing in the value,
where its backslash is kept instead. -/
theorem scan_quoted {query : String} {t : Token} (ht : t ∈ Token.scan query) :
    ((∃ cs, query.toList.drop t.position = '"' :: cs) ↔ t.kind.isQuoted = true) ∧
      ∀ cs, query.toList.drop t.position = '"' :: cs →
        t.lexeme.toList = '"' :: (contents cs).flatten ++ (if IsClosed cs then ['"'] else []) ∧
        (t.value.toList = (contents cs).flatMap meaning ↔ ¬EndsEscaped cs) ∧
        (EndsEscaped cs →
          t.value.toList = (contents cs).dropLast.flatMap meaning ++ ['\\']) := by
  obtain ⟨p, hp, -, hreads⟩ := exists_piece_of_mem_tokensFrom 0 query.toList t ht
  rw [Nat.sub_zero] at hreads
  have hkind : t.kind = p.kind := by rw [hp]; rfl
  by_cases hquoted : p.kind.isQuoted = true
  · rw [ReadsQuote, if_pos hquoted] at hreads
    obtain ⟨cs, hcs, hpiece⟩ := hreads
    refine ⟨iff_of_true ⟨cs, hcs⟩ (hkind ▸ hquoted), fun cs' hcs' => ?_⟩
    obtain rfl : cs = cs' := by simpa [hcs] using hcs'
    have hlexeme : t.lexeme.toList = '"' :: (quotedSpan cs).1 := by
      rw [hp, Piece.toToken, String.toList_ofList, hpiece]
      rfl
    have hvalue : t.value.toList = quotedValue (quotedSpan cs).1 := by
      rw [hp, Piece.toToken, String.toList_ofList, hpiece]
      rfl
    rw [hlexeme, hvalue, quotedValue_quotedSpan]
    refine ⟨by rw [quotedSpan_fst]; rfl, ?_, fun hends => if_pos hends⟩
    by_cases hends : EndsEscaped cs
    · rw [if_pos hends, flatMap_meaning_of_endsEscaped hends]
      simp [hends]
    · simp [hends]
  · rw [ReadsQuote, if_neg hquoted] at hreads
    have hno : ∀ cs, query.toList.drop t.position ≠ '"' :: cs := by
      intro cs hcs
      exact hreads (by rw [hcs]; rfl)
    refine ⟨iff_of_false ?_ (hkind ▸ hquoted), ?_⟩
    · rintro ⟨cs, hcs⟩
      exact hno cs hcs
    · intro cs hcs
      exact absurd hcs (hno cs)

/-- The phrase at the end of `"say \"hi\"" "a\"` is left open with an escaped quote at its end: its
value is `a` with a backslash, where the units stand for `a` with a quote. -/
theorem scan_quoted_open :
    let query := "\"say \\\"hi\\\"\" \"a\\\""
    let t : Token := ⟨.phrase, "a\\", "\"a\\\"", 13⟩
    t ∈ Token.scan query ∧ query.toList.drop 13 = '"' :: ['a', '\\', '"'] ∧
      EndsEscaped ['a', '\\', '"'] ∧
      t.value.toList ≠ (contents ['a', '\\', '"']).flatMap meaning ∧
      t.value.toList = (contents ['a', '\\', '"']).dropLast.flatMap meaning ++ ['\\'] := by
  intro query t
  have ht : t ∈ Token.scan query := by decide +kernel
  have hdrop : query.toList.drop t.position = '"' :: ['a', '\\', '"'] := by decide
  have hends : EndsEscaped ['a', '\\', '"'] := by decide
  obtain ⟨-, hreads⟩ := scan_quoted ht
  obtain ⟨-, hiff, hvalue⟩ := hreads _ hdrop
  exact ⟨ht, hdrop, hends, fun h => hiff.1 h hends, hvalue hends⟩

end TaskQuery
