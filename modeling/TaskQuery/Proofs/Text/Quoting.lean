import TaskQuery.Text.Span

/-!
# Texts written in double quotes

A text is put in double quotes with a backslash in front of every double quote inside.  Only such
backslashes are undone, so that a text without a backslash of its own is read back.

* `inQuotes` writes a text in double quotes.
* `unescapeQuotes_escapeQuotes`, `enclosed?_quotes`: a text without backslashes is read back.
-/

namespace TaskQuery.Text

variable {s : List Char}

/-- A backslash is put in front of every double quote. -/
def escapeQuotes : List Char → List Char
  | [] => []
  | '"' :: cs => '\\' :: '"' :: escapeQuotes cs
  | c :: cs => c :: escapeQuotes cs

/-- A text in double quotes. -/
def inQuotes (s : List Char) : List Char := '"' :: (escapeQuotes s ++ ['"'])

/-- Only a quote is escaped. -/
theorem escapeQuotes_cons {c : Char} (h : c ≠ '"') (cs : List Char) :
    escapeQuotes (c :: cs) = c :: escapeQuotes cs := by
  rw [escapeQuotes]
  exact h

/-- All characters are kept but for a backslash in front of a quote. -/
theorem unescapeQuotes_cons_of_head {c : Char} (h : c = '\\' → s.head? ≠ some '"') :
    unescapeQuotes (c :: s) = c :: unescapeQuotes s := by
  rw [unescapeQuotes]
  rintro cs rfl rfl
  exact h rfl rfl

/-- Only a backslash escapes. -/
theorem unescapeQuotes_cons {c : Char} (h : c ≠ '\\') (cs : List Char) :
    unescapeQuotes (c :: cs) = c :: unescapeQuotes cs :=
  unescapeQuotes_cons_of_head fun hc => absurd hc h

/-- A text without backslashes is read back from its escaped form. -/
theorem unescapeQuotes_escapeQuotes (h : '\\' ∉ s) : unescapeQuotes (escapeQuotes s) = s := by
  induction s with
  | nil => rfl
  | cons c s ih =>
    obtain ⟨hc, hs⟩ := not_or.1 (mt List.mem_cons.2 h)
    by_cases hq : c = '"'
    · subst hq
      rw [escapeQuotes, unescapeQuotes, ih hs]
    · rw [escapeQuotes_cons hq, unescapeQuotes_cons (Ne.symm hc), ih hs]

/-- There is nothing to undo in a text without backslashes. -/
theorem unescapeQuotes_of_not_mem (h : '\\' ∉ s) : unescapeQuotes s = s := by
  induction s with
  | nil => rfl
  | cons c s ih =>
    obtain ⟨hc, hs⟩ := not_or.1 (mt List.mem_cons.2 h)
    rw [unescapeQuotes_cons (Ne.symm hc), ih hs]

/-- The text between two double quotes is found again. -/
theorem enclosed?_quotes (s : List Char) : enclosed? ('"' :: (s ++ ['"'])) = some s := by
  cases s with
  | nil => rfl
  | cons c s =>
    rw [List.cons_append, enclosed?, ← List.cons_append, if_pos List.getLast?_concat,
      List.dropLast_concat]

/-- Enclosed is what stands between two double quotes. -/
theorem eq_of_enclosed? {inner : List Char} (h : enclosed? s = some inner) :
    s = '"' :: (inner ++ ['"']) := by
  unfold enclosed? at h
  split at h
  · split at h
    · next hlast =>
      obtain ⟨front, hfront⟩ := List.getLast?_eq_some_iff.1 hlast
      rw [hfront, List.dropLast_concat, Option.some.injEq] at h
      rw [hfront, h]
    · cases h
  · cases h

/-- A text that does not begin with a quote is not in quotes. -/
theorem enclosed?_of_head_ne {c : Char} (h : c ≠ '"') : enclosed? (c :: s) = none := by
  unfold enclosed?
  split
  · next heq => exact absurd (List.cons.inj heq).1 h
  · rfl

end TaskQuery.Text
