/-!
# Parts of texts

Finding one text inside another, cutting a text at a separator, and undoing the escape of a
double quote.
-/

namespace TaskQuery.Text

/-- Whether `needle` occurs as a contiguous part. -/
def contains {α : Type} [BEq α] (needle : List α) : List α → Bool
  | [] => needle.isEmpty
  | c :: cs => needle.isPrefixOf (c :: cs) || contains needle cs

/-- A text is contained where it stands. -/
theorem contains_iff_infix {α : Type} [BEq α] [LawfulBEq α] (needle s : List α) :
    contains needle s = true ↔ needle <:+: s := by
  induction s with
  | nil => simp [contains, List.isEmpty_iff]
  | cons c cs ih => simp [contains, ih, List.infix_cons_iff]

/-- The parts before and after the first occurrence of `separator`. -/
def cut? (separator : List Char) : List Char → Option (List Char × List Char)
  | [] => if separator.isEmpty then some ([], []) else none
  | c :: cs =>
    if separator.isPrefixOf (c :: cs) then some ([], (c :: cs).drop separator.length)
    else (cut? separator cs).map fun (before, after) => (c :: before, after)

/-- A text is cut into what is before the separator and what is behind it. -/
theorem eq_append_of_cut? {separator s before after : List Char}
    (h : cut? separator s = some (before, after)) : s = before ++ separator ++ after := by
  induction s generalizing before with
  | nil =>
    simp only [cut?, List.isEmpty_iff] at h
    split at h <;> simp_all
  | cons c cs ih =>
    simp only [cut?] at h
    split at h
    · next hp =>
      obtain ⟨rfl, rfl⟩ := by simpa using h
      obtain ⟨t, ht⟩ := List.isPrefixOf_iff_prefix.1 hp
      rw [← ht]
      simp
    · simp only [Option.map_eq_some_iff, Prod.mk.injEq, Prod.exists] at h
      obtain ⟨b, a, hb, rfl, rfl⟩ := h
      simp [ih hb]

/-- The parts between the occurrences of `separator`, found from the left; the whole text when it
does not occur. -/
def splitOn (separator s : List Char) : List (List Char) :=
  if _h : separator = [] then [s]
  else
    match _hc : cut? separator s with
    | none => [s]
    | some (before, after) => before :: splitOn separator after
termination_by s.length
decreasing_by
  have := eq_append_of_cut? _hc
  have := List.length_pos_iff.2 _h
  simp_all
  omega

/-- Drop every leading and trailing character that satisfies `p`. -/
def strip (p : Char → Bool) (s : List Char) : List Char :=
  ((s.dropWhile p).reverse.dropWhile p).reverse

/-- A backslash in front of a double quote is dropped. -/
def unescapeQuotes : List Char → List Char
  | [] => []
  | '\\' :: '"' :: cs => '"' :: unescapeQuotes cs
  | c :: cs => c :: unescapeQuotes cs

/-- The text between the two double quotes that enclose it. -/
def enclosed? : List Char → Option (List Char)
  | '"' :: c :: cs => if (c :: cs).getLast? = some '"' then some (c :: cs).dropLast else none
  | _ => none

/-- Quotes around a text are two characters. -/
theorem length_of_enclosed? {s inner : List Char} (h : enclosed? s = some inner) :
    inner.length + 2 = s.length := by
  unfold enclosed? at h
  split at h
  · split at h
    · obtain rfl := by simpa using h
      simp
    · simp at h
  · simp at h

end TaskQuery.Text
