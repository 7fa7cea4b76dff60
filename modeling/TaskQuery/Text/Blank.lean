import TaskQuery.Text.Span

/-!
# Blank characters

Which characters separate words, and the three operations built on that: trimming both ends,
cutting a text into words, and squeezing every run of blanks to one space.
-/

namespace TaskQuery.Text

/-- White space: the ASCII blanks, the four information separators, NEL, the no-break space and
the Unicode space separators, line and paragraph separator included. -/
def isBlank (c : Char) : Bool :=
  let n := c.toNat
  (0x9 ≤ n && n ≤ 0xd) || (0x1c ≤ n && n ≤ 0x20) || n == 0x85 || n == 0xa0 || n == 0x1680 ||
    (0x2000 ≤ n && n ≤ 0x200a) || n == 0x2028 || n == 0x2029 || n == 0x202f || n == 0x205f ||
    n == 0x3000

/-- Drop the blanks at both ends. -/
def trim (s : List Char) : List Char := strip isBlank s

/-- Drop the blanks at the end. -/
def trimEnd (s : List Char) : List Char := (s.reverse.dropWhile isBlank).reverse

/-- The blank-free run at the front of a text, and the words after it. -/
def leadingWord : List Char → List Char × List (List Char)
  | [] => ([], [])
  | c :: cs =>
    let (front, rest) := leadingWord cs
    if isBlank c then ([], if front.isEmpty then rest else front :: rest) else (c :: front, rest)

/-- The maximal blank-free runs of a text, in order. -/
def words (s : List Char) : List (List Char) :=
  let (front, rest) := leadingWord s
  if front.isEmpty then rest else front :: rest

/-- Join with a separator between neighbours. -/
def join (separator : List Char) : List (List Char) → List Char
  | [] => []
  | [w] => w
  | w :: ws => w ++ separator ++ join separator ws

/-- A character of joined texts is one of the separator or of a text. -/
theorem mem_join {separator : List Char} {ws : List (List Char)} {c : Char}
    (h : c ∈ join separator ws) :
    c ∈ separator ∨ ∃ w ∈ ws, c ∈ w := by
  induction ws with
  | nil => cases h
  | cons w ws ih =>
    cases ws with
    | nil => exact .inr ⟨w, List.mem_cons_self, h⟩
    | cons v ws =>
      rw [join, List.mem_append, List.mem_append] at h
      · rcases h with (h | h) | h
        · exact .inr ⟨w, List.mem_cons_self, h⟩
        · exact .inl h
        · refine (ih h).imp id ?_
          rintro ⟨u, hu, hc⟩
          exact ⟨u, List.mem_cons_of_mem w hu, hc⟩
      · exact List.cons_ne_nil v ws

/-- The words of a text with one space between them. -/
def squeeze (s : List Char) : List Char := join [' '] (words s)

/-- Words hold no more than the text, and a character between them. -/
theorem leadingWord_length (s : List Char) :
    (leadingWord s).1.length + (leadingWord s).2.flatten.length + (leadingWord s).2.length ≤
      s.length := by
  induction s with
  | nil => exact Nat.le_refl _
  | cons c cs ih =>
    simp only [leadingWord]
    split
    · split
      · simp only [List.length_nil, List.length_cons]
        omega
      · simp only [List.length_nil, List.flatten_cons, List.length_append, List.length_cons]
        omega
    · simp only [List.length_cons]
      omega

/-- Joined words are as long as they are, and a space between two of them. -/
theorem length_join_space (ws : List (List Char)) :
    (join [' '] ws).length ≤ ws.flatten.length + (ws.length - 1) := by
  match ws with
  | [] => exact Nat.zero_le _
  | [w] =>
    simp only [join, List.flatten_cons, List.flatten_nil, List.append_nil]
    omega
  | w :: v :: ws =>
    have := length_join_space (v :: ws)
    simp only [join, List.flatten_cons, List.length_append, List.length_cons, List.length_nil] at *
    omega

/-- Squeezing never makes a text longer. -/
theorem length_squeeze_le (s : List Char) : (squeeze s).length ≤ s.length := by
  have hw := leadingWord_length s
  have hj := length_join_space (words s)
  simp only [squeeze]
  refine Nat.le_trans hj ?_
  simp only [words]
  split
  · omega
  · simp only [List.flatten_cons, List.length_append, List.length_cons]
    omega

/-- Trimming makes no text longer. -/
theorem length_trim_le (s : List Char) : (trim s).length ≤ s.length := by
  have h1 := (List.dropWhile_suffix isBlank (l := s)).length_le
  have h2 := (List.dropWhile_suffix isBlank (l := (s.dropWhile isBlank).reverse)).length_le
  simp only [trim, strip, List.length_reverse] at *
  omega

end TaskQuery.Text
