import TaskQuery.Command.Request
import TaskQuery.Proofs.Token.Units

/-!
# Texts next to each other

No reader takes a blank outside double quotes and brackets, so a text without these has the same
tokens whether it ends or goes on behind a blank, and what goes on there is read as if it stood
alone.

* `tokensFrom_shift`: the tokens of a text move with it.
* `StopsAtBlank`: a reader does at a blank what it does at the end of the text.
* `stopsAtBlank_chunk`, `tokensFrom_append_blank`: so does a chunk, and the whole text.
* `scan_append_space`: texts, and words of a command line, with a space between them.
-/

namespace TaskQuery

open Text

/-- The token when so many characters stand in front of its text. -/
def Token.shift (k : Nat) (t : Token) : Token := { t with position := k + t.position }

namespace Lexer

variable {s cs after : List Char} {c d : Char}

/-! ## Positions -/

/-- Pieces that stand further on are tokens that stand further on. -/
theorem place_shift (k position : Nat) (ps : List Piece) :
    Piece.place (k + position) ps = (Piece.place position ps).map (Token.shift k) := by
  induction ps generalizing position with
  | nil => rfl
  | cons p ps ih =>
    rw [Piece.place, Piece.place, Nat.add_assoc, ih]
    rfl

/-- The tokens of a text move with it. -/
theorem tokensFrom_shift (k position : Nat) (s : List Char) :
    tokensFrom (k + position) s = (tokensFrom position s).map (Token.shift k) := by
  fun_induction tokensFrom position s with
  | case1 => rw [tokensFrom, List.map_nil]
  | case2 position c cs hc ih => rw [tokensFrom_blank hc, Nat.add_assoc, ih]
  | case3 position c cs hc ih =>
    have hchunk : chunk c cs = ((chunk c cs).1, (chunk c cs).2) := rfl
    rw [tokensFrom_chunk (Bool.eq_false_iff.2 hc) hchunk, Nat.add_assoc, ih, place_shift,
      List.map_append]

/-! ## Blanks -/

/-- A blank is not a character that is no blank. -/
theorem ne_of_isBlank (hd : isBlank d = true) (hc : isBlank c = false) : d ≠ c := by
  rintro rfl
  rw [hd] at hc
  cases hc

/-- A blank stands in no bare word. -/
theorem isBare_of_isBlank (hd : isBlank d = true) : isBare d = false := by
  rw [isBare, hd]
  rfl

/-- A blank is no letter. -/
theorem isAsciiLetter_of_isBlank (hd : isBlank d = true) : isAsciiLetter d = false := by
  cases hletter : isAsciiLetter d with
  | false => rfl
  | true =>
    have hbare := isBare_of_isAsciiLetter hletter
    rw [isBare_of_isBlank hd] at hbare
    cases hbare

/-- A run ends at a character that is not of its kind, as it does at the end of the text. -/
theorem takeWhile_append_stop {p : Char → Bool} (hd : p d = false) (s after : List Char) :
    (s ++ d :: after).takeWhile p = s.takeWhile p := by
  induction s with
  | nil => simp [hd]
  | cons c s ih => rw [List.cons_append, List.takeWhile_cons, List.takeWhile_cons, ih]

/-- Dropping stops at a character that stays. -/
theorem dropWhile_append_stop {p : Char → Bool} (hd : p d = false) (s after : List Char) :
    (s ++ d :: after).dropWhile p = s.dropWhile p ++ d :: after := by
  induction s with
  | nil => simp [hd]
  | cons c s ih =>
    rw [List.cons_append, List.dropWhile_cons, List.dropWhile_cons, ih]
    split <;> rfl

/-! ## Readers -/

/-- The reader does the same when a blank stands behind the text and more behind that: it stops at
the blank if it gets there. -/
def StopsAtBlank {α : Type} (read : List Char → α × List Char) (s : List Char) : Prop :=
  ∀ d after, isBlank d = true → read (s ++ d :: after) = ((read s).1, (read s).2 ++ d :: after)

/-- A word stops at a blank. -/
theorem stopsAtBlank_word (s : List Char) : StopsAtBlank word s := by
  intro d after hd
  have hbare := isBare_of_isBlank hd
  rw [word, word, takeWhile_append_stop hbare, dropWhile_append_stop hbare]

/-- The name of a field ends before the blank. -/
theorem fieldName?_append_blank (hd : isBlank d = true) (s after : List Char) :
    fieldName? (s ++ d :: after) =
      (fieldName? s).map fun field => (field.1, field.2 ++ d :: after) := by
  have hletter := isAsciiLetter_of_isBlank hd
  have hcolon : d ≠ ':' := ne_of_isBlank hd (by decide)
  rw [fieldName?, fieldName?, takeWhile_append_stop hletter, dropWhile_append_stop hletter]
  cases s.takeWhile isAsciiLetter with
  | nil => rfl
  | cons c name =>
    cases s.dropWhile isAsciiLetter with
    | nil => simp [hcolon]
    | cons e rest =>
      by_cases he : e = ':'
      · rw [he]
        rfl
      · simp [he]

/-- The end of a range is missing where neither a word nor quotes begin. -/
theorem rangeEnd_stop (hbare : isBare c = false) (hquote : c ≠ '"') (cs : List Char) :
    rangeEnd (c :: cs) = ([], c :: cs) := by
  unfold rangeEnd
  split
  · next h => cases h
  · next h => exact absurd (List.cons.inj h).1 hquote
  · next h =>
    obtain ⟨rfl, rfl⟩ := List.cons.inj h
    rw [if_neg (by simp [hbare])]

/-- The value of a field is missing where neither a word nor quotes begin. -/
theorem fieldValue_stop (hbare : isBare c = false) (hquote : c ≠ '"') (cs : List Char) :
    fieldValue (c :: cs) = ([], c :: cs) := by
  unfold fieldValue
  split
  · next h => cases h
  · next h => exact absurd (List.cons.inj h).1 hquote
  · next h =>
    obtain ⟨rfl, rfl⟩ := List.cons.inj h
    rw [if_neg (by simp [hbare])]

/-- The end of a range stops at a blank. -/
theorem stopsAtBlank_rangeEnd (h : '"' ∉ s) : StopsAtBlank rangeEnd s := by
  intro d after hd
  have hstop := isBare_of_isBlank hd
  cases s with
  | nil => exact rangeEnd_stop hstop (ne_of_isBlank hd (by decide)) after
  | cons c s =>
    rw [List.cons_append]
    cases hc : isBare c with
    | true =>
      rw [rangeEnd_cons hc, rangeEnd_cons hc, ← List.cons_append, takeWhile_append_stop hstop,
        dropWhile_append_stop hstop]
    | false =>
      have hquote : c ≠ '"' := (List.ne_of_not_mem_cons h).symm
      rw [rangeEnd_stop hc hquote, rangeEnd_stop hc hquote, List.cons_append]

/-- Without two dots at the front there is no range operator. -/
theorem rangeTail_of_not_dots (h : ∀ cs, s ≠ '.' :: '.' :: cs) : rangeTail s = ([], s) := by
  unfold rangeTail
  split
  · exact absurd rfl (h _)
  · rfl

/-- A range stops at a blank. -/
theorem stopsAtBlank_rangeTail (h : '"' ∉ s) : StopsAtBlank rangeTail s := by
  intro d after hd
  by_cases hdots : ∃ cs, s = '.' :: '.' :: cs
  · obtain ⟨cs, rfl⟩ := hdots
    have hcs : '"' ∉ cs := fun hmem => h (List.mem_cons_of_mem _ (List.mem_cons_of_mem _ hmem))
    rw [List.cons_append, List.cons_append, rangeTail, rangeTail,
      stopsAtBlank_rangeEnd hcs d after hd]
  · have hnot : ∀ cs, s ≠ '.' :: '.' :: cs := fun cs heq => hdots ⟨cs, heq⟩
    rw [rangeTail_of_not_dots hnot]
    apply rangeTail_of_not_dots
    -- the blank would be one of the dots
    intro cs heq
    have hdot : d ≠ '.' := ne_of_isBlank hd (by decide)
    rcases s with _ | ⟨c, _ | ⟨e, s⟩⟩
    · exact hdot (List.cons.inj heq).1
    · exact hdot (List.cons.inj (List.cons.inj heq).2).1
    · obtain ⟨hc, heq⟩ := List.cons.inj heq
      apply hnot s
      rw [hc, (List.cons.inj heq).1]

/-- The value of a field stops at a blank. -/
theorem stopsAtBlank_fieldValue (h : '"' ∉ s) : StopsAtBlank fieldValue s := by
  intro d after hd
  have hstop := isBare_of_isBlank hd
  cases s with
  | nil => exact fieldValue_stop hstop (ne_of_isBlank hd (by decide)) after
  | cons c s =>
    cases hc : isBare c with
    | true =>
      -- the value is the same part of the same run, and the text goes on behind it
      have hlength : (bareValue ((c :: s).takeWhile isBare)).length ≤ (c :: s).length :=
        ((bareValue_prefix_run _).trans (List.takeWhile_prefix _)).length_le
      have hrest : '"' ∉ (c :: s).drop (bareValue ((c :: s).takeWhile isBare)).length :=
        fun hmem => h (List.mem_of_mem_drop hmem)
      rw [List.cons_append, fieldValue_cons hc, fieldValue_cons hc, ← List.cons_append,
        takeWhile_append_stop hstop, List.drop_append_of_le_length hlength,
        stopsAtBlank_rangeTail hrest d after hd]
    | false =>
      have hquote : c ≠ '"' := (List.ne_of_not_mem_cons h).symm
      rw [List.cons_append, fieldValue_stop hc hquote, fieldValue_stop hc hquote,
        List.cons_append]

/-- A field or word stops at a blank. -/
theorem stopsAtBlank_fieldOrWord (h : '"' ∉ s) : StopsAtBlank fieldOrWord s := by
  intro d after hd
  rw [fieldOrWord, fieldOrWord, fieldName?_append_blank hd]
  cases hname : fieldName? s with
  | none => simp only [Option.map_none, stopsAtBlank_word s d after hd]
  | some field =>
    obtain ⟨name, rest⟩ := field
    have hrest : '"' ∉ rest := by
      intro hmem
      apply h
      rw [← fieldName?_append hname]
      exact List.mem_append_right _ (List.mem_cons_of_mem _ hmem)
    simp only [Option.map_some, stopsAtBlank_fieldValue hrest d after hd]

/-- A dash at the end of a text negates nothing, and neither does one before a blank. -/
theorem dashNegates_append_blank (hd : isBlank d = true) (s after : List Char) :
    dashNegates (s ++ d :: after) = dashNegates s := by
  cases s with
  | nil => simp [dashNegates, hd]
  | cons c s => rfl

/-- A chunk that is not in double quotes or brackets ends before the blank at the latest. -/
theorem stopsAtBlank_chunk (hquote : c ≠ '"') (hbracket : c ≠ '[') (h : '"' ∉ s) :
    StopsAtBlank (chunk c) s := by
  intro d after hd
  have hcs : '"' ∉ c :: s := List.not_mem_cons_of_ne_of_not_mem hquote.symm h
  have hword : fieldOrWord (c :: (s ++ d :: after)) =
      ((fieldOrWord (c :: s)).1, (fieldOrWord (c :: s)).2 ++ d :: after) :=
    stopsAtBlank_fieldOrWord hcs d after hd
  by_cases hopens : c ∈ ['(', ')', '"', '[', '-']
  · simp only [List.mem_cons, List.not_mem_nil, or_false] at hopens
    rcases hopens with rfl | rfl | rfl | rfl | rfl
    · rfl
    · rfl
    · exact absurd rfl hquote
    · exact absurd rfl hbracket
    · have hdash : ∀ t, chunk '-' t = if dashNegates t then ([⟨.not, "not".toList, ['-']⟩], t)
          else fieldOrWord ('-' :: t) := fun _ => rfl
      rw [hdash, hdash, dashNegates_append_blank hd, hword]
      cases dashNegates s <;> rfl
  · rw [chunk_eq_fieldOrWord hopens, chunk_eq_fieldOrWord hopens, hword]

/-! ## Texts -/

/-- The tokens of two texts with a blank between them, the first one without double quotes and
opening brackets.  The induction is along the chunks of the first text. -/
theorem tokensFrom_append_blank (hd : isBlank d = true) (hquote : '"' ∉ s) (hbracket : '[' ∉ s)
    (position : Nat) (after : List Char) :
    tokensFrom position (s ++ d :: after) =
      tokensFrom position s ++ tokensFrom (position + s.length + 1) after := by
  fun_induction tokensFrom position s with
  | case1 position => exact tokensFrom_blank hd after
  | case2 position c cs hc ih =>
    have hrest := ih (List.not_mem_of_not_mem_cons hquote) (List.not_mem_of_not_mem_cons hbracket)
    rw [List.cons_append, tokensFrom_blank hc, hrest, List.length_cons]
    congr 2
    omega
  | case3 position c cs hc ih =>
    have hblank : isBlank c = false := Bool.eq_false_iff.2 hc
    have happend := chunk_append c cs
    have hmem : ∀ e, e ∈ (chunk c cs).2 → e ∈ c :: cs := by
      intro e he
      rw [← happend]
      exact List.mem_append_right _ he
    have hlength : (Piece.text (chunk c cs).1).length + (chunk c cs).2.length =
        (c :: cs).length := by
      rw [← List.length_append, happend]
    have hchunk := stopsAtBlank_chunk (List.ne_of_not_mem_cons hquote).symm
      (List.ne_of_not_mem_cons hbracket).symm (List.not_mem_of_not_mem_cons hquote) d after hd
    have hrest := ih (mt (hmem '"') hquote) (mt (hmem '[') hbracket)
    rw [List.cons_append, tokensFrom_chunk hblank hchunk, hrest, List.append_assoc]
    congr 3
    omega

end Lexer

/-! ## Words of a command line -/

/-- The tokens of words that stand side by side from a position on, with one space in between. -/
def Token.ofWords (position : Nat) : List String → List Token
  | [] => []
  | w :: ws => (scan w).map (shift position) ++ ofWords (position + w.length + 1) ws

/-- A text without double quotes and opening brackets. -/
def IsBareText (text : String) : Prop := '"' ∉ text.toList ∧ '[' ∉ text.toList

/-- Whether a text is bare can be checked. -/
instance (text : String) : Decidable (IsBareText text) := inferInstanceAs (Decidable (_ ∧ _))

/-- Behind a bare text and a blank the tokens start anew. -/
theorem IsBareText.tokensFrom_append {a : String} (ha : IsBareText a) (position : Nat)
    (b : List Char) :
    Lexer.tokensFrom position (a.toList ++ ' ' :: b) =
      (Token.scan a).map (Token.shift position) ++
        Lexer.tokensFrom (position + a.length + 1) b := by
  obtain ⟨hquote, hbracket⟩ := ha
  rw [Lexer.tokensFrom_append_blank (by decide) hquote hbracket, Token.scan,
    ← Lexer.tokensFrom_shift, Nat.add_zero position, String.length_toList]

/-- Words have their own tokens when all but the last one are bare. -/
theorem tokensFrom_intercalate {words : List String} (h : ∀ w ∈ words.dropLast, IsBareText w)
    (position : Nat) :
    Lexer.tokensFrom position (" ".intercalate words).toList = Token.ofWords position words := by
  induction words generalizing position with
  | nil => rw [String.intercalate_nil, String.toList_empty, Lexer.tokensFrom, Token.ofWords]
  | cons w ws ih =>
    cases ws with
    | nil =>
      rw [String.intercalate_singleton, Token.ofWords, Token.ofWords, List.append_nil, Token.scan,
        ← Lexer.tokensFrom_shift, Nat.add_zero position]
    | cons v vs =>
      rw [List.dropLast_cons_cons, List.forall_mem_cons] at h
      obtain ⟨hw, hvs⟩ := h
      have htext : (" ".intercalate (w :: v :: vs)).toList =
          w.toList ++ ' ' :: (" ".intercalate (v :: vs)).toList := by
        rw [String.intercalate_cons_cons, String.toList_append, String.toList_append,
          List.append_assoc]
        rfl
      rw [htext, hw.tokensFrom_append, ih hvs]
      rfl

/-- **A space cuts the tokens of a text.**  Behind a text without double quotes and opening brackets,
and a space, any other text has the tokens that it has alone, only further on; and the text in front
has its own.  So the query that is made of the words of a command line has the tokens of the words, one
after the other, when no word but the last holds a double quote or an opening bracket. -/
theorem scan_append_space :
    (∀ a b : String, IsBareText a → Token.scan (a ++ " " ++ b) =
      Token.scan a ++ (Token.scan b).map (Token.shift (a.length + 1))) ∧
    ∀ (words : List String) (query : String), Command.queryOf? words = some query →
      (∀ w ∈ words.dropLast, IsBareText w) → Token.scan query = Token.ofWords 0 words := by
  constructor
  · intro a b ha
    have htext : (a ++ " " ++ b).toList = a.toList ++ ' ' :: b.toList := by
      rw [String.toList_append, String.toList_append, List.append_assoc]
      rfl
    have hzero : Token.shift 0 = id := by
      funext t
      rw [Token.shift, Nat.zero_add, id]
    rw [Token.scan, htext, ha.tokensFrom_append, hzero, List.map_id, Token.scan, Token.scan,
      ← Lexer.tokensFrom_shift, Nat.zero_add, Nat.add_zero (a.length + 1)]
  · intro words query hquery hwords
    unfold Command.queryOf? at hquery
    split at hquery
    · cases hquery
    · rw [← Option.some.inj hquery]
      exact tokensFrom_intercalate hwords 0

/-- A range without an end and a dash behind it, and then a quote that is not closed. -/
theorem scan_append_space_dangling :
    let a := "deadline:2024.. x:  -"
    let b := "\"or ["
    IsBareText a ∧
      Token.scan (a ++ " " ++ b) =
        Token.scan a ++ (Token.scan b).map (Token.shift (a.length + 1)) ∧
      Token.scan "deadline:2024.. - \"or [" = Token.ofWords 0 ["deadline:2024..", "-", "\"or ["] := by
  intro a b
  have ha : IsBareText a := by decide
  refine ⟨ha, scan_append_space.1 a b ha, ?_⟩
  exact scan_append_space.2 ["deadline:2024..", "-", "\"or ["] _ (by decide) (by decide)

end TaskQuery
