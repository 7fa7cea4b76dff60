import TaskQuery.Proofs.DateFilter.Reading
import TaskQuery.Proofs.Text.Decimal

/-!
# Dates as they are written

A date written `YYYY-MM-DD` is read back as that date, whatever day is treated as today.

* `IsDateLike`: what dates, months and years have in common as texts.
* `ofDigits?_text`: the text of a date writes the period of that day.
* `readText?_of_isDateLike`: a text like a date is read by its digits alone.
* `read?_text`, `read?_notBefore_text`: a date on its own, and `>=` in front of it.

The last day of the calendar is written as all others, but it makes up no period.
-/

namespace TaskQuery

open Text

/-- A digit is no blank. -/
theorem isBlank_of_isDigit {c : Char} (h : c.isDigit = true) : isBlank c = false := by
  have hc := toNat_of_isDigit h
  simp only [isBlank, Bool.or_eq_false_iff, Bool.and_eq_false_iff, decide_eq_false_iff_not,
    beq_eq_false_iff_ne]
  omega

/-- A digit is no capital letter. -/
theorem isUpper_of_isDigit {c : Char} (h : c.isDigit = true) : c.isUpper = false := by
  have hc := toNat_of_isDigit h
  refine decide_eq_false ?_
  rintro ⟨hcapital, -⟩
  rw [ge_iff_le, UInt32.le_iff_toNat_le] at hcapital
  change 65 ≤ c.toNat at hcapital
  omega

/-- Lower case leaves a digit as it is. -/
theorem isLower_of_isDigit {c : Char} (h : c.isDigit = true) : c.toNat < 128 ∧ c.toLower = c := by
  have hc := toNat_of_isDigit h
  exact ⟨by omega, dif_neg (of_decide_eq_false (isUpper_of_isDigit h))⟩

/-- A digit is no letter. -/
theorem isAlpha_of_isDigit {c : Char} (h : c.isDigit = true) : c.isAlpha = false := by
  have hc := toNat_of_isDigit h
  have hlower : c.isLower = false := by
    refine Bool.and_eq_false_iff.2 (.inl (decide_eq_false ?_))
    rw [ge_iff_le, UInt32.le_iff_toNat_le]
    change ¬97 ≤ c.toNat
    omega
  exact Bool.or_eq_false_iff.2 ⟨isUpper_of_isDigit h, hlower⟩

/-- A digit is not a character that is no digit. -/
theorem ne_of_isDigit {c d : Char} (h : c.isDigit = true) (hd : d.isDigit = false) : c ≠ d := by
  rintro rfl
  simp [h] at hd

/-! ## Texts like dates -/

/-- A text of digits and dashes that starts with a digit. -/
structure IsDateLike (s : List Char) : Prop where
  /-- Each character is a digit or a dash. -/
  chars : ∀ c ∈ s, c.isDigit = true ∨ c = '-'
  /-- The first one is a digit. -/
  head : s.head?.any Char.isDigit = true

namespace IsDateLike

variable {s : List Char}

/-- What holds of the digits and the dash holds of the characters. -/
theorem forall_mem {p : Char → Prop} (h : IsDateLike s) (hdigit : ∀ c : Char, c.isDigit = true → p c)
    (hdash : p '-') : ∀ c ∈ s, p c := by
  intro c hc
  rcases h.chars c hc with hchar | rfl
  · exact hdigit c hchar
  · exact hdash

/-- A text like a date has no blanks. -/
theorem noBlank (h : IsDateLike s) : NoBlank s :=
  h.forall_mem (fun _ => isBlank_of_isDigit) (by decide)

/-- Lower case leaves a text like a date as it is. -/
theorem isLower (h : IsDateLike s) : IsLower s :=
  h.forall_mem (fun _ => isLower_of_isDigit) (by decide)

/-- No other character occurs in it. -/
theorem not_mem (h : IsDateLike s) {c : Char} (hc : c.isDigit = false) (hdash : c ≠ '-') :
    c ∉ s := by
  intro hmem
  rcases h.chars c hmem with hchar | hchar
  · simp [hchar] at hc
  · exact hdash hchar

/-- A text like a date begins with a digit. -/
theorem exists_eq_cons (h : IsDateLike s) : ∃ c t, s = c :: t ∧ c.isDigit = true := by
  cases s with
  | nil => simpa using h.head
  | cons c t => exact ⟨c, t, rfl, by simpa using h.head⟩

end IsDateLike

namespace Date

variable (d : Date)

/-- The text of a date is like a date. -/
theorem isDateLike_text : IsDateLike d.text where
  chars := by
    intro c h
    simp only [text, List.mem_append, List.mem_cons] at h
    rcases h with (h | rfl | h) | rfl | h
    · exact .inl (isDigit_of_mem_paddedDecimal h)
    · exact .inr rfl
    · exact .inl (isDigit_of_mem_paddedDecimal h)
    · exact .inr rfl
    · exact .inl (isDigit_of_mem_paddedDecimal h)
  head := by
    have hlength : (paddedDecimal 4 d.year).length = 4 :=
      length_paddedDecimal (by decide) (Nat.lt_of_le_of_lt d.isDate.2.1 (by decide))
    rw [text]
    cases hy : paddedDecimal 4 d.year with
    | nil => simp [hy] at hlength
    | cons c s =>
      have hc : c.isDigit = true := isDigit_of_mem_paddedDecimal (hy ▸ List.mem_cons_self)
      simpa using hc

/-- The text of a date has no blanks. -/
theorem noBlank_text : NoBlank d.text := d.isDateLike_text.noBlank

/-- Lower case leaves the text of a date as it is. -/
theorem isLower_text : IsLower d.text := d.isDateLike_text.isLower

/-- Any other character does not occur in a written date. -/
theorem not_mem_text {c : Char} (hc : c.isDigit = false) (hdash : c ≠ '-') : c ∉ d.text :=
  d.isDateLike_text.not_mem hc hdash

/-- A written date starts with a digit. -/
theorem exists_text_eq_cons : ∃ c s, d.text = c :: s ∧ c.isDigit = true :=
  d.isDateLike_text.exists_eq_cons

end Date

/-! ## Periods -/

/-- A number that fits into its width is read back. -/
theorem Period.fixedDigits?_paddedDecimal {width n : Nat} (hw : 0 < width) (hn : n < 10 ^ width) :
    Period.fixedDigits? width (paddedDecimal width n) = some n := by
  rw [Period.fixedDigits?, if_pos (length_paddedDecimal hw hn), readDigits?_paddedDecimal]

namespace Date

variable {e : Date} {year month day : Nat}

/-- A date is made of its parts again. -/
theorem ofParts?_eq (d : Date) : ofParts? d.year d.month d.day = some d := by
  rw [ofParts?, dif_pos d.isDate]

/-- The date that is made of parts is the one with these parts. -/
theorem ofParts?_eq_some_iff :
    ofParts? year month day = some e ↔ e.year = year ∧ e.month = month ∧ e.day = day := by
  constructor
  · intro h
    unfold ofParts? at h
    split at h
    · obtain rfl := Option.some.inj h
      exact ⟨rfl, rfl, rfl⟩
    · cases h
  · rintro ⟨rfl, rfl, rfl⟩
    exact e.ofParts?_eq

/-- Numbers that make up a date give one. -/
theorem ofParts?_ne_none (h : IsDate year month day) : ofParts? year month day ≠ none := by
  rw [ofParts?, dif_pos h]
  exact Option.some_ne_none _

end Date

/-- The text of a date writes the period of that day. -/
theorem Period.ofDigits?_text (d : Date) :
    Period.ofDigits? d.text = (Period.ofDate .day d).toOption := by
  obtain ⟨-, hy, -, hm, -, hd⟩ := d.isDate
  have hd31 : d.day ≤ 31 := by
    refine Nat.le_trans hd ?_
    unfold daysInMonth
    split
    case h_1 => split <;> decide
    all_goals decide
  have hsplit : splitOn ['-'] d.text =
      [paddedDecimal 4 d.year, paddedDecimal 2 d.month, paddedDecimal 2 d.day] := by
    rw [Date.text, List.append_assoc, List.cons_append, splitOn_append dash_not_mem_paddedDecimal,
      splitOn_append dash_not_mem_paddedDecimal, splitOn_of_not_mem [] dash_not_mem_paddedDecimal]
  rw [Period.ofDigits?, hsplit]
  dsimp only
  rw [fixedDigits?_paddedDecimal (by decide) (show d.year < 10 ^ 4 by omega),
    fixedDigits?_paddedDecimal (by decide) (show d.month < 10 ^ 2 by omega),
    fixedDigits?_paddedDecimal (by decide) (show d.day < 10 ^ 2 by omega)]
  dsimp only [Option.bind_eq_bind, Option.bind_some]
  rw [d.ofParts?_eq, Option.bind_some]

/-! ## Filters -/

/-- A text that starts with no letter is no bucket, if it has no blanks. -/
theorem Bucket.ofText?_eq_none {c : Char} {s : List Char} (hb : NoBlank (c :: s))
    (hc : c.isAlpha = false) : Bucket.ofText? (c :: s) = none := by
  have hname : Bucket.ofName? (String.ofList (c :: s)) = none := by
    unfold Bucket.ofName?
    split
    case h_9 => rfl
    all_goals
      next h =>
        have hhead := congrArg (fun t => t.toList.head?) h
        simp only [String.toList_ofList, List.head?_cons] at hhead
        injection hhead with hhead
        rw [hhead] at hc
        exact absurd hc (by decide)
  have hline : (c :: s).getLast? ≠ some '\n' := by
    intro h
    have := hb '\n' (List.mem_of_getLast? h)
    simp [isBlank] at this
  have hdays : Bucket.nextDaysDigits? (c :: s) = none := by
    rw [Bucket.nextDaysDigits?, Bucket.phraseWords]
    simp only [hline, if_false, words_of_noBlank hb (List.cons_ne_nil c s)]
    split
    · next h => split at h <;> simp at h
    · rfl
  rw [Bucket.ofText?, Bucket.ofText, hname, hdays]
  rfl

/-- A single word that starts with no letter is no phrase. -/
theorem Phrase.ofWords?_singleton {c : Char} {s : List Char} (hc : c.isAlpha = false) :
    Phrase.ofWords? [c :: s] = none := by
  rw [ofWords?]
  split
  case h_4 => rfl
  all_goals
    next hname =>
      have hhead := congrArg (fun t => t.toList.head?) hname
      simp only [String.toList_ofList, List.head?_cons] at hhead
      injection hhead with hhead
      rw [hhead] at hc
      exact absurd hc (by decide)

namespace DateFilter

variable {today : Date} {weekStart : WeekStart}

/-- What begins with no letter is not the word `none`. -/
theorem ne_none_of_not_isAlpha {c : Char} {s : List Char} (hc : c.isAlpha = false) :
    c :: s ≠ "none".toList := by
  intro h
  have hn : c = 'n' := (List.cons.inj h).1
  rw [hn] at hc
  exact absurd hc (by decide)

/-- A text like a date is read by its digits, with quotes and without them. -/
theorem readText?_of_isDateLike {s : List Char} (h : IsDateLike s) (quoted : Bool) :
    readText? quoted s today weekStart = (Period.ofDigits? s).map period := by
  have hb := h.noBlank
  have hcut : cut? "..".toList s = none :=
    cut?_of_not_mem ['.'] (h.not_mem (by decide) (by decide))
  obtain ⟨c, s, rfl, hc⟩ := h.exists_eq_cons
  have hop : operator? (c :: s) = none :=
    operator?_eq_none_iff.2 ⟨by simpa using ne_of_isDigit hc (by decide),
      by simpa using ne_of_isDigit hc (by decide)⟩
  have hphrase : Phrase.ofWords? (words (c :: s)) = none := by
    rw [words_of_noBlank hb (List.cons_ne_nil c s)]
    exact Phrase.ofWords?_singleton (isAlpha_of_isDigit hc)
  rw [readText?_of_whole hop hcut, if_neg (ne_none_of_not_isAlpha (isAlpha_of_isDigit hc)),
    Bucket.ofText?_eq_none hb (isAlpha_of_isDigit hc), atom?, hphrase]
  cases Period.ofDigits? (c :: s) <;> rfl

/-- A written date is read as that day with quotes and without them. -/
theorem readText?_text (d : Date) (quoted : Bool) :
    readText? quoted d.text today weekStart = ((Period.ofDate .day d).toOption).map period := by
  rw [readText?_of_isDateLike d.isDateLike_text, Period.ofDigits?_text]

/-- The text of a date is read as that day. -/
theorem readLower?_text {d : Date} {p : Period} (h : Period.ofDate .day d = .ok p) :
    readLower? d.text today weekStart = some (period p) := by
  have hquote : '"' ∉ d.text := d.not_mem_text (by decide) (by decide)
  rw [readLower?_of_not_mem hquote, squeeze_of_noBlank d.noBlank_text, readText?_text, h]
  rfl

/-- **A written date is read as that day.** -/
theorem read?_text {d : Date} {p : Period} (h : Period.ofDate .day d = .ok p) :
    read? (String.ofList d.text) today weekStart = some (period p) := by
  rw [read?, String.toList_ofList, lower_of_isLower d.isLower_text, readLower?_text h]

/-- **A date behind `>=` is read as the days from that day on.** -/
theorem read?_notBefore_text {d : Date} {p : Period} (h : Period.ofDate .day d = .ok p) :
    read? (String.ofList ('>' :: '=' :: d.text)) today weekStart =
      some (comparison .notBefore p) := by
  have hlower : IsLower ('>' :: '=' :: d.text) :=
    List.forall_mem_cons.2 ⟨by decide, List.forall_mem_cons.2 ⟨by decide, d.isLower_text⟩⟩
  have hquote : '"' ∉ d.text := d.not_mem_text (by decide) (by decide)
  have hread : readLower? ('>' :: '=' :: d.text) today weekStart =
      ((readLower? d.text today weekStart).bind (operand? today)).map (comparison .notBefore) :=
    readLower?_operator .notBefore (fun _ => rfl) hquote false
  rw [read?, String.toList_ofList, lower_of_isLower hlower, hread, readLower?_text h]
  rfl

end DateFilter

end TaskQuery
