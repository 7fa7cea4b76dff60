import TaskQuery.Proofs.DateFilter.Reading

/-!
# Filters in double quotes

Most phrases that name a day count only inside double quotes.  To everything else that is read
without quotes they make no difference.

* `Phrase.needsQuotes`: the phrases that count only inside quotes; `atom?_false` says that they are
  all that is lost without quotes.
* `readText?_true`: one step of the reader keeps its answer, and a comparison passes the quotes on to
  what it compares with (`read?_inDoubleQuotes`).
* `read?_rangeInDoubleQuotes`: a range does not pass them on to its ends, so that a phrase which
  needs quotes is no end of a range in quotes.
-/

namespace TaskQuery

open Text

/-- The text in lower case is a phrase that counts only inside double quotes. -/
def Phrase.needsQuotes (s : List Char) : Bool :=
  (ofWords? (words s)).any fun phrase => !phrase.standsUnquoted

/-- A text with double quotes around it. -/
def inDoubleQuotes (text : String) : String := "\"" ++ text ++ "\""

/-- Double quotes around a text are put there as a filter does it. -/
theorem inDoubleQuotes_eq (text : String) :
    inDoubleQuotes text = String.ofList (DateFilter.requote true text.toList) := by
  apply String.toList_injective
  simp [inDoubleQuotes, DateFilter.requote]

namespace DateFilter

variable {today : Date} {weekStart : WeekStart} {s text : List Char} {f : DateFilter} {a b : Period}

/-! ## Without quotes -/

/-- Of what is read in one piece, quotes are needed for phrases only. -/
theorem atom?_false (s : List Char) :
    atom? false s today weekStart =
      if Phrase.needsQuotes s then none else atom? true s today weekStart := by
  rw [Phrase.needsQuotes]
  cases hdigits : Period.ofDigits? s with
  | some p =>
    rw [Phrase.ofWords?_eq_none_of_ofDigits? hdigits, atom?, atom?, hdigits]
    rfl
  | none =>
    rw [atom?, atom?, hdigits]
    cases Phrase.ofWords? (words s) with
    | none => rfl
    | some phrase =>
      cases hstands : phrase.standsUnquoted <;> simp [hstands]

/-- A text that names a day, month or year inside quotes does so without them, unless it is a phrase
that needs them. -/
theorem readText?_false (h : readText? true text today weekStart = some (period a)) :
    readText? false text today weekStart =
      if Phrase.needsQuotes text then none else some (period a) := by
  have hplain : IsPlain text := isPlain_of_readText? h trivial
  have hmark : ∀ c ∈ text, ¬IsPlainChar c → False := fun c hc hnot => hnot (hplain c hc)
  have hop : operator? text = none := by
    rw [operator?_eq_none_iff]
    constructor
    · intro hhead
      exact hmark _ (List.mem_of_mem_head? hhead) (by decide)
    · intro hhead
      exact hmark _ (List.mem_of_mem_head? hhead) (by decide)
  have hcut : cut? "..".toList text = none :=
    cut?_of_not_mem ['.'] fun hdot => hmark _ hdot (by decide)
  rw [readText?_of_whole hop hcut] at h ⊢
  split at h
  · cases h
  · next hname =>
    rw [Option.or_eq_some_iff] at h
    rcases h with hbucket | ⟨hbucket, hatom⟩
    · obtain ⟨b, -, hb⟩ := Option.map_eq_some_iff.1 hbucket
      cases hb
    · rw [if_neg hname, hbucket, Option.none_or, atom?_false, hatom]

/-- The same for a text in any letter case. -/
theorem read?_of_inDoubleQuotes {text : String}
    (h : read? (inDoubleQuotes text) today weekStart = some (period a)) :
    ('"' ∉ text.toList ∧ '.' ∉ text.toList) ∧
      read? text today weekStart =
        if Phrase.needsQuotes (lower text.toList) then none else some (period a) := by
  have hsigma : 'Σ' ∉ text.toList := by
    have hquoted := not_sigma_mem_of_read? h
    simpa [inDoubleQuotes] using hquoted
  rw [inDoubleQuotes_eq, read?_requote_of_not_sigma hsigma, readLower?_quotes] at h
  have hplain : IsPlain (squeeze (lower text.toList)) := isPlain_of_readText? h trivial
  have hnot : ∀ {c : Char}, isBlank c = false → ¬IsPlainChar c → c ∉ lower text.toList :=
    fun hblank hc hmem => hc (hplain _ ((mem_iff_of_words_eq (words_squeeze _) hblank).2 hmem))
  have hquote : '"' ∉ lower text.toList := hnot (by decide) (by decide)
  have hdot : '.' ∉ lower text.toList := hnot (by decide) (by decide)
  refine ⟨⟨mt (mem_lower_iff (by decide)).2 hquote, mt (mem_lower_iff (by decide)).2 hdot⟩, ?_⟩
  rw [read?, readLower?_of_not_mem hquote, readText?_false h, Phrase.needsQuotes, words_squeeze,
    Phrase.needsQuotes]

/-! ## With quotes -/

/-- **One step inside quotes keeps what is read without them.**  The induction is on the length of
the text: the operand of a comparison is shorter, and it is read inside quotes again. -/
theorem readText?_true (hquote : '"' ∉ text)
    (h : readText? false text today weekStart = some f) :
    readText? true text today weekStart = some f := by
  induction hlength : text.length using Nat.strongRecOn generalizing text f with
  | ind n ih =>
    cases hop : operator? text with
    | some parts =>
      obtain ⟨cmp, operand⟩ := parts
      have hoperand : '"' ∉ operand := by
        rw [eq_symbol_append_of_operator? hop] at hquote
        exact fun hmem => hquote (List.mem_append_right _ hmem)
      rw [readText?_of_operator? hop, readLower?_requote hoperand] at h ⊢
      obtain ⟨p, hp, rfl⟩ := Option.map_eq_some_iff.1 h
      obtain ⟨g, hg, hp⟩ := Option.bind_eq_some_iff.1 hp
      have hshorter : (squeeze operand).length < n := by
        have hsqueeze := length_squeeze_le operand
        have hoperator := length_of_operator? hop
        omega
      rw [ih _ hshorter (not_mem_squeeze hoperand) hg rfl, Option.bind_some, hp, Option.map_some]
    | none =>
      cases hcut : cut? "..".toList text with
      | some ends =>
        rw [readText?_of_cut? hop hcut] at h ⊢
        exact h
      | none =>
        rw [readText?_of_whole hop hcut] at h ⊢
        split at h
        · next hname => rw [if_pos hname, h]
        · next hname =>
          rw [if_neg hname]
          rw [atom?_false, Option.or_eq_some_iff] at h
          rcases h with hbucket | ⟨hbucket, hatom⟩
          · rw [hbucket, Option.some_or]
          · split at hatom
            · cases hatom
            · rw [hbucket, hatom, Option.none_or]

/-- **Double quotes change nothing that is read without them.**  Whatever filter a text writes, be it
a date, a bucket, a comparison or a range, it writes inside double quotes as well. -/
theorem read?_inDoubleQuotes {text : String} (hquote : '"' ∉ text.toList)
    (h : read? text today weekStart = some f) :
    read? (inDoubleQuotes text) today weekStart = some f := by
  have hsigma : 'Σ' ∉ text.toList := not_sigma_mem_of_read? h
  have hlower : '"' ∉ lower text.toList := mt (mem_lower_iff (by decide)).1 hquote
  rw [read?, readLower?_of_not_mem hlower] at h
  rw [inDoubleQuotes_eq, read?_requote_of_not_sigma hsigma, readLower?_quotes]
  exact readText?_true (not_mem_squeeze hlower) h

/-- A comparison with a phrase that stands without quotes, and a range between two such phrases. -/
theorem read?_inDoubleQuotes_friday :
    let today : Date := ⟨2024, 1, 10, by decide⟩
    (∃ p, read? (inDoubleQuotes " >=  Next\tFriday") today .monday =
        some (comparison .notBefore p)) ∧
      ∃ r, read? (inDoubleQuotes "in 2 days .. next friday") today .monday = some (range r) := by
  intro today
  constructor
  · obtain ⟨p, hp⟩ : ∃ p, read? " >=  Next\tFriday" today .monday =
        some (comparison .notBefore p) :=
      ⟨⟨⟨2024, 1, 12, by decide⟩, .day, ⟨2024, 1, 13, by decide⟩, by decide +kernel⟩,
        by decide +kernel⟩
    exact ⟨p, read?_inDoubleQuotes (by decide) hp⟩
  · obtain ⟨r, hr⟩ : ∃ r, read? "in 2 days .. next friday" today .monday = some (range r) :=
      ⟨⟨⟨2024, 1, 12, by decide⟩, ⟨2024, 1, 13, by decide⟩⟩, by decide +kernel⟩
    exact ⟨r, read?_inDoubleQuotes (by decide) hr⟩

/-! ## Ranges -/

/-- **Quotes around a range do not reach its ends.**  Of two texts that name days, months or years
inside quotes, the range in quotes goes from the start of the first to the end of the second, unless
one of them is a phrase that needs quotes of its own; then there is no range. -/
theorem read?_rangeInDoubleQuotes {left right : String}
    (ha : read? (inDoubleQuotes left) today weekStart = some (period a))
    (hb : read? (inDoubleQuotes right) today weekStart = some (period b)) :
    read? (inDoubleQuotes (left ++ ".." ++ right)) today weekStart =
      if Phrase.needsQuotes (lower left.toList) || Phrase.needsQuotes (lower right.toList) then none
      else some (range ⟨a.start, b.stop⟩) := by
  obtain ⟨⟨hleft, hdot⟩, hleftRead⟩ := read?_of_inDoubleQuotes ha
  obtain ⟨⟨hright, -⟩, hrightRead⟩ := read?_of_inDoubleQuotes hb
  have hdots : ¬"..".toList <:+: left.toList := fun hpart =>
    hdot (hpart.subset List.mem_cons_self)
  rw [inDoubleQuotes_eq, read?_range hleft hright hdots, hleftRead, hrightRead]
  cases Phrase.needsQuotes (lower left.toList) with
  | true => rfl
  | false => cases Phrase.needsQuotes (lower right.toList) <;> rfl

/-- Yesterday is no end of a range in quotes, and the next Friday is one. -/
theorem read?_rangeInDoubleQuotes_yesterday :
    let today : Date := ⟨2024, 1, 10, by decide⟩
    read? (inDoubleQuotes "yesterday..2024-01-31") today .monday = none ∧
      ∃ r, read? (inDoubleQuotes "2024-01..next friday") today .monday = some (range r) ∧
        r.start = ⟨2024, 1, 1, by decide⟩ ∧ r.stop = ⟨2024, 1, 13, by decide⟩ := by
  intro today
  have hday : read? (inDoubleQuotes "yesterday") today .monday = some (period
      ⟨⟨2024, 1, 9, by decide⟩, .day, ⟨2024, 1, 10, by decide⟩, by decide +kernel⟩) := by
    decide +kernel
  have hlast : read? (inDoubleQuotes "2024-01-31") today .monday = some (period
      ⟨⟨2024, 1, 31, by decide⟩, .day, ⟨2024, 2, 1, by decide⟩, by decide +kernel⟩) := by
    decide +kernel
  have hmonth : read? (inDoubleQuotes "2024-01") today .monday = some (period
      ⟨⟨2024, 1, 1, by decide⟩, .month, ⟨2024, 2, 1, by decide⟩, by decide +kernel⟩) := by
    decide +kernel
  have hfriday : read? (inDoubleQuotes "next friday") today .monday = some (period
      ⟨⟨2024, 1, 12, by decide⟩, .day, ⟨2024, 1, 13, by decide⟩, by decide +kernel⟩) := by
    decide +kernel
  have hyesterday : Phrase.needsQuotes (lower "yesterday".toList) = true := by decide +kernel
  have hnext : Phrase.needsQuotes (lower "next friday".toList) = false := by decide +kernel
  have hjanuary : Phrase.needsQuotes (lower "2024-01".toList) = false := by decide +kernel
  constructor
  · have hrange := read?_rangeInDoubleQuotes hday hlast
    rwa [hyesterday] at hrange
  · have hrange := read?_rangeInDoubleQuotes hmonth hfriday
    rw [hjanuary, hnext] at hrange
    exact ⟨_, hrange, rfl, rfl⟩

end DateFilter

end TaskQuery
