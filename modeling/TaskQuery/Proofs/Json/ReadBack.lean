import Mathlib.Data.List.Nodup
import TaskQuery.Json.Writer
import TaskQuery.Proofs.Json.Numbers
import TaskQuery.Proofs.Json.Strings

/-!
# Values read back

What is written for a value is read as that value, on one line or on many, and reading leaves what
stands behind it.

* `takes_value_list`, `takes_members_more` and others: the steps of the reader on a text of which
  the parts are read.
* `IsExact`: the values that are written without loss.
* `isReadBack_of_isExact`, `read_writeAt`: these are read back, inside of a text and on their own.
-/

namespace TaskQuery.Json

open Text

open Value (Fits)

variable {s cs mid next rest : List Char} {c : Char} {v : Value} {vs : List Value}
  {us : List Nat} {entries : Entries} {pairs : List (List Nat × Value)} {nesting : Nat}

/-! ## Steps of the reader -/

/-- A quote begins a text. -/
theorem takes_value_text (hs : skip s = '"' :: cs) (h : units? cs = some (us, rest)) :
    Takes (value nesting s) (.text (shownText (codePoints us))) rest := by
  rw [value]
  split
  case h_2 cs' heq =>
    obtain rfl : cs = cs' := by simpa [hs] using heq
    unfold string
    split
    · next us' rest' hunits =>
      obtain ⟨rfl, rfl⟩ : us = us' ∧ rest = rest' := by simpa [h] using hunits
      exact takes_ok _ rfl rfl
    · next hnone => simp [h] at hnone
  all_goals simp_all

/-- A list may have no elements. -/
theorem takes_value_noList (hs : skip s = '[' :: cs) (h : skip cs = ']' :: rest) :
    Takes (value (nesting + 1) s) (.list []) rest := by
  rw [value]
  split
  case h_3 cs' heq =>
    obtain rfl : cs = cs' := by simpa [hs] using heq
    dsimp only
    split
    · next rest' hclose =>
      obtain rfl : rest = rest' := by simpa [h] using hclose
      exact takes_ok _ rfl rfl
    · next hopen => exact absurd h (hopen rest)
  all_goals simp_all

/-- A bracket begins a list, one level deeper. -/
theorem takes_value_list (hs : skip s = '[' :: cs) (hopen : (skip cs).head? ≠ some ']')
    (h : Takes (elements nesting cs) vs rest) : Takes (value (nesting + 1) s) (.list vs) rest := by
  obtain ⟨hrest, helements⟩ := h
  rw [value]
  split
  case h_3 cs' heq =>
    obtain rfl : cs = cs' := by simpa [hs] using heq
    dsimp only
    split
    · next hclose => simp [hclose] at hopen
    · rw [helements]
      exact takes_ok _ rfl rfl
  all_goals simp_all

/-- An object may have no members. -/
theorem takes_value_noObject (hs : skip s = '\x7b' :: cs) (h : skip cs = '\x7d' :: rest) :
    Takes (value (nesting + 1) s) (.object []) rest := by
  rw [value]
  split
  case h_4 cs' heq =>
    obtain rfl : cs = cs' := by simpa [hs] using heq
    dsimp only
    split
    · next rest' hclose =>
      obtain rfl : rest = rest' := by simpa [h] using hclose
      exact takes_ok _ rfl rfl
    · next hopen => exact absurd h (hopen rest)
  all_goals simp_all

/-- A brace begins an object, one level deeper. -/
theorem takes_value_object (hs : skip s = '\x7b' :: cs) (hopen : (skip cs).head? ≠ some '\x7d')
    (h : Takes (members nesting cs) pairs rest) :
    Takes (value (nesting + 1) s) (.object (entriesOf pairs)) rest := by
  obtain ⟨hrest, hmembers⟩ := h
  rw [value]
  split
  case h_4 cs' heq =>
    obtain rfl : cs = cs' := by simpa [hs] using heq
    dsimp only
    split
    · next hclose => simp [hclose] at hopen
    · rw [hmembers]
      exact takes_ok _ rfl rfl
  all_goals simp_all

/-- What begins otherwise is a scalar. -/
theorem takes_value_scalar (hs : skip s = c :: cs) (hquote : '"' ≠ c) (hlist : '[' ≠ c)
    (hobject : '\x7b' ≠ c) (h : Takes (scalar c cs) v rest) : Takes (value nesting s) v rest := by
  obtain ⟨hrest, hscalar⟩ := h
  rw [value]
  split
  case h_5 c' cs' _ _ _ heq =>
    obtain ⟨rfl, rfl⟩ : c = c' ∧ cs = cs' := by simpa [hs] using heq
    rw [hscalar]
    exact takes_ok _ rfl rfl
  all_goals simp_all

/-- A character that is expected is taken, with what is skipped before it. -/
theorem takes_expect (hs : skip s = c :: rest) : Takes (expect c s) () rest := by
  unfold expect
  split
  · next heq => simp [hs] at heq
  · next d rest' heq =>
    obtain ⟨rfl, rfl⟩ : c = d ∧ rest = rest' := by simpa [hs] using heq
    rw [if_pos rfl]
    exact takes_ok _ rfl rfl

/-- Behind the last element the list is closed. -/
theorem takes_elements_last (h : Takes (value nesting s) v mid) (hmid : skip mid = ']' :: rest) :
    Takes (elements nesting s) [v] rest := by
  obtain ⟨hshort, hv⟩ := h
  obtain ⟨hrest, hclose⟩ := takes_expect hmid
  rw [elements, hv]
  dsimp only [bind, Except.bind]
  rw [hmid, hclose]
  exact takes_ok _ rfl rfl

/-- Behind a comma the elements go on. -/
theorem takes_elements_more (h : Takes (value nesting s) v mid) (hmid : skip mid = ',' :: next)
    (hmore : Takes (elements nesting next) vs rest) : Takes (elements nesting s) (v :: vs) rest := by
  obtain ⟨hshort, hv⟩ := h
  obtain ⟨hnext, hcomma⟩ := takes_expect hmid
  obtain ⟨hrest, helements⟩ := hmore
  rw [elements, hv]
  dsimp only [bind, Except.bind]
  rw [hmid, hcomma]
  dsimp only
  rw [helements]
  exact takes_ok _ rfl rfl

/-- Behind the last member the object is closed. -/
theorem takes_members_last {colon : List Char} (hs : skip s = '"' :: cs)
    (hkey : units? cs = some (us, next)) (hnext : skip next = ':' :: colon)
    (h : Takes (value nesting colon) v mid) (hmid : skip mid = '\x7d' :: rest) :
    Takes (members nesting s) [(codePoints us, v)] rest := by
  obtain ⟨_, hquote⟩ := takes_expect hs
  obtain ⟨_, hcolon⟩ := takes_expect hnext
  obtain ⟨_, hv⟩ := h
  obtain ⟨_, hclose⟩ := takes_expect hmid
  rw [members, hquote]
  dsimp only [bind, Except.bind]
  split
  · next hnone => simp [hkey] at hnone
  · next us' next' hsome =>
    obtain ⟨rfl, rfl⟩ : us = us' ∧ next = next' := by simpa [hkey] using hsome
    rw [hcolon]
    dsimp only
    rw [hv]
    dsimp only
    rw [hmid, hclose]
    exact takes_ok _ rfl rfl

/-- Behind a comma the members go on. -/
theorem takes_members_more {colon more : List Char} (hs : skip s = '"' :: cs)
    (hkey : units? cs = some (us, next)) (hnext : skip next = ':' :: colon)
    (h : Takes (value nesting colon) v mid) (hmid : skip mid = ',' :: more)
    (hmore : Takes (members nesting more) pairs rest) :
    Takes (members nesting s) ((codePoints us, v) :: pairs) rest := by
  obtain ⟨_, hquote⟩ := takes_expect hs
  obtain ⟨_, hcolon⟩ := takes_expect hnext
  obtain ⟨_, hv⟩ := h
  obtain ⟨_, hcomma⟩ := takes_expect hmid
  obtain ⟨_, hmembers⟩ := hmore
  rw [members, hquote]
  dsimp only [bind, Except.bind]
  split
  · next hnone => simp [hkey] at hnone
  · next us' next' hsome =>
    obtain ⟨rfl, rfl⟩ : us = us' ∧ next = next' := by simpa [hkey] using hsome
    rw [hcolon]
    dsimp only
    rw [hv]
    dsimp only
    rw [hmid, hcomma]
    dsimp only
    rw [hmembers]
    exact takes_ok _ rfl rfl

/-! ## Blanks -/

/-- There is nothing to read in the text. -/
def Blanks (s : List Char) : Prop := ∀ c ∈ s, isBlank c = true

/-- Blanks in front are skipped. -/
theorem skip_blanks (h : Blanks s) (rest : List Char) : skip (s ++ rest) = skip rest :=
  List.dropWhile_append_of_pos h

/-- Nothing is skipped in front of what is no blank. -/
theorem skip_cons (h : isBlank c = false) (rest : List Char) : skip (c :: rest) = c :: rest :=
  List.dropWhile_cons_of_neg (by simp [h])

/-- Blanks are skipped up to what is no blank. -/
theorem skip_blanks_cons (h : Blanks s) (hc : isBlank c = false) (rest : List Char) :
    skip (s ++ c :: rest) = c :: rest := by
  rw [skip_blanks h, skip_cons hc]

/-- A number stops at a blank. -/
theorem stops_of_isBlank (h : isBlank c = true) (rest : List Char) : Stops (c :: rest) := by
  rintro d ⟨⟩
  simp only [isBlank, Bool.or_eq_true, decide_eq_true_eq] at h
  rcases h with ((rfl | rfl) | rfl) | rfl <;> decide

/-- A number stops at blanks, or behind none of them at what stops it. -/
theorem stops_blanks_append (h : Blanks s) (hrest : Stops rest) : Stops (s ++ rest) := by
  cases s with
  | nil => exact hrest
  | cons c s => exact stops_of_isBlank (h c List.mem_cons_self) (s ++ rest)

/-- The parts of a list or object have blanks around them, and those behind a comma are always
the same. -/
theorem bracket_eq (layout : Layout) (opening closing : Char) (level : Nat)
    {parts : List (List Char)} (h : parts ≠ []) :
    ∃ lead gap trail, Blanks lead ∧ Blanks gap ∧ Blanks trail ∧
      layout.bracket opening closing level parts =
        opening :: (lead ++ (join (',' :: gap) parts ++ (trail ++ [closing]))) := by
  have hline (n : Nat) : Blanks ('\n' :: List.replicate (2 * n) ' ') := by
    intro c hc
    rcases List.mem_cons.1 hc with rfl | hc
    · rfl
    · rw [List.eq_of_mem_replicate hc]
      rfl
  have hne : parts.isEmpty = false := List.isEmpty_eq_false_iff.2 h
  rw [Layout.bracket, if_neg (by simp [hne])]
  split
  · exact ⟨_, _, _, hline (level + 1), hline (level + 1), hline level, by simp⟩
  · exact ⟨[], [' '], [], by simp [Blanks], by simp [Blanks, isBlank], by simp [Blanks],
      by simp⟩

/-- Joined parts begin with the first character of the first one. -/
theorem head?_skip_join {w separator : List Char} {ws : List (List Char)} (hs : Blanks s)
    (hc : isBlank c = false) (rest : List Char) :
    (skip (s ++ (join separator ((c :: w) :: ws) ++ rest))).head? = some c := by
  cases ws with
  | nil =>
    rw [join, List.cons_append, skip_blanks_cons hs hc]
    rfl
  | cons w' ws =>
    rw [join, List.cons_append, List.cons_append, List.cons_append, skip_blanks_cons hs hc]
    · rfl
    · exact List.cons_ne_nil w' ws

/-! ## Entries -/

/-- Entries as they are read: each name by its code points. -/
def codedPairs (entries : Entries) : List (List Nat × Value) :=
  entries.map fun (key, v) => (key.toList.map Char.toNat, v)

/-- Texts with the same code points are the same. -/
theorem map_toNat_injective :
    Function.Injective fun key : String => key.toList.map Char.toNat := by
  intro a b h
  rw [← shownText_toNat a, ← shownText_toNat b]
  exact congrArg shownText h

/-- Entries with distinct names are read as they are. -/
theorem entriesOf_codedPairs (h : (entries.map Prod.fst).Nodup) :
    entriesOf (codedPairs entries) = entries := by
  have hnames : ((codedPairs entries).map Prod.fst).Nodup := by
    have hmap := List.Nodup.map map_toNat_injective h
    rw [List.map_map] at hmap
    rwa [codedPairs, List.map_map]
  rw [entriesOf, Entries.ofPairs_of_nodup hnames, codedPairs, List.map_map]
  refine (List.map_congr_left fun e _ => ?_).trans (List.map_id entries)
  exact Prod.ext (shownText_toNat e.1) rfl

/-! ## Written values -/

/-- A value of which all that it holds is written: whole numbers that are not too long, texts, and
what is made of them.  What is written for a float or a date is read as another kind of value. -/
inductive IsExact : Value → Prop where
  | null : IsExact .null
  | bool (b : Bool) : IsExact (.bool b)
  | int {n : Int} (h : isWritable n = true) : IsExact (.int n)
  | text (s : String) : IsExact (.text s)
  | list {vs : List Value} (h : ∀ v ∈ vs, IsExact v) : IsExact (.list vs)
  | object {entries : Entries} (hkeys : (entries.map Prod.fst).Nodup)
      (h : ∀ e ∈ entries, IsExact e.2) : IsExact (.object entries)

/-- What stands in brackets begins with the opening one. -/
theorem exists_bracket_eq_cons (layout : Layout) (opening closing : Char) (level : Nat)
    (parts : List (List Char)) :
    ∃ w, layout.bracket opening closing level parts = opening :: w := by
  unfold Layout.bracket
  split
  · exact ⟨_, rfl⟩
  · split <;> exact ⟨_, rfl⟩

/-- A written value begins with neither a blank nor a closing bracket. -/
theorem exists_writeAt_eq_cons (h : IsExact v) (layout : Layout) (level : Nat) :
    ∃ c w, writeAt layout level v = c :: w ∧ isBlank c = false ∧ c ≠ ']' := by
  cases h with
  | null => exact ⟨'n', _, rfl, rfl, by decide⟩
  | bool b => cases b <;> exact ⟨_, _, rfl, rfl, by decide⟩
  | @int n h =>
    obtain ⟨c, w, hcons, hc, -⟩ := scalar_signedDecimal h stops_nil
    rw [List.append_nil] at hcons
    have hne (d : Char) (hd : d.isDigit = false) (hdash : d ≠ '-') : c ≠ d := by
      rintro rfl
      simp [hd, hdash] at hc
    refine ⟨c, w, by rw [writeAt, hcons], ?_, hne ']' (by decide) (by decide)⟩
    simp [isBlank, hne ' ', hne '\t', hne '\n', hne '\r']
  | text s => exact ⟨'"', _, by rw [writeAt]; rfl, rfl, by decide⟩
  | list h =>
    rw [writeAt]
    obtain ⟨w, hw⟩ := exists_bracket_eq_cons layout '[' ']' level _
    exact ⟨'[', w, hw, rfl, by decide⟩
  | object _ h =>
    rw [writeAt]
    obtain ⟨w, hw⟩ := exists_bracket_eq_cons layout '\x7b' '\x7d' level _
    exact ⟨'\x7b', w, hw, rfl, by decide⟩

/-- What is written for a value is read as that value wherever it stands, if there is room for as
many lists and objects. -/
def IsReadBack (nesting : Nat) (v : Value) : Prop :=
  ∀ layout level s rest, skip s = writeAt layout level v ++ rest → Stops rest →
    Takes (value nesting s) v rest

/-- The elements of a list are written one by one. -/
theorem writeList_eq_map (layout : Layout) (level : Nat) (vs : List Value) :
    writeList layout level vs = vs.map (writeAt layout level) := by
  induction vs with
  | nil => rw [writeList, List.map_nil]
  | cons v vs ih => rw [writeList, ih, List.map_cons]

variable {lead gap trail : List Char}

/-- The parts of a written list are read one after the other. -/
theorem takes_elements (hne : vs ≠ []) (h : ∀ v ∈ vs, IsExact v ∧ IsReadBack nesting v)
    (hlead : Blanks lead) (hgap : Blanks gap) (htrail : Blanks trail) (layout : Layout)
    (level : Nat) (rest : List Char) :
    Takes (elements nesting (lead ++ (join (',' :: gap) (vs.map (writeAt layout level)) ++
      (trail ++ ']' :: rest)))) vs rest := by
  induction vs generalizing lead with
  | nil => exact absurd rfl hne
  | cons v vs ih =>
    obtain ⟨⟨hexact, hback⟩, hvs⟩ := List.forall_mem_cons.1 h
    have hskip (rest : List Char) : skip (lead ++ (writeAt layout level v ++ rest)) =
        writeAt layout level v ++ rest := by
      obtain ⟨c, w, hw, hc, -⟩ := exists_writeAt_eq_cons hexact layout level
      rw [hw]
      exact skip_blanks_cons hlead hc (w ++ rest)
    cases vs with
    | nil =>
      refine takes_elements_last (hback layout level _ _ (hskip _) ?_)
        (skip_blanks_cons htrail (by decide) rest)
      exact stops_blanks_append htrail (by rintro c ⟨⟩; decide)
    | cons v' vs =>
      have hmore := ih (List.cons_ne_nil v' vs) hvs hgap
      have hjoin : join (',' :: gap) ((v :: v' :: vs).map (writeAt layout level)) ++
          (trail ++ ']' :: rest) = writeAt layout level v ++ (',' :: (gap ++
            (join (',' :: gap) ((v' :: vs).map (writeAt layout level)) ++
              (trail ++ ']' :: rest)))) := by
        simp [join]
      rw [hjoin]
      refine takes_elements_more (hback layout level _ _ (hskip _) ?_) (skip_cons (by decide) _)
        hmore
      rintro c ⟨⟩
      decide

/-- A written text is its escapes between quotes. -/
theorem quote_append (s rest : List Char) :
    quote s ++ rest = '"' :: (s.flatMap escape ++ '"' :: rest) := by
  simp [quote]

/-- An entry of an object. -/
def writeEntry (layout : Layout) (level : Nat) (e : String × Value) : List Char :=
  quote e.1.toList ++ ':' :: ' ' :: writeAt layout level e.2

/-- A member is its name in quotes, a colon, a space and its value. -/
theorem writeEntry_append (layout : Layout) (level : Nat) (key : String) (v : Value)
    (rest : List Char) : writeEntry layout level (key, v) ++ rest =
      '"' :: (key.toList.flatMap escape ++
        '"' :: (':' :: ' ' :: (writeAt layout level v ++ rest))) := by
  rw [writeEntry, List.append_assoc, quote_append]
  rfl

/-- The members of an object are written one by one. -/
theorem writeEntries_eq_map (layout : Layout) (level : Nat) (entries : Entries) :
    writeEntries layout level entries = entries.map (writeEntry layout level) := by
  induction entries with
  | nil => rw [writeEntries, List.map_nil]
  | cons e entries ih => rw [writeEntries, ih, List.map_cons, writeEntry]

/-- The entries of a written object are read one after the other. -/
theorem takes_members (hne : entries ≠ []) (h : ∀ e ∈ entries, IsExact e.2 ∧ IsReadBack nesting e.2)
    (hlead : Blanks lead) (hgap : Blanks gap) (htrail : Blanks trail) (layout : Layout)
    (level : Nat) (rest : List Char) :
    Takes (members nesting (lead ++ (join (',' :: gap) (entries.map (writeEntry layout level)) ++
      (trail ++ '\x7d' :: rest)))) (codedPairs entries) rest := by
  induction entries generalizing lead with
  | nil => exact absurd rfl hne
  | cons e entries ih =>
    obtain ⟨key, v⟩ := e
    obtain ⟨⟨hexact, hback⟩, hentries⟩ := List.forall_mem_cons.1 h
    have hkey : codePoints (key.toList.flatMap codeUnits) = key.toList.map Char.toNat :=
      codePoints_codeUnits key.toList
    have hquote (rest : List Char) : skip (lead ++ (writeEntry layout level (key, v) ++ rest)) =
        '"' :: (key.toList.flatMap escape ++ '"' ::
          (':' :: ' ' :: (writeAt layout level v ++ rest))) := by
      rw [writeEntry_append, skip_blanks_cons hlead (by decide)]
    have hskip (rest : List Char) : skip (' ' :: (writeAt layout level v ++ rest)) =
        writeAt layout level v ++ rest := by
      obtain ⟨c, w, hw, hc, -⟩ := exists_writeAt_eq_cons hexact layout level
      rw [hw]
      exact skip_blanks_cons (s := [' ']) (by simp [Blanks, isBlank]) hc (w ++ rest)
    cases entries with
    | nil =>
      have hlast := takes_members_last (hquote (trail ++ '\x7d' :: rest)) (units?_quoted _ _)
        (skip_cons (by decide) _) (hback layout level _ _ (hskip _) ?_)
        (skip_blanks_cons htrail (by decide) rest)
      · rwa [hkey] at hlast
      · exact stops_blanks_append htrail (by rintro c ⟨⟩; decide)
    | cons e entries =>
      have hjoin : join (',' :: gap) (((key, v) :: e :: entries).map (writeEntry layout level)) ++
          (trail ++ '\x7d' :: rest) = writeEntry layout level (key, v) ++ (',' :: (gap ++
            (join (',' :: gap) ((e :: entries).map (writeEntry layout level)) ++
              (trail ++ '\x7d' :: rest)))) := by
        simp [join]
      have hmore := takes_members_more (hquote _) (units?_quoted _ _) (skip_cons (by decide) _)
        (hback layout level _ _ (hskip _) ?_) (skip_cons (by decide) _)
        (ih (List.cons_ne_nil e entries) hentries hgap)
      · rwa [hkey, ← hjoin] at hmore
      · rintro c ⟨⟩
        decide

/-- A list is read back if its elements are, with one level less. -/
theorem isReadBack_list (h : ∀ v ∈ vs, IsExact v ∧ IsReadBack nesting v) :
    IsReadBack (nesting + 1) (.list vs) := by
  intro layout level s rest hs _
  rw [writeAt, writeList_eq_map] at hs
  by_cases hne : vs = []
  · subst hne
    exact takes_value_noList hs (skip_cons (by decide) rest)
  · obtain ⟨lead, gap, trail, hlead, hgap, htrail, hbracket⟩ :=
      bracket_eq layout '[' ']' level (mt List.map_eq_nil_iff.1 hne)
    have helements := takes_elements hne h hlead hgap htrail layout (level + 1) rest
    rw [hbracket, List.cons_append, List.append_assoc, List.append_assoc, List.append_assoc] at hs
    refine takes_value_list hs ?_ helements
    -- the first part begins with its own first character, and so the list is not over
    obtain ⟨v, vs, rfl⟩ := List.exists_cons_of_ne_nil hne
    obtain ⟨c, w, hw, hc, hclose⟩ :=
      exists_writeAt_eq_cons (h v List.mem_cons_self).1 layout (level + 1)
    rw [List.map_cons, hw, head?_skip_join hlead hc]
    exact fun heq => hclose (Option.some.inj heq)

/-- An object is read back if its values are, with one level less. -/
theorem isReadBack_object (hkeys : (entries.map Prod.fst).Nodup)
    (h : ∀ e ∈ entries, IsExact e.2 ∧ IsReadBack nesting e.2) :
    IsReadBack (nesting + 1) (.object entries) := by
  intro layout level s rest hs _
  rw [writeAt, writeEntries_eq_map] at hs
  by_cases hne : entries = []
  · subst hne
    exact takes_value_noObject hs (skip_cons (by decide) rest)
  · obtain ⟨lead, gap, trail, hlead, hgap, htrail, hbracket⟩ :=
      bracket_eq layout '\x7b' '\x7d' level (mt List.map_eq_nil_iff.1 hne)
    have hmembers := takes_members hne h hlead hgap htrail layout (level + 1) rest
    rw [hbracket, List.cons_append, List.append_assoc, List.append_assoc, List.append_assoc] at hs
    have hobject := takes_value_object hs ?_ hmembers
    · rwa [entriesOf_codedPairs hkeys] at hobject
    · obtain ⟨e, entries, rfl⟩ := List.exists_cons_of_ne_nil hne
      rw [List.map_cons, writeEntry, quote_append, head?_skip_join hlead rfl]
      decide

/-- A value that is exact is read back wherever it stands.  By induction on the value. -/
theorem isReadBack_of_isExact (h : IsExact v) (hfits : Fits nesting v) : IsReadBack nesting v := by
  induction h generalizing nesting with
  | null =>
    intro layout level s rest hs hrest
    rw [writeAt] at hs
    exact takes_value_scalar hs (by decide) (by decide) (by decide) ⟨_, rfl⟩
  | bool b =>
    intro layout level s rest hs hrest
    rw [writeAt] at hs
    cases b <;> exact takes_value_scalar hs (by decide) (by decide) (by decide) ⟨_, rfl⟩
  | int hn =>
    intro layout level s rest hs hrest
    obtain ⟨c, cs, hcons, hc, htakes⟩ := scalar_signedDecimal hn hrest
    rw [writeAt, hcons] at hs
    refine takes_value_scalar hs ?_ ?_ ?_ htakes <;> (rintro rfl; simp at hc)
  | text t =>
    intro layout level s rest hs hrest
    rw [writeAt, quote_append] at hs
    have htext : Takes (value nesting s) _ rest := takes_value_text hs (units?_quoted _ _)
    rwa [codePoints_codeUnits, shownText_toNat] at htext
  | list h ih =>
    cases hfits with
    | list hvs => exact isReadBack_list fun v hv => ⟨h v hv, ih v hv (hvs v hv)⟩
    | other _ hlist => exact absurd rfl (hlist _)
  | object hkeys h ih =>
    cases hfits with
    | object hes => exact isReadBack_object hkeys fun e he => ⟨h e he, ih e he (hes e he)⟩
    | other _ _ hobject => exact absurd rfl (hobject _)

/-- **A value that is exact is read back**, whichever way it is written, if there is room for it. -/
theorem read_writeAt (h : IsExact v) (hfits : Fits nesting v) (layout : Layout)
    (htrail : Blanks rest) : read nesting (writeAt layout 0 v ++ rest) = .ok v := by
  obtain ⟨c, w, hw, hc, -⟩ := exists_writeAt_eq_cons h layout 0
  have hskip : skip (writeAt layout 0 v ++ rest) = writeAt layout 0 v ++ rest := by
    rw [hw]
    exact skip_cons hc (w ++ rest)
  have hstops : Stops rest := by
    have := stops_blanks_append htrail stops_nil
    rwa [List.append_nil] at this
  obtain ⟨hshort, hvalue⟩ := isReadBack_of_isExact h hfits layout 0 _ _ hskip hstops
  have hnothing : skip rest = [] := by
    have := skip_blanks htrail []
    rwa [List.append_nil] at this
  rw [read, hvalue]
  dsimp only [bind, Except.bind]
  rw [hnothing]
  rfl

end TaskQuery.Json
