import TaskQuery.Proofs.Toml.Lines
import TaskQuery.Proofs.Value.Entries
import TaskQuery.Result
import TaskQuery.Toml.Writer

/-!
# Written documents read back

A document of sections is read back as it was written.  Keys and texts may hold any characters:
what a string cannot hold is escaped, and a key that cannot stand on its own is a string.  Values
are followed into their lists, which stand on several lines.  Inside a section may stand truth
values, texts and lists of them; numbers, days and tables inside values are left out.

* `string?_writeString`, `spellsKey_writeKey`: texts and keys.
* `IsPlain`, `isReadBack_writeValue`: values, with anything but a quote behind them.
* `Document.IsOrderly`: what holds of a document while sections are added one after the other.
* `statements_writeSection`: what one section adds, by its entries.
* `read_write`: a whole document, by its sections.
-/

namespace TaskQuery.Toml

open Text

variable {rest : List Char} {v : Value}

/-! ## Texts and keys -/

/-- What has to be escaped lies below the codes that are written as pairs. -/
theorem isPaired_of_isIllegal {c : Char} (h : isIllegal c = true) : Json.isPaired c = false := by
  simp only [isIllegal, Bool.or_eq_true, Bool.and_eq_true, decide_eq_true_eq] at h
  simp only [Json.isPaired, decide_eq_false_iff_not]
  omega

/-- A character is written by a letter, by its code or as itself. -/
theorem escape_forms (c : Char) :
    (∃ letter, escaped? letter = some c ∧ escape c = ['\\', letter]) ∨
    (isIllegal c = true ∧ escape c = '\\' :: 'u' :: hex 4 c.toNat) ∨
    (c ≠ '"' ∧ c ≠ '\\' ∧ isIllegal c = false ∧ escape c = [c]) := by
  unfold escape
  split_ifs with hquote hslash hn hr hb hf hillegal
  · exact .inl ⟨'"', by rw [hquote]; rfl, rfl⟩
  · exact .inl ⟨'\\', by rw [hslash]; rfl, rfl⟩
  · exact .inl ⟨'n', hn ▸ rfl, rfl⟩
  · exact .inl ⟨'r', hr ▸ rfl, rfl⟩
  · exact .inl ⟨'b', hb ▸ rfl, rfl⟩
  · exact .inl ⟨'f', hf ▸ rfl, rfl⟩
  · exact .inr (.inl ⟨hillegal, rfl⟩)
  · exact .inr (.inr ⟨hquote, hslash, Bool.eq_false_iff.2 hillegal, rfl⟩)

/-- Every escape is read as its character. -/
theorem areRead_written : AreRead escape fun _ => false where
  basicString_append c rest := by
    rcases escape_forms c with ⟨letter, hletter, hesc⟩ | ⟨hillegal, hesc⟩ | ⟨hq, hs, hlegal, hesc⟩
    · rw [hesc]
      exact basicString_letter hletter rest
    · rw [hesc, basicString_code, coded?_toNat (isPaired_of_isIllegal hillegal)]
      rfl
    · rw [hesc]
      exact basicString_plain hq hs hlegal rest
  exists_eq_cons c := by
    rcases escape_forms c with ⟨letter, -, hesc⟩ | ⟨-, hesc⟩ | ⟨hq, -, -, hesc⟩
    · exact ⟨'\\', [letter], by decide, hesc⟩
    · exact ⟨'\\', _, by decide, hesc⟩
    · exact ⟨c, [], hq, hesc⟩

/-- A string is its escapes between quotes. -/
theorem writeString_append (s rest : List Char) :
    writeString s ++ rest = '"' :: s.flatMap escape ++ '"' :: rest := by
  simp [writeString]

/-- A text is read back. -/
theorem string?_writeString (s : List Char) (h : rest.head? ≠ some '"') :
    string? (writeString s ++ rest) = some (s, rest) := by
  have hany : s.any (fun _ => false) = false := by simp
  rw [writeString_append, areRead_written.string?_flatMap s h, hany]
  rfl

/-- A key is read back, bare or as a string. -/
theorem spellsKey_writeKey (name : String) : SpellsKey (writeKey name.toList) name := by
  rw [writeKey]
  split
  · next hbare => exact spellsKey_of_isBare hbare
  · refine ⟨fun {rest} _ => ?_, '"', _, rfl, by decide⟩
    have hany : name.toList.any (fun _ => false) = false := by simp
    rw [writeString_append, List.cons_append, keyPart?, areRead_written.basicString_flatMap, hany]
    exact congrArg some (Prod.ext String.ofList_toList rfl)

/-! ## Values -/

/-- Values that are spelled alike wherever they stand: truth values, texts, and lists of such
values. -/
inductive IsPlain : Value → Prop where
  /-- A truth value. -/
  | bool (b : Bool) : IsPlain (.bool b)
  /-- A text. -/
  | text (s : String) : IsPlain (.text s)
  /-- A list of plain values. -/
  | list {vs : List Value} (h : ∀ v ∈ vs, IsPlain v) : IsPlain (.list vs)

/-- A plain value is spelled with a first character that is neither skipped nor the end of a
list. -/
theorem IsPlain.exists_eq_cons (hv : IsPlain v) (level : Nat) :
    ∃ c cs, writeValue level v = c :: cs ∧ c ∉ [' ', '\t', '\n', '#', ']'] := by
  cases hv with
  | bool b => cases b <;> exact ⟨_, _, rfl, by decide⟩
  | text s => exact ⟨_, _, rfl, by decide⟩
  | @list vs h => cases vs <;> exact ⟨_, _, rfl, by decide⟩

/-- Blanks and line feeds are skipped up to something else. -/
theorem skipLines_append {blanks : List Char} (hblanks : ∀ c ∈ blanks, c ∈ [' ', '\n'])
    {c : Char} (hc : c ∉ [' ', '\t', '\n', '#']) (cs : List Char) :
    skipLines false (blanks ++ c :: cs) = some (c :: cs) := by
  induction blanks with
  | nil =>
    simp only [List.mem_cons, not_or] at hc
    simp [skipLines, hc]
  | cons b blanks ih =>
    obtain ⟨hb, hrest⟩ := List.forall_mem_cons.1 hblanks
    rw [List.cons_append, skipLines, if_pos, ih hrest]
    simp only [List.mem_cons, List.not_mem_nil, or_false] at hb
    rcases hb with rfl | rfl <;> rfl

/-- The text from where skipping ends. -/
theorem skipped_append {blanks : List Char} (hblanks : ∀ c ∈ blanks, c ∈ [' ', '\n'])
    {c : Char} (hc : c ∉ [' ', '\t', '\n', '#']) (cs : List Char) :
    ∃ h, skipped (blanks ++ c :: cs) = .ok ⟨c :: cs, h⟩ := by
  have hskip := skipLines_append hblanks hc cs
  refine ⟨by simp, ?_⟩
  unfold skipped
  split
  · next r hr =>
    rw [hskip] at hr
    obtain rfl := Option.some.inj hr
    rfl
  · next hnone => rw [hskip] at hnone; cases hnone

/-- A list ends at its bracket. -/
theorem elements_close {blanks : List Char} (hblanks : ∀ c ∈ blanks, c ∈ [' ', '\n'])
    (rest : List Char) : ∃ h, elements (blanks ++ ']' :: rest) = .ok ⟨[], rest, h⟩ := by
  obtain ⟨h, hskip⟩ := skipped_append hblanks (c := ']') (by decide) rest
  have hlt : rest.length < (blanks ++ ']' :: rest).length + 1 := by
    simp only [List.length_cons, List.length_append]
    omega
  refine ⟨hlt, ?_⟩
  rw [elements, hskip]
  exact dif_pos hlt

/-- An element with a comma behind it comes before those that follow the comma. -/
theorem elements_cons {blanks : List Char} (hblanks : ∀ c ∈ blanks, c ∈ [' ', '\n'])
    {c : Char} {cs after : List Char} {vs : List Value} (hc : c ∉ [' ', '\t', '\n', '#', ']'])
    (hvalue : ∃ h, value (c :: cs) = .ok ⟨v, ',' :: after, h⟩)
    (hafter : ∃ h, elements after = .ok ⟨vs, rest, h⟩) :
    ∃ h, elements (blanks ++ c :: cs) = .ok ⟨v :: vs, rest, h⟩ := by
  simp only [List.mem_cons, List.not_mem_nil, or_false, not_or] at hc
  obtain ⟨hspace, htab, hfeed, hmark, hclose⟩ := hc
  obtain ⟨hshorter, hvalue⟩ := hvalue
  obtain ⟨hmore, hafter⟩ := hafter
  obtain ⟨hfirst, hskip⟩ := skipped_append hblanks (c := c)
    (by simp [hspace, htab, hfeed, hmark]) cs
  obtain ⟨hnext, hcomma⟩ : ∃ h, skipped (',' :: after) = .ok ⟨',' :: after, h⟩ :=
    skipped_append (List.forall_mem_nil _) (by decide) after
  have hlt : rest.length < (blanks ++ c :: cs).length + 1 := by
    simp only [List.length_cons, List.length_append] at hshorter hmore ⊢
    omega
  refine ⟨hlt, ?_⟩
  rw [elements, hskip]
  simp only [bind, Except.bind]
  split
  · next heq => exact absurd (List.cons.inj heq).1 hclose
  · rw [hvalue]
    simp only []
    rw [hcomma]
    simp only []
    rw [hafter]
    rfl

/-- The blanks in front of a line are skipped, with the line feed before it. -/
theorem mem_blanks (level : Nat) : ∀ c ∈ '\n' :: indent level, c ∈ [' ', '\n'] := by
  intro c hc
  rcases List.mem_cons.1 hc with rfl | hc
  · decide
  · rw [List.eq_of_mem_replicate hc]
    decide

/-- What is read back as a value, unless a quote follows it that would go with it. -/
def IsReadBack (w : List Char) (v : Value) : Prop :=
  ∀ {rest : List Char}, rest.head? ≠ some '"' → ∃ h, value (w ++ rest) = .ok ⟨v, rest, h⟩

/-- Elements that are read back are read back line by line, up to the bracket in a line of its
own. -/
theorem elements_writeElements {vs : List Value} (hplain : ∀ v ∈ vs, IsPlain v) (level : Nat)
    (hread : ∀ v ∈ vs, IsReadBack (writeValue level v) v) (outer : Nat) (rest : List Char) :
    ∃ h, elements ('\n' :: (writeElements level vs ++ (indent outer ++ ']' :: rest))) =
      .ok ⟨vs, rest, h⟩ := by
  induction vs with
  | nil => exact elements_close (mem_blanks outer) rest
  | cons v vs ih =>
    obtain ⟨hv, hvs⟩ := List.forall_mem_cons.1 hplain
    obtain ⟨hvread, hvsread⟩ := List.forall_mem_cons.1 hread
    obtain ⟨c, cs, hcs, hc⟩ := hv.exists_eq_cons level
    have hmore := ih hvs hvsread
    -- what stands behind the first element and its comma
    let after := '\n' :: (writeElements level vs ++ (indent outer ++ ']' :: rest))
    have hvalue : ∃ h, value (writeValue level v ++ ',' :: after) = .ok ⟨v, ',' :: after, h⟩ :=
      hvread (by simp)
    have htext : '\n' :: (writeElements level (v :: vs) ++ (indent outer ++ ']' :: rest)) =
        '\n' :: indent level ++ c :: (cs ++ ',' :: after) := by
      simp [writeElements, hcs, after]
    rw [hcs] at hvalue
    rw [htext]
    exact elements_cons (mem_blanks level) hc hvalue hmore

/-- A plain value is read back. -/
theorem isReadBack_writeValue (hv : IsPlain v) (level : Nat) :
    IsReadBack (writeValue level v) v := by
  induction hv generalizing level with
  | bool b =>
    intro rest _
    have htext : writeValue level (.bool b) = (toString b).toList := by cases b <;> rfl
    rw [htext]
    exact value_flag b rest
  | text s =>
    intro rest hrest
    have hlt : rest.length < (s.toList.flatMap escape ++ '"' :: rest).length + 1 := by
      rw [List.length_append, List.length_cons]
      omega
    have htext : writeValue level (.text s) ++ rest =
        '"' :: (s.toList.flatMap escape ++ '"' :: rest) := writeString_append s.toList rest
    have hstring := string?_writeString s.toList hrest
    rw [writeString_append, List.cons_append] at hstring
    rw [htext]
    refine ⟨hlt, ?_⟩
    have hreading : Reading.ofOption _ (some (s.toList, rest)) = .ok ⟨s.toList, rest, hlt⟩ :=
      dif_pos hlt
    rw [value_doubleQuote, hstring, hreading]
    simp only [Except.map, Reading.as, String.ofList_toList]
  | @list vs hplain ih =>
    intro rest _
    cases vs with
    | nil => exact value_empty rest
    | cons v vs =>
      obtain ⟨hlt, helements⟩ :=
        elements_writeElements hplain (level + 1) (fun v hv => ih v hv (level + 1)) level rest
      have htext : writeValue level (.list (v :: vs)) ++ rest =
          '[' :: '\n' :: (writeElements (level + 1) (v :: vs) ++ (indent level ++ ']' :: rest)) := by
        simp [writeValue]
      rw [htext]
      refine ⟨hlt, ?_⟩
      rw [value, helements]
      rfl

/-! ## Documents section by section -/

/-- The last of entries with different names is the one that is found and replaced. -/
theorem put_last {done : Entries} {name : String} (h : name ∉ done.map Prod.fst) (v w : Value) :
    Entries.get? (done ++ [(name, v)]) name = some v ∧
    Entries.put (done ++ [(name, v)]) name w = done ++ [(name, w)] := by
  induction done with
  | nil => exact ⟨List.lookup_cons_self, if_pos rfl⟩
  | cons e done ih =>
    obtain ⟨key, u⟩ := e
    obtain ⟨hkey, hdone⟩ := not_or.1 (mt List.mem_cons.2 h)
    obtain ⟨hget, hput⟩ := ih hdone
    refine ⟨?_, ?_⟩
    · rw [Entries.get?, List.cons_append, List.lookup_cons, beq_false_of_ne hkey]
      exact hget
    · rw [List.cons_append, Entries.put, if_neg (Ne.symm hkey), hput]
      rfl

/-- A name that is not there is not found. -/
theorem get?_of_not_mem {entries : Entries} {name : String} (h : name ∉ entries.map Prod.fst) :
    Entries.get? entries name = none := by
  refine List.lookup_eq_none_iff.2 fun e he => bne_iff_ne.2 ?_
  rintro rfl
  exact h (List.mem_map_of_mem he)

namespace Document

/-- Whether nothing but sections has been added to a document, and to them nothing but values under
single keys. -/
structure IsOrderly (d : Document) : Prop where
  /-- What was opened are sections. -/
  opened : ∀ p ∈ d.opened, ∃ name ∈ d.root.map Prod.fst, p = [name]
  /-- What takes nothing more lies inside sections. -/
  closed : ∀ p ∈ d.closed, p.length = 2
  /-- No dotted key was met. -/
  pending : d.pending = []

variable {d : Document} {name key : String} {done entries : Entries}

/-- A section is covered by nothing that was closed. -/
theorem IsOrderly.covers_closed (hd : d.IsOrderly) (name : String) :
    covers d.closed [name] = false := by
  rw [covers, List.any_eq_false]
  intro p hp h
  simp only [Bool.and_eq_true] at h
  have hlength := (List.isPrefixOf_iff_prefix.1 h.2).length_le
  rw [hd.closed p hp] at hlength
  exact absurd hlength (by simp)

/-- A new section comes last and is filled next. -/
theorem IsOrderly.openTable (hd : d.IsOrderly) (hname : name ∉ d.root.map Prod.fst) :
    ∃ d', d.openTable [name] = some d' ∧ d'.IsOrderly ∧
      d'.root = d.root ++ [(name, .object [])] ∧ d'.header = [name] := by
  have hopened : d.opened.contains [name] = false := by
    refine Bool.eq_false_iff.2 fun h => ?_
    obtain ⟨other, hother, heq⟩ := hd.opened _ (List.contains_iff_mem.1 h)
    obtain rfl := (List.cons.inj heq).1
    exact hname hother
  have hupdate : Table.update true some [name] d.root = some (d.root ++ [(name, .object [])]) := by
    rw [Table.update, get?_of_not_mem hname]
    exact congrArg some (Entries.put_of_not_mem hname _)
  refine ⟨⟨d.root ++ [(name, .object [])], [name], d.closed, [name] :: d.opened, []⟩, ?_,
    ⟨?_, hd.closed, rfl⟩, rfl, rfl⟩
  · unfold Document.openTable settle
    simp only [hd.pending, List.nil_append, hopened, hd.covers_closed, Bool.or_self,
      Bool.false_eq_true, if_false, hupdate]
    rfl
  · intro p hp
    rw [List.map_append]
    rcases List.mem_cons.1 hp with rfl | hp
    · exact ⟨name, List.mem_append_right _ (List.mem_singleton.2 rfl), rfl⟩
    · obtain ⟨other, hother, rfl⟩ := hd.opened p hp
      exact ⟨other, List.mem_append_left _ hother, rfl⟩

/-- A new key of the section that is being filled gets its value behind the others. -/
theorem IsOrderly.assign (hd : d.IsOrderly) (hroot : d.root = done ++ [(name, .object entries)])
    (hheader : d.header = [name]) (hname : name ∉ done.map Prod.fst)
    (hkey : key ∉ entries.map Prod.fst) (v : Value) :
    ∃ d', d.assign [key] v = some d' ∧ d'.IsOrderly ∧
      d'.root = done ++ [(name, .object (entries ++ [(key, v)]))] ∧ d'.header = [name] := by
  have hadd : Table.addNew key v entries = some (entries ++ [(key, v)]) := by
    rw [Table.addNew, get?_of_not_mem hkey]
    exact congrArg some (Entries.put_of_not_mem hkey v)
  have hupdate : Table.update true (Table.addNew key v) [name] d.root =
      some (done ++ [(name, .object (entries ++ [(key, v)]))]) := by
    obtain ⟨hget, hput⟩ := put_last hname (.object entries) (.object (entries ++ [(key, v)]))
    rw [Table.update, hroot, hget]
    show (Table.update true (Table.addNew key v) [] entries).map _ = _
    rw [Table.update, hadd, Option.map_some, hput]
  refine ⟨{ d with root := done ++ [(name, .object (entries ++ [(key, v)]))]
                   closed := if isContainer v then [name, key] :: d.closed else d.closed },
    ?_, ⟨?_, ?_, hd.pending⟩, rfl, hheader⟩
  · have hparent : d.header ++ [key].dropLast = [name] := by rw [hheader]; rfl
    have hnew : d.header ++ [key] = [name, key] := by rw [hheader]; rfl
    have hthrough : passed d.header [key] = [] := rfl
    unfold Document.assign
    simp only [hthrough, hparent, hnew, List.any_nil, hd.covers_closed, Bool.or_self,
      Bool.false_eq_true, if_false, List.getLast?_singleton, Option.getD_some, hupdate,
      List.nil_append]
    rfl
  · intro p hp
    obtain ⟨other, hother, rfl⟩ := hd.opened p hp
    rw [hroot, List.map_append] at hother
    rw [List.map_append]
    exact ⟨other, hother, rfl⟩
  · intro p hp
    dsimp only at hp
    split at hp
    · rcases List.mem_cons.1 hp with rfl | hp
      · rfl
      · exact hd.closed p hp
    · exact hd.closed p hp

end Document

/-! ## Sections and whole documents -/

variable {d : Document} {name : String} {done : Entries}

/-- What is written of an entry is read as a setting. -/
theorem statements_entry {key : String} (hv : IsPlain v) {d' : Document}
    (hassign : d.assign [key] v = some d') (rest : List Char) :
    statements d (writeKey key.toList ++ ' ' :: '=' :: ' ' :: (writeValue 0 v ++ '\n' :: rest)) =
      statements d' rest := by
  obtain ⟨c, cs, hcs, hc⟩ := hv.exists_eq_cons 0
  have hskip : skipBlank (' ' :: (writeValue 0 v ++ '\n' :: rest)) =
      writeValue 0 v ++ '\n' :: rest := by
    simp only [List.mem_cons, not_or] at hc
    rw [hcs]
    simp [skipBlank, hc]
  have hvalue : ∃ h, value (skipBlank (' ' :: (writeValue 0 v ++ '\n' :: rest))) =
      (Except.ok v).map fun v => ⟨v, [] ++ '\n' :: rest, h⟩ := by
    rw [hskip]
    exact isReadBack_writeValue hv 0 (by simp)
  rw [statements_setting d (spellsKey_writeKey key) [] hvalue rfl]
  show (required (d.assign [key] v)).bind _ = _
  rw [hassign]
  rfl

/-- The entries of the section that is being filled are added to it one by one. -/
theorem statements_writeEntries {front entries : Entries} (hd : d.IsOrderly)
    (hroot : d.root = done ++ [(name, .object front)]) (hheader : d.header = [name])
    (hname : name ∉ done.map Prod.fst) (hplain : ∀ e ∈ entries, IsPlain e.2)
    (hkeys : ((front ++ entries).map Prod.fst).Nodup) (rest : List Char) :
    ∃ d' : Document, statements d (writeEntries entries ++ rest) = statements d' rest ∧
      d'.IsOrderly ∧ d'.root = done ++ [(name, .object (front ++ entries))] := by
  induction entries generalizing d front with
  | nil => exact ⟨d, rfl, hd, by rw [List.append_nil, hroot]⟩
  | cons e entries ih =>
    obtain ⟨key, v⟩ := e
    obtain ⟨hv, hentries⟩ := List.forall_mem_cons.1 hplain
    have hkey : key ∉ front.map Prod.fst := by
      rw [List.map_append, List.nodup_append] at hkeys
      exact fun h => hkeys.2.2 _ h _ List.mem_cons_self rfl
    obtain ⟨d', hassign, hd', hroot', hheader'⟩ := hd.assign hroot hheader hname hkey v
    have hrest : ((front ++ [(key, v)] ++ entries).map Prod.fst).Nodup := by
      rwa [List.append_assoc]
    obtain ⟨last, hlast, horderly, hlastRoot⟩ := ih hd' hroot' hheader' hentries hrest
    have htext : writeEntries ((key, v) :: entries) ++ rest = writeKey key.toList ++
        ' ' :: '=' :: ' ' :: (writeValue 0 v ++ '\n' :: (writeEntries entries ++ rest)) := by
      simp [writeEntries]
    refine ⟨last, ?_, horderly, ?_⟩
    · rw [htext, statements_entry hv hassign, hlast]
    · rw [hlastRoot, List.append_assoc]
      rfl

/-- A section comes behind those that were written before it. -/
theorem statements_writeSection {entries : Entries} (hd : d.IsOrderly)
    (hname : name ∉ d.root.map Prod.fst) (hplain : ∀ e ∈ entries, IsPlain e.2)
    (hkeys : (entries.map Prod.fst).Nodup) (rest : List Char) :
    ∃ d' : Document, statements d (writeSection name entries ++ rest) = statements d' rest ∧
      d'.IsOrderly ∧ d'.root = d.root ++ [(name, .object entries)] := by
  obtain ⟨d', hopen, hd', hroot, hheader⟩ := hd.openTable hname
  have hfront : ((([] : Entries) ++ entries).map Prod.fst).Nodup := hkeys
  obtain ⟨last, hlast, horderly, hlastRoot⟩ :=
    statements_writeEntries hd' hroot hheader hname hplain hfront rest
  refine ⟨last, ?_, horderly, hlastRoot⟩
  have hheading : ∃ h, statement d ('[' :: (writeKey name.toList ++ ']' :: '\n' ::
      (writeEntries entries ++ rest))) = (required (d.openTable [name])).map fun d =>
        ⟨d, [] ++ '\n' :: (writeEntries entries ++ rest), h⟩ :=
    statement_heading d (spellsKey_writeKey name) _
  have htext : writeSection name entries ++ rest = '[' :: (writeKey name.toList ++ ']' :: '\n' ::
      (writeEntries entries ++ rest)) := by
    simp [writeSection]
  rw [htext, statements_statement d [] (by decide) hheading rfl, hopen]
  exact hlast

/-- Entries that a section may hold: plain values under different keys. -/
structure IsFlat (entries : Entries) : Prop where
  /-- The keys are different. -/
  nodup : (entries.map Prod.fst).Nodup
  /-- The values are plain. -/
  plain : ∀ e ∈ entries, IsPlain e.2

/-- The document of sections. -/
def ofSections (sections : List (String × Entries)) : Entries :=
  sections.map fun s => (s.1, .object s.2)

/-- The text of sections, with a blank line between them. -/
def textOf (sections : List (String × Entries)) : List Char :=
  join ['\n'] (sections.map fun s => writeSection s.1 s.2)

/-- A document of sections is written section by section. -/
theorem write_ofSections (sections : List (String × Entries)) :
    (write (ofSections sections)).toList = textOf sections := by
  have hplain : (ofSections sections).filter (fun e => (table? e).isNone) = [] := by
    rw [List.filter_eq_nil_iff]
    rintro e he
    obtain ⟨s, -, rfl⟩ := List.mem_map.1 he
    exact Bool.false_ne_true
  have hsections : (ofSections sections).filterMap table? = sections := by
    rw [ofSections, List.filterMap_map]
    exact List.filterMap_some
  rw [write, hplain, hsections, String.toList_ofList]
  rfl

/-- Sections are read one after the other. -/
theorem statements_textOf {sections : List (String × Entries)} (hd : d.IsOrderly)
    (hnames : (d.root.map Prod.fst ++ sections.map Prod.fst).Nodup)
    (hflat : ∀ s ∈ sections, IsFlat s.2) :
    (statements d (textOf sections)).map Document.root = .ok (d.root ++ ofSections sections) := by
  induction sections generalizing d with
  | nil =>
    show (statements d (Line.text [])).map Document.root = _
    rw [statements_text (List.forall_mem_nil _), ofSections, List.map_nil, List.append_nil]
    rfl
  | cons s sections ih =>
    obtain ⟨hs, hsections⟩ := List.forall_mem_cons.1 hflat
    have hname : s.1 ∉ d.root.map Prod.fst := by
      rw [List.nodup_append] at hnames
      exact fun h => hnames.2.2 _ h _ List.mem_cons_self rfl
    -- behind the section stands nothing, or a blank line and the other sections
    obtain ⟨rest, htext, hrest⟩ : ∃ rest, textOf (s :: sections) = writeSection s.1 s.2 ++ rest ∧
        ∀ d, statements d rest = statements d (textOf sections) := by
      cases sections with
      | nil => exact ⟨[], (List.append_nil _).symm, fun d => rfl⟩
      | cons next sections =>
        exact ⟨'\n' :: textOf (next :: sections), List.append_assoc .., fun d =>
          statements_newline d _⟩
    obtain ⟨d', hread, hd', hroot⟩ := statements_writeSection hd hname hs.plain hs.nodup rest
    have hrestNames : (d'.root.map Prod.fst ++ sections.map Prod.fst).Nodup := by
      rw [hroot, List.map_append, List.append_assoc]
      exact hnames
    rw [htext, hread, hrest, ih hd' hrestNames hsections, hroot, List.append_assoc]
    rfl

/-! ## Line ends -/

/-- A carriage return in a text is escaped. -/
theorem cr_not_mem_writeString (s : List Char) : '\r' ∉ writeString s := by
  have hescape (c : Char) : '\r' ∉ escape c := by
    intro h
    rcases escape_forms c with ⟨letter, hletter, hesc⟩ | ⟨-, hesc⟩ | ⟨-, -, hlegal, hesc⟩
    · rw [hesc] at h
      obtain rfl : '\r' = letter := by simpa using h
      cases hletter
    · rw [hesc] at h
      have hmem : '\r' ∈ hex 4 c.toNat := by simpa using h
      exact absurd (isSome_of_mem_hex hmem) (by decide)
    · rw [hesc, List.mem_singleton] at h
      subst h
      cases hlegal
  have hbody : '\r' ∉ s.flatMap escape := by
    rw [List.mem_flatMap]
    rintro ⟨c, -, h⟩
    exact hescape c h
  simp [writeString, hbody]

/-- No carriage return is written for a key. -/
theorem cr_not_mem_writeKey (key : List Char) : '\r' ∉ writeKey key := by
  rw [writeKey]
  split
  · next hbare => exact cr_not_mem_bare hbare
  · exact cr_not_mem_writeString key

/-- No carriage return is written for a plain value. -/
theorem cr_not_mem_writeValue (hv : IsPlain v) (level : Nat) : '\r' ∉ writeValue level v := by
  have hindent (n : Nat) : '\r' ∉ indent n := fun h =>
    absurd (List.eq_of_mem_replicate h) (by decide)
  induction hv generalizing level with
  | bool b =>
    show '\r' ∉ (if b then "true" else "false").toList
    cases b <;> decide
  | text s => exact cr_not_mem_writeString s.toList
  | @list vs _ ih =>
    have helements (n : Nat) (us : List Value) (hus : ∀ u ∈ us, u ∈ vs) :
        '\r' ∉ writeElements n us := by
      induction us with
      | nil => exact List.not_mem_nil
      | cons u us ihus =>
        obtain ⟨hu, hrest⟩ := List.forall_mem_cons.1 hus
        simp [writeElements, hindent, ih u hu n, ihus hrest]
    cases vs with
    | nil =>
      show '\r' ∉ ['[', ']']
      decide
    | cons v vs => simp [writeValue, helements (level + 1) (v :: vs) fun _ h => h, hindent]

/-- No carriage return is written for a section. -/
theorem cr_not_mem_writeSection (name : String) {entries : Entries} (h : IsFlat entries) :
    '\r' ∉ writeSection name entries := by
  have hentries : '\r' ∉ writeEntries entries := by
    rw [writeEntries, List.mem_flatMap]
    rintro ⟨e, he, hmem⟩
    have hkey := cr_not_mem_writeKey e.1.toList
    have hvalue := cr_not_mem_writeValue (h.plain e he) 0
    simp [hkey, hvalue] at hmem
  simp [writeSection, cr_not_mem_writeKey, hentries]

/-- No carriage return is written for a document of sections. -/
theorem cr_not_mem_textOf {sections : List (String × Entries)} (h : ∀ s ∈ sections, IsFlat s.2) :
    '\r' ∉ textOf sections := by
  intro hmem
  rcases mem_join hmem with hmem | ⟨w, hw, hmem⟩
  · exact absurd hmem (by decide)
  · obtain ⟨s, hs, rfl⟩ := List.mem_map.1 hw
    exact cr_not_mem_writeSection s.1 (h s hs) hmem

/-- **A document of sections is read back as it was written**: with different names, and plain
values under different keys in each of them. -/
theorem read_write {sections : List (String × Entries)} (hnames : (sections.map Prod.fst).Nodup)
    (hflat : ∀ s ∈ sections, IsFlat s.2) :
    read (write (ofSections sections)).toList = .ok (ofSections sections) := by
  have hstart : Document.IsOrderly ⟨[], [], [], [], []⟩ :=
    ⟨List.forall_mem_nil _, List.forall_mem_nil _, rfl⟩
  have hread := statements_textOf hstart hnames hflat
  obtain ⟨d, hd, hroot⟩ := map_eq_ok.1 hread
  rw [read, write_ofSections, lineFeeds_of_not_mem (cr_not_mem_textOf hflat), hd]
  exact congrArg Except.ok hroot

end TaskQuery.Toml
