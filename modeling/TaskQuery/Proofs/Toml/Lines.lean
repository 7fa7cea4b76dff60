import TaskQuery.Proofs.Toml.JsonStrings

/-!
# Documents of one statement a line

The statements of a document are read one after the other, and each of them changes the document.
In a document whose lines are notes, headings of tables and settings of single keys, a line is
read without regard to the lines around it.

* `Line`, `Line.isReadable`: such a line, and when its parts are what they should be.
* `Line.apply`: what it does to a document.
* `value_spelling`: the values that may stand in a setting are read back.
* `statements_line`, `statements_text`: one line, and a whole text of lines.
* `read_text`: the table that a text of lines holds.
-/

namespace TaskQuery.Toml

variable {s rest k : List Char}

/-! ## Ends of lines -/

/-- What may stand behind a statement: blanks, and a comment. -/
def isTrailer (s : List Char) : Bool :=
  match skipBlank s with
  | [] => true
  | '#' :: text => text.all (!isIllegal ·)
  | _ => false

/-- The blanks of a line end at its line feed. -/
theorem skipBlank_line (s rest : List Char) :
    skipBlank (s ++ '\n' :: rest) = skipBlank s ++ '\n' :: rest := by
  induction s with
  | nil => rfl
  | cons c s ih =>
    simp only [skipBlank, List.cons_append, List.dropWhile_cons] at ih ⊢
    split
    · exact ih
    · rfl

/-- A comment ends at the line feed. -/
theorem skipComment_line {text : List Char} (h : text.all (!isIllegal ·) = true)
    (rest : List Char) : skipComment ('#' :: text ++ '\n' :: rest) = some ('\n' :: rest) := by
  -- a line feed is illegal in the comment itself
  have hne : ∀ c ∈ text, decide (c ≠ '\n') = true := by
    intro c hc
    have hlegal := List.all_eq_true.1 h c hc
    refine decide_eq_true fun heq => ?_
    subst heq
    exact absurd hlegal (by decide)
  have htext : text.any isIllegal = false := by
    simpa using h
  simp only [List.cons_append, skipComment]
  rw [List.takeWhile_append_of_pos hne, List.dropWhile_append_of_pos hne]
  simp [htext]

/-- What may stand behind a statement is skipped up to the line feed. -/
theorem skipComment_trailer (h : isTrailer s = true) (rest : List Char) :
    skipComment (skipBlank (s ++ '\n' :: rest)) = some ('\n' :: rest) := by
  unfold isTrailer at h
  rw [skipBlank_line]
  split at h
  · next heq => rw [heq]; rfl
  · next text heq => rw [heq]; exact skipComment_line h rest
  · cases h

/-- The line ends behind what may stand there. -/
theorem lineEnd_trailer (h : isTrailer s = true) (rest : List Char) :
    ∃ hr, lineEnd (s ++ '\n' :: rest) = .ok ⟨rest, hr⟩ := by
  have hc := skipComment_trailer h rest
  refine ⟨by simp; omega, ?_⟩
  unfold lineEnd
  split
  · next heq => rw [hc] at heq; cases heq
  · next heq => rw [hc] at heq; cases heq
  · next c r heq =>
    rw [hc] at heq
    cases heq
    rfl

/-! ## Keys -/

/-- A key that is written without quotes. -/
def isBare (k : List Char) : Bool := !k.isEmpty && k.all isBareKeyChar

/-- A character of a bare key is none that is not bare. -/
theorem ne_of_isBareKeyChar {c d : Char} (hc : isBareKeyChar c = true)
    (hd : isBareKeyChar d = false) : c ≠ d :=
  fun h => Bool.false_ne_true (hd.symm.trans (h ▸ hc))

/-- A bare key has a first character, which is bare. -/
theorem exists_of_isBare (hk : isBare k = true) :
    ∃ c cs, k = c :: cs ∧ isBareKeyChar c = true := by
  cases k with
  | nil => cases hk
  | cons c cs => exact ⟨c, cs, rfl, by simp_all [isBare]⟩

/-- What begins with a bare key begins with no character that is not bare. -/
theorem bare_append_ne (hk : isBare k = true) {d : Char} (hd : isBareKeyChar d = false)
    (rest s : List Char) : k ++ rest ≠ d :: s := by
  obtain ⟨c, cs, rfl, hc⟩ := exists_of_isBare hk
  exact fun heq => ne_of_isBareKeyChar hc hd (List.cons.inj heq).1

/-- A bare key is read up to what cannot belong to it. -/
theorem keyPart?_bare (hk : isBare k = true) (hrest : rest.head?.any isBareKeyChar = false) :
    keyPart? (k ++ rest) = some (String.ofList k, rest) := by
  have hchars : ∀ c ∈ k, isBareKeyChar c = true := by
    simp_all [isBare]
  have htake : (k ++ rest).takeWhile isBareKeyChar = k := by
    rw [List.takeWhile_append_of_pos hchars]
    cases rest <;> simp_all
  have hdrop : (k ++ rest).dropWhile isBareKeyChar = rest := by
    rw [List.dropWhile_append_of_pos hchars]
    cases rest <;> simp_all
  obtain ⟨c, cs, rfl, -⟩ := exists_of_isBare hk
  unfold keyPart?
  split
  · next heq => exact absurd heq (bare_append_ne hk rfl rest _)
  · next heq => exact absurd heq (bare_append_ne hk rfl rest _)
  · rw [htake, hdrop]
    rfl

/-- A spelling of a key: it is read as the key, and a line may begin with it. -/
structure SpellsKey (w : List Char) (name : String) : Prop where
  /-- The key is read, unless something follows that would go with it. -/
  keyPart?_append : ∀ {rest : List Char}, rest.head?.any isBareKeyChar = false →
    keyPart? (w ++ rest) = some (name, rest)
  /-- It does not begin with what is skipped, nor like a heading. -/
  exists_eq_cons : ∃ c cs, w = c :: cs ∧ c ∉ [' ', '\t', '\n', '#', '[']

/-- A bare key is spelled as it is. -/
theorem spellsKey_of_isBare {name : String} (hk : isBare name.toList = true) :
    SpellsKey name.toList name where
  keyPart?_append hrest := by rw [keyPart?_bare hk hrest, String.ofList_toList]
  exists_eq_cons := by
    obtain ⟨c, cs, hname, hc⟩ := exists_of_isBare hk
    refine ⟨c, cs, hname, ?_⟩
    simp only [List.mem_cons, List.not_mem_nil, or_false]
    rintro (rfl | rfl | rfl | rfl | rfl) <;> cases hc

namespace SpellsKey

variable {w : List Char} {name : String}

/-- A key is not spelled without characters. -/
theorem length_pos (hw : SpellsKey w name) : 0 < w.length := by
  obtain ⟨c, cs, rfl, -⟩ := hw.exists_eq_cons
  exact Nat.succ_pos cs.length

/-- No blank is skipped in front of a key. -/
theorem skipBlank_append (hw : SpellsKey w name) (rest : List Char) :
    skipBlank (w ++ rest) = w ++ rest := by
  obtain ⟨c, cs, rfl, hc⟩ := hw.exists_eq_cons
  simp only [List.mem_cons, not_or] at hc
  simp [skipBlank, hc]

/-- What begins with a key is no heading. -/
theorem append_ne (hw : SpellsKey w name) (rest cs : List Char) : w ++ rest ≠ '[' :: cs := by
  obtain ⟨c, more, rfl, hc⟩ := hw.exists_eq_cons
  intro heq
  rw [(List.cons.inj heq).1] at hc
  exact absurd hc (by decide)

/-- A key without dots behind it is read as a path of its own. -/
theorem key_append (hw : SpellsKey w name) (rest : List Char)
    (hrest : rest.head?.any isBareKeyChar = false) (hdot : (skipBlank rest).head? ≠ some '.') :
    ∃ h, key (w ++ rest) = .ok ⟨[name], skipBlank rest, h⟩ := by
  have hlt : rest.length < (w ++ rest).length := by
    rw [List.length_append]
    exact Nat.lt_add_of_pos_left hw.length_pos
  have hfirst : Reading.ofOption (w ++ rest).length (keyPart? (w ++ rest)) =
      .ok ⟨name, rest, hlt⟩ := by
    rw [hw.keyPart?_append hrest]
    exact dif_pos hlt
  refine ⟨Nat.lt_of_le_of_lt (length_skipBlank_le rest) hlt, ?_⟩
  rw [key, hfirst]
  simp only [bind, Except.bind]
  split
  · next heq => rw [heq] at hdot; exact absurd rfl hdot
  · exact dif_pos _

end SpellsKey

/-! ## Headings and settings -/

/-- The heading of a table opens it. -/
theorem statement_heading (d : Document) {w : List Char} {name : String} (hw : SpellsKey w name)
    (rest : List Char) :
    ∃ h, statement d ('[' :: (w ++ ']' :: rest)) =
      (required (d.openTable [name])).map fun d => ⟨d, rest, h⟩ := by
  obtain ⟨h, hkey⟩ := hw.key_append (']' :: rest) rfl (by simp [skipBlank])
  have hlt : rest.length < (w ++ ']' :: rest).length := by
    simp only [List.length_append, List.length_cons]
    omega
  have hheader : tableHeader d (w ++ ']' :: rest) =
      (required (d.openTable [name])).map fun d => ⟨d, rest, hlt⟩ := by
    unfold tableHeader
    rw [hw.skipBlank_append]
    simp only [bind, Except.bind, hkey]
    cases required (d.openTable [name]) with
    | error e => rfl
    | ok d => exact dif_pos hlt
  refine ⟨Nat.lt_succ_of_lt hlt, ?_⟩
  rw [statement, hheader]
  · cases required (d.openTable [name]) <;> rfl
  · exact fun cs heq => hw.append_ne _ cs heq

/-- A setting gives its key the value that is spelled behind it. -/
theorem statement_setting (d : Document) {w : List Char} {name : String} (hw : SpellsKey w name)
    {spelling rest : List Char} {r : Except ReadFault Value}
    (hv : ∃ h, value (skipBlank spelling) = r.map fun v => ⟨v, rest, h⟩) :
    ∃ h, statement d (w ++ ' ' :: '=' :: spelling) =
      (r.bind fun v => required (d.assign [name] v)).map fun d => ⟨d, rest, h⟩ := by
  have hkey : ∃ h, key (skipBlank (w ++ ' ' :: '=' :: spelling)) =
      .ok ⟨[name], '=' :: spelling, h⟩ := by
    rw [hw.skipBlank_append]
    exact hw.key_append (' ' :: '=' :: spelling) rfl (by simp [skipBlank])
  obtain ⟨hlt, hv⟩ := hv
  obtain ⟨h, hkey⟩ := hkey
  have hspelling := length_skipBlank_le spelling
  have hlt' : rest.length < (w ++ ' ' :: '=' :: spelling).length := by
    simp only [List.length_append, List.length_cons]
    omega
  have hpair : pair (w ++ ' ' :: '=' :: spelling) =
      r.map fun v => ⟨([name], v), rest, hlt'⟩ := by
    rw [pair, hkey]
    simp only [bind, Except.bind]
    rw [hv]
    cases r <;> rfl
  refine ⟨hlt', ?_⟩
  rw [statement, hpair]
  · cases r with
    | error e => rfl
    | ok v =>
      simp only [Except.map, Except.bind, bind]
      cases required (d.assign [name] v) <;> rfl
  · exact fun cs heq => hw.append_ne _ _ heq
  · exact fun cs heq => hw.append_ne _ _ heq

/-! ## Statements one after the other -/

/-- An empty line is passed over. -/
theorem statements_newline (d : Document) (rest : List Char) :
    statements d ('\n' :: rest) = statements d rest := by
  rw [statements]
  split
  · next heq => cases heq
  · next heq => cases heq; rfl
  · next heq => cases heq
  · next hne _ => exact absurd rfl (hne _)

/-- Behind a note the statements go on. -/
theorem statements_note (d : Document) (hs : isTrailer s = true) (rest : List Char) :
    statements d (s ++ '\n' :: rest) = statements d rest := by
  have hcomment := skipComment_trailer hs rest
  rw [statements]
  split
  · next heq => rw [heq] at hcomment; cases hcomment
  · next heq => rw [heq] at hcomment; cases hcomment; rfl
  · next cs heq =>
    rw [heq] at hcomment
    split
    · next hnone => rw [hnone] at hcomment; cases hcomment
    · next rest' hsome =>
      obtain rfl := Option.some.inj (hsome.symm.trans hcomment)
      exact statements_newline d rest
  · next _ hnewline hhash =>
    unfold skipComment at hcomment
    split at hcomment
    · next h => exact absurd h (hhash _)
    · exact absurd (Option.some.inj hcomment) (hnewline _)

/-- Behind a statement and what may stand in its line the statements go on. -/
theorem statements_statement (d : Document) {c : Char} {cs : List Char} (after : List Char)
    {r : Except ReadFault Document} (hc : c ∉ [' ', '\t', '\n', '#'])
    (hstatement : ∃ h, statement d (c :: cs) = r.map fun d => ⟨d, after ++ '\n' :: rest, h⟩)
    (hafter : isTrailer after = true) :
    statements d (c :: cs) = r.bind fun d => statements d rest := by
  have hskip : skipBlank (c :: cs) = c :: cs := by
    simp only [List.mem_cons, not_or] at hc
    simp [skipBlank, hc]
  have hstatement : ∃ h, statement d (skipBlank (c :: cs)) =
      r.map fun d => ⟨d, after ++ '\n' :: rest, h⟩ := by
    rwa [hskip]
  obtain ⟨h, hstatement⟩ := hstatement
  obtain ⟨hr, hend⟩ := lineEnd_trailer hafter rest
  rw [statements]
  split
  · next heq => rw [hskip] at heq; cases heq
  · next heq => rw [hskip] at heq; cases heq; exact absurd hc (by decide)
  · next heq => rw [hskip] at heq; cases heq; exact absurd hc (by decide)
  · rw [hstatement]
    cases r with
    | error e => rfl
    | ok d' =>
      simp only [Except.map, bind, Except.bind]
      rw [hend]

/-- Behind a setting the statements go on. -/
theorem statements_setting (d : Document) {w : List Char} {name : String} (hw : SpellsKey w name)
    {spelling : List Char} (after : List Char) {r : Except ReadFault Value}
    (hv : ∃ h, value (skipBlank spelling) = r.map fun v => ⟨v, after ++ '\n' :: rest, h⟩)
    (hafter : isTrailer after = true) :
    statements d (w ++ ' ' :: '=' :: spelling) =
      (r.bind fun v => required (d.assign [name] v)).bind fun d => statements d rest := by
  have hstatement := statement_setting d hw hv
  obtain ⟨c, cs, rfl, hc⟩ := hw.exists_eq_cons
  exact statements_statement d after (fun h => hc (List.mem_append_left ['['] h)) hstatement hafter

/-! ## Spellings of values -/

/-- A value in a spelling that is on one line. -/
inductive Spelling where
  /-- A truth value. -/
  | flag (b : Bool)
  /-- The list without elements. -/
  | empty
  /-- A text, written as a JSON string. -/
  | quoted (s : String)

namespace Spelling

/-- The spelling itself. -/
def written : Spelling → String
  | flag b => toString b
  | empty => "[]"
  | quoted s => String.ofList (Json.quote s.toList)

/-- The value that is read; a text is refused when a character of it is written as a pair. -/
def meaning : Spelling → Except ReadFault Value
  | flag b => .ok (.bool b)
  | empty => .ok (.list [])
  | quoted s => if s.toList.any Json.isPaired then .error .malformed else .ok (.text s)

end Spelling

/-- What is neither in brackets nor in quotes is a scalar. -/
theorem value_scalar {c : Char} {cs : List Char} {v : Value} (hc : c ∉ ['[', '\x7b', '"', '\''])
    (h : scalar (c :: cs) = .ok (v, rest)) (hlt : rest.length < (c :: cs).length) :
    value (c :: cs) = .ok ⟨v, rest, hlt⟩ := by
  simp only [List.mem_cons, List.not_mem_nil, or_false, not_or] at hc
  obtain ⟨hbracket, hbrace, hdouble, hsingle⟩ := hc
  rw [value, h]
  · simp only [hdouble, hsingle, decide_false, Bool.or_self, Bool.false_eq_true, if_false]
    exact dif_pos hlt
  · exact hbracket
  · exact hbrace

/-- A truth value is read back. -/
theorem value_flag (b : Bool) (rest : List Char) :
    ∃ h, value ((toString b).toList ++ rest) = .ok ⟨.bool b, rest, h⟩ := by
  have hlt : rest.length < ((toString b).toList ++ rest).length := by
    rw [List.length_append]
    cases b <;> simp [toString]
  refine ⟨hlt, ?_⟩
  cases b with
  | true => exact value_scalar (by decide) rfl hlt
  | false => exact value_scalar (by decide) rfl hlt

/-- The list without elements is read back. -/
theorem value_empty (rest : List Char) : ∃ h, value ('[' :: ']' :: rest) = .ok ⟨.list [], rest, h⟩ := by
  have hlt : rest.length < (']' :: rest).length + 1 := by
    simp only [List.length_cons]
    omega
  have helements : elements (']' :: rest) = .ok ⟨[], rest, hlt⟩ := by
    rw [elements]
    exact dif_pos hlt
  refine ⟨hlt, ?_⟩
  rw [value, helements]
  rfl

/-- A value that begins with a double quote is a text. -/
theorem value_doubleQuote (s : List Char) :
    value ('"' :: s) = (Reading.ofOption (s.length + 1) (string? ('"' :: s))).map fun r =>
      r.as (.text (String.ofList r.value)) (Nat.le_refl _) := by
  rw [value]
  · simp only [decide_true, Bool.true_or, if_true]
    cases Reading.ofOption (s.length + 1) (string? ('"' :: s)) <;> rfl
  · decide
  · decide

/-- A JSON string is read, or refused if a character of it is written as a pair. -/
theorem value_quote (s : String) (hrest : rest.head? ≠ some '"') :
    ∃ h, value (Json.quote s.toList ++ rest) =
      (Spelling.quoted s).meaning.map fun v => ⟨v, rest, h⟩ := by
  have hcons : Json.quote s.toList ++ rest =
      '"' :: (s.toList.flatMap Json.escape ++ ['"'] ++ rest) := rfl
  have hstring := string?_quote s.toList hrest
  have hlt : rest.length < (s.toList.flatMap Json.escape ++ ['"'] ++ rest).length + 1 := by
    simp only [List.length_append]
    omega
  rw [hcons] at hstring ⊢
  refine ⟨hlt, ?_⟩
  rw [value_doubleQuote, hstring, Spelling.meaning]
  cases s.toList.any Json.isPaired with
  | true => rfl
  | false =>
    have hreading : Reading.ofOption _ (some (s.toList, rest)) = .ok ⟨s.toList, rest, hlt⟩ :=
      dif_pos hlt
    rw [if_neg Bool.false_ne_true, if_neg Bool.false_ne_true, hreading]
    simp only [Except.map, Reading.as, String.ofList_toList]

/-- What is spelled behind a blank is read, unless a quote follows that would go with it. -/
theorem value_spelling (spelling : Spelling) (hrest : rest.head? ≠ some '"') :
    ∃ h, value (skipBlank (' ' :: (spelling.written.toList ++ rest))) =
      spelling.meaning.map fun v => ⟨v, rest, h⟩ := by
  cases spelling with
  | flag b =>
    have hskip : skipBlank (' ' :: ((toString b).toList ++ rest)) =
        (toString b).toList ++ rest := by
      cases b <;> rfl
    rw [Spelling.written, hskip]
    exact value_flag b rest
  | empty => exact value_empty rest
  | quoted s =>
    rw [Spelling.written, String.toList_ofList]
    exact value_quote s hrest

/-! ## Lines -/

/-- A line of a document. -/
inductive Line where
  /-- A comment, or nothing. -/
  | note (text : String)
  /-- The heading of a table. -/
  | heading (name : String)
  /-- A key with its value, and what stands behind them. -/
  | setting (key : String) (spelling : Spelling) (trailer : String)

namespace Line

/-- A line as it is written. -/
def written : Line → String
  | note text => text
  | heading name => "[" ++ name ++ "]"
  | setting key spelling trailer => key ++ " = " ++ spelling.written ++ trailer

/-- Whether the parts of a line are what they should be. -/
def isReadable : Line → Bool
  | note text => isTrailer text.toList
  | heading name => isBare name.toList
  | setting key _ trailer => isBare key.toList && isTrailer trailer.toList

/-- The document that a line makes of another one. -/
def apply (d : Document) : Line → Except ReadFault Document
  | note _ => .ok d
  | heading name => required (d.openTable [name])
  | setting key spelling _ => spelling.meaning.bind fun v => required (d.assign [key] v)

/-- The text of lines. -/
def text (lines : List Line) : List Char := lines.flatMap fun l => l.written.toList ++ ['\n']

end Line

variable {l : Line}

/-- What may stand behind a statement does not begin with a quote. -/
theorem head?_trailer_ne (h : isTrailer s = true) (rest : List Char) :
    (s ++ '\n' :: rest).head? ≠ some '"' := by
  cases s with
  | nil => simp
  | cons c s =>
    rintro heq
    obtain rfl : c = '"' := by simpa using heq
    cases h

/-- A line is read on its own. -/
theorem statements_line (hl : l.isReadable = true) (d : Document) (rest : List Char) :
    statements d (l.written.toList ++ '\n' :: rest) =
      (l.apply d).bind fun d => statements d rest := by
  cases l with
  | note text => exact statements_note d hl rest
  | heading name =>
    have hs : (Line.heading name).written.toList ++ '\n' :: rest =
        '[' :: (name.toList ++ ']' :: '\n' :: rest) := by
      simp [Line.written]
    rw [hs]
    exact statements_statement d [] (by decide)
      (statement_heading d (spellsKey_of_isBare hl) ('\n' :: rest)) rfl
  | setting key spelling trailer =>
    obtain ⟨hkey, htrailer⟩ := Bool.and_eq_true_iff.1 hl
    have hs : (Line.setting key spelling trailer).written.toList ++ '\n' :: rest =
        key.toList ++ ' ' :: '=' :: ' ' ::
          (spelling.written.toList ++ (trailer.toList ++ '\n' :: rest)) := by
      simp [Line.written]
    have hvalue := value_spelling spelling (head?_trailer_ne htrailer rest)
    rw [hs]
    exact statements_setting d (spellsKey_of_isBare hkey) trailer.toList hvalue htrailer

/-- A document is read line by line. -/
theorem statements_text {lines : List Line} (h : ∀ l ∈ lines, l.isReadable = true) (d : Document) :
    statements d (Line.text lines) = lines.foldlM Line.apply d := by
  induction lines generalizing d with
  | nil =>
    rw [Line.text, List.flatMap_nil, statements]
    split
    · rfl
    · next heq => cases heq
    · next heq => cases heq
    · next hne _ _ => exact absurd rfl hne
  | cons l lines ih =>
    obtain ⟨hl, hlines⟩ := List.forall_mem_cons.1 h
    have htext : Line.text (l :: lines) = l.written.toList ++ '\n' :: Line.text lines := by
      simp [Line.text]
    rw [htext, statements_line hl, List.foldlM_cons]
    exact congrArg _ (funext fun d => ih hlines d)

/-! ## Whole texts -/

/-- No carriage return stands behind a statement. -/
theorem cr_not_mem_trailer (h : isTrailer s = true) : '\r' ∉ s := by
  intro hmem
  rw [← List.takeWhile_append_dropWhile (p := fun c => c = ' ' || c = '\t') (l := s)] at hmem
  rcases List.mem_append.1 hmem with hblank | hrest
  · exact absurd (List.all_eq_true.1 List.all_takeWhile _ hblank) (by decide)
  · change '\r' ∈ skipBlank s at hrest
    unfold isTrailer at h
    split at h
    · next heq => rw [heq] at hrest; cases hrest
    · next text heq =>
      rw [heq] at hrest
      have htext : '\r' ∈ text := by simpa using hrest
      exact absurd (List.all_eq_true.1 h _ htext) (by decide)
    · cases h

/-- No carriage return stands in a bare key. -/
theorem cr_not_mem_bare (hk : isBare k = true) : '\r' ∉ k := by
  intro hmem
  have hbare : isBareKeyChar '\r' = true := by
    simp only [isBare, Bool.and_eq_true, List.all_eq_true] at hk
    exact hk.2 _ hmem
  cases hbare

/-- No carriage return is written for a value. -/
theorem cr_not_mem_spelling (spelling : Spelling) : '\r' ∉ spelling.written.toList := by
  cases spelling with
  | flag b => cases b <;> decide
  | empty => decide
  | quoted s =>
    rw [Spelling.written, String.toList_ofList]
    exact cr_not_mem_quote s.toList

/-- No carriage return is written in a readable line. -/
theorem cr_not_mem_written (hl : l.isReadable = true) : '\r' ∉ l.written.toList := by
  cases l with
  | note text => exact cr_not_mem_trailer hl
  | heading name =>
    have hname := cr_not_mem_bare hl
    simp [Line.written, hname]
  | setting key spelling trailer =>
    obtain ⟨hkey, htrailer⟩ := Bool.and_eq_true_iff.1 hl
    have hkey := cr_not_mem_bare hkey
    have hspelling := cr_not_mem_spelling spelling
    have htrailer := cr_not_mem_trailer htrailer
    simp [Line.written, hkey, hspelling, htrailer]

/-- Without carriage returns the line ends stay as they are. -/
theorem lineFeeds_of_not_mem (h : '\r' ∉ s) : lineFeeds s = s := by
  induction s with
  | nil => rfl
  | cons c s ih =>
    obtain ⟨hc, hs⟩ := not_or.1 (mt List.mem_cons.2 h)
    rw [lineFeeds, ih hs]
    · rintro cs rfl
      exact absurd rfl hc
    · rintro rfl
      exact absurd rfl hc

/-- A text of readable lines is read line by line. -/
theorem read_text {lines : List Line} (h : ∀ l ∈ lines, l.isReadable = true) :
    read (Line.text lines) =
      (lines.foldlM Line.apply ⟨[], [], [], [], []⟩).map Document.root := by
  have hcr : '\r' ∉ Line.text lines := by
    simp only [Line.text, List.mem_flatMap, List.mem_append, List.mem_singleton]
    rintro ⟨l, hl, hwritten | heq⟩
    · exact cr_not_mem_written (h l hl) hwritten
    · exact absurd heq (by decide)
  rw [read, lineFeeds_of_not_mem hcr, statements_text h]
  cases lines.foldlM Line.apply ⟨[], [], [], [], []⟩ <;> rfl

end TaskQuery.Toml
