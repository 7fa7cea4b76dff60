import TaskQuery.Token.Lexer

/-!
# Tokens laid over the query

The tokens of a query lie side by side over its text, with nothing but blanks between them.

* `Tiles` says so of a token sequence and a text that stands at some position.
* `lexeme_ne_nil_of_mem_chunk`: whatever reader takes a piece, it takes at least one character.
* `tiles_tokensFrom`: the tokens of a text tile it, wherever it stands.
* `scan_tiles`: what this means in positions. Each token is the part of the query between its
  ends, tokens do not overlap, what lies in no token is blank, and so the characters that are no
  blanks are those of the tokens, in order.
-/

namespace TaskQuery

/-- Tokens that make up a text which stands at a position, blanks between them apart. -/
inductive Tiles : Nat → List Char → List Token → Prop where
  /-- The end of the text. -/
  | nil (position : Nat) : Tiles position [] []
  /-- A blank is in no token. -/
  | blank {position : Nat} {c : Char} {s : List Char} {ts : List Token}
      (hc : Text.isBlank c = true) (hs : Tiles (position + 1) s ts) : Tiles position (c :: s) ts
  /-- A token takes its lexeme, and the rest goes on at its end. -/
  | token {t : Token} {s : List Char} {ts : List Token} (ht : t.lexeme ≠ "")
      (hs : Tiles t.stop s ts) : Tiles t.position (t.lexeme.toList ++ s) (t :: ts)

namespace Lexer

/-! ## Every piece takes a character -/

/-- The pieces of a reader take at least one character each. -/
def TakeText (pieces : List Piece) : Prop := ∀ p ∈ pieces, p.lexeme ≠ []

/-- No pieces take nothing. -/
theorem takeText_nil : TakeText [] := fun _ hp => absurd hp List.not_mem_nil

/-- Pieces take text one by one. -/
theorem TakeText.cons {p : Piece} {pieces : List Piece} (hp : p.lexeme ≠ [])
    (h : TakeText pieces) : TakeText (p :: pieces) :=
  List.forall_mem_cons.2 ⟨hp, h⟩

/-- A run of bare characters that starts with one is not empty. -/
theorem takeWhile_isBare_ne_nil {c : Char} (hc : isBare c = true) (cs : List Char) :
    (c :: cs).takeWhile isBare ≠ [] := by
  rw [List.takeWhile_cons_of_pos hc]
  exact List.cons_ne_nil _ _

/-- The end of a range takes text. -/
theorem takeText_rangeEnd (s : List Char) : TakeText (rangeEnd s).1 := by
  unfold rangeEnd
  split
  · exact takeText_nil
  · exact takeText_nil.cons (List.cons_ne_nil _ _)
  · next c cs _ =>
    split
    · next hc => exact takeText_nil.cons (takeWhile_isBare_ne_nil hc cs)
    · exact takeText_nil

/-- A range takes text. -/
theorem takeText_rangeTail (s : List Char) : TakeText (rangeTail s).1 := by
  unfold rangeTail
  split
  · exact (takeText_rangeEnd _).cons (List.cons_ne_nil _ _)
  · exact takeText_nil

/-- The range operator is not split off when nothing stands before it. -/
theorem bareValue_ne_nil {run : List Char} (h : run ≠ []) : bareValue run ≠ [] := by
  unfold bareValue
  split
  · exact List.cons_ne_nil _ _
  · exact h

/-- The value of a field takes text. -/
theorem takeText_fieldValue (s : List Char) : TakeText (fieldValue s).1 := by
  unfold fieldValue
  split
  · exact takeText_nil
  · exact (takeText_rangeTail _).cons (List.cons_ne_nil _ _)
  · next c cs _ =>
    split
    · next hc =>
      exact (takeText_rangeTail _).cons (bareValue_ne_nil (takeWhile_isBare_ne_nil hc cs))
    · exact takeText_nil

/-- A field or word takes text. -/
theorem takeText_fieldOrWord {c : Char} (hc : isBare c = true) (cs : List Char) :
    TakeText (fieldOrWord (c :: cs)).1 := by
  unfold fieldOrWord
  split
  · exact (takeText_fieldValue _).cons (by simp)
  · exact takeText_nil.cons (takeWhile_isBare_ne_nil hc cs)

/-- Every piece of a chunk takes at least one character. -/
theorem lexeme_ne_nil_of_mem_chunk {c : Char} (hc : Text.isBlank c = false) (cs : List Char) :
    TakeText (chunk c cs).1 := by
  unfold chunk
  split
  · exact takeText_nil.cons (List.cons_ne_nil _ _)
  · exact takeText_nil.cons (List.cons_ne_nil _ _)
  · exact takeText_nil.cons (List.cons_ne_nil _ _)
  · split
    · next p rest hp =>
      obtain ⟨inner, hlexeme, -⟩ := lexeme_of_property? hp
      refine takeText_nil.cons ?_
      rw [hlexeme]
      exact List.cons_ne_nil _ _
    · exact takeText_fieldOrWord (by decide) cs
  · split
    · exact takeText_nil.cons (List.cons_ne_nil _ _)
    · exact takeText_fieldOrWord (by decide) cs
  · next hopen hclose hquote _ _ =>
    refine takeText_fieldOrWord ?_ cs
    rw [isBare, hc]
    simp [show c ≠ '(' from hopen, show c ≠ ')' from hclose, show c ≠ '"' from hquote]

/-! ## The run -/

/-- Pieces that stand next to each other tile their text. -/
theorem tiles_place {pieces : List Piece} (hp : TakeText pieces) {position : Nat}
    {rest : List Char} {ts : List Token}
    (h : Tiles (position + (Piece.text pieces).length) rest ts) :
    Tiles position (Piece.text pieces ++ rest) (Piece.place position pieces ++ ts) := by
  induction pieces generalizing position with
  | nil => exact h
  | cons p ps ih =>
    obtain ⟨hlexeme, hps⟩ := List.forall_mem_cons.1 hp
    have htext : Piece.text (p :: ps) ++ rest =
        (p.toToken position).lexeme.toList ++ (Piece.text ps ++ rest) := by
      simp [Piece.text, Piece.toToken]
    have hstop : (p.toToken position).stop = position + p.lexeme.length := by
      simp [Token.stop, Piece.toToken]
    have hrest : Tiles (p.toToken position).stop (Piece.text ps ++ rest)
        (Piece.place (position + p.lexeme.length) ps ++ ts) := by
      rw [hstop]
      refine ih hps ?_
      rwa [Piece.text, List.flatMap_cons, List.length_append, ← Nat.add_assoc] at h
    rw [htext]
    exact Tiles.token (t := p.toToken position) (by simpa [Piece.toToken] using hlexeme) hrest

/-- The tokens of a text tile it, wherever it stands. -/
theorem tiles_tokensFrom (position : Nat) (s : List Char) :
    Tiles position s (tokensFrom position s) := by
  fun_induction tokensFrom position s with
  | case1 position => exact .nil position
  | case2 position c cs hc ih => exact .blank hc ih
  | case3 position c cs hc ih =>
    have htext := tiles_place
      (lexeme_ne_nil_of_mem_chunk (Bool.eq_false_iff.2 hc) cs) ih
    rwa [chunk_append] at htext

end Lexer

/-! ## Positions -/

namespace Tiles

variable {position : Nat} {s : List Char} {ts : List Token}

/-- No token starts before the text. -/
theorem position_le (h : Tiles position s ts) : ∀ t ∈ ts, position ≤ t.position := by
  induction h with
  | nil => simp
  | blank _ _ ih => exact fun t ht => Nat.le_of_succ_le (ih t ht)
  | @token t _ _ _ _ ih =>
    refine List.forall_mem_cons.2 ⟨Nat.le_refl _, fun u hu => ?_⟩
    exact Nat.le_trans (Nat.le_add_right _ _) (ih u hu)

/-- Tokens that tile a text are not empty. -/
theorem lexeme_ne_empty (h : Tiles position s ts) : ∀ t ∈ ts, t.lexeme ≠ "" := by
  induction h with
  | nil => simp
  | blank _ _ ih => exact ih
  | token ht _ ih => exact List.forall_mem_cons.2 ⟨ht, ih⟩

/-- A token is the part of the whole text between its ends; `before` is what stands in front. -/
theorem extract_eq (h : Tiles position s ts) :
    ∀ before : List Char, before.length = position →
      ∀ t ∈ ts, (before ++ s).extract t.position t.stop = t.lexeme.toList := by
  induction h with
  | nil => simp
  | @blank _ c s _ _ _ ih =>
    intro before hbefore t ht
    have := ih (before ++ [c]) (by simp [hbefore]) t ht
    rwa [List.append_assoc, List.singleton_append] at this
  | @token t s _ _ _ ih =>
    intro before hbefore
    refine List.forall_mem_cons.2 ⟨?_, fun u hu => ?_⟩
    · rw [List.extract_eq_take_drop, Token.stop, Nat.add_sub_cancel_left, ← hbefore,
        List.drop_left, ← String.length_toList, List.take_left]
    · have hlength : (before ++ t.lexeme.toList).length = t.stop := by
        rw [List.length_append, hbefore, String.length_toList, Token.stop]
      have := ih (before ++ t.lexeme.toList) hlength u hu
      rwa [List.append_assoc] at this

/-- Tokens follow on one another without overlap. -/
theorem pairwise (h : Tiles position s ts) :
    ts.Pairwise fun t u => t.position < u.position ∧ t.stop ≤ u.position := by
  induction h with
  | nil => exact .nil
  | blank _ _ ih => exact ih
  | @token t _ _ ht hs ih =>
    refine List.pairwise_cons.2 ⟨fun u hu => ?_, ih⟩
    have hstop : t.stop ≤ u.position := hs.position_le u hu
    have hpos : 0 < t.lexeme.length := by
      rwa [Nat.pos_iff_ne_zero, ne_eq, String.length_eq_zero_iff]
    exact ⟨by rw [Token.stop] at hstop; omega, hstop⟩

/-- A character that lies in no token is blank. -/
theorem isBlank_of_uncovered (h : Tiles position s ts) {i : Nat} {c : Char}
    (hi : s[i]? = some c) (hout : ∀ t ∈ ts, position + i < t.position ∨ t.stop ≤ position + i) :
    Text.isBlank c = true := by
  induction h generalizing i with
  | nil => simp at hi
  | @blank _ d _ _ hd _ ih =>
    cases i with
    | zero =>
      obtain rfl : d = c := by simpa using hi
      exact hd
    | succ i =>
      refine ih (by simpa using hi) fun t ht => ?_
      have := hout t ht
      omega
  | @token t s _ _ _ ih =>
    obtain ⟨hfirst, hrest⟩ := List.forall_mem_cons.1 hout
    -- the character lies behind the first token
    obtain ⟨j, rfl⟩ : ∃ j, i = t.lexeme.length + j := by
      rw [Token.stop] at hfirst
      exact ⟨i - t.lexeme.length, by omega⟩
    refine ih (i := j) ?_ fun u hu => ?_
    · rwa [← String.length_toList, List.getElem?_append_right (Nat.le_add_right _ _),
        Nat.add_sub_cancel_left] at hi
    · have := hrest u hu
      rw [Token.stop]
      omega

/-- The characters that are no blanks are those of the tokens, in order. -/
theorem filter_eq (h : Tiles position s ts) :
    (ts.flatMap fun t => t.lexeme.toList).filter (!Text.isBlank ·) =
      s.filter (!Text.isBlank ·) := by
  induction h with
  | nil => rfl
  | blank hc _ ih =>
    rw [ih, List.filter_cons_of_neg (by simp [hc])]
  | token _ _ ih =>
    rw [List.flatMap_cons, List.filter_append, List.filter_append, ih]

end Tiles

/-- **The tokens tile the query.**  Each one is the part of the query between its ends and holds
at least one character, tokens go from left to right without overlap, and all that lies in no
token is blank, so that no other character is lost, doubled or moved. -/
theorem scan_tiles (query : String) :
    (∀ t ∈ Token.scan query, t.lexeme ≠ "" ∧
        query.toList.extract t.position t.stop = t.lexeme.toList) ∧
      ((Token.scan query).Pairwise fun t u => t.position < u.position ∧ t.stop ≤ u.position) ∧
      (∀ (i : Nat) (c : Char), query.toList[i]? = some c →
        (∀ t ∈ Token.scan query, i < t.position ∨ t.stop ≤ i) → Text.isBlank c = true) ∧
      ((Token.scan query).flatMap fun t => t.lexeme.toList).filter (!Text.isBlank ·) =
        query.toList.filter (!Text.isBlank ·) := by
  have h : Tiles 0 query.toList (Token.scan query) := Lexer.tiles_tokensFrom 0 query.toList
  refine ⟨fun t ht => ⟨h.lexeme_ne_empty t ht, ?_⟩, h.pairwise, fun i c hi hout => ?_, h.filter_eq⟩
  · exact h.extract_eq [] rfl t ht
  · refine h.isBlank_of_uncovered hi fun t ht => ?_
    rw [Nat.zero_add]
    exact hout t ht

end TaskQuery
