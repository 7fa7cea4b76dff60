import TaskQuery.Token.Lexer

/-!
# Where values and range operators stand

Only the lexer knows which tokens were written without a blank between them, and it tells by
their kinds: a value is always glued to the name of a field, and a range operator to such a
value.

* `Glued` says so of a token sequence: every value follows directly on a field name, and every
  range operator on a value.
* `glued_scan`: the tokens of every text are glued.

So behind a complete operand there never stands a value or a range operator
(`Glued.startsFree`).
-/

namespace TaskQuery

/-- A value that was glued to the name of a field. -/
def Token.Kind.isGluedValue : Token.Kind → Bool
  | value | quotedValue => true
  | _ => false

/-- A kind that stands on its own. -/
def Token.Kind.isFree : Token.Kind → Bool
  | value | quotedValue | range => false
  | _ => true

/-- Values stand right behind field names, and range operators right behind values. -/
inductive Glued : List Token → Prop where
  | nil : Glued []
  | free {t : Token} {ts : List Token} (ht : t.kind.isFree) (hs : Glued ts) : Glued (t :: ts)
  | valued {f v : Token} {ts : List Token} (hf : f.kind = .field) (hv : v.kind.isGluedValue)
      (hs : Glued ts) : Glued (f :: v :: ts)
  | ranged {f v r : Token} {ts : List Token} (hf : f.kind = .field) (hv : v.kind.isGluedValue)
      (hr : r.kind = .range) (hs : Glued ts) : Glued (f :: v :: r :: ts)

namespace Lexer

variable {position : Nat} {ts : List Token}

/-- The end of a range is a word or a phrase, if there is one. -/
theorem glued_rangeEnd (s : List Char) (h : Glued ts) :
    Glued (Piece.place position (rangeEnd s).1 ++ ts) := by
  unfold rangeEnd
  split
  · exact h
  · exact .free rfl h
  · split
    · exact .free rfl h
    · exact h

/-- A field name with what is glued to it. -/
theorem glued_fieldValue {f : Token} (hf : f.kind = .field) (s : List Char) (h : Glued ts) :
    Glued (f :: (Piece.place position (fieldValue s).1 ++ ts)) := by
  have hfree : f.kind.isFree := by rw [hf]; rfl
  -- the value and what `rangeTail` finds behind it
  have hvalue : ∀ (p : Piece) (rest : List Char), p.kind.isGluedValue →
      Glued (f :: (Piece.place position (p :: (rangeTail rest).1) ++ ts)) := by
    intro p rest hp
    unfold rangeTail
    split
    · exact .ranged hf hp rfl (glued_rangeEnd _ h)
    · exact .valued hf hp h
  unfold fieldValue
  split
  · exact .free hfree h
  · exact hvalue _ _ rfl
  · split
    · exact hvalue _ _ rfl
    · exact .free hfree h

/-- A word and an operator may stand anywhere. -/
theorem isFree_wordKind (w : List Char) : (wordKind w).isFree := by
  unfold wordKind
  split <;> rfl

/-- A field or word in front of glued tokens is glued to them. -/
theorem glued_fieldOrWord (s : List Char) (h : Glued ts) :
    Glued (Piece.place position (fieldOrWord s).1 ++ ts) := by
  unfold fieldOrWord
  split
  · exact glued_fieldValue rfl _ h
  · exact .free (isFree_wordKind _) h

/-- The kind of a property token. -/
theorem kind_of_property? {cs rest : List Char} {p : Piece} (h : property? cs = some (p, rest)) :
    p.kind = .property := by
  simp only [property?, Option.bind_eq_bind, Option.bind_eq_some_iff, Prod.exists] at h
  obtain ⟨inner, r, -, h⟩ := h
  split at h
  · simp at h
  · simp only [Option.some.injEq, Prod.mk.injEq] at h
    rw [← h.1]

/-- A chunk in front of glued tokens is glued to them. -/
theorem glued_chunk (c : Char) (cs : List Char) (h : Glued ts) :
    Glued (Piece.place position (chunk c cs).1 ++ ts) := by
  unfold chunk
  split
  · exact .free rfl h
  · exact .free rfl h
  · exact .free rfl h
  · split
    · next p rest hp =>
      refine .free ?_ h
      show p.kind.isFree
      rw [kind_of_property? hp]
      rfl
    · exact glued_fieldOrWord _ h
  · split
    · exact .free rfl h
    · exact glued_fieldOrWord _ h
  · exact glued_fieldOrWord _ h

/-- The tokens of a text are glued, wherever it stands. -/
theorem glued_tokensFrom (position : Nat) (s : List Char) : Glued (tokensFrom position s) := by
  fun_induction tokensFrom position s with
  | case1 => exact .nil
  | case2 position c cs _ ih => exact ih
  | case3 position c cs _ ih => exact glued_chunk c cs ih

end Lexer

/-- **The tokens of every text are glued.** -/
theorem glued_scan (text : String) : Glued (Token.scan text) := Lexer.glued_tokensFrom 0 text.toList

/-- The kinds of tokens that can stand behind an operand. -/
theorem Glued.startsFree {t : Token} {ts : List Token} (h : Glued (t :: ts)) : t.kind.isFree := by
  cases h with
  | free ht => exact ht
  | valued hf | ranged hf => rw [hf]; rfl

end TaskQuery
