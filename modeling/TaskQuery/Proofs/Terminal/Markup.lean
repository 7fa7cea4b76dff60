import Mathlib.Data.List.TakeWhile
import TaskQuery.Terminal.Markup

/-!
# Escaped text

Text from elsewhere is escaped before it is put into markup.  Whatever it holds, none of its tags
takes effect: they are read as text, each with an odd number of backslashes in front.  So what is
said in a style can always be shown, and escaped text without backslashes, colons and controls is
shown as it is.

* `leadingTag?_eq_some_iff`: what a tag at the front of a text is.
* `pieces_escapedTags_append`, `exists_pieces_escapedTags_append`: the parts of escaped text, in front
  of something without a tag and in front of a tag.
* `isBalanced_escape`, `isBalanced_styled`: such markup can be shown.
* `plain_escape`: the text that is shown for it.

Escaping keeps no track of what is put behind a text: the rest of a tag there makes a tag of it when
the text ends in the front of one.
-/

namespace TaskQuery.Terminal

/-! ## Tags -/

/-- A name that a tag can have. -/
def IsTagName : List Char → Prop
  | [] => False
  | c :: cs => startsTag c = true ∧ ∀ d ∈ cs, d ≠ ']' ∧ d ≠ '['

/-- Names are checked character by character. -/
instance (name : List Char) : Decidable (IsTagName name) :=
  match name with
  | [] => .isFalse id
  | _ :: cs =>
    have : Decidable (∀ d ∈ cs, d ≠ ']' ∧ d ≠ '[') := List.decidableBAll _ cs
    inferInstanceAs (Decidable (_ ∧ _))

/-- A tag starts with its name, and ends behind it. -/
theorem tagAfter?_eq_some_iff {s name rest : List Char} :
    tagAfter? s = some (name, rest) ↔ IsTagName name ∧ s = name ++ ']' :: rest := by
  cases s with
  | nil => simp [tagAfter?]
  | cons c cs =>
    constructor
    · intro h
      simp only [tagAfter?] at h
      split at h
      · next hc =>
        split at h
        · next after hdrop =>
          obtain ⟨rfl, rfl⟩ := Prod.mk.inj (Option.some.inj h)
          refine ⟨⟨hc, fun d hd => by simpa using List.mem_takeWhile_imp hd⟩, ?_⟩
          rw [List.cons_append, ← hdrop, List.prefix_iff_eq_append.1 (List.takeWhile_prefix _)]
        · cases h
      · cases h
    · rintro ⟨hname, hs⟩
      cases name with
      | nil => exact hname.elim
      | cons d inner =>
        obtain ⟨rfl, rfl⟩ := List.cons.inj hs
        obtain ⟨hc, hinner⟩ := hname
        have hrun : (inner ++ ']' :: rest).takeWhile (fun d => d ≠ ']' && d ≠ '[') = inner := by
          rw [List.takeWhile_append_of_pos fun d hd => by simpa using hinner d hd]
          simp
        simp only [tagAfter?, List.append_eq, hc, if_true, hrun, List.drop_left]

/-- Nothing has no tag. -/
theorem leadingTag?_nil : leadingTag? [] = none := rfl

/-- A backslash in front of a text is one more in front of its tag. -/
theorem leadingTag?_backslash (s : List Char) :
    leadingTag? ('\\' :: s) = (leadingTag? s).map fun (n, name, rest) => (n + 1, name, rest) := by
  simp only [leadingTag?, List.dropWhile_cons, List.takeWhile_cons, decide_true, if_true,
    List.length_cons]
  split
  · rw [Option.map_map]
    rfl
  · rfl

/-- A bracket at the front of a text opens its tag. -/
theorem leadingTag?_bracket (s : List Char) :
    leadingTag? ('[' :: s) = (tagAfter? s).map fun (name, rest) => (0, name, rest) := rfl

/-- A text that starts with anything else has no tag at its front. -/
theorem leadingTag?_other {c : Char} (hslash : c ≠ '\\') (hbracket : c ≠ '[') (s : List Char) :
    leadingTag? (c :: s) = none := by
  simp only [leadingTag?, List.dropWhile_cons, decide_eq_true_eq, if_neg hslash]
  split
  · next h => exact absurd (List.cons.inj h).1 hbracket
  · rfl

/-- Backslashes in front of a text are in front of its tag. -/
theorem leadingTag?_replicate (n : Nat) (s : List Char) :
    leadingTag? (List.replicate n '\\' ++ s) =
      (leadingTag? s).map fun (m, name, rest) => (n + m, name, rest) := by
  induction n with
  | zero => simp
  | succ n ih =>
    rw [List.replicate_succ, List.cons_append, leadingTag?_backslash, ih, Option.map_map]
    refine congrArg (Option.map · _) (funext fun t => ?_)
    simp only [Function.comp_apply, Nat.add_right_comm]

/-- A tag at the front of a text: some backslashes, and a name in brackets. -/
theorem leadingTag?_eq_some_iff {s name rest : List Char} {n : Nat} :
    leadingTag? s = some (n, name, rest) ↔
      IsTagName name ∧ s = List.replicate n '\\' ++ (bracketed name ++ rest) := by
  constructor
  · intro h
    induction s generalizing n with
    | nil => cases h
    | cons c cs ih =>
      by_cases hslash : c = '\\'
      · rw [hslash, leadingTag?_backslash] at h
        obtain ⟨⟨m, name', rest'⟩, hm, h⟩ := Option.map_eq_some_iff.1 h
        cases h
        obtain ⟨hname, hs⟩ := ih hm
        exact ⟨hname, by rw [hslash, hs, List.replicate_succ, List.cons_append]⟩
      by_cases hbracket : c = '['
      · rw [hbracket, leadingTag?_bracket] at h
        obtain ⟨⟨name', rest'⟩, ht, h⟩ := Option.map_eq_some_iff.1 h
        cases h
        obtain ⟨hname, hs⟩ := tagAfter?_eq_some_iff.1 ht
        exact ⟨hname, by simp [hbracket, hs, bracketed]⟩
      · rw [leadingTag?_other hslash hbracket] at h
        cases h
  · rintro ⟨hname, rfl⟩
    have htag : tagAfter? (name ++ ']' :: rest) = some (name, rest) :=
      tagAfter?_eq_some_iff.2 ⟨hname, rfl⟩
    have hopen : bracketed name ++ rest = '[' :: (name ++ ']' :: rest) := by simp [bracketed]
    rw [leadingTag?_replicate, hopen, leadingTag?_bracket, htag]
    rfl

/-! ## Parts -/

/-- The parts of a text with a tag at its front. -/
theorem pieces_of_leadingTag? {s name rest : List Char} {n : Nat}
    (h : leadingTag? s = some (n, name, rest)) : pieces s = .tag n name :: pieces rest := by
  cases s with
  | nil => cases h
  | cons c cs =>
    rw [pieces]
    split
    · next h' =>
      rw [h] at h'
      cases h'
      rfl
    · next h' =>
      rw [h] at h'
      cases h'

/-- The parts of a text without a tag at its front. -/
theorem pieces_cons {c : Char} {cs : List Char} (h : leadingTag? (c :: cs) = none) :
    pieces (c :: cs) = .char c :: pieces cs := by
  rw [pieces]
  split
  · next h' =>
    rw [h] at h'
    cases h'
  · rfl

/-! ## Brackets -/

/-- The first bracket of a text. -/
def firstBracket? (s : List Char) : Option Char := s.find? fun c => c = ']' || c = '['

/-- A character in front that is no bracket does not matter. -/
theorem firstBracket?_cons {c : Char} (h : c ≠ ']' ∧ c ≠ '[') (s : List Char) :
    firstBracket? (c :: s) = firstBracket? s := by
  rw [firstBracket?, List.find?_cons_of_neg (by simpa using h)]
  rfl

/-- The first bracket of two texts is that of the first one that has one. -/
theorem firstBracket?_append (s t : List Char) :
    firstBracket? (s ++ t) = (firstBracket? s).or (firstBracket? t) := List.find?_append

/-- Backslashes are no brackets. -/
theorem firstBracket?_replicate (n : Nat) : firstBracket? (List.replicate n '\\') = none := by
  refine List.find?_eq_none.2 fun c hc => ?_
  rw [List.eq_of_mem_replicate hc]
  decide

/-- A character that a tag starts with is no bracket and no backslash. -/
theorem ne_of_startsTag {c : Char} (h : startsTag c = true) : c ≠ ']' ∧ c ≠ '[' ∧ c ≠ '\\' := by
  refine ⟨?_, ?_, ?_⟩ <;> rintro rfl <;> revert h <;> decide

/-- There is a tag behind an opening bracket when a name starts there and the next bracket closes
it. -/
theorem isSome_tagAfter? (s : List Char) :
    (tagAfter? s).isSome = true ↔
      s.head?.any startsTag = true ∧ firstBracket? s = some ']' := by
  constructor
  · intro h
    obtain ⟨⟨name, rest⟩, ht⟩ := Option.isSome_iff_exists.1 h
    obtain ⟨hname, rfl⟩ := tagAfter?_eq_some_iff.1 ht
    cases name with
    | nil => exact hname.elim
    | cons c inner =>
      obtain ⟨hc, hinner⟩ := hname
      refine ⟨hc, ?_⟩
      have hnone : firstBracket? (c :: inner) = none := by
        refine List.find?_eq_none.2 fun d hd => ?_
        rcases List.mem_cons.1 hd with rfl | hd
        · simp [ne_of_startsTag hc]
        · simp [hinner d hd]
      rw [firstBracket?_append, hnone]
      rfl
  · rintro ⟨hhead, hfirst⟩
    obtain ⟨-, inner, rest, rfl, hinner⟩ := List.find?_eq_some_iff_append.1 hfirst
    cases inner with
    | nil => exact absurd hhead Bool.false_ne_true
    | cons c inner =>
      have hname : IsTagName (c :: inner) :=
        ⟨hhead, fun d hd => by simpa using hinner d (List.mem_cons_of_mem c hd)⟩
      exact Option.isSome_iff_exists.2 ⟨_, tagAfter?_eq_some_iff.2 ⟨hname, rfl⟩⟩

/-! ## Escaped text -/

/-- A text with its tags escaped. -/
def escapedTags (s : List Char) : List Char := (pieces s).flatMap Piece.escape

/-- Nothing is escaped in nothing. -/
theorem escapedTags_nil : escapedTags [] = [] := by simp [escapedTags, pieces]

/-- A tag at the front is escaped. -/
theorem escapedTags_of_leadingTag? {s name rest : List Char} {n : Nat}
    (h : leadingTag? s = some (n, name, rest)) :
    escapedTags s = List.replicate (2 * n + 1) '\\' ++ (bracketed name ++ escapedTags rest) := by
  rw [escapedTags, pieces_of_leadingTag? h, List.flatMap_cons, Piece.escape, List.append_assoc]
  rfl

/-- A character that no tag starts at stays. -/
theorem escapedTags_cons {c : Char} {cs : List Char} (h : leadingTag? (c :: cs) = none) :
    escapedTags (c :: cs) = c :: escapedTags cs := by
  rw [escapedTags, pieces_cons h, List.flatMap_cons]
  rfl

/-- The first bracket of a tag opens it. -/
theorem firstBracket?_of_leadingTag? {s name rest : List Char} {n : Nat}
    (h : leadingTag? s = some (n, name, rest)) : firstBracket? s = some '[' := by
  obtain ⟨-, rfl⟩ := leadingTag?_eq_some_iff.1 h
  rw [firstBracket?_append, firstBracket?_replicate]
  rfl

/-- Escaping puts only backslashes in front of the first bracket. -/
theorem firstBracket?_escapedTags (s : List Char) :
    firstBracket? (escapedTags s) = firstBracket? s := by
  induction s with
  | nil => rw [escapedTags_nil]
  | cons c cs ih =>
    cases h : leadingTag? (c :: cs) with
    | some t =>
      obtain ⟨n, name, rest⟩ := t
      rw [firstBracket?_of_leadingTag? h, escapedTags_of_leadingTag? h, firstBracket?_append,
        firstBracket?_replicate]
      rfl
    | none =>
      rw [escapedTags_cons h, ← List.singleton_append, firstBracket?_append, ih,
        ← firstBracket?_append, List.singleton_append]

/-- Escaping makes no tag behind a bracket, whatever comes next, as long as that is not the rest of a
tag. -/
theorem tagAfter?_escapedTags_append {s t : List Char} (hs : tagAfter? s = none)
    (ht : firstBracket? t ≠ some ']') : tagAfter? (escapedTags s ++ t) = none := by
  rw [← Option.not_isSome_iff_eq_none, isSome_tagAfter?]
  rintro ⟨hhead, hfirst⟩
  rw [firstBracket?_append, firstBracket?_escapedTags] at hfirst
  have hclosed : firstBracket? s = some ']' := by
    cases hbracket : firstBracket? s with
    | none =>
      rw [hbracket] at hfirst
      exact absurd hfirst ht
    | some d =>
      rw [hbracket] at hfirst
      exact hfirst
  cases s with
  | nil => cases hclosed
  | cons c cs =>
    cases htag : leadingTag? (c :: cs) with
    | some tag =>
      rw [firstBracket?_of_leadingTag? htag] at hclosed
      cases hclosed
    | none =>
      rw [escapedTags_cons htag] at hhead
      have hsome := (isSome_tagAfter? (c :: cs)).2 ⟨hhead, hclosed⟩
      rw [hs] at hsome
      cases hsome

/-- Nor does it make one at the front of a text.  Only backslashes may come to stand in front of a tag
behind the text. -/
theorem leadingTag?_escapedTags_append {s t : List Char} (hs : leadingTag? s = none)
    (ht : firstBracket? t ≠ some ']') :
    leadingTag? (escapedTags s ++ t) = none ∨
      ∃ n, escapedTags s = List.replicate n '\\' := by
  induction s with
  | nil => exact .inr ⟨0, escapedTags_nil⟩
  | cons c cs ih =>
    rw [escapedTags_cons hs, List.cons_append]
    by_cases hslash : c = '\\'
    · rw [hslash, leadingTag?_backslash, Option.map_eq_none_iff] at hs
      refine (ih hs).imp (fun h => ?_) (fun ⟨n, hn⟩ => ⟨n + 1, ?_⟩)
      · rw [hslash, leadingTag?_backslash, h]
        rfl
      · rw [hslash, hn, List.replicate_succ]
    by_cases hbracket : c = '['
    · rw [hbracket, leadingTag?_bracket, Option.map_eq_none_iff] at hs
      refine .inl ?_
      rw [hbracket, leadingTag?_bracket, tagAfter?_escapedTags_append hs ht]
      rfl
    · exact .inl (leadingTag?_other hslash hbracket _)

/-- A part of escaped text: a tag is text. -/
def Piece.asText : Piece → Piece
  | char c => char c
  | tag slashes name => tag (2 * slashes + 1) name

/-- **Escaped text has the parts of the text, its tags as text**, and what comes next keeps its own,
when no tag starts or ends at its front. -/
theorem pieces_escapedTags_append (s : List Char) {t : List Char} (ht : leadingTag? t = none)
    (hb : firstBracket? t ≠ some ']') :
    pieces (escapedTags s ++ t) = (pieces s).map Piece.asText ++ pieces t := by
  fun_induction pieces s with
  | case1 => rw [escapedTags_nil]; rfl
  | case2 c cs n name rest h ih =>
    have hname := (leadingTag?_eq_some_iff.1 h).1
    have htag : leadingTag? (escapedTags (c :: cs) ++ t) =
        some (2 * n + 1, name, escapedTags rest ++ t) := by
      rw [escapedTags_of_leadingTag? h, List.append_assoc, List.append_assoc]
      exact leadingTag?_eq_some_iff.2 ⟨hname, rfl⟩
    rw [pieces_of_leadingTag? htag, ih]
    rfl
  | case3 c cs h ih =>
    have htag : leadingTag? (c :: (escapedTags cs ++ t)) = none := by
      rw [← List.cons_append, ← escapedTags_cons h]
      rcases leadingTag?_escapedTags_append h hb with hnone | ⟨n, hn⟩
      · exact hnone
      · rw [hn, leadingTag?_replicate, ht]
        rfl
    rw [escapedTags_cons h, List.cons_append, pieces_cons htag, ih]
    rfl

/-- A part that is shown as text: a tag with an odd number of backslashes is. -/
def Piece.IsText : Piece → Prop
  | char _ => True
  | tag slashes _ => slashes % 2 = 1

/-- Escaped parts are text. -/
theorem isText_asText (p : Piece) : p.asText.IsText := by
  cases p with
  | char c => trivial
  | tag n name =>
    show (2 * n + 1) % 2 = 1
    omega

/-- **In front of a tag, escaped text is text**; the backslashes at its end belong to the tag. -/
theorem exists_pieces_escapedTags_append (s : List Char) {t name rest : List Char} {n : Nat}
    (ht : leadingTag? t = some (n, name, rest)) :
    ∃ ps m, pieces (escapedTags s ++ t) = ps ++ .tag (m + n) name :: pieces rest ∧
      ∀ p ∈ ps, p.IsText := by
  have hb : firstBracket? t ≠ some ']' := by
    rw [firstBracket?_of_leadingTag? ht]
    decide
  fun_induction pieces s with
  | case1 =>
    refine ⟨[], 0, ?_, fun p hp => absurd hp List.not_mem_nil⟩
    rw [escapedTags_nil, List.nil_append, pieces_of_leadingTag? ht, Nat.zero_add]
    rfl
  | case2 c cs k tag more h ih =>
    obtain ⟨ps, m, hps, htext⟩ := ih
    have hname := (leadingTag?_eq_some_iff.1 h).1
    have htag : leadingTag? (escapedTags (c :: cs) ++ t) =
        some (2 * k + 1, tag, escapedTags more ++ t) := by
      rw [escapedTags_of_leadingTag? h, List.append_assoc, List.append_assoc]
      exact leadingTag?_eq_some_iff.2 ⟨hname, rfl⟩
    refine ⟨Piece.asText (.tag k tag) :: ps, m, ?_,
      List.forall_mem_cons.2 ⟨isText_asText _, htext⟩⟩
    rw [pieces_of_leadingTag? htag, hps]
    rfl
  | case3 c cs h ih =>
    rcases leadingTag?_escapedTags_append h hb with hnone | ⟨m, hm⟩
    · obtain ⟨ps, m, hps, htext⟩ := ih
      rw [escapedTags_cons h, List.cons_append] at hnone ⊢
      refine ⟨.char c :: ps, m, ?_, List.forall_mem_cons.2 ⟨trivial, htext⟩⟩
      rw [pieces_cons hnone, hps]
      rfl
    · refine ⟨[], m, ?_, fun p hp => absurd hp List.not_mem_nil⟩
      have htag : leadingTag? (escapedTags (c :: cs) ++ t) = some (m + n, name, rest) := by
        rw [hm, leadingTag?_replicate, ht]
        rfl
      rw [pieces_of_leadingTag? htag]
      rfl

/-! ## Balance -/

/-- A tag that is text opens and closes nothing. -/
theorem closesOpened_text {n : Nat} {name : List Char} (h : (Piece.tag n name).IsText)
    (opened : List (List Char)) (ps : List Piece) :
    closesOpened opened (.tag n name :: ps) = closesOpened opened ps := by
  have hn : n % 2 = 1 := h
  conv => lhs; unfold closesOpened
  exact if_pos hn

/-- A tag that takes effect and does not close a style opens one. -/
theorem closesOpened_opening {n : Nat} {name : List Char} (hn : n % 2 ≠ 1)
    (h : name.head? ≠ some '/') (opened : List (List Char)) (ps : List Piece) :
    closesOpened opened (.tag n name :: ps) = closesOpened (styleName name :: opened) ps := by
  conv => lhs; unfold closesOpened
  rw [if_neg hn]
  split
  · exact absurd rfl h
  · rfl

/-- A tag that takes effect and closes a style needs one that is open: the one it names, or any when
it names none. -/
theorem closesOpened_closing {n : Nat} {closed : List Char} (hn : n % 2 ≠ 1)
    (opened : List (List Char)) (ps : List Piece) :
    closesOpened opened (.tag n ('/' :: closed) :: ps) =
      if styleName closed = [] then !opened.isEmpty && closesOpened opened.tail ps
      else opened.contains (styleName closed) &&
        closesOpened (opened.erase (styleName closed)) ps := by
  conv => lhs; unfold closesOpened
  rw [if_neg hn]
  split
  · next closed' h =>
    obtain rfl := (List.cons.inj h).2
    split
    · next hstyle => rw [if_pos hstyle]; rfl
    · next hstyle => rw [if_pos hstyle]; rfl
    · next opened _ _ hnil hcons =>
      refine (if_neg fun hstyle => ?_).symm
      cases opened with
      | nil => exact hnil hstyle rfl
      | cons o opened => exact hcons o opened hstyle rfl
  · next h => exact absurd rfl (h closed)

/-- Styles that are open besides do no harm. -/
theorem closesOpened_mono {opened opened' : List (List Char)} (h : opened.Sublist opened')
    {ps : List Piece} (hc : closesOpened opened ps = true) : closesOpened opened' ps = true := by
  induction ps generalizing opened opened' with
  | nil => rfl
  | cons p ps ih =>
    cases p with
    | char c => exact ih h hc
    | tag n name =>
      by_cases hn : n % 2 = 1
      · rw [closesOpened_text hn] at hc ⊢
        exact ih h hc
      by_cases hname : name.head? = some '/'
      · obtain ⟨closed, rfl⟩ := List.head?_eq_some_iff.1 hname
        rw [closesOpened_closing hn] at hc ⊢
        by_cases hstyle : styleName closed = []
        · rw [if_pos hstyle] at hc ⊢
          obtain ⟨hopen, hc⟩ := Bool.and_eq_true_iff.1 hc
          refine Bool.and_eq_true_iff.2 ⟨?_, ih h.tail hc⟩
          cases opened' with
          | nil => rwa [List.sublist_nil.1 h] at hopen
          | cons => rfl
        · rw [if_neg hstyle] at hc ⊢
          obtain ⟨hopen, hc⟩ := Bool.and_eq_true_iff.1 hc
          refine Bool.and_eq_true_iff.2 ⟨?_, ih (h.erase _) hc⟩
          rw [List.contains_iff_mem] at hopen ⊢
          exact h.subset hopen
      · rw [closesOpened_opening hn hname] at hc ⊢
        exact ih (h.cons_cons _) hc

/-- Text opens and closes nothing. -/
theorem closesOpened_append {ps : List Piece} (h : ∀ p ∈ ps, p.IsText) (opened : List (List Char))
    (qs : List Piece) : closesOpened opened (ps ++ qs) = closesOpened opened qs := by
  induction ps with
  | nil => rfl
  | cons p ps ih =>
    obtain ⟨hp, hps⟩ := List.forall_mem_cons.1 h
    cases p with
    | char c => exact ih hps
    | tag n name =>
      rw [List.cons_append, closesOpened_text hp]
      exact ih hps

/-- A text that no tag starts in, whatever comes next. -/
def MakesNoTag (s : List Char) : Prop := ∀ c ∈ s, c ≠ '\\' ∧ c ≠ '['

/-- Texts are checked character by character. -/
instance (s : List Char) : Decidable (MakesNoTag s) := List.decidableBAll _ s

/-- The characters of such a text are parts of their own. -/
theorem pieces_append_of_makesNoTag {s : List Char} (h : MakesNoTag s) (t : List Char) :
    pieces (s ++ t) = s.map .char ++ pieces t := by
  induction s with
  | nil => rfl
  | cons c cs ih =>
    obtain ⟨⟨hslash, hbracket⟩, hcs⟩ := List.forall_mem_cons.1 h
    rw [List.cons_append, pieces_cons (leadingTag?_other hslash hbracket _), ih hcs, List.map_cons,
      List.cons_append]

/-- Such a text opens and closes nothing. -/
theorem closesOpened_makesNoTag {s : List Char} (h : MakesNoTag s) (opened : List (List Char))
    (t : List Char) : closesOpened opened (pieces (s ++ t)) = closesOpened opened (pieces t) := by
  rw [pieces_append_of_makesNoTag h]
  refine closesOpened_append (fun p hp => ?_) opened _
  obtain ⟨c, -, rfl⟩ := List.mem_map.1 hp
  trivial

/-- Escaped text is the text with its tags escaped, and perhaps a backslash. -/
theorem escape_eq (s : List Char) :
    escape s = escapedTags s ∨ escape s = escapedTags s ++ ['\\'] := by
  rw [escape]
  split
  · exact .inr rfl
  · exact .inl rfl

/-- The parts of escaped text in front of something that no tag starts or ends in. -/
theorem exists_pieces_escape_append (s : List Char) {t : List Char} (ht : leadingTag? t = none)
    (hb : firstBracket? t ≠ some ']') :
    ∃ ps, pieces (escape s ++ t) = ps ++ pieces t ∧ ∀ p ∈ ps, p.IsText := by
  have htext : ∀ p ∈ (pieces s).map Piece.asText, p.IsText := by
    intro p hp
    obtain ⟨q, -, rfl⟩ := List.mem_map.1 hp
    exact isText_asText q
  rcases escape_eq s with h | h
  · exact ⟨_, by rw [h, pieces_escapedTags_append s ht hb], htext⟩
  · have hslash : leadingTag? ('\\' :: t) = none := by
      rw [leadingTag?_backslash, ht]
      rfl
    have hbracket : firstBracket? ('\\' :: t) ≠ some ']' := by
      rwa [firstBracket?_cons (by decide)]
    refine ⟨(pieces s).map Piece.asText ++ [.char '\\'], ?_, ?_⟩
    · rw [h, List.append_assoc, List.singleton_append,
        pieces_escapedTags_append s hslash hbracket, pieces_cons hslash, List.append_assoc,
        List.singleton_append]
    · intro p hp
      rcases List.mem_append.1 hp with hp | hp
      · exact htext p hp
      · rw [List.mem_singleton.1 hp]
        trivial

/-- Escaped text opens and closes nothing. -/
theorem closesOpened_escape_append (opened : List (List Char)) (s : List Char) {t : List Char}
    (ht : leadingTag? t = none) (hb : firstBracket? t ≠ some ']') :
    closesOpened opened (pieces (escape s ++ t)) = closesOpened opened (pieces t) := by
  obtain ⟨ps, hps, htext⟩ := exists_pieces_escape_append s ht hb
  rw [hps, closesOpened_append htext]

/-- Nothing has no parts. -/
theorem pieces_nil : pieces [] = [] := by rw [pieces]

/-- **Escaped text can be shown**: no tag of it closes a style. -/
theorem isBalanced_escape (s : List Char) : isBalanced (escape s) = true := by
  have h := closesOpened_escape_append [] s leadingTag?_nil nofun
  rw [List.append_nil, pieces_nil] at h
  exact h

/-- A tag in front of a text is its first part. -/
theorem pieces_bracketed {name : List Char} (h : IsTagName name) (s : List Char) :
    pieces (bracketed name ++ s) = .tag 0 name :: pieces s :=
  pieces_of_leadingTag? (leadingTag?_eq_some_iff.2 ⟨h, rfl⟩)

/-- The tag that closes a style is named after it. -/
theorem isTagName_slash {name : List Char} (h : IsTagName name) : IsTagName ('/' :: name) := by
  cases name with
  | nil => exact h.elim
  | cons c cs =>
    refine ⟨by decide, List.forall_mem_cons.2 ⟨?_, h.2⟩⟩
    obtain ⟨hclose, hopen, -⟩ := ne_of_startsTag h.1
    exact ⟨hclose, hopen⟩

/-- A name of a style: a name that a tag can have and that does not close a style. -/
def IsStyleName (name : List Char) : Prop := IsTagName name ∧ name.head? ≠ some '/'

/-- Names are checked. -/
instance (name : List Char) : Decidable (IsStyleName name) :=
  inferInstanceAs (Decidable (_ ∧ _))

/-- The tag that closes the style that was opened last takes effect, or it is text. -/
theorem closesOpened_closing_last {name : List Char} {opened : List (List Char)} {ps : List Piece}
    (h : closesOpened opened ps = true) (n : Nat) :
    closesOpened (styleName name :: opened) (.tag n ('/' :: name) :: ps) = true := by
  by_cases hn : n % 2 = 1
  · rw [closesOpened_text hn]
    exact closesOpened_mono (List.sublist_cons_self _ _) h
  · rw [closesOpened_closing hn]
    split
    · exact h
    · rw [List.erase_cons_head, h, List.contains_iff_mem.2 List.mem_cons_self]
      rfl

/-- **Text in a style can be shown** in front of what can be shown: its style is closed, or stays
open, and no other one is closed. -/
theorem closesOpened_styled {style : String} (h : IsStyleName style.toList) (s : List Char)
    {opened : List (List Char)} {t : List Char} (ht : closesOpened opened (pieces t) = true) :
    closesOpened opened (pieces (styled style s ++ t)) = true := by
  have hclose : leadingTag? (bracketed ('/' :: style.toList) ++ t) =
      some (0, '/' :: style.toList, t) :=
    leadingTag?_eq_some_iff.2 ⟨isTagName_slash h.1, rfl⟩
  have hparts : ∃ ps m, pieces (escape s ++ (bracketed ('/' :: style.toList) ++ t)) =
      ps ++ .tag m ('/' :: style.toList) :: pieces t ∧ ∀ p ∈ ps, p.IsText := by
    rcases escape_eq s with he | he
    · obtain ⟨ps, m, hps, htext⟩ := exists_pieces_escapedTags_append s hclose
      exact ⟨ps, m + 0, by rw [he, hps], htext⟩
    · have hslash : leadingTag? ('\\' :: (bracketed ('/' :: style.toList) ++ t)) =
          some (1, '/' :: style.toList, t) := by
        rw [leadingTag?_backslash, hclose]
        rfl
      obtain ⟨ps, m, hps, htext⟩ := exists_pieces_escapedTags_append s hslash
      exact ⟨ps, m + 1, by rw [he, List.append_assoc, List.singleton_append, hps], htext⟩
  obtain ⟨ps, m, hps, htext⟩ := hparts
  rw [styled, List.append_assoc, List.append_assoc, pieces_bracketed h.1, hps,
    closesOpened_opening (by decide) h.2, closesOpened_append htext]
  exact closesOpened_closing_last ht m

/-- Text in a style can be shown. -/
theorem isBalanced_styled {style : String} (h : IsStyleName style.toList) (s : List Char) :
    isBalanced (styled style s) = true := by
  have hnil : closesOpened [] (pieces []) = true := by rw [pieces_nil]; rfl
  have hs := closesOpened_styled h s hnil
  rwa [List.append_nil] at hs

/-! ## What is shown -/

/-- The name of a pictograph is what stands in front of the next colon. -/
theorem eq_of_shortName? {s name rest : List Char} (h : shortName? s = some (name, rest)) :
    s = name ++ ':' :: rest := by
  simp only [shortName?] at h
  split at h
  · next after hdrop =>
    obtain ⟨rfl, rfl⟩ := Prod.mk.inj (Option.some.inj h)
    rw [← hdrop, List.prefix_iff_eq_append.1 (List.takeWhile_prefix _)]
  · cases h

/-- **A text stays as it is when nothing between two of its colons names a pictograph.** -/
theorem withPictographs_eq_self {s : List Char}
    (h : ∀ before name after, s = before ++ ':' :: (name ++ ':' :: after) → named? name = none) :
    withPictographs s = s := by
  fun_induction withPictographs s with
  | case1 => rfl
  | case2 cs name rest hname ih =>
    have hcs := eq_of_shortName? hname
    have hrest : withPictographs rest = rest := by
      refine ih fun before name' after hr => h (':' :: (name ++ ':' :: before)) name' after ?_
      simp [hcs, hr]
    rw [h [] name rest (by rw [hcs]; rfl), hrest, hcs]
    simp
  | case3 cs hname ih =>
    rw [ih fun before name after hcs => h (':' :: before) name after (by rw [hcs]; rfl)]
  | case4 c cs hc ih =>
    rw [ih fun before name after hcs => h (c :: before) name after (by rw [hcs]; rfl)]

/-- Without backslashes, none is dropped. -/
theorem openBrackets_eq_self {s : List Char} (h : '\\' ∉ s) : openBrackets s = s := by
  fun_induction openBrackets s with
  | case1 => rfl
  | case2 cs ih => exact absurd List.mem_cons_self h
  | case3 c cs hne ih => rw [ih fun hmem => h (List.mem_cons_of_mem c hmem)]

/-- A character that is shown as it is wherever it stands. -/
def IsPlain (c : Char) : Prop := c ≠ '\\' ∧ c ≠ ':' ∧ isUnshown c = false

/-- Such a stretch of text is shown as it is. -/
theorem shown_eq_self {s : List Char} (h : ∀ c ∈ s, IsPlain c) : shown s = s := by
  have hslash : '\\' ∉ s := fun hmem => (h _ hmem).1 rfl
  have hpict : withPictographs s = s := by
    refine withPictographs_eq_self fun before name after hs => ?_
    have hcolon : ':' ∈ s := by rw [hs]; simp
    exact absurd rfl (h _ hcolon).2.1
  rw [shown, openBrackets_eq_self hslash, hpict]
  exact List.filter_eq_self.2 fun c hc => by simp [(h c hc).2.2]

/-- The last character of a text stays when its tags are escaped. -/
theorem getLast?_escapedTags (s : List Char) : (escapedTags s).getLast? = s.getLast? := by
  fun_induction pieces s with
  | case1 => rw [escapedTags_nil]
  | case2 c cs n name rest h ih =>
    have hs := (leadingTag?_eq_some_iff.1 h).2
    have hlast : (bracketed name).getLast? = some ']' := List.getLast?_concat
    rw [escapedTags_of_leadingTag? h, hs, List.getLast?_append, List.getLast?_append, ih,
      List.getLast?_append, List.getLast?_append, hlast]
    cases rest.getLast? <;> rfl
  | case3 c cs h ih => rw [escapedTags_cons h, List.getLast?_cons, List.getLast?_cons, ih]

/-- The text of escaped parts behind a stretch of text. -/
theorem textAfter_asText {s : List Char} (hs : ∀ c ∈ s, IsPlain c) {stretch : List Char}
    (hstretch : ∀ c ∈ stretch, IsPlain c) :
    textAfter stretch ((pieces s).map Piece.asText) = stretch.reverse ++ s := by
  have hshown {stretch : List Char} (h : ∀ c ∈ stretch, IsPlain c) :
      shown stretch.reverse = stretch.reverse :=
    shown_eq_self fun c hc => h c (List.mem_reverse.1 hc)
  fun_induction pieces s generalizing stretch with
  | case1 => exact (hshown hstretch).trans (List.append_nil _).symm
  | case2 c cs n name rest h ih =>
    obtain ⟨-, heq⟩ := leadingTag?_eq_some_iff.1 h
    rw [heq] at hs ⊢
    have hn : n = 0 := by
      cases n with
      | zero => rfl
      | succ n => exact absurd rfl (hs '\\' (by simp)).1
    have hname : ∀ c ∈ bracketed name, IsPlain c := fun c hc => hs c (by simp [hc])
    have hrest : ∀ c ∈ rest, IsPlain c := fun c hc => hs c (by simp [hc])
    have htag : tagText 1 name = bracketed name := shown_eq_self hname
    subst hn
    rw [List.map_cons, Piece.asText, textAfter, hshown hstretch, htag,
      ih hrest fun c hc => absurd hc List.not_mem_nil]
    simp
  | case3 c cs h ih =>
    obtain ⟨hc, hcs⟩ := List.forall_mem_cons.1 hs
    rw [List.map_cons, Piece.asText, textAfter,
      ih hcs (List.forall_mem_cons.2 ⟨hc, hstretch⟩), List.reverse_cons, List.append_assoc]
    rfl

/-- **Escaped text is shown as it is**, whatever tags it holds, when it has no backslash, no colon
and no control that moves the cursor. -/
theorem plain_escape {s : List Char} (h : ∀ c ∈ s, IsPlain c) : plain (escape s) = s := by
  have hend : endsInBackslash (escapedTags s) = false := by
    unfold endsInBackslash
    split
    · rfl
    · next hrev =>
      have hlast := getLast?_escapedTags s
      rw [List.getLast?_eq_head?_reverse, hrev] at hlast
      exact absurd rfl (h '\\' (List.mem_of_getLast? hlast.symm)).1
    · rfl
  have hescape : escape s = escapedTags s := by
    rw [escape, ← escapedTags, if_neg (by simp [hend])]
  have hparts := pieces_escapedTags_append s leadingTag?_nil nofun
  rw [List.append_nil, pieces_nil, List.append_nil] at hparts
  rw [plain, hescape, hparts, textAfter_asText h fun c hc => absurd hc List.not_mem_nil]
  rfl

end TaskQuery.Terminal
