import Mathlib.Data.List.Basic
import TaskQuery.Command.Request
import TaskQuery.Result

/-!
# Arguments taken apart

What the parser of a command line makes of its arguments, whatever options there are: nothing is
invented, and what cannot be an option stays as it is.

* `spec_of_parse`: the operands are arguments, in their order, and every option has a name that is
  known and a value only if it takes one.
* `parse_operands`: arguments that start with no dash are operands, and so is all behind two dashes.
* `ofSearch_words`, `ofCheck_words`: so a query can be written as words behind two dashes.
-/

namespace TaskQuery.Command

namespace Arguments

variable {α : Type} {names : List (OptionName α)}

/-- The options are known by name, and those without a value have none. -/
def AreNamed (names : List (OptionName α)) (given : Given α) : Prop :=
  ∀ g ∈ given, ∃ n ∈ names, n.option = g.1 ∧ (n.takesValue = false → g.2 = "")

/-- No options are known by name. -/
theorem areNamed_nil : AreNamed names [] := fun _ hg => absurd hg List.not_mem_nil

/-- A known option in front of others. -/
theorem AreNamed.cons {n : OptionName α} (hn : n ∈ names) {value : String}
    (hvalue : n.takesValue = false → value = "") {given : Given α} (h : AreNamed names given) :
    AreNamed names ((n.option, value) :: given) :=
  List.forall_mem_cons.2 ⟨⟨n, hn, rfl, hvalue⟩, h⟩

/-- Known options in front of others. -/
theorem AreNamed.append {given more : Given α} (h : AreNamed names given)
    (hmore : AreNamed names more) : AreNamed names (given ++ more) := by
  intro g hg
  rcases List.mem_append.1 hg with hg | hg
  · exact h g hg
  · exact hmore g hg

/-- What an argument names is known: its options, and the one that waits for a value. -/
structure IsNamed (names : List (OptionName α)) (argument : Named α) : Prop where
  /-- The options are known by name. -/
  given : AreNamed names argument.1
  /-- The option that waits is one that takes a value. -/
  waiting : ∀ n, argument.2 = some n → n ∈ names ∧ n.takesValue = true

/-- Letters written together name known options. -/
theorem isNamed_of_letters {cs : List Char} {argument : Named α}
    (h : letters names cs = .ok argument) : IsNamed names argument := by
  induction cs generalizing argument with
  | nil =>
    obtain rfl := Except.ok.inj h
    exact ⟨areNamed_nil, nofun⟩
  | cons c cs ih =>
    rw [letters] at h
    split at h
    · cases h
    · next n hfind =>
      have hn : n ∈ names := List.mem_of_find?_eq_some hfind
      split at h
      · next htakes =>
        have hvalue {value : String} : n.takesValue = false → value = "" := by simp [htakes]
        split at h
        · obtain rfl := Except.ok.inj h
          refine ⟨areNamed_nil, fun m hm => ?_⟩
          obtain rfl := Option.some.inj hm
          exact ⟨hn, htakes⟩
        · obtain rfl := Except.ok.inj h
          exact ⟨areNamed_nil.cons hn hvalue, nofun⟩
      · obtain ⟨rest, hrest, rfl⟩ := map_eq_ok.1 h
        exact ⟨(ih hrest).given.cons hn fun _ => rfl, (ih hrest).waiting⟩

/-- An argument that starts with a dash names known options. -/
theorem isNamed_of_named {text : List Char} {argument : Named α}
    (h : named names text = .ok argument) : IsNamed names argument := by
  simp only [named] at h
  split at h
  · next n hfind =>
    have hn : n ∈ names := List.mem_of_find?_eq_some hfind
    split at h
    · next htakes =>
      have hvalue {value : String} : n.takesValue = false → value = "" := by simp [htakes]
      split at h
      · obtain rfl := Except.ok.inj h
        exact ⟨areNamed_nil.cons hn hvalue, nofun⟩
      · obtain rfl := Except.ok.inj h
        refine ⟨areNamed_nil, fun m hm => ?_⟩
        obtain rfl := Option.some.inj hm
        exact ⟨hn, htakes⟩
    · split at h
      · cases h
      · obtain rfl := Except.ok.inj h
        exact ⟨areNamed_nil.cons hn fun _ => rfl, nofun⟩
  · split at h
    · cases h
    · exact isNamed_of_letters h

/-- **Nothing is invented**: the operands are arguments in their order, every option is known by
name, and one without a value has none. -/
theorem spec_of_parse {mixed : Bool} {args : List String} {a : Arguments α}
    (h : parse names mixed args = .ok a) :
    a.operands.Sublist args ∧ AreNamed names a.options := by
  fun_induction parse names mixed args generalizing a with
  | case1 =>
    obtain rfl := Except.ok.inj h
    exact ⟨List.Sublist.slnil, areNamed_nil⟩
  | case2 rest =>
    obtain rfl := Except.ok.inj h
    exact ⟨List.sublist_cons_self _ _, areNamed_nil⟩
  | case3 => cases h
  | case4 rest argument hne hdash given hnamed ih =>
    obtain ⟨b, hb, rfl⟩ := map_eq_ok.1 h
    obtain ⟨hsub, hopts⟩ := ih hb
    exact ⟨hsub.cons _, (isNamed_of_named hnamed).given.append hopts⟩
  | case5 => cases h
  | case6 argument hne hdash given waiting value rest hnamed ih =>
    obtain ⟨b, hb, rfl⟩ := map_eq_ok.1 h
    obtain ⟨hsub, hopts⟩ := ih hb
    obtain ⟨hn, htakes⟩ := (isNamed_of_named hnamed).waiting waiting rfl
    have hwaiting : AreNamed names [(waiting.option, value)] :=
      areNamed_nil.cons hn (by simp [htakes])
    exact ⟨(hsub.cons _).cons _, ((isNamed_of_named hnamed).given.append hwaiting).append hopts⟩
  | case7 rest argument hne hdash hmixed ih =>
    obtain ⟨b, hb, rfl⟩ := map_eq_ok.1 h
    obtain ⟨hsub, hopts⟩ := ih hb
    exact ⟨hsub.cons_cons _, hopts⟩
  | case8 =>
    obtain rfl := Except.ok.inj h
    exact ⟨List.Sublist.refl _, areNamed_nil⟩

/-- An argument that cannot name an option. -/
def IsOperand (argument : String) : Prop :=
  argument ≠ "--" ∧ (argument.toList.head? = some '-' → argument.length ≤ 1)

/-- An argument that cannot name an option is an operand. -/
theorem parse_cons {argument : String} (h : IsOperand argument) (args : List String) :
    parse names true (argument :: args) =
      (parse names true args).map (·.withOperand argument) := by
  obtain ⟨hne, hdash⟩ := h
  have hno : ¬(argument.toList.head? = some '-' && argument.length > 1) = true := by
    intro hboth
    obtain ⟨hhead, hlong⟩ := Bool.and_eq_true_iff.1 hboth
    have hshort := hdash (of_decide_eq_true hhead)
    have hlong := of_decide_eq_true hlong
    omega
  conv => lhs; unfold parse
  rw [if_neg hne, if_neg hno, if_pos rfl]

/-- **What cannot name an option stays as it is**, and so does all behind two dashes. -/
theorem parse_operands {args : List String} (h : ∀ a ∈ args, IsOperand a) (rest : List String) :
    parse names true args = .ok ⟨[], args⟩ ∧
      parse names true (args ++ "--" :: rest) = .ok ⟨[], args ++ rest⟩ := by
  induction args with
  | nil =>
    refine ⟨rfl, ?_⟩
    rw [List.nil_append]
    unfold parse
    rw [if_pos rfl]
    rfl
  | cons a args ih =>
    obtain ⟨ha, hargs⟩ := List.forall_mem_cons.1 h
    obtain ⟨hplain, hbehind⟩ := ih hargs
    constructor
    · rw [parse_cons ha, hplain]
      rfl
    · rw [List.cons_append, parse_cons ha, hbehind]
      rfl

end Arguments

/-! ## Queries behind two dashes -/

/-- The words of a query are put together with a space between them. -/
theorem queryOf?_of_ne_nil {words : List String} (h : words ≠ []) :
    queryOf? words = some (" ".intercalate words) := by
  cases words with
  | nil => exact absurd rfl h
  | cons w ws => rfl

/-- **The query of a check is its words with a space between them**: words that cannot name an
option, and any words behind two dashes. -/
theorem ofCheck_words {args rest : List String} (h : ∀ a ∈ args, Arguments.IsOperand a)
    (hne : args ++ rest ≠ []) :
    CommandLine.ofCheck (args ++ "--" :: rest) =
      .run { query := " ".intercalate (args ++ rest), tokens := false, tree := false } := by
  have hhelp : (⟨[], args ++ rest⟩ : Arguments CheckOption).has .help = false := rfl
  simp only [CommandLine.ofCheck, (Arguments.parse_operands h rest).2, hhelp,
    queryOf?_of_ne_nil hne]
  rfl

/-- **The query of a search is its words with a space between them**, in the same way; nothing else
is asked for. -/
theorem ofSearch_words {args rest : List String} (h : ∀ a ∈ args, Arguments.IsOperand a)
    (hne : args ++ rest ≠ []) :
    CommandLine.ofSearch (args ++ "--" :: rest) =
      .run (searchRequest ⟨[], []⟩ (" ".intercalate (args ++ rest))) := by
  have hhelp : (⟨[], args ++ rest⟩ : Arguments SearchOption).has .help = false := rfl
  have hrefusal : (⟨[], args ++ rest⟩ : Arguments SearchOption).refusal?
      SearchOption.refusal? = none := rfl
  simp only [CommandLine.ofSearch, (Arguments.parse_operands h rest).2, hhelp, hrefusal,
    queryOf?_of_ne_nil hne]
  rfl

end TaskQuery.Command
