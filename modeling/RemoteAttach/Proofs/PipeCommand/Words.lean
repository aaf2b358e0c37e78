import Mathlib.Algebra.Group.Nat.Even
import RemoteAttach.Proofs.PipeCommand.Quotes

/-! The words that a shell makes of a pipe command. A blank outside double quotes ends a word, and a
double quote is dropped and turns quoting on or off. Of a quoted command line the words are those of
the program, one word for each argument, and those of the debugger command where its place is
marked or else at the end. -/

namespace RemoteAttach.PipeCommand

open RemoteAttach.Text

/-- The word that has begun, if one has; its characters are held last first. -/
def lastWord (word : Option (List Char)) : List String :=
  (word.map fun word => String.ofList word.reverse).toList

/-- The words of a text that begins inside or outside double quotes, after the characters of
`word`. -/
def wordsFrom (inside : Bool) (word : Option (List Char)) : List Char → List String
  | [] => lastWord word
  | c :: rest =>
    if c = '"' then wordsFrom (!inside) (some (word.getD [])) rest
    else if isBlank c && !inside then lastWord word ++ wordsFrom false none rest
    else wordsFrom inside (some (c :: word.getD [])) rest

/-- The words of a text as a shell takes it. -/
def shellWords (text : String) : List String :=
  wordsFrom false none text.toList

/-- Every double quote of a text has its partner there. -/
def Paired (text : String) : Prop :=
  Even (text.toList.count '"')

/-- An argument that double quotes do not cut: there are none in it, or just the two around it. -/
inductive Argument where
  | bare (text : String) (unquoted : '"' ∉ text.toList)
  | wrapped (body : String) (unquoted : '"' ∉ body.toList)

namespace Argument

/-- The argument as it stands in a list of arguments. -/
def text : Argument → String
  | bare text _ => text
  | wrapped body _ => "\"" ++ body ++ "\""

/-- The words that an argument stands for: those of the debugger command for a placeholder, none for
an empty argument, and else one. -/
def words (command : String) : Argument → List String
  | bare text _ =>
    if text = debuggerPlaceholder then shellWords command
    else if text = "" then []
    else [text]
  | wrapped body _ => [body]

end Argument

/-- A blank after a text whose quotes are all closed divides its words from the following ones. -/
theorem wordsFrom_append_blank {text : List Char} (rest : List Char) {inside : Bool}
    (word : Option (List Char)) (closed : Even (text.count '"' + inside.toNat)) :
    wordsFrom inside word (text ++ ' ' :: rest) =
      wordsFrom inside word text ++ wordsFrom false none rest := by
  induction text generalizing inside word with
  | nil =>
    have outside : inside = false := by
      cases inside with
      | false => rfl
      | true => exact absurd closed (by decide)
    subst outside
    rfl
  | cons c text ih =>
    simp only [List.cons_append, wordsFrom]
    by_cases quote : c = '"'
    · subst quote
      have closed' : Even (text.count '"' + (!inside).toNat) := by
        rw [List.count_cons_self] at closed
        cases inside with
        | false => exact closed
        | true => simpa [Nat.even_add_one] using closed
      rw [if_pos rfl, if_pos rfl]
      exact ih _ closed'
    · rw [List.count_cons_of_ne quote] at closed
      rw [if_neg quote, if_neg quote]
      by_cases blank : (isBlank c && !inside) = true
      · have outside : inside = false := by simpa using (Bool.and_eq_true_iff.mp blank).2
        subst outside
        rw [if_pos blank, if_pos blank, List.append_assoc, ih none closed]
      · rw [if_neg blank, if_neg blank]
        exact ih _ closed

/-- The words of balanced texts with blanks between them are those of the texts one by one. -/
theorem shellWords_intercalate {texts : List String} (paired : ∀ text ∈ texts, Paired text) :
    shellWords (String.intercalate " " texts) = texts.flatMap shellWords := by
  induction texts with
  | nil => rfl
  | cons text texts ih =>
    have later := ih fun text there => paired text (List.mem_cons_of_mem _ there)
    cases texts with
    | nil => simp
    | cons next rest =>
      have first : Paired text := paired text List.mem_cons_self
      rw [List.flatMap_cons, ← later, String.intercalate_cons_cons]
      simp only [shellWords, String.toList_append, List.append_assoc]
      exact wordsFrom_append_blank _ none (by simpa [Paired] using first)

/-- A text without blanks and quotes belongs to the word that has begun. -/
theorem wordsFrom_solid {text : List Char} (word : List Char) (unquoted : '"' ∉ text)
    (solid : text.any isBlank = false) :
    wordsFrom false (some word) text = [String.ofList (word.reverse ++ text)] := by
  induction text generalizing word with
  | nil => simp [wordsFrom, lastWord]
  | cons c text ih =>
    simp only [List.mem_cons, not_or] at unquoted
    simp only [List.any_cons, Bool.or_eq_false_iff] at solid
    simp only [wordsFrom, if_neg (Ne.symm unquoted.1), solid.1, Bool.false_and]
    simpa using ih (c :: word) unquoted.2 solid.2

/-- A text between quotes belongs to one word, blanks and all. -/
theorem wordsFrom_quoted {text : List Char} (word : List Char) (unquoted : '"' ∉ text) :
    wordsFrom true (some word) (text ++ ['"']) = [String.ofList (word.reverse ++ text)] := by
  induction text generalizing word with
  | nil => simp [wordsFrom, lastWord]
  | cons c text ih =>
    simp only [List.mem_cons, not_or] at unquoted
    simp only [List.cons_append, wordsFrom, if_neg (Ne.symm unquoted.1), Bool.not_true,
      Bool.and_false]
    simpa using ih (c :: word) unquoted.2

theorem shellWords_wrap {body : String} (unquoted : '"' ∉ body.toList) :
    shellWords ("\"" ++ body ++ "\"") = [body] := by
  have inside := wordsFrom_quoted [] unquoted
  simpa [shellWords, wordsFrom] using inside

theorem shellWords_solid {text : String} (unquoted : '"' ∉ text.toList)
    (solid : text.toList.any isBlank = false) (some_ : text ≠ "") : shellWords text = [text] := by
  cases chars : text.toList with
  | nil => exact absurd (String.toList_eq_nil_iff.mp chars) some_
  | cons c rest =>
    rw [chars, List.mem_cons, not_or] at unquoted
    rw [chars, List.any_cons, Bool.or_eq_false_iff] at solid
    have one := wordsFrom_solid [c] unquoted.2 solid.2
    simp only [shellWords, chars, wordsFrom, if_neg (Ne.symm unquoted.1), solid.1, Bool.false_and]
    simpa [← chars] using one

theorem isWrapped_of_unquoted {text : String} (unquoted : '"' ∉ text.toList) :
    isWrapped text = false := by
  cases chars : text.toList with
  | nil => simp [isWrapped, chars]
  | cons c rest =>
    rw [chars, List.mem_cons, not_or] at unquoted
    simp [isWrapped, chars, Ne.symm unquoted.1]

/-- An argument without quotes is wrapped if it has a blank. -/
theorem quoteArg_bare {text : String} (unquoted : '"' ∉ text.toList) :
    quoteArg text true = if text.toList.any isBlank then "\"" ++ text ++ "\"" else text := by
  rw [quoteArg, isWrapped_of_unquoted unquoted, Bool.true_and, Bool.not_false, Bool.and_true]

theorem shellWords_quoteArg {text : String} (unquoted : '"' ∉ text.toList) :
    shellWords (quoteArg text true) = if text = "" then [] else [text] := by
  rw [quoteArg_bare unquoted]
  by_cases blank : text.toList.any isBlank = true
  · have some_ : text ≠ "" := by
      rintro rfl
      exact absurd blank (by decide)
    rw [if_pos blank, if_neg some_]
    exact shellWords_wrap unquoted
  · rw [if_neg blank]
    by_cases empty : text = ""
    · subst empty
      rfl
    · rw [if_neg empty]
      exact shellWords_solid unquoted (Bool.eq_false_iff.mpr blank) empty

theorem paired_wrap {body : String} (unquoted : '"' ∉ body.toList) :
    Paired ("\"" ++ body ++ "\"") := by
  have two : ("\"" ++ body ++ "\"").toList.count '"' = 2 := by
    simp [List.count_eq_zero.mpr unquoted]
  rw [Paired, two]
  exact ⟨1, rfl⟩

theorem paired_quoteArg {text : String} (unquoted : '"' ∉ text.toList) :
    Paired (quoteArg text true) := by
  rw [quoteArg_bare unquoted]
  split
  · exact paired_wrap unquoted
  · rw [Paired, List.count_eq_zero.mpr unquoted]
    exact Even.zero

/-- What stands in the command line for an argument. -/
def filled (command arg : String) : String :=
  if arg = debuggerPlaceholder then command else quoteArg arg true

theorem shellWords_filled (command : String) (arg : Argument) :
    shellWords (filled command arg.text) = arg.words command := by
  cases arg with
  | bare text unquoted =>
    rw [Argument.text, Argument.words, filled]
    split
    · rfl
    · exact shellWords_quoteArg unquoted
  | wrapped body unquoted =>
    rw [Argument.text, Argument.words, filled, if_neg (wrap_ne_placeholder body), quoteArg_wrap]
    exact shellWords_wrap unquoted

theorem paired_filled {command : String} (paired : Paired command) (arg : Argument) :
    Paired (filled command arg.text) := by
  cases arg with
  | bare text unquoted =>
    rw [Argument.text, filled]
    split
    · exact paired
    · exact paired_quoteArg unquoted
  | wrapped body unquoted =>
    rw [Argument.text, filled, if_neg (wrap_ne_placeholder body), quoteArg_wrap]
    exact paired_wrap unquoted

theorem fillTokens_eq (tokens : List String) (command : String) :
    fillTokens tokens true command =
      tokens.map (filled command) ++ if debuggerPlaceholder ∈ tokens then [] else [command] :=
  fillTokens_eq_map tokens true command

/-- The words of a quoted command line: those of the program, then one for each argument, and those
of the debugger command in the place of each placeholder or, if there is none, at the end. -/
theorem shellWords_ofList {program command : String} (args : List Argument)
    (program_paired : Paired program) (command_paired : Paired command) :
    shellWords (ofList program (args.map Argument.text) true command) =
      shellWords program ++ args.flatMap (Argument.words command) ++
        if debuggerPlaceholder ∈ args.map Argument.text then [] else shellWords command := by
  have paired : ∀ text ∈ fillTokens (args.map Argument.text) true command, Paired text := by
    intro text there
    rw [fillTokens_eq, List.map_map, List.mem_append] at there
    rcases there with there | there
    · obtain ⟨arg, -, rfl⟩ := List.mem_map.mp there
      exact paired_filled command_paired arg
    · split at there
      · exact absurd there List.not_mem_nil
      · rw [List.mem_singleton.mp there]
        exact command_paired
  have closed : Even (program.toList.count '"' + false.toNat) := by
    simpa [Paired] using program_paired
  have front := wordsFrom_append_blank
    (String.intercalate " " (fillTokens (args.map Argument.text) true command)).toList none closed
  have whole : shellWords (ofList program (args.map Argument.text) true command) =
      shellWords program ++
        (fillTokens (args.map Argument.text) true command).flatMap shellWords := by
    rw [← shellWords_intercalate paired]
    simpa [shellWords, ofList] using front
  have each : (args.map Argument.text |>.map (filled command)).flatMap shellWords =
      args.flatMap (Argument.words command) := by
    simp only [List.map_map, List.flatMap_map, Function.comp_apply, shellWords_filled]
  rw [whole, fillTokens_eq, List.flatMap_append, each, List.append_assoc]
  congr 2
  split <;> simp

/-- Blanks, quotes and an empty argument around a marked place. -/
theorem shellWords_ofList_marked :
    Paired "bash \"my rc\"" ∧ Paired "sh -s" ∧
      shellWords (ofList "bash \"my rc\""
        ["a b", "", "\"c d\"", "$\x7bdebuggerCommand\x7d", "\"\""] true "sh -s") =
        ["bash", "my rc", "a b", "c d", "sh", "-s", ""] := by
  have program_paired : Paired "bash \"my rc\"" := by unfold Paired; decide
  have command_paired : Paired "sh -s" := by unfold Paired; decide
  refine ⟨program_paired, command_paired, ?_⟩
  exact (shellWords_ofList [.bare "a b" (by decide), .bare "" (by decide),
    .wrapped "c d" (by decide), .bare "$\x7bdebuggerCommand\x7d" (by decide),
    .wrapped "" (by decide)] program_paired command_paired).trans (by decide)

end RemoteAttach.PipeCommand
