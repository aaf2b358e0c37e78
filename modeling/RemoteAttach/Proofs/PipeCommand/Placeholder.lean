import Mathlib.Data.List.Infix
import RemoteAttach.Proofs.PipeCommand.Quotes
import RemoteAttach.Proofs.Text.Pieces

/-! Where the debugger command stands in a pipe command. A fragment is in one way texts without the
placeholder with placeholders between them, and the command takes the place of each placeholder. A
fragment of arguments with blanks between them is filled like the arguments one by one. -/

namespace RemoteAttach.PipeCommand

open RemoteAttach.Text

/-- The texts that the placeholders of a fragment divide: none of them holds the placeholder, and
with placeholders between them they are the fragment. -/
structure Divides (texts : List String) (fragment : String) : Prop where
  some_ : texts ≠ []
  free : ∀ text ∈ texts, ¬ debuggerPlaceholder.toList <:+: text.toList
  whole : String.intercalate debuggerPlaceholder texts = fragment

/-- A fragment with a command between the texts that its placeholders divide, or behind the only
text. -/
def filledWith (command : String) : List String → String
  | [only] => only ++ " " ++ command
  | texts => String.intercalate command texts

/-- Only the first character of the placeholder is a dollar sign, so that two placeholders do not
overlap. -/
theorem exists_placeholder_eq : ∃ rest, debuggerPlaceholder.toList = '$' :: rest ∧ '$' ∉ rest :=
  ⟨_, rfl, by decide⟩

theorem placeholder_ne_nil : debuggerPlaceholder.toList ≠ [] := by decide

theorem space_notMem_placeholder : ' ' ∉ debuggerPlaceholder.toList := by decide

/-- The texts that the placeholders of a fragment divide are its pieces. -/
theorem divides_iff {texts : List String} {fragment : String} :
    Divides texts fragment ↔
      texts.map String.toList = pieces debuggerPlaceholder.toList fragment.toList := by
  constructor
  · rintro ⟨some_, free, rfl⟩
    obtain ⟨rest, eq, once⟩ := exists_placeholder_eq
    rw [String.toList_intercalate, eq, pieces_intercalate once (by simpa using some_)]
    rw [← eq]
    simpa using free
  · intro cut
    refine ⟨?_, fun text there => ?_, ?_⟩
    · rintro rfl
      exact pieces_ne_nil placeholder_ne_nil _ cut.symm
    · exact free_of_mem_pieces placeholder_ne_nil (cut ▸ List.mem_map_of_mem there)
    · rw [← String.toList_inj, String.toList_intercalate, cut,
        intercalate_pieces placeholder_ne_nil]

/-- The placeholders of a fragment divide it in one way. -/
theorem existsUnique_divides (fragment : String) : ∃! texts, Divides texts fragment := by
  refine ⟨(pieces debuggerPlaceholder.toList fragment.toList).map String.ofList, ?_, ?_⟩
  · simp [divides_iff, Function.comp_def]
  · intro texts divides
    rw [← divides_iff.mp divides, List.map_map]
    simp [Function.comp_def]

/-- A fragment is filled by the command between its texts. -/
theorem fillFragment_of_divides {texts : List String} {fragment : String}
    (divides : Divides texts fragment) (command : String) :
    fillFragment fragment command = filledWith command texts := by
  have cut := divides_iff.mp divides
  obtain ⟨some_, -, whole⟩ := divides
  unfold fillFragment
  rw [← cut]
  match texts with
  | [] => exact absurd rfl some_
  | [only] =>
    rw [String.intercalate_singleton] at whole
    simp [filledWith, whole]
  | first :: next :: rest =>
    rw [if_neg (by simp), ← String.toList_intercalate, String.ofList_toList]
    rfl

theorem fillFragment_eq (fragment command : String) :
    fillFragment fragment command =
      if debuggerPlaceholder.toList <:+: fragment.toList then
        String.ofList (replaceAll debuggerPlaceholder.toList command.toList fragment.toList)
      else fragment ++ " " ++ command := by
  simp only [fillFragment, length_pieces_eq_one_iff placeholder_ne_nil, ite_not]
  rfl

/-- However its arguments are filled, the command is somewhere in them. -/
theorem infix_fillFragment (fragment command : String) :
    command.toList <:+: (fillFragment fragment command).toList := by
  obtain ⟨texts, divides, -⟩ := existsUnique_divides fragment
  rw [fillFragment_of_divides divides]
  match texts, divides.some_ with
  | [only], _ => exact ⟨(only ++ " ").toList, [], by simp [filledWith]⟩
  | first :: next :: rest, _ =>
    refine ⟨first.toList, (String.intercalate command (next :: rest)).toList, ?_⟩
    simp [filledWith]

theorem mem_fillTokens (tokens : List String) (quote : Bool) (command : String) :
    command ∈ fillTokens tokens quote command := by
  rw [fillTokens_eq_map]
  by_cases marked : debuggerPlaceholder ∈ tokens
  · refine List.mem_append_left _ (List.mem_map.mpr ⟨_, marked, ?_⟩)
    simp [fillToken]
  · simp [marked]

/-- Every command line holds the debugger command. -/
theorem infix_ofArgs (program : String) (args : PipeArgs) (quote : Bool) (command : String) :
    command.toList <:+: (ofArgs program args quote command).toList := by
  cases args with
  | line fragment =>
    obtain ⟨before, after, eq⟩ := infix_fillFragment fragment command
    cases quote with
    | false => exact ⟨program.toList ++ ' ' :: before, after, by simp [ofArgs, ofLine, ← eq]⟩
    | true =>
      exact ⟨program.toList ++ ' ' :: '"' :: before, after ++ ['"'],
        by simp [ofArgs, ofLine, ← eq]⟩
  | list tokens =>
    have there := List.mem_map_of_mem (f := String.toList) (mem_fillTokens tokens quote command)
    rw [ofArgs, ofList, String.toList_append, String.toList_intercalate]
    exact (infix_intercalate_of_mem there).trans (List.suffix_append _ _).isInfix

/-- The placeholders of a fragment divide it in one way, and its command line is the program and
the fragment with the command in the place of each placeholder, or behind it if there is none. The
fragment stands in one pair of quotes if it is to be quoted. What replaces a placeholder is not
looked at again, and the command is always there. -/
theorem ofLine_of_divides (program fragment : String) (quote : Bool) (command : String) :
    (∃! texts, Divides texts fragment) ∧
      (∀ texts, Divides texts fragment →
        ofLine program fragment quote command =
          program ++ " " ++
            if quote then "\"" ++ filledWith command texts ++ "\"" else filledWith command texts) ∧
      command.toList <:+: (ofLine program fragment quote command).toList := by
  refine ⟨existsUnique_divides fragment, fun texts divides => ?_,
    infix_ofArgs program (.line fragment) quote command⟩
  rw [ofLine, fillFragment_of_divides divides]
  cases quote with
  | false => rfl
  | true => simp [← String.toList_inj]

/-- A placeholder begun in vain, two placeholders in a row, and a command that holds one. -/
theorem ofLine_of_divides_twice :
    Divides ["-c '$\x7bdebugger", "", "'"]
        "-c '$\x7bdebugger$\x7bdebuggerCommand\x7d$\x7bdebuggerCommand\x7d'" ∧
      ofLine "ssh" "-c '$\x7bdebugger$\x7bdebuggerCommand\x7d$\x7bdebuggerCommand\x7d'" true
          "$\x7bdebuggerCommand\x7d;" =
        "ssh \"-c '$\x7bdebugger$\x7bdebuggerCommand\x7d;$\x7bdebuggerCommand\x7d;'\"" := by
  have divides : Divides ["-c '$\x7bdebugger", "", "'"]
      "-c '$\x7bdebugger$\x7bdebuggerCommand\x7d$\x7bdebuggerCommand\x7d'" :=
    divides_iff.mpr (by decide +kernel)
  exact ⟨divides, ((ofLine_of_divides "ssh" _ true "$\x7bdebuggerCommand\x7d;").2.1 _ divides).trans
    (by decide +kernel)⟩

/-! ### Arguments with blanks between them -/

/-- Without quoting, an argument that holds the placeholder only if it is one is filled like a
fragment in which the placeholder is replaced. -/
theorem toList_fillToken {arg : String}
    (whole : debuggerPlaceholder.toList <:+: arg.toList → arg = debuggerPlaceholder)
    (command : String) :
    (fillToken false command arg).toList =
      replaceAll debuggerPlaceholder.toList command.toList arg.toList := by
  unfold fillToken
  split
  · rename_i marked
    have only : replaceAll debuggerPlaceholder.toList command.toList
        (debuggerPlaceholder.toList ++ []) = command.toList ++ [] := by
      rw [replaceAll_separator placeholder_ne_nil, replaceAll_nil]
    rw [List.append_nil, List.append_nil] at only
    rw [marked, only]
  · rename_i other
    rw [quoteArg_false, replaceAll_of_free (mt whole other)]

/-- Separate arguments with blanks between them are filled like the fragment that they make. -/
theorem fillFragment_intercalate {tokens : List String} (some_ : tokens ≠ [])
    (whole : ∀ arg ∈ tokens, debuggerPlaceholder.toList <:+: arg.toList → arg = debuggerPlaceholder)
    (command : String) :
    fillFragment (String.intercalate " " tokens) command =
      String.intercalate " " (fillTokens tokens false command) := by
  have blank : " ".toList = [' '] := rfl
  have marked_iff : debuggerPlaceholder.toList <:+: (String.intercalate " " tokens).toList ↔
      debuggerPlaceholder ∈ tokens := by
    rw [String.toList_intercalate, blank,
      infix_intercalate_iff space_notMem_placeholder placeholder_ne_nil]
    constructor
    · rintro ⟨_, mapped, marked⟩
      obtain ⟨arg, there, rfl⟩ := List.mem_map.mp mapped
      exact whole arg there marked ▸ there
    · intro there
      exact ⟨_, List.mem_map_of_mem there, List.infix_rfl⟩
  rw [fillFragment_eq, fillTokens_eq_map]
  simp only [marked_iff]
  split
  · have each : tokens.map (fun arg => (fillToken false command arg).toList) =
        tokens.map fun arg =>
          replaceAll debuggerPlaceholder.toList command.toList arg.toList :=
      List.map_congr_left fun arg there => toList_fillToken (whole arg there) command
    rw [← String.toList_inj, String.toList_ofList, String.toList_intercalate,
      String.toList_intercalate, blank,
      replaceAll_intercalate space_notMem_placeholder placeholder_ne_nil]
    simp only [List.append_nil, List.map_map, Function.comp_def, each]
  · rename_i unmarked
    have same : tokens.map (fillToken false command) = tokens.map id := by
      refine List.map_congr_left fun arg there => if_neg ?_
      rintro rfl
      exact unmarked there
    rw [same, List.map_id, String.intercalate_append_of_ne_nil some_ (List.cons_ne_nil command []),
      String.intercalate_singleton]

/-- Without quoting, separate arguments make the same command line as the fragment of them with
blanks between, if none of them holds the placeholder without being one. -/
theorem ofArgs_list_eq_line {tokens : List String} (some_ : tokens ≠ [])
    (whole : ∀ arg ∈ tokens, debuggerPlaceholder.toList <:+: arg.toList → arg = debuggerPlaceholder)
    (program command : String) :
    ofArgs program (.list tokens) false command =
      ofArgs program (.line (String.intercalate " " tokens)) false command := by
  simp only [ofArgs, ofList, ofLine, Bool.false_eq_true, ↓reduceIte,
    fillFragment_intercalate some_ whole]

/-- Arguments with blanks, an empty one and two placeholders. -/
theorem ofArgs_list_eq_line_marked :
    let tokens := ["a b", "", "$\x7bdebuggerCommand\x7d", "$\x7bdebugger", "$\x7bdebuggerCommand\x7d"]
    tokens ≠ [] ∧
      (∀ arg ∈ tokens,
        debuggerPlaceholder.toList <:+: arg.toList → arg = debuggerPlaceholder) ∧
      ofArgs "ssh" (.line (String.intercalate " " tokens)) false "sh -s" =
        "ssh a b  sh -s $\x7bdebugger sh -s" := by
  intro tokens
  have some_ : tokens ≠ [] := List.cons_ne_nil _ _
  have whole : ∀ arg ∈ tokens,
      debuggerPlaceholder.toList <:+: arg.toList → arg = debuggerPlaceholder := by decide +kernel
  exact ⟨some_, whole, (ofArgs_list_eq_line some_ whole "ssh" "sh -s").symm.trans (by decide +kernel)⟩

end RemoteAttach.PipeCommand
