import Mathlib.Algebra.Order.BigOperators.Group.List
import Mathlib.Algebra.Order.Ring.Nat
import RemoteAttach.PipeCommand

/-! Where quoting shows in a pipe command. Quotes make a command longer, so that a quoted and an
unquoted command are the same only if there is nothing to quote. -/

namespace RemoteAttach.PipeCommand

/-- An argument that is the same with and without quoting: one that the debugger command replaces,
has no blank, or is wrapped already. -/
def StaysBare (arg : String) : Prop :=
  arg = debuggerPlaceholder ∨ arg.toList.any Text.isBlank = false ∨ isWrapped arg = true

instance : DecidablePred StaysBare := fun arg =>
  inferInstanceAs (Decidable (arg = debuggerPlaceholder ∨ arg.toList.any Text.isBlank = false ∨
    isWrapped arg = true))

/-- Arguments that are the same with and without quoting. A fragment never is. -/
def HasNoQuotes : PipeArgs → Prop
  | .line _ => False
  | .list tokens => ∀ arg ∈ tokens, StaysBare arg

theorem quoteArg_false (arg : String) : quoteArg arg false = arg := rfl

theorem isWrapped_wrap (body : String) : isWrapped ("\"" ++ body ++ "\"") = true := by
  simp [isWrapped, List.getLast?_cons]

/-- An argument between quotes stays as it is. -/
theorem quoteArg_wrap (body : String) :
    quoteArg ("\"" ++ body ++ "\"") true = "\"" ++ body ++ "\"" := by
  rw [quoteArg, isWrapped_wrap, Bool.not_true, Bool.and_false]
  rfl

/-- Quoting leaves an argument as it is or puts it between quotes. -/
theorem quoteArg_eq_or (arg : String) :
    quoteArg arg true = arg ∨ quoteArg arg true = "\"" ++ arg ++ "\"" := by
  unfold quoteArg
  split
  · exact .inr rfl
  · exact .inl rfl

theorem wrap_ne_placeholder (body : String) : "\"" ++ body ++ "\"" ≠ debuggerPlaceholder := by
  intro same
  have heads := congrArg (fun text => text.toList.head?) same
  simp [debuggerPlaceholder] at heads

theorem quoteArg_of_staysBare {arg : String} (bare : StaysBare arg)
    (other : arg ≠ debuggerPlaceholder) : quoteArg arg true = arg := by
  rcases bare with same | solid | wrapped
  · exact absurd same other
  · simp [quoteArg, solid]
  · simp [quoteArg, wrapped]

/-- The text of a command in which an argument stands. -/
def fillToken (quote : Bool) (command arg : String) : String :=
  if arg = debuggerPlaceholder then command else quoteArg arg quote

theorem fillToken_of_staysBare {arg : String} (bare : StaysBare arg) (quote : Bool)
    (command : String) : fillToken quote command arg = fillToken false command arg := by
  unfold fillToken
  split
  · rfl
  · rename_i other
    cases quote with
    | false => rfl
    | true => exact quoteArg_of_staysBare bare other

/-- Quotes make an argument longer. -/
theorem length_fillToken (command arg : String) :
    (fillToken true command arg).length =
      (fillToken false command arg).length + if StaysBare arg then 0 else 2 := by
  by_cases bare : StaysBare arg
  · rw [if_pos bare, fillToken_of_staysBare bare, Nat.add_zero]
  · obtain ⟨other, blank, open_⟩ : arg ≠ debuggerPlaceholder ∧
        arg.toList.any Text.isBlank = true ∧ isWrapped arg = false := by
      simpa only [StaysBare, not_or, Bool.not_eq_false, Bool.not_eq_true] using bare
    have wrapped : quoteArg arg true = "\"" ++ arg ++ "\"" := by
      simp [quoteArg, blank, open_]
    rw [if_neg bare, fillToken, fillToken, if_neg other, if_neg other, wrapped, quoteArg_false]
    simp only [String.length_append]
    have one : "\"".length = 1 := rfl
    omega

/-- The length of texts with blanks between them. -/
theorem length_intercalate {texts : List String} (some_ : texts ≠ []) :
    (String.intercalate " " texts).length + 1 = (texts.map fun text => text.length + 1).sum := by
  induction texts with
  | nil => exact absurd rfl some_
  | cons text texts ih =>
    cases texts with
    | nil => simp
    | cons next rest =>
      have later := ih (List.cons_ne_nil next rest)
      have one : " ".length = 1 := rfl
      rw [String.intercalate_cons_cons, List.map_cons, List.sum_cons, ← later]
      simp only [String.length_append]
      omega

theorem fillTokens_eq_map (tokens : List String) (quote : Bool) (command : String) :
    fillTokens tokens quote command =
      tokens.map (fillToken quote command) ++
        if debuggerPlaceholder ∈ tokens then [] else [command] := by
  have same : (fun arg => if arg = debuggerPlaceholder then command else quoteArg arg quote) =
      fillToken quote command := rfl
  simp only [fillTokens, same]
  split
  · rw [List.append_nil]
  · rfl

theorem fillTokens_ne_nil (tokens : List String) (quote : Bool) (command : String) :
    fillTokens tokens quote command ≠ [] := by
  rw [fillTokens_eq_map]
  cases tokens with
  | nil => simp
  | cons token tokens => simp

/-- The length of the arguments of a command line. -/
theorem length_intercalate_fillTokens (tokens : List String) (quote : Bool) (command : String) :
    (String.intercalate " " (fillTokens tokens quote command)).length + 1 =
      (tokens.map fun arg => (fillToken quote command arg).length + 1).sum +
        if debuggerPlaceholder ∈ tokens then 0 else command.length + 1 := by
  rw [length_intercalate (fillTokens_ne_nil tokens quote command), fillTokens_eq_map,
    List.map_append, List.sum_append, List.map_map]
  split <;> rfl

/-- Separate arguments show no quotes exactly if all of them are the same without. -/
theorem fillTokens_quote_iff (tokens : List String) (command : String) :
    String.intercalate " " (fillTokens tokens true command) =
        String.intercalate " " (fillTokens tokens false command) ↔
      ∀ arg ∈ tokens, StaysBare arg := by
  constructor
  · intro same arg there
    by_contra quoted
    have shorter : (tokens.map fun arg => (fillToken false command arg).length + 1).sum <
        (tokens.map fun arg => (fillToken true command arg).length + 1).sum := by
      refine List.sum_lt_sum _ _ (fun arg _ => ?_) ⟨arg, there, ?_⟩
      · rw [length_fillToken]
        omega
      · rw [length_fillToken, if_neg quoted]
        omega
    have long := length_intercalate_fillTokens tokens true command
    have short := length_intercalate_fillTokens tokens false command
    rw [same] at long
    omega
  · intro bare
    have same : tokens.map (fillToken true command) = tokens.map (fillToken false command) :=
      List.map_congr_left fun arg there => fillToken_of_staysBare (bare arg there) true command
    rw [fillTokens_eq_map, fillTokens_eq_map, same]

/-- A command line is the same with and without quoting exactly if its arguments are. -/
theorem ofArgs_quote_iff (program : String) (args : PipeArgs) (command : String) :
    ofArgs program args true command = ofArgs program args false command ↔ HasNoQuotes args := by
  cases args with
  | line fragment =>
    refine iff_of_false (fun same => ?_) id
    have lengths := congrArg String.length same
    have one : " ".length = 1 := rfl
    have two : " \"".length = 2 := rfl
    have mark : "\"".length = 1 := rfl
    simp only [ofArgs, ofLine, ↓reduceIte, Bool.false_eq_true, String.length_append] at lengths
    omega
  | list tokens =>
    rw [HasNoQuotes, ← fillTokens_quote_iff tokens command, ofArgs, ofArgs, ofList, ofList,
      String.append_right_inj]

namespace Builder

/-- There is a command line whether or not arguments are quoted. -/
theorem buildFor_eq_none_iff (b : Builder) (t : Transport) (platform : Option Platform) :
    b.buildFor t platform = none ↔ (t.resolveFor platform).program = none := by
  simp [buildFor, build]

/-- The command line of a transport is the quoted one exactly if quoting is wanted, or forbidden by
the transport, or shows nowhere. -/
theorem buildFor_quote_iff (command : String) (quote : Bool) (t : Transport)
    (platform : Option Platform) :
    buildFor ⟨command, true⟩ t platform = buildFor ⟨command, quote⟩ t platform ↔
      quote = true ∨ t.allowsQuotes = false ∨ (t.resolveFor platform).program = none ∨
        HasNoQuotes ((t.resolveFor platform).args.getD (.list [])) := by
  cases quote with
  | true => simp
  | false =>
    cases allowed : t.allowsQuotes with
    | false => simp [buildFor, allowed]
    | true =>
      cases program : (t.resolveFor platform).program with
      | none => simp [buildFor, build, program]
      | some program_ =>
        simp [buildFor, build, program, allowed, ofArgs_quote_iff]

end Builder

end RemoteAttach.PipeCommand
