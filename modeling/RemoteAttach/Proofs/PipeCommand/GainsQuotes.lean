import Mathlib.Data.List.Forall2
import RemoteAttach.Proofs.PipeCommand.Placeholder

/-! What quoting does to a pipe command: it puts double quotes into it and changes nothing else. The
quotes of a command without quoting are those of the program, of the arguments, and of the debugger
command in each place that it takes. Arguments that are quoted beforehand are not quoted again. -/

namespace RemoteAttach

/-- The arguments of one override section changed by `f`, if it has any. -/
def PipeOverride.mapArgs (f : PipeArgs → PipeArgs) (section_ : PipeOverride) : PipeOverride :=
  { section_ with args := section_.args.map f }

namespace Transport

/-- The arguments of a transport and of its override sections changed by `f`. -/
def mapArgs (f : PipeArgs → PipeArgs) (t : Transport) : Transport :=
  { t with
    args := t.args.map f
    windows := t.windows.map (PipeOverride.mapArgs f)
    osx := t.osx.map (PipeOverride.mapArgs f)
    linux := t.linux.map (PipeOverride.mapArgs f) }

theorem overrideFor_mapArgs (f : PipeArgs → PipeArgs) (t : Transport)
    (platform : Option Platform) :
    (t.mapArgs f).overrideFor platform =
      (t.overrideFor platform).map (PipeOverride.mapArgs f) := by
  rcases platform with _ | _ | _ | _ <;> rfl

/-- The arguments in force are changed, wherever they stand, and the program is not. -/
theorem resolveFor_mapArgs (f : PipeArgs → PipeArgs) (t : Transport)
    (platform : Option Platform) :
    (t.mapArgs f).resolveFor platform =
      ⟨(t.resolveFor platform).program, (t.resolveFor platform).args.map f⟩ := by
  simp only [resolveFor, overrideFor_mapArgs]
  cases t.overrideFor platform with
  | none => rfl
  | some section_ =>
    obtain ⟨program, args⟩ := section_
    cases args <;> rfl

end Transport

namespace PipeCommand

open RemoteAttach.Text

/-- The number of double quotes in a text. -/
def quotes (text : String) : Nat :=
  text.toList.count '"'

/-- A text without its double quotes. -/
def withoutQuotes (text : String) : String :=
  String.ofList (text.toList.filter (· ≠ '"'))

/-- The second text is the first with double quotes put into it. -/
structure GainsQuotes (plain quoted : String) : Prop where
  kept : plain.toList.Sublist quoted.toList
  same : withoutQuotes quoted = withoutQuotes plain

/-! ### Putting quotes into texts -/

namespace GainsQuotes

theorem refl (text : String) : GainsQuotes text text :=
  ⟨List.Sublist.refl _, rfl⟩

theorem append {plain1 quoted1 plain2 quoted2 : String} (first : GainsQuotes plain1 quoted1)
    (second : GainsQuotes plain2 quoted2) :
    GainsQuotes (plain1 ++ plain2) (quoted1 ++ quoted2) := by
  constructor
  · rw [String.toList_append, String.toList_append]
    exact first.kept.append second.kept
  · have h1 := first.same
    have h2 := second.same
    simp only [withoutQuotes, String.ofList_inj] at h1 h2
    simp only [withoutQuotes, String.toList_append, List.filter_append, h1, h2]

/-- A text gains the two quotes around it. -/
theorem wrap (text : String) : GainsQuotes text ("\"" ++ text ++ "\"") := by
  constructor
  · have infix_ : text.toList <:+: ("\"" ++ text ++ "\"").toList :=
      ⟨['"'], ['"'], by simp⟩
    exact infix_.sublist
  · simp [withoutQuotes]

/-- Texts that gain quotes one by one gain them with blanks between. -/
theorem intercalate {plain quoted : List String} (each : List.Forall₂ GainsQuotes plain quoted) :
    GainsQuotes (String.intercalate " " plain) (String.intercalate " " quoted) := by
  induction each with
  | nil => exact refl ""
  | cons first later ih =>
    cases later with
    | nil => simpa using first
    | cons next rest =>
      rw [String.intercalate_cons_cons, String.intercalate_cons_cons]
      exact (first.append (refl " ")).append ih

end GainsQuotes

theorem gainsQuotes_quoteArg (arg : String) : GainsQuotes arg (quoteArg arg true) := by
  rcases quoteArg_eq_or arg with same | quoted
  · rw [same]
    exact GainsQuotes.refl arg
  · rw [quoted]
    exact GainsQuotes.wrap arg

theorem gainsQuotes_fillToken (command arg : String) :
    GainsQuotes (fillToken false command arg) (fillToken true command arg) := by
  unfold fillToken
  split
  · exact GainsQuotes.refl command
  · exact gainsQuotes_quoteArg arg

/-- The arguments of a command line gain quotes one by one. -/
theorem gainsQuotes_fillTokens (tokens : List String) (command : String) :
    List.Forall₂ GainsQuotes (fillTokens tokens false command) (fillTokens tokens true command) := by
  rw [fillTokens_eq_map, fillTokens_eq_map]
  refine List.rel_append ?_ ?_
  · rw [List.forall₂_map_left_iff, List.forall₂_map_right_iff, List.forall₂_same]
    exact fun arg _ => gainsQuotes_fillToken command arg
  · rw [List.forall₂_same]
    exact fun text _ => GainsQuotes.refl text

/-- A command line gains quotes when its arguments are quoted. -/
theorem gainsQuotes_ofArgs (program : String) (args : PipeArgs) (command : String) :
    GainsQuotes (ofArgs program args false command) (ofArgs program args true command) := by
  have front : GainsQuotes (program ++ " ") (program ++ " ") := GainsQuotes.refl _
  cases args with
  | line fragment =>
    have whole : ofArgs program (.line fragment) true command =
        program ++ " " ++ ("\"" ++ fillFragment fragment command ++ "\"") := by
      simp [ofArgs, ofLine, ← String.toList_inj]
    rw [whole]
    exact front.append (GainsQuotes.wrap _)
  | list tokens =>
    exact front.append (GainsQuotes.intercalate (gainsQuotes_fillTokens tokens command))

/-! ### Counting quotes -/

@[simp] theorem quotes_append (first second : String) :
    quotes (first ++ second) = quotes first + quotes second := by
  rw [quotes, String.toList_append, List.count_append]
  rfl

theorem quotes_placeholder : quotes debuggerPlaceholder = 0 := by decide

theorem quotes_intercalate (texts : List String) :
    quotes (String.intercalate " " texts) = (texts.map quotes).sum := by
  induction texts with
  | nil => rfl
  | cons text texts ih =>
    cases texts with
    | nil => simp
    | cons next rest =>
      have blank : quotes " " = 0 := by decide
      rw [String.intercalate_cons_cons, List.map_cons, List.sum_cons, ← ih]
      simp only [quotes_append, blank, Nat.add_zero]

/-- Each placeholder among separate arguments brings the quotes of the command. -/
theorem sum_quotes_fillToken (tokens : List String) (command : String) :
    (tokens.map fun arg => quotes (fillToken false command arg)).sum =
      (tokens.map quotes).sum + tokens.count debuggerPlaceholder * quotes command := by
  induction tokens with
  | nil => simp
  | cons arg tokens ih =>
    rw [List.map_cons, List.sum_cons, List.map_cons, List.sum_cons, ih]
    by_cases marked : arg = debuggerPlaceholder
    · subst marked
      rw [List.count_cons_self, fillToken, if_pos rfl, quotes_placeholder, Nat.add_mul]
      omega
    · rw [List.count_cons_of_ne marked, fillToken, if_neg marked, quoteArg_false]
      omega

/-- Separate arguments hold the quotes of the command once for each placeholder, or once if there is
none. -/
theorem quotes_fillTokens (tokens : List String) (command : String) :
    quotes (String.intercalate " " (fillTokens tokens false command)) =
      (tokens.map quotes).sum + max 1 (tokens.count debuggerPlaceholder) * quotes command := by
  have each : tokens.map (quotes ∘ fillToken false command) =
      tokens.map fun arg => quotes (fillToken false command arg) := rfl
  rw [quotes_intercalate, fillTokens_eq_map, List.map_append, List.sum_append, List.map_map, each,
    sum_quotes_fillToken]
  by_cases marked : debuggerPlaceholder ∈ tokens
  · have some_ : 0 < tokens.count debuggerPlaceholder := List.count_pos_iff.mpr marked
    rw [if_pos marked, Nat.max_eq_right some_]
    simp
  · rw [if_neg marked, List.count_eq_zero.mpr marked]
    simp

/-- A fragment holds the quotes of the command once for each placeholder, or once if there is
none. -/
theorem quotes_fillFragment (fragment command : String) :
    quotes (fillFragment fragment command) =
      quotes fragment +
        max 1 (occurrences debuggerPlaceholder.toList fragment.toList) * quotes command := by
  have unquoted : '"' ∉ debuggerPlaceholder.toList := by decide
  obtain ⟨rest, eq, once⟩ := exists_placeholder_eq
  rw [fillFragment_eq]
  by_cases marked : debuggerPlaceholder.toList <:+: fragment.toList
  · have some_ : 0 < occurrences debuggerPlaceholder.toList fragment.toList :=
      occurrences_pos_iff.mpr marked
    rw [if_pos marked, Nat.max_eq_right some_, quotes, String.toList_ofList]
    rw [eq] at unquoted ⊢
    exact count_replaceAll once unquoted fragment.toList
  · have none_ : occurrences debuggerPlaceholder.toList fragment.toList = 0 :=
      Nat.eq_zero_of_not_pos (mt occurrences_pos_iff.mp marked)
    have blank : quotes " " = 0 := by decide
    rw [if_neg marked, none_]
    simp [blank]

end PipeCommand

namespace PipeArgs

open PipeCommand

/-- The number of double quotes in arguments. -/
def quotes : PipeArgs → Nat
  | line fragment => PipeCommand.quotes fragment
  | list tokens => (tokens.map PipeCommand.quotes).sum

/-- The number of placeholders in arguments: the places in a fragment where one begins, or the
separate arguments that are one. -/
def places : PipeArgs → Nat
  | line fragment => Text.occurrences debuggerPlaceholder.toList fragment.toList
  | list tokens => tokens.count debuggerPlaceholder

/-- Arguments of which the separate ones are quoted beforehand. -/
def quoteTokens : PipeArgs → PipeArgs
  | line fragment => line fragment
  | list tokens => list (tokens.map (quoteArg · true))

end PipeArgs

namespace PipeCommand

/-- The quotes of a command line that is not quoted. -/
theorem quotes_ofArgs (program : String) (args : PipeArgs) (command : String) :
    quotes (ofArgs program args false command) =
      quotes program + args.quotes + max 1 args.places * quotes command := by
  have blank : quotes " " = 0 := by decide
  cases args with
  | line fragment =>
    simp only [ofArgs, ofLine, Bool.false_eq_true, ↓reduceIte, quotes_append, blank,
      quotes_fillFragment, PipeArgs.quotes, PipeArgs.places]
    omega
  | list tokens =>
    simp only [ofArgs, ofList, quotes_append, blank, quotes_fillTokens, PipeArgs.quotes,
      PipeArgs.places]
    omega

/-! ### Quoting twice -/

/-- What is quoted is not quoted again. -/
theorem quoteArg_quoteArg (arg : String) : quoteArg (quoteArg arg true) true = quoteArg arg true := by
  rcases quoteArg_eq_or arg with same | quoted
  · rw [same, same]
  · rw [quoted, quoteArg_wrap]

/-- Quoting makes no placeholder of an argument, and leaves a placeholder one. -/
theorem quoteArg_eq_placeholder_iff (arg : String) :
    quoteArg arg true = debuggerPlaceholder ↔ arg = debuggerPlaceholder := by
  have bare : quoteArg debuggerPlaceholder true = debuggerPlaceholder := by decide
  rcases quoteArg_eq_or arg with same | quoted
  · rw [same]
  · refine iff_of_false (quoted ▸ wrap_ne_placeholder arg) ?_
    rintro rfl
    exact wrap_ne_placeholder debuggerPlaceholder (quoted ▸ bare)

theorem fillTokens_quoteArg (tokens : List String) (command : String) :
    fillTokens (tokens.map (quoteArg · true)) true command = fillTokens tokens true command := by
  have each : ∀ arg, fillToken true command (quoteArg arg true) = fillToken true command arg := by
    intro arg
    simp only [fillToken, quoteArg_eq_placeholder_iff, quoteArg_quoteArg]
  have marked : debuggerPlaceholder ∈ tokens.map (quoteArg · true) ↔
      debuggerPlaceholder ∈ tokens := by
    simp [quoteArg_eq_placeholder_iff]
  simp only [fillTokens_eq_map, List.map_map, Function.comp_def, each, marked]

theorem ofArgs_quoteTokens (program : String) (args : PipeArgs) (command : String) :
    ofArgs program args.quoteTokens true command = ofArgs program args true command := by
  cases args with
  | line fragment => rfl
  | list tokens => simp only [PipeArgs.quoteTokens, ofArgs, ofList, fillTokens_quoteArg]

namespace Builder

/-- A transport is quoted only if both the builder wants it and the transport does not forbid it. -/
theorem buildFor_eq (b : Builder) (t : Transport) (platform : Option Platform) :
    b.buildFor t platform =
      if b.quote = true ∧ t.quoteArgs ≠ some false then
        build ⟨b.command, true⟩ (t.resolveFor platform)
      else build ⟨b.command, false⟩ (t.resolveFor platform) := by
  obtain ⟨command, quote⟩ := b
  unfold buildFor Transport.allowsQuotes
  rcases t.quoteArgs with _ | _ | _ <;> cases quote <;> rfl

/-- The command line of a transport is quoted exactly if both the builder wants it and the transport
does not forbid it, and then shows it unless there is nothing to quote. Quoting puts double quotes
into the command line and changes nothing else. Without it the quotes are those of the program, of
the arguments, and of the debugger command in the place of each placeholder or behind arguments that
have none. Quoting the separate arguments of the transport and of its sections beforehand changes
nothing of the quoted command line. -/
theorem buildFor_gainsQuotes (b : Builder) (t : Transport) (platform : Option Platform) :
    let pipe := t.resolveFor platform
    let args := pipe.args.getD (.list [])
    let plain := build ⟨b.command, false⟩ pipe
    let quoted := build ⟨b.command, true⟩ pipe
    b.buildFor t platform =
        (if b.quote = true ∧ t.quoteArgs ≠ some false then quoted else plain) ∧
      (quoted = plain ↔ pipe.program = none ∨ HasNoQuotes args) ∧
      Option.Rel GainsQuotes plain quoted ∧
      plain.map quotes =
        pipe.program.map (fun program =>
          quotes program + args.quotes + max 1 args.places * quotes b.command) ∧
      build ⟨b.command, true⟩ ((t.mapArgs PipeArgs.quoteTokens).resolveFor platform) = quoted := by
  intro pipe args plain quoted
  refine ⟨buildFor_eq b t platform, ?_, ?_, ?_, ?_⟩
  · cases program : pipe.program with
    | none => simp [plain, quoted, build, program]
    | some program_ => simp [plain, quoted, build, program, args, ofArgs_quote_iff]
  · cases program : pipe.program with
    | none =>
      simp only [plain, quoted, build, program]
      exact .none
    | some program_ =>
      simp only [plain, quoted, build, program]
      exact .some (gainsQuotes_ofArgs program_ args b.command)
  · cases program : pipe.program with
    | none => simp [plain, build, program]
    | some program_ => simp [plain, build, program, args, quotes_ofArgs]
  · have same : (pipe.args.map PipeArgs.quoteTokens).getD (.list []) = args.quoteTokens := by
      cases absent : pipe.args <;> simp [args, absent, PipeArgs.quoteTokens]
    rw [Transport.resolveFor_mapArgs]
    simp only [build, quoted]
    refine congrArg (fun line => pipe.program.map line) (funext fun program => ?_)
    exact (congrArg (fun args => ofArgs program args true b.command) same).trans
      (ofArgs_quoteTokens program args b.command)

end Builder

end PipeCommand

end RemoteAttach
