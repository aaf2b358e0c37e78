import RemoteAttach.CommandLine
import RemoteAttach.Proofs.PipeCommand.Quotes

/-! The two commands that lead through a pipe: the one that is printed, and the one that lists the
processes behind it. The settings and the switch against quoting decide about the first alone; the
second is that of a fresh installation whatever they say. -/

namespace RemoteAttach

/-! ### Listing through a command -/

/-- The listing behind a pipe through a given command, if there is one. -/
def RemoteListing.queryThrough (m : Machine) (t : Transport) :
    Option String → Except ListingError RemoteListing × FileTree
  | none => (.error .noProgram, m.files)
  | some command =>
    let ended : Except Machine.Failure Ending :=
      match pipeMachine m t with
      | .error e => .error (.refused e)
      | .ok m => m.run "sh" ["-c", command] (Text.bytes script) remotePatience
    ((readOutput command remotePatience ended).map read, m.filesAfter ended)

/-- What is behind a pipe is listed through the listing command. -/
theorem RemoteListing.query_eq (m : Machine) (t : Transport) (platform : Option Platform) :
    query m t platform = queryThrough m t (pipeCommand t platform) := by
  unfold query queryThrough
  cases pipeCommand t platform <;> rfl

/-- A configuration behind a pipe is resolved through the listing command, which is run only if a
process is needed. -/
theorem Configuration.resolveOn_eq (c : Configuration) (m : Machine) (host : Host)
    (pick : ProcessPicker) (t : Transport) :
    resolveOn { c with transport := some t } m host pick =
      let (source, files) :=
        if c.needsProcess then
          let (listing, files) :=
            RemoteListing.queryThrough m t (RemoteListing.pipeCommand t host.platform)
          (listing.map (·.processes), files)
        else (.ok [], m.files)
      (resolve { c with transport := some t } host source pick, files) := by
  have same : needsProcess { c with transport := some t } = c.needsProcess := rfl
  simp only [resolveOn, queryProcesses, same, RemoteListing.query_eq]

namespace CommandLine

open Step

/-- Writes the listing behind a transport through a given command. -/
def listThrough (m : Machine) (t : Transport) (command : Option String) : Step Unit := do
  let listing ← acceptWithFiles .listing (RemoteListing.queryThrough (← now m) t command)
  say ("# remote OS: " ++ listing.os.describe)
  listing.processes.forM fun p => say (processLine p)

theorem showListing_eq (m : Machine) (t : Transport) (platform : Option Platform) :
    showListing m t platform = listThrough m t (RemoteListing.pipeCommand t platform) := by
  simp only [showListing, listThrough, RemoteListing.query_eq]

/-! ### Printing a command -/

/-- The pipe command that is printed for a transport. -/
def printedCommand (settings : Settings) (o : Options) (t : Transport)
    (platform : Option Platform) : Option String :=
  (if o.noQuote then { settings.builder with quote := false } else settings.builder).buildFor t
    platform

/-- Writes a command, or reports that a pipe has no program. -/
def sayCommand : Option String → Step Unit
  | some command => say command
  | none => throw (.listing .noProgram)

theorem showCommand_eq (settings : Settings) (o : Options) (t : Transport)
    (platform : Option Platform) :
    showCommand settings o t platform = sayCommand (printedCommand settings o t platform) := by
  unfold showCommand
  change (match printedCommand settings o t platform with
    | some command => say command
    | none => throw (Failure.listing .noProgram)) = _
  cases printedCommand settings o t platform <;> rfl

/-- Neither the settings nor the switch is against quoting. -/
def wantsQuotes (settings : Settings) (o : Options) : Bool :=
  settings.quoteArgs && !o.noQuote

theorem printedCommand_eq (settings : Settings) (o : Options) (t : Transport)
    (platform : Option Platform) :
    printedCommand settings o t platform =
      PipeCommand.Builder.buildFor ⟨settings.debuggerCommand, wantsQuotes settings o⟩ t
        platform := by
  unfold printedCommand wantsQuotes Settings.builder
  cases o.noQuote <;> simp

/-! ### Invocations -/

/-- What a run comes to before it prints, lists or resolves: the settings, the configuration that is
wanted, and the platform. -/
def approach (m : Machine) (o : Options) (time : String) :
    Step (Settings × Configuration × Option Platform) := do
  let settings ← prepare m time
  let c ← chooseConfiguration m o
  pure (settings, c, match o.os with | some tag => Platform.ofTag? tag | none => some .linux)

/-- A run that is to print a command prints the one of its settings and options. -/
theorem serve_print (m : Machine) (o : Options) (time : String) :
    serve m { o with checkDevCerts := false, pick := none, list := false } time = (do
      let (settings, c, platform) ← approach m o time
      let t ← accept .launch c.requireTransport
      sayCommand (printedCommand settings o t platform)) := by
  simp only [serve, approach, bind_assoc, pure_bind, showCommand_eq]
  rfl

/-- A run that is to list processes lists them through the listing command. -/
theorem serve_list (m : Machine) (o : Options) (time : String) :
    serve m { o with checkDevCerts := false, pick := none, list := true } time = (do
      let (_, c, platform) ← approach m o time
      let t ← accept .launch c.requireTransport
      listThrough m t (RemoteListing.pipeCommand t platform)) := by
  simp only [serve, approach, bind_assoc, pure_bind, showListing_eq]
  rfl

/-- A run that is to pick a process resolves the configuration on a host of the platform. -/
theorem serve_pick (m : Machine) (o : Options) (time process : String) :
    serve m { o with checkDevCerts := false, pick := some process } time = (do
      let (_, c, platform) ← approach m o time
      showResolved m c platform process) := by
  simp only [serve, approach, bind_assoc, pure_bind]
  rfl

/-- The command that lists processes is the one that the same run would print with the listing shell
for its debugger command, exactly if the settings and the switch leave quoting on, or it shows
nowhere: the transport forbids it or has no program, or its arguments are the same without. Either
run reports a missing program where the other does. -/
theorem listed_eq_printed_iff (m : Machine) (o : Options) (time : String) :
    serve m { o with checkDevCerts := false, pick := none, list := true } time = (do
      let (_, c, platform) ← approach m o time
      let t ← accept .launch c.requireTransport
      listThrough m t (RemoteListing.pipeCommand t platform)) ∧
    serve m { o with checkDevCerts := false, pick := none, list := false } time = (do
      let (settings, c, platform) ← approach m o time
      let t ← accept .launch c.requireTransport
      sayCommand (printedCommand settings o t platform)) ∧
    (∀ process, serve m { o with checkDevCerts := false, pick := some process } time = (do
      let (_, c, platform) ← approach m o time
      showResolved m c platform process)) ∧
    ∀ (settings : Settings) (t : Transport) (platform : Option Platform),
      let listed := RemoteListing.pipeCommand t platform
      let printed := printedCommand
        { settings with debuggerCommand := RemoteListing.shellCommand } o t platform
      (∀ (c : Configuration) (host : Host) (pick : ProcessPicker),
        Configuration.resolveOn { c with transport := some t } m { host with platform } pick =
          let (source, files) :=
            if c.needsProcess then
              let (listing, files) := RemoteListing.queryThrough m t listed
              (listing.map (·.processes), files)
            else (.ok [], m.files)
          (Configuration.resolve { c with transport := some t } { host with platform } source pick,
            files)) ∧
      (listed = none ↔ printed = none) ∧
      (listed = printed ↔
        wantsQuotes settings o = true ∨ t.allowsQuotes = false ∨
          (t.resolveFor platform).program = none ∨
          PipeCommand.HasNoQuotes ((t.resolveFor platform).args.getD (.list []))) := by
  refine ⟨serve_list m o time, serve_print m o time, serve_pick m o time, ?_⟩
  intro settings t platform listed printed
  have printed_eq : printed = PipeCommand.Builder.buildFor
      ⟨RemoteListing.shellCommand, wantsQuotes settings o⟩ t platform := printedCommand_eq ..
  refine ⟨fun c host pick => Configuration.resolveOn_eq c m { host with platform } pick t, ?_, ?_⟩
  · rw [printed_eq]
    exact (PipeCommand.Builder.buildFor_eq_none_iff _ t platform).trans
      (PipeCommand.Builder.buildFor_eq_none_iff _ t platform).symm
  · rw [printed_eq]
    exact PipeCommand.Builder.buildFor_quote_iff _ _ t platform

/-- With the switch against quoting, an argument with a blank is one argument of the command that
lists processes, and two of the command that is printed. -/
theorem listed_ne_printed_noQuote :
    let t : Transport := { program := some "reach", args := some (.list ["a b"]) }
    let listed := RemoteListing.pipeCommand t (some .linux)
    let printed := printedCommand
      { ({} : Settings) with debuggerCommand := RemoteListing.shellCommand } { noQuote := true } t
      (some .linux)
    listed = some "reach \"a b\" sh -s" ∧ printed = some "reach a b sh -s" ∧ listed ≠ printed := by
  decide +kernel

end CommandLine

end RemoteAttach
