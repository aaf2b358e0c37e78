import RemoteAttach.Proofs.Launch.Session

/-! Sessions of a configuration: any number of actions, each of which applies a process or resolves
the configuration, on whatever hosts. The configuration at the end is told from the first one and
the history: from the processes that were selected, and from whether the check of the certificate
was ever possible. -/

namespace RemoteAttach.Configuration

/-- What is done to a configuration. -/
inductive Action where
  | apply (p : ProcessEntry) (host : Host)
  | resolve (host : Host) (source : ProcessSource) (pick : ProcessPicker)

/-- A process that is selected for a configuration, and the host where that happens. -/
structure Selection where
  process : ProcessEntry
  host : Host
  deriving DecidableEq, Repr

/-- The configuration after an action. One that cannot be resolved stays as it was. -/
def after (c : Configuration) : Action → Configuration
  | .apply p host => c.withProcess p host
  | .resolve host source pick =>
    match c.resolve host source pick with
    | .ok r => r.configuration
    | .error _ => c

/-- The selection that an action makes. To resolve makes one only if a process is needed. -/
def selection? (c : Configuration) : Action → Option Selection
  | .apply p host => some ⟨p, host⟩
  | .resolve host source pick =>
    if c.needsProcess then (source.toOption.bind pick).map fun p => ⟨p, host⟩ else none

/-- An action resolves the configuration where the certificate can be checked. -/
def decides (c : Configuration) : Action → Bool
  | .apply _ _ => false
  | .resolve host source pick => (c.resolve host source pick).isOk && c.supportsDevCert host

/-- The configuration after some actions. -/
def afterAll (c : Configuration) (actions : List Action) : Configuration :=
  actions.foldl after c

/-- The selections that some actions make, in order. -/
def selections (c : Configuration) : List Action → List Selection
  | [] => []
  | action :: actions => (c.selection? action).toList ++ (c.after action).selections actions

/-- Some action resolves the configuration where the certificate can be checked. -/
def decidesOnce (c : Configuration) : List Action → Bool
  | [] => false
  | action :: actions => c.decides action || (c.after action).decidesOnce actions

/-- A selection that sets the architecture of a configuration of the given kind. -/
def Selection.setsArchitecture (kind : String) (s : Selection) : Bool :=
  kind = managedKind && s.host.isAppleSilicon

/-- The process id that is left by the last of some selections, or else by `before`. -/
def idAfter (selections : List Selection) (before : Option Json) : Option Json :=
  selections.getLast?.elim before fun s => some (.string (toString s.process.id.toNat))

/-- The architecture that is left by the last of some selections that sets it for a configuration of
the given kind, or else by `before`. -/
def architectureAfter (kind : String) (selections : List Selection) (before : Option String) :
    Option String :=
  (selections.filter (·.setsArchitecture kind)).getLast?.elim before fun s =>
    some (if s.process.isTranslated then "x86_64" else "arm64")

/-- What is said about the check of the certificate after it has been `decided` for a configuration
with the given server action, or not, and `before` was said first. -/
def checkAfter (decided : Bool) (serverReadyAction : Option Json) (before : Option Bool) :
    Option Bool :=
  if before = none ∧ serverReadyAction.isSome = true ∧ decided = true then some true else before

@[simp] theorem checkAfter_false (serverReadyAction : Option Json) (before : Option Bool) :
    checkAfter false serverReadyAction before = before := by
  simp [checkAfter]

/-! ### One action -/

/-- No selection is made by resolving in vain. -/
theorem selection?_of_error {c : Configuration} {host : Host} {source : ProcessSource}
    {pick : ProcessPicker} {e : LaunchError} (failed : c.resolve host source pick = .error e) :
    c.selection? (.resolve host source pick) = none := by
  obtain ⟨named, cause⟩ := selectProcess_eq_error_iff.mp (resolve_eq_error_iff.mp failed)
  rcases cause with ⟨failure, rfl, -⟩ | ⟨processes, rfl, picked, -⟩
  · simp [selection?, Except.toOption]
  · simp [selection?, Except.toOption, picked]

/-- Resolving with success applies the process that it selects, if it selects one, and decides about
the certificate. -/
theorem configuration_of_resolve {c : Configuration} {host : Host} {source : ProcessSource}
    {pick : ProcessPicker} {r : Resolved} (resolved : c.resolve host source pick = .ok r) :
    r.configuration = ((c.selection? (.resolve host source pick)).elim c fun s =>
      c.withProcess s.process s.host).withDevCertDefault host := by
  obtain ⟨chosen, selected, rfl⟩ := resolve_eq_ok_iff.mp resolved
  rcases selectProcess_eq_ok_iff.mp selected with
    ⟨named, rfl⟩ | ⟨named, processes, p, rfl, picked, rfl⟩
  · simp [selection?, named, decideDevCert]
  · simp [selection?, named, picked, Except.toOption, decideDevCert]

/-- Applying a selected process, told in the terms of a history. -/
theorem withProcess_eq_after (c : Configuration) (s : Selection) :
    c.withProcess s.process s.host =
      { c with
        processId := idAfter [s] c.processId
        targetArchitecture := architectureAfter c.kind [s] c.targetArchitecture } := by
  rw [withProcess_eq]
  by_cases sets : c.kind = managedKind ∧ s.host.isAppleSilicon = true
  · have setting : s.setsArchitecture c.kind = true := by
      simpa [Selection.setsArchitecture] using sets
    rw [if_pos sets, architectureAfter, List.filter_singleton, setting]
    rfl
  · have other : s.setsArchitecture c.kind = false := by
      simpa [Selection.setsArchitecture] using sets
    rw [if_neg sets, architectureAfter, List.filter_singleton, other]
    rfl

/-- All that an action does: a selection sets the process id, and perhaps the architecture; resolving
may ask for the check of the certificate. -/
theorem after_eq (c : Configuration) (action : Action) :
    c.after action =
      { c with
        processId := idAfter (c.selection? action).toList c.processId
        targetArchitecture :=
          architectureAfter c.kind (c.selection? action).toList c.targetArchitecture
        checkForDevCert :=
          checkAfter (c.decides action) c.serverReadyAction c.checkForDevCert } := by
  cases action with
  | apply p host =>
    rw [decides, checkAfter_false]
    exact withProcess_eq_after c ⟨p, host⟩
  | resolve host source pick =>
    cases resolved : c.resolve host source pick with
    | error e =>
      have undecided : c.decides (.resolve host source pick) = false := by
        simp [decides, resolved, Except.isOk, Except.toBool]
      rw [selection?_of_error resolved, undecided, checkAfter_false]
      simp [after, resolved, idAfter, architectureAfter]
    | ok r =>
      have decides : c.decides (.resolve host source pick) = c.supportsDevCert host := by
        simp [decides, resolved, Except.isOk, Except.toBool]
      simp only [after, resolved, configuration_of_resolve resolved, decides]
      cases c.selection? (.resolve host source pick) with
      | none =>
        rw [Option.elim_none, withDevCertDefault_eq]
        rfl
      | some s =>
        rw [Option.elim_some, withDevCertDefault_eq, withProcess_eq_after]
        rfl

/-- To resolve sets the process id only of a configuration that needs a process. -/
theorem needsProcess_of_after_resolve {c : Configuration} {host : Host} {source : ProcessSource}
    {pick : ProcessPicker}
    (changed : (c.after (.resolve host source pick)).processId ≠ c.processId) :
    c.needsProcess = true := by
  by_contra named
  rw [after_eq] at changed
  simp [selection?, named, idAfter] at changed

/-! ### Histories -/

theorem idAfter_append (earlier later : List Selection) (before : Option Json) :
    idAfter (earlier ++ later) before = idAfter later (idAfter earlier before) := by
  rw [idAfter, idAfter, List.getLast?_append]
  cases later.getLast? <;> rfl

theorem architectureAfter_append (kind : String) (earlier later : List Selection)
    (before : Option String) :
    architectureAfter kind (earlier ++ later) before =
      architectureAfter kind later (architectureAfter kind earlier before) := by
  rw [architectureAfter, architectureAfter, List.filter_append, List.getLast?_append]
  cases (later.filter (·.setsArchitecture kind)).getLast? <;> rfl

theorem checkAfter_or (earlier later : Bool) (serverReadyAction : Option Json)
    (before : Option Bool) :
    checkAfter (earlier || later) serverReadyAction before =
      checkAfter later serverReadyAction (checkAfter earlier serverReadyAction before) := by
  cases before <;> cases serverReadyAction <;> cases earlier <;> cases later <;> rfl

/-- All that a history does. -/
theorem afterAll_eq (c : Configuration) (actions : List Action) :
    c.afterAll actions =
      { c with
        processId := idAfter (c.selections actions) c.processId
        targetArchitecture := architectureAfter c.kind (c.selections actions) c.targetArchitecture
        checkForDevCert :=
          checkAfter (c.decidesOnce actions) c.serverReadyAction c.checkForDevCert } := by
  induction actions generalizing c with
  | nil =>
    rw [selections, decidesOnce, checkAfter_false]
    rfl
  | cons action actions ih =>
    have whole : c.afterAll (action :: actions) = (c.after action).afterAll actions := rfl
    rw [whole, ih, selections, decidesOnce, idAfter_append, architectureAfter_append, checkAfter_or]
    generalize (c.after action).selections actions = later
    generalize (c.after action).decidesOnce actions = decided
    rw [after_eq]

/-- Each change is made by an action. -/
theorem Step.exists_after {c d : Configuration} (step : Step c d) : ∃ action, c.after action = d := by
  cases step with
  | apply p host => exact ⟨.apply p host, rfl⟩
  | @resolve host source pick r resolved =>
    exact ⟨.resolve host source pick, by simp only [after, resolved]⟩

/-- An action makes one change or none. -/
theorem reaches_after (c : Configuration) (action : Action) : c.Reaches (c.after action) := by
  cases action with
  | apply p host => exact .single (.apply c p host)
  | resolve host source pick =>
    cases resolved : c.resolve host source pick with
    | ok r =>
      simp only [after, resolved]
      exact .single (.resolve resolved)
    | error e =>
      simp only [after, resolved]
      exact .refl

/-- One configuration leads to another by changes if some history does. -/
theorem reaches_iff_exists_afterAll {c d : Configuration} :
    c.Reaches d ↔ ∃ actions, c.afterAll actions = d := by
  constructor
  · intro reaches
    induction reaches with
    | refl => exact ⟨[], rfl⟩
    | tail _ step ih =>
      obtain ⟨actions, rfl⟩ := ih
      obtain ⟨action, rfl⟩ := step.exists_after
      exact ⟨actions ++ [action], by rw [afterAll, List.foldl_append]; rfl⟩
  · rintro ⟨actions, rfl⟩
    induction actions generalizing c with
    | nil => exact .refl
    | cons action actions ih => exact (reaches_after c action).trans ih

/-- After any history, the fields that no action sets are what they were. The process id is that of
the last process selected, and to resolve changes it only if a process is needed; the architecture is
that of the last process selected on a Mac with an ARM processor, for a managed application; and the
check of the certificate is asked for if nothing was said about it, a server action is set, and the
configuration was resolved where it can be checked. All else is as it was at first. -/
theorem afterAll_invariant (c : Configuration) (actions : List Action) :
    let d := c.afterAll actions
    (d.name = c.name ∧ d.kind = c.kind ∧ d.request = c.request ∧ d.processName = c.processName ∧
      d.transport = c.transport ∧ d.serverReadyAction = c.serverReadyAction ∧ d.extra = c.extra) ∧
    d.processId = (c.selections actions).getLast?.elim c.processId (fun s =>
      some (.string (toString s.process.id.toNat))) ∧
    (∀ host source pick, (d.after (.resolve host source pick)).processId = d.processId ∨
      d.needsProcess = true) ∧
    d.targetArchitecture = ((c.selections actions).filter fun s =>
      c.kind = "coreclr" && s.host.isAppleSilicon).getLast?.elim c.targetArchitecture (fun s =>
        some (if s.process.isTranslated then "x86_64" else "arm64")) ∧
    d.checkForDevCert =
      if c.checkForDevCert = none ∧ c.serverReadyAction.isSome = true ∧
          c.decidesOnce actions = true then some true
      else c.checkForDevCert := by
  intro d
  have all : d = _ := afterAll_eq c actions
  refine ⟨by rw [all]; exact ⟨rfl, rfl, rfl, rfl, rfl, rfl, rfl⟩, by rw [all]; rfl,
    fun host source pick => ?_, by rw [all]; rfl, by rw [all]; rfl⟩
  by_cases same : (d.after (.resolve host source pick)).processId = d.processId
  · exact .inl same
  · exact .inr (needsProcess_of_after_resolve same)

end RemoteAttach.Configuration
