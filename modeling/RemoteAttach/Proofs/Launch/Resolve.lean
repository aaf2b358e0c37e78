import RemoteAttach.Launch.Resolve

/-! What resolving a configuration establishes. Resolving fails only if a process is needed and none
is chosen, and a configuration that has been resolved is resolved to itself, whatever source and
picker there are then. -/

namespace RemoteAttach.Configuration

variable {c : Configuration} {host : Host} {source : ProcessSource} {pick : ProcessPicker}

/-- All that applying a process does. -/
theorem withProcess_eq (c : Configuration) (p : ProcessEntry) (host : Host) :
    c.withProcess p host =
      { c with
        processId := some (.string (toString p.id.toNat))
        targetArchitecture :=
          if c.kind = managedKind ∧ host.isAppleSilicon = true then some (architectureOf p)
          else c.targetArchitecture } := by
  unfold withProcess
  by_cases managed : c.kind = managedKind ∧ host.isAppleSilicon = true
  · simp [managed]
  · rw [if_neg managed]
    simp only [Bool.and_eq_true, decide_eq_true_eq]
    rw [if_neg managed]

/-- A number has a digit, so that the id of a process is set. -/
theorem isUnset_toString (n : Nat) : isUnset (some (.string (toString n))) = false := by
  simp [isUnset]

@[simp] theorem needsProcess_withProcess (c : Configuration) (p : ProcessEntry) (host : Host) :
    (c.withProcess p host).needsProcess = false := by
  rw [withProcess_eq, needsProcess, isUnset_toString]
  simp

/-! ### The certificate -/

/-- All that deciding about the certificate does. -/
theorem withDevCertDefault_eq (c : Configuration) (host : Host) :
    c.withDevCertDefault host =
      { c with
        checkForDevCert :=
          if c.checkForDevCert = none ∧ c.serverReadyAction.isSome = true ∧
              c.supportsDevCert host = true then some true
          else c.checkForDevCert } := by
  unfold withDevCertDefault
  by_cases asks : c.checkForDevCert = none ∧ c.serverReadyAction.isSome = true ∧
      c.supportsDevCert host = true
  · simp [asks]
  · rw [if_neg asks, if_neg]
    simp only [Bool.and_eq_true, Option.isNone_iff_eq_none]
    exact fun ⟨⟨supported, unset⟩, action⟩ => asks ⟨unset, action, supported⟩

@[simp] theorem needsProcess_withDevCertDefault (c : Configuration) (host : Host) :
    (c.withDevCertDefault host).needsProcess = c.needsProcess := by
  rw [withDevCertDefault_eq]
  rfl

@[simp] theorem supportsDevCert_withDevCertDefault (c : Configuration) (host other : Host) :
    (c.withDevCertDefault host).supportsDevCert other = c.supportsDevCert other := by
  rw [withDevCertDefault_eq]
  rfl

/-- Once it has been decided about the certificate, it is decided so again. -/
theorem withDevCertDefault_idem (c : Configuration) (host : Host) :
    (c.withDevCertDefault host).withDevCertDefault host = c.withDevCertDefault host := by
  rw [withDevCertDefault_eq (c.withDevCertDefault host), supportsDevCert_withDevCertDefault,
    withDevCertDefault_eq c]
  by_cases asks : c.checkForDevCert = none ∧ c.serverReadyAction.isSome = true ∧
      c.supportsDevCert host = true
  · simp [asks]
  · simp [asks]

theorem decideDevCert_idem (c : Configuration) (host : Host) :
    (c.decideDevCert host).configuration.decideDevCert host = c.decideDevCert host := by
  simp only [decideDevCert, withDevCertDefault_idem]

/-! ### The choice of a process -/

/-- Without need of a process, neither the source nor the picker is asked. -/
theorem selectProcess_of_not_needs (named : c.needsProcess = false) :
    c.selectProcess host source pick = .ok c := by
  simp [selectProcess, named]

/-- A process is chosen in vain exactly if one is needed, and there is no listing or nothing is
picked from it. -/
theorem selectProcess_eq_error_iff {e : LaunchError} :
    c.selectProcess host source pick = .error e ↔
      c.needsProcess = true ∧
        ((∃ failure, source = .error failure ∧ e = .listing failure) ∨
          ∃ processes, source = .ok processes ∧ pick processes = none ∧ e = .noProcess) := by
  cases named : c.needsProcess with
  | false => simp [selectProcess_of_not_needs named]
  | true =>
    cases source with
    | error failure => simp [selectProcess, named, eq_comm]
    | ok processes =>
      cases picked : pick processes with
      | none => simp [selectProcess, named, picked, eq_comm]
      | some p => simp [selectProcess, named, picked]

/-- All that choosing a process does when it succeeds. -/
theorem selectProcess_eq_ok_iff {d : Configuration} :
    c.selectProcess host source pick = .ok d ↔
      (c.needsProcess = false ∧ d = c) ∨
        (c.needsProcess = true ∧ ∃ processes p, source = .ok processes ∧
          pick processes = some p ∧ d = c.withProcess p host) := by
  cases named : c.needsProcess with
  | false => simp [selectProcess_of_not_needs named, eq_comm]
  | true =>
    cases source with
    | error failure => simp [selectProcess, named]
    | ok processes =>
      cases picked : pick processes with
      | none => simp [selectProcess, named, picked]
      | some p => simp [selectProcess, named, picked, eq_comm]

/-- A configuration with its process chosen needs none. -/
theorem needsProcess_of_selectProcess {d : Configuration}
    (selected : c.selectProcess host source pick = .ok d) : d.needsProcess = false := by
  rcases selectProcess_eq_ok_iff.mp selected with ⟨named, rfl⟩ | ⟨-, processes, p, -, -, rfl⟩
  · exact named
  · exact needsProcess_withProcess c p host

/-! ### Resolving -/

theorem resolve_eq_error_iff {e : LaunchError} :
    c.resolve host source pick = .error e ↔ c.selectProcess host source pick = .error e := by
  unfold resolve
  cases c.selectProcess host source pick <;> simp [Except.map]

theorem resolve_eq_ok_iff {r : Resolved} :
    c.resolve host source pick = .ok r ↔
      ∃ chosen, c.selectProcess host source pick = .ok chosen ∧ r = chosen.decideDevCert host := by
  unfold resolve
  cases c.selectProcess host source pick <;> simp [Except.map, eq_comm]

/-- Without need of a process, only the certificate is decided about. -/
theorem resolve_of_not_needs (named : c.needsProcess = false) :
    c.resolve host source pick = .ok (c.decideDevCert host) :=
  resolve_eq_ok_iff.mpr ⟨c, selectProcess_of_not_needs named, rfl⟩

/-- A resolved configuration needs no process. -/
theorem needsProcess_of_resolve {r : Resolved} (resolved : c.resolve host source pick = .ok r) :
    r.configuration.needsProcess = false := by
  obtain ⟨chosen, selected, rfl⟩ := resolve_eq_ok_iff.mp resolved
  rw [decideDevCert, needsProcess_withDevCertDefault]
  exact needsProcess_of_selectProcess selected

/-- Resolving fails exactly if a process is needed and there is no listing, or nothing is picked
from it; without that need, source and picker make no difference. What comes of resolving needs no
process, and is what comes of resolving it again with any source and picker. -/
theorem resolve_fixpoint (c : Configuration) (host : Host) (source : ProcessSource)
    (pick : ProcessPicker) :
    (∀ e, c.resolve host source pick = .error e ↔
      c.needsProcess = true ∧
        ((∃ failure, source = .error failure ∧ e = .listing failure) ∨
          ∃ processes, source = .ok processes ∧ pick processes = none ∧ e = .noProcess)) ∧
    (c.needsProcess = false → ∃ r, ∀ source pick, c.resolve host source pick = .ok r) ∧
    ∀ r, c.resolve host source pick = .ok r →
      r.configuration.needsProcess = false ∧
        ∀ source pick, r.configuration.resolve host source pick = .ok r := by
  refine ⟨fun e => resolve_eq_error_iff.trans selectProcess_eq_error_iff, fun named => ?_,
    fun r resolved => ?_⟩
  · exact ⟨c.decideDevCert host, fun _ _ => resolve_of_not_needs named⟩
  · have named := needsProcess_of_resolve resolved
    refine ⟨named, fun source pick => ?_⟩
    obtain ⟨chosen, -, rfl⟩ := resolve_eq_ok_iff.mp resolved
    rw [resolve_of_not_needs named, decideDevCert_idem]

/-- A process is picked for a web application on a Mac, and the check of the certificate comes to be
asked for. Nothing of this is asked or picked again. -/
theorem resolve_fixpoint_web :
    let c : Configuration :=
      { kind := "coreclr", request := .attach, processId := some (.number (.integer 0)),
        serverReadyAction := some .null }
    let host : Host := { platform := some .osx, arch := "arm64" }
    let p : ProcessEntry := ⟨7, "web", "web", 0x20000⟩
    let r : Resolved :=
      ⟨{ c with processId := some (.string "7"), checkForDevCert := some true,
                targetArchitecture := some "x86_64" }, true⟩
    c.resolve host (.ok [p]) List.head? = .ok r ∧
      (∀ e, c.resolve host (.error .noProgram) List.head? = .error e ↔ e = .listing .noProgram) ∧
      r.configuration.needsProcess = false ∧
      ∀ source pick, r.configuration.resolve host source pick = .ok r := by
  intro c host p r
  have id : toString p.id.toNat = "7" := by decide
  have managed : c.kind = managedKind ∧ host.isAppleSilicon = true := by decide
  have architecture : architectureOf p = "x86_64" := by decide
  have applied : c.withProcess p host =
      { c with processId := some (.string "7"), targetArchitecture := some "x86_64" } := by
    rw [withProcess_eq, id, if_pos managed, architecture]
  have resolved : c.resolve host (.ok [p]) List.head? = .ok r :=
    resolve_eq_ok_iff.mpr ⟨c.withProcess p host,
      selectProcess_eq_ok_iff.mpr (.inr ⟨rfl, [p], p, rfl, rfl, rfl⟩), applied ▸ rfl⟩
  have needs : c.needsProcess = true := rfl
  obtain ⟨-, -, again⟩ := resolve_fixpoint c host (.ok [p]) List.head?
  obtain ⟨fails, -, -⟩ := resolve_fixpoint c host (.error .noProgram) List.head?
  refine ⟨resolved, fun e => ?_, again r resolved⟩
  rw [fails e, needs]
  simp

end RemoteAttach.Configuration
