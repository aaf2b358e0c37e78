import Mathlib.Logic.Relation
import RemoteAttach.Launch.File
import RemoteAttach.Proofs.Json.Ensures
import RemoteAttach.Proofs.Launch.Resolve

/-! What holds of every configuration of a launch file, as it is read and after any changes that
choosing processes and resolving make to it. -/

namespace RemoteAttach

open RemoteAttach.Json (Fits)
open RemoteAttach.Json.Reader

namespace Configuration

/-- The names of the members that a configuration interprets. -/
def fieldNames : List String :=
  ["name", "type", "request", "processId", "processName", "pipeTransport", "checkForDevCert",
    "serverReadyAction", "targetArchitecture"]

/-- A configuration that is the same after it has been written and read: its values fit in `room`
levels, no optional value is null, and extra members have names of their own. -/
structure Stable (room : Nat) (c : Configuration) : Prop where
  request : Request.ofWord c.request.word = c.request
  processId : ∀ v ∈ c.processId, v ≠ .null ∧ Fits room v
  transport : ∀ t ∈ c.transport, Members.Sorted t.env
  serverReadyAction : ∀ v ∈ c.serverReadyAction, v ≠ .null ∧ Fits room v
  extra_sorted : Members.Sorted c.extra
  extra_fits : ∀ member ∈ c.extra, Fits room member.2
  extra_names : ∀ member ∈ c.extra, member.1 ∉ fieldNames

end Configuration

/-! ### Reading -/

theorem Transport.ensures_take (room : Nat) (name : String) (d : Draft)
    (sorted : Members.Sorted d.finish.env) :
    Ensures (take room name d) fun d => Members.Sorted d.finish.env := by
  unfold take
  split
  · exact Ensures.last fun _ => Ensures.pure sorted
  · exact Ensures.last fun _ => Ensures.pure sorted
  · exact Ensures.last fun _ => Ensures.pure sorted
  · refine (Ensures.field (Ensures.map string room) _ _).bind fun env each => Ensures.pure ?_
    cases env with
    | none => exact .nil
    | some env => exact each env rfl
  · exact Ensures.last fun _ => Ensures.pure sorted
  · exact Ensures.last fun _ => Ensures.pure sorted
  · exact Ensures.last fun _ => Ensures.pure sorted
  · exact Ensures.last fun _ => Ensures.pure sorted
  · exact Ensures.last fun _ => Ensures.pure sorted
  · exact Ensures.last fun _ => Ensures.pure sorted

/-- The environment that has been read for a transport has each name once, and by rising name. -/
theorem Transport.ensures_reader (room : Nat) :
    Ensures (Transport.reader room) fun t => Members.Sorted t.env := by
  refine Ensures.record (fun inside _ => ?_) fun inside _ => ?_
  · refine (Ensures.foldMembers (ensures_take inside) ?_).bind fun d sorted => Ensures.pure sorted
    exact .nil
  · refine Ensures.last fun program => Ensures.last fun args => Ensures.last fun cwd => ?_
    refine (Ensures.nextItem (Ensures.map string inside) false).bind fun env each => ?_
    refine Ensures.last fun quoteArgs => Ensures.last fun debuggerPath => ?_
    refine Ensures.last fun windows => Ensures.last fun osx => Ensures.last fun linux => ?_
    refine Ensures.pure ?_
    cases env with
    | none => exact .nil
    | some env => exact each env rfl

namespace Configuration

/-- A request that has been read is written as the word that it was. -/
theorem ensures_readRequest :
    Ensures readRequest fun request => Request.ofWord request.word = request :=
  Ensures.last fun word => Ensures.pure (by rw [Request.word_ofWord])

theorem ensures_take (room : Nat) (name : String) (d : Draft) (stable : d.finish.Stable room) :
    Ensures (take room name d) fun d => d.finish.Stable room := by
  obtain ⟨request, processId, transport, serverReadyAction, sorted, fits, names⟩ := stable
  have value := Ensures.optional_value room
  unfold take
  split
  · exact Ensures.last fun _ => Ensures.pure
      ⟨request, processId, transport, serverReadyAction, sorted, fits, names⟩
  · exact Ensures.last fun _ => Ensures.pure
      ⟨request, processId, transport, serverReadyAction, sorted, fits, names⟩
  · refine (Ensures.field ensures_readRequest _ _).bind fun request? each => Ensures.pure
      ⟨?_, processId, transport, serverReadyAction, sorted, fits, names⟩
    cases request? with
    | none => rfl
    | some request => exact each request rfl
  · refine (Ensures.field value _ _).bind fun id? each => Ensures.pure
      ⟨request, ?_, transport, serverReadyAction, sorted, fits, names⟩
    cases id? with
    | none => simp [Draft.finish]
    | some id => exact each id rfl
  · exact Ensures.last fun _ => Ensures.pure
      ⟨request, processId, transport, serverReadyAction, sorted, fits, names⟩
  · refine (Ensures.field (Ensures.optional (Transport.ensures_reader room)) _ _).bind
      fun transport? each => Ensures.pure
        ⟨request, processId, ?_, serverReadyAction, sorted, fits, names⟩
    cases transport? with
    | none => simp [Draft.finish]
    | some transport => exact each transport rfl
  · exact Ensures.last fun _ => Ensures.pure
      ⟨request, processId, transport, serverReadyAction, sorted, fits, names⟩
  · refine (Ensures.field value _ _).bind fun action? each => Ensures.pure
      ⟨request, processId, transport, ?_, sorted, fits, names⟩
    cases action? with
    | none => simp [Draft.finish]
    | some action => exact each action rfl
  · exact Ensures.last fun _ => Ensures.pure
      ⟨request, processId, transport, serverReadyAction, sorted, fits, names⟩
  · rename_i h1 h2 h3 h4 h5 h6 h7 h8 h9
    have other : name ∉ fieldNames := by
      simp only [fieldNames, List.mem_cons, List.not_mem_nil, or_false, not_or]
      exact ⟨h1, h2, h3, h4, h5, h6, h7, h8, h9⟩
    refine Ensures.last fun _ => (Ensures.value room).bind fun v fit => Ensures.pure
      ⟨request, processId, transport, serverReadyAction, Members.Sorted.insert sorted _ _, ?_, ?_⟩
    · intro member there
      rcases Members.mem_insert there with rfl | there
      · exact fit
      · exact fits member there
    · intro member there
      rcases Members.mem_insert there with rfl | there
      · exact other
      · exact names member there

/-- A configuration that has been read is stable. -/
theorem ensures_reader (room : Nat) : Ensures (Configuration.reader (room + 1)) (Stable room) := by
  refine Ensures.objectRecord fun inside eq => ?_
  obtain rfl : room = inside := by omega
  refine (Ensures.foldMembers (ensures_take room) ?_).bind fun d stable => Ensures.pure stable
  exact ⟨rfl, by simp [Draft.finish], by simp [Draft.finish], by simp [Draft.finish], .nil,
    by simp [Draft.finish], by simp [Draft.finish]⟩

end Configuration

namespace LaunchFile

/-- The levels that are left inside a configuration of a launch file. -/
def configurationRoom : Nat := 124

theorem ensures_configurations :
    Ensures (list Configuration.reader 126) fun cs =>
      ∀ c ∈ cs, c.Stable configurationRoom := by
  refine Ensures.list fun inside eq => ?_
  obtain rfl : inside = 125 := by omega
  exact Configuration.ensures_reader 124

/-- The configurations of a launch file that has been read are stable. -/
theorem ensures_reader :
    Ensures (LaunchFile.reader maxDepth) fun f =>
      ∀ c ∈ f.configurations, c.Stable configurationRoom := by
  refine Ensures.record (fun inside eq => ?_) fun inside eq => ?_
  · obtain rfl : inside = 126 := by simp only [maxDepth] at eq; omega
    refine Ensures.bind (P := fun d => ∀ c ∈ d.finish.configurations, c.Stable configurationRoom)
      (Ensures.foldMembers (fun name d each => ?_) (by simp [Draft.finish]))
      fun d each => Ensures.pure each
    unfold take
    split
    · exact Ensures.last fun _ => Ensures.pure each
    · refine (Ensures.field ensures_configurations _ _).bind fun cs? each => Ensures.pure ?_
      cases cs? with
      | none => simp [Draft.finish]
      | some cs => exact each cs rfl
    · exact Ensures.last fun _ => Ensures.pure each
  · obtain rfl : inside = 126 := by simp only [maxDepth] at eq; omega
    refine Ensures.last fun version => ?_
    refine (Ensures.nextItem ensures_configurations false).bind fun cs? each => Ensures.pure ?_
    cases cs? with
    | none => simp [Draft.finish]
    | some cs => exact each cs rfl

theorem stable_of_parse {text : String} {f : LaunchFile} (parsed : parse text = .ok f) :
    ∀ c ∈ f.configurations, c.Stable configurationRoom := by
  unfold parse at parsed
  cases run : (LaunchFile.reader maxDepth).run (Json.Commented.strip text) with
  | error e =>
    rw [run] at parsed
    cases parsed
  | ok g =>
    rw [run] at parsed
    obtain rfl := Except.ok.inj parsed
    exact ensures_reader.run run

end LaunchFile

/-! ### Changes -/

namespace Configuration

/-- A change of a configuration: a process is applied, or the configuration is resolved. -/
inductive Step : Configuration → Configuration → Prop where
  | apply (c : Configuration) (p : ProcessEntry) (host : Host) : Step c (c.withProcess p host)
  | resolve {c : Configuration} {host : Host} {source : ProcessSource} {pick : ProcessPicker}
      {r : Resolved} (resolved : c.resolve host source pick = .ok r) : Step c r.configuration

/-- What any number of changes makes of a configuration. -/
def Reaches : Configuration → Configuration → Prop :=
  Relation.ReflTransGen Step

/-- All that resolving does when it succeeds. -/
theorem resolve_cases {c : Configuration} {host : Host} {source : ProcessSource}
    {pick : ProcessPicker} {r : Resolved} (resolved : c.resolve host source pick = .ok r) :
    ∃ chosen, (chosen = c ∨ ∃ p, chosen = c.withProcess p host) ∧
      r.configuration = chosen.withDevCertDefault host := by
  obtain ⟨chosen, selected, rfl⟩ := resolve_eq_ok_iff.mp resolved
  refine ⟨chosen, ?_, rfl⟩
  rcases selectProcess_eq_ok_iff.mp selected with ⟨-, same⟩ | ⟨-, processes, p, -, -, applied⟩
  · exact .inl same
  · exact .inr ⟨p, applied⟩

/-- What applying a process and deciding about the certificate preserve, every change preserves. -/
theorem Step.induction {P : Configuration → Prop} {c d : Configuration} (step : Step c d)
    (apply : ∀ c p host, P c → P (withProcess c p host))
    (decide : ∀ c host, P c → P (withDevCertDefault c host)) (start : P c) : P d := by
  cases step with
  | apply p host => exact apply c p host start
  | resolve resolved =>
    obtain ⟨chosen, rfl | ⟨p, rfl⟩, eq⟩ := resolve_cases resolved
    · exact eq ▸ decide _ _ start
    · exact eq ▸ decide _ _ (apply _ _ _ start)

theorem Stable.withProcess {room : Nat} {c : Configuration} (stable : c.Stable room)
    (p : ProcessEntry) (host : Host) : (c.withProcess p host).Stable room := by
  rw [withProcess_eq]
  obtain ⟨request, processId, transport, serverReadyAction, sorted, fits, names⟩ := stable
  refine ⟨request, fun v there => ?_, transport, serverReadyAction, sorted, fits, names⟩
  obtain rfl := Option.some.inj there
  exact ⟨by simp, .string _⟩

theorem Stable.withDevCertDefault {room : Nat} {c : Configuration} (stable : c.Stable room)
    (host : Host) : (c.withDevCertDefault host).Stable room := by
  rw [withDevCertDefault_eq]
  obtain ⟨request, processId, transport, serverReadyAction, sorted, fits, names⟩ := stable
  exact ⟨request, processId, transport, serverReadyAction, sorted, fits, names⟩

/-- A change leaves a stable configuration stable. -/
theorem Stable.step {room : Nat} {c d : Configuration} (stable : c.Stable room) (step : Step c d) :
    d.Stable room :=
  step.induction (fun _ p host stable => stable.withProcess p host)
    (fun _ host stable => stable.withDevCertDefault host) stable

end Configuration

/-- A launch file whose configurations have been changed one by one. -/
structure LaunchFile.Reaches (f g : LaunchFile) : Prop where
  version : g.version = f.version
  configurations : List.Forall₂ Configuration.Reaches f.configurations g.configurations

/-- What every change preserves holds of all configurations at last if it does at first. -/
theorem LaunchFile.Reaches.forall {f g : LaunchFile} (reaches : f.Reaches g)
    {P : Configuration → Prop} (start : ∀ c ∈ f.configurations, P c)
    (step : ∀ {c d}, Configuration.Step c d → P c → P d) : ∀ c ∈ g.configurations, P c := by
  obtain ⟨-, configurations⟩ := reaches
  generalize f.configurations = cs, g.configurations = ds at start configurations
  induction configurations with
  | nil => simp
  | cons one more ih =>
    obtain ⟨first, start⟩ := List.forall_mem_cons.mp start
    refine List.forall_mem_cons.mpr ⟨?_, ih start⟩
    induction one with
    | refl => exact first
    | tail _ change ih => exact step change ih

end RemoteAttach
