import Mathlib
import RemoteAttach.Proofs.Launch.RoundTrip
import RemoteAttach.Proofs.Transport.Rewritten

/-! What is left of the members of a configuration that is read and written back. The configuration
itself keeps the members that it does not know, but its transport and the sections of that do not. -/

namespace RemoteAttach

open RemoteAttach.Json (Fits)
open RemoteAttach.Json.Reader

theorem Json.Fits.of_mem_configurationValues {room : Nat} {v : Json} (fits : Fits room v) :
    ∀ value ∈ LaunchFile.configurationValues v, ∃ room, Fits room value := by
  have nested (v? : Option Json) (each : ∀ v ∈ v?, ∃ room, Fits room v) :
      ∀ value ∈ v?.elim [] Json.items, ∃ room, Fits room value := by
    cases v? with
    | none => exact nofun
    | some v =>
      obtain ⟨room, fits⟩ := each v rfl
      exact fits.of_mem_items
  cases fits with
  | object each _ =>
    exact nested _ fun v found => ⟨_, each _ (Members.mem_of_lookup found)⟩
  | array each =>
    exact nested _ fun v found => ⟨_, each _ (List.mem_of_mem_tail (List.mem_of_head? found))⟩
  | _ => exact nofun

namespace Configuration

/-- The members of a configuration that are left out if they are null. -/
def optionalNames : List String :=
  ["processId", "processName", "checkForDevCert", "serverReadyAction", "targetArchitecture"]

/-- What is left of a member of a configuration. It stays unless it is null and interpreted; of the
members in its transport that are not interpreted `unknown` says whether they stay. -/
def rewrite (unknown : Bool) (name : String) (v : Json) : Option Json :=
  if name = "pipeTransport" then v.unlessNull.map (Json.amend (Transport.rewrite unknown))
  else if name ∈ optionalNames then v.unlessNull
  else some v

/-- The members that are added if they are missing. -/
def defaults : Members Json :=
  [("name", .string ""), ("request", .string "launch"), ("type", .string "")]

/-- The members of the object that a configuration with the given members is written as;
`unknown` says whether the members that its transport does not interpret are there. -/
def rewritten (unknown : Bool) (members : Members Json) : Members Json :=
  (members.amend (rewrite unknown)).complete defaults

/-- The transport of a configuration and its sections interpret all their members. -/
def interpretsAll (members : Members Json) : Bool :=
  (members.lookup "pipeTransport").all fun v => Transport.interpretsAll v.members

/-- Neither for the transport nor for one of its sections an array of its fields is given. -/
def givenByName (members : Members Json) : Bool :=
  (members.lookup "pipeTransport").all Transport.givenByName

/-- The fields of a configuration, with their values. -/
def fields (c : Configuration) : List (String × Option Json) :=
  [("name", some (.string c.name)), ("type", some (.string c.kind)),
    ("request", some (.string c.request.word)), ("processId", c.processId),
    ("processName", c.processName.map .string),
    ("pipeTransport", c.transport.map Transport.toJson),
    ("checkForDevCert", c.checkForDevCert.map .bool),
    ("serverReadyAction", c.serverReadyAction),
    ("targetArchitecture", c.targetArchitecture.map .string)]

theorem toJson_eq (c : Configuration) : c.toJson = .object (optionalMembers c.fields ++ c.extra) := by
  simp [toJson, fieldMembers, optionalMembers, fields, optionalMember]

theorem rewrite_of_mem {name : String} (known : name ∈ optionalNames) (unknown : Bool) :
    rewrite unknown name = Json.unlessNull := by
  have other : name ≠ "pipeTransport" := fun same => absurd (same ▸ known) (by decide)
  funext v
  rw [rewrite, if_neg other, if_pos known]

theorem rewrite_of_notMem {name : String} (other : name ∉ "pipeTransport" :: optionalNames)
    (unknown : Bool) : rewrite unknown name = some := by
  obtain ⟨noTransport, noField⟩ := not_or.mp (mt List.mem_cons.mpr other)
  funext v
  rw [rewrite, if_neg noTransport, if_neg noField]

theorem sorted_rewritten {members : Members Json} (sorted : members.Sorted) (unknown : Bool) :
    (rewritten unknown members).Sorted :=
  (sorted.amend _).complete _

theorem lookup_rewritten {members : Members Json} (sorted : members.Sorted) (unknown : Bool)
    (name : String) : (rewritten unknown members).lookup name =
      ((members.lookup name).bind (rewrite unknown name)).or (defaults.lookup name) := by
  rw [rewritten, Members.lookup_complete, Members.lookup_amend sorted.nodup]

theorem rewrite_transport (unknown : Bool) : rewrite unknown "pipeTransport" =
    fun v => v.unlessNull.map (Json.amend (Transport.rewrite unknown)) :=
  funext fun _ => if_pos rfl

theorem lookup_rewritten_transport {members : Members Json} (sorted : members.Sorted)
    (unknown : Bool) : (rewritten unknown members).lookup "pipeTransport" =
      (members.lookup "pipeTransport").bind fun v =>
        v.unlessNull.map (Json.amend (Transport.rewrite unknown)) := by
  have missing : defaults.lookup "pipeTransport" = none := rfl
  rw [lookup_rewritten sorted, rewrite_transport, missing, Option.or_none]

theorem lookup_defaults_of_notMem {name : String} (other : name ∉ fieldNames) :
    defaults.lookup name = none := by
  refine Members.lookup_eq_none_iff.mpr (mt (fun there => ?_) other)
  exact (show defaults.map Prod.fst ⊆ fieldNames by decide) there

section Fields

variable {α : Type} {toJson : α → Json} {name : String} {members : Members Json}

/-- A field that is always written has the value of its member, or the default. -/
theorem ordered_required {x? : Option α} {default : α} (sorted : members.Sorted)
    (plain : name ∉ "pipeTransport" :: optionalNames)
    (stands : Option.Rel (fun x v => v = toJson x) x? (members.lookup name))
    (missing : defaults.lookup name = some (toJson default))
    (written : ∀ x, (toJson x).ordered = toJson x) :
    some (toJson (x?.getD default)).ordered = (rewritten false members).lookup name := by
  rw [lookup_rewritten sorted, rewrite_of_notMem plain, missing, written]
  generalize members.lookup name = v? at stands
  cases stands with
  | none => rfl
  | some related =>
    rw [related]
    rfl

/-- A field that may be missing has the value of its member, unless that is null. -/
theorem ordered_optional {x?? : Option (Option α)} (sorted : members.Sorted)
    (known : name ∈ optionalNames) (missing : defaults.lookup name = none)
    (stands : Option.Rel (OrNull fun x v => v = toJson x) x?? (members.lookup name))
    (value : ∀ x ∈ x??.getD none, (toJson x).unlessNull = some (toJson x).ordered) :
    ((x??.getD none).map toJson).map Json.ordered = (rewritten false members).lookup name := by
  rw [lookup_rewritten sorted, rewrite_of_mem known, missing, Option.or_none]
  exact Json.ordered_field stands rfl (by rintro x there v - rfl; exact value x there)

/-- A field that is kept as it is has the value of its member, unless that is null. -/
theorem ordered_optionalValue {v?? : Option (Option Json)} {room : Nat} (sorted : members.Sorted)
    (known : name ∈ optionalNames) (missing : defaults.lookup name = none)
    (stands : Option.Rel (OrNull fun x v => v = x) v?? (members.lookup name))
    (read : ∀ v ∈ v??.getD none, v ≠ .null ∧ Fits room v) :
    (v??.getD none).map Json.ordered = (rewritten false members).lookup name := by
  rw [lookup_rewritten sorted, rewrite_of_mem known, missing, Option.or_none]
  have field : ((v??.getD none).map id).map Json.ordered =
      (members.lookup name).bind Json.unlessNull := by
    refine Json.ordered_field stands rfl ?_
    rintro v there _ - rfl
    obtain ⟨set, fits⟩ := read _ there
    rw [id, fits.ordered_eq]
    exact Json.unlessNull_eq set
  rwa [Option.map_id] at field

theorem ordered_transport {t?? : Option (Option Transport)} {room : Nat}
    (fits : Fits room (.object members)) (named : givenByName members = true)
    (stands : Option.Rel (OrNull (OfMembers Transport.StandsFor)) t??
      (members.lookup "pipeTransport")) :
    ((t??.getD none).map Transport.toJson).map Json.ordered =
      (rewritten false members).lookup "pipeTransport" := by
  have sorted : members.Sorted := fits.sorted_members
  rw [lookup_rewritten_transport sorted]
  refine Json.ordered_field stands rfl fun t _ v found stands => ?_
  obtain ⟨room, fits⟩ := fits.of_mem_members _ (Members.mem_of_lookup found)
  have named : Transport.givenByName v = true := by
    rw [givenByName, Option.all_eq_true] at named
    exact named v found
  have noArray : v.isArray = false := by
    simp only [Transport.givenByName, Bool.and_eq_true, Bool.not_eq_true'] at named
    exact named.1
  refine Json.ordered_ofMembers stands noArray ?_
  rintro inside rfl stands
  exact Transport.ordered_toJson stands fits named

end Fields

/-- A configuration that stands for an object is written as what is left of its members. -/
theorem ordered_toJson {c : Configuration} {members : Members Json} {room inside : Nat}
    (stands : c.StandsFor members) (stable : c.Stable inside) (fits : Fits room (.object members))
    (named : givenByName members = true) : c.toJson.ordered = .object (rewritten false members) := by
  obtain ⟨d, stands, rfl⟩ := stands
  have sorted : members.Sorted := fits.sorted_members
  rw [toJson_eq]
  refine Json.ordered_record (show fieldNames.Nodup by decide) stable.extra_sorted.nodup
    stable.extra_names (sorted_rewritten sorted false) ?_ fun name other => ?_
  · simp only [fields, List.forall_mem_cons, List.not_mem_nil, false_implies, implies_true, and_true]
    exact ⟨ordered_required sorted (by decide) stands.name rfl fun _ => rfl,
      ordered_required sorted (by decide) stands.kind rfl fun _ => rfl,
      ordered_required sorted (by decide) stands.request rfl fun _ => rfl,
      ordered_optionalValue sorted (by decide) rfl stands.processId stable.processId,
      ordered_optional sorted (by decide) rfl stands.processName fun _ _ => rfl,
      ordered_transport fits named stands.transport,
      ordered_optional sorted (by decide) rfl stands.checkForDevCert fun _ _ => rfl,
      ordered_optionalValue sorted (by decide) rfl stands.serverReadyAction
        stable.serverReadyAction,
      ordered_optional sorted (by decide) rfl stands.targetArchitecture fun _ _ => rfl⟩
  · have known : "pipeTransport" :: optionalNames ⊆ fieldNames := by decide
    rw [lookup_rewritten sorted, rewrite_of_notMem (mt (known ·) other),
      lookup_defaults_of_notMem other, Option.or_none, ← stands.extra name other]
    show (d.extra.lookup name).map Json.ordered = _
    cases found : d.extra.lookup name with
    | none => rfl
    | some v => exact congrArg some (stable.extra_fits _ (Members.mem_of_lookup found)).ordered_eq

/-- The members that the transport does not interpret make a difference, if there are some. -/
theorem lookup_rewritten_true_iff {members : Members Json} {room : Nat}
    (fits : Fits room (.object members)) :
    (rewritten true members).lookup "pipeTransport" =
        (rewritten false members).lookup "pipeTransport" ↔ interpretsAll members = true := by
  have sorted : members.Sorted := fits.sorted_members
  rw [lookup_rewritten_transport sorted, lookup_rewritten_transport sorted, interpretsAll]
  cases found : members.lookup "pipeTransport" with
  | none => simp
  | some v =>
    obtain ⟨inside, fits⟩ := fits.of_mem_members _ (Members.mem_of_lookup found)
    rw [Option.bind_some, Option.bind_some, Json.amend_eq_amend_iff,
      Transport.amend_rewrite_iff fits.sorted_members fits.of_mem_members, Option.all_some]

/-- Only for the transport it matters whether members that it does not interpret stay. -/
theorem lookup_rewritten_true {members : Members Json} {name : String} (sorted : members.Sorted)
    (other : name ≠ "pipeTransport") :
    (rewritten true members).lookup name = (rewritten false members).lookup name := by
  have same : rewrite true name = rewrite false name := by
    funext v
    rw [rewrite, if_neg other, rewrite, if_neg other]
  rw [lookup_rewritten sorted, lookup_rewritten sorted, same]

theorem rewritten_true_eq {members : Members Json} {room : Nat} (fits : Fits room (.object members))
    (all : interpretsAll members = true) : rewritten true members = rewritten false members := by
  have sorted : members.Sorted := fits.sorted_members
  refine (sorted_rewritten sorted _).ext (sorted_rewritten sorted _) fun name => ?_
  by_cases transport : name = "pipeTransport"
  · exact transport ▸ (lookup_rewritten_true_iff fits).mpr all
  · exact lookup_rewritten_true sorted transport

/-! ### Changes -/

/-- The members of a configuration that are set when it is resolved. -/
def resolvedNames : List String := ["processId", "targetArchitecture", "checkForDevCert"]

/-- A change sets no other members. -/
theorem lookup_of_step {c d : Configuration} (step : Step c d) {name : String}
    (other : name ∉ resolvedNames) :
    d.toJson.members.lookup name = c.toJson.members.lookup name := by
  simp only [resolvedNames, List.mem_cons, List.not_mem_nil, or_false, not_or] at other
  obtain ⟨noId, noArchitecture, noCheck⟩ := other
  refine step.induction (P := fun d => d.toJson.members.lookup name = c.toJson.members.lookup name)
    (fun d p host same => ?_) (fun d host same => ?_) rfl
  · rw [← same, withProcess_eq]
    simp only [toJson, Json.members, fieldMembers, List.lookup_append, lookup_optionalMember,
      if_neg (Ne.symm noId), if_neg (Ne.symm noArchitecture)]
  · rw [← same, withDevCertDefault_eq]
    simp only [toJson, Json.members, fieldMembers, List.lookup_append, lookup_optionalMember,
      if_neg (Ne.symm noCheck)]

/-- A change of a stable configuration leaves what is written of it as it is but for the members that
a change sets. -/
theorem without_of_step {room : Nat} {c d : Configuration} (stable : c.Stable room)
    (step : Step c d) :
    d.toJson.ordered.without resolvedNames = c.toJson.ordered.without resolvedNames :=
  Json.without_congr (stable.step step).nodup_names stable.nodup_names fun _ => lookup_of_step step

/-! ### Objects that are read -/

/-- A configuration has been read from an object, which is a text of its own, or stands where the
configuration does in the value of a launch file. -/
inductive ReadFrom : Configuration → Members Json → Prop where
  | text {text : String} {c : Configuration} {members : Members Json}
      (read : Json.parse text = .ok (.object members)) (parsed : parse text = .ok c) :
      ReadFrom c members
  | file {text : String} {f : LaunchFile} {v : Json} {c : Configuration} {members : Members Json}
      (read : Json.parse (Json.Commented.strip text) = .ok v)
      (parsed : LaunchFile.parse text = .ok f)
      (there : (c, .object members) ∈ f.configurations.zip (LaunchFile.configurationValues v)) :
      ReadFrom c members

theorem StandsForObject.standsFor {c : Configuration} {members : Members Json}
    (stands : c.StandsForObject (.object members)) : c.StandsFor members := by
  obtain ⟨members', eq, stands⟩ := stands
  rwa [Json.object.inj eq]

theorem ReadFrom.standsFor {c : Configuration} {members : Members Json}
    (read : c.ReadFrom members) : c.StandsFor members := by
  cases read with
  | text read parsed => exact (standsForObject_of_parse parsed read).standsFor
  | file read parsed there =>
    exact (List.forall₂_zip (LaunchFile.standsFor_of_parse parsed read) there).standsFor

theorem ReadFrom.exists_stable {c : Configuration} {members : Members Json}
    (read : c.ReadFrom members) : ∃ room, c.Stable room := by
  cases read with
  | text read parsed => exact ⟨126, (ensures_reader 126).run parsed⟩
  | file read parsed there =>
    exact ⟨_, LaunchFile.stable_of_parse parsed c (List.of_mem_zip there).1⟩

theorem ReadFrom.exists_fits {c : Configuration} {members : Members Json}
    (read : c.ReadFrom members) : ∃ room, Fits room (.object members) := by
  cases read with
  | text read parsed => exact ⟨_, (Ensures.value maxDepth).run read⟩
  | file read parsed there =>
    exact ((Ensures.value maxDepth).run read).of_mem_configurationValues _ (List.of_mem_zip there).2

/-- A configuration that has been read from an object is written as that object without interpreted
members that are null, without an environment that is empty, and without the members that the
transport and its sections do not interpret; a missing name, kind or request is added. So the members
of the transport and its sections are all written back exactly if they are all interpreted. Both hold
also of the configuration that is resolved, whatever lists the processes and picks one, but for the
members that are set then. -/
theorem written_eq_rewritten_iff {c : Configuration} {members : Members Json}
    (read : c.ReadFrom members) (named : givenByName members = true) :
    (c.toJson.ordered = .object (rewritten false members) ∧
      (c.toJson.ordered = .object (rewritten true members) ↔ interpretsAll members = true)) ∧
    ∀ (host : Host) (source : ProcessSource) (pick : ProcessPicker) (r : Resolved),
      c.resolve host source pick = .ok r →
        let written := r.configuration.toJson.ordered.without resolvedNames
        written = (Json.object (rewritten false members)).without resolvedNames ∧
          (written = (Json.object (rewritten true members)).without resolvedNames ↔
            interpretsAll members = true) := by
  obtain ⟨room, stable⟩ := read.exists_stable
  obtain ⟨inside, fits⟩ := read.exists_fits
  have sorted : members.Sorted := fits.sorted_members
  have whole := ordered_toJson read.standsFor stable fits named
  refine ⟨⟨whole, ?_⟩, fun host source pick r resolved => ?_⟩
  · rw [whole, Json.object.injEq]
    refine ⟨fun same => (lookup_rewritten_true_iff fits).mp ?_, fun all => ?_⟩
    · rw [same]
    · rw [rewritten_true_eq fits all]
  · intro written
    have same : written = (Json.object (rewritten false members)).without resolvedNames := by
      rw [← whole]
      exact without_of_step stable (.resolve resolved)
    refine ⟨same, ?_⟩
    rw [same, Json.without_object_iff (sorted_rewritten sorted _) (sorted_rewritten sorted _)]
    refine ⟨fun same => (lookup_rewritten_true_iff fits).mp (same _ (by decide)).symm, ?_⟩
    intro all name _
    rw [rewritten_true_eq fits all]

/-- A configuration of a launch file that needs no process. A member of a section of its transport is
lost. -/
theorem written_eq_rewritten_iff_section :
    let members : Members Json := [("pipeTransport", .object [("osx", .object [("a", .null)])])]
    let c : Configuration := { transport := some { osx := some {} } }
    c.ReadFrom members ∧ givenByName members = true ∧
      c.resolve {} (.ok []) List.head? = .ok ⟨c, false⟩ ∧
      c.toJson.ordered = .object (rewritten false members) ∧
      c.toJson.ordered ≠ .object (rewritten true members) ∧
      c.toJson.ordered.without resolvedNames ≠
        (Json.object (rewritten true members)).without resolvedNames := by
  intro members c
  have parsed : LaunchFile.parse
      "\x7b\"configurations\":[\x7b\"pipeTransport\":\x7b\"osx\":\x7b\"a\":null\x7d\x7d\x7d]\x7d" =
      .ok ⟨none, [c]⟩ := by cbv
  have value : Json.parse (Json.Commented.strip
      "\x7b\"configurations\":[\x7b\"pipeTransport\":\x7b\"osx\":\x7b\"a\":null\x7d\x7d\x7d]\x7d") =
      .ok (.object [("configurations", .array [.object members])]) := by cbv
  have read : c.ReadFrom members := .file value parsed (List.mem_singleton.mpr rfl)
  have named : givenByName members = true := rfl
  have resolved : c.resolve {} (.ok []) List.head? = .ok ⟨c, false⟩ := rfl
  have lost : ¬ interpretsAll members = true := by decide
  obtain ⟨⟨written, whole⟩, changed⟩ := written_eq_rewritten_iff read named
  exact ⟨read, named, resolved, written, mt whole.mp lost,
    mt (changed _ _ _ _ resolved).2.mp lost⟩

/-- A member that the transport does not know is lost. -/
theorem written_ne_rewritten_transport :
    let text := "\x7b\"pipeTransport\":\x7b\"pipeShell\":\"bash\"\x7d\x7d"
    let members : Members Json := [("pipeTransport", .object [("pipeShell", .string "bash")])]
    let c : Configuration := { transport := some {} }
    Json.parse text = .ok (.object members) ∧ parse text = .ok c ∧ givenByName members = true ∧
      c.toJson.ordered = .object [("name", .string ""), ("pipeTransport", .object []),
        ("request", .string "launch"), ("type", .string "")] ∧
      rewritten true members =
        [("name", .string ""), ("pipeTransport", .object [("pipeShell", .string "bash")]),
          ("request", .string "launch"), ("type", .string "")] ∧
      c.toJson.ordered ≠ .object (rewritten true members) := by
  intro text members c
  have written : c.toJson.ordered = .object [("name", .string ""), ("pipeTransport", .object []),
    ("request", .string "launch"), ("type", .string "")] := by cbv
  have claimed : rewritten true members =
    [("name", .string ""), ("pipeTransport", .object [("pipeShell", .string "bash")]),
      ("request", .string "launch"), ("type", .string "")] := rfl
  refine ⟨by cbv, by cbv, rfl, written, claimed, ?_⟩
  rw [written, claimed]
  simp

end Configuration

end RemoteAttach
