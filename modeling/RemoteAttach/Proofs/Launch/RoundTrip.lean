import RemoteAttach.Proofs.Json.Compact
import RemoteAttach.Proofs.Json.Runs.Record
import RemoteAttach.Proofs.Launch.Session

/-! Launch files that are written and read again. A launch file that has been read, or whose
configurations have been changed since, is read from its text as what it is. -/

namespace RemoteAttach

open RemoteAttach.Json
open RemoteAttach.Json.Reader

/-- A field that is written only if it is set, and is not set before its member is read. -/
theorem Json.Reader.Takes.optionalMember {σ γ : Type} {take : String → σ → Reader σ}
    {r : Reader γ} {toJson : γ → Json} (set : Option (Option γ) → σ → σ) (name : String)
    (x : Option γ) (state : σ) (unset : set none state = state)
    (takes : take name state = do
      let x ← field name none (optional r)
      pure (set x state))
    (reads : ∀ y ∈ x, Reads (optional r) (toJson y) (some y)) :
    Takes take state (optionalMember name (x.map toJson)) (set (x.map some) state) := by
  cases x with
  | none =>
    show Takes take state [] (set none state)
    rw [unset]
    exact .nil state
  | some y => exact .member set name state takes (reads y rfl)

/-- A field whose value stands for itself. -/
theorem Json.Reader.Takes.optionalValue {σ : Type} {take : String → σ → Reader σ}
    {r : Reader Json} (set : Option (Option Json) → σ → σ) (name : String) (x : Option Json)
    (state : σ) (unset : set none state = state)
    (takes : take name state = do
      let x ← field name none (optional r)
      pure (set x state))
    (reads : ∀ v ∈ x, Reads (optional r) v (some v)) :
    Takes take state (RemoteAttach.optionalMember name x) (set (x.map some) state) := by
  have member : Takes take state (RemoteAttach.optionalMember name (x.map id))
      (set (x.map some) state) := .optionalMember set name x state unset takes reads
  rwa [Option.map_id_fun, id] at member

/-- A field that has been read, or that is missing, is what it was. -/
theorem Json.Reader.getD_map_some {γ : Type} (x : Option γ) : (x.map some).getD none = x := by
  cases x <;> rfl

/-! ### Transports -/

theorem PipeArgs.mapM_token? (tokens : List String) :
    (tokens.map Json.string).mapM token? = some tokens := by
  induction tokens with
  | nil => rfl
  | cons token tokens ih =>
    rw [List.map_cons, List.mapM_cons, ih]
    rfl

/-- Pipe arguments are read as what they were. -/
theorem PipeArgs.reads_reader (room : Nat) (args : PipeArgs) :
    Reads (PipeArgs.reader (room + 1)) args.toJson args := by
  intro rest ends
  have fits : Fits (room + 1) args.toJson := by
    cases args with
    | line fragment => exact .string fragment
    | list tokens =>
      refine .array fun item there => ?_
      obtain ⟨token, -, rfl⟩ := List.mem_map.mp there
      exact .string token
  have whole : args.toJson.isWhole = true := by
    cases args with
    | line fragment => rfl
    | list tokens => simp [toJson, isWhole, itemsWhole_iff]
  have back : ofJson? args.toJson = some args := by
    cases args with
    | line fragment => rfl
    | list tokens =>
      show ((tokens.map Json.string).mapM token?).map PipeArgs.list = some (.list tokens)
      rw [mapM_token?]
      rfl
  refine (fits.runs_value whole ends).bind ?_
  rw [back]
  exact Runs.pure _ _

theorem PipeArgs.reads_optional (room : Nat) (args : PipeArgs) :
    Reads (optional (PipeArgs.reader (room + 1))) args.toJson (some args) := by
  refine (reads_reader room args).optional ?_ ?_
  · cases args <;> exact nofun
  · cases args <;> exact nofun

namespace PipeOverride

/-- An override section is read as what it was. -/
theorem reads_reader (room : Nat) (o : PipeOverride) :
    Reads (PipeOverride.reader (room + 2)) o.toJson o := by
  have takes : Takes (take (room + 1)) {}
      (optionalMember "pipeProgram" (o.program.map Json.string) ++
        optionalMember "pipeArgs" (o.args.map PipeArgs.toJson))
      { program := o.program.map some, args := o.args.map some } := by
    refine .append (.optionalMember (fun x (d : Draft) => { d with program := x }) "pipeProgram"
      o.program _ rfl rfl fun s _ => Reads.optional_string s) ?_
    exact .optionalMember (fun x (d : Draft) => { d with args := x }) "pipeArgs" o.args _ rfl rfl
      fun args _ => PipeArgs.reads_optional room args
  have finish : Draft.finish { program := o.program.map some, args := o.args.map some } = o := by
    simp only [Draft.finish, getD_map_some]
  exact Reads.record fun rest => Runs.fields takes finish rest

theorem reads_optional (room : Nat) (o : PipeOverride) :
    Reads (optional (PipeOverride.reader (room + 2))) o.toJson (some o) :=
  (reads_reader room o).optional nofun nofun

end PipeOverride

namespace Transport

/-- The environment is written only if there is one. -/
theorem takes_env (room : Nat) {env : List (String × String)} (sorted : Members.Sorted env)
    (d : Draft) (unset : d.env = none) :
    Takes (take (room + 1)) d
      (if env.isEmpty then []
        else [("pipeEnv", .object (env.map fun (name, value) => (name, .string value)))])
      { d with env := if env.isEmpty then none else some env } := by
  obtain ⟨program, args, cwd, before, quoteArgs, debuggerPath, windows, osx, linux⟩ := d
  obtain rfl : before = none := unset
  split
  · exact .nil _
  · have reads := Reads.map Json.string (fun member _ => Reads.string member.2) sorted room
    exact .member (fun x (d : Draft) => { d with env := x }) "pipeEnv" _ rfl reads

/-- All fields of a transport that is written are read. -/
def Draft.ofTransport (t : Transport) : Draft where
  program := t.program.map some
  args := t.args.map some
  cwd := t.cwd.map some
  env := if t.env.isEmpty then none else some t.env
  quoteArgs := t.quoteArgs.map some
  debuggerPath := t.debuggerPath.map some
  windows := t.windows.map some
  osx := t.osx.map some
  linux := t.linux.map some

theorem Draft.finish_ofTransport (t : Transport) : (Draft.ofTransport t).finish = t := by
  have env : (if t.env.isEmpty then none else some t.env).getD [] = t.env := by
    cases t.env <;> rfl
  simp only [Draft.finish, Draft.ofTransport, getD_map_some, env]

/-- A transport is read as what it was. -/
theorem reads_reader (room : Nat) {t : Transport} (sorted : Members.Sorted t.env) :
    Reads (Transport.reader (room + 3)) t.toJson t := by
  have program : Takes (take (room + 2)) {} _ _ :=
    .optionalMember (fun x (d : Draft) => { d with program := x }) "pipeProgram" t.program _ rfl rfl
      fun s _ => Reads.optional_string s
  have args := program.append (.optionalMember (fun x (d : Draft) => { d with args := x })
    "pipeArgs" t.args _ rfl rfl fun args _ => PipeArgs.reads_optional _ args)
  have cwd := args.append (.optionalMember (fun x (d : Draft) => { d with cwd := x })
    "pipeCwd" t.cwd _ rfl rfl fun s _ => Reads.optional_string s)
  have env := cwd.append (takes_env _ sorted _ rfl)
  have quoteArgs := env.append (.optionalMember (fun x (d : Draft) => { d with quoteArgs := x })
    "quoteArgs" t.quoteArgs _ rfl rfl fun b _ => Reads.optional_boolean b)
  have debuggerPath := quoteArgs.append
    (.optionalMember (fun x (d : Draft) => { d with debuggerPath := x })
      "debuggerPath" t.debuggerPath _ rfl rfl fun s _ => Reads.optional_string s)
  have windows := debuggerPath.append
    (.optionalMember (fun x (d : Draft) => { d with windows := x })
      "windows" t.windows _ rfl rfl fun o _ => PipeOverride.reads_optional _ o)
  have osx := windows.append (.optionalMember (fun x (d : Draft) => { d with osx := x })
    "osx" t.osx _ rfl rfl fun o _ => PipeOverride.reads_optional _ o)
  have linux := osx.append (.optionalMember (fun x (d : Draft) => { d with linux := x })
    "linux" t.linux _ rfl rfl fun o _ => PipeOverride.reads_optional _ o)
  exact Reads.record fun rest => Runs.fields linux (Draft.finish_ofTransport t) rest

theorem reads_optional (room : Nat) {t : Transport} (sorted : Members.Sorted t.env) :
    Reads (optional (Transport.reader (room + 3))) t.toJson (some t) :=
  (reads_reader room sorted).optional nofun nofun

end Transport

/-! ### Configurations -/

namespace Configuration

/-- All numbers of a configuration are whole. -/
def isWhole (c : Configuration) : Bool :=
  c.processId.all Json.isWhole && c.serverReadyAction.all Json.isWhole && membersWhole c.extra

/-- All fields of a configuration that is written are read, and `extra` of its other members. -/
def Draft.ofConfiguration (c : Configuration) (extra : Members Json) : Draft where
  name := some c.name
  kind := some c.kind
  request := some c.request
  processId := c.processId.map some
  processName := c.processName.map some
  transport := c.transport.map some
  checkForDevCert := c.checkForDevCert.map some
  serverReadyAction := c.serverReadyAction.map some
  targetArchitecture := c.targetArchitecture.map some
  extra := extra

theorem Draft.finish_ofConfiguration (c : Configuration) :
    (Draft.ofConfiguration c c.extra).finish = c := by
  simp only [Draft.finish, Draft.ofConfiguration, getD_map_some, Option.getD_some]

/-- A member whose name is no field is an extra one. -/
theorem take_of_notMem {name : String} (other : name ∉ fieldNames) (room : Nat) (d : Draft) :
    take room name d = (do
      colon
      let v ← value room
      pure { d with extra := d.extra.insert name v }) := by
  simp only [fieldNames, List.mem_cons, List.not_mem_nil, or_false, not_or] at other
  obtain ⟨h1, h2, h3, h4, h5, h6, h7, h8, h9⟩ := other
  unfold take
  split
  · exact absurd rfl h1
  · exact absurd rfl h2
  · exact absurd rfl h3
  · exact absurd rfl h4
  · exact absurd rfl h5
  · exact absurd rfl h6
  · exact absurd rfl h7
  · exact absurd rfl h8
  · exact absurd rfl h9
  · rfl

/-- A value that stands for itself is read as what it was. -/
theorem reads_optional_value {room : Nat} {v : Json} (kept : v ≠ .null ∧ Fits room v)
    (whole : v.isWhole = true) : Reads (optional (value room)) v (some v) :=
  (Reads.value kept.2 whole).optional (isWhole_of_eq_number whole) kept.1

theorem takes_fieldMembers (room : Nat) {c : Configuration} (stable : c.Stable (room + 3))
    (whole : c.isWhole = true) :
    Takes (take (room + 3)) {} c.fieldMembers (Draft.ofConfiguration c []) := by
  simp only [isWhole, Bool.and_eq_true, Option.all_eq_true] at whole
  obtain ⟨⟨wholeId, wholeAction⟩, -⟩ := whole
  have word : Reads readRequest (.string c.request.word) c.request := by
    have word := (Reads.string c.request.word).andThen Request.ofWord
    rwa [stable.request] at word
  have name : Takes (take (room + 3)) {} _ _ :=
    .member (fun x (d : Draft) => { d with name := x }) "name" _ rfl (.string c.name)
  have kind := name.append
    (.member (fun x (d : Draft) => { d with kind := x }) "type" _ rfl (.string c.kind))
  have request := kind.append
    (.member (fun x (d : Draft) => { d with request := x }) "request" _ rfl word)
  have processId := request.append
    (.optionalValue (fun x (d : Draft) => { d with processId := x }) "processId" c.processId _ rfl
      rfl fun v there => reads_optional_value (stable.processId v there) (wholeId v there))
  have processName := processId.append
    (.optionalMember (fun x (d : Draft) => { d with processName := x }) "processName"
      c.processName _ rfl rfl fun s _ => Reads.optional_string s)
  have transport := processName.append
    (.optionalMember (fun x (d : Draft) => { d with transport := x }) "pipeTransport" c.transport _
      rfl rfl fun t there => Transport.reads_optional _ (stable.transport t there))
  have checkForDevCert := transport.append
    (.optionalMember (fun x (d : Draft) => { d with checkForDevCert := x }) "checkForDevCert"
      c.checkForDevCert _ rfl rfl fun b _ => Reads.optional_boolean b)
  have serverReadyAction := checkForDevCert.append
    (.optionalValue (fun x (d : Draft) => { d with serverReadyAction := x }) "serverReadyAction"
      c.serverReadyAction _ rfl rfl fun v there =>
        reads_optional_value (stable.serverReadyAction v there) (wholeAction v there))
  exact serverReadyAction.append
    (.optionalMember (fun x (d : Draft) => { d with targetArchitecture := x })
      "targetArchitecture" c.targetArchitecture _ rfl rfl fun s _ => Reads.optional_string s)

theorem takes_extra (room : Nat) {c : Configuration} (stable : c.Stable room)
    (whole : c.isWhole = true) :
    Takes (take room) (Draft.ofConfiguration c []) c.extra
      (Draft.ofConfiguration c c.extra) := by
  simp only [isWhole, Bool.and_eq_true, membersWhole_iff] at whole
  have takes : Takes (take room) (Draft.ofConfiguration c [])
      (c.extra.map fun member => (member.1, member.2)) (Draft.ofConfiguration c c.extra) :=
    .insert id (Draft.ofConfiguration c) [] c.extra stable.extra_sorted
      (fun member there _ => take_of_notMem (stable.extra_names member there) _ _)
      fun member there => Reads.value (stable.extra_fits member there) (whole.2 member there)
  rwa [List.map_id'] at takes

/-- A stable configuration is read as what it was. -/
theorem reads_reader (room : Nat) {c : Configuration} (stable : c.Stable (room + 3))
    (whole : c.isWhole = true) : Reads (Configuration.reader (room + 4)) c.toJson c := by
  have takes := (takes_fieldMembers room stable whole).append (takes_extra _ stable whole)
  exact Reads.objectRecord fun rest => Runs.fields takes (Draft.finish_ofConfiguration c) rest

end Configuration

namespace LaunchFile

/-- All numbers of a launch file are whole. -/
def isWhole (f : LaunchFile) : Bool :=
  f.configurations.all Configuration.isWhole

/-- A launch file whose configurations are stable is read as what it was. -/
theorem reads_reader {f : LaunchFile}
    (stable : ∀ c ∈ f.configurations, c.Stable configurationRoom) (whole : f.isWhole = true) :
    Reads (LaunchFile.reader maxDepth) f.toJson f := by
  have each : ∀ c ∈ f.configurations, Reads (Configuration.reader 125) c.toJson c ∧
      ∀ n, c.toJson = .number n → n.isWhole = true := fun c there =>
    ⟨Configuration.reads_reader 121 (stable c there) (List.all_eq_true.mp whole c there), nofun⟩
  have version : Takes (take 126) {} _ _ :=
    .optionalMember (fun x (d : Draft) => { d with version := x }) "version" f.version _ rfl rfl
      fun s _ => Reads.optional_string s
  have configurations := version.append
    (.member (fun x (d : Draft) => { d with configurations := x }) "configurations" _ rfl
      (Reads.list Configuration.toJson each))
  have finish : Draft.finish
      { version := f.version.map some, configurations := some f.configurations } = f := by
    simp only [Draft.finish, getD_map_some, Option.getD_some]
  exact Reads.record fun rest => Runs.fields configurations finish rest

end LaunchFile

/-! ### Launch files in use -/

namespace Configuration

/-- A change leaves the numbers of a configuration whole. -/
theorem isWhole_of_step {c d : Configuration} (step : Step c d) (whole : c.isWhole = true) :
    d.isWhole = true := by
  refine step.induction (P := fun c => c.isWhole = true) ?_ ?_ whole
  · intro c p host whole
    rw [withProcess_eq]
    simp only [isWhole, Bool.and_eq_true] at whole ⊢
    exact ⟨⟨rfl, whole.1.2⟩, whole.2⟩
  · intro c host whole
    rw [withDevCertDefault_eq]
    exact whole

/-- The fields are written in one order, those that are not set left out. -/
theorem names_fieldMembers (c : Configuration) :
    (c.fieldMembers.map Prod.fst).Sublist fieldNames := by
  have optional (name : String) (v : Option Json) :
      ((optionalMember name v).map Prod.fst).Sublist [name] := by
    cases v with
    | none => exact List.nil_sublist _
    | some v => exact List.Sublist.refl _
  simp only [fieldMembers, List.map_append]
  exact ((((((List.Sublist.refl ["name", "type", "request"]).append (optional _ _)).append
    (optional _ _)).append (optional _ _)).append (optional _ _)).append (optional _ _)).append
    (optional _ _)

/-- A stable configuration is written as an object that has each name once. -/
theorem Stable.nodup_names {room : Nat} {c : Configuration} (stable : c.Stable room) :
    ((c.fieldMembers ++ c.extra).map Prod.fst).Nodup := by
  rw [List.map_append]
  refine List.nodup_append.mpr ⟨?_, stable.extra_sorted.nodup, ?_⟩
  · exact (names_fieldMembers c).nodup (by decide)
  · rintro name field other there rfl
    obtain ⟨member, extra, rfl⟩ := List.mem_map.mp there
    exact stable.extra_names member extra ((names_fieldMembers c).subset field)

end Configuration

/-- A launch file that has been read and whose configurations have been changed in any way since is
written with each name once, and is read from its text as what it is. -/
theorem LaunchFile.parse_compact_of_reaches {text : String} {f g : LaunchFile}
    (parsed : parse text = .ok f) (whole : f.isWhole = true) (reaches : f.Reaches g) :
    (∀ c ∈ g.configurations,
      (∃ members, c.toJson = .object members ∧ (members.map Prod.fst).Nodup) ∧
        ∀ member ∈ c.extra, member.1 ∉ Configuration.fieldNames) ∧
      parse g.toJson.compact = .ok g := by
  have stable := reaches.forall (stable_of_parse parsed) fun step stable =>
    Configuration.Stable.step stable step
  have whole : g.isWhole = true :=
    List.all_eq_true.mpr (reaches.forall (List.all_eq_true.mp whole) Configuration.isWhole_of_step)
  refine ⟨fun c there => ⟨⟨_, rfl, (stable c there).nodup_names⟩, (stable c there).extra_names⟩, ?_⟩
  have reads := reads_reader stable whole [] nofun
  rw [List.append_nil] at reads
  have run : (LaunchFile.reader maxDepth).run g.toJson.compact = .ok g :=
    Runs.run (by rwa [compact, String.toList_ofList])
  rw [parse, Json.Commented.strip_compact, run]
  rfl

/-- A file in the form of arrays, with a comment and a comma too many. Its configuration is given a
process. -/
theorem LaunchFile.parse_compact_of_reaches_attach :
    let f : LaunchFile := ⟨none, [{ request := .attach, extra := [("a", .number (.integer 7))] }]⟩
    let g : LaunchFile := ⟨none, f.configurations.map (·.withProcess ⟨4, "app", "app", 0⟩ {})⟩
    parse "[null,[\x7b\"request\":\"attach\",\"a\":7,/**/\x7d]]" = .ok f ∧ f.isWhole = true ∧
      f.Reaches g ∧ parse g.toJson.compact = .ok g := by
  intro f g
  have parsed : parse "[null,[\x7b\"request\":\"attach\",\"a\":7,/**/\x7d]]" = .ok f := rfl
  have whole : f.isWhole = true := rfl
  have reaches : f.Reaches g := ⟨rfl, .cons (.single (.apply _ _ _)) .nil⟩
  exact ⟨parsed, whole, reaches, (parse_compact_of_reaches parsed whole reaches).2⟩

end RemoteAttach
