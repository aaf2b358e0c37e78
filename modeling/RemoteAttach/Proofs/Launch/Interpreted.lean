import RemoteAttach.Proofs.Json.Concur.Record
import RemoteAttach.Proofs.Launch.Session

/-! What a configuration that is read has to do with the object that it is read from: each of its
fields stands for the member of that name, and its extra members are the members that are no
fields. -/

namespace RemoteAttach

open RemoteAttach.Json.Reader

namespace PipeArgs

theorem map_string_of_mapM {items : List Json} {tokens : List String}
    (read : items.mapM token? = some tokens) : items = tokens.map .string := by
  induction items generalizing tokens with
  | nil =>
    obtain rfl := Option.some.inj read
    rfl
  | cons item items ih =>
    rw [List.mapM_cons, Option.bind_eq_bind, Option.bind_eq_some_iff] at read
    obtain ⟨token, first, rest⟩ := read
    rw [Option.bind_eq_bind, Option.bind_eq_some_iff] at rest
    obtain ⟨tokens', rest, eq⟩ := rest
    obtain rfl := Option.some.inj eq
    cases item with
    | string text =>
      obtain rfl := Option.some.inj first
      rw [ih rest, List.map_cons]
    | _ => cases first

theorem toJson_of_ofJson? {v : Json} {args : PipeArgs} (read : ofJson? v = some args) :
    v = args.toJson := by
  cases v with
  | string fragment =>
    obtain rfl := Option.some.inj read
    rfl
  | array items =>
    obtain ⟨tokens, each, rfl⟩ := Option.map_eq_some_iff.mp read
    exact congrArg Json.array (map_string_of_mapM each)
  | _ => cases read

theorem interprets_reader (room : Nat) :
    Interprets (PipeArgs.reader room) fun args v => v = args.toJson := by
  intro fuel room'
  refine (Interprets.value room fuel room').bind_left fun x v same => ?_
  split
  · rename_i args read
    exact Concur.pure (same ▸ toJson_of_ofJson? read)
  · exact Concur.of_left_fails (Ensures.failUnplaced _ _)

end PipeArgs

namespace PipeOverride

/-- The fields that have been read stand for the members of their names. -/
structure Draft.StandsFor (d : Draft) (members : Members Json) : Prop where
  program : Option.Rel (OrNull fun text v => v = .string text) d.program
    (members.lookup "pipeProgram")
  args : Option.Rel (OrNull fun args v => v = args.toJson) d.args (members.lookup "pipeArgs")

/-- An override section stands for an object with the given members. -/
def StandsFor (o : PipeOverride) (members : Members Json) : Prop :=
  ∃ d : Draft, d.StandsFor members ∧ d.finish = o

theorem interprets_take (room : Nat) (name : String) (d : Draft) (members : Members Json)
    (stands : d.StandsFor members) :
    InterpretsMember (take room name d) fun d v => d.StandsFor (members.insert name v) := by
  obtain ⟨program, args⟩ := stands
  unfold take
  split
  · refine .fieldThen (.optional .string) fun x v related => ?_
    constructor <;> simp [Members.lookup_insert, *]
  · refine .fieldThen (.optional (PipeArgs.interprets_reader room)) fun x v related => ?_
    constructor <;> simp [Members.lookup_insert, *]
  · rename_i h1 h2
    refine InterpretsMember.skipMember.andThen fun _ v _ => ?_
    constructor <;> simp only [Members.lookup_insert, if_neg h1, if_neg h2, program, args]

theorem interprets_reader (room : Nat) :
    Interprets (PipeOverride.reader room) (OfMembers StandsFor) := by
  refine Interprets.record (fun inside fuel room => ?_) fun inside => ?_
  · exact (Concur.foldMembers (interprets_take inside) ⟨.none, .none⟩ fuel room).bind_left
      fun d members stands => Concur.pure ⟨d, stands, rfl⟩
  · refine .anyItem (.optional .string) fun program => ?_
    exact .anyItem (.optional (PipeArgs.interprets_reader inside)) fun args => .pure trivial

end PipeOverride

namespace Transport

/-- The fields that have been read stand for the members of their names. -/
structure Draft.StandsFor (d : Draft) (members : Members Json) : Prop where
  program : Option.Rel (OrNull fun text v => v = .string text) d.program
    (members.lookup "pipeProgram")
  args : Option.Rel (OrNull fun args v => v = args.toJson) d.args (members.lookup "pipeArgs")
  cwd : Option.Rel (OrNull fun text v => v = .string text) d.cwd (members.lookup "pipeCwd")
  env : Option.Rel (fun env v => v = .object (env.map fun entry => (entry.1, .string entry.2)))
    d.env (members.lookup "pipeEnv")
  quoteArgs : Option.Rel (OrNull fun b v => v = .bool b) d.quoteArgs (members.lookup "quoteArgs")
  debuggerPath : Option.Rel (OrNull fun text v => v = .string text) d.debuggerPath
    (members.lookup "debuggerPath")
  windows : Option.Rel (OrNull (OfMembers PipeOverride.StandsFor)) d.windows
    (members.lookup "windows")
  osx : Option.Rel (OrNull (OfMembers PipeOverride.StandsFor)) d.osx (members.lookup "osx")
  linux : Option.Rel (OrNull (OfMembers PipeOverride.StandsFor)) d.linux (members.lookup "linux")

/-- A transport stands for an object with the given members. -/
def StandsFor (t : Transport) (members : Members Json) : Prop :=
  ∃ d : Draft, d.StandsFor members ∧ d.finish = t

theorem interprets_take (room : Nat) (name : String) (d : Draft) (members : Members Json)
    (stands : d.StandsFor members) :
    InterpretsMember (take room name d) fun d v => d.StandsFor (members.insert name v) := by
  obtain ⟨program, args, cwd, env, quoteArgs, debuggerPath, windows, osx, linux⟩ := stands
  have section_ := Interprets.optional (PipeOverride.interprets_reader room)
  unfold take
  split
  · refine .fieldThen (.optional .string) fun x v related => ?_
    constructor <;> simp [Members.lookup_insert, *]
  · refine .fieldThen (.optional (PipeArgs.interprets_reader room)) fun x v related => ?_
    constructor <;> simp [Members.lookup_insert, *]
  · refine .fieldThen (.optional .string) fun x v related => ?_
    constructor <;> simp [Members.lookup_insert, *]
  · refine .fieldThen (.map Json.string .string room) fun x v related => ?_
    constructor <;> simp [Members.lookup_insert, *]
  · refine .fieldThen (.optional .boolean) fun x v related => ?_
    constructor <;> simp [Members.lookup_insert, *]
  · refine .fieldThen (.optional .string) fun x v related => ?_
    constructor <;> simp [Members.lookup_insert, *]
  · refine .fieldThen section_ fun x v related => ?_
    constructor <;> simp [Members.lookup_insert, *]
  · refine .fieldThen section_ fun x v related => ?_
    constructor <;> simp [Members.lookup_insert, *]
  · refine .fieldThen section_ fun x v related => ?_
    constructor <;> simp [Members.lookup_insert, *]
  · rename_i h1 h2 h3 h4 h5 h6 h7 h8 h9
    refine InterpretsMember.skipMember.andThen fun _ v _ => ?_
    constructor <;> simp only [Members.lookup_insert, if_neg h1, if_neg h2, if_neg h3, if_neg h4,
      if_neg h5, if_neg h6, if_neg h7, if_neg h8, if_neg h9, *]

theorem interprets_reader (room : Nat) :
    Interprets (Transport.reader room) (OfMembers StandsFor) := by
  have section_ (room : Nat) := Interprets.optional (PipeOverride.interprets_reader room)
  refine Interprets.record (fun inside fuel room => ?_) fun inside => ?_
  · exact (Concur.foldMembers (interprets_take inside)
      ⟨.none, .none, .none, .none, .none, .none, .none, .none, .none⟩ fuel room).bind_left
      fun d members stands => Concur.pure ⟨d, stands, rfl⟩
  · refine .anyItem (.optional .string) fun program => ?_
    refine .anyItem (.optional (PipeArgs.interprets_reader inside)) fun args => ?_
    refine .anyItem (.optional .string) fun cwd => ?_
    refine .anyItem (.map Json.string .string inside) fun env => ?_
    refine .anyItem (.optional .boolean) fun quoteArgs => ?_
    refine .anyItem (.optional .string) fun debuggerPath => ?_
    refine .anyItem (section_ inside) fun windows => ?_
    refine .anyItem (section_ inside) fun osx => ?_
    exact .anyItem (section_ inside) fun linux => .pure trivial

end Transport

namespace Configuration

/-- The fields that have been read stand for the members of their names, and the extra members are
those that are no fields. -/
structure Draft.StandsFor (d : Draft) (members : Members Json) : Prop where
  name : Option.Rel (fun text v => v = .string text) d.name (members.lookup "name")
  kind : Option.Rel (fun text v => v = .string text) d.kind (members.lookup "type")
  request : Option.Rel (fun request v => v = .string request.word) d.request
    (members.lookup "request")
  processId : Option.Rel (OrNull fun id v => v = id) d.processId (members.lookup "processId")
  processName : Option.Rel (OrNull fun text v => v = .string text) d.processName
    (members.lookup "processName")
  transport : Option.Rel (OrNull (OfMembers Transport.StandsFor)) d.transport
    (members.lookup "pipeTransport")
  checkForDevCert : Option.Rel (OrNull fun b v => v = .bool b) d.checkForDevCert
    (members.lookup "checkForDevCert")
  serverReadyAction : Option.Rel (OrNull fun action v => v = action) d.serverReadyAction
    (members.lookup "serverReadyAction")
  targetArchitecture : Option.Rel (OrNull fun text v => v = .string text) d.targetArchitecture
    (members.lookup "targetArchitecture")
  extra : ∀ name ∉ fieldNames, d.extra.lookup name = members.lookup name

/-- A configuration stands for an object with the given members. -/
def StandsFor (c : Configuration) (members : Members Json) : Prop :=
  ∃ d : Draft, d.StandsFor members ∧ d.finish = c

theorem interprets_readRequest :
    Interprets readRequest fun request v => v = .string request.word :=
  Interprets.string.andThen fun text v same => by rw [same, Request.word_ofWord]

theorem interprets_take (room : Nat) (name : String) (d : Draft) (members : Members Json)
    (stands : d.StandsFor members) :
    InterpretsMember (take room name d) fun d v => d.StandsFor (members.insert name v) := by
  obtain ⟨h1, h2, h3, h4, h5, h6, h7, h8, h9, extra⟩ := stands
  have others {field : String} (known : field ∈ fieldNames) (v : Json) (name : String)
      (other : name ∉ fieldNames) : d.extra.lookup name = (members.insert field v).lookup name := by
    have differ : field ≠ name := fun same => other (same ▸ known)
    rw [Members.lookup_insert, if_neg differ, extra name other]
  have value := Interprets.optional (Interprets.value room)
  have transport := Interprets.optional (Transport.interprets_reader room)
  unfold take
  split
  · refine .fieldThen .string fun x v related => ?_
    refine ⟨?_, ?_, ?_, ?_, ?_, ?_, ?_, ?_, ?_, others (by decide) v⟩ <;>
      simp [Members.lookup_insert, *]
  · refine .fieldThen .string fun x v related => ?_
    refine ⟨?_, ?_, ?_, ?_, ?_, ?_, ?_, ?_, ?_, others (by decide) v⟩ <;>
      simp [Members.lookup_insert, *]
  · refine .fieldThen interprets_readRequest fun x v related => ?_
    refine ⟨?_, ?_, ?_, ?_, ?_, ?_, ?_, ?_, ?_, others (by decide) v⟩ <;>
      simp [Members.lookup_insert, *]
  · refine .fieldThen value fun x v related => ?_
    refine ⟨?_, ?_, ?_, ?_, ?_, ?_, ?_, ?_, ?_, others (by decide) v⟩ <;>
      simp [Members.lookup_insert, *]
  · refine .fieldThen (.optional .string) fun x v related => ?_
    refine ⟨?_, ?_, ?_, ?_, ?_, ?_, ?_, ?_, ?_, others (by decide) v⟩ <;>
      simp [Members.lookup_insert, *]
  · refine .fieldThen transport fun x v related => ?_
    refine ⟨?_, ?_, ?_, ?_, ?_, ?_, ?_, ?_, ?_, others (by decide) v⟩ <;>
      simp [Members.lookup_insert, *]
  · refine .fieldThen (.optional .boolean) fun x v related => ?_
    refine ⟨?_, ?_, ?_, ?_, ?_, ?_, ?_, ?_, ?_, others (by decide) v⟩ <;>
      simp [Members.lookup_insert, *]
  · refine .fieldThen value fun x v related => ?_
    refine ⟨?_, ?_, ?_, ?_, ?_, ?_, ?_, ?_, ?_, others (by decide) v⟩ <;>
      simp [Members.lookup_insert, *]
  · refine .fieldThen (.optional .string) fun x v related => ?_
    refine ⟨?_, ?_, ?_, ?_, ?_, ?_, ?_, ?_, ?_, others (by decide) v⟩ <;>
      simp [Members.lookup_insert, *]
  · rename_i n1 n2 n3 n4 n5 n6 n7 n8 n9
    refine InterpretsMember.colon ((Interprets.value room).andThen fun x v same => ?_)
    refine ⟨?_, ?_, ?_, ?_, ?_, ?_, ?_, ?_, ?_, fun other known => ?_⟩
    · rwa [Members.lookup_insert, if_neg n1]
    · rwa [Members.lookup_insert, if_neg n2]
    · rwa [Members.lookup_insert, if_neg n3]
    · rwa [Members.lookup_insert, if_neg n4]
    · rwa [Members.lookup_insert, if_neg n5]
    · rwa [Members.lookup_insert, if_neg n6]
    · rwa [Members.lookup_insert, if_neg n7]
    · rwa [Members.lookup_insert, if_neg n8]
    · rwa [Members.lookup_insert, if_neg n9]
    · rw [Members.lookup_insert, Members.lookup_insert, same, extra other known]

/-- A configuration stands for an object. -/
def StandsForObject (c : Configuration) (v : Json) : Prop :=
  ∃ members, v = .object members ∧ c.StandsFor members

theorem interprets_reader (room : Nat) :
    Interprets (Configuration.reader room) StandsForObject := by
  refine Interprets.objectRecord fun inside fuel room => ?_
  refine (Concur.foldMembers (interprets_take inside) ⟨.none, .none, .none, .none, .none, .none, .none,
    .none, .none, fun _ _ => rfl⟩ fuel room).bind_left fun d members stands => ?_
  exact Concur.pure ⟨d, stands, rfl⟩

/-- A text that is read as a configuration stands for what it is read as when any value will do. -/
theorem standsForObject_of_parse {text : String} {c : Configuration} {v : Json}
    (parsed : parse text = .ok c) (read : Json.parse text = .ok v) : c.StandsForObject v :=
  have reads : Concur Anywhere (Configuration.reader maxDepth) (value maxDepth) StandsForObject :=
    fun cur => interprets_reader maxDepth (2 * cur.bound + 2) maxDepth cur
  reads.run parsed read

end Configuration

namespace LaunchFile

/-- The values for the configurations in the value of a launch file: those of the member of that
name, or of the second item. -/
def configurationValues : Json → List Json
  | .object members => (members.lookup "configurations").elim [] Json.items
  | .array items => items.tail.head?.elim [] Json.items
  | _ => []

/-- The configurations of a launch file stand for objects in its value. -/
def StandsFor (f : LaunchFile) (v : Json) : Prop :=
  List.Forall₂ Configuration.StandsForObject f.configurations (configurationValues v)

/-- The configurations that have been read stand for the member of that name. -/
def Draft.StandsFor (d : Draft) (members : Members Json) : Prop :=
  Option.Rel (fun cs v => ∃ items, v = .array items ∧
    List.Forall₂ Configuration.StandsForObject cs items) d.configurations
    (members.lookup "configurations")

theorem Draft.StandsFor.finish {d : Draft} {members : Members Json} (stands : d.StandsFor members) :
    d.finish.StandsFor (.object members) := by
  obtain ⟨version, configurations⟩ := d
  show List.Forall₂ _ (configurations.getD [])
    ((members.lookup "configurations").elim [] Json.items)
  unfold Draft.StandsFor at stands
  generalize members.lookup "configurations" = v? at stands ⊢
  cases stands with
  | none => exact .nil
  | some related =>
    obtain ⟨items, rfl, each⟩ := related
    exact each

theorem interprets_take (room : Nat) (name : String) (d : Draft) (members : Members Json)
    (stands : d.StandsFor members) :
    InterpretsMember (take room name d) fun d v => d.StandsFor (members.insert name v) := by
  unfold take
  split
  · refine .fieldThen (.optional .string) fun version v _ => ?_
    simpa [Draft.StandsFor, Members.lookup_insert] using stands
  · refine .fieldThen (.list Configuration.interprets_reader room) fun cs v related => ?_
    simpa [Draft.StandsFor, Members.lookup_insert] using related
  · rename_i h1 h2
    refine InterpretsMember.skipMember.andThen fun _ v _ => ?_
    simpa only [Draft.StandsFor, Members.lookup_insert, if_neg h2] using stands

theorem interprets_reader (room : Nat) : Interprets (LaunchFile.reader room) StandsFor := by
  have either : Interprets (LaunchFile.reader room)
      (OfRecord (fun f members => f.StandsFor (.object members)) fun f items =>
        f.StandsFor (.array items)) := by
    refine Interprets.record (fun inside fuel room => ?_) fun inside => ?_
    · have start : Draft.StandsFor {} [] := .none
      exact (Concur.foldMembers (interprets_take inside) start fuel room).bind_left
        fun d members stands => Concur.pure stands.finish
    · refine .nextItem (.optional .string) (K := fun _ f items =>
          List.Forall₂ Configuration.StandsForObject f.configurations
            (items.head?.elim [] Json.items)) (fun version => ?_) (fun _ _ _ _ _ rest => rest)
          fun _ rest => rest
      refine .nextItem (.list Configuration.interprets_reader inside)
        (K := fun cs? f _ => f.configurations = cs?.getD []) (fun cs? => .pure rfl) ?_ ?_
      · rintro cs v f items ⟨values, rfl, each⟩ rfl
        exact each
      · rintro f none
        exact none ▸ .nil
  intro fuel room'
  refine (either fuel room').weaken fun f v related => ?_
  cases v with
  | object members => exact related
  | array items => exact related
  | _ => exact related.elim

/-- A text that is read as a launch file stands for what it is read as, without its comments, when
any value will do. -/
theorem standsFor_of_parse {text : String} {f : LaunchFile} {v : Json}
    (parsed : parse text = .ok f) (read : Json.parse (Json.Commented.strip text) = .ok v) :
    f.StandsFor v := by
  have reads : Concur Anywhere (LaunchFile.reader maxDepth) (value maxDepth) StandsFor :=
    fun cur => interprets_reader maxDepth (2 * cur.bound + 2) maxDepth cur
  unfold parse at parsed
  cases run : (LaunchFile.reader maxDepth).run (Json.Commented.strip text) with
  | error e =>
    rw [run] at parsed
    cases parsed
  | ok g =>
    rw [run] at parsed
    obtain rfl := Except.ok.inj parsed
    exact reads.run run read

end LaunchFile

end RemoteAttach
