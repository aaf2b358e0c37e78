import RemoteAttach.Proofs.Launch.Interpreted

/-! What is left of the members of a transport that is read and written back. Neither a transport nor
its sections keep the members that they do not know. -/

namespace RemoteAttach

open RemoteAttach.Json (Fits)
open RemoteAttach.Json.Reader

/-! ### Records that are written -/

/-- The members of the fields that have a value. -/
def optionalMembers (fields : List (String × Option Json)) : Members Json :=
  fields.flatMap fun field => optionalMember field.1 field.2

theorem names_optionalMembers (fields : List (String × Option Json)) :
    ((optionalMembers fields).map Prod.fst).Sublist (fields.map Prod.fst) := by
  induction fields with
  | nil => exact List.nil_sublist _
  | cons field fields ih =>
    obtain ⟨name, v?⟩ := field
    rw [optionalMembers, List.flatMap_cons, List.map_append]
    cases v? with
    | none => exact ih.cons _
    | some v => exact ih.cons_cons _

theorem lookup_optionalMember (name other : String) (v? : Option Json) :
    (optionalMember name v?).lookup other = if name = other then v? else none := by
  cases v? with
  | none => exact (ite_self none).symm
  | some v => exact Members.lookup_cons (name, v) [] other

theorem lookup_optionalMembers {fields : List (String × Option Json)}
    (nodup : (fields.map Prod.fst).Nodup) (name : String) :
    (optionalMembers fields).lookup name = (fields.lookup name).join := by
  induction fields with
  | nil => rfl
  | cons field fields ih =>
    obtain ⟨new, nodup⟩ := List.nodup_cons.mp nodup
    have all : optionalMembers (field :: fields) =
        optionalMember field.1 field.2 ++ optionalMembers fields := rfl
    rw [all, List.lookup_append, lookup_optionalMember, ih nodup, Members.lookup_cons]
    split
    · rename_i same
      rw [← same, Members.lookup_eq_none_iff.mpr new]
      exact Option.or_none
    · rfl

namespace Json

/-- A record is written as the given object if each of its fields and extra members is there. -/
theorem ordered_record {fields : List (String × Option Json)} {extra target : Members Json}
    (nodup : (fields.map Prod.fst).Nodup) (extra_nodup : (extra.map Prod.fst).Nodup)
    (extra_names : ∀ member ∈ extra, member.1 ∉ fields.map Prod.fst) (sorted : target.Sorted)
    (known : ∀ field ∈ fields, field.2.map ordered = target.lookup field.1)
    (other : ∀ name ∉ fields.map Prod.fst, (extra.lookup name).map ordered = target.lookup name) :
    (object (optionalMembers fields ++ extra)).ordered = object target := by
  have names := names_optionalMembers fields
  refine ordered_object ?_ sorted fun name => ?_
  · rw [List.map_append]
    refine List.nodup_append.mpr ⟨names.nodup nodup, extra_nodup, ?_⟩
    rintro name field _ there rfl
    obtain ⟨member, inside, rfl⟩ := List.mem_map.mp there
    exact extra_names member inside (names.subset field)
  · rw [List.lookup_append, lookup_optionalMembers nodup]
    by_cases there : name ∈ fields.map Prod.fst
    · obtain ⟨⟨name, v?⟩, field, rfl⟩ := List.mem_map.mp there
      have none_ : extra.lookup name = none := Members.lookup_eq_none_iff.mpr fun there => by
        obtain ⟨member, extra, rfl⟩ := List.mem_map.mp there
        exact extra_names member extra (List.mem_map_of_mem field)
      rw [none_, Option.or_none, Members.lookup_of_mem nodup field]
      exact known _ field
    · rw [Members.lookup_eq_none_iff.mpr there]
      exact other name there

/-- An optional field is written as what is left of the member that it stands for. -/
theorem ordered_field {α : Type} {R : α → Json → Prop} {toJson : α → Json}
    {change : Json → Option Json} {x?? : Option (Option α)} {v? : Option Json}
    (stands : Option.Rel (OrNull R) x?? v?) (null : change .null = none)
    (value : ∀ x ∈ x??.getD none, ∀ v ∈ v?, R x v → change v = some (toJson x).ordered) :
    ((x??.getD none).map toJson).map ordered = v?.bind change := by
  cases stands with
  | none => rfl
  | @some x? v related =>
    cases x? with
    | none =>
      obtain rfl : v = .null := related
      exact null.symm
    | some x => exact (value x rfl v rfl related).symm

/-- A record that is written as what is left of its members is what is left of the object. -/
theorem ordered_ofMembers {α : Type} {R : α → Members Json → Prop} {written : Json}
    {change : String → Json → Option Json} {x : α} {v : Json} (stands : OfMembers R x v)
    (named : v.isArray = false)
    (object : ∀ members, v = .object members → R x members →
      written.ordered = .object (Members.amend change members)) :
    v.unlessNull.map (amend change) = some written.ordered := by
  cases v with
  | object members => exact congrArg some (object members rfl stands).symm
  | array items => cases named
  | _ => exact stands.elim

end Json

theorem PipeArgs.ordered_toJson (args : PipeArgs) : args.toJson.ordered = args.toJson := by
  cases args with
  | line fragment => rfl
  | list tokens =>
    refine congrArg Json.array ?_
    rw [Json.orderedItems_eq, List.map_map]
    rfl

theorem PipeArgs.unlessNull_toJson (args : PipeArgs) :
    args.toJson.unlessNull = some args.toJson.ordered := by
  rw [ordered_toJson]
  cases args <;> rfl

/-! ### Override sections -/

namespace PipeOverride

/-- The members that an override section interprets. -/
def fieldNames : List String := ["pipeProgram", "pipeArgs"]

/-- What is left of a member of an override section. One that is interpreted stays unless it is null;
of the others `unknown` says whether they stay. -/
def rewrite (unknown : Bool) (name : String) (v : Json) : Option Json :=
  if name ∈ fieldNames then v.unlessNull else if unknown then some v else none

/-- A section interprets all its members. -/
def interpretsAll (members : Members Json) : Bool :=
  members.all fun member => member.1 ∈ fieldNames

/-- The fields of an override section, with their values. -/
def fields (o : PipeOverride) : List (String × Option Json) :=
  [("pipeProgram", o.program.map .string), ("pipeArgs", o.args.map PipeArgs.toJson)]

theorem toJson_eq (o : PipeOverride) : o.toJson = .object (optionalMembers o.fields ++ []) := by
  simp [toJson, optionalMembers, fields]

theorem rewrite_of_mem {name : String} (known : name ∈ fieldNames) (unknown : Bool) :
    rewrite unknown name = Json.unlessNull :=
  funext fun _ => if_pos known

theorem rewrite_of_notMem {name : String} (other : name ∉ fieldNames) (unknown : Bool) :
    rewrite unknown name = fun v => if unknown then some v else none :=
  funext fun _ => if_neg other

/-- A section that stands for an object is written as what is left of its members. -/
theorem ordered_toJson {o : PipeOverride} {members : Members Json} (stands : o.StandsFor members)
    (sorted : members.Sorted) : o.toJson.ordered = .object (members.amend (rewrite false)) := by
  obtain ⟨d, ⟨program, args⟩, rfl⟩ := stands
  rw [toJson_eq]
  refine Json.ordered_record (show fieldNames.Nodup by decide) .nil nofun (sorted.amend _)
    (fun field there => ?_) fun name other => ?_
  · rw [Members.lookup_amend sorted.nodup, rewrite_of_mem (List.mem_map_of_mem there)]
    simp only [fields, List.mem_cons, List.not_mem_nil, or_false] at there
    rcases there with rfl | rfl
    · exact Json.ordered_field program rfl (by rintro x - v - rfl; rfl)
    · exact Json.ordered_field args rfl (by rintro x - v - rfl; exact x.unlessNull_toJson)
  · rw [Members.lookup_amend sorted.nodup, rewrite_of_notMem other]
    exact (Option.bind_fun_none _).symm

/-- Members that a section does not interpret make a difference. -/
theorem amend_rewrite_iff {members : Members Json} (sorted : members.Sorted) :
    members.amend (rewrite true) = members.amend (rewrite false) ↔ interpretsAll members = true := by
  rw [Members.amend_eq_amend_iff sorted.nodup, interpretsAll, List.all_eq_true]
  refine forall₂_congr fun member there => ?_
  by_cases known : member.1 ∈ fieldNames <;> simp [rewrite, known]

end PipeOverride

/-! ### Transports -/

namespace Transport

/-- The members of a transport that are override sections. -/
def sectionNames : List String := ["windows", "osx", "linux"]

/-- The members that a transport interprets. -/
def fieldNames : List String :=
  ["pipeProgram", "pipeArgs", "pipeCwd", "pipeEnv", "quoteArgs", "debuggerPath"] ++ sectionNames

/-- What is left of a member of a transport. One that is interpreted stays unless it is null, or an
environment without members; of the others, also of those in the sections, `unknown` says whether
they stay. -/
def rewrite (unknown : Bool) (name : String) (v : Json) : Option Json :=
  if name ∈ sectionNames then v.unlessNull.map (Json.amend (PipeOverride.rewrite unknown))
  else if name = "pipeEnv" then v.unlessEmpty
  else if name ∈ fieldNames then v.unlessNull
  else if unknown then some v
  else none

/-- A transport and its sections interpret all their members. -/
def interpretsAll (members : Members Json) : Bool :=
  members.all fun member => member.1 ∈ fieldNames &&
    (member.1 ∉ sectionNames || PipeOverride.interpretsAll member.2.members)

/-- Neither for a transport nor for one of its sections an array of its fields is given. -/
def givenByName (v : Json) : Bool :=
  !v.isArray && v.members.all fun member => member.1 ∉ sectionNames || !member.2.isArray

/-- The value that stands for an environment. -/
def envJson (env : Members String) : Json :=
  .object (env.map fun entry => (entry.1, .string entry.2))

/-- The fields of a transport, with their values. -/
def fields (t : Transport) : List (String × Option Json) :=
  [("pipeProgram", t.program.map .string), ("pipeArgs", t.args.map PipeArgs.toJson),
    ("pipeCwd", t.cwd.map .string), ("pipeEnv", (envJson t.env).unlessEmpty),
    ("quoteArgs", t.quoteArgs.map .bool), ("debuggerPath", t.debuggerPath.map .string),
    ("windows", t.windows.map PipeOverride.toJson), ("osx", t.osx.map PipeOverride.toJson),
    ("linux", t.linux.map PipeOverride.toJson)]

theorem toJson_eq (t : Transport) : t.toJson = .object (optionalMembers t.fields ++ []) := by
  obtain ⟨program, args, cwd, env, quoteArgs, debuggerPath, windows, osx, linux⟩ := t
  cases env <;> simp [toJson, optionalMembers, fields, envJson, Json.unlessEmpty, optionalMember]

theorem rewrite_of_mem_sectionNames {name : String} (known : name ∈ sectionNames)
    (unknown : Bool) : rewrite unknown name =
      fun v => v.unlessNull.map (Json.amend (PipeOverride.rewrite unknown)) :=
  funext fun _ => if_pos known

theorem rewrite_of_mem {name : String} (known : name ∈ fieldNames)
    (plain : name ∉ "pipeEnv" :: sectionNames) (unknown : Bool) :
    rewrite unknown name = Json.unlessNull := by
  obtain ⟨noEnv, noSection⟩ := not_or.mp (mt List.mem_cons.mpr plain)
  funext v
  rw [rewrite, if_neg noSection, if_neg noEnv, if_pos known]

theorem rewrite_of_notMem {name : String} (other : name ∉ fieldNames) (unknown : Bool) :
    rewrite unknown name = fun v => if unknown then some v else none := by
  have noSection : name ∉ sectionNames := fun known => other (List.mem_append_right _ known)
  have noEnv : name ≠ "pipeEnv" := fun same => other (same ▸ by decide)
  funext v
  rw [rewrite, if_neg noSection, if_neg noEnv, if_neg other]

theorem ordered_envJson {env? : Option (Members String)} {v? : Option Json}
    (stands : Option.Rel (fun env v => v = envJson env) env? v?)
    (read : ∀ v ∈ v?, v.ordered = v) :
    (envJson (env?.getD [])).unlessEmpty.map Json.ordered = v?.bind Json.unlessEmpty := by
  cases stands with
  | none => rfl
  | @some env v related =>
    subst related
    have same := read _ rfl
    rw [Option.getD_some, Option.bind_some]
    generalize envJson env = v at same
    unfold Json.unlessEmpty
    split
    · rfl
    · exact congrArg some same

section Fields

variable {name : String} {members : Members Json}

/-- A field other than a section has the value of its member, unless that is null. -/
theorem ordered_plain {α : Type} {toJson : α → Json} {x?? : Option (Option α)}
    (known : name ∈ fieldNames) (plain : name ∉ "pipeEnv" :: sectionNames)
    (stands : Option.Rel (OrNull fun x v => v = toJson x) x?? (members.lookup name))
    (value : ∀ x, (toJson x).unlessNull = some (toJson x).ordered) :
    ((x??.getD none).map toJson).map Json.ordered =
      (members.lookup name).bind (rewrite false name) := by
  rw [rewrite_of_mem known plain]
  exact Json.ordered_field stands rfl (by rintro x - v - rfl; exact value x)

/-- A section has what is left of the members that it is read from. -/
theorem ordered_section {o?? : Option (Option PipeOverride)} {room : Nat}
    (fits : Fits room (.object members)) (named : givenByName (.object members) = true)
    (known : name ∈ sectionNames)
    (stands : Option.Rel (OrNull (OfMembers PipeOverride.StandsFor)) o?? (members.lookup name)) :
    ((o??.getD none).map PipeOverride.toJson).map Json.ordered =
      (members.lookup name).bind (rewrite false name) := by
  rw [rewrite_of_mem_sectionNames known]
  refine Json.ordered_field stands rfl fun o _ v found stands => ?_
  have there := Members.mem_of_lookup found
  obtain ⟨room, fits⟩ := fits.of_mem_members _ there
  have noArray : v.isArray = false := by
    simp only [givenByName, Bool.and_eq_true, List.all_eq_true] at named
    simpa [known] using named.2 _ there
  refine Json.ordered_ofMembers stands noArray ?_
  rintro inside rfl stands
  exact PipeOverride.ordered_toJson stands fits.sorted_members

end Fields

/-- A transport that stands for an object is written as what is left of its members. -/
theorem ordered_toJson {t : Transport} {members : Members Json} {room : Nat}
    (stands : t.StandsFor members) (fits : Fits room (.object members))
    (named : givenByName (.object members) = true) :
    t.toJson.ordered = .object (members.amend (rewrite false)) := by
  obtain ⟨d, stands, rfl⟩ := stands
  have sorted : members.Sorted := fits.sorted_members
  rw [toJson_eq]
  refine Json.ordered_record (show fieldNames.Nodup by decide) .nil nofun (sorted.amend _) ?_
    fun name other => ?_
  · have env : ∀ v ∈ members.lookup "pipeEnv", v.ordered = v := fun v found =>
      have ⟨_, fits⟩ := fits.of_mem_members _ (Members.mem_of_lookup found)
      fits.ordered_eq
    simp only [fields, List.forall_mem_cons, List.not_mem_nil, false_implies, implies_true, and_true,
      Members.lookup_amend sorted.nodup]
    exact ⟨ordered_plain (by decide) (by decide) stands.program fun _ => rfl,
      ordered_plain (by decide) (by decide) stands.args PipeArgs.unlessNull_toJson,
      ordered_plain (by decide) (by decide) stands.cwd fun _ => rfl,
      ordered_envJson stands.env env,
      ordered_plain (by decide) (by decide) stands.quoteArgs fun _ => rfl,
      ordered_plain (by decide) (by decide) stands.debuggerPath fun _ => rfl,
      ordered_section fits named (by decide) stands.windows,
      ordered_section fits named (by decide) stands.osx,
      ordered_section fits named (by decide) stands.linux⟩
  · rw [Members.lookup_amend sorted.nodup, rewrite_of_notMem other]
    exact (Option.bind_fun_none _).symm

theorem amend_rewrite_iff {members : Members Json} (sorted : members.Sorted)
    (fits : ∀ member ∈ members, ∃ room, Fits room member.2) :
    members.amend (rewrite true) = members.amend (rewrite false) ↔
      interpretsAll members = true := by
  rw [Members.amend_eq_amend_iff sorted.nodup, interpretsAll, List.all_eq_true]
  refine forall₂_congr fun member there => ?_
  obtain ⟨room, fits⟩ := fits member there
  by_cases section_ : member.1 ∈ sectionNames
  · have known : member.1 ∈ fieldNames := List.mem_append_right _ section_
    rw [rewrite_of_mem_sectionNames section_, rewrite_of_mem_sectionNames section_,
      Json.amend_eq_amend_iff, PipeOverride.amend_rewrite_iff fits.sorted_members]
    simp [known, section_]
  · by_cases known : member.1 ∈ fieldNames
    · simp [rewrite, known, section_]
    · simp [rewrite_of_notMem known, known]

end Transport

end RemoteAttach
