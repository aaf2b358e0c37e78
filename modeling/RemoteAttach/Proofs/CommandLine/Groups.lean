import Mathlib.Data.List.Induction
import RemoteAttach.CommandLine.Options

/-! Arguments are read in groups: an option with its value, a switch, or a path. What is no sequence
of groups is refused, and of the groups for one field the last one counts. -/

namespace RemoteAttach.CommandLine

/-- The options that have a value. -/
inductive Valued where
  | name
  | os
  | pick
  deriving DecidableEq, Repr

def Valued.flag : Valued → String
  | name => "--name"
  | os => "--os"
  | pick => "--pick"

/-- The options that have no value. -/
inductive Switch where
  | noQuote
  | list
  | checkDevCerts
  deriving DecidableEq, Repr

def Switch.flag : Switch → String
  | noQuote => "--no-quote"
  | list => "--list"
  | checkDevCerts => "--check-dev-certs"

/-- What a group of arguments is about. -/
inductive Field where
  | valued (option : Valued)
  | switch (option : Switch)
  | path
  deriving DecidableEq, Repr

/-- Arguments that are taken together. A value may be any text. -/
inductive Group where
  | valued (option : Valued) (value : String)
  | switch (option : Switch)
  | path (text : String) (plain : text.startsWith "-" = false)
  deriving DecidableEq, Repr

namespace Group

def args : Group → List String
  | valued option value => [option.flag, value]
  | switch option => [option.flag]
  | path text _ => [text]

def field : Group → Field
  | valued option _ => .valued option
  | switch option => .switch option
  | path _ _ => .path

theorem args_length_pos (group : Group) : 0 < group.args.length := by
  cases group <;> simp [args]

/-- The value or the path of a group. -/
def text? : Group → Option String
  | valued _ value => some value
  | switch _ => none
  | path text _ => some text

/-- The options after a group. -/
def set (o : Options) : Group → Options
  | valued .name value => { o with name := some value }
  | valued .os value => { o with os := some value }
  | valued .pick value => { o with pick := some value }
  | switch .noQuote => { o with noQuote := true }
  | switch .list => { o with list := true }
  | switch .checkDevCerts => { o with checkDevCerts := true }
  | path text _ => { o with path := some text }

end Group

/-- The arguments of groups, one after the other. -/
def render (groups : List Group) : List String :=
  groups.flatMap Group.args

/-- The text of the last group for a field. -/
def lastText (groups : List Group) (field : Field) : Option String :=
  (groups.filter (·.field = field)).getLast?.bind Group.text?

/-- There is a group for a field. -/
def occurs (groups : List Group) (field : Field) : Bool :=
  !(groups.filter (·.field = field)).isEmpty

/-- Arguments that begin no group, with the error for them: an option that there is not, or an
option at the end that lacks its value. -/
inductive Refused : List String → OptionError → Prop where
  | unknown {option : String} (rest : List String) (dash : option.startsWith "-" = true)
      (valueless : ∀ known : Valued, option ≠ known.flag)
      (unswitched : ∀ known : Switch, option ≠ known.flag) :
      Refused (option :: rest) (.unknown option)
  | missingValue (option : Valued) : Refused [option.flag] (.missingValue option.flag)

namespace Options

/-- What groups ask for: of each option the value in its last group, of each switch whether it
occurs, and the last path. -/
def ofGroups (groups : List Group) : Options where
  path := lastText groups .path
  name := lastText groups (.valued .name)
  os := lastText groups (.valued .os)
  noQuote := occurs groups (.switch .noQuote)
  list := occurs groups (.switch .list)
  pick := lastText groups (.valued .pick)
  checkDevCerts := occurs groups (.switch .checkDevCerts)

/-- Arguments that ask for given options. -/
def toArgs (o : Options) : List String :=
  let valued (option : Valued) (value : Option String) :=
    value.toList.flatMap ([option.flag, ·])
  let switch (option : Switch) (on : Bool) := if on then [option.flag] else []
  valued .name o.name ++ valued .os o.os ++ valued .pick o.pick ++ switch .noQuote o.noQuote ++
    switch .list o.list ++ switch .checkDevCerts o.checkDevCerts ++ o.path.toList

/-! ### One argument -/

theorem setValue?_flag (o : Options) (option : Valued) (value : String) :
    o.setValue? option.flag value = some ((Group.valued option value).set o) := by
  cases option <;> rfl

theorem setValue?_of_ne {o : Options} {text : String} (other : ∀ known : Valued, text ≠ known.flag)
    (value : String) : o.setValue? text value = none := by
  unfold setValue?
  split
  · exact absurd rfl (other .name)
  · exact absurd rfl (other .os)
  · exact absurd rfl (other .pick)
  · rfl

theorem setSwitch?_flag (o : Options) (option : Switch) :
    o.setSwitch? option.flag = some ((Group.switch option).set o) := by
  cases option <;> rfl

theorem setSwitch?_of_ne {o : Options} {text : String}
    (other : ∀ known : Switch, text ≠ known.flag) : o.setSwitch? text = none := by
  unfold setSwitch?
  split
  · exact absurd rfl (other .noQuote)
  · exact absurd rfl (other .list)
  · exact absurd rfl (other .checkDevCerts)
  · rfl


/-- An argument that is no option with a value is taken alone. -/
theorem take_cons {o : Options} {arg : String} (valueless : ∀ known : Valued, arg ≠ known.flag)
    (rest : List String) :
    o.take (arg :: rest) =
      match o.setSwitch? arg with
      | some o => o.take rest
      | none =>
        if arg.startsWith "-" then .error (.unknown arg)
        else { o with path := some arg }.take rest := by
  cases rest with
  | nil =>
    have unset := setValue?_of_ne (o := o) valueless ""
    cases switched : o.setSwitch? arg <;> simp [take, unset, switched]
  | cons next rest =>
    have unset := setValue?_of_ne (o := o) valueless next
    cases switched : o.setSwitch? arg <;> simp [take, unset, switched]

theorem Valued.startsWith (option : Valued) : option.flag.startsWith "-" = true := by
  cases option <;> decide +kernel

theorem Switch.startsWith (option : Switch) : option.flag.startsWith "-" = true := by
  cases option <;> decide +kernel

/-- One group is taken. -/
theorem take_group (o : Options) (group : Group) (rest : List String) :
    o.take (group.args ++ rest) = (group.set o).take rest := by
  cases group with
  | valued option value =>
    rw [Group.args, List.cons_append, List.cons_append, List.nil_append, take, setValue?_flag]
  | switch option =>
    have valueless : ∀ known : Valued, option.flag ≠ known.flag := by
      intro known
      cases option <;> cases known <;> decide
    rw [Group.args, List.cons_append, List.nil_append, take_cons valueless, setSwitch?_flag]
  | path text plain =>
    have other {flag : String} (dash : flag.startsWith "-" = true) : text ≠ flag := by
      rintro rfl
      rw [dash] at plain
      exact Bool.noConfusion plain
    rw [Group.args, List.cons_append, List.nil_append,
      take_cons fun known => other (Valued.startsWith known),
      setSwitch?_of_ne fun known => other (Switch.startsWith known), plain]
    rfl

/-- What begins no group is refused. -/
theorem take_of_refused (o : Options) {args : List String} {e : OptionError}
    (refused : Refused args e) : o.take args = .error e := by
  cases refused with
  | unknown rest dash valueless unswitched =>
    rw [take_cons valueless, setSwitch?_of_ne unswitched, dash]
    rfl
  | missingValue option => rw [take, setValue?_flag, Option.isSome_some, if_pos rfl]

/-- Arguments begin with a group or are refused. -/
theorem eq_args_append_or_refused (arg : String) (rest : List String) :
    (∃ (group : Group) (later : List String), arg :: rest = group.args ++ later) ∨
      ∃ e, Refused (arg :: rest) e := by
  by_cases valued : ∃ option : Valued, arg = option.flag
  · obtain ⟨option, rfl⟩ := valued
    cases rest with
    | nil => exact .inr ⟨_, .missingValue option⟩
    | cons value rest => exact .inl ⟨.valued option value, rest, rfl⟩
  by_cases switched : ∃ option : Switch, arg = option.flag
  · obtain ⟨option, rfl⟩ := switched
    exact .inl ⟨.switch option, rest, rfl⟩
  cases dash : arg.startsWith "-" with
  | false => exact .inl ⟨.path arg dash, rest, rfl⟩
  | true => exact .inr ⟨_, .unknown rest dash (not_exists.mp valued) (not_exists.mp switched)⟩

/-! ### All arguments -/

theorem take_render (o : Options) (groups : List Group) (rest : List String) :
    o.take (render groups ++ rest) = (groups.foldl Group.set o).take rest := by
  induction groups generalizing o with
  | nil => rfl
  | cons group groups ih =>
    have split : render (group :: groups) ++ rest = group.args ++ (render groups ++ rest) := by
      rw [render, List.flatMap_cons, List.append_assoc, render]
    rw [split, take_group, ih, List.foldl_cons]

theorem ofGroups_concat (groups : List Group) (group : Group) :
    ofGroups (groups ++ [group]) = group.set (ofGroups groups) := by
  cases group with
  | valued option value =>
    cases option <;> simp [ofGroups, lastText, occurs, Group.field, Group.set, Group.text?]
  | switch option =>
    cases option <;> simp [ofGroups, lastText, occurs, Group.field, Group.set]
  | path text plain =>
    simp [ofGroups, lastText, occurs, Group.field, Group.set, Group.text?]

/-- Setting the groups one after the other keeps of each field what the last one gives. -/
theorem foldl_set (groups : List Group) : groups.foldl Group.set {} = ofGroups groups := by
  induction groups using List.reverseRecOn with
  | nil => rfl
  | append_singleton groups group ih =>
    rw [List.foldl_append, ih, List.foldl_cons, List.foldl_nil, ofGroups_concat]

theorem ofArgs_render_append (groups : List Group) (rest : List String) :
    ofArgs (render groups ++ rest) = (ofGroups groups).take rest := by
  rw [ofArgs, take_render, foldl_set]

theorem ofArgs_render (groups : List Group) : ofArgs (render groups) = .ok (ofGroups groups) := by
  have whole := ofArgs_render_append groups []
  rw [List.append_nil] at whole
  exact whole

theorem ofArgs_of_refused (groups : List Group) {rest : List String} {e : OptionError}
    (refused : Refused rest e) : ofArgs (render groups ++ rest) = .error e := by
  rw [ofArgs_render_append, take_of_refused _ refused]

/-- Arguments are groups, up to what is refused if anything is. -/
theorem exists_eq_render_append (args : List String) :
    ∃ groups rest, args = render groups ++ rest ∧ (rest = [] ∨ ∃ e, Refused rest e) := by
  -- A group may take two arguments, so the induction is on the number of those that are left.
  induction length : args.length using Nat.strongRecOn generalizing args with
  | _ n ih =>
    cases args with
    | nil => exact ⟨[], [], rfl, .inl rfl⟩
    | cons arg rest =>
      rcases eq_args_append_or_refused arg rest with ⟨group, later, split⟩ | refused
      · have fewer : later.length < n := by
          have := group.args_length_pos
          rw [← length, split, List.length_append]
          omega
        obtain ⟨groups, left, rfl, ended⟩ := ih later.length fewer later rfl
        refine ⟨group :: groups, left, ?_, ended⟩
        rw [split, render, render, List.flatMap_cons, List.append_assoc]
      · exact ⟨[], arg :: rest, rfl, .inr refused⟩

/-- Groups for different fields may change places. -/
theorem ofGroups_eq_of_filter {groups groups' : List Group}
    (same : ∀ field, groups.filter (·.field = field) = groups'.filter (·.field = field)) :
    ofGroups groups = ofGroups groups' := by
  have texts (field : Field) : lastText groups field = lastText groups' field := by
    rw [lastText, same, lastText]
  have occurring (field : Field) : occurs groups field = occurs groups' field := by
    rw [occurs, same, occurs]
  simp only [ofGroups, texts, occurring]

theorem plain_of_lastText {groups : List Group} {text : String}
    (last : text ∈ lastText groups .path) : text.startsWith "-" = false := by
  obtain ⟨group, there, given⟩ := Option.bind_eq_some_iff.mp last
  obtain ⟨-, isPath⟩ := List.mem_filter.mp (List.mem_of_getLast? there)
  cases group with
  | path _ plain => exact Option.some.inj given ▸ plain
  | _ => simp [Group.field] at isPath

/-! ### Options written as arguments -/

theorem take_valued (o : Options) (option : Valued) (value : Option String) (rest : List String) :
    o.take (value.toList.flatMap ([option.flag, ·]) ++ rest) =
      (value.elim o fun value => (Group.valued option value).set o).take rest := by
  cases value with
  | none => rfl
  | some value => exact take_group o (.valued option value) rest

theorem take_switch (o : Options) (option : Switch) (on : Bool) (rest : List String) :
    o.take ((if on then [option.flag] else []) ++ rest) =
      (if on then (Group.switch option).set o else o).take rest := by
  cases on with
  | false => rfl
  | true => exact take_group o (.switch option) rest

theorem take_path {o : Options} {path : Option String}
    (plain : ∀ text ∈ path, text.startsWith "-" = false) :
    o.take path.toList = .ok { o with path := path.or o.path } := by
  cases path with
  | none => rfl
  | some text => exact take_group o (.path text (plain text rfl)) []

theorem ofArgs_toArgs {o : Options} (plain : ∀ text ∈ o.path, text.startsWith "-" = false) :
    ofArgs o.toArgs = .ok o := by
  simp only [ofArgs, toArgs, List.append_assoc, take_valued, take_switch, take_path plain]
  obtain ⟨path, name, os, noQuote, list, pick, checkDevCerts⟩ := o
  cases path <;> cases name <;> cases os <;> cases pick <;> cases noQuote <;> cases list <;>
    cases checkDevCerts <;> rfl

/-- Arguments are accepted exactly if they are groups, and ask for what the groups do: groups for
different fields may change places. The options that arguments can ask for are those whose path
does not begin with a dash. Other arguments are refused for the first of them that begins no
group. -/
theorem ofArgs_reads_groups :
    (∀ args o, ofArgs args = .ok o ↔ ∃ groups, args = render groups ∧ o = ofGroups groups) ∧
      (∀ groups groups' : List Group,
        (∀ field, groups.filter (·.field = field) = groups'.filter (·.field = field)) →
          ofArgs (render groups) = ofArgs (render groups')) ∧
      (∀ o, ofArgs o.toArgs = .ok o ↔ ∀ text ∈ o.path, text.startsWith "-" = false) ∧
      ∀ args e, ofArgs args = .error e ↔
        ∃ groups rest, args = render groups ++ rest ∧ Refused rest e := by
  have accepted {args : List String} {o : Options} (ok : ofArgs args = .ok o) :
      ∃ groups, args = render groups ∧ o = ofGroups groups := by
    obtain ⟨groups, rest, rfl, rfl | ⟨e, refused⟩⟩ := exists_eq_render_append args
    · rw [List.append_nil, ofArgs_render] at ok
      exact ⟨groups, List.append_nil _, (Except.ok.inj ok).symm⟩
    · rw [ofArgs_of_refused groups refused] at ok
      cases ok
  refine ⟨fun args o => ⟨accepted, ?_⟩, fun groups groups' same => ?_, fun o => ⟨?_, ?_⟩,
    fun args e => ⟨fun refused => ?_, ?_⟩⟩
  · rintro ⟨groups, rfl, rfl⟩
    exact ofArgs_render groups
  · rw [ofArgs_render, ofArgs_render, ofGroups_eq_of_filter same]
  · intro ok text given
    obtain ⟨groups, -, rfl⟩ := accepted ok
    exact plain_of_lastText given
  · exact ofArgs_toArgs
  · obtain ⟨groups, rest, rfl, rfl | ⟨e', refused'⟩⟩ := exists_eq_render_append args
    · rw [List.append_nil, ofArgs_render] at refused
      cases refused
    · rw [ofArgs_of_refused groups refused'] at refused
      exact ⟨groups, rest, rfl, Except.error.inj refused ▸ refused'⟩
  · rintro ⟨groups, rest, rfl, refused⟩
    exact ofArgs_of_refused groups refused

/-- The last of two names counts, though it looks like an option, wherever the switch stands. With
one argument less it lacks its value, and in front of that an unknown option is what is refused. -/
theorem ofArgs_reads_groups_repeated :
    let first := Group.valued .name "a"
    let last := Group.valued .name "--os"
    let list := Group.switch .list
    let asked : Options := { name := some "--os", list := true }
    (∀ field, [first, last, list].filter (·.field = field) =
        [list, first, last].filter (·.field = field)) ∧
      ofArgs (render [list, first, last]) = .ok asked ∧
      ofArgs asked.toArgs = .ok asked ∧
      ofArgs ["--list", "--name", "a", "--name"] = .error (.missingValue "--name") ∧
      ofArgs ["--list", "--name", "a", "-x", "--name"] = .error (.unknown "-x") := by
  intro first last list asked
  obtain ⟨accepts, reordered, written, refuses⟩ := ofArgs_reads_groups
  have same : ∀ field, [first, last, list].filter (·.field = field) =
      [list, first, last].filter (·.field = field) := by
    intro field
    cases field with
    | valued option => cases option <;> rfl
    | switch option => cases option <;> rfl
    | path => rfl
  have unknown : Refused ["-x", "--name"] (.unknown "-x") :=
    .unknown _ (by decide +kernel) (by intro known; cases known <;> decide)
      (by intro known; cases known <;> decide)
  refine ⟨same, ?_, (written asked).mpr nofun,
    (refuses _ _).mpr ⟨[list, first], _, rfl, .missingValue .name⟩,
    (refuses _ _).mpr ⟨[list, first], _, rfl, unknown⟩⟩
  rw [← reordered _ _ same]
  exact (accepts _ _).mpr ⟨[first, last, list], rfl, rfl⟩

end Options

end RemoteAttach.CommandLine
