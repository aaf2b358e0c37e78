import RemoteAttach.Proofs.Text.Blank
import RemoteAttach.Proofs.Text.Pieces
import RemoteAttach.Settings

/-! The settings file field by field. A line sets at most one field, to a value that does not depend
on what was set before, so that the last line that sets a field decides about it. -/

namespace RemoteAttach.Settings

open RemoteAttach.Text

/-- A field of the settings. -/
inductive Field where
  | debuggerCommand
  | quoteArgs
  | dotnetPaths
  | logLevel
  | retention
  | logEnabled
  deriving DecidableEq, Repr

namespace Field

/-- What a field holds. -/
abbrev Value : Field → Type
  | debuggerCommand => String
  | quoteArgs => Bool
  | dotnetPaths => List String
  | logLevel => LogLevel
  | retention => UInt32
  | logEnabled => Bool

/-- What a field holds in some settings. -/
def get (s : Settings) : (f : Field) → f.Value
  | debuggerCommand => s.debuggerCommand
  | quoteArgs => s.quoteArgs
  | dotnetPaths => s.dotnetPaths
  | logLevel => s.log.level
  | retention => s.log.retention
  | logEnabled => s.log.enabled

/-- Settings with another value of a field. -/
def set (s : Settings) : (f : Field) → f.Value → Settings
  | debuggerCommand, value => { s with debuggerCommand := value }
  | quoteArgs, value => { s with quoteArgs := value }
  | dotnetPaths, value => { s with dotnetPaths := value }
  | logLevel, value => { s with log.level := value }
  | retention, value => { s with log.retention := value }
  | logEnabled, value => { s with log.enabled := value }

@[simp] theorem get_set (s : Settings) (f : Field) (value : f.Value) :
    get (set s f value) f = value := by
  cases f <;> rfl

theorem get_set_of_ne (s : Settings) {f g : Field} (other : f ≠ g) (value : g.Value) :
    get (set s g value) f = get s f := by
  cases f <;> cases g <;> first | rfl | exact absurd rfl other

/-- The keys of a field. Two fields have a second one. -/
def keys : Field → List String
  | debuggerCommand => ["debugger_command"]
  | quoteArgs => ["quote_args"]
  | dotnetPaths => ["dotnet_cli_paths"]
  | logLevel => ["log_level"]
  | retention => ["log_retention", "log_retention_hours"]
  | logEnabled => ["log_enabled", "logging"]

/-- What a field is set to by a text. An empty debugger command sets nothing. -/
def ofText? : (f : Field) → String → Option f.Value
  | debuggerCommand, text => if text.isEmpty then none else some text
  | quoteArgs, text => some (isOn text)
  | dotnetPaths, text => some (pathList text.toList)
  | logLevel, text => some (LogLevel.ofText text)
  | retention, text => some (retentionOfText text)
  | logEnabled, text => some (isOn text)

/-- The key of one field is not the key of another. -/
theorem eq_of_mem_keys {f g : Field} {key : String} (of_f : key ∈ f.keys) (of_g : key ∈ g.keys) :
    f = g := by
  have each : ∀ key ∈ f.keys, key ∈ g.keys → f = g := by cases f <;> cases g <;> decide
  exact each key of_f of_g

/-- No key begins like a comment. -/
theorem head_ne_of_mem_keys {f : Field} {key : String} (known : key ∈ f.keys) :
    key.toList.head? ≠ some '#' := by
  have each : ∀ key ∈ f.keys, key.toList.head? ≠ some '#' := by cases f <;> decide
  exact each key known

end Field

/-- Settings are the same if all their fields are. -/
theorem eq_of_get {s t : Settings} (same : ∀ f, Field.get s f = Field.get t f) : s = t := by
  obtain ⟨command, quote, paths, keep, level, enabled⟩ := s
  obtain ⟨command', quote', paths', keep', level', enabled'⟩ := t
  have h1 : command = command' := same .debuggerCommand
  have h2 : quote = quote' := same .quoteArgs
  have h3 : paths = paths' := same .dotnetPaths
  have h4 : level = level' := same .logLevel
  have h5 : keep = keep' := same .retention
  have h6 : enabled = enabled' := same .logEnabled
  subst h1 h2 h3 h4 h5 h6
  rfl

/-- A key sets its field to what the text stands for. -/
theorem apply_of_mem (s : Settings) {f : Field} {key : String} (known : key ∈ f.keys)
    (text : String) :
    s.apply key text = ((f.ofText? text).map (Field.set s f)).getD s := by
  cases f <;> simp only [Field.keys, List.mem_cons, List.not_mem_nil, or_false] at known
  case debuggerCommand =>
    subst known
    simp only [apply, Field.ofText?]
    split <;> rfl
  case retention | logEnabled => rcases known with rfl | rfl <;> rfl
  all_goals subst known; rfl

/-- An unknown key sets nothing. -/
theorem apply_of_unknown (s : Settings) {key : String} (unknown : ∀ f : Field, key ∉ f.keys)
    (text : String) : s.apply key text = s := by
  unfold apply
  split
  · exact absurd (by decide) (unknown .debuggerCommand)
  · exact absurd (by decide) (unknown .quoteArgs)
  · exact absurd (by decide) (unknown .dotnetPaths)
  · exact absurd (by decide) (unknown .logLevel)
  · exact absurd (by decide) (unknown .retention)
  · exact absurd (by decide) (unknown .retention)
  · exact absurd (by decide) (unknown .logEnabled)
  · exact absurd (by decide) (unknown .logEnabled)
  · rfl

/-- A field after a key has been set, its own or another. -/
theorem get_apply (s : Settings) (key text : String) (f : Field) :
    Field.get (s.apply key text) f =
      ((if key ∈ f.keys then f.ofText? text else none).getD (Field.get s f)) := by
  by_cases known : ∃ g : Field, key ∈ g.keys
  · obtain ⟨g, known⟩ := known
    rw [apply_of_mem s known]
    by_cases same : f = g
    · subst same
      rw [if_pos known]
      cases f.ofText? text with
      | none => rfl
      | some value => exact Field.get_set s f value
    · rw [if_neg fun of_f => same (Field.eq_of_mem_keys of_f known)]
      cases g.ofText? text with
      | none => rfl
      | some value => exact Field.get_set_of_ne s same value
  · rw [not_exists] at known
    rw [apply_of_unknown s known, if_neg (known f)]
    rfl

/-! ### Lines -/

/-- What a line sets a field to, if it does: one with a key of the field before its first equals
sign. What follows is cut at its inline comment. -/
def sets? (f : Field) (line : List Char) : Option f.Value :=
  (cutAt '=' line).bind fun (key, raw) =>
    if String.ofList (trim key) ∈ f.keys then f.ofText? (String.ofList (dropComment (trim raw)))
    else none

theorem assignment?_of_notMem {line : List Char} (free : '=' ∉ line) : assignment? line = none := by
  have inside : trim line ⊆ line := by
    obtain ⟨front, -, start⟩ := exists_append_trimStart line
    obtain ⟨back, -, stop⟩ := exists_trimEnd_append (trimStart line)
    intro c there
    rw [start, stop]
    exact List.mem_append_right _ (List.mem_append_left _ there)
  simp [assignment?, cutAt_of_notMem (fun there => free (inside there))]

/-- A line is cut at its first equals sign, unless it begins with a number sign. -/
theorem assignment?_append_cons {key : List Char} (free : '=' ∉ key) (raw : List Char) :
    assignment? (key ++ '=' :: raw) =
      if (trimStart key).head? = some '#' then none
      else some (String.ofList (trim key), String.ofList (dropComment (trim raw))) := by
  have solid : isBlank '=' = false := by decide
  have trimmed : trim (key ++ '=' :: raw) = trimStart key ++ '=' :: trimEnd raw := by
    rw [trim, trimStart_append_cons solid, trimEnd_append_cons solid]
  have head : (trimStart key ++ '=' :: trimEnd raw).head? = some '#' ↔
      (trimStart key).head? = some '#' := by
    cases trimStart key <;> simp
  have free' : '=' ∉ trimStart key := fun there =>
    free ((List.dropWhile_suffix isBlank).subset there)
  simp only [assignment?, trimmed, beq_iff_eq, head, cutAt_append free', Option.map_some,
    trim_trimStart, trim_trimEnd]

/-- What stands before the equals sign of a comment is no key. -/
theorem notMem_keys_of_comment {key : List Char} (comment : (trimStart key).head? = some '#')
    (f : Field) : String.ofList (trim key) ∉ f.keys := by
  intro known
  obtain ⟨rest, begins⟩ := List.head?_eq_some_iff.mp comment
  refine Field.head_ne_of_mem_keys known ?_
  rw [String.toList_ofList, ← trim_trimStart, begins, trim_cons (by decide)]
  rfl

/-- A line sets a field by the key and value that are read from it. -/
theorem sets?_eq (f : Field) (line : List Char) :
    sets? f line =
      (assignment? line).bind fun (key, value) =>
        if key ∈ f.keys then f.ofText? value else none := by
  by_cases there : '=' ∈ line
  · obtain ⟨key, raw, rfl, free⟩ := List.eq_append_cons_of_mem there
    rw [sets?, cutAt_append free, assignment?_append_cons free]
    split
    · rename_i comment
      exact if_neg (notMem_keys_of_comment comment f)
    · rfl
  · rw [sets?, cutAt_of_notMem there, assignment?_of_notMem there]
    rfl

/-- A field after a line. -/
theorem get_readLine (s : Settings) (line : List Char) (f : Field) :
    Field.get (readLine s line) f = (sets? f line).getD (Field.get s f) := by
  rw [sets?_eq, readLine]
  cases assignment? line with
  | none => rfl
  | some pair => exact get_apply s pair.1 pair.2 f

theorem skipsLineEnds_sets? (f : Field) : SkipsLineEnds (sets? f) := by
  refine .of_trim rfl fun line other same => ?_
  simp only [sets?_eq, assignment?, same]

/-- A line sets one field at most. -/
theorem sets?_of_ne {f g : Field} (other : f ≠ g) {line : List Char}
    (set : (sets? f line).isSome = true) : sets? g line = none := by
  rw [sets?_eq] at set ⊢
  cases read : assignment? line with
  | none => rfl
  | some pair =>
    have known : pair.1 ∈ f.keys := by
      by_contra unknown
      simp [read, unknown] at set
    exact if_neg fun of_g => other (Field.eq_of_mem_keys known of_g)

/-- A line that sets nothing: a comment, a blank one, one without an equals sign, or one with an
unknown key. -/
inductive Idle : List Char → Prop
  | comment {lead note : List Char} (blank : Blanks lead) : Idle (lead ++ '#' :: note)
  | blank {line : List Char} (blank : Blanks line) : Idle line
  | bare {line : List Char} (free : '=' ∉ line) : Idle line
  | unknown {key raw : List Char} (free : '=' ∉ key)
      (other : ∀ f : Field, String.ofList (trim key) ∉ f.keys) : Idle (key ++ '=' :: raw)

theorem Idle.sets? {line : List Char} (idle : Idle line) (f : Field) :
    Settings.sets? f line = none := by
  cases idle with
  | @comment lead note blank =>
    have begins : trim (lead ++ '#' :: note) = '#' :: trimEnd note := by
      rw [trim, blank.trimStart_append]
      exact trim_cons (by decide) note
    simp [sets?_eq, assignment?, begins]
  | blank blank =>
    have free : '=' ∉ line := fun there => absurd (blank _ there) (by decide)
    rw [Settings.sets?, cutAt_of_notMem free]
    rfl
  | bare free =>
    rw [Settings.sets?, cutAt_of_notMem free]
    rfl
  | @unknown key raw free other =>
    rw [Settings.sets?, cutAt_append free]
    exact if_neg (other f)

/-! ### Files -/

/-- The last of the values that two lists give. -/
theorem getD_getLast?_append {α : Type} (first second : List α) (default_ : α) :
    (first ++ second).getLast?.getD default_ =
      second.getLast?.getD (first.getLast?.getD default_) := by
  rw [List.getLast?_append, Option.getD_or]

/-- The last line that sets a field decides about it. -/
theorem get_foldl_readLine (s : Settings) (lines : List (List Char)) (f : Field) :
    Field.get (lines.foldl readLine s) f =
      (lines.filterMap (sets? f)).getLast?.getD (Field.get s f) := by
  induction lines generalizing s with
  | nil => rfl
  | cons line lines ih =>
    have split : (line :: lines).filterMap (sets? f) =
        (sets? f line).toList ++ lines.filterMap (sets? f) := by
      rw [List.filterMap_cons]
      cases sets? f line <;> rfl
    rw [List.foldl_cons, ih, get_readLine, split, getD_getLast?_append]
    cases sets? f line <;> rfl

theorem get_read (s : Settings) (text : String) (f : Field) :
    Field.get (read s text) f =
      ((lines text.toList).filterMap (sets? f)).getLast?.getD (Field.get s f) :=
  get_foldl_readLine s (lines text.toList) f

/-- Of joined lines each sets what it sets alone. -/
theorem get_read_joined (s : Settings) (ended : Bool) {texts : List (List Char)}
    (one : ∀ line ∈ texts, '\n' ∉ line) (f : Field) :
    Field.get (read s (String.ofList (joined ended texts))) f =
      (texts.filterMap (sets? f)).getLast?.getD (Field.get s f) := by
  rw [get_read, String.toList_ofList, (skipsLineEnds_sets? f).filterMap_joined ended one]

/-- Joined lines are read alike if they set the same. -/
theorem read_joined_congr (s : Settings) (ended : Bool) {texts others : List (List Char)}
    (one : ∀ line ∈ texts, '\n' ∉ line) (one' : ∀ line ∈ others, '\n' ∉ line)
    (same : ∀ f, texts.filterMap (sets? f) = others.filterMap (sets? f)) :
    read s (String.ofList (joined ended texts)) = read s (String.ofList (joined ended others)) :=
  eq_of_get fun f => by rw [get_read_joined s ended one, get_read_joined s ended one', same]

/-- A file of one line. -/
theorem read_line (s : Settings) {line : List Char} (one : '\n' ∉ line) :
    read s (String.ofList line) = readLine s line := by
  rw [read, String.toList_ofList, lines_unended one]
  cases line <;> rfl

/-- A file that is cut at a newline is read like its two parts one after the other. -/
theorem read_append_newline (s : Settings) (first second : String) :
    read s (first ++ "\n" ++ second) = read (read s first) second := by
  refine eq_of_get fun f => ?_
  have cut : (first ++ "\n" ++ second).toList = first.toList ++ '\n' :: second.toList := by simp
  rw [get_read, get_read, get_read, cut, (skipsLineEnds_sets? f).filterMap_append_newline,
    getD_getLast?_append]

/-- A file that is read twice is read once. -/
theorem read_read (s : Settings) (text : String) : read (read s text) text = read s text := by
  refine eq_of_get fun f => ?_
  rw [get_read, get_read]
  cases ((lines text.toList).filterMap (sets? f)).getLast? <;> rfl

/-- Adjacent lines that set different fields may change places. -/
theorem read_swap (s : Settings) (ended : Bool) {before after : List (List Char)}
    {line next : List Char} {f g : Field}
    (one : ∀ text ∈ before ++ line :: next :: after, '\n' ∉ text) (other : f ≠ g)
    (set_f : (sets? f line).isSome = true) (set_g : (sets? g next).isSome = true) :
    read s (String.ofList (joined ended (before ++ line :: next :: after))) =
      read s (String.ofList (joined ended (before ++ next :: line :: after))) := by
  have swapped : (before ++ next :: line :: after).Perm (before ++ line :: next :: after) :=
    (List.Perm.swap line next after).append_left before
  refine read_joined_congr s ended one (fun text there => one text (swapped.subset there)) ?_
  intro h
  -- One of the two lines says nothing about the field, whichever it is.
  have silent : sets? h line = none ∨ sets? h next = none := by
    by_cases same : f = h
    · exact .inr (sets?_of_ne (same ▸ other.symm) set_g)
    · exact .inl (sets?_of_ne same set_f)
  simp only [List.filterMap_append, List.filterMap_cons]
  rcases silent with nothing | nothing <;> simp only [nothing]

/-- A line that sets nothing may be left out. -/
theorem read_idle (s : Settings) (ended : Bool) {before after : List (List Char)}
    {line : List Char} (one : ∀ text ∈ before ++ line :: after, '\n' ∉ text) (idle : Idle line) :
    read s (String.ofList (joined ended (before ++ line :: after))) =
      read s (String.ofList (joined ended (before ++ after))) := by
  have fewer : before ++ after ⊆ before ++ line :: after :=
    (List.Sublist.append_left (List.sublist_cons_self line after) before).subset
  refine read_joined_congr s ended one (fun text there => one text (fewer there)) fun f => ?_
  simp only [List.filterMap_append, List.filterMap_cons, idle.sets? f]

/-- In a settings file the last line wins, field by field. Two files with a newline between are read
one after the other; a field is what the last line sets it to that sets it at all, and is kept if
there is none; a file that is read twice is read once; adjacent lines that set different fields may
change places; and lines that set nothing may stand anywhere or be left out. -/
theorem read_lastWins (s : Settings) (first second : String) :
    read s (first ++ "\n" ++ second) = read (read s first) second ∧
      (∀ f, Field.get (read s first) f =
        ((lines first.toList).filterMap (sets? f)).getLast?.getD (Field.get s f)) ∧
      read (read s first) first = read s first ∧
      (∀ (ended : Bool) (before after : List (List Char)) (line next : List Char) (f g : Field),
        (∀ text ∈ before ++ line :: next :: after, '\n' ∉ text) → f ≠ g →
          (sets? f line).isSome = true → (sets? g next).isSome = true →
          read s (String.ofList (joined ended (before ++ line :: next :: after))) =
            read s (String.ofList (joined ended (before ++ next :: line :: after)))) ∧
      ∀ (ended : Bool) (before after : List (List Char)) (line : List Char),
        (∀ text ∈ before ++ line :: after, '\n' ∉ text) → Idle line →
          read s (String.ofList (joined ended (before ++ line :: after))) =
            read s (String.ofList (joined ended (before ++ after))) :=
  ⟨read_append_newline s first second, get_read s first, read_read s first,
    fun ended _ _ _ _ _ _ one other set_f set_g => read_swap s ended one other set_f set_g,
    fun ended _ _ _ one idle => read_idle s ended one idle⟩

/-- The second key of a field, an empty command, a swap and a comment. -/
theorem read_lastWins_retention :
    let one := "log_retention = 1".toList
    let two := "log_retention_hours = 48 # two days".toList
    let empty := "debugger_command =".toList
    let on := "logging = ON".toList
    let note := " # log_retention = 2".toList
    (∀ text ∈ [one, two, empty, on, note], '\n' ∉ text) ∧ Idle note ∧
      (sets? .retention two).isSome = true ∧ (sets? .logEnabled on).isSome = true ∧
      Field.get (read { log.enabled := false } (String.ofList (joined true [one, two, empty])))
        .retention = (48 : UInt32) ∧
      read {} (String.ofList (joined true [one, two, on])) =
        read {} (String.ofList (joined true [one, on, two])) ∧
      read {} (String.ofList (joined true [two, note])) =
        read {} (String.ofList (joined true [two])) := by
  intro one two empty on note
  have free : ∀ text ∈ [one, two, empty, on, note], '\n' ∉ text := by decide
  have idle : Idle note := Idle.comment (Blanks.replicate_space 1)
  have set_two : (sets? .retention two).isSome = true := by decide +kernel
  have set_on : (sets? .logEnabled on).isSome = true := by decide +kernel
  refine ⟨free, idle, set_two, set_on, ?_, ?_, ?_⟩
  · exact ((read_lastWins { log.enabled := false }
      (String.ofList (joined true [one, two, empty])) "").2.1 .retention).trans (by decide +kernel)
  · exact (read_lastWins {} "" "").2.2.2.1 true [one] [] two on .retention .logEnabled (by decide)
      (by decide) set_two set_on
  · exact (read_lastWins {} "" "").2.2.2.2 true [two] [] note (by decide) idle

end RemoteAttach.Settings
