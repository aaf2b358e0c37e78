import Mathlib.Data.List.Infix
import RemoteAttach.Proofs.Settings.Fields

/-! Inline comments of the settings file. A comment begins at the first number sign outside quotes
that stands right behind a blank, and what is before it is the value. The blanks behind the equals
sign do not count, however, so that a comment in the place of a value is taken for one. -/

namespace RemoteAttach.Settings

open RemoteAttach.Text

/-- The quote that is open behind a character: outside quotes either kind opens one, and inside the
same kind ends it. -/
def quoteStep (quote : Option Char) (c : Char) : Option Char :=
  match quote with
  | some q => if c = q then none else some q
  | none => if c = '\'' ∨ c = '"' then some c else none

/-- The quote that is open behind a text. -/
def quoteAfter (text : List Char) : Option Char :=
  text.foldl quoteStep none

/-- A comment begins between two parts of a text: the first ends outside quotes and in a blank, and
the second begins with a number sign. -/
def beginsComment (before after : List Char) : Bool :=
  quoteAfter before == none && before.getLast?.any isBlank && after.head? == some '#'

/-- The text before its first comment; the whole text if it has none. -/
def withoutComment (text : List Char) : List Char :=
  (text.inits.find? fun before => beginsComment before (text.drop before.length)).getD text

/-- The value that stands behind an equals sign. -/
def valueOf (raw : List Char) : String :=
  String.ofList (trim (withoutComment raw))

/-- Behind some blanks, and at least one, there is a comment and nothing else. -/
def OpensWithComment (raw : List Char) : Prop :=
  ∃ blanks note, blanks ≠ [] ∧ Blanks blanks ∧ raw = blanks ++ '#' :: note

/-! ### The search for a comment -/

theorem quoteAfter_concat (text : List Char) (c : Char) :
    quoteAfter (text ++ [c]) = quoteStep (quoteAfter text) c := by
  rw [quoteAfter, List.foldl_append]
  rfl

/-- Where a comment begins the search ends, and elsewhere it goes on with the next quote. -/
theorem beforeComment_cons (past : List Char) (c : Char) (rest : List Char) :
    beforeComment (quoteAfter past) past.getLast? (c :: rest) =
      if beginsComment past (c :: rest) then some []
      else (beforeComment (quoteAfter (past ++ [c])) (some c) rest).map (c :: ·) := by
  rw [quoteAfter_concat, beginsComment]
  cases quoteAfter past with
  | some q => simp [beforeComment, quoteStep]
  | none =>
    by_cases quote : c = '\'' ∨ c = '"'
    · have other : c ≠ '#' := by rcases quote with rfl | rfl <;> decide
      simp [beforeComment, quoteStep, quote, other]
    · simp [beforeComment, quoteStep, quote, and_comm]

/-- The search finds the shortest text behind which a comment begins. -/
theorem beforeComment_eq_find? (past rest : List Char) :
    beforeComment (quoteAfter past) past.getLast? rest =
      rest.inits.find? fun kept => beginsComment (past ++ kept) (rest.drop kept.length) := by
  induction rest generalizing past with
  | nil => simp [beforeComment, beginsComment]
  | cons c rest ih =>
    have later := ih (past ++ [c])
    rw [List.getLast?_concat] at later
    rw [beforeComment_cons, later, List.inits_cons, List.find?_cons, List.find?_map]
    simp only [List.append_nil, List.length_nil, List.drop_zero, Function.comp_def,
      List.length_cons, List.drop_succ_cons, List.append_assoc, List.singleton_append]
    cases beginsComment past (c :: rest) <;> rfl

theorem withoutComment_eq (text : List Char) :
    withoutComment text = (beforeComment none none text).getD text :=
  congrArg (·.getD text) (beforeComment_eq_find? [] text).symm

theorem prefix_of_beforeComment {text kept : List Char}
    (found : beforeComment none none text = some kept) : kept <+: text := by
  have search := beforeComment_eq_find? [] text
  rw [show quoteAfter [] = none from rfl, List.getLast?_nil, found] at search
  exact (List.mem_inits kept text).mp (List.mem_of_find?_eq_some search.symm)

/-! ### Blanks around a value -/

/-- A blank opens no quote and is no number sign. -/
theorem beforeComment_blank_cons {c : Char} (blank : isBlank c = true) (before : Option Char)
    (rest : List Char) :
    beforeComment none before (c :: rest) = (beforeComment none (some c) rest).map (c :: ·) := by
  have h1 : c ≠ '\'' := by rintro rfl; exact absurd blank (by decide)
  have h2 : c ≠ '"' := by rintro rfl; exact absurd blank (by decide)
  have h3 : c ≠ '#' := by rintro rfl; exact absurd blank (by decide)
  simp [beforeComment, h1, h2, h3]

/-- Leading blanks belong to the text before the comment; only the last of them is seen behind
them. -/
theorem beforeComment_blanks_append {blanks : List Char} (blank : Blanks blanks)
    (before : Option Char) (text : List Char) :
    beforeComment none before (blanks ++ text) =
      (beforeComment none (blanks.getLast?.or before) text).map (blanks ++ ·) := by
  induction blanks generalizing before with
  | nil => simp
  | cons c blanks ih =>
    have blank := List.forall_mem_cons.mp blank
    rw [List.cons_append, beforeComment_blank_cons blank.1, ih blank.2, Option.map_map,
      List.getLast?_cons]
    cases blanks.getLast? <;> rfl

/-- No comment begins among trailing blanks. -/
theorem beforeComment_append_blanks {blanks : List Char} (blank : Blanks blanks)
    (quote before : Option Char) (text : List Char) :
    beforeComment quote before (text ++ blanks) = beforeComment quote before text := by
  induction text generalizing quote before with
  | nil =>
    induction blanks generalizing quote before with
    | nil => rfl
    | cons c blanks ih =>
      have blank := List.forall_mem_cons.mp blank
      rw [List.nil_append] at ih ⊢
      cases quote with
      | none => rw [beforeComment_blank_cons blank.1, ih blank.2]; rfl
      | some q => simp only [beforeComment, ih blank.2]; rfl
  | cons c text ih =>
    simp only [List.cons_append, beforeComment, ih]

/-- What stands before a text matters only if the text begins with a number sign. -/
theorem beforeComment_of_head {text : List Char} (other : text.head? ≠ some '#')
    (before : Option Char) : beforeComment none before text = beforeComment none none text := by
  cases text with
  | nil => rfl
  | cons c text =>
    have sign : c ≠ '#' := by simpa using other
    simp [beforeComment, sign]

/-! ### Values -/

theorem trimStart_of_begins {text kept : List Char} (begins : kept <+: trimStart text) :
    trimStart kept = kept := by
  cases kept with
  | nil => rfl
  | cons c kept =>
    obtain ⟨rest, whole⟩ := begins
    have solid := List.head?_dropWhile_not isBlank text
    rw [← trimStart, ← whole] at solid
    exact List.dropWhile_cons_of_neg (by simpa using solid)

/-- The value of a line is what is before the comment of the text without its leading blanks. -/
theorem dropComment_trim (raw : List Char) :
    dropComment (trim raw) = trim (withoutComment (trimStart raw)) := by
  obtain ⟨blanks, blank, whole⟩ := exists_trimEnd_append (trimStart raw)
  -- No comment begins among the trailing blanks, so that they may be put back for the search.
  have same := beforeComment_append_blanks blank none none (trim raw)
  rw [show trim raw ++ blanks = trimStart raw from whole.symm] at same
  rw [withoutComment_eq, dropComment, same]
  cases found : beforeComment none none (trim raw) with
  | none => rw [Option.getD_none, trim_trimStart]
  | some kept =>
    have begins := prefix_of_beforeComment (same.trans found)
    have start : trim kept = trimEnd kept := congrArg trimEnd (trimStart_of_begins begins)
    rw [Option.getD_some, start]

theorem withoutComment_blanks_append {blanks : List Char} (blank : Blanks blanks)
    (text : List Char) :
    trim (withoutComment (blanks ++ text)) =
      trim ((beforeComment none blanks.getLast? text).getD text) := by
  rw [withoutComment_eq, beforeComment_blanks_append blank, Option.or_none]
  cases beforeComment none blanks.getLast? text with
  | none => rw [trim, Option.map_none, Option.getD_none, blank.trimStart_append, trim]; rfl
  | some kept => rw [trim, Option.map_some, Option.getD_some, blank.trimStart_append, trim]; rfl

/-- A value that is only a comment is empty. -/
theorem valueOf_of_opensWithComment {raw : List Char} (opens : OpensWithComment raw) :
    valueOf raw = "" := by
  obtain ⟨blanks, note, some_, blank, rfl⟩ := opens
  have last_blank : isBlank (blanks.getLast some_) = true := blank _ (List.getLast_mem some_)
  rw [valueOf, withoutComment_blanks_append blank, List.getLast?_eq_some_getLast some_]
  simp [beforeComment, last_blank, trim, trimStart, trimEnd]

/-- Without its leading blanks such a comment is a value that begins with a number sign. -/
theorem exists_valueOf_trimStart {raw : List Char} (opens : OpensWithComment raw) :
    ∃ note, valueOf (trimStart raw) = String.ofList ('#' :: note) := by
  obtain ⟨blanks, note, -, blank, rfl⟩ := opens
  have start : trimStart (blanks ++ '#' :: note) = '#' :: note := by
    rw [blank.trimStart_append]
    exact trimStart_append_cons (by decide) [] note
  have search : beforeComment none none ('#' :: note) =
      (beforeComment none (some '#') note).map ('#' :: ·) := by simp [beforeComment]
  rw [start, valueOf, withoutComment_eq, search]
  cases beforeComment none (some '#') note with
  | none => exact ⟨_, congrArg String.ofList (trim_cons (by decide) note)⟩
  | some kept => exact ⟨_, congrArg String.ofList (trim_cons (by decide) kept)⟩

/-- Leading blanks change no value that is not only a comment. -/
theorem valueOf_trimStart {raw : List Char} (other : ¬ OpensWithComment raw) :
    valueOf (trimStart raw) = valueOf raw := by
  obtain ⟨blanks, blank, whole⟩ := exists_append_trimStart raw
  -- Only behind blanks does a number sign at the front begin a comment.
  have search : beforeComment none blanks.getLast? (trimStart raw) =
      beforeComment none none (trimStart raw) := by
    by_cases sign : (trimStart raw).head? = some '#'
    · obtain ⟨note, begins⟩ := List.head?_eq_some_iff.mp sign
      have none_ : blanks = [] := by
        by_contra some_
        exact other ⟨blanks, note, some_, blank, begins ▸ whole⟩
      rw [none_, List.getLast?_nil]
    · exact beforeComment_of_head sign _
  have split := withoutComment_blanks_append blank (trimStart raw)
  rw [← whole, search, ← withoutComment_eq] at split
  rw [valueOf, valueOf, split]

theorem valueOf_trimStart_eq_iff (raw : List Char) :
    valueOf (trimStart raw) = valueOf raw ↔ ¬ OpensWithComment raw := by
  refine ⟨fun same opens => ?_, valueOf_trimStart⟩
  obtain ⟨note, begins⟩ := exists_valueOf_trimStart opens
  rw [begins, valueOf_of_opensWithComment opens] at same
  exact absurd same (by simp [← String.toList_inj])

/-! ### Values that begin with a number sign -/

section Note

variable (note : List Char)

theorem head?_toLower_note :
    (String.ofList ('#' :: note)).toLower.toList.head? = some '#' := by
  have lower : (String.ofList ('#' :: note)).toLower =
      String.map Char.toLower (String.ofList ('#' :: note)) := rfl
  rw [lower, String.toList_map, String.toList_ofList]
  rfl

theorem isOn_note : isOn (String.ofList ('#' :: note)) = false := by
  unfold isOn
  split
  case h_5 => rfl
  all_goals
    rename_i same
    exact absurd (same ▸ head?_toLower_note note) (by decide)

theorem ofText_note : LogLevel.ofText (String.ofList ('#' :: note)) = .info := by
  unfold LogLevel.ofText
  split
  case h_10 => rfl
  all_goals
    rename_i same
    exact absurd (same ▸ head?_toLower_note note) (by decide)

theorem retentionOfText_note : retentionOfText (String.ofList ('#' :: note)) = defaultRetention := by
  simp [retentionOfText, word32?, numeral?, dropPlus, digitsAfter, digit?]

theorem pathList_note : pathList ('#' :: note) ≠ [] := by
  have comma : ¬ [','] <+: '#' :: note := by simp [List.cons_prefix_cons]
  obtain ⟨first, more, cut⟩ :=
    List.exists_cons_of_ne_nil (pieces_ne_nil (List.cons_ne_nil ',' []) note)
  have kept : (trim ('#' :: first)).isEmpty = false := by rw [trim_cons (by decide)]; rfl
  rw [pathList, pieces_cons comma, cut]
  simp [kept]

/-- Such a value says as much as an empty one, except as a command or as a list of directories. -/
theorem Field.ofText?_note {f : Field} (command : f ≠ .debuggerCommand)
    (paths : f ≠ .dotnetPaths) : f.ofText? (String.ofList ('#' :: note)) = f.ofText? "" := by
  cases f with
  | debuggerCommand => exact absurd rfl command
  | dotnetPaths => exact absurd rfl paths
  | quoteArgs | logEnabled => exact congrArg some ((isOn_note note).trans (by decide +kernel))
  | logLevel => exact congrArg some ((ofText_note note).trans (by decide +kernel))
  | retention => exact congrArg some ((retentionOfText_note note).trans (by decide +kernel))

end Note

/-- A comment in the place of a value has an effect of its own exactly as a list of directories, or
as a command that is not the present one. -/
theorem apply_valueOf_iff {f : Field} {key : String} (known : key ∈ f.keys) (s : Settings)
    (raw : List Char) :
    s.apply key (valueOf (trimStart raw)) = s.apply key (valueOf raw) ↔
      ¬ OpensWithComment raw ∨ (f ≠ .debuggerCommand ∧ f ≠ .dotnetPaths) ∨
        f = .debuggerCommand ∧ s.debuggerCommand = valueOf (trimStart raw) := by
  by_cases opens : OpensWithComment raw
  · obtain ⟨note, begins⟩ := exists_valueOf_trimStart opens
    rw [begins, valueOf_of_opensWithComment opens, apply_of_mem s known, apply_of_mem s known]
    cases f with
    | debuggerCommand =>
      have some_ : (String.ofList ('#' :: note)).isEmpty = false := by simp
      have set_iff : Field.set s .debuggerCommand (String.ofList ('#' :: note)) = s ↔
          s.debuggerCommand = String.ofList ('#' :: note) := by
        refine ⟨fun same => ?_, fun same => ?_⟩
        · exact (congrArg debuggerCommand same).symm
        · rw [← same]; rfl
      simpa [Field.ofText?, some_, opens] using set_iff
    | dotnetPaths =>
      have none_ : pathList [] = [] := by decide
      simpa [Field.ofText?, Field.set, opens, none_] using pathList_note note
    | quoteArgs | logLevel | retention | logEnabled =>
      rw [Field.ofText?_note note (by decide) (by decide)]
      simp
  · rw [valueOf_trimStart opens]
    simp [opens]

/-! ### Lines with a known key -/

/-- Keys hold neither blanks nor equals signs. -/
theorem Field.plain_of_mem_keys {f : Field} {key : String} (known : key ∈ f.keys) :
    Solid key.toList ∧ '=' ∉ key.toList := by
  have each : ∀ key ∈ f.keys, key.toList.any isBlank = false ∧ '=' ∉ key.toList := by
    cases f <;> decide
  have ⟨solid, plain⟩ := each key known
  exact ⟨fun c there => by simpa using List.any_eq_false.mp solid c there, plain⟩

theorem readLine_eq_apply {f : Field} {key : String} (known : key ∈ f.keys)
    {lead gap : List Char} (lead_blank : Blanks lead) (gap_blank : Blanks gap) (raw : List Char)
    (s : Settings) :
    readLine s (lead ++ key.toList ++ gap ++ '=' :: raw) =
      s.apply key (valueOf (trimStart raw)) := by
  obtain ⟨solid, plain⟩ := Field.plain_of_mem_keys known
  have blank : isBlank '=' = false := by decide
  have free : '=' ∉ lead ++ key.toList ++ gap := by
    have lead_free : '=' ∉ lead := fun there => absurd (lead_blank _ there) (by simp [blank])
    have gap_free : '=' ∉ gap := fun there => absurd (gap_blank _ there) (by simp [blank])
    simp [lead_free, plain, gap_free]
  have key_trimmed : String.ofList (trim (lead ++ key.toList ++ gap)) = key := by
    rw [trim_padded solid.trim lead_blank gap_blank, String.ofList_toList]
  have other : ¬ (trimStart (lead ++ key.toList ++ gap)).head? = some '#' := fun comment =>
    notMem_keys_of_comment comment f (key_trimmed.symm ▸ known)
  rw [readLine, assignment?_append_cons free, if_neg other, key_trimmed, dropComment_trim]
  rfl

/-- A line with a known key, anywhere in a settings file, sets what is before the comment of the text
behind its equals sign without the leading blanks. This is what is before the comment of the whole
text exactly if that is not a comment behind blanks and nothing else; and the line has the same
effect exactly then, or if a comment there means nothing to the field, or is the command that is set
already. -/
theorem read_line_eq_apply_iff {f : Field} {key : String} (known : key ∈ f.keys)
    {lead gap raw : List Char} (lead_blank : Blanks lead) (gap_blank : Blanks gap)
    (one : '\n' ∉ lead ++ key.toList ++ gap ++ '=' :: raw) (s : Settings)
    (before after : String) :
    let line := String.ofList (lead ++ key.toList ++ gap ++ '=' :: raw)
    read s (before ++ "\n" ++ line ++ "\n" ++ after) =
        read ((read s before).apply key (valueOf (trimStart raw))) after ∧
      (valueOf (trimStart raw) = valueOf raw ↔ ¬ OpensWithComment raw) ∧
      (read s line = s.apply key (valueOf raw) ↔
        ¬ OpensWithComment raw ∨ (f ≠ .debuggerCommand ∧ f ≠ .dotnetPaths) ∨
          f = .debuggerCommand ∧ s.debuggerCommand = valueOf (trimStart raw)) := by
  intro line
  have single (s : Settings) : read s line = s.apply key (valueOf (trimStart raw)) := by
    rw [read_line s one, readLine_eq_apply known lead_blank gap_blank]
  refine ⟨?_, valueOf_trimStart_eq_iff raw, ?_⟩
  · rw [read_append_newline, read_append_newline, single]
  · rw [single]
    exact apply_valueOf_iff known s raw

/-- A number sign in quotes, one inside a word, and a comment with a quote in it. -/
theorem read_line_eq_apply_iff_quoted :
    "debugger_command" ∈ Field.debuggerCommand.keys ∧
      read {} "debugger_command = sh -c 'a # b' c#d # it's a note" =
        { debuggerCommand := "sh -c 'a # b' c#d" } := by
  have known : "debugger_command" ∈ Field.debuggerCommand.keys := by decide
  have blank : Blanks [' '] := Blanks.replicate_space 1
  have nothing : Blanks [] := fun _ there => nomatch there
  refine ⟨known, ?_⟩
  have line := (@read_line_eq_apply_iff .debuggerCommand "debugger_command" known [] [' ']
    " sh -c 'a # b' c#d # it's a note".toList nothing blank (by decide) {} "" "").2
  have other := line.1.mp (by decide +kernel)
  exact (line.2.mpr (.inl other)).trans (by decide +kernel)

/-- A comment in the place of a command becomes the command, although nothing is before it. -/
theorem read_ne_apply_valueOf :
    valueOf " # note".toList = "" ∧
      (({} : Settings).apply "debugger_command" (valueOf " # note".toList)).debuggerCommand =
        "sh -s" ∧
      (read {} "debugger_command = # note").debuggerCommand = "# note" ∧
      read {} "debugger_command = # note" ≠
        ({} : Settings).apply "debugger_command" (valueOf " # note".toList) := by
  decide +kernel

end RemoteAttach.Settings
