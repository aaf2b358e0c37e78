import Mathlib.Data.List.TakeWhile
import RemoteAttach.Logs.Clean
import RemoteAttach.Proofs.Files.Walk

/-! Cleaning the log folder removes the expired logs and nothing else, in whatever order the names
in the folder are taken, and through whatever links its text leads there. -/

namespace RemoteAttach

/-! ### Expired logs -/

/-- What stands behind the last point of a name is its extension, unless the point begins it. -/
theorem extension?_append {stem ext : List Char} (free : '.' ∉ ext) :
    extension? (String.ofList (stem ++ '.' :: ext)) =
      if stem.isEmpty then none else some (String.ofList ext) := by
  have other : ∀ c ∈ ext.reverse, (decide (c ≠ '.')) = true := fun c there =>
    decide_eq_true fun point => free (point ▸ List.mem_reverse.mp there)
  have turned : (stem ++ '.' :: ext).reverse = ext.reverse ++ '.' :: stem.reverse := by simp
  have after : (ext.reverse ++ '.' :: stem.reverse).takeWhile (· ≠ '.') = ext.reverse := by
    rw [List.takeWhile_append_of_pos other]
    simp
  have before : (ext.reverse ++ '.' :: stem.reverse).drop (ext.reverse.length + 1) =
      stem.reverse := by
    simp [List.drop_append]
  have longer : ext.length ≠ stem.length + (ext.length + 1) := by omega
  simp only [extension?, String.toList_ofList, turned, after, before, List.reverse_reverse]
  simp [longer]

/-- A name without a point has no extension. -/
theorem extension?_of_notMem {name : String} (free : '.' ∉ name.toList) :
    extension? name = none := by
  have other : ∀ c ∈ name.toList.reverse, (decide (c ≠ '.')) = true := fun c there =>
    decide_eq_true fun point => free (point ▸ List.mem_reverse.mp there)
  have after : name.toList.reverse.takeWhile (· ≠ '.') = name.toList.reverse :=
    List.takeWhile_eq_self_iff.mpr other
  simp only [extension?, after, List.length_reverse]
  simp

/-- An extension stands behind the last point of a name, and something stands before that. -/
theorem extension?_eq_some_iff {name ext : String} :
    extension? name = some ext ↔
      '.' ∉ ext.toList ∧ ∃ stem, stem ≠ [] ∧ name.toList = stem ++ '.' :: ext.toList := by
  constructor
  · intro found
    by_cases there : '.' ∈ name.toList
    · obtain ⟨after, before, whole, free⟩ :=
        List.eq_append_cons_of_mem (List.mem_reverse.mpr there)
      have split : name.toList = before.reverse ++ '.' :: after.reverse := by
        have := congrArg List.reverse whole
        simpa using this
      have free' : '.' ∉ after.reverse := mt List.mem_reverse.mp free
      rw [← String.ofList_toList (s := name), split, extension?_append free'] at found
      split at found
      · exact absurd found (by simp)
      · rename_i some_
        obtain rfl := Option.some.inj found
        refine ⟨by simpa using free, before.reverse, by simpa using some_, by simpa using split⟩
    · rw [extension?_of_notMem there] at found
      exact absurd found (by simp)
  · rintro ⟨free, stem, some_, whole⟩
    rw [← String.ofList_toList (s := name), whole, extension?_append free,
      if_neg (by simpa using some_), String.ofList_toList]

/-- An entry is an expired log: a file with something before `.log` in its name, whose last change
is longer ago than the given hours. -/
def Entry.IsExpiredLog (hours : UInt32) (entry : Entry) : Prop :=
  entry.node.isFile = true ∧
    (∃ name ∈ entry.path.getLast?, ∃ stem, stem ≠ [] ∧ name.toList = stem ++ ".log".toList) ∧
    (hours.toNat : Int) * 3600 * 1000000000 < entry.age

theorem Entry.isExpiredLog_iff (hours : UInt32) (entry : Entry) :
    entry.IsExpiredLog hours ↔ entry.node.isFile = true ∧
      entry.path.getLast?.bind extension? = some "log" ∧
      (hours.toNat : Int) * 3600 * 1000000000 < entry.age := by
  have plain : '.' ∉ "log".toList := by decide
  have whole : ".log".toList = '.' :: "log".toList := rfl
  simp only [IsExpiredLog, Option.bind_eq_some_iff, extension?_eq_some_iff, plain, whole,
    not_false_eq_true, true_and, Option.mem_def]

instance (hours : UInt32) (entry : Entry) : Decidable (entry.IsExpiredLog hours) :=
  decidable_of_iff' _ (entry.isExpiredLog_iff hours)

/-- The seconds of any number of hours fit into a word. -/
theorem toNat_retentionSeconds (hours : UInt32) :
    (retentionSeconds hours).toNat = hours.toNat * 3600 := by
  have := hours.toNat_lt
  rw [retentionSeconds, UInt64.toNat_mul, UInt32.toNat_toUInt64]
  exact Nat.mod_eq_of_lt (by simp; omega)

namespace FileTree

variable {tree : FileTree} {start folder : Path} {text name : String} {hours : UInt32}

theorem countP_of_forall {gone : Entry → Bool}
    (none_ : ∀ entry ∈ tree.entries, gone entry = false) : tree.entries.countP gone = 0 :=
  List.countP_eq_zero.mpr (by simpa using none_)

/-- If nothing is of a kind, nothing is removed or counted. -/
theorem removed_of_forall {gone : Entry → Bool}
    (none_ : ∀ entry ∈ tree.entries, gone entry = false) (deleted : UInt32) :
    (tree.without gone, deleted + UInt32.ofNat (tree.entries.countP gone)) = (tree, deleted) := by
  rw [without_of_forall none_, countP_of_forall none_]
  exact congrArg (Prod.mk tree) (UInt32.add_zero deleted)

/-- What is of one kind or another is counted in two steps. -/
theorem countP_or (tree : FileTree) (gone more : Entry → Bool) :
    tree.entries.countP (fun entry => gone entry || more entry) =
      tree.entries.countP gone + (tree.without gone).entries.countP more := by
  rw [List.countP_eq_countP_filter_add _ _ gone, List.countP_filter, without, List.countP_filter,
    List.countP_filter]
  congr 1
  all_goals exact List.countP_congr fun entry _ => by cases gone entry <;> simp

/-- The expired logs among some paths. -/
def expiredAt (hours : UInt32) (paths : List Path) (entry : Entry) : Bool :=
  entry.path ∈ paths && entry.IsExpiredLog hours

/-- The expired logs directly in a folder. -/
def expiredIn (hours : UInt32) (folder : Path) (entry : Entry) : Bool :=
  entry.path ≠ [] && entry.path.dropLast = folder && entry.IsExpiredLog hours

/-- A name that a folder may hold, with which the text of the folder is not too long. -/
structure Fits (text name : String) : Prop where
  isName : Path.IsName name
  short : (Path.join text name).utf8ByteSize ≤ Path.maxText

instance (text name : String) : Decidable (Fits text name) :=
  decidable_of_iff (Path.IsName name ∧ (Path.join text name).utf8ByteSize ≤ Path.maxText)
    ⟨fun h => ⟨h.1, h.2⟩, fun h => ⟨h.isName, h.short⟩⟩

/-- A text leads to a folder, with files and folders only in it, and each path of the tree stands
for one entry. -/
structure LogFolder (tree : FileTree) (start : Path) (text : String) (folder : Path) : Prop where
  distinct : tree.Distinct
  reached : tree.resolve start text = .ok folder
  isFolder : ∃ mode, tree.lookup folder = some (.folder mode)
  plain : ∀ entry ∈ tree.children folder, entry.node.isFile = true ∨ entry.node.isFolder = true
  fits : ∀ entry ∈ tree.children folder, ∀ name ∈ entry.path.getLast?, Fits text name

theorem mem_children_iff {entry : Entry} :
    entry ∈ tree.children folder ↔
      entry ∈ tree.entries ∧ entry.path ≠ [] ∧ entry.path.dropLast = folder := by
  simp [children]

theorem mem_children_of_without {gone : Entry → Bool} {entry : Entry}
    (there : entry ∈ (tree.without gone).children folder) : entry ∈ tree.children folder := by
  obtain ⟨kept, place⟩ := mem_children_iff.mp there
  exact mem_children_iff.mpr ⟨List.mem_of_mem_filter kept, place⟩

/-- A folder stays one when files are gone. -/
theorem LogFolder.without (log : LogFolder tree start text folder) {gone : Entry → Bool}
    (files : ∀ entry ∈ tree.entries, gone entry = true → entry.node.isFile = true) :
    LogFolder (tree.without gone) start text folder where
  distinct := log.distinct.without gone
  reached := resolve_without log.distinct files log.reached
  isFolder := log.isFolder.imp fun _ there =>
    lookup_without_of_not_isFile log.distinct files there rfl
  plain entry there := log.plain entry (mem_children_of_without there)
  fits entry there := log.fits entry (mem_children_of_without there)

theorem isFile_of_expiredAt {paths : List Path} {entry : Entry}
    (expired : expiredAt hours paths entry = true) : entry.node.isFile = true := by
  rw [expiredAt, Bool.and_eq_true, decide_eq_true_eq, decide_eq_true_eq] at expired
  exact expired.2.1

/-! ### One name -/

/-- A name in the folder leads to what has it there. -/
theorem LogFolder.resolve_join (log : LogFolder tree start text folder) (fits : Fits text name)
    (followLast : Bool) :
    tree.resolve start (Path.join text name) followLast = .ok (folder ++ [name]) := by
  obtain ⟨mode, there⟩ := log.isFolder
  refine FileTree.resolve_join log.reached there fits.isName fits.short fun _ target link => ?_
  rw [lookup, if_neg (by simp), Option.map_eq_some_iff] at link
  obtain ⟨entry, found, isLink⟩ := link
  obtain ⟨entry_there, place⟩ := log.distinct.find?_eq_some_iff.mp found
  have inside : entry ∈ tree.children folder := mem_children_iff.mpr ⟨entry_there, by simp [place]⟩
  rcases log.plain entry inside with file | isFolder
  · rw [isLink] at file
    cases file
  · rw [isLink] at isFolder
    cases isFolder

/-- The age of what has a name is that of its entry, unless the last change is in the future. -/
theorem LogFolder.any_age?_iff (log : LogFolder tree start text folder) (fits : Fits text name)
    {entry : Entry} (there : entry ∈ tree.entries) (place : entry.path = folder ++ [name])
    (least : Nat) :
    (tree.age? start (Path.join text name)).any (least < ·) = true ↔
      (least : Int) < entry.age := by
  have found := log.distinct.find?_eq_some_iff.mpr ⟨there, place⟩
  have facts := facts_eq (log.resolve_join fits true) (by simp)
  rw [found] at facts
  have age : tree.age? start (Path.join text name) =
      if entry.age < 0 then none else some entry.age.toNat := by
    rw [age?, facts]
    obtain ⟨_, node, _, _⟩ := entry
    cases node <;> rfl
  rw [age]
  split
  · simp only [Option.any_none, Bool.false_eq_true, false_iff]
    omega
  · simp only [Option.any_some, decide_eq_true_eq]
    omega

/-- A file is removed, and a folder is not. -/
theorem LogFolder.removeFile_eq (log : LogFolder tree start text folder) (fits : Fits text name)
    {entry : Entry} (there : entry ∈ tree.entries) (place : entry.path = folder ++ [name]) :
    tree.removeFile start (Path.join text name) =
      if entry.node.isFile then .ok (tree.erase (folder ++ [name])) else .error .isDirectory := by
  have found := log.distinct.find?_eq_some_iff.mpr ⟨there, place⟩
  have stands : tree.lookup (folder ++ [name]) = some entry.node := by
    rw [lookup, if_neg (by simp), found]
    rfl
  have inside : entry ∈ tree.children folder := mem_children_iff.mpr ⟨there, by simp [place]⟩
  have kind := log.plain entry inside
  simp only [removeFile, log.resolve_join fits false, bind, Except.bind, stands]
  revert kind
  cases entry.node <;> simp [Node.isFile, Node.isFolder]

/-- What has a name is removed and counted exactly if it is an expired log. -/
theorem LogFolder.cleanName_of_mem (log : LogFolder tree start text folder)
    (fits : Fits text name) {entry : Entry} (there : entry ∈ tree.entries)
    (place : entry.path = folder ++ [name]) (hours deleted : UInt32) :
    cleanName hours start text (tree, deleted) name =
      if entry.IsExpiredLog hours then (tree.erase (folder ++ [name]), deleted + 1)
      else (tree, deleted) := by
  have age := log.any_age?_iff fits there place ((retentionSeconds hours).toNat * Entry.perSecond)
  have least : (((retentionSeconds hours).toNat * Entry.perSecond : Nat) : Int) =
      (hours.toNat : Int) * 3600 * 1000000000 := by
    rw [toNat_retentionSeconds, Int.natCast_mul, Int.natCast_mul]
    rfl
  rw [least] at age
  have expired := entry.isExpiredLog_iff hours
  rw [place, List.getLast?_concat, Option.bind_some, ← age] at expired
  simp only [cleanName, log.removeFile_eq fits there place, expired]
  by_cases named : extension? name = some "log"
  · rw [if_neg (not_not_intro named)]
    cases entry.node.isFile <;> simp [named]
  · rw [if_pos named, if_neg fun all => named all.2.1]

/-- What has a name is the one entry there, so it is that entry or nothing that is expired. -/
theorem LogFolder.expiredAt_singleton (log : LogFolder tree start text folder) {entry : Entry}
    (there : entry ∈ tree.entries) (place : entry.path = folder ++ [name]) {other : Entry}
    (there' : other ∈ tree.entries) :
    expiredAt hours [folder ++ [name]] other =
      (decide (other.path = folder ++ [name]) && decide (entry.IsExpiredLog hours)) := by
  by_cases same : other.path = folder ++ [name]
  · have found := log.distinct.find?_eq_some_iff.mpr ⟨there, place⟩
    have found' := log.distinct.find?_eq_some_iff.mpr ⟨there', same⟩
    obtain rfl := Option.some.inj (found.symm.trans found')
    simp [expiredAt, same]
  · simp [expiredAt, same]

/-- What has a name is removed and counted if it is an expired log, and nothing else is changed. -/
theorem LogFolder.cleanName_eq (log : LogFolder tree start text folder) (fits : Fits text name)
    (hours deleted : UInt32) :
    cleanName hours start text (tree, deleted) name =
      (tree.without (expiredAt hours [folder ++ [name]]),
        deleted + UInt32.ofNat (tree.entries.countP (expiredAt hours [folder ++ [name]]))) := by
  cases found : tree.entries.find? (·.path = folder ++ [name]) with
  | none =>
    have away : ∀ entry ∈ tree.entries, expiredAt hours [folder ++ [name]] entry = false := by
      intro entry there
      have other := List.find?_eq_none.mp found entry there
      simp_all [expiredAt]
    have facts := facts_eq (log.resolve_join fits true) (by simp)
    rw [found] at facts
    have age : tree.age? start (Path.join text name) = none := by rw [age?, facts]; rfl
    rw [removed_of_forall away]
    simp [cleanName, age]
  | some entry =>
    obtain ⟨there, place⟩ := log.distinct.find?_eq_some_iff.mp found
    rw [log.cleanName_of_mem fits there place]
    split
    · rename_i expired
      have only : ∀ other ∈ tree.entries, expiredAt hours [folder ++ [name]] other =
          decide (other.path = folder ++ [name]) := fun other there' => by
        rw [log.expiredAt_singleton there place there', decide_eq_true expired, Bool.and_true]
      have one : tree.entries.countP (expiredAt hours [folder ++ [name]]) = 1 := by
        rw [← log.distinct.countP_path there, place]
        exact List.countP_congr fun other there' => by rw [only other there']
      rw [erase_eq_without, without_congr only, one]
      rfl
    · rename_i kept
      have away : ∀ other ∈ tree.entries, expiredAt hours [folder ++ [name]] other = false := by
        intro other there'
        rw [log.expiredAt_singleton there place there', decide_eq_false kept, Bool.and_false]
      exact (removed_of_forall away deleted).symm

/-! ### All names -/

theorem LogFolder.foldl_cleanName (log : LogFolder tree start text folder) {names : List String}
    (fits : ∀ name ∈ names, Fits text name) (hours deleted : UInt32) :
    names.foldl (cleanName hours start text) (tree, deleted) =
      (tree.without (expiredAt hours (names.map (folder ++ [·]))),
        deleted + UInt32.ofNat
          (tree.entries.countP (expiredAt hours (names.map (folder ++ [·]))))) := by
  induction names generalizing tree deleted with
  | nil =>
    have away : ∀ entry ∈ tree.entries, expiredAt hours [] entry = false :=
      fun entry _ => by simp [expiredAt]
    exact (removed_of_forall away deleted).symm
  | cons name names ih =>
    have fits := List.forall_mem_cons.mp fits
    have later : LogFolder (tree.without (expiredAt hours [folder ++ [name]])) start text folder :=
      log.without fun _ _ => isFile_of_expiredAt
    have either : expiredAt hours ((name :: names).map (folder ++ [·])) = fun entry =>
        expiredAt hours [folder ++ [name]] entry ||
          expiredAt hours (names.map (folder ++ [·])) entry := by
      funext entry
      simp [expiredAt, Bool.and_or_distrib_right]
    rw [List.foldl_cons, log.cleanName_eq fits.1, ih later fits.2, either, without_without,
      countP_or, UInt32.ofNat_add, UInt32.add_assoc]

/-! ### The log folder -/

theorem LogFolder.readFolder_eq (log : LogFolder tree start text folder) :
    tree.readFolder start text = .ok ((tree.children folder).filterMap (·.path.getLast?)) := by
  obtain ⟨mode, there⟩ := log.isFolder
  simp only [readFolder, log.reached, bind, Except.bind, there]

/-- The paths of the names in a folder are those of what stands directly in it. -/
theorem mem_map_names_iff {path : Path} :
    path ∈ ((tree.children folder).filterMap (·.path.getLast?)).map (folder ++ [·]) ↔
      ∃ entry ∈ tree.children folder, entry.path = path := by
  simp only [List.mem_map, List.mem_filterMap]
  constructor
  · rintro ⟨name, ⟨entry, there, last⟩, rfl⟩
    refine ⟨entry, there, ?_⟩
    rw [← (mem_children_iff.mp there).2.2]
    exact List.dropLast_append_getLast? name last |>.symm
  · rintro ⟨entry, there, rfl⟩
    obtain ⟨-, some_, inside⟩ := mem_children_iff.mp there
    refine ⟨entry.path.getLast some_, ⟨entry, there, List.getLast?_eq_some_getLast some_⟩, ?_⟩
    rw [← inside, List.dropLast_append_getLast some_]

/-- What stands directly in a folder is what has one of the names there. -/
theorem expiredAt_names {names : List String}
    (order : names.Perm ((tree.children folder).filterMap (·.path.getLast?))) (hours : UInt32)
    {entry : Entry} (there : entry ∈ tree.entries) :
    expiredAt hours (names.map (folder ++ [·])) entry = expiredIn hours folder entry := by
  have inside : entry.path ∈ names.map (folder ++ [·]) ↔
      entry.path ≠ [] ∧ entry.path.dropLast = folder := by
    rw [(order.map _).mem_iff, mem_map_names_iff]
    constructor
    · rintro ⟨other, other_there, same⟩
      exact same ▸ (mem_children_iff.mp other_there).2
    · exact fun place => ⟨entry, mem_children_iff.mpr ⟨there, place⟩, rfl⟩
  simp [expiredAt, expiredIn, inside]

/-- The expired logs of a folder are removed and counted in whatever order its names are taken. -/
theorem LogFolder.cleanNames_eq (log : LogFolder tree start text folder) (hours : UInt32)
    {names : List String}
    (order : names.Perm ((tree.children folder).filterMap (·.path.getLast?))) :
    tree.cleanNames start text hours names =
      (tree.without (expiredIn hours folder),
        UInt32.ofNat (tree.entries.countP (expiredIn hours folder))) := by
  have fits : ∀ name ∈ names, Fits text name := by
    intro name there
    obtain ⟨entry, inside, last⟩ := List.mem_filterMap.mp (order.mem_iff.mp there)
    exact log.fits entry inside name last
  have same : ∀ entry ∈ tree.entries,
      expiredAt hours (names.map (folder ++ [·])) entry = expiredIn hours folder entry :=
    fun entry there => expiredAt_names order hours there
  have number : tree.entries.countP (expiredAt hours (names.map (folder ++ [·]))) =
      tree.entries.countP (expiredIn hours folder) :=
    List.countP_congr fun entry there => by rw [same entry there]
  rw [cleanNames, log.foldl_cleanName fits, UInt32.zero_add, without_congr same, number]

theorem LogFolder.cleanLogs_eq (log : LogFolder tree start text folder) (hours : UInt32) :
    tree.cleanLogs start text hours =
      .ok (tree.without (expiredIn hours folder),
        UInt32.ofNat (tree.entries.countP (expiredIn hours folder))) := by
  obtain ⟨mode, there⟩ := log.isFolder
  have stat : tree.stat start text = .ok (.folder mode) := by
    simp only [FileTree.stat, log.reached, bind, Except.bind, there]
  have there? : tree.exists? start text = true := by rw [exists?, stat]; rfl
  rw [cleanLogs, if_pos there?, log.readFolder_eq]
  exact congrArg Except.ok (log.cleanNames_eq hours (.refl _))

theorem expiredIn_iff {entry : Entry} :
    expiredIn hours folder entry = true ↔
      entry.path ≠ [] ∧ entry.path.dropLast = folder ∧ entry.IsExpiredLog hours := by
  simp [expiredIn, and_assoc]

/-- With more hours fewer logs are expired. -/
theorem expiredIn_mono {more : UInt32} (longer : hours ≤ more) {entry : Entry}
    (expired : expiredIn more folder entry = true) : expiredIn hours folder entry = true := by
  have longer' : hours.toNat ≤ more.toNat := longer
  obtain ⟨some_, place, file, name, old⟩ := expiredIn_iff.mp expired
  exact expiredIn_iff.mpr ⟨some_, place, file, name, by omega⟩

/-- A text that leads nowhere has nothing to clean. Cleaning a folder of files and folders that a
text leads to, through whatever links, removes exactly the expired logs in it and gives their number
as a word, in whatever order its names are taken. A second run removes nothing, and more hours leave
more. The seconds of the hours do not overflow. -/
theorem cleanLogs_removes_expired (tree : FileTree) (start : Path) (text : String)
    (hours : UInt32) :
    (tree.exists? start text = false → tree.cleanLogs start text hours = .ok (tree, 0)) ∧
      (∀ folder, LogFolder tree start text folder →
        let left := tree.without (expiredIn hours folder)
        let number := tree.entries.countP (expiredIn hours folder)
        tree.cleanLogs start text hours = .ok (left, UInt32.ofNat number) ∧
          (number < UInt32.size → (UInt32.ofNat number).toNat = number) ∧
          left.cleanLogs start text hours = .ok (left, 0) ∧
          (∀ more, hours ≤ more → ∃ kept few,
            tree.cleanLogs start text more = .ok (kept, UInt32.ofNat few) ∧
              left.entries.Sublist kept.entries ∧ few ≤ number) ∧
          ∀ names, tree.readFolder start text = .ok names → ∀ order : List String,
            order.Perm names →
              tree.cleanNames start text hours order = (left, UInt32.ofNat number)) ∧
      (retentionSeconds hours).toNat = hours.toNat * 3600 := by
  refine ⟨fun missing => ?_, fun folder log => ?_, toNat_retentionSeconds hours⟩
  · rw [cleanLogs, missing]
    rfl
  · intro left number
    refine ⟨log.cleanLogs_eq hours, UInt32.toNat_ofNat_of_lt', ?_, fun more longer => ?_, ?_⟩
    · have gone : LogFolder left start text folder :=
        log.without fun _ _ expired => (expiredIn_iff.mp expired).2.2.1
      have none_ : ∀ entry ∈ left.entries, expiredIn hours folder entry = false := by
        intro entry kept
        simpa using List.of_mem_filter kept
      rw [gone.cleanLogs_eq hours, without_of_forall none_, countP_of_forall none_]
      rfl
    · refine ⟨_, _, log.cleanLogs_eq more, ?_, ?_⟩
      · refine List.monotone_filter_right _ fun entry kept => ?_
        simp only [Bool.not_eq_true'] at kept ⊢
        exact Bool.eq_false_iff.mpr fun expired =>
          Bool.eq_false_iff.mp kept (expiredIn_mono longer expired)
      · exact List.countP_mono_left fun entry _ => expiredIn_mono longer
    · intro names read order perm
      rw [log.readFolder_eq] at read
      obtain rfl := Except.ok.inj read
      exact log.cleanNames_eq hours perm

/-- After a day one log of six is expired, in a folder that is reached through a link. The others
have no name before the extension, are a day old to the nanosecond, come from the future, have
another extension, or are a folder. -/
theorem cleanLogs_removes_expired_day :
    let folder : Path := ["data", "logs"]
    let aged (name : String) (age : Int) : Entry :=
      .alone (folder ++ [name]) (.file .empty Node.usualMode) age
    let kept : List Entry := [.alone ["home"] (.link "data"), .alone ["data"] .usualFolder,
      .alone folder .usualFolder, aged ".log" 90000000000000, aged "b.log" 86400000000000,
      aged "c.log" (-90000000000000), aged "d.log.gz" 90000000000000,
      .alone (folder ++ ["e.log"]) .usualFolder 90000000000000]
    let tree : FileTree := ⟨kept ++ [aged "a.b.log" 86400000000001]⟩
    LogFolder tree ["data"] "../home/logs" folder ∧
      tree.cleanLogs ["data"] "../home/logs" 24 = .ok (⟨kept⟩, 1) ∧
      FileTree.cleanLogs ⟨kept⟩ ["data"] "../home/logs" 24 = .ok (⟨kept⟩, 0) ∧
      tree.cleanNames ["data"] "../home/logs" 24
        ["a.b.log", "e.log", "d.log.gz", "c.log", "b.log", ".log"] = (⟨kept⟩, 1) := by
  intro folder aged kept tree
  have reached : tree.resolve ["data"] "../home/logs" = .ok folder :=
    resolve_eq_ok_iff.mpr (by decide +kernel)
  have log : LogFolder tree ["data"] "../home/logs" folder :=
    ⟨by decide +kernel, reached, ⟨0o755, rfl⟩, by decide +kernel, by decide +kernel⟩
  have left : tree.without (expiredIn 24 folder) = ⟨kept⟩ := by rfl
  have number : tree.entries.countP (expiredIn 24 folder) = 1 := by decide +kernel
  obtain ⟨first, -, second, -, ordered⟩ :=
    (cleanLogs_removes_expired tree ["data"] "../home/logs" 24).2.1 folder log
  have turned := ordered _ log.readFolder_eq _ (List.reverse_perm _)
  rw [left] at first second turned
  rw [number] at first turned
  exact ⟨log, first, second, turned⟩

end FileTree

end RemoteAttach
