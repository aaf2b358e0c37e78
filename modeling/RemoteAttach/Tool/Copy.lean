import RemoteAttach.Tool.Backup

/-! Programs that copy and move files. -/

namespace RemoteAttach.Tool

open Shell Act

/-- The node is a link. -/
def isLink : Node → Bool
  | .link _ => true
  | _ => false

/-- The text of a name in a folder. -/
def inFolder (folder name : String) : String :=
  if folder.endsWith "/" then folder ++ name else folder ++ "/" ++ name

/-- The options of programs that copy and move. -/
def copyOptions (letters : String) : Options where
  letters := letters
  names := Backup.names ++ [("archive", 'a', .nothing), ("force", 'f', .nothing),
    ("interactive", 'i', .nothing), ("no-clobber", 'n', .nothing), ("update", 'u', .nothing),
    ("verbose", 'v', .nothing), ("target-directory", 't', .value),
    ("no-target-directory", 'T', .nothing), ("recursive", 'r', .nothing),
    ("dereference", 'L', .nothing), ("no-dereference", 'P', .nothing), ("link", 'l', .nothing),
    ("symbolic-link", 's', .nothing), ("preserve", 'p', .perhaps), ("parents", '1', .nothing),
    ("no-preserve", '2', .value), ("one-file-system", 'x', .nothing),
    ("strip-trailing-slashes", '3', .nothing), ("remove-destination", '4', .nothing),
    ("reflink", '5', .perhaps), ("sparse", '6', .value), ("attributes-only", '7', .nothing),
    ("copy-contents", '8', .nothing)]

/-- What is known about a file besides its content, in the words of an option. -/
def attributes : List (List String) :=
  [["mode"], ["timestamps"], ["ownership"], ["links"], ["context"], ["xattr"], ["all"]]

/-- The places of the attributes that a text names between commas. -/
def attributesIn (title text : String) : Act (List Nat) :=
  (text.splitOn ",").mapM (choose title attributes)

/-- Looks through the values of options, the first one first, and at options that do not go
together. -/
def checkCopyOptions (f : Found) : Act Unit := do
  let _ ← f.options.foldlM (fun (folders : Nat) (c, text) => do
    match c with
    | 'p' =>
      if !text.isEmpty then discard (attributesIn "--preserve" text)
      pure folders
    | '2' =>
      discard (attributesIn "--no-preserve" text)
      pure folders
    | '5' =>
      if !text.isEmpty then discard (choose "--reflink" [["auto"], ["always"], ["never"]] text)
      pure folders
    | '6' =>
      discard (choose "--sparse" [["never"], ["auto"], ["always"]] text)
      pure folders
    | 't' =>
      if folders ≠ 0 then fail "multiple target directories specified"
      match (← get).facts text with
      | .ok facts =>
        if facts.kind ≠ .folder then
          fail ("target directory " ++ inQuotes text ++ ": " ++ FileError.notDirectory.reason)
      | .error e => fail ("target directory " ++ inQuotes text ++ ": " ++ e.reason)
      pure (folders + 1)
    | _ => pure folders) 0
  if f.has 'l' && f.has 's' then misuse "cannot make both hard and symbolic links"
  if (f.has 'b' || f.has 'S') && f.last? ['i', 'n', 'f'] = some 'n' then
    misuse "options --backup and --no-clobber are mutually exclusive"

/-- The pairs of texts that a call of such a program is about: from where, and to where. -/
def copyPairs (f : Found) : Act (List (String × String)) := do
  let s ← get
  let into := fun (folder : String) (sources : List String) =>
    sources.map fun source =>
      (source, inFolder folder (if f.has '1' then source else lastName source))
  match f.value? 't', f.operands with
  | _, [] => misuse "missing file operand"
  | some folder, sources =>
    if f.has 'T' then
      fail "cannot combine --target-directory (-t) and --no-target-directory (-T)"
    pure (into folder sources)
  | none, [source] => misuse ("missing destination file operand after " ++ inQuotes source)
  | none, [source, aim] =>
    if !f.has 'T' && s.files.isFolder s.folder aim then pure (into aim [source])
    else if f.has '1' then misuse "with --parents, the destination must be a directory"
    else pure [(source, aim)]
  | none, operands =>
    if f.has 'T' then misuse ("extra operand " ++ inQuotes (operands.getD 2 ""))
    else
      let folder := operands.getLastD ""
      match s.facts folder with
      | .ok facts =>
        if facts.kind = .folder then pure (into folder operands.dropLast)
        else fail ("target " ++ inQuotes folder ++ ": " ++ FileError.notDirectory.reason)
      | .error e => fail ("target " ++ inQuotes folder ++ ": " ++ e.reason)

/-- What a program that copies has been told to do. -/
structure CopyForm where
  deep : Bool
  keepsMode : Bool
  keepsAge : Bool
  /-- What stands in the way stays. -/
  keepsOld : Bool
  /-- It is asked whether what stands in the way may go. -/
  asks : Bool
  forced : Bool
  /-- What stands in the way is removed, and not written to. -/
  removesOld : Bool
  /-- Only what is newer is copied. -/
  updates : Bool
  tells : Bool
  soft : Bool
  hard : Bool
  /-- No content is copied. -/
  bare : Bool
  /-- Links are followed that are named, and those below. -/
  follows : Bool
  followsBelow : Bool
  backup : Backup
  /-- What stands here is not copied, because it has only come from the copying. -/
  avoided : Option Path := none

/-- The form that options ask for. -/
def CopyForm.ofFound (f : Found) : Act CopyForm := do
  let deep := f.has 'r' || f.has 'R' || f.has 'a'
  let last := f.last? ['L', 'P', 'd', 'a', 'H']
  let kept ← ((f.values 'p').filter (· ≠ "")).mapM (attributesIn "--preserve")
  let all := f.has 'a' || (f.values 'p').contains "" || kept.flatten.contains 6
  let way := f.last? ['i', 'n']
  pure { deep
         keepsMode := all || kept.flatten.contains 0
         keepsAge := all || kept.flatten.contains 1
         keepsOld := way = some 'n'
         asks := way = some 'i'
         forced := f.has 'f'
         removesOld := f.has '4'
         updates := f.has 'u'
         tells := f.has 'v'
         soft := f.has 's'
         hard := f.has 'l'
         bare := f.has '7'
         follows := last = some 'L' || last = some 'H' || (last.isNone && !deep)
         followsBelow := last = some 'L' || (last.isNone && !deep)
         backup := ← Backup.ofFound f }

/-- What is made in the place of a copy, of which `old` is what stands there. -/
def copyOf (s : State) (form : CopyForm) (source : String) (node : Node) (old : Option Node) :
    Node :=
  match node, old with
  | .file content mode, some (.file oldContent oldMode) =>
    .file (if form.bare then oldContent else content) (if form.keepsMode then mode else oldMode)
  | .file content mode, some (.program _) =>
    .file content (if form.keepsMode then mode else Node.programMode)
  | .file content mode, _ =>
    if form.soft then .link source
    else .file (if form.bare then .empty else content)
      (if form.keepsMode then mode else mode &&& (0o777 ^^^ s.mask))
  | .sink, some (.file _ mode) | .zeros, some (.file _ mode) => .file .empty mode
  | .sink, _ | .zeros, _ => .file .empty (newMode s)
  | .folder mode, _ => .folder (if form.keepsMode then mode else mode &&& (0o7777 ^^^ s.mask))
  | node, _ => node

/-- What a text leads to that is copied, and the state after that. A stream is copied like a file
that holds the rest of it. -/
def sourceAt (s : State) (text : String) (follows : Bool) :
    Except FileError (Path × Node) × State :=
  match streamOfPath? text with
  | none => (nodeAt s text follows, s)
  | some stream =>
    match s.rest? stream, s.facts text with
    | some rest, .ok facts =>
      let node := Node.file (Text.toContent rest) facts.mode
      (.ok (["dev", "fd", toString stream], node), s.advance stream rest.length)
    | _, _ => (.error .notFound, s)

/-- Tells that something has been copied or moved, and what has become of what was in the way. -/
def tellAct (words source aim : String) (kept : Option String) : Act Unit :=
  let behind := kept.elim "" fun ending => " (backup: " ++ inQuotes (aim ++ ending) ++ ")"
  writeLines [words ++ inQuotes source ++ " -> " ++ inQuotes aim ++ behind]

/-- Makes the copy of a file that is no folder, where nothing stands. -/
def placeCopy (form : CopyForm) (source aim : String) (start path : Path) (node : Node)
    (kept : Option String) : Act Unit := do
  let s ← get
  let kind := if isLink node then "symbolic link" else "regular file"
  if aim.endsWith "/" then deploreDoing ("cannot create " ++ kind) aim .notDirectory
  else if !isLink node && (nodeAt s aim false).toOption.any (isLink ·.2) then
    deplore ("not writing through dangling symlink " ++ inQuotes aim)
  else if form.soft && !isLink node && !source.startsWith "/" && path.dropLast ≠ s.folder then
    deplore (shown aim ++ ": can make relative symbolic links only in current directory")
  else
    let age := if form.keepsAge then
        (s.files.entries.find? (·.path = start)).elim 0 (·.age) else 0
    let files := if form.hard then s.files.addName start path
      else s.files.add (.alone path (copyOf s form source node none) age)
    set { s with files }
    if form.tells then tellAct "" source aim kept

/-- Makes the copy of a file that is no folder, where another one stands that is none either. -/
def replaceCopy (form : CopyForm) (source aim : String) (start path : Path) (node old : Node) :
    Act Unit := do
  let s ← get
  let ageOf := fun (path : Path) => (s.files.entries.find? (·.path = path)).map (·.age)
  let newer := match ageOf path, ageOf start with
    | some there, some here => there ≤ here
    | _, _ => false
  if form.keepsOld || (form.updates && newer) then pure ()
  else if ← isDeclined form.asks ("overwrite " ++ inQuotes aim) then pure ()
  else if form.backup ≠ .none then
    let kept ← form.backup.keep path
    placeCopy form source aim start path node kept
  else if form.removesOld || isLink node || (form.forced && (form.soft || form.hard)) then
    modify fun s => { s with files := s.files.erase path }
    if form.tells then writeLines ["removed " ++ inQuotes aim]
    placeCopy form source aim start path node none
  else if form.soft || form.hard then
    let kind := if form.soft then "symbolic" else "hard"
    deplore ("cannot create " ++ kind ++ " link " ++ inQuotes aim ++ " to " ++ inQuotes source ++
      ": " ++ FileError.alreadyExists.reason)
  else
    match old with
    | .sink | .zeros => pure ()
    | _ =>
      let age := if form.keepsAge then (ageOf start).getD 0 else 0
      modify fun s => { s with
        files := s.files.replace (.alone path (copyOf s form source node old) age) }
    if form.tells then tellAct "" source aim none

/-- Copies one file, or a folder with what is in it. -/
def copyOne (form : CopyForm) : Nat → Bool → String → String → Act Unit
  | 0, _, _, _ => throw .endless
  | fuel + 1, top, source, aim => do
    let (found, s) := sourceAt (← get) source (if top then form.follows else form.followsBelow)
    match found with
    | .error e => deploreDoing "cannot stat" source e
    | .ok (start, node) =>
      let kind := if node.isFolder then "directory" else if isLink node then "symbolic link"
        else "regular file"
      let stays := isLink node || (form.soft &&
        (nodeAt s (bareText aim) false).toOption.any fun (_, node) => isLink node)
      match s.files.resolve s.folder (bareText aim) (!stays) with
      | .error e =>
        deploreDoing (if e = .notDirectory then "cannot stat" else "cannot create " ++ kind) aim e
      | .ok path =>
        let old := s.files.lookup path
        let age := if form.keepsAge then
            (s.files.entries.find? (·.path = start)).elim 0 (·.age) else 0
        let inside := fun (form : CopyForm) =>
          forAll (s.files.children start) fun entry =>
            let name := entry.path.getLastD ""
            copyOne form fuel false (inFolder source name) (inFolder aim name)
        if form.avoided = some start then pure ()
        else if node.isFolder && !form.deep then
          deplore ("-r not specified; omitting directory " ++ inQuotes source)
        else if old.isSome && s.files.firstName start = s.files.firstName path then
          if form.hard then pure ()
          else if start = path && form.forced && form.backup ≠ .none then
            let spare := form.backup.ending s path
            let copied := copyOf s form source node none
            let place := path.dropLast ++ [path.getLastD "" ++ spare]
            set { s with files := (s.files.erase place).add (.alone place copied age) }
            if form.tells then tellAct "" source (aim ++ spare) none
          else deplore (inQuotes source ++ " and " ++ inQuotes aim ++ " are the same file")
        else if node.isFolder && form.avoided.isNone && start.isPrefixOf path then
          let made := copyOf s form source node old
          if old.isNone then set { s with files := s.files.add (.alone path made age) }
          inside { form with avoided := some path }
          deplore ("cannot copy a directory, " ++ inQuotes source ++ ", into itself, " ++
            inQuotes aim)
        else
          match old with
          | some (.folder _) =>
            if node.isFolder then inside form
            else deplore ("cannot overwrite directory " ++ inQuotes aim ++ " with non-directory")
          | some other =>
            if node.isFolder then
              deplore ("cannot overwrite non-directory " ++ inQuotes aim ++ " with directory " ++
                inQuotes source)
            else replaceCopy form source aim start path node other
          | none =>
            if node.isFolder then
              let made := copyOf s form source node old
              set { s with files := s.files.add (.alone path made age) }
              if form.tells then tellAct "" source aim none
              inside form
            else placeCopy form source aim start path node none

/-- Goes through the pairs of a call. What has just been made is not made again from another file,
and a source that is named twice is only warned of if the program tells such sources. -/
def eachOnce (tellsSources : Bool) (pairs : List (String × String))
    (action : String → String → Act Unit) : Act Unit := do
  let _ ← pairs.foldlM (fun (before : List Path × List Path) (source, aim) => do
    let (sources, made) := before
    let s ← get
    let start := nodeAt s source false
    let place := (s.files.resolve s.folder (bareText aim) false).toOption
    let isAgain := fun (seen : List Path) (node : Option Node) (path : Option Path) =>
      (node.any fun node => !node.isFolder) && path.any seen.contains
    match start with
    | .error _ =>
      action source aim
      pure before
    | .ok (path, node) =>
      if tellsSources && sources.contains path then
        complain ("warning: source " ++ (if node.isFolder then "directory " else "file ") ++
          inQuotes source ++ " specified more than once")
        pure before
      else if isAgain made (place.bind s.files.lookup) place then
        deplore ("will not overwrite just-created " ++ inQuotes aim ++ " with " ++ inQuotes source)
        pure before
      else
        action source aim
        pure (path :: sources, (place.filter (· ≠ path)).toList ++ made)) ([], [])

/-- Makes the folders in a folder that lead to the copy of a source, as far as they are not
there. -/
def makeParents (tells : Bool) (source aim : String) : Act Unit := do
  let ways := (waysTo source).dropLast
  let folder := String.ofList (aim.toList.take (aim.length - source.length))
  forAll ways fun way => do
    let s ← get
    let text := folder ++ way
    if !s.files.isFolder s.folder text then
      match ← makeFolder text with
      | none => if tells then writeLines [way ++ " -> " ++ text]
      | some e => deploreDoing "cannot make directory" text e

/-- Copies files. -/
def cp (args : List String) : Act Unit := do
  let f ← options (copyOptions "abdfHilLnprRsS:t:TuvxPZ") args
  checkCopyOptions f
  let form ← CopyForm.ofFound f
  let pairs ← copyPairs f
  eachOnce true pairs fun source aim => do
    if f.has '1' then makeParents form.tells source aim
    let size := (← get).files.entries.length
    copyOne form (2 * size + 10) true source aim

/-- Makes the folders on the way to a text that are not there, and tells of them if it is to. The
answer is that they are all there then. Another name may follow the last one. -/
def installFolders (tells follows : Bool) (mode : Option Nat) : List String → Act Bool
  | [] => pure true
  | text :: rest => do
    let s ← get
    if s.files.isFolder s.folder text then installFolders tells follows mode rest
    else
      match ← makeFolder text (if rest.isEmpty then mode else some 0o755) with
      | none =>
        if tells then writeLines [s.name ++ ": creating directory " ++ inQuotes text]
        installFolders tells follows mode rest
      | some e =>
        let e := if e = .alreadyExists && (follows || !rest.isEmpty) then .notDirectory else e
        deploreDoing "cannot create directory" text e
        pure false

/-- Puts a copy of one file in a place, with permission bits of its own. -/
def installOne (mode : Nat) (tells : Bool) (source aim : String) : Act Unit := do
  let (found, s) := sourceAt (← get) source true
  match found, s.files.resolve s.folder (bareText aim) with
  | .error e, _ => deploreDoing "cannot stat" source e
  | .ok (_, .folder _), _ => deplore ("omitting directory " ++ inQuotes source)
  | .ok _, .error e => deploreDoing "cannot create regular file" aim e
  | .ok (start, node), .ok path =>
    let content := match node with
      | .file content _ => content
      | _ => .empty
    let entry : Entry := .alone path (.file content mode)
    match s.files.lookup path with
    | some (.folder _) =>
      deplore ("cannot overwrite directory " ++ inQuotes aim ++ " with non-directory")
    | some _ =>
      if start = path then
        deplore (inQuotes source ++ " and " ++ inQuotes aim ++ " are the same file")
      else
        set { s with files := (s.files.erase path).add entry }
        if tells then
          writeLines ["removed " ++ inQuotes aim, inQuotes source ++ " -> " ++ inQuotes aim]
    | none =>
      if aim.endsWith "/" then deploreDoing "cannot create regular file" aim .notDirectory
      else
        set { s with files := s.files.add entry }
        if tells then writeLines [inQuotes source ++ " -> " ++ inQuotes aim]

/-- Copies files to places of their own with permission bits, or makes folders. -/
def install (args : List String) : Act Unit := do
  let f ← options {
    letters := "bcCsDdg:m:o:pt:TvS:Z"
    names := [("backup", 'b', .perhaps), ("compare", 'C', .nothing), ("directory", 'd', .nothing),
      ("group", 'g', .value), ("mode", 'm', .value), ("owner", 'o', .value),
      ("preserve-timestamps", 'p', .nothing), ("strip", 's', .nothing), ("suffix", 'S', .value),
      ("target-directory", 't', .value), ("no-target-directory", 'T', .nothing),
      ("verbose", 'v', .nothing)] } args
  let mode ← match f.value? 'm' with
    | none => pure 0o755
    | some text =>
      match Mode.read? text with
      | some change => pure (change.apply 0 false 0)
      | none => fail ("invalid mode " ++ inQuotes text)
  if f.has 'd' then
    if f.operands.isEmpty then misuse "missing file operand"
    forAll f.operands fun text => do
      let _ ← installFolders (f.has 'v') false (some mode) (waysTo text)
  else
    let ways := match f.has 'D', f.value? 't', f.operands with
      | true, some folder, _ => waysTo folder
      | true, none, [_, aim] => (waysTo aim).dropLast
      | _, _, _ => []
    if ← installFolders (f.has 'v') true (some 0o755) ways then
      let pairs ← copyPairs f
      eachOnce false pairs (installOne mode (f.has 'v'))

/-- Moves one file or folder. -/
def moveOne (form : CopyForm) (source aim : String) : Act Unit := do
  let s ← get
  let refuse := fun (e : FileError) =>
    deplore ("cannot move " ++ inQuotes source ++ " to " ++ inQuotes aim ++ ": " ++ e.reason)
  let isBareLink := source.endsWith "/" && (nodeAt s (bareText source) false).toOption.any
    fun (_, node) => isLink node
  match nodeAt s source false with
  | .error e => deploreDoing "cannot stat" source e
  | .ok (start, node) =>
    match s.files.resolve s.folder (bareText aim) false with
    | .error e =>
      if e = .notDirectory then deploreDoing "cannot stat" aim e else refuse e
    | .ok path =>
      let age := fun (path : Path) => (s.files.entries.find? (·.path = path)).elim 0 (·.age)
      let move : Act Unit := do
        let kept ← form.backup.keep path
        modify fun s => { s with files := movedTo (s.files.erase path) start path }
        if form.tells then tellAct "renamed " source aim kept
      let intoItself := "cannot move " ++ inQuotes source ++ " to a subdirectory of itself, " ++
        inQuotes aim
      match s.files.lookup path with
      | none =>
        if start.isPrefixOf path then deplore intoItself
        else if isBareLink || (aim.endsWith "/" && !node.isFolder) then refuse .notDirectory
        else move
      | some old =>
        if s.files.firstName start = s.files.firstName path then
          deplore (inQuotes source ++ " and " ++ inQuotes aim ++ " are the same file")
        else if form.keepsOld || (form.updates && !node.isFolder && age path ≤ age start) then
          pure ()
        else if ← isDeclined form.asks ("overwrite " ++ inQuotes aim) then pure ()
        else if form.backup ≠ .none then
          if start.isPrefixOf path then deplore intoItself else move
        else if node.isFolder && !old.isFolder then
          deplore ("cannot overwrite non-directory " ++ inQuotes aim ++ " with directory " ++
            inQuotes source)
        else if old.isFolder && !node.isFolder then
          deplore ("cannot overwrite directory " ++ inQuotes aim ++ " with non-directory")
        else if old.isFolder && !(s.files.children path).isEmpty then
          deploreDoing "cannot overwrite" aim .notEmpty
        else move

/-- Moves files. -/
def mv (args : List String) : Act Unit := do
  let f ← options (copyOptions "bfinS:t:TuvZ") args
  checkCopyOptions f
  let way := f.last? ['f', 'i', 'n']
  let form := { ← CopyForm.ofFound f with keepsOld := way = some 'n', asks := way = some 'i' }
  let f := if f.has '3' then { f with operands := f.operands.map bareText } else f
  eachOnce false (← copyPairs f) (moveOne form)

end RemoteAttach.Tool
