import RemoteAttach.Files.Facts
import RemoteAttach.Installed
import RemoteAttach.Machine

/-! A machine whose programs are written out here: a small system with the usual folders, two shells
and the tools that scripts for them call. It is one machine of many: nothing outside the program and
its tests depends on what these programs do. -/

namespace RemoteAttach.SmallSystem

/-- The depth of scripts beyond which a program is taken for endless. -/
def patience : Nat := 10000

/-- The folders of the system. -/
def systemFolders : List Path :=
  [["dev"], ["etc"], ["home"], ["mnt"], ["opt"], ["proc"], ["root"], ["run"], ["srv"], ["tmp"],
    ["usr"], ["usr", "bin"], ["usr", "lib"], ["usr", "lib64"], ["usr", "local"],
    ["usr", "local", "bin"], ["usr", "sbin"], ["usr", "share"], ["var"], ["var", "tmp"]]

/-- The folders of the system in which everyone may keep files. -/
def openFolders : List Path := [["tmp"], ["var", "tmp"]]

/-- The links of the system. -/
def systemLinks : List (Path × String) :=
  [(["bin"], "usr/bin"), (["sbin"], "usr/sbin"), (["lib"], "usr/lib"), (["lib64"], "usr/lib64")]

/-- The users of the system. -/
def systemUsers : String :=
  "root:x:0:0:root:/root:/bin/bash\ndaemon:x:1:1:daemon:/usr/sbin:/usr/sbin/nologin\n" ++
    "bin:x:2:2:bin:/bin:/usr/sbin/nologin\nsys:x:3:3:sys:/dev:/usr/sbin/nologin\n" ++
    "nobody:x:65534:65534:nobody:/nonexistent:/usr/sbin/nologin\n"

/-- What stands in every tree of a system. -/
def systemEntries : List Entry :=
  let entry := fun (path : Path) (node : Node) => Entry.alone path node FileFacts.systemAge
  systemFolders.map (fun path => entry path (.folder (if (openFolders : List Path).contains path
      then 0o1777 else if path = ["root"] then 0o700 else if path = ["proc"] then 0o555
      else 0o755))) ++
    systemLinks.map (fun (path, target) => entry path (.link target)) ++
    Installed.names.map (fun name => entry ["usr", "bin", name] (.program name)) ++
    [entry ["dev", "null"] .sink, entry ["dev", "zero"] .zeros,
      entry ["etc", "passwd"] (.file systemUsers.toUTF8 Node.usualMode)]

/-- A tree of files with what stands in every tree of a system. -/
def withSystem (files : FileTree) : FileTree :=
  ⟨files.entries ++ systemEntries.filter fun entry => (files.lookup entry.path).isNone⟩

/-- The environment as a program finds it that takes the text up to the first equals sign for the
name of a variable, and the last one of several with a name. -/
def settings (s : Surroundings) : List (String × String) :=
  s.environment.foldl (fun all (name, value) =>
    let chars := name.toList
    let before := chars.takeWhile (· ≠ '=')
    if before.length = chars.length then putPair name value all
    else
      let behind := String.ofList (chars.drop (before.length + 1))
      putPair (String.ofList before) (behind ++ "=" ++ value) all) []

/-- The folders that programs are looked for in. -/
def searchPath (s : Surroundings) : String :=
  ((s.environment.find? (·.1 = "PATH")).map (·.2)).getD "/bin:/usr/bin"

/-- A tree with the texts in it changed. -/
def mapTexts (change : String → String) (files : FileTree) : FileTree :=
  ⟨files.entries.map fun entry =>
    { entry with
      path := entry.path.map change
      node := match entry.node with
        | .link target => .link (change target)
        | node => node }⟩

/-- The most bytes that an argument or the setting of a variable may have. -/
def maxArgument : Nat := 131071

/-- Runs a program with its arguments and input, for so many milliseconds at most. What it has left
in the background may take longer. -/
def start (s : Surroundings) (name : String) (args : List String) (input : List UInt8)
    (limit : Option Nat) : Except Machine.Failure Ending :=
  if name.isEmpty then .error (.refused .notFound)
  else
    let files := mapTexts Text.packed s.files
    let folder := s.folder.map Text.packed
    let args := args.map Text.packed
    let environment := (settings s).map fun (name, value) =>
      (Text.packed name, Text.packed value)
    let name := Text.packed name
    let found : Except FileError Program :=
      match files.programNamed folder (Text.packed (searchPath s)) name with
      | .ok program =>
        .ok (if program.args.isEmpty then { program with called := name } else program)
      | .error (text, .notExecutable) =>
        if s.looksAgain && !name.contains '/' then .ok ⟨"sh", "/bin/sh", [text]⟩
        else .error .notExecutable
      | .error (_, e) => .error e
    let texts := args ++ environment.map fun (name, value) => name ++ "=" ++ value
    let found := if found.isOk && texts.any fun text => maxArgument < text.length then
        .error .tooLongArguments
      else found
    match found with
    | .error e => .error (.refused e)
    | .ok program =>
      let state : Shell.State := {
        files, folder
        folderText := if folder.isEmpty then "/" else Path.text folder
        channels := #[.source (Text.ofBytes input) false, .buffer [] none, .buffer [] none]
        streams := [(0, 0), (1, 1), (2, 2)]
        deadline := limit }
      let r := Installed.runner patience
      let action : Shell.Act ExitStatus := do
        let signal ← Shell.Act.child (r.program environment program args)
        let status := (← get).status
        modify fun s => { s with deadline := none }
        Shell.Job.runAll r
        pure (signal.elim (.exited status) .killed)
      match action state with
      | (.error _, _) => .error .endless
      | (.ok status, after) =>
        let written := fun (index : Nat) =>
          Text.toBytes ((after.channels[index]?.map Shell.Channel.written).getD [])
        .ok ⟨status, written 1, written 2, mapTexts Text.unpacked after.files⟩

/-- A machine with these programs. -/
def machine (files : FileTree) (folder : Path) (environment : List (String × String)) :
    Machine where
  files := withSystem files
  folder
  environment
  start

end RemoteAttach.SmallSystem
