import RemoteAttach.CommandLine
import RemoteAttach.Logs.Stamp
import RemoteAttach.SmallSystem

/-! The program. It reads what a run can look at into a tree of files, runs the command line there,
and carries out what has changed. -/

namespace RemoteAttach.Main

/-- The nanoseconds from the beginning of 1970 until a time. -/
def nanoseconds (time : IO.FS.SystemTime) : Int :=
  time.sec * Entry.perSecond + time.nsec.toNat

/-- The nanoseconds from the beginning of 1970 until now, read off a file that is made for that. -/
def now : IO Int := do
  let (_, path) ← IO.FS.createTempFile
  let info ← path.metadata
  IO.FS.removeFile path
  pure (nanoseconds info.modified)

/-- Puts what stands at a path into the tree, with the folders on the way to it. Nothing is put
where nothing can be read. -/
def read (tree : FileTree) (time : Int) (folder : Path) (text : String) : IO FileTree := do
  let names := Path.namesFrom folder text
  let place := if names.isEmpty then "/" else Path.text names
  try
    let info ← (System.mkFilePath [place]).metadata
    let above := (tree.makeFolders names.dropLast).toOption.getD tree
    match above.resolve [] place, info.type with
    | .ok path, .dir => pure ((above.makeFolders path).toOption.getD above)
    | .ok path, _ =>
      let content ← IO.FS.readBinFile (System.mkFilePath [place])
      let made := (above.put path content).toOption.getD above
      let age := time - nanoseconds info.modified
      pure (made.replace (.alone path (.file content Node.usualMode) age))
    | .error _, _ => pure above
  catch _ => pure tree

/-- The texts of the paths directly in a folder. -/
def inside (folder : String) : IO (List String) := do
  try
    let entries ← (System.mkFilePath [folder]).readDir
    pure (entries.toList.map (·.path.toString))
  catch _ => pure []

/-- Carries out what differs between two trees: what is new or changed is written, and what is gone
is removed. -/
def carryOut (before after : FileTree) : IO Unit := do
  for entry in after.entries do
    let place := System.mkFilePath [Path.text entry.path]
    match entry.node, before.lookup entry.path with
    | .folder _, none => IO.FS.createDirAll place
    | .file content _, some (.file old _) =>
      if content.toList ≠ old.toList then IO.FS.writeBinFile place content
    | .file content _, none => IO.FS.writeBinFile place content
    | _, _ => pure ()
  for entry in before.entries do
    if (after.lookup entry.path).isNone then
      IO.FS.removeFile (System.mkFilePath [Path.text entry.path])

end RemoteAttach.Main

open RemoteAttach in
/-- Runs the program. -/
def main (args : List String) : IO UInt32 := do
  let home := (← IO.getEnv "HOME").getD "/"
  let searchPath := (← IO.getEnv "PATH").getD "/usr/bin:/bin"
  let folder := Path.steps (← IO.currentDir).toString
  let time ← Main.now
  let logs ← Main.inside (home ++ "/.pipeattach/logs")
  let texts := Path.text folder :: (home ++ "/.pipeattachrc") :: logs ++ args
  let tree ← texts.foldlM (fun tree text => Main.read tree time folder text) {}
  let machine := SmallSystem.machine tree folder [("HOME", home), ("PATH", searchPath)]
  let seconds := time.toNat / Entry.perSecond
  let report := CommandLine.run machine (Stamp.ofSeconds seconds) args
  Main.carryOut machine.files report.files
  IO.print report.output
  IO.eprint report.errors
  pure (UInt32.ofNat report.status)
