import RemoteAttach.Logs.Clean
import RemoteAttach.Logs.Settings

/-! The start of a log: its folder is made and cleaned, and a new file is put there. -/

namespace RemoteAttach

/-- A log is written unless it is disabled or its level lets nothing through. -/
def LogSettings.isOn (s : LogSettings) : Bool :=
  s.enabled && s.level != .off

/-- The log folder of a user. -/
def logFolder (home : String) : String :=
  Path.join (Path.join home ".pipeattach") "logs"

/-- The name of the log file that is begun at the given time. -/
def logName (time : String) : String :=
  "pipeattach_" ++ time ++ ".log"

/-- Begins a log, if there is to be one. -/
def FileTree.startLog (tree : FileTree) (start : Path) (home : String) (settings : LogSettings)
    (time : String) : Except FileError FileTree := do
  if settings.isOn then
    let folder := logFolder home
    let tree ← tree.makeFolders (Path.namesFrom start folder)
    let (tree, _) ← tree.cleanLogs start folder settings.retention
    tree.write start (Path.join folder (logName time)) .empty
  else .ok tree

end RemoteAttach
