import RemoteAttach.Files.Tree
import RemoteAttach.Launch.File

/-! Launch files in a tree of files. -/

namespace RemoteAttach.LaunchFile

/-- Reads the launch file where a text leads to. A file that is too large is not looked at. -/
def load (tree : FileTree) (folder : Path) (text : String) : Except LaunchError LaunchFile := do
  match tree.stat folder text with
  | .error error => .error (.file error)
  | .ok (.file content _) => if maxLaunchFileSize < content.size then .error .tooLarge
  | .ok _ => pure ()
  match tree.readText folder text with
  | .error error => .error (.file error)
  | .ok content => LaunchFile.parse content

end RemoteAttach.LaunchFile
