import RemoteAttach.Files.Tree
import RemoteAttach.Platform

/-! The `dotnet` program, which checks for the development certificate: the first one in the
directories that are searched, or else whatever its bare name leads to. -/

namespace RemoteAttach.DevCert

/-- The file name of the program on a platform. -/
def programName (platform : Option Platform) : String :=
  "dotnet" ++ (platform.map Platform.exeExtension).getD ""

/-- The first program in the given directories. -/
def find? (tree : FileTree) (folder : Path) (directories : List String)
    (platform : Option Platform) : Option String :=
  (directories.map (Path.join · (programName platform))).find? (tree.isFile folder)

/-- The program that is used. -/
def program (tree : FileTree) (folder : Path) (directories : List String)
    (platform : Option Platform) : String :=
  (find? tree folder directories platform).getD "dotnet"

end RemoteAttach.DevCert
