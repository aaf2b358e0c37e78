/-! Operating systems that a transport can be overridden for, and the tags that name them. -/

namespace RemoteAttach

/-- An operating system with an override section of its own. -/
inductive Platform where
  | windows
  | osx
  | linux
  deriving DecidableEq, Repr

namespace Platform

/-- The platform that a tag names in any letter case: a section key, or the name that a runtime
reports. An unknown tag names none. Lowering ASCII letters decides this for every text, because no
other letter has one of the letters of these tags as its lower-case form. -/
def ofTag? (tag : String) : Option Platform :=
  match tag.toLower with
  | "windows" | "win32" => some windows
  | "osx" | "darwin" | "macos" => some osx
  | "linux" => some linux
  | _ => none

/-- The key of the platform's override section. -/
def key : Platform → String
  | windows => "windows"
  | osx => "osx"
  | linux => "linux"

/-- The extension of executable files. -/
def exeExtension : Platform → String
  | windows => ".exe"
  | osx | linux => ""

theorem ofTag?_key (p : Platform) : ofTag? p.key = some p := by
  cases p <;> decide +kernel

end Platform

end RemoteAttach
