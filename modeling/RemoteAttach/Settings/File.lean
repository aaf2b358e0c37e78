import RemoteAttach.Files.Tree
import RemoteAttach.Settings

/-! The settings file in a tree of files. One that is missing is made, with every setting explained
and none set. -/

namespace RemoteAttach.Settings

/-- What a new settings file holds. -/
def defaultText : String := String.intercalate "\n" [
  "# pipeattach Configuration File",
  "# =============================",
  "# This file is read on startup.",
  "# Lines starting with '#' are comments.",
  "#",
  "# Pipe Commands",
  "# -------------",
  "# Command substituted for $\x7bdebuggerCommand\x7d in pipeArgs, or appended",
  "# when pipeArgs doesn't mention it.",
  "# debugger_command = sh -s",
  "#",
  "# Quote pipe arguments that contain whitespace (true/false).",
  "# A launch configuration's \"quoteArgs\" can still turn this off.",
  "# quote_args = true",
  "",
  "# .NET SDK",
  "# --------",
  "# Comma separated directories searched for the dotnet executable before",
  "# falling back to PATH.",
  "# dotnet_cli_paths = /usr/share/dotnet, /usr/local/share/dotnet",
  "",
  "# Logging Configuration",
  "# ---------------------",
  "# Logs are stored in ~/.pipeattach/logs/ with automatic cleanup.",
  "#",
  "# log_enabled = true       # Enable/disable file logging (true/false)",
  "# log_level = info         # Log level: trace, debug, info, warn, error, off",
  "# log_retention = 24       # Hours to keep log files (default: 24)",
  ""]

/-- Makes the settings file where a text leads to, and the folders on the way to it: those before
the last name that leads on. -/
def create (tree : FileTree) (folder : Path) (text : String) : Except FileError FileTree := do
  (← tree.makeFolders (Path.namesFrom folder text).dropLast).write folder text defaultText.toUTF8

/-- Reads the settings file where a text leads to, which is made first if nothing is there. The tree
after that is given also when the file cannot be read. -/
def load (tree : FileTree) (folder : Path) (text : String) :
    FileTree × Except FileError Settings :=
  match if tree.exists? folder text then Except.ok tree else create tree folder text with
  | .error error => (tree, .error error)
  | .ok tree => (tree, (tree.readText folder text).map (Settings.read {}))

end RemoteAttach.Settings
