import RemoteAttach.Shell.Start
import RemoteAttach.Tool.Arguments
import RemoteAttach.Tool.Armour
import RemoteAttach.Tool.Arrange
import RemoteAttach.Tool.Awk
import RemoteAttach.Tool.Columns
import RemoteAttach.Tool.Compare
import RemoteAttach.Tool.Copy
import RemoteAttach.Tool.Digest
import RemoteAttach.Tool.Facts
import RemoteAttach.Tool.Fresh
import RemoteAttach.Tool.Grep
import RemoteAttach.Tool.Launch
import RemoteAttach.Tool.Lines
import RemoteAttach.Tool.Link
import RemoteAttach.Tool.Merge
import RemoteAttach.Tool.Numbering
import RemoteAttach.Tool.Numbers
import RemoteAttach.Tool.Paragraph
import RemoteAttach.Tool.Pieces
import RemoteAttach.Tool.Portion
import RemoteAttach.Tool.Removal
import RemoteAttach.Tool.Sed
import RemoteAttach.Tool.Sort
import RemoteAttach.Tool.Tabs
import RemoteAttach.Tool.Translate

/-! The programs of the system, by their names, and how a process becomes one of them. A runner for
scripts is built from runners for what lies less deep, down to one that gives up. -/

namespace RemoteAttach.Installed

open Shell Act

/-- A program: what it does with its arguments in a process of its own. -/
abbrev Tool := Runner → List String → Act Unit

/-- A program that starts no other one. -/
def plain (action : List String → Act Unit) : Tool := fun _ => action

/-- The programs besides the shells. -/
def tools : List (String × Tool) :=
  [("[", plain (Tool.test "[")),
    ("arch", plain (Tool.tell "x86_64")),
    ("awk", Tool.Awk.start),
    ("base32", plain (Tool.Armour.run Tool.Armour.five)),
    ("base64", plain (Tool.Armour.run Tool.Armour.six)),
    ("basename", plain Tool.basename),
    ("basenc", plain (Tool.Armour.run none)),
    ("cat", plain Tool.cat),
    ("chmod", plain Tool.chmod),
    ("cksum", plain Tool.cksum),
    ("cmp", plain Tool.Compare.bytes),
    ("comm", plain Tool.comm),
    ("cp", plain Tool.cp),
    ("csplit", plain Tool.csplit),
    ("cut", plain Tool.cut),
    ("date", plain Tool.date),
    ("dd", plain Tool.dd),
    ("diff", plain Tool.Compare.lines),
    ("dirname", plain Tool.dirname),
    ("echo", plain Tool.echo),
    ("egrep", plain (Tool.Grep.run .extended)),
    ("env", Tool.Env.run),
    ("expand", plain Tool.expand),
    ("expr", plain Tool.Expr.run),
    ("factor", plain Tool.Factor.run),
    ("false", plain fun _ => finish 1),
    ("fgrep", plain (Tool.Grep.run .fixed)),
    ("find", Tool.Find.run),
    ("fmt", plain Tool.Paragraph.run),
    ("fold", plain Tool.fold),
    ("getopt", plain Tool.Arguments.run),
    ("grep", plain (Tool.Grep.run .basic)),
    ("groups", plain Tool.groups),
    ("head", plain Tool.head),
    ("hostname", plain Tool.hostname),
    ("id", plain Tool.userIds),
    ("install", plain Tool.install),
    ("join", plain Tool.join),
    ("link", plain Tool.link),
    ("ln", plain Tool.ln),
    ("ls", plain Tool.ls),
    ("mawk", Tool.Awk.start),
    ("md5sum", plain (Tool.digests Tool.Digest.md5)),
    ("mkdir", plain Tool.mkdir),
    ("mktemp", plain Tool.mktemp),
    ("mv", plain Tool.mv),
    ("nice", Tool.nice),
    ("nl", plain Tool.Numbering.run),
    ("nohup", Tool.nohup),
    ("nproc", plain Tool.nproc),
    ("od", plain Tool.od),
    ("paste", plain Tool.paste),
    ("printenv", plain Tool.printenv),
    ("printf", plain Tool.printf),
    ("pwd", plain Tool.pwd),
    ("readlink", plain Tool.readlink),
    ("realpath", plain Tool.realpath),
    ("rev", plain Tool.rev),
    ("rm", plain Tool.Removal.run),
    ("rmdir", plain Tool.rmdir),
    ("sed", Tool.Sed.run),
    ("seq", plain Tool.seq),
    ("setsid", Tool.setsid),
    ("sha1sum", plain (Tool.digests Tool.Digest.sha1)),
    ("sha224sum", plain (Tool.digests Tool.Digest.sha224)),
    ("sha256sum", plain (Tool.digests Tool.Digest.sha256)),
    ("sha384sum", plain (Tool.digests Tool.Digest.sha384)),
    ("sha512sum", plain (Tool.digests Tool.Digest.sha512)),
    ("shuf", plain Tool.shuf),
    ("sleep", Tool.sleep),
    ("sort", plain Tool.Sort.run),
    ("split", Tool.split),
    ("stat", plain Tool.stat),
    ("stdbuf", Tool.stdbuf),
    ("sum", plain Tool.sum),
    ("sync", plain fun _ => pure ()),
    ("tac", plain Tool.tac),
    ("tail", plain Tool.tail),
    ("tee", plain Tool.tee),
    ("test", plain (Tool.test "test")),
    ("timeout", Tool.timeout),
    ("touch", plain Tool.touch),
    ("tr", plain Tool.Translate.run),
    ("true", plain fun _ => pure ()),
    ("truncate", plain Tool.truncate),
    ("tsort", plain Tool.tsort),
    ("tty", plain Tool.tty),
    ("uname", plain Tool.uname),
    ("unexpand", plain Tool.unexpand),
    ("uniq", plain Tool.uniq),
    ("unlink", plain Tool.unlink),
    ("wc", plain Tool.wc),
    ("which", plain Tool.which),
    ("whoami", plain (Tool.tell "root")),
    ("xargs", Tool.Xargs.run),
    ("yes", plain Tool.yes)]

/-- The names of the shells. -/
def shells : List (String × Dialect) :=
  [("bash", .bash), ("dash", .dash), ("sh", .dash)]

/-- The names of all programs. -/
def names : List String :=
  shells.map (·.1) ++ tools.map (·.1)

/-- Lets the process become a program with an environment and arguments. -/
def start (r : Runner) (environment : List (String × String)) (program : Program)
    (args : List String) : Act Unit := do
  let args := program.args ++ args
  match shells.lookup program.name, tools.lookup program.name with
  | some dialect, _ => Start.run r dialect program.called environment args
  | none, some run =>
    modify fun s => { s with toProcess := {
      name := program.called
      vars := environment.map fun (name, value) =>
        (name, { value := some (.text value), exported := true })
      folder := s.folder, folderText := s.folderText, streams := s.streams, mask := s.mask } }
    run r args
  | none, none => pure ()

/-- The runner for scripts of some depth. -/
def runner : Nat → Runner
  | 0 => .none
  | depth + 1 =>
    let r := runner depth
    { expand := Expand.word r
      statements := fun statements => forAll statements (Run.statement r)
      command := Run.command r
      capture := Run.capture r
      script := Run.script r
      program := start r }

end RemoteAttach.Installed
