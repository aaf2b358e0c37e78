import RemoteAttach.Json.Value
import RemoteAttach.Launch.Error
import RemoteAttach.Listing.Entry
import RemoteAttach.Transport

/-! Debug configurations: what a launch file asks of the debugger, and the changes that a chosen
process makes to one. -/

namespace RemoteAttach

/-- What a configuration asks for. A word that is not known is kept as it is. -/
inductive Request where
  | launch
  | attach
  | other (word : String)
  deriving DecidableEq, Repr

namespace Request

/-- The request that a word stands for. -/
def ofWord : String → Request
  | "launch" => launch
  | "attach" => attach
  | word => other word

/-- The word that stands for a request. -/
def word : Request → String
  | launch => "launch"
  | attach => "attach"
  | other word => word

theorem word_ofWord (text : String) : (ofWord text).word = text := by
  unfold ofWord
  split <;> rfl

end Request

/-- The machine that the debugger is started from. -/
structure Host where
  platform : Option Platform := none
  /-- The architecture of its processor. -/
  arch : String := ""
  /-- The user sits at a different machine. -/
  isRemote : Bool := false
  /-- The user works in a browser. -/
  isWeb : Bool := false
  deriving DecidableEq, Repr

/-- A host is an Apple machine with an ARM processor. -/
def Host.isAppleSilicon (h : Host) : Bool :=
  h.platform == some .osx && (h.arch == "aarch64" || h.arch == "arm64")

/-- A debug configuration. Members that are not interpreted are kept in `extra`. -/
structure Configuration where
  name : String := ""
  /-- The debugger that it is for. -/
  kind : String := ""
  request : Request := .launch
  processId : Option Json := none
  processName : Option String := none
  transport : Option Transport := none
  checkForDevCert : Option Bool := none
  serverReadyAction : Option Json := none
  targetArchitecture : Option String := none
  extra : Members Json := []

namespace Configuration

/-- A process id counts as unset if it is missing, `null`, `false`, an empty text or zero. -/
def isUnset : Option Json → Bool
  | none | some .null | some (.bool false) => true
  | some (.string text) => text.isEmpty
  | some (.number n) => n.isZero
  | some _ => false

/-- A configuration needs a process to be chosen if it attaches and names none. -/
def needsProcess (c : Configuration) : Bool :=
  c.request == .attach && isUnset c.processId && (c.processName.getD "").isEmpty

/-- The kind of configuration whose architecture follows the process. -/
def managedKind : String := "coreclr"

/-- The architecture of a process on an Apple machine with an ARM processor. -/
def architectureOf (p : ProcessEntry) : String :=
  if p.isTranslated then "x86_64" else "arm64"

/-- Records the chosen process, and on Apple machines with an ARM processor the architecture that
goes with it. -/
def withProcess (c : Configuration) (p : ProcessEntry) (host : Host) : Configuration :=
  let c := { c with processId := some (.string (toString p.id.toNat)) }
  if c.kind = managedKind && host.isAppleSilicon then
    { c with targetArchitecture := some (architectureOf p) }
  else c

/-- The transport of a configuration, which is to have one. -/
def requireTransport (c : Configuration) : Except LaunchError Transport :=
  match c.transport with
  | some transport => .ok transport
  | none => .error (.noTransport c.name)

end Configuration

end RemoteAttach
