import RemoteAttach.Launch.Configuration

/-! Resolving a configuration: a process is chosen if the configuration needs one, and it is decided
whether the development certificate is to be checked. -/

namespace RemoteAttach

/-- A source of processes: a listing, or why there is none. -/
abbrev ProcessSource := Except ListingError (List ProcessEntry)

/-- A configuration that is ready for the debugger, and whether the development certificate is to be
checked. -/
structure Resolved where
  configuration : Configuration
  checkDevCert : Bool

namespace Configuration

/-- The certificate can be checked only where the application runs and the user can trust it: not on
Linux, which has no single store for it, not for a remote or browser user, and not behind a
pipe. -/
def supportsDevCert (c : Configuration) (host : Host) : Bool :=
  host.platform != some .linux && !host.isRemote && !host.isWeb && c.transport.isNone

/-- Asks for the check of an application with a web server if nothing is said about it and the check
is possible. -/
def withDevCertDefault (c : Configuration) (host : Host) : Configuration :=
  if c.supportsDevCert host && c.checkForDevCert.isNone && c.serverReadyAction.isSome then
    { c with checkForDevCert := some true }
  else c

/-- Decides about the certificate. -/
def decideDevCert (c : Configuration) (host : Host) : Resolved :=
  let c := c.withDevCertDefault host
  ⟨c, c.supportsDevCert host && c.checkForDevCert == some true⟩

/-- Chooses a process for a configuration that needs one; the source is asked only then. -/
def selectProcess (c : Configuration) (host : Host) (source : ProcessSource)
    (pick : ProcessPicker) : Except LaunchError Configuration :=
  if c.needsProcess then
    match source with
    | .error error => .error (.listing error)
    | .ok processes =>
      match pick processes with
      | none => .error .noProcess
      | some p => .ok (c.withProcess p host)
  else .ok c

/-- Resolves a configuration on a host. -/
def resolve (c : Configuration) (host : Host) (source : ProcessSource)
    (pick : ProcessPicker) : Except LaunchError Resolved :=
  (c.selectProcess host source pick).map (·.decideDevCert host)

end Configuration

end RemoteAttach
