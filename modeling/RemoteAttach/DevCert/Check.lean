import RemoteAttach.DevCert.Finder
import RemoteAttach.Machine

/-! The development certificate: the `dotnet` program tells whether there is a trusted one, and
makes one. It is given no input, and what it writes is not looked at. -/

namespace RemoteAttach.DevCert

/-- Runs the program on the certificate with a flag, and tells whether it ends well. -/
def succeeds (m : Machine) (program flag : String) : Bool :=
  match m.run program ["dev-certs", "https", flag] [] with
  | .ok ending => ending.status.isSuccess
  | .error _ => false

/-- There is a trusted certificate. -/
def isInstalled (m : Machine) (program : String) : Bool :=
  succeeds m program "--check"

/-- A trusted certificate is made. -/
def install (m : Machine) (program : String) : Bool :=
  succeeds m program "--trust"

end RemoteAttach.DevCert
