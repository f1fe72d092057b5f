import Overfwd.Error
import Overfwd.Lib.Outcome
import Overfwd.Lib.Text

namespace Overfwd

open Text Outcome

structure HostPort where
  host : String
  port : UInt16
  deriving DecidableEq

/-- `HostPort::parse`: the header is split at its last colon. -/
def HostPort.parse (header raw : String) : Except GatewayError HostPort := do
  let (host, port) ← okOr (.badRequest (header ++ " must be in host:port form"))
    (rsplitOnce ':' (trim raw))
  if isEmpty host then .error (.badRequest (header ++ " is missing a host"))
  else do
    let port ← okOr (.badRequest (header ++ " has an invalid port")) (parseUnsigned (2^16) port)
    .ok { host := host, port := UInt16.ofNat port }

structure MailServers where
  imap : Option HostPort
  smtp : Option HostPort
  deriving DecidableEq

end Overfwd
