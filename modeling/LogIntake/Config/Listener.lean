import LogIntake.Config.Variables
import LogIntake.Net.Address

/-!
# Listeners

A **listener** is the host and the port that the service takes requests on. The host is a text;
`Listener.socketAddress` reads it together with the port as one socket address, so an IPv6
address must stand in brackets, and names of hosts are refused.
-/

namespace LogIntake.Config

/-- Where requests are taken. -/
structure Listener where
  host : String
  port : UInt16
  deriving DecidableEq, Repr

namespace Listener

/-- The host that stands for every IPv4 address of the machine. -/
def anyHost : String := "0.0.0.0"

/-- Every IPv4 address of the machine, on port 8080. -/
def standard : Listener := ⟨anyHost, 8080⟩

/-- Host and port with a colon between them. -/
def address (l : Listener) : String :=
  l.host ++ ":" ++ toString l.port

/-- The socket address of a listener. -/
def socketAddress (l : Listener) : Except SettingError Net.SocketAddress :=
  match Net.SocketAddress.ofText? l.address.toList with
  | some a => .ok a
  | none => .error (.unusable "HOST" (l.address ++ ": invalid socket address syntax"))

/-- The listener that the variables name. -/
def ofVariables (vars : Variables) : Except SettingError Listener := do
  let host := vars.textOr "HOST" anyHost
  let port ← vars.natOr "PORT" Number.word16 8080
  pure ⟨host, UInt16.ofNat port⟩

end Listener

end LogIntake.Config
