import Std.Async.DNS
import Std.Async.TCP
import Workflow.CommandLine.Run
import Workflow.Http.Wire

namespace Workflow.CommandLine

/-!
# The program

Plans are carried out here: files are read and written, and requests are sent, each over a
connection of its own.
-/

/-- The file that a path leads to. -/
def readFile (path : String) : IO File := do
  try
    return .ofBytes (← IO.FS.readBinFile path)
  catch
    | .noFileOrDirectory _ _ _ => return .missing
    | _ => return .unreadable

/-- Writes a file, and says whether it could be written. -/
def writeFile (path content : String) : IO Bool := do
  try
    IO.FS.writeFile path content
    return true
  catch _ => return false

/-- The usual place of the settings. -/
def settingsPath : IO String := do
  match ← IO.getEnv "XDG_CONFIG_HOME" with
  | some folder => if folder.startsWith "/" then return folder ++ "/wireflow/config.toml"
  | none => pure ()
  match ← IO.getEnv "HOME" with
  | some home => return home ++ "/.config/wireflow/config.toml"
  | none => return ".wireflow/config.toml"

/-- Receives until the other side has closed the connection. -/
partial def receiveAll (socket : Std.Async.TCP.Socket.Client) (received : ByteArray) :
    Std.Async.Async ByteArray := do
  match ← socket.recv? 65536 with
  | some bytes => receiveAll socket (received ++ bytes)
  | none => return received

/-- Connects to an address. -/
def connect (address : Std.Net.IPAddr) (service : UInt16) : IO Std.Async.TCP.Socket.Client := do
  let socket ← Std.Async.TCP.Socket.Client.mk
  let target :=
    match address with
    | .v4 v4 => Std.Net.SocketAddress.v4 ⟨v4, service⟩
    | .v6 v6 => Std.Net.SocketAddress.v6 ⟨v6, service⟩
  (socket.connect target).block
  return socket

/-- Connects to the first address that answers. -/
def connectAny (service : UInt16) : List Std.Net.IPAddr → IO Std.Async.TCP.Socket.Client
  | [] => throw (.userError "no address answers")
  | address :: others => do
    try connect address service
    catch _ => connectAny service others

/-- Sends a request once, if the server can be reached, and takes what it answers for the response.
No redirect is followed, where other clients would send a further request.  The connection is never
encrypted; an address that asks for that, by the scheme `https`, is none of `Http.Url.parse?`, and a
call under it fails before it comes here. -/
def transmit (r : Http.Request) : IO (Option Http.Response) := do
  let name := String.ofList (r.host.toList.filter fun c => c ≠ '[' ∧ c ≠ ']')
  try
    let addresses ← (Std.Async.DNS.getAddrInfo name (toString r.service)).block
    let socket ← connectAny (UInt16.ofNat r.service) addresses.toList
    (socket.send r.toText.toUTF8).block
    let received ← (receiveAll socket .empty).block
    return Http.Response.ofBytes? received.toList
  catch _ => return none

/-- Carries out a plan. -/
def perform : Plan → IO Ending
  | .done ending => return ending
  | .print line rest => do
    IO.println line
    perform rest
  | .read path next => do perform (next (← readFile path))
  | .readSettings next => do perform (next (← readFile (← settingsPath)))
  | .write path content next => do perform (next (← writeFile path content))
  | .pause milliseconds rest => do
    IO.sleep (UInt32.ofNat milliseconds)
    perform rest
  | .call client c next => do
    match client.request? c with
    | none => perform (next (.error .transport))
    | some request =>
      match ← transmit request with
      | some response => perform (next (Http.reply c response))
      | none => perform (next (.error .transport))

/-- The variables that settings may come from. -/
def settingsVariables : List String :=
  ["WIREFLOW_API_URL", "WIREFLOW_API_TOKEN", "WIREFLOW_POLL_INTERVAL_MS"]

/-- More polls than anyone waits for. -/
def endlessPolls : Nat := Nat.pow 2 64

end Workflow.CommandLine

open Workflow.CommandLine in
/-- Runs a command line, and exits with its code. -/
def main (arguments : List String) : IO UInt32 := do
  let environment ← settingsVariables.filterMapM fun name => do
    return (← IO.getEnv name).map fun value => (name, value)
  let ending ← perform (.ofArguments endlessPolls (fun name => environment.lookup name) arguments)
  if !ending.text.isEmpty then
    IO.eprint (ending.text ++ if ending.text.endsWith "\n" then "" else "\n")
  return UInt32.ofNat ending.code
