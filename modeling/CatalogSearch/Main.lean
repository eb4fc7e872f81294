import CatalogSearch.CommandLine.Basic
import CatalogSearch.Http.Wire
import Std.Async.DNS
import Std.Async.TCP
import Std.Async.Timer

/-! # The program

Reads what the command line, the environment and the configuration file say, asks the sources, and
writes what the library makes of their answers. -/

namespace CatalogSearch.Main

open Std.Async

/-! ## Surroundings -/

/-- A refusal by its words and its number, which may be negated. -/
def refusal (reason : String) (number : UInt32) : FileFault :=
  .refused reason.capitalize (number.toInt32.toInt.natAbs)

/-- Why a file cannot be read, by the error it is refused with. -/
def faultOf : IO.Error → FileFault
  | .noFileOrDirectory _ n reason | .permissionDenied _ n reason | .inappropriateType _ n reason
  | .invalidArgument _ n reason | .resourceExhausted _ n reason | .noSuchThing _ n reason =>
    refusal reason n
  | .otherError n reason => refusal reason n
  | e => refusal (toString e) 0

/-- The bytes of a file. -/
def contents (path : String) : IO (Except FileFault (List UInt8)) := do
  try return .ok (← IO.FS.readBinFile path).toList
  catch e => return .error (faultOf e)

/-- What the program finds around it: the variables that count, and the file that they or the words
of the command line name. -/
def surroundings (words : List String) : IO Environment := do
  let values ← Config.variableNames.filterMapM fun name => do
    return (← IO.getEnv name).map (name, ·)
  let lookup (name : String) : Option String := values.lookup name
  match CommandLine.Invocation.read lookup words with
  | .ok ⟨some path, _⟩ =>
    let content ← contents path
    return ⟨lookup, fun p => if p = path then content else .error .missing⟩
  | _ => return ⟨lookup, fun _ => .error .missing⟩

/-! ## Requests -/

/-- The name by which a host is looked up. -/
def hostName (h : Host) : String :=
  String.ofList (h.text.filter fun c => c != '[' && c != ']')

/-- An address and a port. -/
def socketAddress (port : UInt16) : Std.Net.IPAddr → Std.Net.SocketAddress
  | .v4 address => .v4 ⟨address, port⟩
  | .v6 address => .v6 ⟨address, port⟩

/-- All bytes until the other side closes the connection. -/
partial def receive (socket : TCP.Socket.Client) (got : ByteArray) : Async ByteArray := do
  match ← socket.recv? 65536 with
  | none => return got
  | some more => receive socket (got ++ more)

/-- What comes back from the first address that can be reached. -/
def converse (request : ByteArray) (port : UInt16) : List Std.Net.IPAddr → Async Reply
  | [] => return .unsent 0
  | address :: others => do
    let socket ← TCP.Socket.Client.mk
    try socket.connect (socketAddress port address)
    catch _ => return ← converse request port others
    socket.send request
    let bytes ← receive socket .empty
    return ((Response.ofBytes? bytes.toList).map (Reply.answered 0)).getD (.unsent 0)

/-- The program as it names itself to others. -/
def agent : String := "lor-federation/0.1.0"

/-- What comes back for a single request, in whatever time. -/
def ask (u : Url) : Async Reply := do
  match u.scheme, u.authority with
  | "http", some a =>
    try
      let port := UInt16.ofNat (a.port.getD 80)
      let addresses ← DNS.getAddrInfo (hostName a.host) (toString port)
      converse ⟨(u.requestBytes agent).toArray⟩ port addresses.toList
    catch _ => return .unsent 0
  | _, _ => return .unsent 0

/-- No reply within some milliseconds. -/
def patience (millis : Nat) : Async Reply := do
  sleep (.ofNat millis)
  return .silent

instance : Inhabited Reply := ⟨.silent⟩

/-- What comes back from a URL in the end, wherever the answers send the program. -/
def call (millis : Nat) (u : Url) : Async Reply := do
  let policy : RedirectPolicy := {}
  let comesTo ← exchange (fun _ => ask) policy millis policy.limit 0 u
  return comesTo.reply

/-- What comes back from all URLs, asked at once. -/
def askAll (millis : Nat) (urls : List Url) : IO Network := do
  let replies ← (Async.concurrentlyAll
    (urls.map fun u => Async.race (call millis u) (patience millis)).toArray).block
  return .ofReplies (urls.zip replies.toList)

/-! ## Everything together -/

/-- The outcome of some words: the command is first run to see which requests it makes, and then
with the answers of the sources. -/
def outcome (words : List String) : IO CommandLine.Outcome := do
  let env ← surroundings words
  let offline := CommandLine.run env .offline words
  if offline.requests.isEmpty then return offline
  else return CommandLine.run env (← askAll offline.timeoutMillis offline.requests) words

end CatalogSearch.Main

/-- **The program.** -/
def main (words : List String) : IO UInt32 := do
  let outcome ← CatalogSearch.Main.outcome words
  IO.print outcome.output
  IO.eprint outcome.complaint
  return outcome.code.toUInt32
