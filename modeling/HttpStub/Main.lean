import HttpStub.CommandLine.Usage
import HttpStub.Http.Message
import HttpStub.Server.Serve
import HttpStub.Stub.Files
import Std.Async.DNS
import Std.Async.TCP
import Std.Async.Timer
import Std.Time.DateTime

/-!
# The program

The command line, files, clock and connections; all decisions are the library's.

## Main definitions

* `main` — settings and stubs are read, and requests are served until the program is stopped.

## Design

A connection serves one request. Connections are served side by side; the state changes once for
each request, after the backend has answered.
-/

namespace HttpStub

open Std.Async (Async Selectable Selector)
open Std.Net (IPAddr SocketAddress SocketAddressV4 SocketAddressV6)

/-! ## Clock and log -/

/-- The current time. -/
def currentTime : IO Timestamp := do
  let now ← Std.Time.Timestamp.now
  return ⟨now.toMillisecondsSinceUnixEpoch.val⟩

/-- Events written to the log; details only if they are asked for. -/
def writeLog (verbose : Bool) (events : List Event) : IO Unit := do
  let time := (← currentTime).text
  for e in events do
    if verbose || e.level != .debug then
      IO.println (time ++ " " ++ e.line)
  (← IO.getStdout).flush

/-! ## Files -/

/-- The reason why a path cannot be read. -/
def fileErrorOf : IO.Error → FileError
  | .noFileOrDirectory _ _ _ => .notFound
  | .inappropriateType _ code _ => if code = 21 then .isDirectory else .notDirectory
  | e => .other (toString e)

/-- What reading a file brings. -/
def readOctets (path : String) : IO (Except FileError Bytes) := do
  match ← (IO.FS.readBinFile path).toBaseIO with
  | .ok content => return .ok content.toList
  | .error e => return .error (fileErrorOf e)

/-- The entries of a directory; a directory inside is left empty. -/
def readEntries (dir : String) : IO (Except FileError (List (String × FileTree))) := do
  match ← (System.mkFilePath [dir]).readDir.toBaseIO with
  | .error e => return .error (fileErrorOf e)
  | .ok found =>
    let entries ← found.toList.mapM fun entry => do
      match ← readOctets (joinPath dir entry.fileName) with
      | .error .isDirectory => return (entry.fileName, FileTree.directory [])
      | content => return (entry.fileName, FileTree.file content)
    return .ok entries

/-- The server with the stubs of a directory. -/
def loadStubs (s : Server) (dir : String) : IO Server := do
  match ← readEntries dir with
  | .error cause =>
    let e := LoadError.unreadable dir cause
    writeLog s.settings.verbose [⟨.warn, "Could not load mappings: " ++ e.message⟩]
    return s
  | .ok entries =>
    let (stubs, events) := stubsOfEntries dir entries
    let count := toString stubs.length
    writeLog s.settings.verbose (events ++ [importNotice stubs.length,
      ⟨.info, "Imported " ++ count ++ " mappings from " ++ dir⟩])
    return s.addStubs stubs

/-! ## Connections -/

/-- A socket of a host by its number. -/
def socketOf (ip : IPAddr) (number : UInt16) : SocketAddress :=
  match ip with
  | .v4 a => .v4 ⟨a, number⟩
  | .v6 a => .v6 ⟨a, number⟩

/-- The socket of a host by name and number. -/
def resolve (name : String) (number : UInt16) : Async SocketAddress := do
  let found ← Std.Async.DNS.getAddrInfo name (toString number.toNat)
  match found.toList.find? (·.family == .ipv4), found[0]? with
  | some ip, _ => return socketOf ip number
  | none, some ip => return socketOf ip number
  | none, none => throw (IO.userError ("no address of " ++ name))

/-- The octets that arrive until the connection ends or nothing has come for so long. -/
def receiveAll (client : Std.Async.TCP.Socket.Client) (seconds : Nat) : Async Bytes := do
  let mut octets := ByteArray.empty
  repeat
    let limit ← Selector.sleep (.ofNat (1000 * seconds))
    let arrived ← Selectable.one #[
      .case (client.recvSelector 65536) fun chunk => return chunk,
      .case limit fun _ => return none]
    match arrived with
    | some chunk => octets := octets ++ chunk
    | none => break
  return octets.toList

/-- What the network makes of a request. Connections are not encrypted. -/
def deliver (o : Outgoing) (seconds : Nat) : Async Delivery := do
  if o.url.scheme != "http" then return .unreachable
  try
    let some (host, number) := o.url.endpoint? | return .unreachable
    let client ← Std.Async.TCP.Socket.Client.mk
    client.connect (← resolve host.bareText number)
    client.send ⟨o.bytes.toArray⟩
    return .ofBytes o.method (← receiveAll client seconds)
  catch _ => return .unreachable

/-- The request that a client sends, as far as there is one. -/
def receiveRequest (client : Std.Async.TCP.Socket.Client) : Async (Option Request) := do
  let mut octets : Bytes := []
  repeat
    match ← client.recv? 65536 with
    | none => break
    | some chunk =>
      octets := octets ++ chunk.toList
      match Arrival.ofBytes octets with
      | .complete r => return some r
      | .malformed => break
      | .incomplete => pure ()
  return none

/-- The request of a client served. -/
def serveClient (server : IO.Ref Server) (client : Std.Async.TCP.Socket.Client) : Async Unit := do
  try
    if let some r ← receiveRequest client then
      let s ← server.get
      let delivery ←
        match s.outgoing? r with
        | some o => deliver o s.settings.timeoutSeconds.toNat
        | none => pure .unreachable
      let time := (← currentTime).text
      let reaction ← server.modifyGet fun s =>
        let reaction := s.receive time delivery r
        (reaction, reaction.server)
      writeLog s.settings.verbose reaction.events
      client.send ⟨(reaction.response.bytes r.method).toArray⟩
    client.shutdown
  catch _ => pure ()

/-- Clients are served until the program is stopped. -/
def listen (server : IO.Ref Server) : Async Unit := do
  let settings := (← server.get).settings
  let socket ← Std.Async.TCP.Socket.Server.mk
  socket.bind (← resolve settings.host settings.socket)
  socket.listen 128
  let place := settings.host ++ ":" ++ toString settings.socket.toNat
  writeLog settings.verbose [⟨.info, "Listening on http://" ++ place⟩]
  repeat
    let client ← socket.accept
    Std.Async.background (serveClient server client)

/-! ## The command line -/

/-- The variables of the environment that options look up. -/
def readVariables : IO (List (String × String)) := do
  Switch.all.filterMapM fun o => do
    return (← IO.getEnv o.variableName).map fun v => (o.variableName, v)

/-- The settings of a command line. -/
def readSettings (a : Arguments) : IO (Except SettingsError Settings) := do
  match a.config with
  | none => return a.settings fun _ => .error .notFound
  | some path =>
    let content ← readOctets path
    return a.settings fun _ => content.bind textOf

/-- The server of some settings, run until the program is stopped. -/
def run (settings : Settings) : IO UInt32 := do
  writeLog settings.verbose [⟨.info, "Starting " ++ versionText⟩]
  let blank := Server.ofSettings settings
  let s ←
    match settings.mappingsDir with
    | some dir => loadStubs blank dir
    | none => pure blank
  let server ← IO.mkRef s
  (listen server).block
  return 0

end HttpStub

open HttpStub in
/-- The program: settings from the command line, the environment and a file; then requests. -/
def main (args : List String) : IO UInt32 := do
  match Arguments.read args (← readVariables) with
  | .error .help => IO.println usageText; return 0
  | .error .version => IO.println versionText; return 0
  | .error e => IO.eprintln ("error: " ++ e.message); return 2
  | .ok a =>
    match ← readSettings a with
    | .error e => IO.eprintln ("Error: " ++ e.message); return 1
    | .ok settings => run settings
