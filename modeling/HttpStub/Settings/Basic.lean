import HttpStub.Exchange.ToStub
import HttpStub.Files.Tree
import HttpStub.Mode
import HttpStub.Relay.Backend

/-!
# Settings

## Main definitions

* `HttpStub.Settings` — how a server works.
* `HttpStub.Settings.validate` — the settings, if they are fit for use.
* `HttpStub.Settings.backend?` — the backend that they name.
* `HttpStub.SettingsError` — why there are no settings.
-/

namespace HttpStub

/-- How recorded exchanges become stubs. -/
structure RecordingSettings where
  jsonContentTypes : List String
  preserveKeyOrder : Bool
  sortArrayMembers : Bool
  deriving DecidableEq, Repr

/-- How a server works: its mode, where it listens, the backend and how it is spoken to, the
directory of stubs, and whether requests are logged. -/
structure Settings where
  mode : Mode
  host : String
  socket : UInt16
  proxyHost : Option String
  refererPath : String
  timeoutSeconds : UInt64
  mappingsDir : Option String
  verbose : Bool
  recording : RecordingSettings
  deriving DecidableEq, Repr

/-- Why there are no settings. -/
inductive SettingsError where
  /-- The mode needs a backend, and none is named. -/
  | noBackend (mode : Mode)
  /-- The mode needs a backend, and the name does not start with a scheme of HTTP. -/
  | badScheme (proxyHost : String)
  /-- The time limit is zero. -/
  | noTime
  /-- The file cannot be read. -/
  | unreadable (path : String) (cause : FileError)
  /-- The file does not describe settings. -/
  | malformed
  deriving DecidableEq, Repr

/-- The wording of an error. -/
def SettingsError.message : SettingsError → String
  | .noBackend m =>
    "An upstream is required in " ++ m.name ++ " mode. Set 'proxyHost' or PROXY_HOST"
  | .badScheme h => "Upstream '" ++ h ++ "' must start with http:// or https://"
  | .noTime => "'upstreamTimeoutSecs' must be greater than zero"
  | .unreadable path cause => "Failed to read config " ++ path ++ ": " ++ cause.message
  | .malformed => "malformed YAML"

/-- Nothing is JSON but what always is, and values are sorted by key only. -/
def RecordingSettings.default : RecordingSettings :=
  ⟨[], false, false⟩

instance : Inhabited RecordingSettings := ⟨.default⟩

namespace Settings

/-- The settings when nothing else is said. -/
def default : Settings where
  mode := .replay
  host := "0.0.0.0"
  socket := 8080
  proxyHost := none
  refererPath := "/"
  timeoutSeconds := 30
  mappingsDir := none
  verbose := false
  recording := .default

instance : Inhabited Settings := ⟨.default⟩

/-- The backend that is named: slashes at the end do not count, and an empty name is none. -/
def backend? (s : Settings) : Option Backend :=
  match s.proxyHost with
  | some h => if (Backend.ofText h).base.isEmpty then none else some (.ofText h)
  | none => none

/-- The text starts with a scheme of HTTP. -/
def hasWebScheme (s : String) : Bool :=
  "http://".toList.isPrefixOf s.toList || "https://".toList.isPrefixOf s.toList

/-- The settings, if they are fit for use: a mode that needs a backend has one, and the time limit
is not zero. -/
def validate (s : Settings) : Except SettingsError Settings :=
  match s.mode.usesBackend, s.proxyHost with
  | true, none => .error (.noBackend s.mode)
  | true, some h =>
    if !hasWebScheme h then .error (.badScheme h)
    else if s.timeoutSeconds = 0 then .error .noTime
    else .ok s
  | false, _ => if s.timeoutSeconds = 0 then .error .noTime else .ok s

/-- The options for a snapshot. -/
def snapshotOptions (s : Settings) (repeatsAsScenarios : Bool) : SnapshotOptions where
  repeatsAsScenarios := repeatsAsScenarios
  jsonContentTypes := s.recording.jsonContentTypes
  preserveKeyOrder := s.recording.preserveKeyOrder
  sortArrayMembers := s.recording.sortArrayMembers

end Settings

end HttpStub
