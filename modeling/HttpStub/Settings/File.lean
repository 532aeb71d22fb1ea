import HttpStub.Settings.Basic
import HttpStub.Yaml.Record

/-!
# Files of settings

## Main definitions

* `HttpStub.Settings.reader` — how settings are read from a YAML document.
* `HttpStub.Settings.ofYaml` — the settings that a YAML text describes.
* `HttpStub.Settings.ofFile` — the settings of a file, given what reading it brings.
-/

namespace HttpStub

open Yaml (Reader)

/-- The members of recording settings. -/
def RecordingSettings.fields : List (Yaml.Field RecordingSettings) :=
  [.ofReader "jsonContentTypes" (.list .string) (fun v r => { r with jsonContentTypes := v }),
    .ofReader "preserveKeyOrder" .bool (fun v r => { r with preserveKeyOrder := v }),
    .ofReader "sortArrayMembers" .bool (fun v r => { r with sortArrayMembers := v })]

namespace Settings

/-- The members of settings. -/
def fields : List (Yaml.Field Settings) :=
  [.ofReader "mode" (.named Mode.ofName?) (fun v s => { s with mode := v }),
    .ofReader "host" .string (fun v s => { s with host := v }),
    .ofReader "port" (.natural 65536) (fun v s => { s with socket := UInt16.ofNat v }),
    .ofReader "proxyHost" (.optional .string) (fun v s => { s with proxyHost := v }),
    .ofReader "refererPath" .string (fun v s => { s with refererPath := v }),
    .ofReader "upstreamTimeoutSecs" (.natural 18446744073709551616)
      (fun v s => { s with timeoutSeconds := UInt64.ofNat v }),
    .ofReader "mappingsDir" (.optional .string) (fun v s => { s with mappingsDir := v }),
    .ofReader "verbose" .bool (fun v s => { s with verbose := v }),
    .ofReader "recording" (.record RecordingSettings.fields .default)
      (fun v s => { s with recording := v })]

/-- How settings are read; what is not mentioned has its default. -/
def reader : Reader Settings :=
  .record fields .default

/-- The settings that a YAML text describes. -/
def ofYaml (text : String) : Except SettingsError Settings :=
  match reader.run text with
  | some s => .ok s
  | none => .error .malformed

/-- The settings of a file, given what reading it brings. -/
def ofFile (path : String) (content : Except FileError String) : Except SettingsError Settings :=
  match content with
  | .ok text => ofYaml text
  | .error cause => .error (.unreadable path cause)

end Settings

end HttpStub
