import HttpStub.Json.Schema
import HttpStub.Settings.Basic

/-!
# Settings as JSON

## Main definitions

* `HttpStub.Settings.schema`, `HttpStub.RecordingSettings.schema` — the members of settings with
  their defaults.
* `HttpStub.Settings.text` — the settings as compact JSON.
-/

namespace HttpStub

open Json (Decoder Schema Value)

/-- A natural number below a bound. -/
def naturalBelow (bound : Nat) (expected : String) : Decoder Nat :=
  .refine fun v =>
    match v with
    | .number n =>
      match n.toNat? with
      | some k => if k < bound then .ok k else .error (.wrongKind (.number n) expected)
      | none => .error (.wrongKind (.number n) expected)
    | _ => .error (.refused ("expected " ++ expected))

/-- A mode by its name. -/
def Mode.decoder : Decoder Mode :=
  .refine fun v =>
    match v with
    | .string s =>
      match Mode.ofName? s with
      | some m => .ok m
      | none => .error (.refused ("unknown variant `" ++ s ++ "`"))
    | _ => .error (.refused "expected a mode")

/-- The members of recording settings. -/
def RecordingSettings.schema : Schema RecordingSettings where
  expected := "struct RecordingConfig"
  positional := true
  default := .default
  fields :=
    [.list "jsonContentTypes" (·.jsonContentTypes) (fun v r => { r with jsonContentTypes := v })
        .string .string,
      .always "preserveKeyOrder" (·.preserveKeyOrder) (fun v r => { r with preserveKeyOrder := v })
        .bool .bool,
      .always "sortArrayMembers" (·.sortArrayMembers) (fun v r => { r with sortArrayMembers := v })
        .bool .bool]

namespace Settings

/-- The members of settings. -/
def schema : Schema Settings where
  expected := "struct Config"
  positional := true
  default := .default
  fields :=
    [.always "mode" (·.mode) (fun v s => { s with mode := v }) (fun m => .string m.name)
        Mode.decoder,
      .always "host" (·.host) (fun v s => { s with host := v }) .string .string,
      .always "port" (·.socket.toNat) (fun v s => { s with socket := UInt16.ofNat v })
        (fun n => .number (.ofNat n)) (naturalBelow 65536 "u16"),
      .optional "proxyHost" (·.proxyHost) (fun v s => { s with proxyHost := v }) .string .string,
      .always "refererPath" (·.refererPath) (fun v s => { s with refererPath := v })
        .string .string,
      .always "upstreamTimeoutSecs" (·.timeoutSeconds.toNat)
        (fun v s => { s with timeoutSeconds := UInt64.ofNat v })
        (fun n => .number (.ofNat n)) (naturalBelow 18446744073709551616 "u64"),
      .optional "mappingsDir" (·.mappingsDir) (fun v s => { s with mappingsDir := v })
        .string .string,
      .always "verbose" (·.verbose) (fun v s => { s with verbose := v }) .bool .bool,
      .always "recording" (·.recording) (fun v s => { s with recording := v })
        RecordingSettings.schema.encode RecordingSettings.schema.decode]

/-- The settings as JSON; what is absent is left out. -/
def toJson (s : Settings) : Value :=
  schema.encode s

/-- The compact text of the settings as JSON. -/
def text (s : Settings) : String :=
  s.toJson.compact

end Settings

end HttpStub
