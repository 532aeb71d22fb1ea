import HttpStub.Settings.File

/-!
# Command-line arguments

## Main definitions

* `HttpStub.Switch` — the options of the command line.
* `HttpStub.Arguments` — the values that a command line and its environment give.
* `HttpStub.Arguments.read` — the values of a list of arguments and an environment.
* `HttpStub.Arguments.settings` — the settings that they lead to.
* `HttpStub.UsageError` — why a command line is refused.

## Design

A value that may still follow its option, or may still turn out to be one too many, is `Pending`: it
is only looked at once the next option, the next free argument or the end of the line is reached. So
an unknown option is reported before a bad value in front of it. Variables of the environment stand
in for options that are not given.
-/

namespace HttpStub

/-! ## Options -/

/-- The options of the command line that have a value. -/
inductive Switch where
  | config
  | listen
  | proxyHost
  | refererPath
  | verbose
  | mappingsDir
  | jsonContentTypes
  | preserveKeyOrder
  | sortArrayMembers
  deriving DecidableEq, Repr

namespace Switch

/-- All options in the order in which the environment is looked up. -/
def all : List Switch :=
  [config, listen, proxyHost, refererPath, verbose, mappingsDir, jsonContentTypes,
    preserveKeyOrder, sortArrayMembers]

/-- The name behind two dashes. -/
def long : Switch → String
  | config => "config"
  | listen => "port"
  | proxyHost => "proxy-host"
  | refererPath => "referer-path"
  | verbose => "verbose"
  | mappingsDir => "mappings-dir"
  | jsonContentTypes => "json-content-types"
  | preserveKeyOrder => "preserve-json-key-order"
  | sortArrayMembers => "sort-array-members"

/-- The letter behind one dash. -/
def short? : Switch → Option Char
  | config => some 'c'
  | listen => some 'p'
  | verbose => some 'v'
  | _ => none

/-- The variable of the environment. -/
def variableName : Switch → String
  | config => "MOCKWIRE_CONFIG"
  | listen => "PORT"
  | proxyHost => "PROXY_HOST"
  | refererPath => "REFERER_PATH"
  | verbose => "VERBOSE"
  | mappingsDir => "MAPPINGS_DIR"
  | jsonContentTypes => "JSON_CONTENT_TYPES"
  | preserveKeyOrder => "PRESERVE_JSON_KEY_ORDER"
  | sortArrayMembers => "SORT_ARRAY_MEMBERS"

/-- The option is a flag: it has a value only behind an equals sign, and any value but the empty one
turns it on. -/
def isFlag : Switch → Bool
  | verbose => true
  | preserveKeyOrder => true
  | sortArrayMembers => true
  | _ => false

end Switch

/-- What a name behind dashes asks for. -/
inductive Wish where
  | help
  | version
  | option (o : Switch)
  deriving DecidableEq, Repr

/-! ## Errors -/

/-- Why a command line is refused, or is not about settings. -/
inductive UsageError where
  /-- A value is missing or none of the ones that are possible. -/
  | invalidValue
  /-- A value does not have the form that it needs. -/
  | malformedValue
  | unknownArgument
  /-- An option is given twice. -/
  | repeated
  /-- A value stands behind an option that has none. -/
  | needlessValue
  | help
  | version
  deriving DecidableEq, Repr

/-! ## Values -/

/-- The values that a command line gives. -/
structure Arguments where
  mode : Option Mode
  config : Option String
  socket : Option UInt16
  proxyHost : Option String
  refererPath : Option String
  verbose : Bool
  mappingsDir : Option String
  jsonContentTypes : Option String
  preserveKeyOrder : Bool
  sortArrayMembers : Bool
  /-- The options that have been given. -/
  given : List Switch
  deriving DecidableEq, Repr

/-- The number of a socket: digits, perhaps behind a sign, in the range of sixteen bits. -/
def socketOfText? (s : String) : Option UInt16 :=
  let (minus, ds) :=
    match s.toList with
    | '+' :: ds => (false, ds)
    | '-' :: ds => (true, ds)
    | ds => (false, ds)
  match Yaml.digits? 10 ds with
  | some n => if n < 65536 ∧ (!minus ∨ n = 0) then some (UInt16.ofNat n) else none
  | none => none

namespace Arguments

/-- Nothing is given. -/
def blank : Arguments :=
  ⟨none, none, none, none, none, false, none, none, false, false, []⟩

instance : Inhabited Arguments := ⟨blank⟩

/-- The value of a path. -/
def pathValue (v : String) : Except UsageError String :=
  if v.isEmpty then .error .invalidValue else .ok v

/-- An option with its value. -/
def set (a : Arguments) (o : Switch) (v : String) : Except UsageError Arguments := do
  let a := { a with given := o :: a.given }
  match o with
  | .config => return { a with config := some (← pathValue v) }
  | .listen =>
    match socketOfText? v with
    | some n => return { a with socket := some n }
    | none => .error .malformedValue
  | .proxyHost => return { a with proxyHost := some v }
  | .refererPath => return { a with refererPath := some v }
  | .verbose => return { a with verbose := !v.isEmpty }
  | .mappingsDir => return { a with mappingsDir := some (← pathValue v) }
  | .jsonContentTypes => return { a with jsonContentTypes := some v }
  | .preserveKeyOrder => return { a with preserveKeyOrder := !v.isEmpty }
  | .sortArrayMembers => return { a with sortArrayMembers := !v.isEmpty }

/-- An option of the command line with its value; it may be given once. -/
def setOnce (a : Arguments) (o : Switch) (v : String) : Except UsageError Arguments :=
  if a.given.contains o then .error .repeated else a.set o v

/-- The mode that is named. -/
def setMode (a : Arguments) (name : String) : Except UsageError Arguments :=
  match Mode.ofName? name with
  | some m => .ok { a with mode := some m }
  | none => .error .invalidValue

end Arguments

/-! ## Reading -/

/-- What has been read but not been looked at. -/
inductive Pending where
  | nothing
  /-- An option that waits for its value. -/
  | waiting (o : Switch)
  /-- An option with its value. -/
  | option (o : Switch) (value : String)
  /-- The name of a mode. -/
  | mode (name : String)
  deriving DecidableEq, Repr

/-- The state between two arguments. -/
structure Reader where
  arguments : Arguments
  pending : Pending
  /-- A free argument has been read. -/
  modeSeen : Bool
  /-- Only free arguments follow. -/
  onlyFree : Bool
  deriving DecidableEq, Repr

namespace Reader

/-- The state in front of the first argument. -/
def start : Reader :=
  ⟨.blank, .nothing, false, false⟩

/-- What is pending has been looked at. -/
def settle (r : Reader) : Except UsageError Reader := do
  let a ←
    match r.pending with
    | .nothing => .ok r.arguments
    | .waiting _ => .error .invalidValue
    | .option o v => r.arguments.setOnce o v
    | .mode name => r.arguments.setMode name
  return { r with arguments := a, pending := .nothing }

/-- What is pending has been looked at, and an option has been given. -/
def give (r : Reader) (o : Switch) (v : String) : Except UsageError Reader := do
  let r ← r.settle
  return { r with arguments := ← r.arguments.setOnce o v }

/-- What is pending has been looked at, and a text is asked for. -/
def stop (r : Reader) (e : UsageError) : Except UsageError Reader := do
  let _ ← r.settle
  .error e

/-- An option, perhaps with a value behind an equals sign. A flag without value is on. -/
def readOption (r : Reader) (o : Switch) (value : Option String) : Except UsageError Reader := do
  match value with
  | some v => r.give o v
  | none =>
    if o.isFlag then r.give o "1"
    else
      let r ← r.settle
      return { r with pending := .waiting o }

/-- What a name behind two dashes asks for. -/
def longName? (name : String) : Option Wish :=
  if name = "help" then some .help
  else if name = "version" then some .version
  else (Switch.all.find? (·.long == name)).map .option

/-- What a letter behind one dash asks for. -/
def letter? (c : Char) : Option Wish :=
  if c = 'h' then some .help
  else if c = 'V' then some .version
  else (Switch.all.find? (·.short? == some c)).map .option

/-- An argument that starts with two dashes. -/
def readLong (r : Reader) (cs : List Char) : Except UsageError Reader :=
  let (name, value) : List Char × Option String :=
    match Text.cut? '=' cs with
    | some (name, value) => (name, some (String.ofList value))
    | none => (cs, none)
  match longName? (String.ofList name), value with
  | none, _ => .error .unknownArgument
  | some (.option o), value => r.readOption o value
  | some .help, none => r.stop .help
  | some .version, none => r.stop .version
  | some _, some _ => .error .needlessValue

/-- The letters of an argument that starts with one dash. The value of an option may follow its
letter at once; a flag leaves what follows to further letters. -/
def readLetters (r : Reader) : List Char → Except UsageError Reader
  | [] => .ok r
  | c :: cs =>
    match letter? c with
    | none => .error .unknownArgument
    | some .help => r.stop .help
    | some .version => r.stop .version
    | some (.option o) =>
      match cs with
      | '=' :: value => r.readOption o (some (String.ofList value))
      | [] => r.readOption o none
      | d :: ds =>
        if o.isFlag then (r.give o "1").bind fun r => r.readLetters (d :: ds)
        else r.readOption o (some (String.ofList (d :: ds)))

/-- A free argument: the name of a mode, once. -/
def readFree (r : Reader) (s : String) : Except UsageError Reader := do
  if r.modeSeen then .error .unknownArgument
  else
    let r ← r.settle
    return { r with pending := .mode s, modeSeen := true }

/-- One argument. -/
def readArgument (r : Reader) (s : String) : Except UsageError Reader :=
  if r.onlyFree then r.readFree s
  else
    match s.toList with
    | ['-', '-'] => .ok { r with onlyFree := true }
    | '-' :: '-' :: cs => r.readLong cs
    | '-' :: c :: cs => r.readLetters (c :: cs)
    | _ =>
      match r.pending with
      | .waiting o => .ok { r with pending := .option o s }
      | _ => r.readFree s

end Reader

namespace Arguments

/-- The variables of the environment for the options that are not given. -/
def addVariables (a : Arguments) (environment : List (String × String)) :
    List Switch → Except UsageError Arguments
  | [] => .ok a
  | o :: os => do
    let a ←
      match environment.find? (·.1 == o.variableName) with
      | some (_, v) => if a.given.contains o then .ok a else a.set o v
      | none => .ok a
    a.addVariables environment os

/-- The values of a list of arguments and an environment. -/
def read (arguments : List String) (environment : List (String × String)) :
    Except UsageError Arguments := do
  let r ← arguments.foldlM Reader.readArgument .start
  let r ← r.settle
  r.arguments.addVariables environment Switch.all

/-! ## Settings -/

/-- A text that is given and not empty, or else the old one. -/
def orOld (given : Option String) (old : Option String) : Option String :=
  match given with
  | some s => if s.isEmpty then old else some s
  | none => old

/-- The settings with those that are given in place of the old ones. Flags only turn on. -/
def override (a : Arguments) (s : Settings) : Settings where
  mode := a.mode.getD s.mode
  host := s.host
  socket := a.socket.getD s.socket
  proxyHost := orOld a.proxyHost s.proxyHost
  refererPath := (orOld a.refererPath (some s.refererPath)).getD s.refererPath
  timeoutSeconds := s.timeoutSeconds
  mappingsDir := a.mappingsDir.orElse fun _ => s.mappingsDir
  verbose := s.verbose || a.verbose
  recording :=
    { jsonContentTypes :=
        match a.jsonContentTypes with
        | some t => mediaTypesOf t
        | none => s.recording.jsonContentTypes
      preserveKeyOrder := s.recording.preserveKeyOrder || a.preserveKeyOrder
      sortArrayMembers := s.recording.sortArrayMembers || a.sortArrayMembers }

/-- The settings that the arguments lead to; `readText` reads the file that they may name. -/
def settings (a : Arguments) (readText : String → Except FileError String) :
    Except SettingsError Settings := do
  let base ←
    match a.config with
    | some path => Settings.ofFile path (readText path)
    | none => .ok .default
  (a.override base).validate

end Arguments

end HttpStub
