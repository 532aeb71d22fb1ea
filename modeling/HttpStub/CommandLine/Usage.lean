import HttpStub.CommandLine.Arguments

/-!
# Words for the command line

## Main definitions

* `HttpStub.usageText` — what the program can be asked for.
* `HttpStub.versionText` — its name and version.
* `HttpStub.UsageError.message` — why a command line is refused.
-/

namespace HttpStub

/-- The name and version of the program. -/
def versionText : String := "mockwire 0.1.0"

/-- What an option is for. -/
def Switch.help : Switch → String
  | .config => "YAML configuration file; command line and environment values override it"
  | .listen => "Listen port"
  | .proxyHost => "Upstream base URL, e.g. https://api.example.com (record and proxy modes)"
  | .refererPath => "Path appended to the upstream for the Referer header"
  | .verbose => "Log request and response details"
  | .mappingsDir => "Directory of *.json mapping files loaded at startup"
  | .jsonContentTypes =>
    "Comma separated media types recorded as jsonBody besides application/json"
  | .preserveKeyOrder => "Keep upstream JSON key order in recorded stubs"
  | .sortArrayMembers => "Sort JSON array members in recorded stubs"

/-- How an option is spelled. -/
def Switch.spelling (o : Switch) : String :=
  (match o.short? with | some c => "-" ++ String.ofList [c] ++ ", " | none => "    ")
    ++ "--" ++ o.long ++ (if o.isFlag then "" else " <VALUE>")

/-- The two lines of a way to call the program. -/
def usageEntry (spelling help : String) : String :=
  "  " ++ spelling ++ "\n          " ++ help ++ "\n"

/-- What the program can be asked for. -/
def usageText : String :=
  "Usage: mockwire [OPTIONS] [MODE]\n\nModes: replay, record, proxy\n\nOptions:\n"
    ++ String.join (Switch.all.map fun o =>
      usageEntry o.spelling (o.help ++ " [env: " ++ o.variableName ++ "]"))
    ++ usageEntry "-h, --help" "Print help"
    ++ usageEntry "-V, --version" "Print version"

/-- Why a command line is refused. -/
def UsageError.message : UsageError → String
  | .invalidValue => "a value is missing or is not one of the possible ones"
  | .malformedValue => "a value does not have the right form"
  | .unknownArgument => "unexpected argument"
  | .repeated => "an argument cannot be used multiple times"
  | .needlessValue => "unexpected value for a flag"
  | .help => usageText
  | .version => versionText

end HttpStub
