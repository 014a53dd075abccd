/-!
Arguments of the program: a subcommand and its options. An option with a value is written
`--name value` or `--name=value` and given at most once; the arguments are read from left to right, and
the first request for help, or the first mistake, ends the reading.
-/

namespace SensorRouter.CommandLine

/-- What the program is asked to do. -/
inductive Invocation where
  /-- Runs the router. -/
  | serve (settings listen seed : Option String) (structuredLog : Bool)
  /-- Checks a settings file and prints the settings in effect. -/
  | checkSettings (path : String)
  deriving DecidableEq, Repr

/-- The files that an invocation reads. -/
def Invocation.paths : Invocation → List String
  | serve settings _ seed _ => settings.toList ++ seed.toList
  | checkSettings path => [path]

/-- Why the arguments ask for nothing to be run. -/
inductive Usage where
  | help
  | version
  | mistake
  deriving DecidableEq, Repr

def Usage.exitCode : Usage → Nat
  | help | version => 0
  | mistake => 2

/-- What the program prints instead of running. -/
def Usage.text : Usage → String
  | version => "sensor-router 0.1.0\n"
  | help | mistake =>
    "Routes measurements, messages and control data of sensors to downstream services\n\n" ++
      "Usage: sensor-router <COMMAND>\n\nCommands:\n" ++
      "  serve         Run the router\n" ++
      "                [--config PATH] [--listen ADDRESS] [--seed PATH] [--json-logs]\n" ++
      "  check-config  Validate a config file and print the effective settings\n" ++
      "                [--config PATH]\n" ++
      "  help          Print this message\n"

/-- The kinds of value that an option takes. -/
inductive OptionKind where
  | flag
  | text
  /-- A path is not empty. -/
  | path
  deriving DecidableEq, Repr

/-- An option that was given, with its value unless it is a flag. -/
structure Given where
  name : String
  value : String := ""
  deriving DecidableEq, Repr

/-- The options of a subcommand. -/
abbrev Options := List (String × OptionKind)

/-- Whether a word is read as an option, or as the end of all options. -/
def isOption (word : String) : Bool :=
  word.startsWith "-" && word ≠ "-"

/-- An option with its value, unless it was given before or the value does not do. -/
def give (given : List Given) (name : String) (kind : OptionKind) (value : String) :
    Except Usage (List Given) :=
  if given.any (·.name = name) || kind = .path && value.isEmpty then .error .mistake
  else .ok (given ++ [⟨name, value⟩])

/-- The name of a long option and the value attached to it. -/
def splitLong (word : String) : List Char × Option String :=
  let body := word.toList.drop 2
  let name := body.takeWhile (· ≠ '=')
  (name, match body.drop name.length with
    | [] => none
    | _ :: value => some (String.ofList value))

/-- Reads the options of a subcommand, which takes nothing else. -/
def readOptions (options : Options) : List Given → List String → Except Usage (List Given)
  | given, [] => .ok given
  | given, word :: rest =>
    if word = "--" then
      if rest.isEmpty then .ok given else .error .mistake
    else if word.startsWith "--" then
      let (name, attached) := splitLong word
      let name := String.ofList name
      match options.lookup name, attached with
      | none, attached => .error (if name = "help" && attached.isNone then .help else .mistake)
      | some .flag, none => (give given name .flag "").bind fun given =>
        readOptions options given rest
      | some .flag, some _ => .error .mistake
      | some kind, some value => (give given name kind value).bind fun given =>
        readOptions options given rest
      | some kind, none =>
        match rest with
        | [] => .error .mistake
        | value :: rest =>
          if isOption value then .error .mistake
          else (give given name kind value).bind fun given => readOptions options given rest
    else .error (if word.startsWith "-h" then .help else .mistake)

def valueOf? (given : List Given) (name : String) : Option String :=
  (given.find? (·.name = name)).map (·.value)

def serveOptions : Options :=
  [("config", .path), ("listen", .text), ("seed", .path), ("json-logs", .flag)]

def checkOptions : Options :=
  [("config", .path)]

/-- The settings file that is checked when none is named. -/
def defaultPath : String := "iot-router.toml"

def subcommands : List String :=
  ["serve", "check-config", "help"]

def readArguments : List String → Except Usage Invocation
  | "serve" :: rest => do
    let given ← readOptions serveOptions [] rest
    return .serve (valueOf? given "config") (valueOf? given "listen") (valueOf? given "seed")
      (given.any (·.name = "json-logs"))
  | "check-config" :: rest => do
    let given ← readOptions checkOptions [] rest
    return .checkSettings ((valueOf? given "config").getD defaultPath)
  | ["help"] => .error .help
  | ["help", topic] => .error (if topic ∈ subcommands then .help else .mistake)
  | word :: _ =>
    if word = "--help" || word.startsWith "-h" then .error .help
    else if word = "--version" || word.startsWith "-V" then .error .version
    else .error .mistake
  | [] => .error .mistake

example : (readArguments ["serve", "--config=a=b", "--json-logs"]).toOption =
    some (.serve (some "a=b") none none true) := by decide +kernel
example : (readArguments ["serve", "--listen", "--help"]).toOption = none := by decide +kernel

end SensorRouter.CommandLine
