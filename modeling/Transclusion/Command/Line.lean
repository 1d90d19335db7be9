import Transclusion.Command.Arguments
import Transclusion.Command.Check
import Transclusion.Command.Serve

/-!
# The command line

What the program is asked to do: serve, check a configuration, or tell about itself. Options may
also be given by variables of the environment, which count only where the option is missing.
-/

namespace Transclusion

/-- What a command line asks for. -/
inductive CommandLine where
  | serve (config : String) (o : ServeOptions)
  | check (config : String) (o : CheckOptions)
  /-- Something to print. -/
  | tell (text : String)
  /-- The command line makes no sense. -/
  | misuse
deriving DecidableEq, Repr

namespace CommandLine

/-- The name of the program. -/
def programName : String := "assemblage"

/-- The version of the program. -/
def version : String := "0.1.0"

/-- The path of the configuration unless another is given. -/
def defaultConfig : String := "assemblage.yml"

/-- The option that asks for help, which every command has. -/
def helpOption : CommandOption := { name := "help", kind := .help, letter := some 'h' }

/-- The options before the command. -/
def programOptions : List CommandOption :=
  [{ name := "config", kind := .path, variableName := some "ASSEMBLAGE_CONFIG" },
    { name := "verbose", kind := .flag, letter := some 'v' }, helpOption,
    { name := "version", kind := .version, letter := some 'V' }]

/-- The options of the command that serves. -/
def serveOptions : List CommandOption :=
  [{ name := "listen", kind := .text, variableName := some "ASSEMBLAGE_LISTEN" },
    { name := "upstream", kind := .text, variableName := some "ASSEMBLAGE_UPSTREAM" },
    { name := "max-content-length", kind := .word
      variableName := some "ASSEMBLAGE_MAX_CONTENT_LENGTH" },
    { name := "max-request-body", kind := .word
      variableName := some "ASSEMBLAGE_MAX_REQUEST_BODY" },
    helpOption]

/-- The options of the command that checks. -/
def checkOptions : List CommandOption :=
  [{ name := "content-type", kind := .text }, { name := "uri", kind := .text },
    { name := "method", kind := .text }, { name := "names", kind := .list },
    { name := "json", kind := .flag }, helpOption]

/-! ### Help -/

/-- The mention of a variable with its value. -/
def mention (environment : List (String × String)) (name : String) : String :=
  let value := ((environment.find? fun (n, _) => n == name).map (·.2)).getD ""
  s!"[env: {name}={value}]"

/-- Lines of text. -/
def paragraph (ls : List String) : String := String.join (ls.map (· ++ "\n"))

/-- The help of the program. -/
def programHelp (environment : List (String × String)) : String :=
  paragraph
    ["Assembling reverse proxy and tooling for assemblage",
      "",
      "Usage: assemblage [OPTIONS] <COMMAND>",
      "",
      "Commands:",
      "  serve  Run the assembling reverse proxy",
      "  check  Validate the configuration and show the plan for a resource",
      "  help   Print this message or the help of the given subcommand(s)",
      "",
      "Options:",
      "      --config <CONFIG>  Path to configuration file " ++
        mention environment "ASSEMBLAGE_CONFIG" ++ " [default: assemblage.yml]",
      "  -v, --verbose          Enable verbose logging",
      "  -h, --help             Print help",
      "  -V, --version          Print version"]

/-- The help of the command that serves. -/
def serveHelp (environment : List (String × String)) : String :=
  paragraph
    ["Run the assembling reverse proxy",
      "",
      "Usage: assemblage serve [OPTIONS]",
      "",
      "Options:",
      "      --listen <LISTEN>",
      "          Address to listen on (overrides server.listen_addr) " ++
        mention environment "ASSEMBLAGE_LISTEN",
      "      --upstream <UPSTREAM>",
      "          Origin to forward requests to (overrides server.upstream) " ++
        mention environment "ASSEMBLAGE_UPSTREAM",
      "      --max-content-length <MAX_CONTENT_LENGTH>",
      "          Largest body in bytes that is assembled " ++
        mention environment "ASSEMBLAGE_MAX_CONTENT_LENGTH",
      "      --max-request-body <MAX_REQUEST_BODY>",
      "          Largest inbound request body in bytes " ++
        mention environment "ASSEMBLAGE_MAX_REQUEST_BODY",
      "  -h, --help",
      "          Print help"]

/-- The help of the command that checks. -/
def checkHelp : String :=
  paragraph
    ["Validate the configuration and show the plan for a resource",
      "",
      "Usage: assemblage check [OPTIONS]",
      "",
      "Options:",
      "      --content-type <CONTENT_TYPE>  Content type selecting the assemblage [default: text/html]",
      "      --uri <URI>                    Resource URI to resolve names against",
      "      --method <METHOD>              Request method of the resource [default: GET]",
      "      --names <NAMES>                Requested names (comma separated)",
      "      --json                         Emit JSON instead of text",
      "  -h, --help                         Print help"]

/-- The help of the command that gives help. -/
def helpHelp : String :=
  paragraph
    ["Print this message or the help of the given subcommand(s)",
      "",
      "Usage: assemblage help [COMMAND]...",
      "",
      "Arguments:",
      "  [COMMAND]...  Print help for the subcommand(s)"]

/-- The text about the version. -/
def versionText : String := paragraph [programName ++ " " ++ version]

/-! ### Reading -/

/-- What is left to do when reading stops. -/
def stopped (help : String) : Stop → CommandLine
  | .help => .tell help
  | .version => .tell versionText
  | .misuse => .misuse

/-- The options of the command that serves, from what was given. -/
def serveOptionsOf (given : Given) : ServeOptions where
  listen := Arguments.value? given "listen"
  backend := Arguments.value? given "upstream"
  maxContentLength := Arguments.number? given "max-content-length"
  maxRequestBody := Arguments.number? given "max-request-body"

/-- The options of the command that checks, from what was given. -/
def checkOptionsOf (given : Given) : CheckOptions where
  contentType := (Arguments.value? given "content-type").getD "text/html"
  uri := Arguments.value? given "uri"
  method := (Arguments.value? given "method").getD fetchMethod
  names := Arguments.members given "names"
  json := (Arguments.value? given "json").isSome

/-- Read a command and its options; `config` is known once the command has been read. -/
def readCommand (environment : List (String × String)) (config : Except Stop String) :
    List String → CommandLine
  | "serve" :: args =>
    match Arguments.readAll serveOptions environment args, config with
    | .error s, _ => stopped (serveHelp environment) s
    | .ok _, .error _ => .misuse
    | .ok given, .ok path => .serve path (serveOptionsOf given)
  | "check" :: args =>
    match Arguments.readAll checkOptions environment args, config with
    | .error s, _ => stopped checkHelp s
    | .ok _, .error _ => .misuse
    | .ok given, .ok path => .check path (checkOptionsOf given)
  | ["help"] => .tell (programHelp environment)
  | ["help", "serve"] => .tell (serveHelp environment)
  | ["help", "check"] => .tell checkHelp
  | ["help", "help"] => .tell helpHelp
  | _ => .misuse

/-- Read a command line. -/
def parse (environment : List (String × String)) (args : List String) : CommandLine :=
  match Arguments.read programOptions [] args with
  | .error s => stopped (programHelp environment) s
  | .ok (given, rest) =>
    let config := (Arguments.fromEnvironment environment given programOptions).map fun given =>
      (Arguments.value? given "config").getD defaultConfig
    readCommand environment config rest

end CommandLine

/-- What a run of the program leaves behind. -/
structure Ending where
  code : Nat
  output : String
  /-- The line that reports a fault. -/
  fault : Option String
deriving DecidableEq, Repr

namespace Ending

/-- The end of a run that succeeds. -/
def success (output : String) : Ending := ⟨0, output, none⟩

/-- The end of a run that fails. -/
def failure (f : CommandFault) : Ending := ⟨1, "", some ("Error: " ++ f.message)⟩

/-- The end of a run whose command line makes no sense. -/
def misuse : Ending := ⟨2, "", none⟩

end Ending

namespace CommandLine

/-- The file that a command line needs. -/
def configPath? : CommandLine → Option String
  | serve path _ | check path _ => some path
  | _ => none

/-- Run a command line on the content of the file that it needs. A server that is ready to listen
finds no network to do so. -/
def run (c : CommandLine) (content : Option Bytes) : Ending :=
  match c with
  | serve path o =>
    match prepareServer path content o with
    | .error f => .failure f
    | .ok server => .failure (.unbindable server.address)
  | check path o =>
    match Transclusion.check path content o with
    | .error f => .failure f
    | .ok output => .success output
  | tell text => .success text
  | misuse => .misuse

end CommandLine

end Transclusion
