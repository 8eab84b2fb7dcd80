import TunnelSettings.Cli.Grammar
import TunnelSettings.Files.Path
import TunnelSettings.Text.Bracket

/-!
The command line of the program, which has one command: `check`.
-/
namespace TunnelSettings.Cli

/-- What the `check` command is asked for. -/
structure CheckOptions where
  settings : Path := ⟨"", []⟩
  override : Option Path := none
  servers : Option Path := none
  ipv6 : Bool := false
  deriving DecidableEq

/-- What a whole command line asks for. -/
structure Options where
  verbose : Bool := false
  logLevel : Option String := none
  logFile : Option Path := none
  check : CheckOptions := {}
  /-- Words behind the command that mean nothing to it. -/
  leftOver : List String := []
  deriving DecidableEq

/-- The two ways in which words are read: those of the program, and those behind the command's name. -/
inductive Context where
  | program | check
  deriving DecidableEq, Repr

/-- Why the command line is not carried out. -/
inductive Refusal where
  | help (context : Context)
  | wrong (context : Context) (message : String)
  deriving DecidableEq

def Context.title : Context → String
  | program => "vpnsettings"
  | check => "vpnsettings check"

/-- The only command. -/
def checkName : String := "check"

def logLevels : List String := ["DEBUG", "INFO", "WARNING", "ERROR", "CRITICAL"]

/-- Choices for a word, as the usage shows them. -/
def choicesText (choices : List String) : String := Text.inBraces (",".intercalate choices)

/-- The usage, in lines of eighty characters. -/
def Context.usage : Context → String
  | program =>
    "usage: vpnsettings [-h] [-v] [--log-level " ++ choicesText logLevels ++ "]\n" ++
    "                   [--log-file LOG_FILE]\n" ++
    "                   " ++ choicesText [checkName] ++ " ...\n"
  | check =>
    "usage: vpnsettings check [-h] [--override OVERRIDE] [--servers SERVERS]\n" ++
    "                         [--ipv6]\n" ++
    "                         settings\n"

def Context.description : Context → String
  | program =>
    "Validate and summarize VPN client settings\n\n" ++
    "options:\n" ++
    "  -h, --help            show this help message and exit\n" ++
    "  -v, --verbose         Enable verbose output (DEBUG level)\n" ++
    "  --log-level " ++ choicesText logLevels ++ "\n" ++
    "                        Set logging level (overrides --verbose)\n" ++
    "  --log-file LOG_FILE   Write logs to file\n\n" ++
    "commands:\n" ++
    "  " ++ choicesText [checkName] ++ "\n" ++
    "    check               Validate a settings file and print its summary\n\n" ++
    "Use 'vpnsettings <command> --help' for more information on a specific command.\n"
  | check =>
    "positional arguments:\n" ++
    "  settings             Settings file (.json, .yaml, or .yml)\n\n" ++
    "options:\n" ++
    "  -h, --help           show this help message and exit\n" ++
    "  --override OVERRIDE  Settings file applied on top, only if the result is\n" ++
    "                       valid\n" ++
    "  --servers SERVERS    Servers file used to validate server selection filters\n" ++
    "  --ipv6               Treat the host network stack as IPv6 capable\n"

/-- The full help text. -/
def Context.help (c : Context) : String := c.usage ++ "\n" ++ c.description

def Context.complaint (c : Context) (message : String) : String :=
  c.usage ++ c.title ++ ": error: " ++ message ++ "\n"

def helpForm : OptionForm := { names := ["-h", "--help"] }
def verboseForm : OptionForm := { names := ["-v", "--verbose"] }
def logLevelForm : OptionForm := { names := ["--log-level"], takesValue := true }
def logFileForm : OptionForm := { names := ["--log-file"], takesValue := true }
def overrideForm : OptionForm := { names := ["--override"], takesValue := true }
def serversForm : OptionForm := { names := ["--servers"], takesValue := true }
def ipv6Form : OptionForm := { names := ["--ipv6"] }

def invalidChoice (value : String) (choices : List String) : String :=
  "invalid choice: " ++ Text.quoted value ++ " (choose from " ++
    ", ".intercalate (choices.map Text.quoted) ++ ")"

/-- The options of the `check` command; its argument is the settings file. -/
def checkGrammar : Grammar CheckOptions Refusal where
  forms := [helpForm, overrideForm, serversForm, ipv6Form]
  argument := "settings"
  fail := .wrong .check
  act o
    | .argument words => .ok { o with settings := .ofText (words.headD "") }
    | .option ⟨form, value⟩ =>
      if form = helpForm then .error (.help .check)
      else if form = overrideForm then .ok { o with override := some (.ofText value) }
      else if form = serversForm then .ok { o with servers := some (.ofText value) }
      else .ok { o with ipv6 := true }

/-- The options before the command; what is behind the command is left to it. -/
def grammar : Grammar Options Refusal where
  forms := [helpForm, verboseForm, logLevelForm, logFileForm]
  argument := "command"
  takesRest := true
  fail := .wrong .program
  act o
    | .argument [] => .ok o
    | .argument (command :: words) =>
      if command ≠ checkName then
        .error (.wrong .program ("argument command: " ++ invalidChoice command [checkName]))
      else do
        let (check, leftOver) ← checkGrammar.read {} words
        return { o with check, leftOver }
    | .option ⟨form, value⟩ =>
      if form = helpForm then .error (.help .program)
      else if form = verboseForm then .ok { o with verbose := true }
      else if form = logFileForm then .ok { o with logFile := some (.ofText value) }
      else if logLevels.contains value then .ok { o with logLevel := some value }
      else .error (.wrong .program (complain logLevelForm (invalidChoice value logLevels)))

/-- The options that the words of a command line give. -/
def Options.ofWords (words : List String) : Except Refusal Options := do
  let (o, leftOver) ← grammar.read {} words
  let unknown := leftOver ++ o.leftOver
  if unknown.isEmpty then return { o with leftOver := [] }
  throw (.wrong .program ("unrecognized arguments: " ++ " ".intercalate unknown))

end TunnelSettings.Cli
