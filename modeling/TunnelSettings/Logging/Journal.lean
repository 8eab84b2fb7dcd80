import TunnelSettings.Files.Path
import TunnelSettings.Logging.Level

/-!
Journals: where messages go, and from which level on. A message is logged under the dotted name of the
part that it comes from. Names below `rootName` share one configuration; a message under any other name,
or one that finds no sink, is shown bare if it is at least a warning.
-/
namespace TunnelSettings

/-- A message under the name of the part it comes from. -/
structure Record where
  logger : String
  level : Level
  message : String
  deriving DecidableEq, Repr

/-- What a line says of the moment and the place at which its message was logged. -/
structure Stamp where
  /-- The time of day, for the console. -/
  clock : String
  /-- The date and time, for files. -/
  date : String
  /-- The line of the program, for files. -/
  line : String

namespace Record

/-- The level in square brackets. -/
def bracket (inColour : Bool) (r : Record) : String := "[" ++ r.level.shown inColour ++ "]"

/-- The level and the message. -/
def brief (inColour : Bool) (r : Record) : String := r.bracket inColour ++ " " ++ r.message

/-- The level, the name and the message. -/
def named (inColour : Bool) (r : Record) : String :=
  r.bracket inColour ++ " " ++ r.logger ++ ": " ++ r.message

/-- The form for files, which never has colours. -/
def full (stamp : Stamp) (r : Record) : String :=
  stamp.date ++ " " ++ r.bracket false ++ " " ++ r.logger ++ ":" ++ stamp.line ++ " - " ++ r.message

end Record

/-- Where lines of a journal go. -/
inductive Sink where
  /-- The terminal, with the time and the name if `timed`. -/
  | console (timed : Bool)
  /-- The file with a full path. -/
  | file (place : Path)
  deriving DecidableEq, Repr

/-- The line that a message becomes in a sink. -/
def Sink.write (stamp : Stamp) (r : Record) : Sink → String
  | console true => stamp.clock ++ " " ++ r.named true
  | console false => r.brief true
  | file _ => r.full stamp

/-- A sink and the least level that it takes. -/
structure Handler where
  level : Level
  sink : Sink
  deriving DecidableEq, Repr

/-- The configuration of logging; level zero stands for none that is set. -/
structure Journal where
  level : Level := 0
  handlers : List Handler := []
  /-- The full names of the parts that were asked for. -/
  known : List String := []
  deriving DecidableEq, Repr

namespace Journal

/-- The name under which the configuration holds. -/
def rootName : String := "vpnsettings"

/-- The full name of a part: names that do not start like the root's are put below it. -/
def loggerName (name : String) : String :=
  if rootName.toList.isPrefixOf name.toList then name else rootName ++ "." ++ name

/-- Whether what is above a name leads to the root. The name is read from its end to its start: what
comes before a dot is above, if that is the root or is known. If it is not, then the character before the
dot is passed over, and with it a second dot. -/
@[irreducible] def leadsToRoot (known : List String) : List Char → Bool
  | [] => false
  | c :: before =>
    if c ≠ '.' then leadsToRoot known before
    else if before.reverse = rootName.toList then true
    else if known.contains (.ofList before.reverse) then leadsToRoot known before
    else
      match before with
      | [] => false
      | _ :: before => leadsToRoot known before

/-- Whether a name is the root's or lies below it. -/
def governs (j : Journal) (name : String) : Bool :=
  name = rootName || leadsToRoot j.known name.toList.reverse

/-- The level from which on messages are logged where none is set. -/
def defaultLevel : Level := .warning

/-- The level from which on messages under a name are logged. -/
def levelFor (j : Journal) (name : String) : Level :=
  if j.governs name && j.level ≠ 0 then j.level else defaultLevel

/-- The handlers that take messages under a name. -/
def handlersFor (j : Journal) (name : String) : List Handler :=
  if j.governs name then j.handlers else []

/-- Whether a message is logged at all. -/
def accepts (j : Journal) (r : Record) : Bool := 0 < r.level && j.levelFor r.logger ≤ r.level

/-- The sinks that a message reaches. -/
def sinksFor (j : Journal) (r : Record) : List Sink :=
  ((j.handlersFor r.logger).filter (·.level ≤ r.level)).map (·.sink)

/-- Whether a message is shown bare, for lack of any sink. -/
def isBare (j : Journal) (r : Record) : Bool :=
  (j.handlersFor r.logger).isEmpty && Level.warning ≤ r.level

/-- The journal with a console alone. At the finest level the console shows times and names. -/
def console (j : Journal) (level : Level) : Journal :=
  { j with level, handlers := [⟨level, .console (level ≤ .debug)⟩] }

/-- Add a file at the journal's level. -/
def withFile (j : Journal) (place : Path) : Journal :=
  { j with handlers := j.handlers ++ [⟨j.level, .file place⟩] }

/-- Set the level of the journal and of all that it writes to. -/
def withLevel (j : Journal) (level : Level) : Journal :=
  { j with level, handlers := j.handlers.map fun h => { h with level } }

/-- The journal once the part with a full name was asked for. -/
def asked (j : Journal) (name : String) : Journal := { j with known := name :: j.known }

/-- Use the level that settings name; an unknown or unset one changes nothing. -/
def apply (j : Journal) (setting : Option String) : Journal :=
  match Level.ofSetting? setting with
  | some level => j.withLevel level
  | none => j

end Journal
end TunnelSettings
