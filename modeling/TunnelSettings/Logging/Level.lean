import TunnelSettings.Failure
import TunnelSettings.Text.Bracket
import TunnelSettings.Text.Casing

/-!
How grave a message is, as a number, and the names and colours of the usual levels.
-/
namespace TunnelSettings

/-- Graver messages have greater levels. Zero stands for a level that is not set. -/
abbrev Level := Int

namespace Level

open Text

def debug : Level := 10
def info : Level := 20
def warning : Level := 30
def error : Level := 40
def critical : Level := 50

/-- The names of levels that are shown. -/
def names : List (Level × String) := [
  (critical, "CRITICAL"), (error, "ERROR"), (warning, "WARNING"), (info, "INFO"), (debug, "DEBUG"),
  (0, "NOTSET")]

def name (level : Level) : String := (names.lookup level).getD ("Level " ++ toString level)

/-- The codes that switch a terminal to the colour of a level. -/
def colours : List (Level × String) := [
  (debug, "\x1b[2m\x1b[36m"), (info, "\x1b[32m"), (warning, "\x1b[33m"), (error, "\x1b[31m"),
  (critical, "\x1b[1m\x1b[41m\x1b[37m")]

/-- The code that ends a colour. -/
def plain : String := "\x1b[0m"

/-- The name of a level as it is shown, in its colour if it has one and colours are wanted. -/
def shown (inColour : Bool) (level : Level) : String :=
  match colours.lookup level with
  | some code => if inColour then code ++ level.name ++ plain else level.name
  | none => level.name

/-- The capitals of a letter, if they are in ASCII; those that two letters in one have are two. -/
def capitals (c : Char) : List Char :=
  if c = 'ı' then ['I']
  else if c = 'ſ' then ['S']
  else if c = 'ﬅ' || c = 'ﬆ' then ['S', 'T']
  else [c.toUpper]

/-- The names by which a level can be asked for, in capitals. -/
def wanted : List (String × Level) := [
  ("CRITICAL", critical), ("FATAL", critical), ("ERROR", error), ("WARNING", warning),
  ("WARN", warning), ("INFO", info), ("DEBUG", debug), ("NOTSET", 0)]

/-- A layout of messages, with the places for their parts as a style marks them. -/
def layout (place : String → String) : String := ":".intercalate (["levelname", "name", "message"].map place)

/-- The usual style of layouts. -/
def percentPlace (part : String) : String := "%" ++ inParentheses part ++ "s"

/-- How a style is shown, with its family and its layout. -/
def styleText (mark family : String) (place : String → String) : String :=
  "'" ++ mark ++ "': (<class 'logging." ++ family ++ "'>, '" ++ layout place ++ "')"

/-- Two names that stand for layouts of messages instead of levels. -/
def notLevels : List (String × Failure) := [
  ("BASIC_FORMAT", .unknownLevel (layout percentPlace)),
  ("_STYLES", .notALevel (inBraces (", ".intercalate [
    styleText "%" "PercentStyle" percentPlace,
    styleText (.singleton '{') "StrFormatStyle" inBraces,
    styleText "$" "StringTemplateStyle" fun part => "$" ++ inBraces part])))]

/-- The level with a name in any letter case; `info` for an unknown one. -/
def ofName (s : String) : Except Failure Level :=
  let inCapitals := String.ofList (s.toList.flatMap capitals)
  match notLevels.lookup inCapitals with
  | some f => .error f
  | none => .ok ((wanted.lookup inCapitals).getD info)

/-- The levels that settings can name, in any letter case. -/
def ofSetting? (s : Option String) : Option Level :=
  [("debug", debug), ("info", info), ("warning", warning), ("error", error)].lookup
    (Text.lower (s.getD ""))

end Level
end TunnelSettings
