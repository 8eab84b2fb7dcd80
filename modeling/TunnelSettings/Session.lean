import TunnelSettings.Files.Store
import TunnelSettings.Logging.Journal

/-!
Sessions: what a command reads and leaves behind, namely files, the journal and the two streams of the
terminal. A task that fails keeps what it did up to then.
-/
namespace TunnelSettings

/-- The state in which a command runs. -/
structure Session where
  files : Files
  stamp : Stamp
  /-- What is written about where in the program a failure arose. -/
  trace : Failure → String
  journal : Journal := {}
  /-- What was printed. -/
  output : String := ""
  /-- What was printed about errors, and the lines of the journal for the console. -/
  errors : String := ""

/-- A command or a part of one. -/
abbrev Task := ExceptT Failure (StateM Session)

namespace Session

def print (s : Session) (line : String) : Session := { s with output := s.output ++ line ++ "\n" }

def complain (s : Session) (line : String) : Session := { s with errors := s.errors ++ line ++ "\n" }

/-- Write a line of the journal. -/
def write (s : Session) (r : Record) (sink : Sink) : Session :=
  let line := sink.write s.stamp r
  match sink with
  | .console _ => s.complain line
  | .file place => { s with files := s.files.append place (line ++ "\n") }

def log (s : Session) (r : Record) : Session :=
  if !s.journal.accepts r then s
  else if s.journal.isBare r then s.complain r.message
  else (s.journal.sinksFor r).foldl (fun s sink => s.write r sink) s

/-- Ask for the part with a name, and log a message under its full name. -/
def logAs (s : Session) (name : String) (level : Level) (message : String) : Session :=
  let full := Journal.loggerName name
  { s with journal := s.journal.asked full }.log ⟨full, level, message⟩

/-- Set up the journal anew: for the console, and for a file if one is named. If the file cannot be
opened the console stays set up. -/
def setUp (s : Session) (levelName : String) (file : Option String) : Except Failure Unit × Session :=
  match Level.ofName levelName with
  | .error f => (.error f, s)
  | .ok level =>
    let s := { s with journal := s.journal.console level }
    match file.filter fun name => !name.isEmpty with
    | none => (.ok (), s)
    | some name =>
      match s.files.placeToWrite (Path.ofText name) with
      | .error f => (.error f, s)
      | .ok place => (.ok (), { s with files := s.files.append place "", journal := s.journal.withFile place })

/-- The level that a command line asks for: one that it names, or a finer or coarser usual one. -/
def askedLevel (verbose : Bool) (levelName : Option String) : String :=
  match levelName.filter fun name => !name.isEmpty with
  | some name => name
  | none => if verbose then "DEBUG" else "INFO"

end Session

namespace Task

/-- Log a message. -/
def note (logger : String) (level : Level) (message : String) : Task Unit :=
  modify fun s => s.log ⟨logger, level, message⟩

def print (line : String) : Task Unit := modify fun s => s.print line

def complain (line : String) : Task Unit := modify fun s => s.complain line

def setUpJournal (levelName : String) (file : Option String) : Task Unit :=
  fun s => s.setUp levelName file

/-- The outcome of a part that may fail, without failing. -/
def outcome {α : Type} (t : Task α) : Task (Except Failure α) := fun s =>
  let (r, s) := t.run s
  (.ok r, s)

end Task
end TunnelSettings
