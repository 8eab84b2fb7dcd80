import TunnelSettings.Cli.Options
import TunnelSettings.Report
import TunnelSettings.Settings.Advice
import TunnelSettings.Settings.Loading
import TunnelSettings.Settings.Summary

/-!
The `check` command: settings from a file over the defaults, perhaps an override on top, and then the
summary of the result and advice about it. The exit code is 0 for valid settings, 1 for settings that are
not valid, and 2 for files that cannot be used and for wrong command lines. Any other failure ends
the command without a code.
-/
namespace TunnelSettings.Cli

/-- The servers that a file gives; none without a file. -/
def serversFor (o : CheckOptions) : Task Servers :=
  match o.servers with
  | some p => readServers p p.text
  | none => return {}

/-- Settings with the override that is asked for on top, or the complaint about them. -/
def overridden (o : CheckOptions) (env : Secrets) (servers : Servers) (s : Settings) :
    Task (Except Failure Settings) :=
  match s.validate servers o.ipv6, o.override with
  | .error f, _ => return .error f
  | .ok (), none => return .ok s
  | .ok (), some p => do
    let fragment ← readFragment p env
    (s.overrideWith fragment servers o.ipv6).outcome

/-- The settings that are checked, or the complaint about them. -/
def effectiveSettings (o : CheckOptions) (env : Secrets) : Task (Except Failure Settings) := do
  let servers ← serversFor o
  let fragment ← readFragment o.settings env
  let s ← Settings.mergeFragment {} fragment
  overridden o env servers s.withDefaults

/-- Refuse settings that are not valid. The record about it ends with the way of the failure through the program. -/
def refuse (f : Failure) : Task Nat := do
  let trace := (← get).trace f
  Part.commandLine.note .debug ("Settings check failed\n" ++ trace)
  Task.complain ("Invalid settings: " ++ f.summary)
  return 1

/-- Show settings that are valid, and give advice on them. They name the level of the journal if the
command line does not. -/
def present (o : Options) (s : Settings) : Task Nat := do
  if o.logLevel.isNone && !o.verbose then
    modify fun session => { session with journal := session.journal.apply s.log.level }
  Task.print (← s.summaryText)
  for warning in s.warnings do
    Part.commandLine.note .warning warning
  return 0

/-- Check settings, show them, and return the exit code. -/
def check (o : Options) (env : Secrets) : Task Nat := do
  match ← effectiveSettings o.check env with
  | .error f => refuse f
  | .ok s => present o s

/-- The exit code of a command: its own, or 2 for a failure that is reported. -/
def answer : Except Failure Nat → Task Nat
  | .ok code => return code
  | .error f => do
    if f.isReported then
      Task.complain ("Error: " ++ f.summary)
      return 2
    else throw f

/-- Carry out a command whose options are known. -/
def carryOut (o : Options) (env : Secrets) : Task Nat := do
  Task.setUpJournal (Session.askedLevel o.verbose o.logLevel) (o.logFile.map Path.text)
  answer (← (check o env).outcome)

/-- Carry out a command line and return the exit code. -/
def run (words : List String) (env : Secrets) : Task Nat :=
  match Options.ofWords words with
  | .ok o => carryOut o env
  | .error (.help context) => do
    modify fun s => { s with output := s.output ++ context.help }
    return 0
  | .error (.wrong context message) => do
    modify fun s => { s with errors := s.errors ++ context.complaint message }
    return 2

end TunnelSettings.Cli
