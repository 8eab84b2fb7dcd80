import Std.Time.Format
import Std.Time.Zoned
import TunnelSettings.Cli.Command

/-!
The program: reads the files that a command line names and the environment, carries the command out,
and writes what came of it.
-/
namespace TunnelSettings

/-- The paths that a command line names. -/
def namedPaths (words : List String) : List Path :=
  match Cli.Options.ofWords words with
  | .error _ => []
  | .ok o => o.check.settings :: (o.check.override.toList ++ o.check.servers.toList ++ o.logFile.toList)

/-- Look at a place: the folders on the way to it that exist, and its content if it is a file. A file that
cannot be opened is taken to be locked. -/
def lookAt (files : Files) (p : Path) : IO Files := do
  let root ← IO.currentDir
  let mut files := files
  for n in List.range (p.parts.length + 1) do
    let step := { p with parts := p.parts.take n }.resolve files.here
    if ← (root / step.text).isDir then files := { files with folders := step :: files.folders }
  let place := p.resolve files.here
  if !files.isFolder place && (← (root / place.text).pathExists) then
    match ← (IO.FS.readBinFile (root / place.text)).toBaseIO with
    | .ok bytes => files := files.put place bytes.toList
    | .error _ => files := { files.put place [] with locked := place :: files.locked }
  return files

def theStamp : IO Stamp := do
  let now ← Std.Time.PlainDateTime.now
  return ⟨now.format "HH:mm:ss", now.format "uuuu-MM-dd HH:mm:ss,SSS", "0"⟩

/-- The secrets in the environment that the program is given. A `.env` file counts as far as its variables were put
there before the program starts. -/
def theSecrets : IO Secrets := do
  return {
    openvpnUser := ← IO.getEnv "OPENVPN_USER"
    openvpnPassword := ← IO.getEnv "OPENVPN_PASSWORD"
    wireguardKey := ← IO.getEnv "WIREGUARD_PRIVATE_KEY"
    shadowsocksPassword := ← IO.getEnv "SHADOWSOCKS_PASSWORD" }

/-- Carry out a command line and return the exit code; a failure without one counts as 1. -/
def carryOut (words : List String) : IO UInt32 := do
  let here := Path.ofText (← IO.currentDir).toString
  let paths := namedPaths words
  let files ← paths.foldlM lookAt { here, wording _ := "the document is malformed" }
  let session : Session := { files, stamp := ← theStamp, trace f := f.kind ++ ": " ++ f.message }
  let (code, session) := (Cli.run words (← theSecrets)).run session
  for p in paths do
    let place := p.resolve here
    if session.journal.handlers.any (·.sink = .file place) then
      if let .content bytes := session.files.at? place then
        IO.FS.writeBinFile place.text ⟨bytes.toArray⟩
  IO.print session.output
  IO.eprint session.errors
  match code with
  | .ok n => return n.toUInt32
  | .error f => do
    IO.eprintln f.summary
    return 1

end TunnelSettings

def main (words : List String) : IO UInt32 := TunnelSettings.carryOut words
