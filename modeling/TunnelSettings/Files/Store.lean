import TunnelSettings.Failure
import TunnelSettings.Files.Path
import TunnelSettings.Text.Line

/-!
The files that a command can reach, by their full paths. Folders are the roots, those that are known and
those that hold files.
-/
namespace TunnelSettings

/-- Contents of files by their full paths, and what folders there are besides. -/
structure Files where
  /-- The working folder. -/
  here : Path
  /-- Further folders. -/
  folders : List Path := []
  contents : List (Path × List UInt8) := []
  /-- Files that may be neither read nor written. -/
  locked : List Path := []
  /-- Home folders by the names of their owners; the user's own has the empty name. -/
  homes : List (String × Path) := []
  /-- What the YAML library says of a text that is malformed. -/
  wording : String → String

namespace Files

/-- The full path of a place. -/
def fullPath (d : Files) (p : Path) : Except Failure Path :=
  if p.parts.any fun part => part.toList.contains '\x00' then .error .nullInName else .ok (p.resolve d.here)

/-- A path with the home folder that it starts in written out. -/
def expanded (d : Files) (p : Path) : Except Failure Path :=
  match p.owner? with
  | none => .ok p
  | some owner =>
    if owner.toList.contains '\x00' then .error .nullInName
    else match d.homes.lookup owner with
      | some home => .ok { home with parts := home.parts ++ p.parts.tail }
      | none => .error .noHome

/-- The full path of a place that may be given from a home folder. -/
def settled (d : Files) (p : Path) : Except Failure Path := do d.fullPath (← d.expanded p)

/-- A text as it is stored in a file. -/
def encode (s : String) : List UInt8 := s.toList.flatMap String.utf8EncodeChar

/-- What is found at a place. -/
inductive Found where
  | content (bytes : List UInt8)
  | locked
  | folder
  | nothing

/-- Whether a full path leads to a folder. -/
def isFolder (d : Files) (p : Path) : Bool :=
  p.parts.isEmpty || p.leadsTo d.here || d.folders.any p.leadsTo ||
    d.contents.any fun f => p.leadsTo f.1 && p.parts.length < f.1.parts.length

/-- What is found at a full path. -/
def at? (d : Files) (p : Path) : Found :=
  match d.contents.lookup p with
  | some bytes => if d.locked.contains p then .locked else .content bytes
  | none => if d.isFolder p then .folder else .nothing

/-- Follow parts from a place. Every part but the last has to be a folder. -/
def walk? (d : Files) (p : Path) : List String → Option Path
  | [] => some p
  | part :: rest =>
    if !d.isFolder p then none
    else if part = ".." then walk? d p.above rest
    else walk? d (p.enter part) rest

/-- What is found at a path, which is followed part by part. -/
def find (d : Files) (p : Path) : Found :=
  let start : Path := if p.root = "" then d.here else ⟨p.root, []⟩
  match d.walk? start p.parts with
  | some place => d.at? place
  | none => .nothing

/-- The text of a file, with all line breaks as line feeds. -/
def readText (d : Files) (p : Path) : Except Failure String :=
  match d.find p with
  | .nothing => .error (.fileNotFound p.text)
  | .folder => .error (.isDirectory p.text)
  | .locked => .error (.accessDenied p.text)
  | .content bytes =>
    match Text.decodeUtf8 bytes with
    | .ok s => .ok (.ofList (Text.universalNewlines s.toList))
    | .error fault => .error (.encoding fault)

/-- Why no file can be written at a full path, of which the parts up to `p` are known to be folders:
every part before the last has to be one, and the last must neither be one nor be locked. -/
def wayFault? (d : Files) (target p : Path) : List String → Option Failure
  | [] =>
    if d.isFolder target then some (.isDirectory target.text)
    else if d.locked.contains target then some (.accessDenied target.text)
    else none
  | part :: rest =>
    match d.at? p with
    | .folder => wayFault? d target (p.enter part) rest
    | .content _ | .locked => some (.notDirectory target.text)
    | .nothing => some (.noSuchFile target.text)

/-- Why no file can be written at a full path, if there is a reason. -/
def writeFault? (d : Files) (target : Path) : Option Failure :=
  d.wayFault? target ⟨target.root, []⟩ target.parts

/-- The full path at which a file can be written. -/
def placeToWrite (d : Files) (p : Path) : Except Failure Path := do
  let place ← d.fullPath p
  match d.writeFault? place with
  | some f => .error f
  | none => .ok place

/-- Set the content of a file, which may be a new one. -/
def put (d : Files) (p : Path) (bytes : List UInt8) : Files :=
  if d.contents.any (·.1 = p) then
    { d with contents := d.contents.map fun f => if f.1 = p then (p, bytes) else f }
  else { d with contents := d.contents ++ [(p, bytes)] }

/-- Write a text behind what is in a file, which may be a new one. -/
def append (d : Files) (p : Path) (s : String) : Files :=
  d.put p ((d.contents.lookup p).getD [] ++ encode s)

end Files
end TunnelSettings
