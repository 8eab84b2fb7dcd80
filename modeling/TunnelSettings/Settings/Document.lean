import TunnelSettings.Files.Path
import TunnelSettings.Json.Reader
import TunnelSettings.Json.Writer
import TunnelSettings.Settings.Fragment
import TunnelSettings.Settings.Raw
import TunnelSettings.Yaml.Reader
import TunnelSettings.Yaml.Writer

/-!
Documents: settings as the text of a file. The suffix of the file's name decides on the format.
-/
namespace TunnelSettings

/-- The formats of settings files. -/
inductive Format where
  | json | yaml
  deriving DecidableEq, Repr

namespace Format

/-- The format that the suffix of a name stands for, in any letter case. -/
def ofPath (p : Path) : Except Failure Format :=
  if p.suffix = ".json" then .ok json
  else if p.suffix = ".yaml" || p.suffix = ".yml" then .ok yaml
  else .error (.unknownFormat p.suffix)

end Format

namespace Document

/-- The untyped data in the text of a file, with the words that the library has for malformed YAML. -/
def parse (wording : String → String) (text : String) (p : Path) : Except Failure Value := do
  match ← Format.ofPath p with
  | .json => Json.read text
  | .yaml => Yaml.read wording text p.name

/-- Whether one key comes before another; keys of different kinds have no order. -/
def isBefore (a b : Value) : Except Failure Bool :=
  match a, b with
  | .text s, .text t => .ok (s < t)
  | .bytes s, .bytes t => .ok (s < t)
  | .date s, .date t => .ok (s.dayNumber < t.dayNumber)
  | .moment s, .moment t =>
    match s.isBefore? t with
    | some b => .ok b
    | none => .error .mixedZones
  | .date _, .moment _ | .moment _, .date _ => .error .dateAndMoment
  | .float x, .float y => .ok (x.lt y)
  | .float (.infinite negative), .bool _ | .float (.infinite negative), .int _ => .ok negative
  | .bool _, .float (.infinite negative) | .int _, .float (.infinite negative) => .ok !negative
  | .float (.nan _), .bool _ | .float (.nan _), .int _ => .ok false
  | .bool _, .float (.nan _) | .int _, .float (.nan _) => .ok false
  | v, w =>
    match v.units?, w.units? with
    | some m, some n => .ok (m < n)
    | _, _ => .error (.unordered v.kind w.kind)

/-- Put a key into a sorted list. -/
def insertKey (key : Value) : List Value → Except Failure (List Value)
  | [] => .ok [key]
  | k :: ks => do
    if ← isBefore key k then return key :: k :: ks else return k :: (← insertKey key ks)

/-- The names that the keys are; the first key that is no text is a fault. -/
def joined (index : Nat) : List Value → Except Failure (List String)
  | [] => .ok []
  | .text s :: ks => return s :: (← joined (index + 1) ks)
  | k :: _ => .error (.notJoinable index k.kind)

/-- Whether a key is the name of a group. -/
def isSectionName : Value → Bool
  | .text s => (Group.all.map Group.key).contains s
  | _ => false

/-- The keys that name no section, sorted. -/
def unknownSections (entries : Section) : Except Failure (List String) := do
  let keys := (entries.map (·.1)).filter fun k => !isSectionName k
  joined 0 (← keys.foldlM (fun sorted k => insertKey k sorted) [])

/-- The text of a file for settings. -/
def write (s : Settings) (p : Path) : Except Failure String := do
  match ← Format.ofPath p, s.toRaw with
  | .json, raw => Json.write raw
  | .yaml, .map es => Yaml.write es
  | .yaml, raw => .error (.notJson raw.kind)

end Document
end TunnelSettings
