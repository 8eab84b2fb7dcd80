import TunnelSettings.Failure
import TunnelSettings.Text.Casing
import TunnelSettings.Value.Conversion

/-!
Server data: for each provider the values by which its servers can be chosen. Providers are told apart
without regard to letter case; of two entries for one provider the later counts.
-/
namespace TunnelSettings

/-- What the servers of one provider offer, each list sorted and without repetitions. -/
structure Choices where
  countries : List String := []
  regions : List String := []
  cities : List String := []
  isps : List String := []
  hostnames : List String := []
  names : List String := []
  deriving DecidableEq

namespace Choices

/-- Put a text into a sorted list that does not hold it yet. -/
def insertSorted (s : String) : List String → List String
  | [] => [s]
  | t :: ts => if s < t then s :: t :: ts else if s = t then t :: ts else t :: insertSorted s ts

/-- The text of what a record holds under a key, if that is present. -/
def offered? (key : String) (record : List (Value × Value)) : Except Failure (Option String) :=
  match Value.find? key record with
  | some v =>
    if v.isTruthy then
      match v.asText with
      | .ok s => .ok (some s)
      | .error f => .error (.number f)
    else .ok none
  | none => .ok none

/-- Add what a record with some entries offers. -/
def addEntries (c : Choices) (es : List (Value × Value)) : Except Failure Choices := do
  let put (key : String) (known : List String) : Except Failure (List String) := do
    match ← offered? key es with
    | some s => return insertSorted s known
    | none => return known
  let countries ← put "country" c.countries
  let regions ← put "region" c.regions
  let cities ← put "city" c.cities
  let isps ← put "isp" c.isps
  let hostnames ← put "hostname" c.hostnames
  let names ← put "server_name" c.names
  return { countries, regions, cities, isps, hostnames, names }

/-- Add what one record offers. -/
def add (c : Choices) (record : Value) : Except Failure Choices :=
  match record.entries? with
  | some es => c.addEntries es
  | none => .error (.noMember record.kind "get")

/-- What a list of records offers. -/
def ofRecords (records : List Value) : Except Failure Choices := records.foldlM add {}

end Choices

/-- The choices of each provider, by its name in small letters. -/
structure Servers where
  providers : List (String × Choices) := []

namespace Servers

/-- Set the choices of a provider, in place of those that it has. -/
def put (name : String) (c : Choices) : List (String × Choices) → List (String × Choices)
  | [] => [(name, c)]
  | (n, d) :: rest => if n = name then (n, c) :: rest else (n, d) :: put name c rest

/-- The members of a value that has any; nothing at all counts as no members. -/
def members (v : Value) : Except Failure (List Value) :=
  if !v.isTruthy then .ok [] else v.items

/-- Add a provider with its records. -/
def addEntry (s : Servers) (key records : Value) : Except Failure Servers := do
  let name ← key.asText.mapError .number
  let choices ← Choices.ofRecords (← members records)
  return ⟨put (Text.lower name) choices s.providers⟩

/-- The server data in a mapping from providers to lists of records. -/
def ofValue (v : Value) : Except Failure Servers :=
  if !v.isTruthy then .ok {} else
    match v.entries? with
    | some es => es.foldlM (fun s e => s.addEntry e.1 e.2) {}
    | none => .error (.noMember v.kind "items")

/-- What a provider offers; an unknown one offers nothing. -/
def choices (s : Servers) (provider : String) : Choices :=
  (s.providers.lookup (Text.lower provider)).getD {}

end Servers
end TunnelSettings
