import TunnelSettings.Settings.Raw
import TunnelSettings.Settings.Reading

/-!
Fields by their paths. A path names the groups that a field is in, from the outermost on, and then the
field itself; without the last names it leads to a group, which is a mapping of its fields.
-/
namespace TunnelSettings

namespace Value

/-- What a path of names leads to; null if it leads nowhere. -/
def follow : List String → Value → Value
  | [], v => v
  | name :: rest, v =>
    match v.entries? with
    | some es => follow rest ((find? name es).getD .null)
    | none => .null

def isNull : Value → Bool
  | .null => true
  | _ => false

mutual

/-- The paths that lead to something other than a mapping. -/
def leafPaths : Value → List (List String)
  | .map es => entryPaths es
  | _ => [[]]

def entryPaths : List (Value × Value) → List (List String)
  | [] => []
  | (.text name, v) :: es => (leafPaths v).map (name :: ·) ++ entryPaths es
  | _ :: es => entryPaths es

end

end Value

namespace Settings

/-- A field, or a group; null stands for an unset field. -/
def field (path : List String) (s : Settings) : Value := (toValue s).follow path

/-- The paths of all fields, which lead to null while nothing is set. -/
def fieldPaths : List (List String) := (toValue ({} : Settings)).leafPaths

/-- Whether a field is set. -/
def isSet (s : Settings) (path : List String) : Bool := !(s.field path).isNull

/-- Whether every field is set. -/
def IsComplete (s : Settings) : Prop := ∀ path ∈ fieldPaths, s.isSet path

instance (s : Settings) : Decidable s.IsComplete :=
  inferInstanceAs (Decidable (∀ path ∈ fieldPaths, s.isSet path))

end Settings
end TunnelSettings
