import TunnelSettings.Failure

/-!
What the library offers under names of its own.
-/
namespace TunnelSettings.Package

/-- The version of the library. -/
def version : String := "0.1.0"

/-- The public names and what they stand for: the library's name and version, its two parts, a type and
a function. -/
def names : List (String × String) := [
  ("__name__", "vpnsettings"), ("__version__", version), ("config", "vpnsettings.config"),
  ("logging", "vpnsettings.logging"), ("Settings", "Settings"),
  ("load_settings_from_file", "load_settings_from_file")]

/-- What a public name stands for. -/
def find (name : String) : Except Failure String :=
  match names.lookup name with
  | some value => .ok value
  | none => .error (.unknownAttribute name)

end TunnelSettings.Package
