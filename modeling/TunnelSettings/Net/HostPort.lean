import TunnelSettings.Number.Integer
import TunnelSettings.Settings.Complaint

/-!
Listening and target addresses: a host, a colon and a port. A host in square brackets has both of them.
-/
namespace TunnelSettings.Net

/-- A text cut at its last colon. -/
def cutAtLastColon (cs : List Char) : Option (List Char × List Char) :=
  let port := (cs.reverse.takeWhile (· ≠ ':')).reverse
  if port.length = cs.length then none else some (cs.take (cs.length - port.length - 1), port)

/-- Whether a host has brackets at both ends, or at neither. -/
def isBalanced (host : List Char) : Bool := (host.head? = some '[') = (host.getLast? = some ']')

/-- What is wrong with the address in a field, if anything is. -/
def addressComplaint? (field : String) (address : Option String) : Option Complaint :=
  let a := address.getD ""
  if a.isEmpty then some (.addressUnset field) else
    match cutAtLastColon a.toList with
    | none => some (.portMissing field a)
    | some (host, port) =>
      if !isBalanced host then some (.hostInvalid field a) else
        match readInteger 10 port "" with
        | .error _ => some (.portNotNumber field a)
        | .ok n => if n < 0 || 65535 < n then some (.portOutOfRange field n) else none

end TunnelSettings.Net
