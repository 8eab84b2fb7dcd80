import TunnelSettings.Failure
import TunnelSettings.Text.Blank
import TunnelSettings.Text.Bracket

/-!
Failures in one line: the name of the family, and the message with single blanks between its words, cut to
a length. An exception of any family can be put in a line, also of those that the program itself does not raise.
-/
namespace TunnelSettings.Report

/-- What a line is made of. An exception counts as true or false as other values do: one whose family gives it a
length counts as false if that is zero. -/
structure Exception where
  /-- The name of the family, which is any text if the family is made by a call. -/
  kind : String
  message : String
  isTruthy : Bool := true

/-- The greatest length of a line, if nothing else is said. -/
def defaultLength : Int := 180

/-- What is told of the message. It is the empty text that takes the place of an exception that counts as false. -/
def Exception.detail (e : Exception) : String := Text.unspaced (if e.isTruthy then e.message else "")

/-- The name of the family and the words of the message. -/
def full (e : Exception) : String :=
  if e.detail.isEmpty then e.kind else e.kind ++ ": " ++ e.detail

/-- A line of at most `length` characters, if there is room for more than the ellipsis. -/
def oneLine (e : Exception) (length : Int) : String :=
  let line := (full e).toList
  if 3 < length && length < line.length then
    String.ofList (Text.trimEnd Text.isBlank (line.take (length.toNat - 3))) ++ Text.ellipsis
  else .ofList line

end TunnelSettings.Report

namespace TunnelSettings.Failure

/-- A failure of the program as an exception. All of them count as true. -/
def exception (f : Failure) : Report.Exception := { kind := f.kind, message := f.message }

/-- A failure in one line. -/
def summary (f : Failure) : String := Report.oneLine f.exception Report.defaultLength

end TunnelSettings.Failure
