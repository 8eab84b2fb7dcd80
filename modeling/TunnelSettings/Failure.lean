import TunnelSettings.Calendar
import TunnelSettings.Json.Fault
import TunnelSettings.Settings.Complaint
import TunnelSettings.Text.Utf8

/-!
Everything that can go wrong when settings are read, checked, shown or saved. `kind` and `message` are
what a summary of a failure shows.
-/
namespace TunnelSettings

/-- What went wrong. -/
inductive Failure where
  | number (fault : NumberFault)
  | calendar (fault : CalendarFault)
  | notBoolean (shown : String)
  /-- A value of this kind is no whole number and does not spell one. -/
  | notIntegerLike (kind : String)
  | notDecimalLike (kind : String)
  | notIterable (kind : String)
  /-- A value of this kind is searched as only texts are. -/
  | notText (kind : String)
  /-- A value of this kind does not have the member that was asked for. -/
  | noMember (kind member : String)
  | unordered (left right : String)
  /-- A date and a point in time have no order. -/
  | dateAndMoment
  /-- A point in time of known zone and one without have no order. -/
  | mixedZones
  | notJoinable (index : Nat) (kind : String)
  | notJson (kind : String)
  | notBooleanWord (word : String)
  | emptyNumeral
  | codePoint
  | codePointTooLarge
  /-- Something was looked for inside itself again and again. -/
  | endless
  | sectionNotMapping (name : String)
  | rootNotMapping (kind : String)
  | serversNotMapping (path : String)
  | unknownFormat (suffix : String)
  | json (fault : Json.Fault) (place : Json.Place)
  /-- A YAML text is malformed; `said` is what the library has to say about it. -/
  | yaml (file said : String)
  | encoding (fault : Text.Utf8Fault)
  | fileNotFound (path : String)
  | noSuchFile (path : String)
  | isDirectory (path : String)
  | notDirectory (path : String)
  | accessDenied (path : String)
  /-- A file name has a character with number 0, which ends file names. -/
  | nullInName
  /-- A path starts in the home folder of someone who has none. -/
  | noHome
  /-- A ratio is needed for showing the updater, but there is none. -/
  | noRatio
  | unknownLevel (name : String)
  | notALevel (shown : String)
  | unknownAttribute (name : String)
  /-- A group on its own is not valid. -/
  | complaint (c : Complaint)
  | invalid (group : Group) (c : Complaint)
  | rejected (group : Group) (c : Complaint)
  deriving DecidableEq

namespace Failure

/-- The family that a failure belongs to. -/
inductive Family where
  | value | json | encoding | missingFile | directory | notDirectory | permission | type | member | key
  | index | overflow | recursion | runtime | invalidSettings | rejectedOverride
  deriving DecidableEq, Repr

/-- The name under which a family is reported. -/
def Family.name : Family → String
  | value => "ValueError"
  | json => "JSONDecodeError"
  | encoding => "UnicodeDecodeError"
  | missingFile => "FileNotFoundError"
  | directory => "IsADirectoryError"
  | notDirectory => "NotADirectoryError"
  | permission => "PermissionError"
  | type => "TypeError"
  | member => "AttributeError"
  | key => "KeyError"
  | index => "IndexError"
  | overflow => "OverflowError"
  | recursion => "RecursionError"
  | runtime => "RuntimeError"
  | invalidSettings => "SettingsValidationError"
  | rejectedOverride => "OverrideRejectedError"

/-- Whether a family is one of unsuitable values, the settings' own families included. -/
def Family.isValue : Family → Bool
  | value | json | encoding | invalidSettings | rejectedOverride => true
  | _ => false

/-- The family of a failure. -/
def family : Failure → Family
  | number fault => if fault.isOverflow then .overflow else .value
  | codePointTooLarge => .overflow
  | notIntegerLike _ | notDecimalLike _ | notIterable _ | notText _ | unordered .. | dateAndMoment | mixedZones
  | notJoinable .. | notJson _ | noRatio | notALevel _ => .type
  | noMember .. | unknownAttribute _ => .member
  | notBooleanWord _ => .key
  | emptyNumeral => .index
  | endless => .recursion
  | json .. => .json
  | encoding _ => .encoding
  | fileNotFound _ | noSuchFile _ => .missingFile
  | isDirectory _ => .directory
  | notDirectory _ => .notDirectory
  | accessDenied _ => .permission
  | noHome => .runtime
  | invalid .. => .invalidSettings
  | rejected .. => .rejectedOverride
  | _ => .value

/-- Whether the program says what went wrong and ends with a code; other failures end it without one. -/
def isReported (f : Failure) : Bool := f.family.isValue || f.family = .missingFile

/-- The name of the family of a failure. -/
def kind (f : Failure) : String := f.family.name

/-- The message about a group for which there is a complaint. -/
def groupMessage (group complaint : String) : String := group ++ " settings: " ++ complaint

/-- The text of a failure. -/
def message : Failure → String
  | number fault => fault.message
  | calendar fault => fault.message
  | notBoolean shown => "expected boolean value, got " ++ shown
  | notIntegerLike kind =>
    "int() argument must be a string, a bytes-like object or a real number, not '" ++ kind ++ "'"
  | notDecimalLike kind => "float() argument must be a string or a real number, not '" ++ kind ++ "'"
  | notIterable kind => "'" ++ kind ++ "' object is not iterable"
  | notText kind => "expected string or bytes-like object, got '" ++ kind ++ "'"
  | noMember kind member => "'" ++ kind ++ "' object has no attribute '" ++ member ++ "'"
  | unordered left right =>
    "'<' not supported between instances of '" ++ left ++ "' and '" ++ right ++ "'"
  | dateAndMoment => "can't compare datetime.datetime to datetime.date"
  | mixedZones => "can't compare offset-naive and offset-aware datetimes"
  | notJoinable index kind =>
    "sequence item " ++ toString index ++ ": expected str instance, " ++ kind ++ " found"
  | notJson kind => "Object of type " ++ kind ++ " is not JSON serializable"
  | notBooleanWord word => Text.quoted word
  | emptyNumeral => "string index out of range"
  | codePoint => "chr() arg not in range(0x110000)"
  | codePointTooLarge => "Python int too large to convert to C int"
  | endless => "maximum recursion depth exceeded"
  | sectionNotMapping name => "Settings section '" ++ name ++ "' must be a mapping"
  | rootNotMapping kind => "Settings root must be a mapping, got " ++ kind
  | serversNotMapping path => "Servers file must map provider names to server lists: " ++ path
  | unknownFormat suffix =>
    "Unsupported settings format: " ++ suffix ++ ". Use .json, .yaml, or .yml"
  | json fault place => fault.message ++ ": " ++ place.text
  | yaml file said => "Invalid YAML in " ++ file ++ ": " ++ said
  | encoding fault => fault.message
  | fileNotFound path => "File not found: " ++ path
  | noSuchFile path => "[Errno 2] No such file or directory: " ++ Text.quoted path
  | isDirectory path => "[Errno 21] Is a directory: " ++ Text.quoted path
  | notDirectory path => "[Errno 20] Not a directory: " ++ Text.quoted path
  | accessDenied path => "[Errno 13] Permission denied: " ++ Text.quoted path
  | nullInName => "embedded null byte"
  | noHome => "Could not determine home directory."
  | noRatio => "unsupported format string passed to NoneType.__format__"
  | unknownLevel name => "Unknown level: " ++ Text.quoted name
  | notALevel shown => "Level not an integer or a valid string: " ++ shown
  | unknownAttribute name => "module 'vpnsettings' has no attribute '" ++ name ++ "'"
  | complaint c => c.message
  | invalid group c | rejected group c => groupMessage group.title c.message

end Failure
end TunnelSettings
