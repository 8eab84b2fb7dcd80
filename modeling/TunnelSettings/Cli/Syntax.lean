import TunnelSettings.Number.Numeral
import TunnelSettings.Text.Quoted

/-!
The syntax of command lines. A word that starts with a dash is an option, in full, shortened to an
unambiguous beginning, or with several letters behind one dash; a value stands in the next word or
behind an equals sign. After two dashes every word is an argument.
-/
namespace TunnelSettings.Cli

/-- An option by its names, in the order in which they are listed. -/
structure OptionForm where
  names : List String
  takesValue : Bool := false
  deriving DecidableEq, Repr

namespace OptionForm

/-- The option as messages call it. -/
def title (o : OptionForm) : String := "/".intercalate o.names

end OptionForm

/-- An option as it was written: under which name, with the value behind it and what separates them. -/
structure Written where
  form : OptionForm
  name : String
  /-- The value in the same word, and whether an equals sign stands before it. -/
  value : Option (Bool × String) := none

/-- What a word of a command line is. -/
inductive Kind where
  | argument
  /-- Two dashes. -/
  | separator
  | option (o : Written)
  | unknownOption

/-- A word with its kind. -/
structure Token where
  word : String
  kind : Kind

def Kind.isArgument : Kind → Bool
  | argument => true
  | _ => false

def Kind.isSeparator : Kind → Bool
  | separator => true
  | _ => false

/-- A word cut at its first equals sign. -/
def cutAtEquals (word : List Char) : List Char × Option (List Char) :=
  match word.dropWhile (· ≠ '=') with
  | [] => (word, none)
  | _ :: value => (word.takeWhile (· ≠ '='), some value)

/-- All names with their options, in order. -/
def allNames (forms : List OptionForm) : List (String × OptionForm) :=
  forms.flatMap fun o => o.names.map (·, o)

def startsWith (start word : List Char) : Bool := start.isPrefixOf word

/-- The options that a word could be, if it is none in full. -/
def candidates (forms : List OptionForm) (word : List Char) : List Written :=
  let long (start : List Char) (value : Option (Bool × String)) : List Written :=
    (allNames forms).filterMap fun (name, form) =>
      if startsWith start name.toList then some { form, name, value } else none
  match word with
  | '-' :: '-' :: _ =>
    let (start, value) := cutAtEquals word
    long start (value.map fun v => (true, .ofList v))
  | '-' :: c :: rest =>
    (allNames forms).filterMap fun (name, form) =>
      if name.toList = ['-', c] then some { form, name, value := some (false, .ofList rest) }
      else if startsWith word name.toList then some { form, name }
      else none
  | _ => []

/-- Whether a word is a negative number. -/
def isNegativeNumber (word : List Char) : Bool :=
  let isDigit (c : Char) : Bool := (Text.digitValue? c).isSome
  let body := if word.getLast? = some '\n' then word.dropLast else word
  match body with
  | '-' :: number =>
    let fraction := (number.dropWhile isDigit).drop 1
    let points := number.filter (· = '.')
    if points.isEmpty then !number.isEmpty && number.all isDigit
    else points.length = 1 && !fraction.isEmpty && (number.filter (· ≠ '.')).all isDigit
  | _ => false

/-- The kind of a word; a message if it could be more than one option. -/
def classify (forms : List OptionForm) (word : String) : Except String Kind :=
  let names := allNames forms
  let cs := word.toList
  if cs.head? ≠ some '-' then .ok .argument else
    match names.lookup word with
    | some form => .ok (.option { form, name := word })
    | none =>
      if cs.length = 1 then .ok .argument else
        let (start, value) := cutAtEquals cs
        match value, names.lookup (.ofList start) with
        | some v, some form =>
          .ok (.option { form, name := .ofList start, value := some (true, .ofList v) })
        | _, _ =>
          match candidates forms cs with
          | [o] => .ok (.option o)
          | o :: p :: more =>
            .error ("ambiguous option: " ++ word ++ " could match " ++
              ", ".intercalate ((o :: p :: more).map (·.name)))
          | [] =>
            if isNegativeNumber cs || cs.contains ' ' then .ok .argument else .ok .unknownOption

/-- The words of a command line with their kinds. -/
def tokens (forms : List OptionForm) : List String → Except String (List Token)
  | [] => .ok []
  | word :: rest =>
    if word = "--" then .ok (⟨word, .separator⟩ :: rest.map fun w => ⟨w, .argument⟩)
    else do
      let kind ← classify forms word
      return ⟨word, kind⟩ :: (← tokens forms rest)

/-- An option that was given, with its value. -/
structure Given where
  form : OptionForm
  value : String := ""

/-- What a word with an option gives: the options in it and whether the last of them still wants its
value, and what is left of the word if a letter in it is no option. -/
structure Opened where
  given : List Given := []
  wanting : Option OptionForm := none
  extra : Option String := none

def complain (o : OptionForm) (reason : String) : String := "argument " ++ o.title ++ ": " ++ reason

def ignored (value : String) : String := "ignored explicit argument " ++ Text.quoted value

/-- The value behind a letter: nothing, or what stands there with the equals sign taken off. -/
def valueBehind : List Char → Option (Bool × List Char)
  | [] => none
  | '=' :: rest => some (true, rest)
  | rest => some (false, rest)

/-- Open a word that starts with an option. `fuel` bounds the letters in the word. -/
def openWord (forms : List OptionForm) (fuel : Nat) (form : OptionForm) (short : Bool) :
    Option (Bool × List Char) → Except String Opened
  | none => .ok (if form.takesValue then { wanting := some form } else { given := [⟨form, ""⟩] })
  | some (behindEquals, value) =>
    if form.takesValue then .ok { given := [⟨form, .ofList value⟩] } else
      match fuel, value with
      | fuel + 1, c :: rest =>
        if !short || behindEquals || c = '-' then .error (complain form (ignored (.ofList value))) else
          match (allNames forms).lookup (.ofList ['-', c]) with
          | some next => do
            let opened ← openWord forms fuel next true (valueBehind rest)
            return { opened with given := ⟨form, ""⟩ :: opened.given }
          | none => .ok { given := [⟨form, ""⟩], extra := some (.ofList ('-' :: value)) }
      | _, _ => .error (complain form (ignored (.ofList value)))

def Written.opened (forms : List OptionForm) (o : Written) : Except String Opened :=
  openWord forms (o.name.length + (o.value.map (·.2.length)).getD 0) o.form
    (o.name.toList.take 2 ≠ ['-', '-']) (o.value.map fun (b, v) => (b, v.toList))

end TunnelSettings.Cli
