import TunnelSettings.Text.Casing

/-!
Names of files: parts with slashes between them. Empty parts and those that are a single point say
nothing and are left out.
-/
namespace TunnelSettings

/-- The name of a file or a folder, in parts. -/
structure Path where
  /-- What comes before the first part; empty for a relative path. -/
  root : String := ""
  parts : List String
  deriving DecidableEq, Repr

namespace Path

/-- The parts of a text between slashes, given the part read so far (its last character first). -/
def partsFrom (part : List Char) : List Char → List String
  | [] => [.ofList part.reverse]
  | c :: cs => if c = '/' then .ofList part.reverse :: partsFrom [] cs else partsFrom (c :: part) cs

/-- One slash at the start makes a path absolute; exactly two of them are told apart from one. -/
def ofText (s : String) : Path :=
  let slashes := (s.toList.takeWhile (· = '/')).length
  let root := if slashes = 0 then "" else if slashes = 2 then "//" else "/"
  ⟨root, (partsFrom [] s.toList).filter fun part => part ≠ "" && part ≠ "."⟩

/-- The written form of a path; one without parts is a point. -/
def text (p : Path) : String :=
  let rest := "/".intercalate p.parts
  if p.root = "" then (if p.parts.isEmpty then "." else rest)
  else if p.parts.isEmpty then p.root
  else if p.root.toList.getLast? = some '/' then p.root ++ rest
  else p.root ++ "/" ++ rest

/-- The last part; empty if there is none. -/
def name (p : Path) : String := p.parts.getLast?.getD ""

/-- The end of a name from its last point on, unless that point is its first or last character. -/
def suffixOf (name : List Char) : List Char :=
  let after := (name.reverse.takeWhile (· ≠ '.')).reverse
  if after.isEmpty || name.length ≤ after.length + 1 then [] else '.' :: after

/-- The suffix of the last part, in small letters. -/
def suffix (p : Path) : String := Text.lower (.ofList (suffixOf p.name.toList))

/-- The parts without steps up to the part above, given the parts so far, the last one first. -/
def collapseFrom (done : List String) : List String → List String
  | [] => done.reverse
  | part :: rest => if part = ".." then collapseFrom done.tail rest else collapseFrom (part :: done) rest

/-- The full path of a place; a relative path starts at `here`. -/
def resolve (p here : Path) : Path :=
  if p.root = "" then ⟨here.root, collapseFrom [] (here.parts ++ p.parts)⟩
  else ⟨p.root, collapseFrom [] p.parts⟩

/-- Whether a full path leads to a place or to a folder around it. -/
def leadsTo (p q : Path) : Bool := p.root = q.root && p.parts.isPrefixOf q.parts

/-- A further part behind a path. -/
def enter (p : Path) (part : String) : Path := { p with parts := p.parts ++ [part] }

/-- Whose home folder a path starts in: that of the owner whose name follows a tilde at the start, or that of
the user if no name follows. -/
def owner? (p : Path) : Option String :=
  match p.root, p.parts with
  | "", first :: _ =>
    match first.toList with
    | '~' :: name => some (.ofList name)
    | _ => none
  | _, _ => none

/-- The folder around a place. Above a root of slashes there is nothing else; what is above a root with
a name of its own is a root named after it. -/
def above (p : Path) : Path :=
  if !p.parts.isEmpty then { p with parts := p.parts.dropLast }
  else if p.root.toList.all (· = '/') then p
  else { p with root := p.root ++ "/.." }

end Path
end TunnelSettings
