import TunnelSettings.Display.Wrap
import TunnelSettings.Text.Line

/-!
Labelled trees and their drawing: every node on lines of its own, below its parent and four cells
further in, with guides that lead to it.
-/
namespace TunnelSettings.Display

/-- A tree of labels. -/
inductive Outline where
  | node (label : String) (children : List Outline)
  deriving Inhabited

namespace Outline

def leaf (label : String) : Outline := .node label []

def label : Outline → String
  | node label _ => label

def children : Outline → List Outline
  | node _ children => children

/-- The cells that one level of guides takes. -/
def guideWidth : Nat := 4

/-- The label of a node in `room` cells: `first` leads the first line, `later` all others. Without any
room the label is left out. -/
def labelLines (room : Nat) (first later : List Char) (label : String) : List (List Char) :=
  if room = 0 then [] else
    match wrap room label.toList with
    | [] => []
    | line :: rest => (first ++ line) :: rest.map (later ++ ·)

mutual

def lines (room : Nat) (first later : List Char) : Outline → List (List Char)
  | node label children =>
    labelLines room first later label ++ childLines (room - guideWidth) later children

def childLines (room : Nat) (lead : List Char) : List Outline → List (List Char)
  | [] => []
  | [t] => t.lines room (lead ++ "└── ".toList) (lead ++ "    ".toList)
  | t :: ts =>
    t.lines room (lead ++ "├── ".toList) (lead ++ "│   ".toList) ++ childLines room lead ts

end

/-- The drawing of a tree in lines of at most `width` cells, none of them with blanks at its end. -/
def render (width : Nat) (t : Outline) : String :=
  let drawn := (t.lines width [] []).flatMap (· ++ ['\n'])
  "\n".intercalate ((Text.lines drawn).map fun line => .ofList (Text.trimEnd Text.isBlank line))

/-- The width at which summaries are drawn. -/
def summaryWidth : Nat := 200

end Outline
end TunnelSettings.Display
