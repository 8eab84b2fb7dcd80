import TunnelSettings.Text.CellTable
import TunnelSettings.Text.Range

/-!
The width of text on a terminal, in cells.
-/
namespace TunnelSettings.Text

/-- The cells that a character takes: none, one or two. -/
def cellWidth (c : Char) : Nat :=
  if 32 ≤ c.toNat && c.toNat < 127 then 1
  else if within zeroCells c then 0
  else if within twoCells c then 2
  else 1

/-- The cells that a text takes. -/
def cells : List Char → Nat
  | [] => 0
  | c :: cs => cellWidth c + cells cs

/-- The beginning of a text that takes `room` cells, found by bisection between two lengths. Half of a
wide character is a blank; whether characters without width at the cut are kept depends on the length
that bisection meets first. -/
def cut (room : Nat) (cs : List Char) (low high : Nat) : List Char :=
  let middle := (low + high) / 2
  let front := cs.take (middle + 1)
  if cells front = room then front
  else if cells front = room + 1 && front.getLast?.any (cellWidth · == 2) then front.dropLast ++ [' ']
  else if high ≤ low + 1 then front
  else if room < cells front then cut room cs low middle
  else cut room cs middle high
termination_by high - low

/-- A text in at most `room` cells. -/
def fitting (room : Nat) (cs : List Char) : List Char :=
  if cells cs ≤ room then cs else if room = 0 then [] else cut room cs 0 cs.length

end TunnelSettings.Text
