import TunnelSettings.Calendar
import TunnelSettings.Number.Binary64

/-!
Untyped data as settings files hold it. A mapping keeps its entries in the order in which their keys
first came; its keys may be any values that have an equality. A collection may stand inside itself. There it
is given once more, with what it holds, and is marked with the number of levels after which it comes again; so
data have an end, which lies deeper than what is looked at (see `Yaml.reach`).
-/
namespace TunnelSettings

/-- A piece of untyped data. -/
inductive Value where
  | null
  | bool (b : Bool)
  | int (n : Int)
  | float (x : Binary64)
  | text (s : String)
  | list (items : List Value)
  | tuple (items : List Value)
  | map (entries : List (Value × Value))
  | set (items : List Value)
  | bytes (data : List UInt8)
  | date (d : Date)
  | moment (t : Moment)
  /-- The list that is `back` levels further out, again. -/
  | outerList (back : Nat) (items : List Value)
  /-- The tuple that is `back` levels further out, again. -/
  | outerTuple (back : Nat) (items : List Value)
  /-- The mapping that is `back` levels further out, again. -/
  | outerMap (back : Nat) (entries : List (Value × Value))
  deriving Inhabited

namespace Value

/-- The name of a value's kind as messages show it. -/
def kind : Value → String
  | null => "NoneType"
  | bool _ => "bool"
  | int _ => "int"
  | float _ => "float"
  | text _ => "str"
  | list _ | outerList .. => "list"
  | tuple _ | outerTuple .. => "tuple"
  | map _ | outerMap .. => "dict"
  | set _ => "set"
  | bytes _ => "bytes"
  | date _ => "datetime.date"
  | moment _ => "datetime.datetime"

/-- The kind without the name of the family that it belongs to. -/
def shortKind : Value → String
  | date _ => "date"
  | moment _ => "datetime"
  | v => v.kind

/-- Whether a value counts as present: neither null, nor false, nor zero, nor empty. -/
def isTruthy : Value → Bool
  | null => false
  | bool b => b
  | int n => n ≠ 0
  | float x => !x.same (.zero false)
  | text s => !s.isEmpty
  | list xs | tuple xs | set xs => !xs.isEmpty
  | map es => !es.isEmpty
  | bytes bs => !bs.isEmpty
  | date _ | moment _ | outerList .. | outerTuple .. | outerMap .. => true

/-- The entries of a mapping. -/
def entries? : Value → Option (List (Value × Value))
  | map es | outerMap _ es => some es
  | _ => none

/-- The exact number that a value stands for: a multiple of `2 ^ -1074`. -/
def units? : Value → Option Int
  | bool b => some ((if b then 1 else 0) * Nat.pow 2 1074)
  | int n => some (n * Nat.pow 2 1074)
  | float x@(.finite ..) => some x.units
  | _ => none

mutual

/-- Equality of keys: numbers of any kind by their value, all else by kind and content. -/
def sameKey : Value → Value → Bool
  | null, null => true
  | text s, text t => s = t
  | bytes s, bytes t => s = t
  | date s, date t => s = t
  | moment s, moment t => s.same t
  | tuple xs, tuple ys => sameKeys xs ys
  | float x, float y => x.same y
  | v, w =>
    match v.units?, w.units? with
    | some m, some n => m = n
    | _, _ => false

def sameKeys : List Value → List Value → Bool
  | [], [] => true
  | x :: xs, y :: ys => sameKey x y && sameKeys xs ys
  | _, _ => false

end

/-- Set the value of a key: in place if the key is there already, at the end if not. -/
def put (key value : Value) : List (Value × Value) → List (Value × Value)
  | [] => [(key, value)]
  | (k, v) :: rest => if sameKey k key then (k, value) :: rest else (k, v) :: put key value rest

/-- The mapping with the given entries; of two with the same key the later one counts. -/
def ofEntries (entries : List (Value × Value)) : List (Value × Value) :=
  entries.foldl (fun done e => put e.1 e.2 done) []

/-- A set without repetitions, in the order of the first occurrences. -/
def distinct (items : List Value) : List Value :=
  items.foldl (fun done x => if done.any (sameKey x) then done else done ++ [x]) []

/-- What a mapping holds under a name. -/
def find? (name : String) : List (Value × Value) → Option Value
  | [] => none
  | (text k, v) :: rest => if k = name then some v else find? name rest
  | _ :: rest => find? name rest

end Value
end TunnelSettings
