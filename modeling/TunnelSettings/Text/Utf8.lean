/-!
Reading bytes as UTF-8. The first sequence that is not well formed is a fault, with the bytes that
belong to it and the reason.
-/
namespace TunnelSettings.Text

/-- What is wrong with a sequence of bytes. -/
inductive Utf8Reason where
  | invalidStart
  | invalidContinuation
  | unexpectedEnd
  deriving DecidableEq, Repr

def Utf8Reason.message : Utf8Reason → String
  | invalidStart => "invalid start byte"
  | invalidContinuation => "invalid continuation byte"
  | unexpectedEnd => "unexpected end of data"

/-- A sequence of `count` bytes at `position` that is not well formed; `first` is the first of them. -/
structure Utf8Fault where
  first : UInt8
  position : Nat
  count : Nat
  reason : Utf8Reason
  deriving DecidableEq, Repr

def Utf8Fault.message (f : Utf8Fault) : String :=
  let digit (n : Nat) : String := String.singleton (Nat.digitChar (n % 16))
  (if f.count = 1 then
    "'utf-8' codec can't decode byte 0x" ++ digit (f.first.toNat / 16) ++ digit f.first.toNat ++
      " in position " ++ toString f.position
  else
    "'utf-8' codec can't decode bytes in position " ++ toString f.position ++ "-" ++
      toString (f.position + f.count - 1)) ++ ": " ++ f.reason.message

/-- The bytes that may follow a first byte: how many in all, and the least and greatest second one. -/
def continuation? (b : Nat) : Option (Nat × Nat × Nat) :=
  if b < 0xC2 then none
  else if b < 0xE0 then some (1, 0x80, 0xBF)
  else if b < 0xF0 then
    some (2, if b = 0xE0 then 0xA0 else 0x80, if b = 0xED then 0x9F else 0xBF)
  else if b < 0xF5 then
    some (3, if b = 0xF0 then 0x90 else 0x80, if b = 0xF4 then 0x8F else 0xBF)
  else none

/-- Read `owed` further bytes of a character, of which `seen` bytes are read with the given code. The
next byte must lie between `low` and `high`. -/
def readTail (owed seen code low high : Nat) : List UInt8 → Except (Nat × Utf8Reason) (Nat × List UInt8)
  | bytes =>
    match owed, bytes with
    | 0, rest => .ok (code, rest)
    | _ + 1, [] => .error (seen, .unexpectedEnd)
    | owed + 1, b :: rest =>
      if low ≤ b.toNat && b.toNat ≤ high then
        readTail owed (seen + 1) (code * 64 + b.toNat % 64) 0x80 0xBF rest
      else .error (seen, .invalidContinuation)

theorem readTail_length {owed seen code low high : Nat} {bytes : List UInt8} {r : Nat × List UInt8}
    (h : readTail owed seen code low high bytes = .ok r) : r.2.length ≤ bytes.length := by
  induction owed generalizing seen code low high bytes with
  | zero => cases bytes <;> simp [readTail] at h <;> simp [← h]
  | succ n ih =>
    cases bytes with
    | nil => simp [readTail] at h
    | cons b rest =>
      rw [readTail] at h
      split at h
      · exact Nat.le_succ_of_le (ih h)
      · simp at h

/-- Read bytes from `position` on; `done` holds the characters read before, the last one first. -/
def decodeFrom (done : List Char) (position : Nat) (bytes : List UInt8) :
    Except Utf8Fault (List Char) :=
  match bytes with
  | [] => .ok done.reverse
  | b :: rest =>
    if b.toNat < 0x80 then decodeFrom (Char.ofNat b.toNat :: done) (position + 1) rest
    else match continuation? b.toNat with
      | none => .error ⟨b, position, 1, .invalidStart⟩
      | some (owed, low, high) =>
        match h : readTail owed 1 (b.toNat % Nat.pow 2 (6 - owed)) low high rest with
        | .error (count, reason) => .error ⟨b, position, count, reason⟩
        | .ok (code, after) =>
          have : after.length ≤ rest.length := readTail_length h
          decodeFrom (Char.ofNat code :: done) (position + owed + 1) after
termination_by bytes.length
decreasing_by all_goals simp only [List.length_cons]; omega

/-- The text that bytes encode. -/
def decodeUtf8 (bytes : List UInt8) : Except Utf8Fault String :=
  (decodeFrom [] 0 bytes).map String.ofList

end TunnelSettings.Text
