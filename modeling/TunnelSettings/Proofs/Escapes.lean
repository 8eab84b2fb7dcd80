import TunnelSettings.Proofs.Reading

/-!
Failures that are reported and failures that escape. The program reports unsuitable values and missing
files; whatever else goes wrong while files are read ends it without a code. Here it is said which data
lead to failures of the second kind.
-/
namespace TunnelSettings

open ToValue

/-- An outcome that is a failure of some sort. -/
def FailsWith {ε α : Type} (P : ε → Prop) (r : Except ε α) : Prop := ∃ e, r = .error e ∧ P e

section

variable {ε α β : Type} {P : ε → Prop}

@[simp] theorem failsWith_ok (a : α) : ¬ FailsWith P (.ok a) := fun ⟨_, h, _⟩ => by cases h

@[simp] theorem failsWith_error (e : ε) : FailsWith P (.error e : Except ε α) ↔ P e :=
  ⟨fun ⟨_, h, he⟩ => by cases h; exact he, fun he => ⟨e, rfl, he⟩⟩

/-- If neither of two parts fails in some way, the whole does not. -/
theorem not_failsWith_bind {r : Except ε α} {f : α → Except ε β} (hr : ¬ FailsWith P r)
    (hf : ∀ a, ¬ FailsWith P (f a)) : ¬ FailsWith P (r >>= f) := by
  cases r with
  | error e => exact fun ⟨e', h, he⟩ => hr ⟨e', by cases h; rfl, he⟩
  | ok a => exact hf a

theorem not_failsWith_ite {c : Prop} [Decidable c] {r r' : Except ε α} (h : ¬ FailsWith P r)
    (h' : ¬ FailsWith P r') : ¬ FailsWith P (if c then r else r') := by
  split
  · exact h
  · exact h'

theorem not_failsWith_mapM {f : α → Except ε β} (h : ∀ a, ¬ FailsWith P (f a)) (as : List α) :
    ¬ FailsWith P (as.mapM f) := by
  induction as with
  | nil => exact failsWith_ok []
  | cons a as ih =>
    rw [List.mapM_cons]
    exact not_failsWith_bind (h a) fun _ => not_failsWith_bind ih fun _ => failsWith_ok _

end

/-- An outcome escapes if it is a failure that is not reported. -/
def Escapes {α : Type} (r : Except Failure α) : Prop := FailsWith (fun f => f.isReported = false) r

/-- A number that is too large for its type is not reported. -/
def Overflows {α : Type} (r : Except NumberFault α) : Prop :=
  FailsWith (fun fault => fault.isOverflow = true) r

section

variable {α β : Type}

@[simp] theorem escapes_ok (a : α) : ¬ Escapes (.ok a) := failsWith_ok a

@[simp] theorem escapes_pure (a : α) : ¬ Escapes (pure a) := failsWith_ok a

@[simp] theorem escapes_error (f : Failure) :
    Escapes (.error f : Except Failure α) ↔ f.isReported = false := failsWith_error f

instance (r : Except Failure α) : Decidable (Escapes r) :=
  match r with
  | .ok a => .isFalse (escapes_ok a)
  | .error f => decidable_of_iff _ (escapes_error f).symm

@[simp] theorem escapes_map (f : α → β) (r : Except Failure α) : Escapes (f <$> r) ↔ Escapes r := by
  cases r with
  | error e => rw [escapes_error, ← escapes_error (α := β)]; rfl
  | ok a => exact iff_of_false (escapes_ok (f a)) (escapes_ok a)

/-- Of two parts after one another the first escapes, or it succeeds and the second escapes. -/
theorem escapes_bind (r : Except Failure α) (f : α → Except Failure β) :
    Escapes (r >>= f) ↔ Escapes r ∨ ∃ a, r = .ok a ∧ Escapes (f a) := by
  cases r with
  | error e =>
    rw [error_bind, escapes_error, escapes_error]
    simp
  | ok a =>
    rw [ok_bind]
    simp

/-- If neither of two parts escapes, the whole does not. -/
theorem not_escapes_bind {r : Except Failure α} {f : α → Except Failure β} (hr : ¬ Escapes r)
    (hf : ∀ a, ¬ Escapes (f a)) : ¬ Escapes (r >>= f) := not_failsWith_bind hr hf

theorem escapes_iff_fault? (r : Except Failure α) :
    Escapes r ↔ ∃ f, fault? r = some f ∧ f.isReported = false := by
  cases r <;> simp [Escapes, FailsWith, fault?]

@[simp] theorem isReported_number (fault : NumberFault) :
    (Failure.number fault).isReported = !fault.isOverflow := by
  cases fault <;> rfl

theorem escapes_mapError (r : Except NumberFault α) : Escapes (r.mapError .number) ↔ Overflows r := by
  cases r with
  | ok a => exact iff_of_false (escapes_ok a) (failsWith_ok a)
  | error fault =>
    rw [Except.mapError, escapes_error, isReported_number, Overflows, failsWith_error, Bool.not_eq_false']

@[simp] theorem overflows_ok (a : α) : ¬ Overflows (.ok a) := failsWith_ok a

/-- If neither of two parts overflows, the whole does not. -/
theorem overflows_bind {r : Except NumberFault α} {f : α → Except NumberFault β} (hr : ¬ Overflows r)
    (hf : ∀ a, ¬ Overflows (f a)) : ¬ Overflows (r >>= f) := not_failsWith_bind hr hf

end

/-! ### Numbers and texts -/

/-- An integer cannot be written for just one reason. -/
theorem not_failsWith_writeInteger {P : NumberFault → Prop} (other : ¬ P (.tooManyDigits none)) (n : Int) :
    ¬ FailsWith P (writeInteger n) := by
  rw [writeInteger]
  split
  · exact failsWith_ok _
  · rwa [failsWith_error]

theorem overflows_writeInteger (n : Int) : ¬ Overflows (writeInteger n) :=
  not_failsWith_writeInteger nofun n

theorem overflows_readInteger (base : Nat) (cs : List Char) (shown : String) :
    ¬ Overflows (readInteger base cs shown) := by
  rw [readInteger]
  simp only []
  split
  · exact overflows_ok _
  · exact fun ⟨_, h, tooLarge⟩ => by cases h; cases tooLarge
  · exact fun ⟨_, h, tooLarge⟩ => by cases h; cases tooLarge

theorem overflows_readDecimal (cs : List Char) (shown : String) : ¬ Overflows (readDecimal cs shown) := by
  rw [readDecimal]
  split
  · exact overflows_ok _
  · exact fun ⟨_, h, tooLarge⟩ => by cases h; cases tooLarge

namespace Value

section

variable {P : NumberFault → Prop}

mutual

/-- Values are written unless they hold an integer that cannot be. -/
theorem not_failsWith_literalAt (other : ¬ P (.tooManyDigits none)) (depth : Nat) (v : Value) :
    ¬ FailsWith P (v.literalAt depth) := by
  match v with
  | .int n => exact not_failsWith_writeInteger other n
  | .list xs => exact not_failsWith_bind (not_failsWith_literalsAt other _ xs) fun _ => failsWith_ok _
  | .tuple xs => exact not_failsWith_bind (not_failsWith_literalsAt other _ xs) fun _ => failsWith_ok _
  | .map es => exact not_failsWith_bind (not_failsWith_entryLiteralsAt other _ es) fun _ => failsWith_ok _
  | .set [] => exact failsWith_ok _
  | .set (x :: xs) =>
    exact not_failsWith_bind (not_failsWith_literalsAt other _ (x :: xs)) fun _ => failsWith_ok _
  | .outerList back xs =>
    exact not_failsWith_ite (failsWith_ok _)
      (not_failsWith_bind (not_failsWith_literalsAt other _ xs) fun _ => failsWith_ok _)
  | .outerTuple back xs =>
    exact not_failsWith_ite (failsWith_ok _)
      (not_failsWith_bind (not_failsWith_literalsAt other _ xs) fun _ => failsWith_ok _)
  | .outerMap back es =>
    exact not_failsWith_ite (failsWith_ok _)
      (not_failsWith_bind (not_failsWith_entryLiteralsAt other _ es) fun _ => failsWith_ok _)
  | .null | .bool _ | .float _ | .text _ | .bytes _ | .date _ | .moment _ => exact failsWith_ok _

theorem not_failsWith_literalsAt (other : ¬ P (.tooManyDigits none)) (depth : Nat) (xs : List Value) :
    ¬ FailsWith P (literalsAt depth xs) := by
  cases xs with
  | nil => exact failsWith_ok _
  | cons x xs =>
    exact not_failsWith_bind (not_failsWith_literalAt other depth x) fun _ =>
      not_failsWith_bind (not_failsWith_literalsAt other depth xs) fun _ => failsWith_ok _

theorem not_failsWith_entryLiteralsAt (other : ¬ P (.tooManyDigits none)) (depth : Nat)
    (es : List (Value × Value)) : ¬ FailsWith P (entryLiteralsAt depth es) := by
  match es with
  | [] => exact failsWith_ok _
  | (k, v) :: es =>
    exact not_failsWith_bind (not_failsWith_literalAt other depth k) fun _ =>
      not_failsWith_bind (not_failsWith_literalAt other depth v) fun _ =>
        not_failsWith_bind (not_failsWith_entryLiteralsAt other depth es) fun _ => failsWith_ok _

end

theorem not_failsWith_literal (other : ¬ P (.tooManyDigits none)) (v : Value) : ¬ FailsWith P v.literal :=
  not_failsWith_literalAt other 0 v

theorem not_failsWith_asText (other : ¬ P (.tooManyDigits none)) (v : Value) : ¬ FailsWith P v.asText := by
  cases v with
  | text s => exact failsWith_ok _
  | date d => exact failsWith_ok _
  | moment t => exact failsWith_ok _
  | _ => exact not_failsWith_literal other _

end

theorem overflows_literal (v : Value) : ¬ Overflows v.literal := not_failsWith_literal nofun v

theorem overflows_asText (v : Value) : ¬ Overflows v.asText := not_failsWith_asText nofun v

/-- A value that has no text has too many digits somewhere. -/
theorem eq_of_asText_eq_error {v : Value} {f : NumberFault} (h : v.asText = .error f) :
    f = .tooManyDigits none := by
  by_contra different
  exact not_failsWith_asText (P := fun f => f ≠ .tooManyDigits none) (by simp) v ⟨f, h, different⟩

theorem escapes_toText (v : Value) : ¬ Escapes v.toText := by
  rw [toText, escapes_mapError]
  exact overflows_asText v

theorem escapes_toBool (v : Value) : ¬ Escapes v.toBool := by
  rw [toBool.eq_def]
  split
  · exact escapes_ok _
  · refine not_escapes_bind (escapes_toText v) fun text => ?_
    dsimp only
    split
    · exact escapes_ok _
    · split
      · exact escapes_ok _
      · refine not_escapes_bind ?_ fun shown => ?_
        · rw [escapes_mapError]
          exact overflows_literal v
        · exact fun h => by cases (escapes_error _).1 h

/-- Whether a value is a whole number or has a number that can be cut off to one, or may spell one. -/
def isIntegerLike : Value → Bool
  | .bool _ | .int _ | .text _ | .bytes _ => true
  | .float (.infinite _) => false
  | .float _ => true
  | _ => false

theorem escapes_toInt (v : Value) : Escapes v.toInt ↔ v.isIntegerLike = false := by
  cases v with
  | text s => simp [toInt, isIntegerLike, escapes_mapError, overflows_readInteger]
  | bytes bs => simp [toInt, isIntegerLike, escapes_mapError, overflows_readInteger]
  | float x =>
    rw [toInt, escapes_mapError]
    cases x with
    | nan payload =>
      exact iff_of_false (fun ⟨_, h, tooLarge⟩ => by cases h; cases tooLarge) Bool.true_eq_false.mp
    | infinite negative => exact iff_of_true ⟨_, rfl, rfl⟩ rfl
    | finite => exact iff_of_false (overflows_ok _) Bool.true_eq_false.mp
  | _ => simp [toInt, isIntegerLike, Failure.isReported, Failure.family, Failure.Family.isValue]

/-- Whether a value is a number that is not too large, or may spell one. -/
def isDecimalLike : Value → Bool
  | .bool _ | .float _ | .text _ | .bytes _ => true
  | .int n => (Binary64.ofInt n).isOk
  | _ => false

theorem escapes_toFloat (v : Value) : Escapes v.toFloat ↔ v.isDecimalLike = false := by
  cases v with
  | text s => simp [toFloat, isDecimalLike, escapes_mapError, overflows_readDecimal]
  | bytes bs => simp [toFloat, isDecimalLike, escapes_mapError, overflows_readDecimal]
  | int n =>
    rw [toFloat, escapes_mapError, isDecimalLike, Binary64.ofInt]
    split <;> simp [Overflows, NumberFault.isOverflow, Except.isOk, Except.toBool]
  | _ => simp [toFloat, isDecimalLike, Failure.isReported, Failure.family, Failure.Family.isValue]

/-- The items of a value; a text or a whole number counts as a list of one. -/
def listed : Value → Except Failure (List Value)
  | .text s => .ok [.text s]
  | .int n => .ok [.int n]
  | .bool b => .ok [.bool b]
  | v => v.items

/-- Whether a value has items, or counts as a list of one. -/
def isListLike : Value → Bool
  | .null | .float _ | .date _ | .moment _ => false
  | _ => true

theorem escapes_listed (v : Value) : Escapes v.listed ↔ v.isListLike = false := by
  cases v <;> simp [listed, items, isListLike, Failure.isReported, Failure.family, Failure.Family.isValue]

theorem toList_eq {α : Type} (convert : Value → Except Failure α) (v : Value) :
    v.toList convert = v.listed >>= fun xs => xs.mapM convert := by
  cases v <;> rfl

end Value

section

variable {α σ : Type}

theorem fault?_mapM (f : α → Except Failure σ) (xs : List α) :
    fault? (xs.mapM f) = xs.findSome? fun x => fault? (f x) := by
  induction xs with
  | nil => rfl
  | cons x xs ih =>
    rw [List.mapM_cons, fault?_bind _ _ (fault? (xs.mapM f)), ih, List.findSome?_cons]
    · cases fault? (f x) <;> rfl
    · intro y _
      rw [fault?_bind _ _ none fun _ _ => rfl, Option.or_none]

/-- A fold fails at the first member whose step fails, if failing does not depend on the state. -/
theorem fault?_foldlM (f : σ → α → Except Failure σ) (g : α → Option Failure)
    (h : ∀ s x, fault? (f s x) = g x) (xs : List α) (s : σ) :
    fault? (xs.foldlM f s) = xs.findSome? g := by
  induction xs generalizing s with
  | nil => rfl
  | cons x xs ih =>
    rw [List.foldlM_cons, fault?_bind _ _ _ fun t _ => ih t, h, List.findSome?_cons]
    cases g x <;> rfl

/-- Two parts after one another fail alike if each of them does. -/
theorem fault?_bind_congr {τ : Type} {r : Except Failure α} {r' : Except Failure τ}
    {f : α → Except Failure σ} {f' : τ → Except Failure σ} (hr : fault? r = fault? r')
    (hf : ∀ a a', fault? (f a) = fault? (f' a')) : fault? (r >>= f) = fault? (r' >>= f') := by
  cases r with
  | error e =>
    cases r' with
    | error e' => exact hr
    | ok a' => cases hr
  | ok a =>
    cases r' with
    | error e' => cases hr
    | ok a' => exact hf a a'

theorem fault?_eq_none_iff (r : Except Failure α) : fault? r = none ↔ ∃ a, r = .ok a := by
  cases r <;> simp [fault?]

/-- The first failure is not reported: everything before it is fine. -/
theorem findSome?_quiet_iff (g : α → Option Failure) (xs : List α) :
    (∃ f, xs.findSome? g = some f ∧ f.isReported = false) ↔
      ∃ before x after, xs = before ++ x :: after ∧ (∀ y ∈ before, g y = none) ∧
        ∃ f, g x = some f ∧ f.isReported = false := by
  constructor
  · rintro ⟨f, found, quiet⟩
    obtain ⟨before, x, after, split, hx, clean⟩ := List.findSome?_eq_some_iff.1 found
    exact ⟨before, x, after, split, clean, f, hx, quiet⟩
  · rintro ⟨before, x, after, split, clean, f, hx, quiet⟩
    exact ⟨f, List.findSome?_eq_some_iff.2 ⟨before, x, after, split, hx, clean⟩, quiet⟩

theorem escapes_mapM (f : α → Except Failure σ) (xs : List α) :
    Escapes (xs.mapM f) ↔ ∃ before x after, xs = before ++ x :: after ∧
      (∀ y ∈ before, ∃ b, f y = .ok b) ∧ Escapes (f x) := by
  rw [escapes_iff_fault?, fault?_mapM, findSome?_quiet_iff]
  simp only [fault?_eq_none_iff, escapes_iff_fault?]

end

/-- Values that no field of a kind can have, and about which nothing is reported. -/
def FieldKind.Unfit (v : Value) : FieldKind → Prop
  | flag | text => False
  | integer => v.isIntegerLike = false
  | decimal => v.isDecimalLike = false
  | texts => v.isListLike = false
  | integers => v.isListLike = false ∨
      ∃ before x after, v.listed = .ok (before ++ x :: after) ∧
        (∀ y ∈ before, ∃ n, y.toInt = .ok n) ∧ x.isIntegerLike = false

theorem FieldKind.escapes_read (kind : FieldKind) (v : Value) (h : v ≠ .null) :
    Escapes (kind.read (some v)) ↔ kind.Unfit v := by
  have some_read {α : Type} (convert : Value → Except Failure α) :
      Value.optional convert (some v) = some <$> convert v := by
    cases v <;> first | rfl | exact absurd rfl h
  cases kind with
  | flag => simp [some_read, Unfit, Value.escapes_toBool]
  | integer => simp [some_read, Unfit, Value.escapes_toInt]
  | decimal => simp [some_read, Unfit, Value.escapes_toFloat]
  | text => simp [some_read, Unfit, Value.escapes_toText]
  | texts =>
    simp [some_read, Unfit, Value.toList_eq, escapes_bind, Value.escapes_listed, escapes_mapM,
      Value.escapes_toText]
  | integers =>
    simp only [read, some_read, Unfit, Value.toList_eq, escapes_bind, escapes_map,
      Value.escapes_listed, escapes_mapM, Value.escapes_toInt]
    refine or_congr Iff.rfl ⟨?_, ?_⟩
    · rintro ⟨_, listed, before, x, after, rfl, clean, unfit⟩
      exact ⟨before, x, after, listed, clean, unfit⟩
    · rintro ⟨before, x, after, listed, clean, unfit⟩
      exact ⟨_, listed, before, x, after, rfl, clean, unfit⟩

/-! ### Settings and servers -/

namespace Settings

/-- The first look-up in a settings file that fails finds a value that the field cannot have. -/
def Unfit (es : Section) : Prop :=
  ∃ before path kind after v, lookups = before ++ .field path kind :: after ∧
    (∀ l ∈ before, l.fault? es = none) ∧ es.at? path = some v ∧ v ≠ .null ∧ kind.Unfit v

theorem escapes_ofSection (es : Section) : Escapes (ofSection es) ↔ Unfit es := by
  rw [escapes_iff_fault?, (makes_ofSection es).fault, findSome?_quiet_iff]
  constructor
  · rintro ⟨before, l, after, split, clean, f, found, quiet⟩
    cases l with
    | inner path =>
      cases Lookup.eq_of_innerFault?_eq_some found
      cases quiet
    | field path kind =>
      have escapes : Escapes (kind.read (es.at? path)) :=
        (escapes_iff_fault? _).2 ⟨f, found, quiet⟩
      cases stands : es.at? path with
      | none =>
        rw [stands] at escapes
        cases kind <;> exact absurd escapes (escapes_ok _)
      | some v =>
        rw [stands] at escapes
        by_cases null : v = .null
        · subst null
          cases kind <;> exact absurd escapes (escapes_ok _)
        · exact ⟨before, path, kind, after, v, split, clean, stands, null,
            (kind.escapes_read v null).1 escapes⟩
  · rintro ⟨before, path, kind, after, v, split, clean, stands, null, unfit⟩
    refine ⟨before, _, after, split, clean, ?_⟩
    simp only [Lookup.fault?]
    rw [← escapes_iff_fault?, stands]
    exact (kind.escapes_read v null).2 unfit

theorem escapes_fragment (es : Section) (env : Secrets) :
    Escapes (fragment (.map es) env) ↔ Unfit es := by
  rw [← escapes_ofSection, fragment, escapes_bind]
  refine or_iff_left ?_
  rintro ⟨s, _, h⟩
  exact escapes_ok _ h

end Settings

namespace Value

/-- Whether a value has items. -/
def isIterable : Value → Bool
  | .null | .bool _ | .int _ | .float _ | .date _ | .moment _ => false
  | _ => true

theorem escapes_items (v : Value) : Escapes v.items ↔ v.isIterable = false := by
  cases v <;> simp [items, isIterable, Failure.isReported, Failure.family, Failure.Family.isValue]

/-- Whether a value has entries. -/
def isMapping (v : Value) : Bool := v.entries?.isSome

end Value

namespace Choices

/-- A record offers something unless it holds an integer that cannot be written. -/
theorem not_failsWith_offered? {P : Failure → Prop} (other : ¬ P (.number (.tooManyDigits none))) (key : String)
    (record : List (Value × Value)) : ¬ FailsWith P (offered? key record) := by
  rw [offered?]
  cases Value.find? key record with
  | none => exact failsWith_ok _
  | some v =>
    dsimp only
    split
    · cases text : v.asText with
      | ok s => exact failsWith_ok _
      | error fault =>
        rw [Value.eq_of_asText_eq_error text]
        rwa [failsWith_error]
    · exact failsWith_ok _

/-- What a record offers under one key, put to what is known. -/
def putOffered (record : List (Value × Value)) (key : String) (known : List String) :
    Except Failure (List String) := do
  match ← offered? key record with
  | some s => return insertSorted s known
  | none => return known

theorem fault?_putOffered (record : List (Value × Value)) (key : String) (known known' : List String) :
    fault? (putOffered record key known) = fault? (putOffered record key known') :=
  fault?_bind_congr rfl fun a a' => by cases a <;> cases a' <;> rfl

theorem not_failsWith_putOffered {P : Failure → Prop} (other : ¬ P (.number (.tooManyDigits none)))
    (record : List (Value × Value)) (key : String) (known : List String) :
    ¬ FailsWith P (putOffered record key known) :=
  not_failsWith_bind (not_failsWith_offered? other key record) fun a => by cases a <;> exact failsWith_ok _

theorem not_failsWith_addEntries {P : Failure → Prop} (other : ¬ P (.number (.tooManyDigits none))) (c : Choices)
    (record : List (Value × Value)) : ¬ FailsWith P (c.addEntries record) := by
  refine not_failsWith_bind (not_failsWith_putOffered other record _ _) fun _ => ?_
  refine not_failsWith_bind (not_failsWith_putOffered other record _ _) fun _ => ?_
  refine not_failsWith_bind (not_failsWith_putOffered other record _ _) fun _ => ?_
  refine not_failsWith_bind (not_failsWith_putOffered other record _ _) fun _ => ?_
  refine not_failsWith_bind (not_failsWith_putOffered other record _ _) fun _ => ?_
  exact not_failsWith_bind (not_failsWith_putOffered other record _ _) fun _ => failsWith_ok _

theorem fault?_addEntries (c : Choices) (es : List (Value × Value)) :
    fault? (c.addEntries es) = fault? (addEntries {} es) := by
  refine fault?_bind_congr (fault?_putOffered es _ _ _) fun _ _ => ?_
  refine fault?_bind_congr (fault?_putOffered es _ _ _) fun _ _ => ?_
  refine fault?_bind_congr (fault?_putOffered es _ _ _) fun _ _ => ?_
  refine fault?_bind_congr (fault?_putOffered es _ _ _) fun _ _ => ?_
  refine fault?_bind_congr (fault?_putOffered es _ _ _) fun _ _ => ?_
  exact fault?_bind_congr (fault?_putOffered es _ _ _) fun _ _ => rfl

/-- Whether a record can be added does not depend on what is known already. -/
theorem fault?_add (c : Choices) (record : Value) : fault? (c.add record) = fault? (add {} record) := by
  rw [add, add]
  cases record.entries? with
  | none => rfl
  | some es => exact fault?_addEntries c es

theorem escapes_add (c : Choices) (record : Value) :
    Escapes (c.add record) ↔ record.isMapping = false := by
  rw [add, Value.isMapping]
  cases record.entries? with
  | none => exact iff_of_true ⟨_, rfl, rfl⟩ rfl
  | some es => exact iff_of_false (not_failsWith_addEntries nofun c es) Bool.true_eq_false.mp

theorem escapes_ofRecords (records : List Value) :
    Escapes (ofRecords records) ↔ ∃ before record after, records = before ++ record :: after ∧
      (∀ r ∈ before, ∃ c, add {} r = .ok c) ∧ record.isMapping = false := by
  rw [escapes_iff_fault?, ofRecords, fault?_foldlM _ _ fault?_add, findSome?_quiet_iff]
  simp only [fault?_eq_none_iff, ← escapes_iff_fault?, escapes_add]

end Choices

namespace Servers

theorem escapes_members (v : Value) :
    Escapes (members v) ↔ v.isTruthy = true ∧ v.isIterable = false := by
  rw [members]
  cases v.isTruthy with
  | false => simp
  | true => simpa using Value.escapes_items v

theorem fault?_addEntry (s : Servers) (e : Value × Value) :
    fault? (s.addEntry e.1 e.2) = fault? (addEntry {} e.1 e.2) := by
  rw [addEntry, addEntry]
  cases e.1.asText.mapError Failure.number with
  | error f => rfl
  | ok name =>
    cases members e.2 with
    | error f => rfl
    | ok records =>
      dsimp only [bind, Except.bind]
      cases Choices.ofRecords records <;> rfl

/-- What is listed for a provider has no items, or has an item that is no mapping. -/
def UnfitEntry (key records : Value) : Prop :=
  (∃ name, key.asText = .ok name) ∧
    ((records.isTruthy = true ∧ records.isIterable = false) ∨
      ∃ before record after, members records = .ok (before ++ record :: after) ∧
        (∀ r ∈ before, ∃ c, Choices.add {} r = .ok c) ∧ record.isMapping = false)

theorem escapes_addEntry (s : Servers) (key records : Value) :
    Escapes (s.addEntry key records) ↔ UnfitEntry key records := by
  rw [addEntry, escapes_bind, UnfitEntry]
  simp only [escapes_mapError, Value.overflows_asText, false_or, escapes_bind, escapes_members,
    Choices.escapes_ofRecords, mapError_eq_ok_iff, escapes_pure, and_false, exists_false, or_false]
  rw [exists_and_right]
  refine and_congr Iff.rfl (or_congr Iff.rfl ⟨?_, ?_⟩)
  · rintro ⟨_, items, before, record, after, rfl, rest⟩
    exact ⟨before, record, after, items, rest⟩
  · rintro ⟨before, record, after, items, rest⟩
    exact ⟨_, items, before, record, after, rfl, rest⟩

/-- The first provider of a servers file that cannot be added has a name but no proper records. -/
def Unfit (es : List (Value × Value)) : Prop :=
  ∃ before e after, es = before ++ e :: after ∧
    (∀ d ∈ before, ∃ s, addEntry {} d.1 d.2 = .ok s) ∧ UnfitEntry e.1 e.2

theorem escapes_ofValue (es : List (Value × Value)) : Escapes (ofValue (.map es)) ↔ Unfit es := by
  have eq : ofValue (.map es) = es.foldlM (fun s e => s.addEntry e.1 e.2) {} := by
    cases es <;> rfl
  rw [eq, escapes_iff_fault?, fault?_foldlM _ _ fault?_addEntry, findSome?_quiet_iff]
  simp only [fault?_eq_none_iff, ← escapes_iff_fault?, escapes_addEntry]
  rfl

end Servers

end TunnelSettings
