import Mathlib.Data.List.Basic
import TunnelSettings.Proofs.Numerals
import TunnelSettings.Proofs.Showing

/-!
Durations in words. A duration is written as its hours, minutes and seconds, each with its unit and only if it is not
zero. The text tells these parts, and the parts tell the duration, also one below zero: there the hours alone are
negative.
-/
namespace TunnelSettings

/-- The parts of a duration that are written. -/
structure Duration where
  hours : Option Int
  minutes : Option Int
  seconds : Option Int
  deriving DecidableEq

namespace Duration

/-- A part with its unit, if it is written. -/
def partText (unit : Char) (part : Option Int) : List Char :=
  (part.map fun n => (toString n).toList ++ [unit]).getD []

/-- The parts in order. -/
def text (d : Duration) : List Char :=
  partText 'h' d.hours ++ (partText 'm' d.minutes ++ partText 's' d.seconds)

/-- The seconds that the parts are together. -/
def total (d : Duration) : Int :=
  3600 * d.hours.getD 0 + 60 * d.minutes.getD 0 + d.seconds.getD 0

/-- No part is zero, and there are fewer minutes and seconds than make up the next unit. -/
structure IsReduced (d : Duration) : Prop where
  hours : ∀ n ∈ d.hours, n ≠ 0
  minutes : ∀ n ∈ d.minutes, 1 ≤ n ∧ n ≤ 59
  seconds : ∀ n ∈ d.seconds, 1 ≤ n ∧ n ≤ 59

/-- A part that is written unless it is zero. -/
def present (n : Int) : Option Int := if n = 0 then none else some n

/-- The parts of a duration, none of them zero. -/
def ofSeconds (n : Int) : Duration where
  hours := present (n / 3600)
  minutes := present (n % 3600 / 60)
  seconds := present (n % 60)

/-! ### The text tells the parts -/

section

variable {unit : Char}

theorem not_mem_partText {other : Char} (letter : ¬ IsNumeralChar other) (different : other ≠ unit)
    (part : Option Int) : other ∉ partText unit part := by
  cases part with
  | none => exact List.not_mem_nil
  | some n =>
    intro found
    rcases List.mem_append.1 found with digit | last
    · exact letter (isNumeralChar_toString n other digit)
    · exact different (List.mem_singleton.1 last)

theorem partText_some (n : Int) (rest : List Char) :
    partText unit (some n) ++ rest = (toString n).toList ++ unit :: rest :=
  List.append_assoc _ _ _

theorem mem_partText_append (unit : Char) (n : Int) (rest : List Char) : unit ∈ partText unit (some n) ++ rest := by
  rw [partText_some]
  exact List.mem_append_right _ (.head _)

/-- A part is told apart from what is behind it, if its unit does not come again there. -/
theorem partText_append_inj (letter : ¬ IsNumeralChar unit) {m n : Option Int} {cs ds : List Char} (hc : unit ∉ cs)
    (hd : unit ∉ ds) (same : partText unit m ++ cs = partText unit n ++ ds) : m = n ∧ cs = ds := by
  cases m with
  | none =>
    cases n with
    | none => exact ⟨rfl, same⟩
    | some n =>
      have found := mem_partText_append unit n ds
      rw [← same] at found
      exact absurd found hc
  | some m =>
    cases n with
    | none =>
      have found := mem_partText_append unit m cs
      rw [same] at found
      exact absurd found hd
    | some n =>
      have digits : unit ∉ (toString m).toList := fun found => letter (isNumeralChar_toString m unit found)
      rw [partText_some, partText_some] at same
      obtain ⟨front, -, rest⟩ := (List.append_cons_inj_of_notMem digits hc).1 same
      exact ⟨congrArg some (toList_toString_inj front), rest⟩

end

/-- The units tell the parts apart. -/
theorem text_injective : Function.Injective text := by
  intro d e same
  obtain ⟨h, m, s⟩ : ¬ IsNumeralChar 'h' ∧ ¬ IsNumeralChar 'm' ∧ ¬ IsNumeralChar 's' := by decide
  have seconds_only (part : Option Int) : 'm' ∉ partText 's' part := not_mem_partText m (by decide) part
  have others_only (minutes seconds : Option Int) : 'h' ∉ partText 'm' minutes ++ partText 's' seconds := by
    rw [List.mem_append, not_or]
    exact ⟨not_mem_partText h (by decide) minutes, not_mem_partText h (by decide) seconds⟩
  obtain ⟨hours, same⟩ := partText_append_inj h (others_only _ _) (others_only _ _) same
  obtain ⟨minutes, same⟩ := partText_append_inj m (seconds_only _) (seconds_only _) same
  rw [← List.append_nil (partText 's' d.seconds), ← List.append_nil (partText 's' e.seconds)] at same
  obtain ⟨seconds, -⟩ := partText_append_inj s List.not_mem_nil List.not_mem_nil same
  cases d
  cases e
  exact congr (congrArg₂ Duration.mk hours minutes) seconds

/-! ### The parts tell the duration -/

theorem getD_present (n : Int) : (present n).getD 0 = n := by
  rw [present]
  split
  · next zero => exact zero.symm
  · rfl

theorem mem_present_iff {m n : Int} : m ∈ present n ↔ m = n ∧ n ≠ 0 := by
  rw [present]
  split <;> simp_all [eq_comm]

theorem total_ofSeconds (n : Int) : (ofSeconds n).total = n := by
  rw [total, ofSeconds, getD_present, getD_present, getD_present]
  omega

theorem isReduced_ofSeconds (n : Int) : (ofSeconds n).IsReduced where
  hours m hm := by
    obtain ⟨rfl, some_hours⟩ := mem_present_iff.1 hm
    exact some_hours
  minutes m hm := by
    obtain ⟨rfl, some_minutes⟩ := mem_present_iff.1 hm
    omega
  seconds m hm := by
    obtain ⟨rfl, some_seconds⟩ := mem_present_iff.1 hm
    omega

/-! ### The text of a duration -/

theorem durationParts_eq (n : Int) : durationParts n =
    [(n / 3600, "h"), (n % 3600 / 60, "m"), (n % 60, "s")].filter (·.1 ≠ 0) := by
  have seconds : n % 3600 % 60 = n % 60 := by omega
  rw [durationParts]
  simp only [Int.fdiv_eq_ediv_of_nonneg, Int.fmod_eq_emod_of_nonneg, Int.reduceLE, seconds]

theorem eq_of_mapM_writeInteger {parts : List (Int × String)} {ts : List String}
    (written : (parts.mapM fun (n, unit) => return (← writeInteger n) ++ unit) = Except.ok ts) :
    ts = parts.map fun part => toString part.1 ++ part.2 := by
  induction parts generalizing ts with
  | nil =>
    cases written
    rfl
  | cons part parts ih =>
    rw [List.mapM_cons] at written
    obtain ⟨t, first, written⟩ := (bind_eq_ok_iff _ _ _).1 written
    obtain ⟨rest, others, same⟩ := (bind_eq_ok_iff _ _ _).1 written
    obtain ⟨digits, spelled, joined⟩ := (bind_eq_ok_iff _ _ _).1 first
    cases same
    cases joined
    rw [ih others, List.map_cons, eq_of_writeInteger spelled]

theorem toList_intercalate_empty (ts : List String) : ("".intercalate ts).toList = ts.flatMap String.toList := by
  have nothing : "".toList = [] := rfl
  rw [String.toList_intercalate, nothing]
  induction ts with
  | nil => rfl
  | cons t ts ih =>
    cases ts with
    | nil => simp
    | cons u ts =>
      rw [List.map_cons, List.map_cons, List.intercalate_cons_cons, ← List.map_cons, ih, List.append_nil]
      rfl

/-- What is written for a part, or nothing if it is zero. -/
theorem partText_present (unit : Char) (n : Int) :
    partText unit (present n) = if n = 0 then [] else (toString n).toList ++ [unit] := by
  rw [present]
  split <;> rfl

/-- Leaving zero out of the parts is the same as leaving it out of the text. -/
theorem flatMap_filter_parts (parts : List (Int × Char)) :
    ((parts.map fun part => (part.1, String.singleton part.2)).filter (·.1 ≠ 0)).flatMap
        (fun part => (toString part.1 ++ part.2).toList) =
      parts.flatMap fun part => partText part.2 (present part.1) := by
  induction parts with
  | nil => rfl
  | cons part parts ih =>
    rw [List.map_cons, List.filter_cons, List.flatMap_cons, partText_present, ← ih]
    by_cases zero : part.1 = 0
    · simp [zero]
    · simp [zero]

theorem toList_of_durationText {n : Int} {t : String} (other : n ≠ 0) (written : durationText n = .ok t) :
    t.toList = (ofSeconds n).text := by
  rw [durationText, if_neg other] at written
  obtain ⟨ts, found, joined⟩ := (bind_eq_ok_iff _ _ _).1 written
  cases joined
  have parts := flatMap_filter_parts [(n / 3600, 'h'), (n % 3600 / 60, 'm'), (n % 60, 's')]
  rw [List.flatMap_cons, List.flatMap_cons, List.flatMap_singleton] at parts
  rw [eq_of_mapM_writeInteger found, durationParts_eq, toList_intercalate_empty, List.flatMap_map]
  exact parts

/-- The text of a duration is made of parts that are the duration together. -/
theorem exists_of_durationText {n : Int} {t : String} (written : durationText n = .ok t) :
    ∃ d : Duration, d.text = t.toList ∧ d.total = n ∧ (n ≠ 0 → d.IsReduced) := by
  by_cases zero : n = 0
  · subst zero
    cases written
    exact ⟨⟨none, none, some 0⟩, by decide, rfl, fun other => absurd rfl other⟩
  · exact ⟨ofSeconds n, (toList_of_durationText zero written).symm, total_ofSeconds n, fun _ => isReduced_ofSeconds n⟩

end Duration

/--
A duration of any sign that is short enough to be written has a text, and the text is not empty. It is made of hours,
minutes and seconds with their units in this order, each at most once, and there is just one way to take it apart. The
parts are the duration together; none is zero, and of minutes and seconds there are at most fifty-nine, except that
nothing at all is written as zero seconds. So no other duration has the same text.
-/
theorem durationText_reads_back (n : Int) (short : IsShort n) :
    ∃ t, durationText n = .ok t ∧ t ≠ "" ∧ (n = 0 → t = "0s") ∧
      (∃ d : Duration, (∀ e : Duration, e.text = t.toList ↔ e = d) ∧ d.total = n ∧ (n ≠ 0 → d.IsReduced)) ∧
      ∀ m, durationText m = .ok t → m = n := by
  obtain ⟨t, written⟩ := short.durationText
  obtain ⟨d, spelled, total, reduced⟩ := Duration.exists_of_durationText written
  have unique (e : Duration) (same : e.text = t.toList) : e = d := Duration.text_injective (same.trans spelled.symm)
  refine ⟨t, written, ?_, ?_, ⟨d, fun e => ⟨unique e, fun same => same ▸ spelled⟩, total, reduced⟩, ?_⟩
  · -- without any text there are no parts, and these are no seconds, for which there is a text
    rintro rfl
    rw [← unique ⟨none, none, none⟩ rfl] at total
    subst total
    have empty : "0s" = "" := Except.ok.inj written
    exact absurd empty (by decide)
  · rintro rfl
    cases written
    rfl
  · intro m written'
    obtain ⟨e, spelled', total', -⟩ := Duration.exists_of_durationText written'
    rw [← total', unique e spelled', total]

/-- An hour and a second below zero: the hours are rounded down, and the minutes and seconds make up for it. -/
theorem durationText_reads_back_belowZero :
    IsShort (-3601) ∧ durationText (-3601) = .ok "-2h59m59s" ∧
      (∀ e : Duration, e.text = "-2h59m59s".toList ↔ e = ⟨some (-2), some 59, some 59⟩) ∧
      ∀ m, durationText m = .ok "-2h59m59s" → m = -3601 := by
  have short : IsShort (-3601) := isShort_of_lt (by decide)
  obtain ⟨t, written, -, -, ⟨d, unique, -⟩, only⟩ := durationText_reads_back (-3601) short
  have spelled : durationText (-3601) = .ok "-2h59m59s" := by decide +kernel
  obtain rfl : "-2h59m59s" = t := Except.ok.inj (spelled.symm.trans written)
  obtain rfl : ⟨some (-2), some 59, some 59⟩ = d := (unique _).1 (by decide +kernel)
  exact ⟨short, spelled, unique, only⟩

end TunnelSettings
