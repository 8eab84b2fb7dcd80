import Mathlib.Data.List.Sort
import TunnelSettings.Proofs.Acceptance
import TunnelSettings.Proofs.Escapes

/-!
What servers offer. Under each of the six keys the choices of a list of records are the texts of what the
records have there, each once, in increasing order.
-/
namespace TunnelSettings

/-- A way to choose a server: the key under which records have it, what of the choices belongs to it, and what a
selection wants of it. -/
structure Criterion where
  key : String
  offered : Choices → List String
  wanted : ServerSelection → Option (List String)

namespace Criterion

def all : List Criterion := [
  ⟨"country", Choices.countries, ServerSelection.countries⟩,
  ⟨"region", Choices.regions, ServerSelection.regions⟩,
  ⟨"city", Choices.cities, ServerSelection.cities⟩,
  ⟨"isp", Choices.isps, ServerSelection.isps⟩,
  ⟨"hostname", Choices.hostnames, ServerSelection.hostnames⟩,
  ⟨"server_name", Choices.names, ServerSelection.names⟩]

theorem forall_mem_all {P : Criterion → Prop} :
    (∀ q ∈ all, P q) ↔
      P ⟨"country", Choices.countries, ServerSelection.countries⟩ ∧
      P ⟨"region", Choices.regions, ServerSelection.regions⟩ ∧
      P ⟨"city", Choices.cities, ServerSelection.cities⟩ ∧
      P ⟨"isp", Choices.isps, ServerSelection.isps⟩ ∧
      P ⟨"hostname", Choices.hostnames, ServerSelection.hostnames⟩ ∧
      P ⟨"server_name", Choices.names, ServerSelection.names⟩ := by
  simp [all]

end Criterion

theorem ServerSelection.offered_iff_forall (offered : Choices) (s : ServerSelection) :
    s.Offered offered ↔
      ∀ q ∈ Criterion.all, ∀ values ∈ q.wanted s, ∀ v ∈ values, Known (q.offered offered) v := by
  rw [offered_iff, Criterion.forall_mem_all]

namespace Choices

/-! ### Sorted lists -/

theorem mem_insertSorted (s x : String) (known : List String) :
    x ∈ insertSorted s known ↔ x = s ∨ x ∈ known := by
  induction known with
  | nil => exact List.mem_cons
  | cons t ts ih =>
    rw [insertSorted]
    split
    · exact List.mem_cons
    · split
      · next same => simp [same]
      · rw [List.mem_cons, ih, List.mem_cons]
        exact or_left_comm

theorem pairwise_insertSorted {known : List String} (sorted : known.Pairwise (· < ·)) (s : String) :
    (insertSorted s known).Pairwise (· < ·) := by
  induction known with
  | nil => exact List.pairwise_singleton _ s
  | cons t ts ih =>
    obtain ⟨least, rest⟩ := List.pairwise_cons.1 sorted
    rw [insertSorted]
    split
    · next before =>
      refine List.pairwise_cons.2 ⟨List.forall_mem_cons.2 ⟨before, fun u hu => ?_⟩, sorted⟩
      exact String.lt_trans before (least u hu)
    · next notBefore =>
      split
      · exact sorted
      · next other =>
        refine List.pairwise_cons.2 ⟨fun u hu => ?_, ih rest⟩
        rcases (mem_insertSorted s u ts).1 hu with rfl | hu
        · exact Std.lt_of_le_of_ne (String.not_lt.1 notBefore) (Ne.symm other)
        · exact least u hu

/-! ### Records -/

/-- A record has a text under a key: what it has there is present, and this is its text. -/
def Offers (key : String) (record : Value) (x : String) : Prop :=
  ∃ fields v, record.entries? = some fields ∧ Value.find? key fields = some v ∧ v.isTruthy = true ∧ v.asText = .ok x

/-- What is present under a key has a text. -/
def HasText (key : String) (fields : List (Value × Value)) : Prop :=
  ∀ v, Value.find? key fields = some v → v.isTruthy = true → ∃ x, v.asText = .ok x

theorem offers_iff {record : Value} {fields : List (Value × Value)} (entries : record.entries? = some fields)
    (key x : String) :
    Offers key record x ↔ ∃ v, Value.find? key fields = some v ∧ v.isTruthy = true ∧ v.asText = .ok x := by
  constructor
  · rintro ⟨_, v, same, rest⟩
    cases entries.symm.trans same
    exact ⟨v, rest⟩
  · rintro ⟨v, rest⟩
    exact ⟨fields, v, entries, rest⟩

theorem offered?_eq_ok {record : Value} {fields : List (Value × Value)} (entries : record.entries? = some fields)
    {key : String} {o : Option String} (read : offered? key fields = .ok o) (x : String) :
    o = some x ↔ Offers key record x := by
  rw [offers_iff entries]
  rw [offered?] at read
  split at read
  · next v found =>
    split at read
    · next present =>
      split at read
      · next s text =>
        cases read
        simp [found, present, text]
      · cases read
    · next absent =>
      cases read
      simp [found, absent]
  · next missing =>
    cases read
    simp [missing]

theorem offered?_isOk_iff (key : String) (fields : List (Value × Value)) :
    (∃ o, offered? key fields = .ok o) ↔ HasText key fields := by
  rw [offered?, HasText]
  cases Value.find? key fields with
  | none => simp
  | some v =>
    cases present : v.isTruthy with
    | false => simp [present]
    | true => cases text : v.asText <;> simp [present, text]

theorem putOffered_isOk_iff (fields : List (Value × Value)) (key : String) (known : List String) :
    (∃ known', putOffered fields key known = .ok known') ↔ HasText key fields := by
  rw [← offered?_isOk_iff, putOffered]
  cases offered? key fields with
  | error f => exact iff_of_false nofun nofun
  | ok o => cases o <;> exact iff_of_true ⟨_, rfl⟩ ⟨_, rfl⟩

section

variable {fields : List (Value × Value)} {key : String} {known known' : List String}

theorem mem_putOffered {record : Value} (entries : record.entries? = some fields)
    (h : putOffered fields key known = .ok known') (x : String) :
    x ∈ known' ↔ x ∈ known ∨ Offers key record x := by
  obtain ⟨o, read, h⟩ := (bind_eq_ok_iff _ _ _).1 h
  rw [← offered?_eq_ok entries read]
  cases o with
  | none =>
    cases h
    simp
  | some s =>
    cases h
    rw [mem_insertSorted, Option.some.injEq, or_comm, eq_comm]

theorem pairwise_putOffered (h : putOffered fields key known = .ok known') (sorted : known.Pairwise (· < ·)) :
    known'.Pairwise (· < ·) := by
  obtain ⟨o, -, h⟩ := (bind_eq_ok_iff _ _ _).1 h
  cases o with
  | none =>
    cases h
    exact sorted
  | some s =>
    cases h
    exact pairwise_insertSorted sorted s

end

/-- A record is added under each key by itself. -/
theorem addEntries_eq_ok_iff (c c' : Choices) (fields : List (Value × Value)) :
    c.addEntries fields = .ok c' ↔
      ∀ q ∈ Criterion.all, putOffered fields q.key (q.offered c) = .ok (q.offered c') := by
  rw [Criterion.forall_mem_all]
  constructor
  · intro h
    obtain ⟨countries, h₁, h⟩ := (bind_eq_ok_iff _ _ _).1 h
    obtain ⟨regions, h₂, h⟩ := (bind_eq_ok_iff _ _ _).1 h
    obtain ⟨cities, h₃, h⟩ := (bind_eq_ok_iff _ _ _).1 h
    obtain ⟨isps, h₄, h⟩ := (bind_eq_ok_iff _ _ _).1 h
    obtain ⟨hostnames, h₅, h⟩ := (bind_eq_ok_iff _ _ _).1 h
    obtain ⟨names, h₆, h⟩ := (bind_eq_ok_iff _ _ _).1 h
    cases h
    exact ⟨h₁, h₂, h₃, h₄, h₅, h₆⟩
  · rintro ⟨h₁, h₂, h₃, h₄, h₅, h₆⟩
    refine (bind_eq_ok_iff _ _ _).2 ⟨_, h₁, (bind_eq_ok_iff _ _ _).2 ⟨_, h₂, ?_⟩⟩
    refine (bind_eq_ok_iff _ _ _).2 ⟨_, h₃, (bind_eq_ok_iff _ _ _).2 ⟨_, h₄, ?_⟩⟩
    exact (bind_eq_ok_iff _ _ _).2 ⟨_, h₅, (bind_eq_ok_iff _ _ _).2 ⟨_, h₆, rfl⟩⟩

theorem addEntries_isOk_iff (c : Choices) (fields : List (Value × Value)) :
    (∃ c', c.addEntries fields = .ok c') ↔ ∀ q ∈ Criterion.all, HasText q.key fields := by
  constructor
  · rintro ⟨c', h⟩ q hq
    exact (putOffered_isOk_iff fields q.key _).1 ⟨_, (addEntries_eq_ok_iff c c' fields).1 h q hq⟩
  · intro texts
    have put : ∀ q ∈ Criterion.all, ∃ known, putOffered fields q.key (q.offered c) = .ok known :=
      fun q hq => (putOffered_isOk_iff fields q.key _).2 (texts q hq)
    obtain ⟨⟨countries, h₁⟩, ⟨regions, h₂⟩, ⟨cities, h₃⟩, ⟨isps, h₄⟩, ⟨hostnames, h₅⟩, ⟨names, h₆⟩⟩ :=
      Criterion.forall_mem_all.1 put
    refine ⟨⟨countries, regions, cities, isps, hostnames, names⟩, (addEntries_eq_ok_iff _ _ _).2 ?_⟩
    exact Criterion.forall_mem_all.2 ⟨h₁, h₂, h₃, h₄, h₅, h₆⟩

theorem exists_entries_of_add {c c' : Choices} {record : Value} (h : c.add record = .ok c') :
    ∃ fields, record.entries? = some fields ∧ c.addEntries fields = .ok c' := by
  rw [add] at h
  split at h
  · next fields entries => exact ⟨fields, entries, h⟩
  · cases h

/-- What a record adds to what is known. -/
theorem mem_add {c c' : Choices} {record : Value} (h : c.add record = .ok c') {q : Criterion}
    (hq : q ∈ Criterion.all) (x : String) : x ∈ q.offered c' ↔ x ∈ q.offered c ∨ Offers q.key record x := by
  obtain ⟨fields, entries, h⟩ := exists_entries_of_add h
  exact mem_putOffered entries ((addEntries_eq_ok_iff c c' fields).1 h q hq) x

theorem pairwise_add {c c' : Choices} {record : Value} (h : c.add record = .ok c') {q : Criterion}
    (hq : q ∈ Criterion.all) (sorted : (q.offered c).Pairwise (· < ·)) : (q.offered c').Pairwise (· < ·) := by
  obtain ⟨fields, -, h⟩ := exists_entries_of_add h
  exact pairwise_putOffered ((addEntries_eq_ok_iff c c' fields).1 h q hq) sorted

/-- By induction on the records, each of which adds its own to the choices that there are. -/
theorem foldlM_add {records : List Value} {c c' : Choices} (h : records.foldlM add c = .ok c') {q : Criterion}
    (hq : q ∈ Criterion.all) :
    (∀ x, x ∈ q.offered c' ↔ x ∈ q.offered c ∨ ∃ r ∈ records, Offers q.key r x) ∧
      ((q.offered c).Pairwise (· < ·) → (q.offered c').Pairwise (· < ·)) := by
  induction records generalizing c with
  | nil =>
    cases h
    simp
  | cons r rs ih =>
    rw [List.foldlM_cons] at h
    obtain ⟨next, added, h⟩ := (bind_eq_ok_iff _ _ _).1 h
    obtain ⟨members, sorted⟩ := ih h
    refine ⟨fun x => ?_, fun before => sorted (pairwise_add added hq before)⟩
    rw [members, mem_add added hq, or_assoc, List.exists_mem_cons_iff]

theorem offered_empty {q : Criterion} (hq : q ∈ Criterion.all) : q.offered {} = [] := by
  revert q
  rw [Criterion.forall_mem_all]
  decide

/-- The choices of a list of records are the texts that the records have, in strictly increasing order. -/
theorem ofRecords_eq_ok {records : List Value} {c : Choices} (h : ofRecords records = .ok c) {q : Criterion}
    (hq : q ∈ Criterion.all) :
    (q.offered c).Pairwise (· < ·) ∧ ∀ x, x ∈ q.offered c ↔ ∃ r ∈ records, Offers q.key r x := by
  obtain ⟨members, sorted⟩ := foldlM_add h hq
  rw [offered_empty hq] at members sorted
  exact ⟨sorted .nil, fun x => (members x).trans (or_iff_right List.not_mem_nil)⟩

theorem ofRecords_isOk_iff (records : List Value) :
    (∃ c, ofRecords records = .ok c) ↔ ∀ r ∈ records, ∃ c, add {} r = .ok c := by
  rw [← fault?_eq_none_iff, ofRecords, fault?_foldlM _ _ fault?_add, List.findSome?_eq_none_iff]
  simp only [fault?_eq_none_iff]

/-! ### Lists of mappings -/

/-- Mappings cannot be added for just one reason: an integer that is present in one of them cannot be written. -/
theorem not_failsWith_ofRecords {P : Failure → Prop} (other : ¬ P (.number (.tooManyDigits none)))
    (records : List (List (Value × Value))) : ¬ FailsWith P (ofRecords (records.map .map)) := by
  have fold (c : Choices) : ¬ FailsWith P ((records.map Value.map).foldlM add c) := by
    induction records generalizing c with
    | nil => exact failsWith_ok c
    | cons r rs ih =>
      rw [List.map_cons, List.foldlM_cons]
      exact not_failsWith_bind (not_failsWith_addEntries other c r) ih
  exact fold {}

theorem eq_of_ofRecords_eq_error {records : List (List (Value × Value))} {f : Failure}
    (h : ofRecords (records.map .map) = .error f) : f = .number (.tooManyDigits none) := by
  by_contra different
  exact not_failsWith_ofRecords (P := (· ≠ .number (.tooManyDigits none))) (fun other => other rfl) records
    ⟨f, h, different⟩

theorem ofRecords_eq_error_iff (records : List (List (Value × Value))) (f : Failure) :
    ofRecords (records.map .map) = .error f ↔
      (¬ ∃ c, ofRecords (records.map .map) = .ok c) ∧ f = .number (.tooManyDigits none) := by
  constructor
  · intro h
    exact ⟨by simp [h], eq_of_ofRecords_eq_error h⟩
  · rintro ⟨fails, rfl⟩
    cases h : ofRecords (records.map .map) with
    | ok c => exact absurd ⟨c, h⟩ fails
    | error f => rw [eq_of_ofRecords_eq_error h]

theorem ofRecords_maps_isOk_iff (records : List (List (Value × Value))) :
    (∃ c, ofRecords (records.map .map) = .ok c) ↔
      ∀ r ∈ records, ∀ q ∈ Criterion.all, HasText q.key r := by
  rw [ofRecords_isOk_iff, List.forall_mem_map]
  exact forall₂_congr fun fields _ => addEntries_isOk_iff {} fields

/-- Choices that agree under every key are the same. -/
theorem eq_of_offered_eq {c d : Choices} (same : ∀ q ∈ Criterion.all, q.offered c = q.offered d) : c = d := by
  obtain ⟨countries, regions, cities, isps, hostnames, names⟩ := Criterion.forall_mem_all.1 same
  cases c
  cases d
  simp_all

/-- The order of the records and their repetitions do not matter. -/
theorem ofRecords_congr {records others : List (List (Value × Value))} (same : ∀ r, r ∈ others ↔ r ∈ records) :
    ofRecords (others.map .map) = ofRecords (records.map .map) := by
  have isOk : (∃ d, ofRecords (others.map .map) = .ok d) ↔ ∃ c, ofRecords (records.map .map) = .ok c := by
    simp only [ofRecords_maps_isOk_iff, same]
  cases h : ofRecords (records.map .map) with
  | error f =>
    rw [ofRecords_eq_error_iff] at h ⊢
    rwa [isOk]
  | ok c =>
    obtain ⟨d, h'⟩ := isOk.2 ⟨c, h⟩
    rw [h']
    refine congrArg _ (eq_of_offered_eq fun q hq => ?_)
    obtain ⟨sorted, members⟩ := ofRecords_eq_ok h hq
    obtain ⟨sorted', members'⟩ := ofRecords_eq_ok h' hq
    refine sorted'.eq_of_mem_iff sorted fun x => ?_
    simp only [members, members', List.mem_map, same]

theorem pairwise_mergeSort_of_nodup {xs : List String} (nodup : xs.Nodup) : xs.mergeSort.Pairwise (· < ·) := by
  have ordered : xs.mergeSort.Pairwise fun x y => decide (x ≤ y) = true := by
    apply List.pairwise_mergeSort
    · simp only [decide_eq_true_eq]
      exact fun _ _ _ => String.le_trans
    · simp only [Bool.or_eq_true, decide_eq_true_eq]
      exact String.le_total
  have distinct : xs.mergeSort.Nodup := (List.mergeSort_perm xs _).nodup_iff.2 nodup
  refine (ordered.and distinct).imp fun h => ?_
  exact Std.lt_of_le_of_ne (of_decide_eq_true h.1) h.2

/-- What two lists of records offer together is the sorted union of what they offer. -/
theorem ofRecords_append {records others : List (List (Value × Value))} {c d : Choices}
    (h : ofRecords (records.map .map) = .ok c) (h' : ofRecords (others.map .map) = .ok d) :
    ∃ e, ofRecords ((records ++ others).map .map) = .ok e ∧
      ∀ q ∈ Criterion.all, q.offered e = (q.offered c ∪ q.offered d).mergeSort := by
  have texts := (ofRecords_maps_isOk_iff records).1 ⟨c, h⟩
  have texts' := (ofRecords_maps_isOk_iff others).1 ⟨d, h'⟩
  obtain ⟨e, both⟩ := (ofRecords_maps_isOk_iff (records ++ others)).2 (List.forall_mem_append.2 ⟨texts, texts'⟩)
  refine ⟨e, both, fun q hq => ?_⟩
  obtain ⟨-, members⟩ := ofRecords_eq_ok h hq
  obtain ⟨sorted', members'⟩ := ofRecords_eq_ok h' hq
  obtain ⟨sorted, union⟩ := ofRecords_eq_ok both hq
  refine sorted.eq_of_mem_iff (pairwise_mergeSort_of_nodup (sorted'.nodup.union _)) fun x => ?_
  rw [union, List.map_append, List.mem_mergeSort, List.mem_union_iff, members, members']
  simp only [List.mem_append, or_and_right, exists_or]

/--
What a list of mappings offers, if everything present under the six keys has a text; an integer with too many digits
has none, and that is the only fault. Under each key the choices are in strictly increasing order, and they are the
texts of what is present there. So neither the order of the records nor repetitions matter, and two lists offer
together the sorted union of what each offers.
-/
theorem ofRecords_lists (records : List (List (Value × Value))) :
    ((∃ c, ofRecords (records.map .map) = .ok c) ↔ ∀ r ∈ records, ∀ q ∈ Criterion.all, HasText q.key r) ∧
    (∀ f, ofRecords (records.map .map) = .error f → f = .number (.tooManyDigits none)) ∧
    (∀ c, ofRecords (records.map .map) = .ok c → ∀ q ∈ Criterion.all,
      (q.offered c).Pairwise (· < ·) ∧ ∀ x, x ∈ q.offered c ↔ ∃ r ∈ records, Offers q.key (.map r) x) ∧
    ∀ others : List (List (Value × Value)),
      ((∀ r, r ∈ others ↔ r ∈ records) → ofRecords (others.map .map) = ofRecords (records.map .map)) ∧
      ∀ c d, ofRecords (records.map .map) = .ok c → ofRecords (others.map .map) = .ok d →
        ∃ e, ofRecords ((records ++ others).map .map) = .ok e ∧
          ∀ q ∈ Criterion.all, q.offered e = (q.offered c ∪ q.offered d).mergeSort := by
  refine ⟨ofRecords_maps_isOk_iff records, ?_, ?_, ?_⟩
  · intro f h
    exact eq_of_ofRecords_eq_error h
  · intro c h q hq
    simpa using ofRecords_eq_ok h hq
  · intro others
    exact ⟨ofRecords_congr, fun c d h h' => ofRecords_append h h'⟩

/-- Two records with one text under a key, once as a truth value, and nothing present under another. -/
theorem ofRecords_lists_colliding :
    let one : List (Value × Value) := [(.text "isp", .bool true), (.text "city", .text "")]
    let other : List (Value × Value) := [(.text "isp", .text "True"), (.text "country", .text "Norway")]
    ∃ c e, ofRecords [.map one, .map other] = .ok c ∧ ofRecords [.map other, .map one, .map other] = .ok c ∧
      c.isps = ["True"] ∧ c.cities = [] ∧ ofRecords [.map one, .map other, .map other] = .ok e ∧
        e.countries = (["Norway"] ∪ ["Norway"]).mergeSort := by
  intro one other
  obtain ⟨-, -, -, both⟩ := ofRecords_lists [one, other]
  have repeated := (both [other, one, other]).1 (by simp [or_comm])
  obtain ⟨e, joined, union⟩ := (both [other]).2 _ _ rfl rfl
  exact ⟨_, e, rfl, repeated, rfl, rfl, joined, union _ (.head _)⟩

/-- Not every list of mappings offers something: an integer under one of the keys may have too many digits. -/
theorem ofRecords_not_total :
    ofRecords [.map [(.text "country", .int (Int.ofNat (Nat.pow 16 3572)))]] =
      .error (.number (.tooManyDigits none)) := by
  refine (ofRecords_eq_error_iff [_] _).2 ⟨?_, rfl⟩
  rw [ofRecords_maps_isOk_iff]
  intro texts
  obtain ⟨x, text⟩ := texts _ (.head _) _ (.head _) _ rfl (by decide +kernel)
  have written (n : Int) : (Value.int n).asText = writeInteger n := rfl
  rw [written, writeInteger, if_neg (by decide +kernel)] at text
  cases text

end Choices
end TunnelSettings
