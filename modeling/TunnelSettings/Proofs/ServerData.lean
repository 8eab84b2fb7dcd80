import TunnelSettings.Proofs.Choices
import TunnelSettings.Proofs.SmallLetters

/-!
Server data. Every choice of a provider comes from the records of an entry for it, where the key of the entry may
spell its name in any letter case. Where all entries for the provider agree, as they do if there is just one, every
text of their records is a choice. The filters of a selection are accepted on the same condition.
-/
namespace TunnelSettings

open Text

namespace Servers

/-- The key of an entry spells the name of a provider, in any letter case. -/
def IsFor (provider : String) (e : Value × Value) : Prop :=
  ∃ name, e.1.asText = .ok name ∧ lower name = lower provider

/-- The list of records has a text under a key. -/
def Lists (key : String) (records : Value) (x : String) : Prop :=
  ∃ rs, records = .list rs ∧ ∃ r ∈ rs, Choices.Offers key r x

/-- The list of records has a value under a key, up to letter case. -/
def ListsLike (key : String) (records : Value) (v : String) : Prop :=
  ∃ x, Lists key records x ∧ lower v = lower x

/-- An entry for the provider has records of a kind. -/
def Somewhere (provider : String) (entries : List (Value × Value)) (P : Value → Prop) : Prop :=
  ∃ e ∈ entries, IsFor provider e ∧ P e.2

/-- What holds of the records of one entry for the provider holds of the records of each. -/
def Agree (provider : String) (entries : List (Value × Value)) (P : Value → Prop) : Prop :=
  ∀ e ∈ entries, ∀ d ∈ entries, IsFor provider e → IsFor provider d → P e.2 → P d.2

/-- Providers with lists of records, or with null for no records. -/
def IsServerData (entries : List (Value × Value)) : Prop :=
  ∀ e ∈ entries, e.2 = .null ∨ ∃ rs, e.2 = .list rs ∧ ∀ r ∈ rs, ∃ fields, r = .map fields

/-- Every provider has a name, and everything present under a key of the records has a text. -/
def HasTexts (entries : List (Value × Value)) : Prop :=
  ∀ e ∈ entries, (∃ name, e.1.asText = .ok name) ∧
    ∀ rs, e.2 = .list rs → ∀ fields, .map fields ∈ rs → ∀ q ∈ Criterion.all, Choices.HasText q.key fields

theorem agree_of_single {provider : String} {entries : List (Value × Value)} {P : Value → Prop}
    (single : ∀ e ∈ entries, ∀ d ∈ entries, IsFor provider e → IsFor provider d → e = d) :
    Agree provider entries P := by
  intro e he d hd forE forD holds
  rw [← single e he d hd forE forD]
  exact holds

/-! ### Reading one entry -/

theorem members_list (rs : List Value) : members (.list rs) = .ok rs := by
  cases rs <;> rfl

theorem lookup_cons_eq (name : String) (c : Choices) (table : List (String × Choices)) (other : String) :
    ((name, c) :: table).lookup other = if other = name then some c else table.lookup other := by
  by_cases found : other = name
  · rw [found, List.lookup_cons_self, if_pos rfl]
  · rw [if_neg found, List.lookup_cons, beq_eq_false_iff_ne.2 found]

theorem lookup_put (name : String) (c : Choices) (table : List (String × Choices)) (other : String) :
    (put name c table).lookup other = if other = name then some c else table.lookup other := by
  induction table with
  | nil => exact lookup_cons_eq name c [] other
  | cons entry rest ih =>
    obtain ⟨n, d⟩ := entry
    by_cases same : n = name
    · subst n
      rw [put, if_pos rfl, lookup_cons_eq, lookup_cons_eq]
      by_cases found : other = name <;> simp [found]
    · rw [put, if_neg same, lookup_cons_eq, lookup_cons_eq, ih]
      by_cases found : other = n
      · subst n
        simp [same]
      · simp [found]

theorem addEntry_eq_ok_iff (s s' : Servers) (e : Value × Value) :
    s.addEntry e.1 e.2 = .ok s' ↔
      ∃ name rs c, e.1.asText = .ok name ∧ members e.2 = .ok rs ∧ Choices.ofRecords rs = .ok c ∧
        s' = ⟨put (lower name) c s.providers⟩ := by
  constructor
  · intro h
    obtain ⟨name, named, h⟩ := (bind_eq_ok_iff _ _ _).1 h
    obtain ⟨rs, listed, h⟩ := (bind_eq_ok_iff _ _ _).1 h
    obtain ⟨c, read, h⟩ := (bind_eq_ok_iff _ _ _).1 h
    cases h
    exact ⟨name, rs, c, (mapError_eq_ok_iff _ _ _).1 named, listed, read, rfl⟩
  · rintro ⟨name, rs, c, text, listed, read, rfl⟩
    simp only [addEntry, text, Except.mapError, listed, read, bind, Except.bind]
    rfl

/-- What an entry does: its provider then has the choices of its records, and every other provider has what it
had. -/
theorem choices_addEntry {s s' : Servers} {e : Value × Value} (h : s.addEntry e.1 e.2 = .ok s')
    (provider : String) :
    (IsFor provider e ∧ ∃ rs, members e.2 = .ok rs ∧ Choices.ofRecords rs = .ok (s'.choices provider)) ∨
      ¬ IsFor provider e ∧ s'.choices provider = s.choices provider := by
  obtain ⟨name, rs, c, text, listed, read, rfl⟩ := (addEntry_eq_ok_iff s s' e).1 h
  rw [choices, lookup_put]
  by_cases same : lower provider = lower name
  · left
    rw [if_pos same]
    exact ⟨⟨name, text, same.symm⟩, rs, listed, read⟩
  · right
    rw [if_neg same]
    refine ⟨?_, rfl⟩
    rintro ⟨name', text', same'⟩
    rw [text] at text'
    cases text'
    exact same same'.symm

/-- By induction on the entries. A provider ends up with what the last entry for it lists, unless there is none. -/
theorem choices_foldlM {entries : List (Value × Value)} {s s' : Servers}
    (h : entries.foldlM (fun s e => s.addEntry e.1 e.2) s = .ok s') (provider : String) :
    (∃ before e after, entries = before ++ e :: after ∧ IsFor provider e ∧ (∀ d ∈ after, ¬ IsFor provider d) ∧
        ∃ rs, members e.2 = .ok rs ∧ Choices.ofRecords rs = .ok (s'.choices provider)) ∨
      (∀ e ∈ entries, ¬ IsFor provider e) ∧ s'.choices provider = s.choices provider := by
  induction entries generalizing s with
  | nil =>
    cases h
    exact .inr ⟨nofun, rfl⟩
  | cons e rest ih =>
    rw [List.foldlM_cons] at h
    obtain ⟨next, added, h⟩ := (bind_eq_ok_iff _ _ _).1 h
    rcases ih h with ⟨before, d, after, rfl, found⟩ | ⟨others, kept⟩
    · exact .inl ⟨e :: before, d, after, rfl, found⟩
    · rw [kept]
      rcases choices_addEntry added provider with ⟨isFor, found⟩ | ⟨other, same⟩
      · exact .inl ⟨[], e, rest, rfl, isFor, others, found⟩
      · exact .inr ⟨List.forall_mem_cons.2 ⟨other, others⟩, same⟩

theorem ofValue_map (entries : List (Value × Value)) :
    ofValue (.map entries) = entries.foldlM (fun s e => s.addEntry e.1 e.2) {} := by
  cases entries <;> rfl

/-! ### Reading all entries -/

theorem addEntry_isOk_iff (e : Value × Value) :
    (∃ s, addEntry {} e.1 e.2 = .ok s) ↔
      (∃ name, e.1.asText = .ok name) ∧ ∃ rs, members e.2 = .ok rs ∧ ∃ c, Choices.ofRecords rs = .ok c := by
  simp only [addEntry_eq_ok_iff]
  constructor
  · rintro ⟨_, name, rs, c, text, listed, read, -⟩
    exact ⟨⟨name, text⟩, rs, listed, c, read⟩
  · rintro ⟨⟨name, text⟩, rs, listed, c, read⟩
    exact ⟨_, name, rs, c, text, listed, read, rfl⟩

theorem ofValue_isOk_iff (entries : List (Value × Value)) :
    (∃ s, ofValue (.map entries) = .ok s) ↔ ∀ e ∈ entries, ∃ s, addEntry {} e.1 e.2 = .ok s := by
  rw [← fault?_eq_none_iff, ofValue_map, fault?_foldlM _ _ fault?_addEntry, List.findSome?_eq_none_iff]
  simp only [fault?_eq_none_iff]

/-- Server data can be read unless something in it has no text. -/
theorem IsServerData.isOk_iff {entries : List (Value × Value)} (data : IsServerData entries) :
    (∃ s, ofValue (.map entries) = .ok s) ↔ HasTexts entries := by
  rw [ofValue_isOk_iff]
  apply forall₂_congr
  intro e he
  rw [addEntry_isOk_iff]
  apply and_congr_right
  intro _
  rcases data e he with none_listed | ⟨rs, listed, records⟩
  · rw [none_listed]
    exact iff_of_true ⟨[], rfl, {}, rfl⟩ nofun
  · rw [listed, members_list]
    constructor
    · rintro ⟨_, ⟨⟩, read⟩ _ ⟨⟩ fields hf
      exact (Choices.addEntries_isOk_iff {} fields).1 ((Choices.ofRecords_isOk_iff rs).1 read _ hf)
    · intro texts
      use rs, rfl
      rw [Choices.ofRecords_isOk_iff]
      intro r hr
      obtain ⟨fields, rfl⟩ := records r hr
      exact (Choices.addEntries_isOk_iff {} fields).2 (texts rs rfl fields hr)

/-! ### What is offered -/

theorem choices_lower (s : Servers) (provider : String) : s.choices (lower provider) = s.choices provider := by
  rw [choices, choices, lower_lower]

section

variable {entries : List (Value × Value)} {s : Servers}

theorem IsServerData.exists_offers_iff (data : IsServerData entries) {e : Value × Value} (he : e ∈ entries)
    {rs : List Value} (listed : members e.2 = .ok rs) (key x : String) :
    (∃ r ∈ rs, Choices.Offers key r x) ↔ Lists key e.2 x := by
  rcases data e he with null | ⟨rs', list, -⟩
  · rw [null] at listed ⊢
    cases listed
    simp [Lists]
  · rw [list, members_list] at listed
    cases listed
    simp [Lists, list]

/-- What a provider offers is what an entry for it lists, and nothing if there is none. -/
theorem IsServerData.offered (data : IsServerData entries) (h : ofValue (.map entries) = .ok s)
    (provider : String) :
    (∃ e ∈ entries, IsFor provider e ∧ ∀ q ∈ Criterion.all, ∀ x,
        x ∈ q.offered (s.choices provider) ↔ Lists q.key e.2 x) ∨
      (∀ e ∈ entries, ¬ IsFor provider e) ∧ ∀ q ∈ Criterion.all, q.offered (s.choices provider) = [] := by
  rw [ofValue_map] at h
  rcases choices_foldlM h provider with
    ⟨before, e, after, split, isFor, -, rs, listed, read⟩ | ⟨none_for, unknown⟩
  · left
    have he : e ∈ entries := by simp [split]
    use e, he, isFor
    intro q hq x
    rw [(Choices.ofRecords_eq_ok read hq).2, data.exists_offers_iff he listed]
  · right
    use none_for
    intro q hq
    rw [unknown]
    exact Choices.offered_empty hq

theorem pairwise_offered (h : ofValue (.map entries) = .ok s) (provider : String) {q : Criterion}
    (hq : q ∈ Criterion.all) : (q.offered (s.choices provider)).Pairwise (· < ·) := by
  rw [ofValue_map] at h
  rcases choices_foldlM h provider with ⟨-, e, -, -, -, -, rs, -, read⟩ | ⟨-, unknown⟩
  · exact (Choices.ofRecords_eq_ok read hq).1
  · have nothing : q.offered (s.choices provider) = [] := by
      rw [unknown]
      exact Choices.offered_empty hq
    rw [nothing]
    exact .nil

/-- A provider offers something only if an entry for it lists it, and it does if moreover the entries agree. -/
theorem IsServerData.exists_mem_offered (data : IsServerData entries) (h : ofValue (.map entries) = .ok s)
    (provider : String) {q : Criterion} (hq : q ∈ Criterion.all) (T : String → Prop) :
    ((∃ x ∈ q.offered (s.choices provider), T x) →
        Somewhere provider entries fun records => ∃ x, Lists q.key records x ∧ T x) ∧
      (Agree provider entries (fun records => ∃ x, Lists q.key records x ∧ T x) →
        (Somewhere provider entries fun records => ∃ x, Lists q.key records x ∧ T x) →
        ∃ x ∈ q.offered (s.choices provider), T x) := by
  rcases data.offered h provider with ⟨d, hd, isFor, offered⟩ | ⟨none_for, nothing⟩
  · have listed := offered q hq
    constructor
    · rintro ⟨x, hx, holds⟩
      exact ⟨d, hd, isFor, x, (listed x).1 hx, holds⟩
    · rintro agree ⟨e, he, for_e, found⟩
      obtain ⟨x, hx, holds⟩ := agree e he d hd for_e isFor found
      exact ⟨x, (listed x).2 hx, holds⟩
  · rw [nothing q hq]
    constructor
    · rintro ⟨x, hx, -⟩
      exact absurd hx List.not_mem_nil
    · rintro - ⟨e, he, for_e, -⟩
      exact absurd for_e (none_for e he)

end

/--
Server data is read unless something in it has no text. The choices of a provider are then in strictly increasing
order. Each of them is in the records of an entry for the provider, whatever the letter case of its key, and what
is in the records of an entry is a choice if all entries for the provider agree on it, as they do if there is one.
Filters are not checked for the custom provider. For any other, only values that are in the records of an entry,
up to letter case, are accepted, and they are if the entries agree on them.
-/
theorem choices_of_serverData {entries : List (Value × Value)} (data : IsServerData entries) :
    ((∃ s, ofValue (.map entries) = .ok s) ↔ HasTexts entries) ∧
      ∀ s, ofValue (.map entries) = .ok s → ∀ provider,
        (∀ q ∈ Criterion.all,
          (q.offered (s.choices provider)).Pairwise (· < ·) ∧ ∀ x,
            (x ∈ q.offered (s.choices provider) → Somewhere provider entries (Lists q.key · x)) ∧
            (Agree provider entries (Lists q.key · x) → Somewhere provider entries (Lists q.key · x) →
              x ∈ q.offered (s.choices provider))) ∧
        ∀ selection : ServerSelection,
          (lower provider = Catalogue.custom → selection.complaint? provider s = none) ∧
          (lower provider ≠ Catalogue.custom →
            (selection.complaint? provider s = none →
              ∀ q ∈ Criterion.all, ∀ values ∈ q.wanted selection, ∀ v ∈ values,
                Somewhere provider entries (ListsLike q.key · v)) ∧
            ((∀ q ∈ Criterion.all, ∀ values ∈ q.wanted selection, ∀ v ∈ values,
                Agree provider entries (ListsLike q.key · v) ∧
                  Somewhere provider entries (ListsLike q.key · v)) →
              selection.complaint? provider s = none)) := by
  constructor
  · exact data.isOk_iff
  intro s h provider
  constructor
  · intro q hq
    constructor
    · exact pairwise_offered h provider hq
    · intro x
      have mem := data.exists_mem_offered h provider hq (· = x)
      simpa only [exists_eq_right] using mem
  · intro selection
    rw [ServerSelection.complaint?_eq_none_iff, choices_lower, ServerSelection.offered_iff_forall]
    constructor
    · intro custom other
      exact absurd custom other
    · intro other
      rw [forall_prop_of_true other]
      constructor
      · intro known q hq values hvalues v hv
        exact (data.exists_mem_offered h provider hq _).1 (known q hq values hvalues v hv)
      · intro listed q hq values hvalues v hv
        obtain ⟨agree, found⟩ := listed q hq values hvalues v hv
        exact (data.exists_mem_offered h provider hq _).2 agree found

/-- A list of servers, one in each of some countries. -/
def inCountries (countries : List String) : Value :=
  .list (countries.map fun country => .map [(.text "country", .text country)])

theorem isServerData_inCountries (es : List (String × List String)) :
    IsServerData (es.map fun e => (.text e.1, inCountries e.2)) := by
  intro e he
  obtain ⟨e, -, rfl⟩ := List.mem_map.1 he
  refine .inr ⟨_, rfl, ?_⟩
  intro r hr
  obtain ⟨country, -, rfl⟩ := List.mem_map.1 hr
  exact ⟨_, rfl⟩

/-- Two countries of one provider, asked for in other letter case. -/
theorem choices_of_serverData_northern :
    let entries := [(.text "Mullvad", inCountries ["Sweden", "Norway"])]
    IsServerData entries ∧ ∃ s, ofValue (.map entries) = .ok s ∧ "Sweden" ∈ (s.choices "MULLVAD").countries ∧
      ({ countries := some ["norway"] } : ServerSelection).complaint? "MULLVAD" s = none := by
  intro entries
  have data : IsServerData entries := isServerData_inCountries [("Mullvad", ["Sweden", "Norway"])]
  have mullvad : IsFor "MULLVAD" (.text "Mullvad", inCountries ["Sweden", "Norway"]) :=
    ⟨"Mullvad", rfl, by decide +kernel⟩
  have agree (P : Value → Prop) : Agree "MULLVAD" entries P := by
    apply agree_of_single
    intro e he d hd _ _
    rw [List.mem_singleton.1 he, List.mem_singleton.1 hd]
  have sweden : Lists "country" (inCountries ["Sweden", "Norway"]) "Sweden" :=
    ⟨_, rfl, _, .head _, _, _, rfl, rfl, rfl, rfl⟩
  have norway : Lists "country" (inCountries ["Sweden", "Norway"]) "Norway" :=
    ⟨_, rfl, _, .tail _ (.head _), _, _, rfl, rfl, rfl, rfl⟩
  obtain ⟨offered, filters⟩ := (choices_of_serverData data).2 _ rfl "MULLVAD"
  refine ⟨data, _, rfl, ?_, ?_⟩
  · exact ((offered _ (.head _)).2 "Sweden").2 (agree _) ⟨_, .head _, mullvad, sweden⟩
  · apply ((filters { countries := some ["norway"] }).2 (by decide +kernel)).2
    rw [Criterion.forall_mem_all]
    refine ⟨?_, nofun, nofun, nofun, nofun, nofun⟩
    rintro values ⟨⟩ v hv
    rw [List.mem_singleton.1 hv]
    exact ⟨agree _, _, .head _, mullvad, "Norway", norway, by decide +kernel⟩

/-- Of two keys for one provider the first loses its records, so that what they have is refused; and the custom
provider has no records at all but may be asked for anything. -/
theorem loses_choices :
    let entries := [(.text "Mullvad", inCountries ["Sweden"]), (.text "mullvad", inCountries ["Norway"])]
    IsServerData entries ∧ Somewhere "mullvad" entries (Lists "country" · "Sweden") ∧
      ¬ Somewhere "custom" entries (ListsLike "country" · "Atlantis") ∧
      ∃ s, ofValue (.map entries) = .ok s ∧ (s.choices "mullvad").countries = ["Norway"] ∧
        ({ countries := some ["Sweden"] } : ServerSelection).complaint? "mullvad" s ≠ none ∧
        ({ countries := some ["Atlantis"] } : ServerSelection).complaint? "custom" s = none := by
  intro entries
  refine ⟨isServerData_inCountries [("Mullvad", ["Sweden"]), ("mullvad", ["Norway"])], ?_, ?_, ?_⟩
  · exact ⟨_, .head _, ⟨"Mullvad", rfl, by decide +kernel⟩, _, rfl, _, .head _, _, _, rfl, rfl, rfl, rfl⟩
  · rintro ⟨e, he, ⟨name, text, same⟩, -⟩
    rcases List.mem_pair.1 he with rfl | rfl
    · cases text
      exact absurd same (by decide +kernel)
    · cases text
      exact absurd same (by decide +kernel)
  · exact ⟨_, rfl, by decide +kernel, by decide +kernel, by decide +kernel⟩

end Servers
end TunnelSettings
