import TunnelSettings.Proofs.Fields
import TunnelSettings.Settings.Override

/-!
Overrides as transactions. An override is taken as a whole or leaves everything as it was, and a refusal
of an override of valid settings names a group in which the fragment sets a field.
-/
namespace TunnelSettings

theorem Group.mem_all (g : Group) : g ∈ Group.all := by
  cases g <;> decide

namespace Settings

variable (servers : Servers) (ipv6 : Bool)

theorem validate_eq_ok_iff (s : Settings) :
    s.validate servers ipv6 = .ok () ↔ ∀ g, s.groupComplaint? servers ipv6 g = none := by
  have none_iff : s.complaint? servers ipv6 = none ↔ ∀ g, s.groupComplaint? servers ipv6 g = none := by
    simp [complaint?, Group.mem_all]
  rw [← none_iff, validate]
  cases s.complaint? servers ipv6 <;> simp

/-- The group that is reported is the first one with a complaint. -/
theorem validate_eq_error_iff (s : Settings) (g : Group) (c : Complaint) :
    s.validate servers ipv6 = .error (.invalid g c) ↔
      s.groupComplaint? servers ipv6 g = some c ∧
      ∃ before after, Group.all = before ++ g :: after ∧
        ∀ h ∈ before, s.groupComplaint? servers ipv6 h = none := by
  have some_iff : s.validate servers ipv6 = .error (.invalid g c) ↔
      s.complaint? servers ipv6 = some (g, c) := by
    rw [validate]
    cases s.complaint? servers ipv6 <;> simp [Prod.ext_iff]
  rw [some_iff, complaint?, List.findSome?_eq_some_iff]
  constructor
  · rintro ⟨before, h, after, split, found, clean⟩
    obtain ⟨complaint, rfl⟩ : s.groupComplaint? servers ipv6 h = some c ∧ h = g := by
      simpa using found
    exact ⟨complaint, before, after, split, by simpa using clean⟩
  · rintro ⟨found, before, after, split, clean⟩
    exact ⟨before, g, after, split, by simp [found], by simpa using clean⟩

/-- Validation fails in no other way than by a complaint about a group. -/
theorem validate_cases (s : Settings) :
    s.validate servers ipv6 = .ok () ∨ ∃ g c, s.validate servers ipv6 = .error (.invalid g c) := by
  rw [validate]
  cases s.complaint? servers ipv6 with
  | none => exact .inl rfl
  | some found => exact .inr ⟨found.1, found.2, rfl⟩

/-- Settings with the same complaint about every group are judged the same. -/
theorem validate_congr {s t : Settings}
    (same : ∀ g, s.groupComplaint? servers ipv6 g = t.groupComplaint? servers ipv6 g) :
    s.validate servers ipv6 = t.validate servers ipv6 := by
  have complaints : s.complaint? servers ipv6 = t.complaint? servers ipv6 := by
    simp only [complaint?, same]
  rw [validate, validate, complaints]

/-- Trying a fragment group by group on a copy is laying the fragment on top. -/
theorem foldl_overlayGroup (fragment s : Settings) :
    Group.all.foldl (overlayGroup fragment) s = s.overlay fragment := rfl

/-- The copy is checked before anything is kept of it. -/
theorem run_putOnTop (s other : Settings) :
    (putOnTop other servers ipv6).run s =
      match (s.overlay other).validate servers ipv6 with
      | .ok () => (.ok (), s.overlay other)
      | .error (.invalid g c) => (.error (.rejected g c), s)
      | .error f => (.error f, s) := by
  rw [← foldl_overlayGroup other s]
  change ExceptT.run (match (Group.all.foldl (overlayGroup other) s).validate servers ipv6 with
    | .ok () => (set (Group.all.foldl (overlayGroup other) s) : Change Unit)
    | .error (.invalid g c) => throw (Failure.rejected g c)
    | .error f => throw f) s = _
  split <;> rfl

theorem putOnTop_of_valid (s other : Settings) (h : (s.overlay other).validate servers ipv6 = .ok ()) :
    (putOnTop other servers ipv6).run s = (.ok (), s.overlay other) := by
  rw [run_putOnTop, h]

theorem putOnTop_of_invalid (s other : Settings) (g : Group) (c : Complaint)
    (h : (s.overlay other).validate servers ipv6 = .error (.invalid g c)) :
    (putOnTop other servers ipv6).run s = (.error (.rejected g c), s) := by
  rw [run_putOnTop, h]

theorem putOnTop_eq_ok_iff (s other t : Settings) :
    (putOnTop other servers ipv6).run s = (.ok (), t) ↔
      (s.overlay other).validate servers ipv6 = .ok () ∧ t = s.overlay other := by
  rcases validate_cases servers ipv6 (s.overlay other) with valid | ⟨g, c, invalid⟩
  · rw [putOnTop_of_valid servers ipv6 s other valid]
    exact ⟨fun taken => ⟨valid, (congrArg Prod.snd taken).symm⟩, fun ⟨_, e⟩ => e ▸ rfl⟩
  · rw [putOnTop_of_invalid servers ipv6 s other g c invalid, invalid]
    exact ⟨nofun, nofun⟩

theorem override_eq_ok_iff (s other patched : Settings) :
    s.override other servers ipv6 = .ok patched ↔
      (s.overlay other).validate servers ipv6 = .ok () ∧ patched = s.overlay other := by
  rw [override, run_putOnTop]
  rcases validate_cases servers ipv6 (s.overlay other) with valid | ⟨g, c, invalid⟩
  · simp [valid, eq_comm]
  · simp [invalid]

/-- A group in which a fragment sets no field stays as it was. -/
theorem sameGroup_overlay (s other : Settings) (g : Group)
    (h : ∀ path ∈ fieldPaths, path.head? = some g.key → other.isSet path = false) :
    SameGroup (s.overlay other) s g := by
  apply sameGroup_of_field
  intro path hp hg
  rw [field_overlay s other path hp, h path hp hg]
  rfl

/-- If a fragment brings a complaint about a group that had none, it sets a field of that group. -/
theorem exists_isSet_of_complaint (s other : Settings) (g : Group) (c : Complaint)
    (before : s.groupComplaint? servers ipv6 g = none)
    (after : (s.overlay other).groupComplaint? servers ipv6 g = some c) :
    ∃ path ∈ fieldPaths, path.head? = some g.key ∧ other.isSet path = true := by
  by_contra untouched
  have same : SameGroup (s.overlay other) s g := by
    apply sameGroup_overlay
    intro path hp hg
    by_contra set
    exact untouched ⟨path, hp, hg, by simpa using set⟩
  rw [same.groupComplaint?_eq, before] at after
  cases after

/-- An override is taken as a whole, or refused with the complaint about the patched copy while nothing
changes; if the settings were valid, the fragment sets a field of the group that is named, and no group
before that one has a complaint. -/
theorem putOnTop_all_or_nothing (s other : Settings) :
    ∃ patched : Settings,
      (∀ path ∈ fieldPaths,
        patched.field path = if other.isSet path then other.field path else s.field path) ∧
      ((patched.validate servers ipv6 = .ok () ∧
          (putOnTop other servers ipv6).run s = (.ok (), patched)) ∨
        ∃ g c, patched.validate servers ipv6 = .error (.invalid g c) ∧
          (putOnTop other servers ipv6).run s = (.error (.rejected g c), s) ∧
          (s.validate servers ipv6 = .ok () →
            (∃ path ∈ fieldPaths, path.head? = some g.key ∧ other.isSet path = true) ∧
            ∃ before after, Group.all = before ++ g :: after ∧
              ∀ h ∈ before, patched.groupComplaint? servers ipv6 h = none)) := by
  refine ⟨s.overlay other, field_overlay s other, ?_⟩
  rcases validate_cases servers ipv6 (s.overlay other) with valid | ⟨g, c, invalid⟩
  · exact .inl ⟨valid, putOnTop_of_valid servers ipv6 s other valid⟩
  · refine .inr ⟨g, c, invalid, putOnTop_of_invalid servers ipv6 s other g c invalid, ?_⟩
    intro valid
    obtain ⟨found, first⟩ := (validate_eq_error_iff servers ipv6 _ g c).1 invalid
    have clean := (validate_eq_ok_iff servers ipv6 s).1 valid g
    exact ⟨exists_isSet_of_complaint servers ipv6 s other g c clean found, first⟩

end Settings
end TunnelSettings
