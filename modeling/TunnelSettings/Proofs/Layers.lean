import TunnelSettings.Proofs.Overrides

/-!
Layers, overrides and defaults. Layers lie on each other associatively, so two overrides in a row are one,
and it does not matter whether defaults are filled in before a fragment is put on top or after, except for
the one default that is taken from another field: the providers whose servers are updated are those of the
tunnel as it was known by then.
-/
namespace TunnelSettings

namespace Settings

/-- Layers can be put together from above or from below. -/
theorem merge_assoc (a b c : Settings) : (a.merge b).merge c = a.merge (b.merge c) := by
  refine ext_field _ _ fun path h => ?_
  rw [field_merge _ c path h, isSet_merge a b path h, field_merge a b path h, field_merge a _ path h,
    field_merge b c path h]
  cases a.isSet path <;> cases b.isSet path <;> rfl

theorem isSet_unset : ∀ path ∈ fieldPaths, ({} : Settings).isSet path = false := by decide +kernel

/-- A layer that sets nothing is not seen from above. -/
theorem merge_unset (s : Settings) : s.merge {} = s := by
  refine ext_field _ _ fun path h => ?_
  rw [field_merge s _ path h]
  split
  · rfl
  · next unset =>
    rw [(isSet_eq_false_iff _ _).1 (isSet_unset path h),
      (isSet_eq_false_iff _ _).1 (Bool.eq_false_iff.2 unset)]

/-- A layer that sets nothing hides nothing. -/
theorem unset_merge (s : Settings) : ({} : Settings).merge s = s := by
  refine ext_field _ _ fun path h => ?_
  rw [field_merge _ s path h, isSet_unset path h]
  rfl

theorem merge_self (s : Settings) : s.merge s = s := by
  refine ext_field _ _ fun path h => ?_
  rw [field_merge s s path h, ite_self]

/-- Putting a fragment on top of settings is putting the settings below it. -/
theorem overlay_eq_merge (s other : Settings) : s.overlay other = other.merge s := rfl

/-- Two fragments on top of each other are one, the upper one merged with the lower one. -/
theorem overlay_overlay (s o p : Settings) : (s.overlay o).overlay p = s.overlay (p.merge o) :=
  (merge_assoc p o s).symm

/-- A fragment that is on top already changes nothing. -/
theorem overlay_again (s o : Settings) : (s.overlay o).overlay o = s.overlay o := by
  rw [overlay_overlay, merge_self]

section Overrides

variable {servers : Servers} {ipv6 : Bool} {s t u o p : Settings}

/-- If two overrides are taken one after the other, the one that does both is taken. -/
theorem putOnTop_merge (taken : (putOnTop o servers ipv6).run s = (.ok (), t))
    (next : (putOnTop p servers ipv6).run t = (.ok (), u)) :
    (putOnTop (p.merge o) servers ipv6).run s = (.ok (), u) := by
  obtain ⟨-, rfl⟩ := (putOnTop_eq_ok_iff ..).1 taken
  obtain ⟨valid, rfl⟩ := (putOnTop_eq_ok_iff ..).1 next
  rw [overlay_overlay] at valid ⊢
  exact putOnTop_of_valid servers ipv6 s _ valid

/-- An override that was taken is taken again. -/
theorem putOnTop_again (taken : (putOnTop o servers ipv6).run s = (.ok (), t)) :
    (putOnTop o servers ipv6).run t = (.ok (), t) := by
  obtain ⟨valid, rfl⟩ := (putOnTop_eq_ok_iff ..).1 taken
  exact (putOnTop_eq_ok_iff ..).2 ⟨(overlay_again s o).symm ▸ valid, (overlay_again s o).symm⟩

end Overrides

/--
Merging is associative and idempotent, and settings in which nothing is set make no difference on either
side; a merge keeps what is set and sets what is set in either. Putting groups on top of each other is
merging the other way round. So two overrides that are taken in a row are one that is taken, and one that
was taken can be taken again and changes nothing.
-/
theorem merge_laws (a b c : Settings) :
    a.merge (b.merge c) = (a.merge b).merge c ∧
      a.merge {} = a ∧ ({} : Settings).merge a = a ∧ a.merge a = a ∧
      (∀ path ∈ fieldPaths, (a.isSet path = true → (a.merge b).field path = a.field path) ∧
        ((a.merge b).isSet path = true ↔ a.isSet path = true ∨ b.isSet path = true)) ∧
      Group.all.foldl (overlayGroup b) a = b.merge a ∧
      ∀ (servers : Servers) (ipv6 : Bool) (s o p t : Settings),
        (putOnTop o servers ipv6).run s = (.ok (), t) →
          (∀ u, (putOnTop p servers ipv6).run t = (.ok (), u) →
            (putOnTop (p.merge o) servers ipv6).run s = (.ok (), u)) ∧
          (putOnTop o servers ipv6).run t = (.ok (), t) := by
  refine ⟨(merge_assoc a b c).symm, merge_unset a, unset_merge a, merge_self a, fun path h => ⟨?_, ?_⟩,
    foldl_overlayGroup b a, fun servers ipv6 s o p t taken => ?_⟩
  · intro set
    rw [field_merge a b path h, if_pos set]
  · rw [isSet_merge a b path h, Bool.or_eq_true]
  · exact ⟨fun u next => putOnTop_merge taken next, putOnTop_again taken⟩

/-- A fragment that names a provider and nothing else. -/
def namedProvider (name : String) : Settings := { vpn := { provider := { name } } }

/-- A fragment for the logged level and the time zone. -/
def quietFragment : Settings := { log := { level := "error" }, system := { timezone := "UTC" } }

theorem merge_laws_quietFragment :
    (quietFragment.merge { log := { level := "debug" } }).field ["log", "level"] = .text "error" ∧
      ∃ t u, (putOnTop quietFragment {} false).run (namedProvider "custom").withDefaults = (.ok (), t) ∧
        (putOnTop { log := { level := "debug" } } {} false).run t = (.ok (), u) ∧
        (putOnTop (({ log := { level := "debug" } } : Settings).merge quietFragment) {} false).run
          (namedProvider "custom").withDefaults = (.ok (), u) ∧
        (putOnTop quietFragment {} false).run t = (.ok (), t) := by
  let debug : Settings := { log := { level := "debug" } }
  let s := (namedProvider "custom").withDefaults
  obtain ⟨-, -, -, -, fields, -, overrides⟩ := merge_laws quietFragment debug {}
  have taken := putOnTop_of_valid {} false s quietFragment (by decide +kernel)
  have next := putOnTop_of_valid {} false (s.overlay quietFragment) debug (by decide +kernel)
  obtain ⟨both, again⟩ := overrides {} false s quietFragment debug _ taken
  exact ⟨(fields ["log", "level"] (by decide)).1 rfl, _, _, taken, next, both _ next, again⟩

/-- A fragment on top of settings with defaults lies over the fragment below it, and that over the defaults. -/
theorem withDefaults_overlay (f o : Settings) :
    f.withDefaults.overlay o = (o.merge f).merge (defaults f.effectiveProvider) := by
  rw [overlay_eq_merge, withDefaults, merge_assoc]

/-- The field whose default is taken from another field. -/
def updatedPath : List String := ["updater", "providers"]

theorem field_withUpdated (s : Settings) (updated : Option (List String)) : ∀ path ∈ fieldPaths,
    path ≠ updatedPath →
    ({ s with updater := { s.updater with providers := updated } } : Settings).field path =
      s.field path := by
  intro path h other
  rw [fieldPaths_eq] at h
  fin_cases h <;> first | exact absurd rfl other | rfl

/-- The defaults for two providers differ in nothing but what is updated. -/
theorem field_defaults_congr (p q : String) (path : List String) (h : path ∈ fieldPaths)
    (other : path ≠ updatedPath) : (defaults p).field path = (defaults q).field path :=
  field_withUpdated (defaults q) (some (defaultUpdated p)) path h other

theorem effectiveProvider_withDefaults (s : Settings) :
    s.withDefaults.effectiveProvider = s.effectiveProvider := by
  have name : s.withDefaults.vpn.provider.name = s.vpn.provider.name.or (some defaultProvider) := rfl
  rw [effectiveProvider, name, effectiveProvider]
  cases s.vpn.provider.name <;> rfl

end Settings

/-- Different providers have different defaults for what is updated, letter case apart. -/
theorem defaultUpdated_eq_iff (p q : String) :
    defaultUpdated p = defaultUpdated q ↔ Text.lower p = Text.lower q := by
  simp only [defaultUpdated]
  split
  · next custom =>
    rw [custom]
    split
    · next same => simp [same]
    · next other => simp [Ne.symm other]
  · next known =>
    split
    · next custom => simp [custom, known]
    · simp

namespace Settings

/--
Whether defaults are filled in before a fragment is put on top or after makes no difference but to what is
updated, and to that only if neither layer says what to update and the one on top changes the provider.
-/
theorem overlay_after_defaults (f o : Settings) :
    (∀ path ∈ fieldPaths, path ≠ updatedPath →
        (f.withDefaults.overlay o).field path = (o.merge f).withDefaults.field path) ∧
      ((f.withDefaults.overlay o).field updatedPath ≠ (o.merge f).withDefaults.field updatedPath ↔
        f.isSet updatedPath = false ∧ o.isSet updatedPath = false ∧
          Text.lower f.effectiveProvider ≠ Text.lower (o.merge f).withDefaults.effectiveProvider) := by
  -- The same fields are set above the defaults on both sides, so only the defaults can differ.
  rw [effectiveProvider_withDefaults, withDefaults_overlay, withDefaults]
  have known : updatedPath ∈ fieldPaths := by decide
  have providers (p : String) :
      ((o.merge f).merge (defaults p)).field updatedPath =
        if (o.merge f).isSet updatedPath then (o.merge f).field updatedPath
        else toValue (some (defaultUpdated p)) := field_merge _ (defaults p) _ known
  refine ⟨fun path h other => ?_, ?_⟩
  · rw [field_merge (o.merge f) _ path h, field_merge (o.merge f) _ path h,
      field_defaults_congr _ _ path h other]
  · rw [providers, providers, isSet_merge o f _ known]
    cases o.isSet updatedPath <;> cases f.isSet updatedPath <;>
      simp [toValue_inj, defaultUpdated_eq_iff, -toValue_some]

theorem overlay_after_defaults_namedProvider :
    ((namedProvider "Mullvad").withDefaults.overlay (namedProvider "IVPN")).field updatedPath ≠
      ((namedProvider "IVPN").merge (namedProvider "Mullvad")).withDefaults.field updatedPath :=
  (overlay_after_defaults (namedProvider "Mullvad") (namedProvider "IVPN")).2.2
    ⟨rfl, rfl, by decide +kernel⟩

end Settings
end TunnelSettings
