import TunnelSettings.Proofs.Acceptance
import TunnelSettings.Proofs.Layers
import TunnelSettings.Proofs.Showing

/-!
What defaults do for settings. They can be filled in for any settings, they keep what is set and leave nothing
unset, and no merge or override unsets anything afterwards. The one thing that settings need to be shown and
that may be unset is the ratio of an updater that is on; so settings that had their defaults can always be
shown, as far as their integers can be written, and so can valid settings.
-/
namespace TunnelSettings

/-! ### Filling in defaults -/

theorem Updater.filled_some (u : Updater) (provider : String) :
    u.filled (some provider) = .ok (Layered.atop u (.defaults provider)) := by
  rw [filled.eq_def]
  cases u.providers <;> rfl

namespace Settings

/-- When the updater's turn comes the tunnel has a provider, so filling in defaults group by group does not
fail, and it comes to the same as laying the settings over all defaults at once. -/
theorem fillInTurn_eq (s : Settings) : s.fillInTurn = .ok s.withDefaults := by
  have named : (Layered.atop s.vpn .defaults).provider.name = some s.effectiveProvider := by
    change s.vpn.provider.name.or (some defaultProvider) = some (s.vpn.provider.name.getD defaultProvider)
    cases s.vpn.provider.name <;> rfl
  simp only [fillInTurn, Group.inTurn, List.foldlM_cons, fillGroup, ok_bind, named, Updater.filled_some]
  rfl

theorem field_withDefaults_of_isSet (s : Settings) {path : List String} (h : path ∈ fieldPaths)
    (set : s.isSet path = true) : s.withDefaults.field path = s.field path := by
  rw [withDefaults, field_merge s _ path h, if_pos set]

theorem providers_withDefaults (s : Settings) (unset : s.updater.providers = none) :
    s.withDefaults.updater.providers = some (defaultUpdated s.effectiveProvider) := by
  change s.updater.providers.or _ = _
  rw [unset]
  rfl

/-! ### Steps behind the defaults -/

/-- What settings become by defaults first and any steps behind them, each override among other servers and
on a host of its own. -/
inductive Continued (s : Settings) : Settings → Prop where
  | defaults : Continued s s.withDefaults
  | step {t : Settings} (servers : Servers) (ipv6 : Bool) (step : Step) :
    Continued s t → Continued s (step.after servers ipv6 t)

/-- No step unsets a field. -/
theorem IsComplete.after {t : Settings} (h : t.IsComplete) (servers : Servers) (ipv6 : Bool) (step : Step) :
    (step.after servers ipv6 t).IsComplete := by
  cases step with
  | fillDefaults =>
    change t.withDefaults.IsComplete
    rwa [h.withDefaults_eq]
  | merge other =>
    change (t.merge other).IsComplete
    rwa [h.merge_eq]
  | override other =>
    rcases override_cases servers ipv6 t other with ⟨-, after, -⟩ | ⟨after, -⟩
    · rw [after]
      exact h.overlay other
    · rwa [after]

theorem Continued.isComplete {s t : Settings} (h : Continued s t) : t.IsComplete := by
  induction h with
  | defaults => exact isComplete_withDefaults s
  | step servers ipv6 step _ ih => exact ih.after servers ipv6 step

/-! ### Showing -/

theorem isSome_ratio_of_valid {s : Settings} {servers : Servers} {ipv6 : Bool}
    (valid : s.validate servers ipv6 = .ok ()) : s.updater.minRatio ≠ none := by
  intro unset
  have clean : s.updater.complaint? = none := (validate_eq_ok_iff servers ipv6 s).1 valid .updater
  simp only [Updater.complaint?, Option.or_eq_none_iff, unset] at clean
  cases clean.2.2.1

end Settings

theorem Show.isNonzero_iff (n : Option Int) : isNonzero n = true ↔ ∃ m ∈ n, m ≠ 0 := by
  cases n <;> simp [isNonzero]

namespace Settings

/--
Defaults can be filled in for any settings, also group by group. What is set stays, everything is set
afterwards, and filling in defaults once more changes nothing; the updater takes the provider of the tunnel, in
small letters, unless it is the custom one or there is a list already. Settings without long integers can be
shown unless their updater is on and has no ratio; in particular, they can be shown if they had their defaults
at some time, whatever was merged or overridden since, and if they are valid.
-/
theorem withDefaults_completes (s : Settings) :
    s.fillInTurn = .ok s.withDefaults ∧
      (∀ path ∈ fieldPaths, s.isSet path = true → s.withDefaults.field path = s.field path) ∧
      s.withDefaults.IsComplete ∧
      s.withDefaults.withDefaults = s.withDefaults ∧
      (s.updater.providers = none →
        s.withDefaults.updater.providers =
          if Text.lower s.effectiveProvider = Catalogue.custom then some []
          else some [Text.lower s.effectiveProvider]) ∧
      (s.IsShort → ∀ f, s.summaryText = .error f ↔
        f = .noRatio ∧ (∃ n ∈ s.updater.period, n ≠ 0) ∧ s.updater.minRatio = none) ∧
      (∀ t, Continued s t → t.IsShort → ∃ text, t.summaryText = .ok text) ∧
      ∀ servers ipv6, s.validate servers ipv6 = .ok () → s.IsShort → ∃ text, s.summaryText = .ok text := by
  have complete := isComplete_withDefaults s
  refine ⟨fillInTurn_eq s, ?_, complete, complete.withDefaults_eq, ?_, ?_, ?_, ?_⟩
  · intro path h set
    exact field_withDefaults_of_isSet s h set
  · intro unset
    rw [providers_withDefaults s unset, defaultUpdated]
    split <;> rfl
  · intro short f
    rw [short.summaryText_eq_error_iff, Show.isNonzero_iff]
  · intro t reached short
    exact reached.isComplete.succeeds_summaryText short
  · intro servers ipv6 valid short
    refine short.succeeds_summaryText_iff.2 ?_
    rintro ⟨-, unset⟩
    exact isSome_ratio_of_valid valid unset

/-- Settings that turn the updater on and set no ratio. -/
def updaterWithoutRatio : Settings := { updater := { period := some 60 }, vpn := { provider := { name := "Custom" } } }

theorem withDefaults_completes_withoutRatio :
    updaterWithoutRatio.IsShort ∧ updaterWithoutRatio.summaryText = .error .noRatio ∧
      updaterWithoutRatio.withDefaults.updater.providers = some [] ∧
      (∃ text, ((Step.override debugLevel).after {} true updaterWithoutRatio.withDefaults).summaryText = .ok text) ∧
      plainExample.validate {} false = .ok () ∧ ∃ text, plainExample.summaryText = .ok text := by
  obtain ⟨-, -, -, -, providers, shown, reached, -⟩ := withDefaults_completes updaterWithoutRatio
  obtain ⟨-, -, -, -, -, -, -, ofValid⟩ := withDefaults_completes plainExample
  have short : updaterWithoutRatio.IsShort := by
    intro path hp
    rw [fieldPaths_eq] at hp
    fin_cases hp
    all_goals first | trivial | exact isShort_of_lt (by decide)
  have overridden : (updaterWithoutRatio.withDefaults.overlay debugLevel).IsShort :=
    short.withDefaults.overlay isShort_debugLevel
  have allowed : (updaterWithoutRatio.withDefaults.overlay debugLevel).validate {} true = .ok () := by decide +kernel
  have taken : (Step.override debugLevel).after {} true updaterWithoutRatio.withDefaults =
      updaterWithoutRatio.withDefaults.overlay debugLevel := by
    simp only [Step.after, Step.change, putOnTop_of_valid _ _ _ _ allowed]
  have valid : plainExample.validate {} false = .ok () := by decide +kernel
  refine ⟨short, (shown short .noRatio).2 ⟨rfl, ⟨60, rfl, by decide⟩, rfl⟩, ?_, ?_, valid, ?_⟩
  · rw [providers rfl, if_pos (by decide +kernel)]
  · exact reached _ (.step {} true _ .defaults) (taken ▸ overridden)
  · exact ofValid {} false valid isShort_plainExample

end Settings
end TunnelSettings
