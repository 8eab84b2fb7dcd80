import TunnelSettings.Proofs.Overrides

/-!
Runs of changes: defaults are filled in, fragments are put below and fragments are put on top, in any
order and any number. Settings that are complete and valid stay so, and of all changes only the overrides
that are taken leave a trace.
-/
namespace TunnelSettings

/-- A change that a program makes to its settings. -/
inductive Step where
  | fillDefaults
  | merge (other : Settings)
  | override (other : Settings)
  deriving DecidableEq

namespace Step

variable (servers : Servers) (ipv6 : Bool)

/-- What a step does to settings in place. -/
def change : Step → Settings.Change Unit
  | fillDefaults => modify Settings.withDefaults
  | merge other => modify fun s => s.merge other
  | override other => Settings.putOnTop other servers ipv6

/-- The settings after a step, whether the step succeeds or fails. -/
def after (step : Step) (s : Settings) : Settings := ((step.change servers ipv6).run s).2

/-- The fragment that a step puts on top, if there is one and it is taken. -/
def taken : Step → Settings → List Settings
  | override other, s => if ((Settings.putOnTop other servers ipv6).run s).1.isOk then [other] else []
  | _, _ => []

end Step

namespace Settings

variable (servers : Servers) (ipv6 : Bool)

/-- The settings after a run. -/
def run (s : Settings) (steps : List Step) : Settings :=
  steps.foldl (fun s step => step.after servers ipv6 s) s

/-- The fragments that a run puts on top, in order. -/
def taken : Settings → List Step → List Settings
  | _, [] => []
  | s, step :: steps => step.taken servers ipv6 s ++ taken (step.after servers ipv6 s) steps

/-- What a run preserves: every field is set, and the settings are valid. -/
structure Sound (s : Settings) : Prop where
  complete : s.IsComplete
  valid : s.validate servers ipv6 = .ok ()

variable {servers ipv6}

theorem Sound.after_of_not_override {s : Settings} (h : s.Sound servers ipv6) (step : Step)
    (quiet : ∀ other, step ≠ .override other) : step.after servers ipv6 s = s := by
  cases step with
  | fillDefaults => exact h.complete.withDefaults_eq
  | merge other => exact h.complete.merge_eq other
  | override other => exact absurd rfl (quiet other)

theorem taken_of_not_override (s : Settings) (step : Step) (quiet : ∀ other, step ≠ .override other) :
    step.taken servers ipv6 s = [] := by
  cases step with
  | fillDefaults => rfl
  | merge other => rfl
  | override other => exact absurd rfl (quiet other)

/-- An override either puts its fragment on top of the settings, which are valid then, or does nothing. -/
theorem override_cases (servers : Servers) (ipv6 : Bool) (s other : Settings) :
    (s.overlay other).validate servers ipv6 = .ok () ∧
        (Step.override other).after servers ipv6 s = s.overlay other ∧
        (Step.override other).taken servers ipv6 s = [other] ∨
      (Step.override other).after servers ipv6 s = s ∧
        (Step.override other).taken servers ipv6 s = [] := by
  rcases validate_cases servers ipv6 (s.overlay other) with valid | ⟨g, c, invalid⟩
  · have run := putOnTop_of_valid servers ipv6 s other valid
    exact .inl ⟨valid, by simp only [Step.after, Step.change, run], by rw [Step.taken, run]; rfl⟩
  · have run := putOnTop_of_invalid servers ipv6 s other g c invalid
    exact .inr ⟨by simp only [Step.after, Step.change, run], by rw [Step.taken, run]; rfl⟩

/-- One step keeps settings complete and valid, and puts on top what is taken. -/
theorem Sound.after {s : Settings} (h : s.Sound servers ipv6) (step : Step) :
    (step.after servers ipv6 s).Sound servers ipv6 ∧
      step.after servers ipv6 s = (step.taken servers ipv6 s).foldl overlay s := by
  by_cases loud : ∃ other, step = .override other
  · obtain ⟨other, rfl⟩ := loud
    rcases override_cases servers ipv6 s other with
      ⟨valid, after, taken⟩ | ⟨after, taken⟩
    · rw [after, taken]
      exact ⟨⟨h.complete.overlay other, valid⟩, rfl⟩
    · rw [after, taken]
      exact ⟨h, rfl⟩
  · have quiet : ∀ other, step ≠ .override other := fun other e => loud ⟨other, e⟩
    rw [h.after_of_not_override step quiet, taken_of_not_override s step quiet]
    exact ⟨h, rfl⟩

theorem Sound.run {s : Settings} (h : s.Sound servers ipv6) (steps : List Step) :
    (s.run servers ipv6 steps).Sound servers ipv6 ∧
      s.run servers ipv6 steps = (s.taken servers ipv6 steps).foldl overlay s := by
  induction steps generalizing s with
  | nil => exact ⟨h, rfl⟩
  | cons step steps ih =>
    obtain ⟨sound, after⟩ := h.after step
    obtain ⟨kept, rest⟩ := ih sound
    refine ⟨kept, ?_⟩
    rw [taken, List.foldl_append, ← after]
    exact rest

theorem run_concat (s : Settings) (steps : List Step) (step : Step) :
    s.run servers ipv6 (steps ++ [step]) = step.after servers ipv6 (s.run servers ipv6 steps) := by
  simp [run]

/-- Of fragments on top of each other the last one that sets a field is seen. -/
theorem field_foldl_overlay (fragments : List Settings) (s : Settings) (path : List String)
    (h : path ∈ fieldPaths) :
    (fragments.foldl overlay s).field path =
      fragments.foldl (fun v other => if other.isSet path then other.field path else v)
        (s.field path) := by
  induction fragments generalizing s with
  | nil => rfl
  | cons other rest ih =>
    rw [List.foldl_cons, ih, field_overlay s other path h]
    rfl

/-- Complete and valid settings are complete and valid after every step of a run. Only an override changes
any field, and at the end every field is what the overrides that were taken make of it in order. -/
theorem run_keeps_valid (servers : Servers) (ipv6 : Bool) (s : Settings) (complete : s.IsComplete)
    (valid : s.validate servers ipv6 = .ok ()) (steps : List Step) :
    (∀ before, before <+: steps →
        (s.run servers ipv6 before).IsComplete ∧
        (s.run servers ipv6 before).validate servers ipv6 = .ok ()) ∧
      (∀ before step, before ++ [step] <+: steps → (∀ other, step ≠ .override other) →
        s.run servers ipv6 (before ++ [step]) = s.run servers ipv6 before) ∧
      s.run servers ipv6 steps = (s.taken servers ipv6 steps).foldl overlay s ∧
      ∀ path ∈ fieldPaths, (s.run servers ipv6 steps).field path =
        (s.taken servers ipv6 steps).foldl
          (fun v other => if other.isSet path then other.field path else v) (s.field path) := by
  have sound : s.Sound servers ipv6 := ⟨complete, valid⟩
  refine ⟨?_, ?_, (sound.run steps).2, ?_⟩
  · intro before _
    exact ⟨(sound.run before).1.complete, (sound.run before).1.valid⟩
  · intro before step _ quiet
    rw [run_concat, (sound.run before).1.after_of_not_override step quiet]
  · intro path h
    rw [(sound.run steps).2, field_foldl_overlay _ _ _ h]

/-- Settings for a provider that needs no credentials. -/
def plainExample : Settings := withDefaults { vpn := { provider := { name := "custom" } } }

theorem run_keeps_valid_plainExample :
    plainExample.IsComplete ∧ plainExample.validate {} false = .ok () ∧
      (plainExample.run {} false [.override { log := { level := "error" } }, .fillDefaults,
        .override { log := { level := "loud" } }]).log.level = some "error" := by
  have complete : plainExample.IsComplete := by decide +kernel
  have clean : plainExample.complaint? {} false = none := by decide +kernel
  have valid : plainExample.validate {} false = .ok () := by rw [validate, clean]
  obtain ⟨_, _, last, _⟩ := run_keeps_valid {} false plainExample complete valid
    [.override { log := { level := "error" } }, .fillDefaults, .override { log := { level := "loud" } }]
  refine ⟨complete, valid, ?_⟩
  rw [last]
  decide +kernel

end Settings
end TunnelSettings
