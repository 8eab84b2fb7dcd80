import TunnelSettings.Proofs.RawData
import TunnelSettings.Proofs.Runs
import TunnelSettings.Proofs.Summaries

/-!
Settings whose integers can be written. An integer with too many digits is the only thing that keeps
complete settings from being shown.
-/
namespace TunnelSettings

open ToValue

/-- Whether an integer has few enough digits to be written. -/
def IsShort (n : Int) : Prop := n.natAbs < Nat.pow 10 maxDigits

/-- Whether a value is not an integer with too many digits. -/
def Value.IsShort : Value → Prop
  | .int n => TunnelSettings.IsShort n
  | _ => True

/-- Settings that hold no integer with too many digits. -/
def Settings.IsShort (s : Settings) : Prop := ∀ path ∈ fieldPaths, (s.field path).IsTree Value.IsShort

theorem shortOf (n : Option Int) (h : (toValue n).IsTree Value.IsShort) : ∀ m ∈ n, IsShort m := by
  rintro m rfl
  exact h

theorem shortOfAll (ns : Option (List Int)) (h : (toValue ns).IsTree Value.IsShort) :
    ∀ ms ∈ ns, ∀ m ∈ ms, IsShort m := by
  rintro ms rfl m hm
  exact (Value.areTrees_iff _ _).1 h (.int m) (List.mem_map.2 ⟨m, hm, rfl⟩)

/-- What is put below settings without long integers leaves them without. -/
theorem Settings.IsShort.merge {s other : Settings} (hs : s.IsShort) (ho : other.IsShort) :
    (s.merge other).IsShort := by
  intro path hp
  rw [field_merge s other path hp]
  split
  · exact hs path hp
  · exact ho path hp

/-- What is put on top of settings without long integers leaves them without. -/
theorem Settings.IsShort.overlay {s other : Settings} (hs : s.IsShort) (ho : other.IsShort) :
    (s.overlay other).IsShort := ho.merge hs

/-- An outcome that is no failure. -/
def Succeeds {ε α : Type} (r : Except ε α) : Prop := ∃ a, r = .ok a

theorem succeeds_bind {ε α β : Type} {r : Except ε α} {f : α → Except ε β} (hr : Succeeds r)
    (hf : ∀ a, Succeeds (f a)) : Succeeds (r >>= f) := by
  obtain ⟨a, rfl⟩ := hr
  exact hf a

theorem succeeds_ok {ε α : Type} (a : α) : Succeeds (.ok a : Except ε α) := ⟨a, rfl⟩

theorem succeeds_mapM {ε α β : Type} {f : α → Except ε β} {as : List α} (h : ∀ a ∈ as, Succeeds (f a)) :
    Succeeds (as.mapM f) := by
  induction as with
  | nil => exact ⟨[], rfl⟩
  | cons a as ih =>
    obtain ⟨first, rest⟩ := List.forall_mem_cons.1 h
    rw [List.mapM_cons]
    exact succeeds_bind first fun _ => succeeds_bind (ih rest) fun _ => succeeds_ok _

theorem succeeds_mapError {ε ε' α : Type} {r : Except ε α} (f : ε → ε') (h : Succeeds r) :
    Succeeds (r.mapError f) := by
  obtain ⟨a, rfl⟩ := h
  exact ⟨a, rfl⟩

theorem IsShort.writeInteger {n : Int} (h : IsShort n) : Succeeds (writeInteger n) := by
  have h : n.natAbs < Nat.pow 10 maxDigits := h
  rw [TunnelSettings.writeInteger, if_pos h]
  exact succeeds_ok _

theorem isShort_of_le {m n : Int} (h : IsShort n) (le : m.natAbs ≤ n.natAbs) : IsShort m :=
  Nat.lt_of_le_of_lt le h

theorem lt_pow_ten {n j k : Nat} (hn : n < Nat.pow 10 j) (hk : j ≤ k) : n < Nat.pow 10 k :=
  Nat.lt_of_lt_of_le hn (Nat.pow_le_pow_right (by decide) hk)

theorem isShort_of_lt {n : Int} (h : n.natAbs < 1000000000) : IsShort n :=
  lt_pow_ten (j := 9) h (by decide)

/-- Minutes and seconds are short, and there are no more hours than seconds. -/
theorem IsShort.durationParts {seconds : Int} (h : IsShort seconds) :
    ∀ part ∈ durationParts seconds, IsShort part.1 := by
  intro part hp
  have hp := List.mem_of_mem_filter hp
  simp only [Int.fdiv_eq_ediv_of_nonneg, Int.fmod_eq_emod_of_nonneg, Int.reduceLE, List.mem_cons,
    List.not_mem_nil, or_false] at hp
  rcases hp with rfl | rfl | rfl
  · exact isShort_of_le h (by omega)
  · exact isShort_of_lt (by omega)
  · exact isShort_of_lt (by omega)

theorem IsShort.durationText {seconds : Int} (h : IsShort seconds) : Succeeds (durationText seconds) := by
  rw [TunnelSettings.durationText]
  split
  · exact succeeds_ok _
  · refine succeeds_bind (succeeds_mapM fun part hp => ?_) fun _ => succeeds_ok _
    exact succeeds_bind (h.durationParts part hp).writeInteger fun _ => succeeds_ok _

namespace Show

theorem succeeds_integer {n : Option Int} (h : ∀ m ∈ n, IsShort m) : Succeeds (integer n) := by
  cases n with
  | none => exact succeeds_ok _
  | some n =>
    rw [integer]
    exact succeeds_mapError _ (h n rfl).writeInteger

theorem succeeds_duration {seconds : Option Int} (h : ∀ m ∈ seconds, IsShort m) :
    Succeeds (duration seconds) := by
  have short : IsShort (seconds.getD 0) := by
    cases seconds with
    | none => exact isShort_of_lt (by decide)
    | some n => exact h n rfl
  exact succeeds_mapError _ short.durationText

theorem succeeds_integersLine (label : String) {ns : Option (List Int)}
    (h : ∀ ms ∈ ns, ∀ m ∈ ms, IsShort m) : Succeeds (integersLine label ns) := by
  rw [integersLine]
  split
  · exact succeeds_ok _
  · refine succeeds_bind (succeeds_bind (succeeds_mapM fun n hn => ?_) fun _ => succeeds_ok _) fun _ =>
      succeeds_ok _
    refine succeeds_integer ?_
    rintro _ ⟨⟩
    cases ns with
    | none => cases hn
    | some ms => exact h ms rfl n hn

end Show

open Show

theorem Dns.succeeds_summary (d : Dns) (period : ∀ n ∈ d.updatePeriod, IsShort n) : Succeeds d.summary := by
  have filtering : Succeeds d.filteringSummary := by
    rw [filteringSummary]
    split
    · exact succeeds_bind (succeeds_duration period) fun _ => succeeds_ok _
    · exact succeeds_ok _
  rw [summary]
  split
  · exact succeeds_bind filtering fun _ => succeeds_ok _
  · exact succeeds_ok _

theorem Firewall.succeeds_summary (f : Firewall) (vpn : ∀ ps ∈ f.vpnInputPorts, ∀ p ∈ ps, IsShort p)
    (input : ∀ ps ∈ f.inputPorts, ∀ p ∈ ps, IsShort p) : Succeeds f.summary := by
  rw [summary]
  split
  · exact succeeds_ok _
  · refine succeeds_bind (succeeds_integersLine _ vpn) fun _ => ?_
    exact succeeds_bind (succeeds_integersLine _ input) fun _ => succeeds_ok _

theorem Health.succeeds_summary (h : Health) (wait : ∀ n ∈ h.successWait, IsShort n)
    (initial : ∀ n ∈ h.vpnInitial, IsShort n) (addition : ∀ n ∈ h.vpnAddition, IsShort n) :
    Succeeds h.summary := by
  rw [summary]
  refine succeeds_bind (succeeds_duration wait) fun _ => ?_
  refine succeeds_bind (succeeds_duration initial) fun _ => ?_
  exact succeeds_bind (succeeds_duration addition) fun _ => succeeds_ok _

theorem PublicIp.succeeds_summary (p : PublicIp) (period : ∀ n ∈ p.period, IsShort n) :
    Succeeds p.summary := by
  rw [summary]
  split
  · exact succeeds_ok _
  · exact succeeds_bind (succeeds_duration period) fun _ => succeeds_ok _

theorem System.succeeds_summary (s : System) (user : ∀ n ∈ s.userId, IsShort n)
    (group : ∀ n ∈ s.groupId, IsShort n) : Succeeds s.summary := by
  rw [summary]
  refine succeeds_bind (succeeds_integer user) fun _ => ?_
  exact succeeds_bind (succeeds_integer group) fun _ => succeeds_ok _

/-- An updater that is on cannot be shown without a ratio. -/
theorem Updater.summary_eq_error_iff (u : Updater) (period : ∀ n ∈ u.period, IsShort n) (f : Failure) :
    u.summary = .error f ↔ f = .noRatio ∧ isNonzero u.period = true ∧ u.minRatio = none := by
  obtain ⟨shown, written⟩ := succeeds_duration period
  rw [summary, written]
  cases on : isNonzero u.period with
  | false => exact iff_of_false (fun h => by cases h) fun h => by cases h.2.1
  | true =>
    cases set : u.minRatio with
    | none =>
      change Except.error Failure.noRatio = Except.error f ↔ _
      simp [eq_comm]
    | some r => exact iff_of_false (fun h => by cases h) fun h => by cases h.2.2

theorem Profiling.succeeds_summary (p : Profiling) (block : ∀ n ∈ p.blockProfileRate, IsShort n)
    (mutex : ∀ n ∈ p.mutexProfileRate, IsShort n) : Succeeds p.summary := by
  rw [summary]
  split
  · exact succeeds_ok _
  · refine succeeds_bind (succeeds_integer block) fun _ => ?_
    exact succeeds_bind (succeeds_integer mutex) fun _ => succeeds_ok _

namespace Settings

/-- Without long integers only the updater decides whether settings can be shown. -/
theorem IsShort.exists_summary_eq {s : Settings} (short : s.IsShort) :
    ∃ f : Display.Outline → Display.Outline, s.summary = s.updater.summary.map f := by
  have field (path : List String) (n : Option Int) (eq : s.field path = toValue n)
      (hp : path ∈ fieldPaths) : ∀ m ∈ n, TunnelSettings.IsShort m :=
    shortOf n (eq ▸ short path hp)
  have fields (path : List String) (ns : Option (List Int)) (eq : s.field path = toValue ns)
      (hp : path ∈ fieldPaths) : ∀ ms ∈ ns, ∀ m ∈ ms, TunnelSettings.IsShort m :=
    shortOfAll ns (eq ▸ short path hp)
  obtain ⟨dns, shownDns⟩ := s.dns.succeeds_summary (field ["dns", "update_period"] _ rfl (by decide))
  obtain ⟨firewall, shownFirewall⟩ := s.firewall.succeeds_summary
    (fields ["firewall", "vpn_input_ports"] _ rfl (by decide))
    (fields ["firewall", "input_ports"] _ rfl (by decide))
  obtain ⟨health, shownHealth⟩ := s.health.succeeds_summary
    (field ["health", "success_wait"] _ rfl (by decide)) (field ["health", "vpn_initial"] _ rfl (by decide))
    (field ["health", "vpn_addition"] _ rfl (by decide))
  obtain ⟨system, shownSystem⟩ := s.system.succeeds_summary (field ["system", "puid"] _ rfl (by decide))
    (field ["system", "pgid"] _ rfl (by decide))
  obtain ⟨publicIp, shownPublicIp⟩ :=
    s.publicIp.succeeds_summary (field ["public_ip", "period"] _ rfl (by decide))
  obtain ⟨profiling, shownProfiling⟩ := s.profiling.succeeds_summary
    (field ["profiling", "block_profile_rate"] _ rfl (by decide))
    (field ["profiling", "mutex_profile_rate"] _ rfl (by decide))
  refine ⟨fun updater => .node "Settings summary:" [s.vpn.summary, dns, firewall, s.log.summary, health,
    s.shadowsocks.summary, s.httpProxy.summary, s.controlServer.summary, system, publicIp, updater,
    s.version.summary, profiling], ?_⟩
  simp only [summary, shownDns, shownFirewall, shownHealth, shownSystem, shownPublicIp, shownProfiling, ok_bind]
  cases s.updater.summary <;> rfl

/-- Settings without long integers can be shown unless their updater is on and has no ratio. -/
theorem IsShort.summaryText_eq_error_iff {s : Settings} (short : s.IsShort) (f : Failure) :
    s.summaryText = .error f ↔
      f = .noRatio ∧ isNonzero s.updater.period = true ∧ s.updater.minRatio = none := by
  have period : ∀ n ∈ s.updater.period, TunnelSettings.IsShort n :=
    shortOf _ (short ["updater", "period"] (by decide))
  obtain ⟨g, eq⟩ := short.exists_summary_eq
  rw [← s.updater.summary_eq_error_iff period, summaryText, eq]
  cases s.updater.summary with
  | error e => simp [Except.map]
  | ok o => exact iff_of_false (fun h => by cases h) fun h => by cases h

theorem IsShort.succeeds_summaryText_iff {s : Settings} (short : s.IsShort) :
    Succeeds s.summaryText ↔ ¬ (isNonzero s.updater.period = true ∧ s.updater.minRatio = none) := by
  cases shown : s.summaryText with
  | ok text =>
    refine iff_of_true (succeeds_ok text) ?_
    intro bad
    have := (short.summaryText_eq_error_iff .noRatio).2 ⟨rfl, bad⟩
    rw [shown] at this
    cases this
  | error f =>
    refine iff_of_false (by rintro ⟨text, same⟩; cases same) ?_
    simpa using ((short.summaryText_eq_error_iff f).1 shown).2

/-- Complete settings without long integers can be shown. -/
theorem IsComplete.succeeds_summaryText {s : Settings} (complete : s.IsComplete) (short : s.IsShort) :
    Succeeds s.summaryText := by
  rw [short.succeeds_summaryText_iff]
  rintro ⟨-, unset⟩
  have set := complete.isSome_ratio
  rw [unset] at set
  cases set

theorem isShort_defaults (provider : String) : (defaults provider).IsShort := by
  have names (names : List String) : (toValue names).IsTree Value.IsShort := by
    refine (Value.areTrees_iff _ _).2 ?_
    rintro v hv
    obtain ⟨name, -, rfl⟩ := List.mem_map.1 hv
    trivial
  intro path hp
  by_cases own : path = ["updater", "providers"]
  · rw [own]
    exact names _
  · rw [fieldPaths_eq] at hp
    fin_cases hp
    all_goals first | exact absurd rfl own | trivial | exact isShort_of_lt (by decide)

theorem IsShort.withDefaults {s : Settings} (short : s.IsShort) : s.withDefaults.IsShort :=
  short.merge (isShort_defaults _)

/-- An override that names a level for the journal. -/
def debugLevel : Settings := { log := { level := "debug" } }

theorem isShort_debugLevel : debugLevel.IsShort := by
  intro path hp
  rw [fieldPaths_eq] at hp
  fin_cases hp
  all_goals trivial

theorem isShort_plainExample : plainExample.IsShort := by
  refine IsShort.withDefaults fun path hp => ?_
  rw [fieldPaths_eq] at hp
  fin_cases hp
  all_goals trivial

end Settings
end TunnelSettings
