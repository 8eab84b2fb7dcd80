import TunnelSettings.Proofs.SavedSettings

/-!
The numbers in settings that were loaded, or taken with an override. Whatever the files say, every whole
number is within its limits. The ratio is above zero and at most one unless it is no number at all: what
is refused is a ratio that is too small or too large, and one that is no number is neither.
-/
namespace TunnelSettings

/-- A ratio above zero and at most one. -/
def Binary64.IsRatio (r : Binary64) : Prop := (zero false).lt r = true ∧ r.le one = true

theorem Binary64.eq_nan_of_isNaN {r : Binary64} (h : r.isNaN = true) : ∃ payload, r = .nan payload := by
  cases r with
  | nan payload => exact ⟨payload, rfl⟩
  | infinite negative => cases h
  | finite => cases h

theorem Binary64.isNaN_eq_false_of_isRatio {r : Binary64} (h : r.IsRatio) : r.isNaN = false := by
  cases r with
  | nan payload => cases h.1
  | infinite negative => rfl
  | finite => rfl

namespace Settings

/-- The whole numbers of settings are within their limits. -/
structure InRange (s : Settings) : Prop where
  updaterPeriod : ∃ n ∈ s.updater.period, IsPeriod 60 n
  dnsPeriod : ∃ n ∈ s.dns.updatePeriod, IsPeriod 60 n
  publicIpPeriod : ∃ n ∈ s.publicIp.period, IsPeriod 5 n
  successWait : ∃ n ∈ s.health.successWait, 0 < n
  vpnInitial : ∃ n ∈ s.health.vpnInitial, 0 < n
  vpnAddition : ∃ n ∈ s.health.vpnAddition, 0 < n
  vpnInputPorts : ∀ ports ∈ s.firewall.vpnInputPorts, ∀ port ∈ ports, 1 ≤ port ∧ port ≤ 65535
  inputPorts : ∀ ports ∈ s.firewall.inputPorts, ∀ port ∈ ports, 1 ≤ port ∧ port ≤ 65535
  userId : ∃ n ∈ s.system.userId, 0 ≤ n
  groupId : ∃ n ∈ s.system.groupId, 0 ≤ n
  blockProfileRate : ∃ n ∈ s.profiling.blockProfileRate, 0 ≤ n
  mutexProfileRate : ∃ n ∈ s.profiling.mutexProfileRate, 0 ≤ n

/-- The ratio of settings is set, and is one. -/
def HasRatio (s : Settings) : Prop := ∃ r ∈ s.updater.minRatio, r.IsRatio

end Settings

/-- A ratio is let through if it is one, and also if it is no number. -/
theorem Updater.ratioComplaint?_eq_none_iff_or (ratio : Option Binary64) :
    ratioComplaint? ratio = none ↔ ∃ r ∈ ratio, r.isNaN = true ∨ r.IsRatio := by
  by_cases number : ∀ r ∈ ratio, r.isNaN = false
  · rw [ratioComplaint?_eq_none_iff ratio number]
    refine exists_congr fun r => and_congr_right fun given => ?_
    simp [number r given, Binary64.IsRatio]
  · push Not at number
    obtain ⟨r, given, odd⟩ := number
    have odd : r.isNaN = true := by simpa using odd
    obtain ⟨payload, rfl⟩ := Binary64.eq_nan_of_isNaN odd
    have passes : ratioComplaint? ratio = none := by rw [Option.mem_def.1 given]; rfl
    exact ⟨fun _ => ⟨_, given, .inl odd⟩, fun _ => passes⟩

/-- The rules for the numbers of an updater are kept if it has no complaint. -/
theorem Updater.numbers_of_complaint?_eq_none {u : Updater} (clean : u.complaint? = none) :
    (∃ n ∈ u.period, IsPeriod 60 n) ∧ ∃ r ∈ u.minRatio, r.isNaN = true ∨ r.IsRatio := by
  rw [complaint?, Option.or_eq_none_iff, Option.or_eq_none_iff, Option.or_eq_none_iff,
    ratioComplaint?_eq_none_iff_or, periodComplaint?_eq_none_iff _ _ _ (by decide)] at clean
  exact ⟨clean.1, clean.2.2.1⟩

namespace Settings

variable {servers : Servers} {ipv6 : Bool}

theorem inRange_of_valid {s : Settings} (valid : s.validate servers ipv6 = .ok ()) : s.InRange := by
  rw [validate_eq_ok_iff] at valid
  have updater := Updater.numbers_of_complaint?_eq_none (valid .updater)
  have dns := (Dns.complaint?_eq_none_iff _).1 (valid .dns)
  have publicIp := (PublicIp.complaint?_eq_none_iff _).1 (valid .publicIp)
  have health := (Health.complaint?_eq_none_iff _).1 (valid .health)
  have firewall := (Firewall.complaint?_eq_none_iff _).1 (valid .firewall)
  have system := (System.complaint?_eq_none_iff _).1 (valid .system)
  have profiling := (Profiling.complaint?_eq_none_iff _).1 (valid .profiling)
  exact {
    updaterPeriod := updater.1
    dnsPeriod := dns.period
    publicIpPeriod := publicIp.period
    successWait := health.successWait
    vpnInitial := health.vpnInitial
    vpnAddition := health.vpnAddition
    vpnInputPorts := firewall.vpnInputPorts
    inputPorts := firewall.inputPorts
    userId := system.userId
    groupId := system.groupId
    blockProfileRate := profiling.blockProfileRate
    mutexProfileRate := profiling.mutexProfileRate }

/-- Of valid settings only those have no ratio in which it is no number. -/
theorem hasRatio_iff_of_valid {s : Settings} (valid : s.validate servers ipv6 = .ok ()) :
    s.HasRatio ↔ ∀ r ∈ s.updater.minRatio, r.isNaN = false := by
  rw [validate_eq_ok_iff] at valid
  obtain ⟨r, given, passes⟩ := (Updater.numbers_of_complaint?_eq_none (valid .updater)).2
  have only : s.updater.minRatio = some r := given
  simp only [HasRatio, only, Option.mem_some_iff, exists_eq_left', forall_eq']
  constructor
  · exact Binary64.isNaN_eq_false_of_isRatio
  · intro number
    exact passes.resolve_left (by simp [number])

/-! ### The ratio in a file -/

def ratioPath : List String := ["updater", "min_ratio"]

theorem ratio_of_ofSection {es : Section} {s : Settings} (read : ofSection es = .ok s) :
    Value.optional Value.toFloat (es.at? ratioPath) = .ok s.updater.minRatio := by
  have looked : .field ratioPath .decimal ∈ lookups := by decide +kernel
  have found : toValue <$> Value.optional Value.toFloat (es.at? ratioPath) =
      .ok (toValue s.updater.minRatio) := (makes_ofSection es).result s read _ looked
  cases given : Value.optional Value.toFloat (es.at? ratioPath) with
  | error e => rw [given] at found; cases found
  | ok r =>
    rw [given] at found
    rw [(toValue_inj r s.updater.minRatio).1 (Except.ok.inj found)]

/-- A file gives a ratio that is no number. -/
def GivesNoNumber (es : Section) : Prop :=
  ∃ v ∈ es.at? ratioPath, ∃ payload, v.toFloat = .ok (.nan payload)

theorem givesNoNumber_iff (es : Section) :
    GivesNoNumber es ↔
      ∃ payload, Value.optional Value.toFloat (es.at? ratioPath) = .ok (some (.nan payload)) := by
  rw [GivesNoNumber]
  cases es.at? ratioPath with
  | none => simp [Value.optional]
  | some v =>
    cases unset : v.isNull with
    | true => simp [(Value.isNull_iff v).1 unset, Value.optional, Value.toFloat]
    | false =>
      rw [Value.optional_some _ unset]
      cases converted : v.toFloat <;> simp [converted]

/-- Loaded settings have the ratio that their file gives, or else the one that is the default. -/
theorem ratio_of_loaded {d : Files} {p : Path} {env : Secrets} {s : Settings}
    (loads : loaded d p servers ipv6 env = .ok s) :
    ∃ place es, d.settled p = .ok place ∧ d.sections place = .ok es ∧
      ∃ given, Value.optional Value.toFloat (es.at? ratioPath) = .ok given ∧
        s.updater.minRatio = given.or (some Catalogue.defaultMinRatio) := by
  obtain ⟨place, es, f, settled, parsed, built, rfl, -⟩ := exists_of_loaded loads
  obtain ⟨s, read, rfl⟩ := (fragment_eq_ok_iff es env f).1 built
  exact ⟨place, es, settled, parsed, s.updater.minRatio, ratio_of_ofSection read, rfl⟩

theorem isNaN_defaultMinRatio : Catalogue.defaultMinRatio.isNaN = false := by decide +kernel

theorem validate_of_taken {s t other : Settings}
    (taken : (putOnTop other servers ipv6).run s = (.ok (), t)) : t.validate servers ipv6 = .ok () := by
  obtain ⟨valid, rfl⟩ := (putOnTop_eq_ok_iff servers ipv6 s other t).1 taken
  exact valid

/-- Whole numbers are in their ranges in all settings that are loaded, or taken with an override. The ratio
is in its own but for one case: what the file gives for it, or what is on top of it, is no number. -/
theorem committed_numbers (servers : Servers) (ipv6 : Bool) :
    (∀ (p : Path) (env : Secrets) (session : Session) (s : Settings),
        ((load p servers ipv6 env).run session).1 = .ok s →
          s.InRange ∧ ∃ place es, session.files.settled p = .ok place ∧
            session.files.sections place = .ok es ∧ (s.HasRatio ↔ ¬ GivesNoNumber es)) ∧
      ∀ s other t : Settings, (putOnTop other servers ipv6).run s = (.ok (), t) →
        t.InRange ∧
          (t.HasRatio ↔ ∀ r ∈ other.updater.minRatio.or s.updater.minRatio, r.isNaN = false) := by
  constructor
  · intro p env session s loads
    rw [run_load] at loads
    have valid := (isLoaded_of_loaded loads).valid
    obtain ⟨place, es, settled, parsed, given, converted, ratio⟩ := ratio_of_loaded loads
    refine ⟨inRange_of_valid valid, place, es, settled, parsed, ?_⟩
    rw [hasRatio_iff_of_valid valid, givesNoNumber_iff, converted, ratio]
    cases given with
    | none => simp [isNaN_defaultMinRatio]
    | some r => cases r <;> simp [Binary64.isNaN]
  · intro s other t taken
    have valid := validate_of_taken taken
    refine ⟨inRange_of_valid valid, ?_⟩
    rw [hasRatio_iff_of_valid valid, eq_overlay_of_taken servers ipv6 s t other taken]
    rfl

theorem committed_numbers_plainExample :
    ((load ⟨"", ["s.json"]⟩ {} false {}).run Cli.customProvider).1 = .ok plainExample ∧
      plainExample.InRange ∧
      (putOnTop debugLevel {} false).run plainExample = (.ok (), plainExample.overlay debugLevel) ∧
      (plainExample.overlay debugLevel).HasRatio := by
  have loads : ((load ⟨"", ["s.json"]⟩ {} false {}).run Cli.customProvider).1 = .ok plainExample := by
    decide +kernel
  have clean : (plainExample.overlay debugLevel).complaint? {} false = none := by decide +kernel
  have taken := putOnTop_of_valid {} false plainExample debugLevel (by rw [validate, clean])
  obtain ⟨files, overrides⟩ := committed_numbers {} false
  refine ⟨loads, (files _ _ _ _ loads).1, taken, (overrides _ _ _ taken).2.2 ?_⟩
  rintro r ⟨⟩
  exact isNaN_defaultMinRatio

/-- A session with settings that give no number for the ratio. -/
def noNumber : Session :=
  Cli.freshSession [(⟨"/", ["s.json"]⟩, Files.encode (Cli.mappingText [
    ("updater", Cli.mappingText [("min_ratio", "NaN")]),
    ("vpn", Cli.mappingText [("provider", Cli.mappingText [("name", "\"custom\"")])])]))]

/-- What is loaded then: the ratio is no number, and all else is as it is without it. -/
def withoutRatio : Settings :=
  { plainExample with updater := { plainExample.updater with minRatio := some (.nan 0) } }

/-- Not all settings that are loaded have a ratio. -/
theorem load_noNumber :
    ∃ s, ((load ⟨"", ["s.json"]⟩ {} false {}).run noNumber).1 = .ok s ∧ ¬ s.HasRatio := by
  refine ⟨withoutRatio, by decide +kernel, ?_⟩
  rintro ⟨r, ⟨⟩, above, -⟩
  cases above

end Settings
end TunnelSettings
