import TunnelSettings.Logging.Journal
import TunnelSettings.Proofs.Acceptance
import TunnelSettings.Proofs.Layers
import TunnelSettings.Proofs.SmallLetters
import TunnelSettings.Settings.Advice

/-!
Letter case decides nothing. Settings that are equal once the names of providers, protocols, levels and
choices are written in small letters are accepted or refused alike, for the same group, and lead to the same
advice, the same level of logging and the same providers to update.
-/
namespace TunnelSettings

open Text

/-! ### Small letters where the case of letters does not count -/

def Dns.inSmallLetters (d : Dns) : Dns :=
  { d with upstreamProviders := d.upstreamProviders.map (·.map lower) }

def Log.inSmallLetters (l : Log) : Log := { level := l.level.map lower }

def PublicIp.inSmallLetters (p : PublicIp) : PublicIp := { p with api := p.api.map lower }

def Shadowsocks.inSmallLetters (s : Shadowsocks) : Shadowsocks := { s with cipher := s.cipher.map lower }

def Updater.inSmallLetters (u : Updater) : Updater := { u with providers := u.providers.map (·.map lower) }

def ServerSelection.inSmallLetters (s : ServerSelection) : ServerSelection where
  countries := s.countries.map (·.map lower)
  regions := s.regions.map (·.map lower)
  cities := s.cities.map (·.map lower)
  isps := s.isps.map (·.map lower)
  hostnames := s.hostnames.map (·.map lower)
  names := s.names.map (·.map lower)

def Provider.inSmallLetters (p : Provider) : Provider :=
  { name := p.name.map lower, selection := p.selection.inSmallLetters }

def OpenVpn.inSmallLetters (o : OpenVpn) : OpenVpn := { o with protocol := o.protocol.map lower }

def Vpn.inSmallLetters (v : Vpn) : Vpn :=
  { v with provider := v.provider.inSmallLetters, openvpn := v.openvpn.inSmallLetters }

/-- The settings with small letters in every field of names that are told apart without regard to case. -/
def Settings.inSmallLetters (s : Settings) : Settings :=
  { s with
    dns := s.dns.inSmallLetters
    log := s.log.inSmallLetters
    publicIp := s.publicIp.inSmallLetters
    shadowsocks := s.shadowsocks.inSmallLetters
    updater := s.updater.inSmallLetters
    vpn := s.vpn.inSmallLetters }

/-! ### Groups in small letters -/

@[simp] theorem known_lower (names : List String) (name : String) :
    Known names (lower name) ↔ Known names name := by
  rw [Known, Known, lower_lower]

theorem forall_mem_lower_iff (P : String → Prop) (xs : Option (List String)) :
    (∀ names ∈ xs.map (·.map lower), ∀ name ∈ names, P name) ↔
      ∀ names ∈ xs, ∀ name ∈ names, P (lower name) := by
  cases xs <;> simp

theorem exists_mem_lower_iff (P : String → Prop) (x : Option String) :
    (∃ name ∈ x.map lower, P name) ↔ ∃ name ∈ x, P (lower name) := by
  cases x <;> simp

theorem lower_getD_lower (x : Option String) (other : String) :
    lower ((x.map lower).getD other) = lower (x.getD other) := by
  cases x with
  | none => rfl
  | some s => exact lower_lower s

theorem Dns.complaint?_inSmallLetters (d : Dns) : d.inSmallLetters.complaint? = none ↔ d.complaint? = none := by
  have upstream : (∃ names ∈ d.upstreamProviders.map (·.map lower), names ≠ []) ↔
      ∃ names ∈ d.upstreamProviders, names ≠ [] := by
    cases d.upstreamProviders <;> simp
  simp only [complaint?_eq_none_iff, acceptable_iff, inSmallLetters, upstream, forall_mem_lower_iff, known_lower]

theorem Log.complaint?_inSmallLetters (l : Log) : l.inSmallLetters.complaint? = none ↔ l.complaint? = none := by
  simp only [complaint?_eq_none_iff, acceptable_iff, inSmallLetters, exists_mem_lower_iff, known_lower]

theorem PublicIp.complaint?_inSmallLetters (p : PublicIp) :
    p.inSmallLetters.complaint? = none ↔ p.complaint? = none := by
  simp only [complaint?_eq_none_iff, acceptable_iff, inSmallLetters, exists_mem_lower_iff, known_lower]

theorem Shadowsocks.complaint?_inSmallLetters (s : Shadowsocks) :
    s.inSmallLetters.complaint? = none ↔ s.complaint? = none := by
  simp only [complaint?_eq_none_iff, acceptable_iff, inSmallLetters, exists_mem_lower_iff, known_lower]

/-- What is acceptable is only known for ratios that are numbers, so here the rules are gone through. -/
theorem Updater.complaint?_inSmallLetters (u : Updater) :
    u.inSmallLetters.complaint? = none ↔ u.complaint? = none := by
  simp only [complaint?, inSmallLetters, Option.or_eq_none_iff, complaintAmong_eq_none_iff,
    providerComplaint?_eq_none_iff, forall_mem_lower_iff, lower_lower, known_lower]

theorem ServerSelection.offered_inSmallLetters (s : ServerSelection) (offered : Choices) :
    s.inSmallLetters.Offered offered ↔ s.Offered offered := by
  simp only [offered_iff, inSmallLetters, forall_mem_lower_iff, known_lower]

theorem OpenVpn.acceptable_inSmallLetters (o : OpenVpn) (provider : String) :
    o.inSmallLetters.Acceptable provider ↔ o.Acceptable provider := by
  simp only [acceptable_iff, inSmallLetters, exists_mem_lower_iff, known_lower]

theorem Vpn.complaint?_inSmallLetters (v : Vpn) (servers : Servers) (ipv6 : Bool) :
    v.inSmallLetters.complaint? servers ipv6 = none ↔ v.complaint? servers ipv6 = none := by
  simp only [complaint?_eq_none_iff, acceptable_iff, inSmallLetters, Provider.inSmallLetters,
    exists_mem_lower_iff, known_lower, lower_lower, ServerSelection.offered_inSmallLetters,
    OpenVpn.acceptable_inSmallLetters]

/-! ### Equal settings -/

/-- Equal numbers stand alike to any other; they are the same unless they are the two zeros. -/
theorem Binary64.order_congr {x y : Binary64} (equal : x.same y = true) (z : Binary64) :
    x.le z = y.le z ∧ z.lt x = z.lt y := by
  cases x with
  | nan p => rw [of_decide_eq_true equal]; exact ⟨rfl, rfl⟩
  | infinite s => rw [of_decide_eq_true equal]; exact ⟨rfl, rfl⟩
  | finite s m e h =>
    cases y with
    | nan p => simp [same] at equal
    | infinite t => simp [same] at equal
    | finite t n f k =>
      have units := of_decide_eq_true equal
      cases z with
      | nan p => exact ⟨rfl, rfl⟩
      | infinite u => exact ⟨rfl, rfl⟩
      | finite => simp only [le, lt, same, isNaN, units, and_self]

theorem Updater.ratioComplaint?_of_same {x y : Binary64} (equal : x.same y = true) :
    ratioComplaint? (some x) = none ↔ ratioComplaint? (some y) = none := by
  simp only [ratioComplaint?, refuse_eq_none_iff, Option.all_some, Binary64.order_congr equal]

namespace Settings

variable {s t u : Settings}

/-- Two states of which the same is decided: what is refused, advised, logged and updated. -/
structure JudgedAlike (s t : Settings) : Prop where
  refused : ∀ servers ipv6 g,
    s.groupComplaint? servers ipv6 g = none ↔ t.groupComplaint? servers ipv6 g = none
  advised : s.advice = t.advice
  logged : Level.ofSetting? s.log.level = Level.ofSetting? t.log.level
  provider : lower s.effectiveProvider = lower t.effectiveProvider

namespace JudgedAlike

theorem symm (alike : JudgedAlike s t) : JudgedAlike t s :=
  ⟨fun servers ipv6 g => (alike.refused servers ipv6 g).symm, alike.advised.symm, alike.logged.symm,
    alike.provider.symm⟩

theorem trans (alike : JudgedAlike s t) (next : JudgedAlike t u) : JudgedAlike s u :=
  ⟨fun servers ipv6 g => (alike.refused servers ipv6 g).trans (next.refused servers ipv6 g),
    alike.advised.trans next.advised, alike.logged.trans next.logged, alike.provider.trans next.provider⟩

theorem of_same (equal : s.same t = true) : JudgedAlike s t := by
  obtain ⟨ratios, rest⟩ := Bool.and_eq_true_iff.1 equal
  have ratio : Updater.ratioComplaint? s.updater.minRatio = none ↔
      Updater.ratioComplaint? t.updater.minRatio = none := by
    split at ratios
    · next x y hx hy => rw [hx, hy, Updater.ratioComplaint?_of_same ratios]
    · next hx hy => rw [hx, hy]
    · cases ratios
  rw [of_decide_eq_true rest]
  refine ⟨fun servers ipv6 g => ?_, rfl, rfl, rfl⟩
  cases g with
  | updater => simp only [groupComplaint?, Updater.complaint?, Option.or_eq_none_iff, ratio]
  | _ => exact Iff.rfl

/-- Small letters change none of the decisions. -/
theorem inSmallLetters (s : Settings) : JudgedAlike s.inSmallLetters s where
  refused servers ipv6 g := by
    cases g with
    | dns => exact s.dns.complaint?_inSmallLetters
    | log => exact s.log.complaint?_inSmallLetters
    | publicIp => exact s.publicIp.complaint?_inSmallLetters
    | shadowsocks => exact s.shadowsocks.complaint?_inSmallLetters
    | updater => exact s.updater.complaint?_inSmallLetters
    | vpn => exact s.vpn.complaint?_inSmallLetters servers ipv6
    | _ => exact Iff.rfl
  advised := by
    have provider : lower (s.inSmallLetters.vpn.provider.name.getD "") = lower (s.vpn.provider.name.getD "") :=
      lower_getD_lower s.vpn.provider.name ""
    rw [advice, provider]
    rfl
  logged := by
    rw [Level.ofSetting?, Level.ofSetting?, Settings.inSmallLetters, Log.inSmallLetters, lower_getD_lower]
  provider := lower_getD_lower s.vpn.provider.name defaultProvider

/-- Settings that are equal in small letters are judged alike. -/
theorem of_inSmallLetters (equal : s.inSmallLetters.same t.inSmallLetters = true) : JudgedAlike s t :=
  (inSmallLetters s).symm.trans ((of_same equal).trans (inSmallLetters t))

theorem valid_iff (alike : JudgedAlike s t) (servers : Servers) (ipv6 : Bool) :
    s.validate servers ipv6 = .ok () ↔ t.validate servers ipv6 = .ok () := by
  rw [validate_eq_ok_iff, validate_eq_ok_iff]
  exact forall_congr' fun g => alike.refused servers ipv6 g

theorem blamed_iff (alike : JudgedAlike s t) (servers : Servers) (ipv6 : Bool) (g : Group) :
    (∃ c, s.validate servers ipv6 = .error (.invalid g c)) ↔
      ∃ c, t.validate servers ipv6 = .error (.invalid g c) := by
  -- Which group is blamed depends on which groups have complaints, and not on what these are.
  simp only [validate_eq_error_iff, exists_and_right, ← Option.ne_none_iff_exists', ne_eq, alike.refused]

theorem updated_eq (alike : JudgedAlike s t) (unset : s.updater.providers = none)
    (unset' : t.updater.providers = none) :
    s.withDefaults.updater.providers = t.withDefaults.updater.providers := by
  have filled {s : Settings} (unset : s.updater.providers = none) :
      s.withDefaults.updater.providers = some (defaultUpdated s.effectiveProvider) :=
    congrArg (Option.or · _) unset
  rw [filled unset, filled unset', (defaultUpdated_eq_iff _ _).2 alike.provider]

end JudgedAlike

/--
Settings that are equal in small letters, where the case of letters is not looked at, pass validation both or
fail it both for the same group. They have the same warnings, set logging to the same level, and have the
same default for the providers that are updated.
-/
theorem letterCase_decides_nothing (s t : Settings) (equal : s.inSmallLetters.same t.inSmallLetters = true) :
    (∀ servers ipv6,
      (s.validate servers ipv6 = .ok () ↔ t.validate servers ipv6 = .ok ()) ∧
        ∀ g, (∃ c, s.validate servers ipv6 = .error (.invalid g c)) ↔
          ∃ c, t.validate servers ipv6 = .error (.invalid g c)) ∧
      s.warnings = t.warnings ∧
      (∀ j : Journal, j.apply s.log.level = j.apply t.log.level) ∧
      (s.updater.providers = none → t.updater.providers = none →
        s.withDefaults.updater.providers = t.withDefaults.updater.providers) := by
  have alike := JudgedAlike.of_inSmallLetters equal
  refine ⟨fun servers ipv6 => ⟨alike.valid_iff servers ipv6, alike.blamed_iff servers ipv6⟩, ?_, fun j => ?_,
    alike.updated_eq⟩
  · rw [warnings, alike.advised, warnings]
  · rw [Journal.apply, alike.logged, Journal.apply]

/-- Settings for a provider with weak security, with the provider and the level in some letters. -/
def weakExample (name level : String) : Settings :=
  { log := { level }, vpn := { kind := Catalogue.openvpn, provider := { name } } }

theorem letterCase_decides_nothing_weakExample :
    (weakExample "SlickVPN" "Debug").inSmallLetters.same (weakExample "SLICKVPN" "DEBUG").inSmallLetters = true ∧
      (weakExample "SlickVPN" "Debug").warnings = (weakExample "SLICKVPN" "DEBUG").warnings ∧
      (weakExample "SlickVPN" "Debug").warnings ≠ [] ∧
      (weakExample "SlickVPN" "Debug").withDefaults.updater.providers =
        (weakExample "SLICKVPN" "DEBUG").withDefaults.updater.providers := by
  have equal : (weakExample "SlickVPN" "Debug").inSmallLetters.same
      (weakExample "SLICKVPN" "DEBUG").inSmallLetters = true := by decide +kernel
  obtain ⟨-, warned, -, updated⟩ := letterCase_decides_nothing _ _ equal
  exact ⟨equal, warned, by decide +kernel, updated rfl rfl⟩

end Settings
end TunnelSettings
