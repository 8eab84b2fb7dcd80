import TunnelSettings.Proofs.Acceptance
import TunnelSettings.Proofs.SmallLetters

/-!
Defaults for valid settings. Most rules ask for fields that are set, and a set field is the same with any
layer below. The other rules let fields be unset, and the defaults of these keep the rules too. One rule is
about two fields that may both be left alone: the resolver is on by default, so settings that set an empty list
of upstream providers, and do not say whether the resolver is on, are valid only as long as they are without
defaults.
-/
namespace TunnelSettings

open Layered

/-! ### Fields over a layer -/

section

variable {α : Type} {P : α → Prop} {x y : Option α}

theorem atop_of_set {a : α} (set : x = some a) : atop x y = some a := congrArg (Option.or · y) set

theorem exists_mem_atop (set : ∃ a ∈ x, P a) : ∃ a ∈ atop x y, P a := by
  obtain ⟨a, set, ha⟩ := set
  exact ⟨a, atop_of_set set, ha⟩

theorem forall_mem_atop (above : ∀ a ∈ x, P a) (below : ∀ a ∈ y, P a) : ∀ a ∈ atop x y, P a := by
  cases x with
  | none => exact below
  | some a => exact above

end

/-! ### Groups over any layer -/

theorem ControlServer.Acceptable.atop {c : ControlServer} (ok : c.Acceptable) (below : ControlServer) :
    (atop c below).Acceptable := ⟨exists_mem_atop ok.address⟩

theorem Health.Acceptable.atop {h : Health} (ok : h.Acceptable) (below : Health) :
    (atop h below).Acceptable :=
  ⟨exists_mem_atop ok.serverAddress, exists_mem_atop ok.targetAddress, exists_mem_atop ok.successWait,
    exists_mem_atop ok.vpnInitial, exists_mem_atop ok.vpnAddition⟩

theorem HttpProxy.Acceptable.atop {h : HttpProxy} (ok : h.Acceptable) (below : HttpProxy) :
    (atop h below).Acceptable := ⟨exists_mem_atop ok.address⟩

theorem Log.Acceptable.atop {l : Log} (ok : l.Acceptable) (below : Log) : (atop l below).Acceptable :=
  ⟨exists_mem_atop ok.level⟩

/-- The path may only be unset if the address is never looked up, and whether it is looked up is set. -/
theorem PublicIp.Acceptable.atop {p : PublicIp} (ok : p.Acceptable) (below : PublicIp) :
    (atop p below).Acceptable where
  period := exists_mem_atop ok.period
  filePath on := by
    obtain ⟨n, set, -⟩ := ok.period
    have same : (Layered.atop p below).period = p.period := (atop_of_set set).trans set.symm
    rw [same] at on
    exact exists_mem_atop (ok.filePath on)
  api := exists_mem_atop ok.api

theorem System.Acceptable.atop {s : System} (ok : s.Acceptable) (below : System) :
    (atop s below).Acceptable := ⟨exists_mem_atop ok.userId, exists_mem_atop ok.groupId⟩

theorem Wireguard.Acceptable.atop {w : Wireguard} {ipv6 : Bool} (ok : w.Acceptable ipv6) (below : Wireguard) :
    (atop w below).Acceptable ipv6 :=
  ⟨exists_mem_atop ok.privateKey, exists_mem_atop ok.addresses, exists_mem_atop ok.implementation⟩

theorem Profiling.Acceptable.atop {p : Profiling} (ok : p.Acceptable) (below : Profiling) :
    (atop p below).Acceptable :=
  ⟨exists_mem_atop ok.blockProfileRate, exists_mem_atop ok.mutexProfileRate, exists_mem_atop ok.address⟩

/-! ### Groups over their defaults -/

theorem Firewall.Acceptable.atop_defaults {f : Firewall} (ok : f.Acceptable) :
    (atop f .defaults).Acceptable where
  vpnInputPorts := forall_mem_atop ok.vpnInputPorts (by simp [Firewall.defaults])
  inputPorts := forall_mem_atop ok.inputPorts (by simp [Firewall.defaults])
  outbound := forall_mem_atop ok.outbound (by simp [Firewall.defaults])

/-- The proxy is off by default, so it needs no password by default. -/
theorem Shadowsocks.Acceptable.atop_defaults {s : Shadowsocks} (ok : s.Acceptable) :
    (atop s .defaults).Acceptable where
  address := exists_mem_atop ok.address
  cipher := exists_mem_atop ok.cipher
  password on := by
    change s.enabled.or (some false) = some true at on
    rcases Option.or_eq_some_iff.1 on with set | ⟨-, off⟩
    · exact exists_mem_atop (ok.password set)
    · cases off

namespace Dns

variable {d : Dns}

theorem serverEnabled_atop_defaults (d : Dns) :
    (atop d .defaults).serverEnabled = some true ↔ d.serverEnabled ≠ some false := by
  change d.serverEnabled.or (some true) = some true ↔ _
  cases d.serverEnabled with
  | none => simp
  | some b => cases b <;> simp

/-- What the resolver asks by default is known, so only an empty list that is set can be refused. -/
theorem Acceptable.atop_defaults (ok : d.Acceptable)
    (some_upstream : ¬ (d.serverEnabled = none ∧ d.upstreamProviders = some [])) :
    (atop d .defaults).Acceptable where
  address := exists_mem_atop ok.address
  upstream on := by
    rw [serverEnabled_atop_defaults] at on
    cases set : d.upstreamProviders with
    | none => exact ⟨["cloudflare"], congrArg (Option.or · _) set, List.cons_ne_nil _ _⟩
    | some names =>
      refine ⟨names, atop_of_set set, ?_⟩
      rintro rfl
      cases enabled : d.serverEnabled with
      | none => exact some_upstream ⟨enabled, set⟩
      | some b =>
        have b_on : b = true := by
          rw [enabled] at on
          cases b with
          | false => exact absurd rfl on
          | true => rfl
        obtain ⟨names, set', ne_nil⟩ := ok.upstream (b_on ▸ enabled)
        exact ne_nil (Option.mem_unique set' set)
  known := forall_mem_atop ok.known (by simp [Dns.defaults, Known, Catalogue.upstreamProviders])
  period := exists_mem_atop ok.period

theorem complaint?_atop_defaults (ok : d.Acceptable) (unset : d.serverEnabled = none)
    (empty : d.upstreamProviders = some []) : (atop d .defaults).complaint? = some .noUpstream := by
  obtain ⟨a, set, literal⟩ := ok.address
  have address : (atop d .defaults).address = some a := atop_of_set set
  have on : (atop d .defaults).serverEnabled = some true := by
    rw [serverEnabled_atop_defaults, unset]
    exact nofun
  have upstream : (atop d .defaults).upstreamProviders = some [] := atop_of_set empty
  rw [complaint?, address, on, upstream, Option.getD_some, literal]
  rfl

end Dns

/-- The updater's only default that is no constant is the provider of the tunnel, which is known. A ratio that
is no number is accepted too, so here the rules are gone through. -/
theorem Updater.complaint?_atop_defaults {u : Updater} (clean : u.complaint? = none) {provider : String}
    (known : Known Catalogue.providers provider) : (atop u (.defaults provider)).complaint? = none := by
  simp only [complaint?, Option.or_eq_none_iff, Net.addressComplaint?_eq_none_iff, complaintAmong_eq_none_iff,
    providerComplaint?_eq_none_iff] at clean ⊢
  rw [periodComplaint?_eq_none_iff _ _ _ (by decide)] at clean ⊢
  obtain ⟨period, address, ratio, providers⟩ := clean
  refine ⟨exists_mem_atop period, exists_mem_atop address, ?_, forall_mem_atop providers ?_⟩
  · cases set : u.minRatio with
    | none =>
      rw [set] at ratio
      cases ratio
    | some r => rwa [show (atop u (.defaults provider)).minRatio = some r from atop_of_set set, ← set]
  · rintro _ ⟨⟩ name mem
    rw [defaultUpdated] at mem
    split at mem
    · cases mem
    · next other =>
      obtain rfl := List.mem_singleton.1 mem
      rw [Known, Text.lower_lower]
      exact ⟨other, known⟩

/-! ### The tunnel over its defaults -/

theorem ServerSelection.Offered.atop_defaults {s : ServerSelection} {offered : Choices} (ok : s.Offered offered) :
    (atop s .defaults).Offered offered where
  countries := forall_mem_atop ok.countries (by simp [ServerSelection.defaults])
  regions := forall_mem_atop ok.regions (by simp [ServerSelection.defaults])
  cities := forall_mem_atop ok.cities (by simp [ServerSelection.defaults])
  isps := forall_mem_atop ok.isps (by simp [ServerSelection.defaults])
  hostnames := forall_mem_atop ok.hostnames (by simp [ServerSelection.defaults])
  names := forall_mem_atop ok.names (by simp [ServerSelection.defaults])

theorem OpenVpn.Acceptable.atop_defaults {o : OpenVpn} {provider : String} (ok : o.Acceptable provider) :
    (atop o .defaults).Acceptable provider where
  version := exists_mem_atop ok.version
  protocol := exists_mem_atop ok.protocol
  user needed := exists_mem_atop (ok.user needed)
  password needed needed' := exists_mem_atop (ok.password needed needed')
  ciphers := forall_mem_atop ok.ciphers (by simp [OpenVpn.defaults])

theorem Vpn.Acceptable.atop_defaults {v : Vpn} {servers : Servers} {ipv6 : Bool}
    (ok : v.Acceptable servers ipv6) : (atop v .defaults).Acceptable servers ipv6 := by
  obtain ⟨kind, ⟨name, named, known, capable, offered, openvpn⟩, wireguard⟩ := ok
  have same : (atop v .defaults).kind = v.kind := by
    rcases kind with set | set <;> exact (atop_of_set set).trans set.symm
  refine ⟨same ▸ kind, ⟨name, atop_of_set named, known, same ▸ capable, ?_, ?_⟩, ?_⟩
  · exact fun other => (offered other).atop_defaults
  · exact fun active => (openvpn (same ▸ active)).atop_defaults
  · exact fun active => (wireguard (same ▸ active)).atop _

namespace Settings

variable {s : Settings} {servers : Servers} {ipv6 : Bool}

/-- Of valid settings no group but that of the resolver gets a complaint from the defaults. -/
theorem groupComplaint?_withDefaults (valid : s.validate servers ipv6 = .ok ()) {g : Group} (other : g ≠ .dns) :
    s.withDefaults.groupComplaint? servers ipv6 g = none := by
  have clean := (validate_eq_ok_iff servers ipv6 s).1 valid
  have tunnel := vpn_of_valid valid
  cases g with
  | controlServer =>
    exact (ControlServer.complaint?_eq_none_iff _).2
      (((ControlServer.complaint?_eq_none_iff _).1 (clean .controlServer)).atop _)
  | dns => exact absurd rfl other
  | firewall =>
    exact (Firewall.complaint?_eq_none_iff _).2
      ((Firewall.complaint?_eq_none_iff _).1 (clean .firewall)).atop_defaults
  | health =>
    exact (Health.complaint?_eq_none_iff _).2 (((Health.complaint?_eq_none_iff _).1 (clean .health)).atop _)
  | httpProxy =>
    exact (HttpProxy.complaint?_eq_none_iff _).2
      (((HttpProxy.complaint?_eq_none_iff _).1 (clean .httpProxy)).atop _)
  | log => exact (Log.complaint?_eq_none_iff _).2 (((Log.complaint?_eq_none_iff _).1 (clean .log)).atop _)
  | publicIp =>
    exact (PublicIp.complaint?_eq_none_iff _).2
      (((PublicIp.complaint?_eq_none_iff _).1 (clean .publicIp)).atop _)
  | shadowsocks =>
    exact (Shadowsocks.complaint?_eq_none_iff _).2
      ((Shadowsocks.complaint?_eq_none_iff _).1 (clean .shadowsocks)).atop_defaults
  | system =>
    exact (System.complaint?_eq_none_iff _).2 (((System.complaint?_eq_none_iff _).1 (clean .system)).atop _)
  | updater =>
    obtain ⟨name, named, known, -⟩ := tunnel.provider
    have provider : s.effectiveProvider = name := by rw [effectiveProvider, named, Option.getD_some]
    exact Updater.complaint?_atop_defaults (clean .updater) (provider ▸ known)
  | version => rfl
  | vpn => exact (Vpn.complaint?_eq_none_iff _ servers ipv6).2 tunnel.atop_defaults
  | profiling =>
    exact (Profiling.complaint?_eq_none_iff _).2
      (((Profiling.complaint?_eq_none_iff _).1 (clean .profiling)).atop _)

/--
Filling in defaults keeps valid settings valid, unless they do not say whether the resolver is on and set an
empty list of upstream providers: then, and only then, the settings with defaults are refused, for the resolver,
which is on by default and has nobody to ask.
-/
theorem validate_withDefaults (s : Settings) (servers : Servers) (ipv6 : Bool)
    (valid : s.validate servers ipv6 = .ok ()) :
    (s.withDefaults.validate servers ipv6 ≠ .ok () ↔
        s.dns.serverEnabled = none ∧ s.dns.upstreamProviders = some []) ∧
      (s.dns.serverEnabled = none ∧ s.dns.upstreamProviders = some [] →
        s.withDefaults.validate servers ipv6 = .error (.invalid .dns .noUpstream)) := by
  have ok := (Dns.complaint?_eq_none_iff _).1 ((validate_eq_ok_iff servers ipv6 s).1 valid .dns)
  have refused (alone : s.dns.serverEnabled = none ∧ s.dns.upstreamProviders = some []) :
      s.withDefaults.validate servers ipv6 = .error (.invalid .dns .noUpstream) := by
    rw [validate_eq_error_iff]
    refine ⟨Dns.complaint?_atop_defaults ok alone.1 alone.2, [.controlServer], _, rfl, fun g before => ?_⟩
    obtain rfl := List.mem_singleton.1 before
    exact groupComplaint?_withDefaults valid nofun
  refine ⟨⟨fun invalid => ?_, fun alone => ?_⟩, refused⟩
  · by_contra some_upstream
    refine invalid ((validate_eq_ok_iff servers ipv6 _).2 fun g => ?_)
    by_cases resolver : g = .dns
    · subst resolver
      exact (Dns.complaint?_eq_none_iff _).2 (ok.atop_defaults some_upstream)
    · exact groupComplaint?_withDefaults valid resolver
  · rw [refused alone]
    exact nofun

/-- Valid settings for the custom provider with as few fields as can be, and nobody upstream. -/
def emptyUpstream : Settings where
  controlServer := { address := ":8000" }
  dns := { address := "::1", upstreamProviders := some [], updatePeriod := some 0 }
  health := {
    serverAddress := ":9999", targetAddress := "[::1]:443", successWait := some 1, vpnInitial := some 1
    vpnAddition := some 1 }
  httpProxy := { listeningAddress := ":8888" }
  log := { level := "INFO" }
  publicIp := { period := some 0, api := "ipinfo" }
  shadowsocks := { address := ":8388", cipher := "aes-128-gcm" }
  system := { userId := some 0, groupId := some 0 }
  updater := { period := some 0, dnsAddress := "1.1.1.1:53", minRatio := some .one }
  vpn := {
    kind := Catalogue.openvpn, provider := { name := "Custom" }
    openvpn := { version := "2.5", protocol := "udp" } }
  profiling := { blockProfileRate := some 0, mutexProfileRate := some 0, address := ":6060" }

theorem validate_withDefaults_emptyUpstream :
    emptyUpstream.validate {} false = .ok () ∧
      emptyUpstream.withDefaults.validate {} false = .error (.invalid .dns .noUpstream) ∧
      let switchedOff := { emptyUpstream with dns := { emptyUpstream.dns with serverEnabled := some false } }
      switchedOff.validate {} false = .ok () ∧ switchedOff.withDefaults.validate {} false = .ok () := by
  have valid : emptyUpstream.validate {} false = .ok () := by decide +kernel
  refine ⟨valid, (validate_withDefaults _ {} false valid).2 ⟨rfl, rfl⟩, ?_⟩
  intro switchedOff
  have valid : switchedOff.validate {} false = .ok () := by decide +kernel
  refine ⟨valid, ?_⟩
  by_contra invalid
  cases ((validate_withDefaults _ {} false valid).1.1 invalid).1

end Settings
end TunnelSettings
