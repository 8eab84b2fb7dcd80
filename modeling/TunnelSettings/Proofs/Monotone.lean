import TunnelSettings.Proofs.Acceptance

/-!
What validation owes to its surroundings. Server data and the host's kinds of addresses only matter for the
tunnel, and the more they offer the more is accepted. A host that can use the longer kind of address makes
a difference just to Wireguard tunnels that have one.
-/
namespace TunnelSettings

/-- Everything that one provider offers is offered by another too, up to letter case. -/
structure Choices.Within (c more : Choices) : Prop where
  countries : ∀ x ∈ c.countries, Known more.countries x
  regions : ∀ x ∈ c.regions, Known more.regions x
  cities : ∀ x ∈ c.cities, Known more.cities x
  isps : ∀ x ∈ c.isps, Known more.isps x
  hostnames : ∀ x ∈ c.hostnames, Known more.hostnames x
  names : ∀ x ∈ c.names, Known more.names x

theorem Known.mono {names more : List String} {name : String} (within : ∀ n ∈ names, Known more n)
    (known : Known names name) : Known more name := by
  obtain ⟨n, hn, same⟩ := known
  obtain ⟨m, hm, same'⟩ := within n hn
  exact ⟨m, hm, same.trans same'⟩

theorem ServerSelection.Offered.mono {s : ServerSelection} {c more : Choices} (within : c.Within more)
    (offered : s.Offered c) : s.Offered more where
  countries values set v hv := (offered.countries values set v hv).mono within.countries
  regions values set v hv := (offered.regions values set v hv).mono within.regions
  cities values set v hv := (offered.cities values set v hv).mono within.cities
  isps values set v hv := (offered.isps values set v hv).mono within.isps
  hostnames values set v hv := (offered.hostnames values set v hv).mono within.hostnames
  names values set v hv := (offered.names values set v hv).mono within.names

/-- Some address of the tunnel's interface is of the longer kind. -/
def Wireguard.HasLongAddress (w : Wireguard) : Prop :=
  ∃ addresses ∈ w.addresses, ∃ a ∈ addresses, ∃ n ∈ Net.network? a, n.version = .six

/-- Without the longer kind of address the same is acceptable that has none. -/
theorem Wireguard.acceptable_false_iff (w : Wireguard) :
    w.Acceptable false ↔ w.Acceptable true ∧ ¬ w.HasLongAddress := by
  constructor
  · rintro ⟨key, ⟨addresses, set, ne, each⟩, implementation⟩
    refine ⟨⟨key, ⟨addresses, set, ne, fun a ha => ?_⟩, implementation⟩, ?_⟩
    · obtain ⟨n, hn, -⟩ := each a ha
      exact ⟨n, hn, fun _ => rfl⟩
    · rintro ⟨others, set', a, ha, n, hn, six⟩
      obtain rfl := Option.mem_unique set set'
      obtain ⟨m, hm, short⟩ := each a ha
      obtain rfl := Option.mem_unique hn hm
      exact Bool.false_ne_true (short six)
  · rintro ⟨⟨key, ⟨addresses, set, ne, each⟩, implementation⟩, short⟩
    refine ⟨key, ⟨addresses, set, ne, fun a ha => ?_⟩, implementation⟩
    obtain ⟨n, hn, -⟩ := each a ha
    exact ⟨n, hn, fun six => absurd ⟨addresses, set, a, ha, n, hn, six⟩ short⟩

namespace Vpn

variable {v : Vpn} {servers more : Servers} {ipv6 : Bool}

theorem Acceptable.of_more (within : ∀ p, (servers.choices p).Within (more.choices p))
    (ok : v.Acceptable servers ipv6) : v.Acceptable more ipv6 := by
  obtain ⟨kind, ⟨name, named, known, capable, offered, openvpn⟩, wireguard⟩ := ok
  exact ⟨kind, ⟨name, named, known, capable, fun other => (offered other).mono (within _), openvpn⟩, wireguard⟩

theorem acceptable_false_iff :
    v.Acceptable servers false ↔ v.Acceptable servers true ∧
      (v.kind = some Catalogue.wireguard → ¬ v.wireguard.HasLongAddress) := by
  constructor
  · rintro ⟨kind, provider, wireguard⟩
    exact ⟨⟨kind, provider, fun active => ((Wireguard.acceptable_false_iff _).1 (wireguard active)).1⟩,
      fun active => ((Wireguard.acceptable_false_iff _).1 (wireguard active)).2⟩
  · rintro ⟨⟨kind, provider, wireguard⟩, short⟩
    exact ⟨kind, provider, fun active => (Wireguard.acceptable_false_iff _).2 ⟨wireguard active, short active⟩⟩

end Vpn

namespace Settings

variable {s : Settings} {servers more : Servers} {ipv6 able : Bool}

/-- Only the tunnel is judged by what servers offer and by what addresses the host can use. -/
theorem groupComplaint?_of_ne_vpn {g : Group} (h : g ≠ .vpn) :
    s.groupComplaint? servers ipv6 g = s.groupComplaint? more able g := by
  cases g with
  | vpn => exact absurd rfl h
  | _ => rfl

theorem validate_of_vpn (valid : s.validate servers ipv6 = .ok ()) (ok : s.vpn.Acceptable more able) :
    s.validate more able = .ok () := by
  rw [validate_eq_ok_iff] at valid ⊢
  intro g
  by_cases tunnel : g = .vpn
  · subst tunnel
    exact (Vpn.complaint?_eq_none_iff s.vpn more able).2 ok
  · rw [groupComplaint?_of_ne_vpn tunnel]
    exact valid g

/-- A host that cannot use the longer kind of address accepts the same settings but for the Wireguard
tunnels that have one. -/
theorem validate_false_iff (s : Settings) (servers : Servers) :
    s.validate servers false = .ok () ↔ s.validate servers true = .ok () ∧
      (s.vpn.kind = some Catalogue.wireguard → ¬ s.vpn.wireguard.HasLongAddress) := by
  constructor
  · intro valid
    obtain ⟨ok, short⟩ := Vpn.acceptable_false_iff.1 (vpn_of_valid valid)
    exact ⟨validate_of_vpn valid ok, short⟩
  · rintro ⟨valid, short⟩
    exact validate_of_vpn valid (Vpn.acceptable_false_iff.2 ⟨vpn_of_valid valid, short⟩)

/--
Settings that are accepted stay so where servers offer more, up to letter case, and where the host can use
more kinds of addresses. Whether it can use the longer kind decides on those settings, of all that it
accepts if it can, whose tunnel is of the Wireguard kind and has such an address.
-/
theorem validate_mono (s : Settings) (servers : Servers) :
    (∀ (more : Servers) (ipv6 able : Bool), (∀ p, (servers.choices p).Within (more.choices p)) →
        (ipv6 = true → able = true) → s.validate servers ipv6 = .ok () → s.validate more able = .ok ()) ∧
      (s.validate servers true = .ok () ∧ s.validate servers false ≠ .ok () ↔
        s.validate servers true = .ok () ∧ s.vpn.kind = some Catalogue.wireguard ∧
          s.vpn.wireguard.HasLongAddress) := by
  refine ⟨fun more ipv6 able within flag valid => ?_, and_congr_right fun valid => ?_⟩
  · have offered : s.validate more ipv6 = .ok () :=
      validate_of_vpn valid ((vpn_of_valid valid).of_more within)
    cases ipv6 with
    | true => rwa [flag rfl]
    | false =>
      cases able with
      | true => exact ((validate_false_iff s more).1 offered).1
      | false => exact offered
  · rw [ne_eq, validate_false_iff, and_iff_right valid, Classical.not_imp, not_not]

/-- Servers in one country. -/
def swedish : Servers := ⟨[("mullvad", { countries := ["Sweden"] })]⟩

/-- Servers in two countries, with other letters for the one that was there. -/
def nordic : Servers := ⟨[("ivpn", {}), ("mullvad", { countries := ["NORWAY", "SWEDEN"], cities := ["Oslo"] })]⟩

theorem swedish_within_nordic (p : String) : (swedish.choices p).Within (nordic.choices p) := by
  by_cases known : Text.lower p = "mullvad"
  · rw [Servers.choices, Servers.choices, known]
    exact ⟨List.forall_mem_singleton.2 ⟨"SWEDEN", by decide, by decide +kernel⟩, nofun, nofun, nofun, nofun, nofun⟩
  · have nothing : swedish.choices p = {} := by
      rw [Servers.choices, swedish, List.lookup_cons, beq_eq_false_iff_ne.2 known]
      rfl
    rw [nothing]
    exact ⟨nofun, nofun, nofun, nofun, nofun, nofun⟩

theorem validate_mono_nordic :
    let s := withDefaults { vpn := {
      provider := { name := "Mullvad", selection := { countries := some ["sweden"] } }
      openvpn := { user := "me" } } }
    s.validate swedish false = .ok () ∧ s.validate nordic true = .ok () := by
  intro s
  have valid : s.validate swedish false = .ok () := by decide +kernel
  exact ⟨valid, (validate_mono s swedish).1 nordic false true swedish_within_nordic (fun _ => rfl) valid⟩

end Settings
end TunnelSettings
