import TunnelSettings.Proofs.Acceptance
import TunnelSettings.Settings.Summary

/-!
The part of a tunnel that is in use. A tunnel has a part for each kind, and only the part for its own kind is
checked and shown: the one for OpenVPN if that is its kind, and the other one in all other cases. So the part
that is not in use can be anything, until an override changes the kind; then the other part has to be
acceptable for the override to be taken.
-/
namespace TunnelSettings

/-- Two tunnels of the same kind and provider, with the same part in use. -/
structure Vpn.SameInUse (v w : Vpn) : Prop where
  kind : v.kind = w.kind
  provider : v.provider = w.provider
  openvpn : v.kind = some Catalogue.openvpn → v.openvpn = w.openvpn
  wireguard : v.kind ≠ some Catalogue.openvpn → v.wireguard = w.wireguard

namespace Vpn.SameInUse

variable {v w : Vpn}

theorem activeComplaint?_eq (same : v.SameInUse w) (ipv6 : Bool) :
    v.activeComplaint? ipv6 = w.activeComplaint? ipv6 := by
  rw [activeComplaint?, activeComplaint?, ← same.kind, ← same.provider]
  split
  · next active => rw [same.openvpn active]
  · next other => rw [same.wireguard other]

theorem complaint?_eq (same : v.SameInUse w) (servers : Servers) (ipv6 : Bool) :
    v.complaint? servers ipv6 = w.complaint? servers ipv6 := by
  rw [complaint?, complaint?, same.kind, same.provider, same.activeComplaint?_eq ipv6]

theorem summary_eq (same : v.SameInUse w) : v.summary = w.summary := by
  rw [summary, summary, ← same.kind, ← same.provider]
  split
  · next active => rw [same.openvpn active]
  · next other => rw [same.wireguard other]

theorem of_openvpn (active : v.kind = some Catalogue.openvpn) (wireguard : Wireguard) :
    v.SameInUse { v with wireguard } :=
  ⟨rfl, rfl, fun _ => rfl, fun other => absurd active other⟩

theorem of_other (other : v.kind ≠ some Catalogue.openvpn) (openvpn : OpenVpn) :
    v.SameInUse { v with openvpn } :=
  ⟨rfl, rfl, fun active => absurd active other, fun _ => rfl⟩

end Vpn.SameInUse

namespace Settings

/-- The settings with another tunnel. -/
def withTunnel (s : Settings) (vpn : Vpn) : Settings := { s with vpn }

variable {s : Settings} {v : Vpn}

theorem validate_withTunnel (same : s.vpn.SameInUse v) (servers : Servers) (ipv6 : Bool) :
    (s.withTunnel v).validate servers ipv6 = s.validate servers ipv6 := by
  refine validate_congr servers ipv6 fun g => ?_
  cases g with
  | vpn => exact (same.complaint?_eq servers ipv6).symm
  | _ => rfl

theorem summaryText_withTunnel (same : s.vpn.SameInUse v) : (s.withTunnel v).summaryText = s.summaryText := by
  have summary_eq : (s.withTunnel v).summary = s.summary := by
    simp only [summary, withTunnel, same.summary_eq]
  rw [summaryText, summaryText, summary_eq]

/-- In valid settings the tunnel names its kind and its provider, and the part for the kind has no complaint. -/
theorem exists_active_of_valid {servers : Servers} {ipv6 : Bool} (valid : s.validate servers ipv6 = .ok ()) :
    ∃ name, s.vpn.provider.name = some name ∧
      (s.vpn.kind = some Catalogue.openvpn ∧ s.vpn.openvpn.complaint? name = none ∨
        s.vpn.kind = some Catalogue.wireguard ∧ s.vpn.wireguard.complaint? ipv6 = none) := by
  obtain ⟨kind, ⟨name, named, -, -, -, openvpn⟩, wireguard⟩ := vpn_of_valid valid
  refine ⟨name, named, kind.imp (fun active => ⟨active, ?_⟩) fun active => ⟨active, ?_⟩⟩
  · exact (OpenVpn.complaint?_eq_none_iff _ name).2 (openvpn active)
  · exact (Wireguard.complaint?_eq_none_iff _ ipv6).2 (wireguard active)

/--
If the kind of the tunnel is OpenVPN, the outcome of validation and the summary do not depend on its Wireguard
part, and if the kind is anything else or unset, not on its OpenVPN part. After an override that is taken, the
kind and the provider are the new ones where they are given, and the part for that kind has no complaint.
-/
theorem unusedPart_decides_nothing (s : Settings) :
    (s.vpn.kind = some Catalogue.openvpn → ∀ wireguard : Wireguard,
      (∀ servers ipv6, ({ s with vpn := { s.vpn with wireguard } } : Settings).validate servers ipv6 =
        s.validate servers ipv6) ∧
      ({ s with vpn := { s.vpn with wireguard } } : Settings).summaryText = s.summaryText) ∧
    (s.vpn.kind ≠ some Catalogue.openvpn → ∀ openvpn : OpenVpn,
      (∀ servers ipv6, ({ s with vpn := { s.vpn with openvpn } } : Settings).validate servers ipv6 =
        s.validate servers ipv6) ∧
      ({ s with vpn := { s.vpn with openvpn } } : Settings).summaryText = s.summaryText) ∧
    ∀ fragment servers ipv6 t, s.override fragment servers ipv6 = .ok t →
      t.vpn.kind = fragment.vpn.kind.or s.vpn.kind ∧
      ∃ name, fragment.vpn.provider.name.or s.vpn.provider.name = some name ∧
        (t.vpn.kind = some Catalogue.openvpn ∧ t.vpn.openvpn.complaint? name = none ∨
          t.vpn.kind = some Catalogue.wireguard ∧ t.vpn.wireguard.complaint? ipv6 = none) := by
  refine ⟨fun active wireguard => ?_, fun other openvpn => ?_, fun fragment servers ipv6 t taken => ?_⟩
  · have same := Vpn.SameInUse.of_openvpn active wireguard
    exact ⟨validate_withTunnel same, summaryText_withTunnel same⟩
  · have same := Vpn.SameInUse.of_other other openvpn
    exact ⟨validate_withTunnel same, summaryText_withTunnel same⟩
  · obtain ⟨valid, rfl⟩ := (override_eq_ok_iff servers ipv6 s fragment t).1 taken
    exact ⟨rfl, exists_active_of_valid valid⟩

/-- A fragment that changes the kind of a tunnel to Wireguard, with all that is needed for that. -/
def toWireguard : Settings := { vpn := {
  kind := Catalogue.wireguard
  wireguard := {
    privateKey := "AAAAAAAAAAAAAAAAAAAAAAAAAAAAAAAAAAAAAAAAAAA=", addresses := some ["10.0.0.2/32"] } } }

theorem unusedPart_decides_nothing_toWireguard :
    plainExample.vpn.kind = some Catalogue.openvpn ∧
      ({ plainExample with vpn := { plainExample.vpn with wireguard := {} } } : Settings).validate {} false =
        plainExample.validate {} false ∧
      toWireguard.vpn.kind ≠ some Catalogue.openvpn ∧
      ({ toWireguard with vpn := { toWireguard.vpn with openvpn := .defaults } } : Settings).summaryText =
        toWireguard.summaryText ∧
      ∃ t, plainExample.override toWireguard {} false = .ok t ∧ t.vpn.kind = some Catalogue.wireguard ∧
        t.vpn.wireguard.complaint? false = none := by
  have active : plainExample.vpn.kind = some Catalogue.openvpn := by decide
  have other : toWireguard.vpn.kind ≠ some Catalogue.openvpn := by decide
  have taken := (override_eq_ok_iff {} false plainExample toWireguard _).2 ⟨by decide +kernel, rfl⟩
  obtain ⟨ofOpenvpn, -, switched⟩ := unusedPart_decides_nothing plainExample
  obtain ⟨-, ofOther, -⟩ := unusedPart_decides_nothing toWireguard
  refine ⟨active, (ofOpenvpn active {}).1 {} false, other, (ofOther other .defaults).2, _, taken, ?_⟩
  obtain ⟨-, name, -, ⟨kind, -⟩ | found⟩ := switched toWireguard {} false _ taken
  · exact absurd kind (by decide)
  · exact found

end Settings
end TunnelSettings
