import Mathlib.Tactic.FinCases
import TunnelSettings.Settings.Defaults
import TunnelSettings.Settings.Field
import TunnelSettings.Settings.Validity

/-!
Settings seen through their fields. The fields determine the settings, layers lie on each other field by
field, and the complaint about a group depends on nothing but the fields of that group.
-/
namespace TunnelSettings

open Layered ToValue

attribute [ext] ControlServer Dns Firewall Health HttpProxy Log PublicIp Shadowsocks System Updater
  Version ServerSelection Provider OpenVpn Wireguard Vpn Profiling Settings

/-- Types whose values are written as data other than null, and different ones as different data. -/
class Plain (α : Type) [ToValue α] : Prop where
  ne_null (x : α) : toValue x ≠ .null
  inj {x y : α} : toValue x = toValue y → x = y

namespace Plain

instance : Plain Bool := ⟨fun _ h => (by cases h), fun h => Value.bool.inj h⟩
instance : Plain Int := ⟨fun _ h => (by cases h), fun h => Value.int.inj h⟩
instance : Plain Binary64 := ⟨fun _ h => (by cases h), fun h => Value.float.inj h⟩
instance : Plain String := ⟨fun _ h => (by cases h), fun h => Value.text.inj h⟩

instance {α : Type} [ToValue α] [Plain α] : Plain (List α) where
  ne_null _ h := by cases h
  inj {xs ys} h := by
    have h : xs.map toValue = ys.map toValue := Value.list.inj h
    exact List.map_injective_iff.mpr (fun _ _ => Plain.inj) h

end Plain

section

variable {α : Type} [ToValue α]

@[simp] theorem toValue_none : toValue (none : Option α) = .null := rfl
@[simp] theorem toValue_some (x : α) : toValue (some x) = toValue x := rfl

@[simp] theorem Value.isNull_iff (v : Value) : v.isNull = true ↔ v = .null := by
  cases v <;> simp [Value.isNull]

variable [Plain α]

@[simp] theorem isNull_toValue (a : Option α) : (toValue a).isNull = a.isNone := by
  cases a with
  | none => rfl
  | some x => simpa [← Bool.not_eq_true] using Plain.ne_null x

theorem toValue_inj (a b : Option α) : toValue a = toValue b ↔ a = b := by
  refine ⟨fun h => ?_, fun h => h ▸ rfl⟩
  cases a with
  | none =>
    cases b with
    | none => rfl
    | some y => exact absurd h.symm (Plain.ne_null y)
  | some x =>
    cases b with
    | none => exact absurd h (Plain.ne_null x)
    | some y => rw [Plain.inj (show toValue x = toValue y from h)]

/-- Of two layers the upper one is seen where it is set. -/
theorem toValue_atop (a b : Option α) :
    toValue (atop a b) = if (toValue a).isNull then toValue b else toValue a := by
  cases a with
  | none => rfl
  | some x => rw [isNull_toValue]; rfl

end

namespace Settings

/-- The paths of all fields, written out. -/
theorem fieldPaths_eq : fieldPaths = [
    ["control_server", "address"], ["control_server", "log"], ["dns", "server_enabled"],
    ["dns", "address"], ["dns", "keep_nameserver"], ["dns", "upstream_providers"], ["dns", "caching"],
    ["dns", "block_malicious"], ["dns", "block_ads"], ["dns", "block_surveillance"],
    ["dns", "allowed_hosts"], ["dns", "update_period"], ["firewall", "enabled"],
    ["firewall", "vpn_input_ports"], ["firewall", "input_ports"], ["firewall", "outbound_subnets"],
    ["firewall", "debug"], ["health", "server_address"], ["health", "target_address"],
    ["health", "success_wait"], ["health", "vpn_initial"], ["health", "vpn_addition"],
    ["http_proxy", "enabled"], ["http_proxy", "user"], ["http_proxy", "password"],
    ["http_proxy", "listening_address"], ["http_proxy", "stealth"], ["http_proxy", "log"],
    ["log", "level"], ["public_ip", "period"], ["public_ip", "ip_filepath"], ["public_ip", "api"],
    ["public_ip", "token"], ["shadowsocks", "enabled"], ["shadowsocks", "address"],
    ["shadowsocks", "cipher"], ["shadowsocks", "password"], ["shadowsocks", "log"], ["system", "puid"],
    ["system", "pgid"], ["system", "timezone"], ["updater", "period"], ["updater", "dns_address"],
    ["updater", "min_ratio"], ["updater", "providers"], ["version", "enabled"], ["vpn", "type"],
    ["vpn", "provider", "name"], ["vpn", "provider", "server_selection", "countries"],
    ["vpn", "provider", "server_selection", "regions"],
    ["vpn", "provider", "server_selection", "cities"], ["vpn", "provider", "server_selection", "isps"],
    ["vpn", "provider", "server_selection", "hostnames"],
    ["vpn", "provider", "server_selection", "names"], ["vpn", "openvpn", "version"],
    ["vpn", "openvpn", "user"], ["vpn", "openvpn", "password"], ["vpn", "openvpn", "ciphers"],
    ["vpn", "openvpn", "protocol"], ["vpn", "wireguard", "private_key"],
    ["vpn", "wireguard", "addresses"], ["vpn", "wireguard", "implementation"], ["profiling", "enabled"],
    ["profiling", "block_profile_rate"], ["profiling", "mutex_profile_rate"],
    ["profiling", "address"]] := rfl

/-- Whether two states have the same group. -/
def SameGroup (s t : Settings) : Group → Prop
  | .controlServer => s.controlServer = t.controlServer
  | .dns => s.dns = t.dns
  | .firewall => s.firewall = t.firewall
  | .health => s.health = t.health
  | .httpProxy => s.httpProxy = t.httpProxy
  | .log => s.log = t.log
  | .publicIp => s.publicIp = t.publicIp
  | .shadowsocks => s.shadowsocks = t.shadowsocks
  | .system => s.system = t.system
  | .updater => s.updater = t.updater
  | .version => s.version = t.version
  | .vpn => s.vpn = t.vpn
  | .profiling => s.profiling = t.profiling

theorem ext_group (s t : Settings) (h : ∀ g, SameGroup s t g) : s = t :=
  Settings.ext (h .controlServer) (h .dns) (h .firewall) (h .health) (h .httpProxy) (h .log)
    (h .publicIp) (h .shadowsocks) (h .system) (h .updater) (h .version) (h .vpn) (h .profiling)

/-- A group is determined by its fields. -/
theorem sameGroup_of_field (s t : Settings) (g : Group)
    (h : ∀ path ∈ fieldPaths, path.head? = some g.key → s.field path = t.field path) :
    SameGroup s t g := by
  simp only [fieldPaths_eq, List.forall_mem_cons, List.head?_cons, Option.some.injEq] at h
  cases g <;> simp only [Group.key, String.reduceEq, false_imp_iff, true_imp_iff, true_and,
    List.not_mem_nil, implies_true, and_true] at h
  all_goals
    simp only [SameGroup, ControlServer.ext_iff, Dns.ext_iff, Firewall.ext_iff, Health.ext_iff,
      HttpProxy.ext_iff, Log.ext_iff, PublicIp.ext_iff, Shadowsocks.ext_iff, System.ext_iff,
      Updater.ext_iff, Version.ext_iff, ServerSelection.ext_iff, Provider.ext_iff, OpenVpn.ext_iff,
      Wireguard.ext_iff, Vpn.ext_iff, Profiling.ext_iff, ← toValue_inj, and_assoc]
    exact h

theorem ext_field (s t : Settings) (h : ∀ path ∈ fieldPaths, s.field path = t.field path) : s = t :=
  ext_group s t fun g => sameGroup_of_field s t g fun path hp _ => h path hp

/-- The complaint about a group depends on that group alone. -/
theorem SameGroup.groupComplaint?_eq {s t : Settings} {g : Group} (h : SameGroup s t g)
    (servers : Servers) (ipv6 : Bool) :
    s.groupComplaint? servers ipv6 g = t.groupComplaint? servers ipv6 g := by
  cases g <;> simp only [SameGroup] at h <;> simp only [groupComplaint?, h]

theorem isSet_eq_false_iff (s : Settings) (path : List String) : s.isSet path = false ↔ s.field path = .null := by
  rw [isSet, Bool.not_eq_false', Value.isNull_iff]

/-- Layers lie on each other field by field. -/
theorem field_atop (s t : Settings) : ∀ path ∈ fieldPaths,
    (atop s t).field path = if s.isSet path then s.field path else t.field path := by
  have layered : ∀ path ∈ fieldPaths, (atop s t).field path =
      if (s.field path).isNull then t.field path else s.field path := by
    intro path h
    rw [fieldPaths_eq] at h
    fin_cases h <;> exact toValue_atop _ _
  intro path h
  rw [layered path h, isSet]
  cases (s.field path).isNull <;> rfl

theorem field_merge (s other : Settings) (path : List String) (h : path ∈ fieldPaths) :
    (s.merge other).field path = if s.isSet path then s.field path else other.field path :=
  field_atop s other path h

theorem field_overlay (s other : Settings) (path : List String) (h : path ∈ fieldPaths) :
    (s.overlay other).field path = if other.isSet path then other.field path else s.field path :=
  field_atop other s path h

theorem isSet_overlay (s other : Settings) (path : List String) (h : path ∈ fieldPaths) :
    (s.overlay other).isSet path = (other.isSet path || s.isSet path) := by
  rw [isSet, field_overlay s other path h]
  cases hs : other.isSet path with
  | true => exact hs
  | false => rfl

theorem isSet_merge (s other : Settings) (path : List String) (h : path ∈ fieldPaths) :
    (s.merge other).isSet path = (s.isSet path || other.isSet path) :=
  isSet_overlay other s path h

theorem isComplete_defaults (provider : String) : (defaults provider).IsComplete := by
  intro path h
  rw [fieldPaths_eq] at h
  fin_cases h <;> rfl

/-- The layer of defaults leaves no field unset. -/
theorem isComplete_withDefaults (s : Settings) : s.withDefaults.IsComplete := by
  intro path h
  rw [withDefaults, isSet_merge s _ path h, isComplete_defaults _ path h, Bool.or_true]

/-- What is put below complete settings is not seen. -/
theorem IsComplete.merge_eq {s : Settings} (h : s.IsComplete) (other : Settings) :
    s.merge other = s := by
  apply ext_field
  intro path hp
  rw [field_merge s other path hp, if_pos (h path hp)]

theorem IsComplete.withDefaults_eq {s : Settings} (h : s.IsComplete) : s.withDefaults = s :=
  h.merge_eq _

theorem IsComplete.overlay {s : Settings} (h : s.IsComplete) (other : Settings) :
    (s.overlay other).IsComplete := by
  intro path hp
  rw [isSet_overlay s other path hp, h path hp, Bool.or_true]

end Settings
end TunnelSettings
