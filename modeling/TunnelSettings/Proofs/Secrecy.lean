import TunnelSettings.Proofs.Overrides
import TunnelSettings.Settings.Advice
import TunnelSettings.Settings.Summary

/-!
What settings tell of their secrets. The summary says of each only whether there is one, the advice reads
none, and the rules ask of a secret whether it is there; of the private key they also ask how long it is.
So settings that differ in their secrets alone cannot be told apart by what is said about them.
-/
namespace TunnelSettings

theorem isEmpty_getD (secret : Option String) : (secret.getD "").isEmpty = isBare secret := by
  cases secret <;> simp [isBare]

theorem Show.secret_congr {a b : Option String} (same : isBare a = isBare b) : secret a = secret b := by
  rw [secret, secret, isEmpty_getD, isEmpty_getD, same]

/-! ### Groups that hold secrets -/

namespace HttpProxy

variable (h : HttpProxy) {password : Option String}

theorem summary_withPassword (same : isBare password = isBare h.password) :
    ({ h with password } : HttpProxy).summary = h.summary := by
  simp only [summary, Show.secret_congr same]

end HttpProxy

namespace PublicIp

variable (p : PublicIp) {token : Option String}

theorem summary_withToken (same : isBare token = isBare p.token) :
    ({ p with token } : PublicIp).summary = p.summary := by
  simp only [summary, isEmpty_getD, Show.secret_congr same, same]

end PublicIp

namespace Shadowsocks

variable (s : Shadowsocks) {password : Option String}

theorem summary_withPassword (same : isBare password = isBare s.password) :
    ({ s with password } : Shadowsocks).summary = s.summary := by
  simp only [summary, Show.secret_congr same]

theorem complaint?_withPassword (same : isBare password = isBare s.password) :
    ({ s with password } : Shadowsocks).complaint? = s.complaint? := by
  simp only [complaint?, same]

end Shadowsocks

namespace OpenVpn

variable (o : OpenVpn) {user password : Option String}

theorem summary_withCredentials (sameUser : isBare user = isBare o.user)
    (samePassword : isBare password = isBare o.password) :
    ({ o with user, password } : OpenVpn).summary = o.summary := by
  simp only [summary, Show.secret_congr sameUser, Show.secret_congr samePassword]

theorem complaint?_withCredentials (sameUser : isBare user = isBare o.user)
    (samePassword : isBare password = isBare o.password) (provider : String) :
    ({ o with user, password } : OpenVpn).complaint? provider = o.complaint? provider := by
  simp only [complaint?, sameUser, samePassword]

end OpenVpn

namespace Wireguard

variable (w : Wireguard) {privateKey : Option String}

theorem summary_withKey (same : isBare privateKey = isBare w.privateKey) :
    ({ w with privateKey } : Wireguard).summary = w.summary := by
  simp only [summary, Show.secret_congr same]

/-- The rule for the key reads from it whether it is there, and its length. -/
theorem keyComplaint?_congr {key other : Option String} (same : isBare key = isBare other)
    (length : Text.base64Length? (key.getD "") = Text.base64Length? (other.getD "")) :
    keyComplaint? key = keyComplaint? other := by
  rw [keyComplaint?, keyComplaint?, same, length]

theorem complaint?_withKey (same : keyComplaint? privateKey = keyComplaint? w.privateKey) (ipv6 : Bool) :
    ({ w with privateKey } : Wireguard).complaint? ipv6 = w.complaint? ipv6 := by
  simp only [complaint?, same]

end Wireguard

namespace Settings

/-- The fields that hold secrets. -/
def secretPaths : List (List String) := [
  ["vpn", "openvpn", "user"], ["vpn", "openvpn", "password"], ["vpn", "wireguard", "private_key"],
  ["http_proxy", "password"], ["shadowsocks", "password"], ["public_ip", "token"]]

/-- Two settings differ in nothing but their secrets, and the same secrets are there. -/
structure AlikeBesideSecrets (s t : Settings) : Prop where
  plain : ∀ path ∈ fieldPaths, path ∉ secretPaths → s.field path = t.field path
  secret : ∀ path ∈ secretPaths, (s.field path).isTruthy = (t.field path).isTruthy

/-- Settings with the secrets of others. -/
def withSecretsOf (s t : Settings) : Settings :=
  { s with
    httpProxy := { s.httpProxy with password := t.httpProxy.password }
    publicIp := { s.publicIp with token := t.publicIp.token }
    shadowsocks := { s.shadowsocks with password := t.shadowsocks.password }
    vpn := { s.vpn with
      openvpn := { s.vpn.openvpn with user := t.vpn.openvpn.user, password := t.vpn.openvpn.password }
      wireguard := { s.vpn.wireguard with privateKey := t.vpn.wireguard.privateKey } } }

theorem field_withSecretsOf (s t : Settings) : ∀ path ∈ fieldPaths,
    (s.withSecretsOf t).field path = if path ∈ secretPaths then t.field path else s.field path := by
  intro path h
  rw [fieldPaths_eq] at h
  fin_cases h <;> rfl

theorem AlikeBesideSecrets.withSecretsOf_eq {s t : Settings} (alike : s.AlikeBesideSecrets t) :
    s.withSecretsOf t = t := by
  refine ext_field _ _ fun path h => ?_
  rw [field_withSecretsOf s t path h]
  split
  · rfl
  · next plain => exact alike.plain path h plain

theorem isTruthy_toValue (secret : Option String) : (toValue secret).isTruthy = !isBare secret := by
  cases secret <;> simp [isBare, Value.isTruthy, toValue]

/-- The same secrets are there. -/
structure SameGiven (s t : Settings) : Prop where
  user : isBare t.vpn.openvpn.user = isBare s.vpn.openvpn.user
  password : isBare t.vpn.openvpn.password = isBare s.vpn.openvpn.password
  privateKey : isBare t.vpn.wireguard.privateKey = isBare s.vpn.wireguard.privateKey
  proxyPassword : isBare t.httpProxy.password = isBare s.httpProxy.password
  serverPassword : isBare t.shadowsocks.password = isBare s.shadowsocks.password
  token : isBare t.publicIp.token = isBare s.publicIp.token

theorem AlikeBesideSecrets.sameGiven {s t : Settings} (alike : s.AlikeBesideSecrets t) :
    s.SameGiven t := by
  have bare (a b : Option String) (same : (toValue a).isTruthy = (toValue b).isTruthy) :
      isBare b = isBare a := by
    rw [isTruthy_toValue, isTruthy_toValue] at same
    exact (Bool.not_inj same).symm
  have given := alike.secret
  simp only [secretPaths, List.forall_mem_cons] at given
  obtain ⟨user, password, privateKey, proxyPassword, serverPassword, token, -⟩ := given
  exact ⟨bare _ _ user, bare _ _ password, bare _ _ privateKey, bare _ _ proxyPassword,
    bare _ _ serverPassword, bare _ _ token⟩

variable {s t : Settings}

theorem summary_withSecretsOf (given : s.SameGiven t) : (s.withSecretsOf t).summary = s.summary := by
  simp only [summary, withSecretsOf, Vpn.summary, HttpProxy.summary_withPassword _ given.proxyPassword,
    PublicIp.summary_withToken _ given.token, Shadowsocks.summary_withPassword _ given.serverPassword,
    OpenVpn.summary_withCredentials _ given.user given.password,
    Wireguard.summary_withKey _ given.privateKey]

theorem advice_withSecretsOf (s t : Settings) : (s.withSecretsOf t).advice = s.advice := rfl

theorem groupComplaint?_withSecretsOf (given : s.SameGiven t)
    (key : Wireguard.keyComplaint? t.vpn.wireguard.privateKey =
      Wireguard.keyComplaint? s.vpn.wireguard.privateKey) (servers : Servers) (ipv6 : Bool) (g : Group) :
    (s.withSecretsOf t).groupComplaint? servers ipv6 g = s.groupComplaint? servers ipv6 g := by
  cases g with
  | shadowsocks => exact Shadowsocks.complaint?_withPassword _ given.serverPassword
  | vpn =>
    simp only [groupComplaint?, withSecretsOf, Vpn.complaint?, Vpn.activeComplaint?,
      OpenVpn.complaint?_withCredentials _ given.user given.password, Wireguard.complaint?_withKey _ key]
  | _ => rfl

/-- Nothing that is said about settings tells apart two that differ in their secrets alone: neither their
summary nor the advice on them, and their validation only through the length of a private key. -/
theorem AlikeBesideSecrets.tells_nothing (alike : s.AlikeBesideSecrets t) :
    s.summaryText = t.summaryText ∧ s.warnings = t.warnings ∧
      ∀ (servers : Servers) (ipv6 : Bool),
        Text.base64Length? (s.vpn.wireguard.privateKey.getD "") =
            Text.base64Length? (t.vpn.wireguard.privateKey.getD "") →
          s.validate servers ipv6 = t.validate servers ipv6 := by
  -- With the secrets of `t` instead of its own `s` is `t`, and nothing that is said of it changes.
  have given := alike.sameGiven
  have same := alike.withSecretsOf_eq
  have summaries := summary_withSecretsOf given
  have advice := advice_withSecretsOf s t
  rw [same] at summaries advice
  refine ⟨?_, ?_, fun servers ipv6 length => ?_⟩
  · rw [summaryText, summaryText, summaries]
  · rw [warnings, warnings, advice]
  · refine validate_congr servers ipv6 fun g => ?_
    have key := Wireguard.keyComplaint?_congr given.privateKey length.symm
    rw [← groupComplaint?_withSecretsOf given key servers ipv6 g, same]

/-- Settings of a tunnel, and of servers beside it, whose secrets are all set. -/
def secretive (word key : String) : Settings :=
  withDefaults {
    httpProxy := { enabled := true, password := word }
    publicIp := { token := word }
    shadowsocks := { enabled := true, password := word }
    vpn := {
      kind := Catalogue.wireguard
      provider := { name := "mullvad" }
      openvpn := { user := word, password := word }
      wireguard := { privateKey := key, addresses := some ["10.0.0.2/32"] } } }

def oneKey : String := "MDEyMzQ1Njc4OTAxMjM0NTY3ODkwMTIzNDU2Nzg5MDE="

def anotherKey : String := "YWJjZGVmZ2hpamtsbW5vcHFyc3R1dnd4eXphYmNkZWY="

theorem tells_nothing_secretive :
    (secretive "one" oneKey).AlikeBesideSecrets (secretive "another" anotherKey) ∧
      (secretive "one" oneKey).summaryText = (secretive "another" anotherKey).summaryText ∧
      (secretive "one" oneKey).validate {} false = .ok () ∧
      (secretive "another" anotherKey).validate {} false = .ok () := by
  have alike : (secretive "one" oneKey).AlikeBesideSecrets (secretive "another" anotherKey) := by
    refine ⟨fun path h plain => ?_, by decide +kernel⟩
    rw [fieldPaths_eq] at h
    fin_cases h <;> first | rfl | exact absurd (by decide) plain
  have valid : (secretive "one" oneKey).validate {} false = .ok () := by decide +kernel
  obtain ⟨summaries, -, verdicts⟩ := alike.tells_nothing
  exact ⟨alike, summaries, valid, (verdicts {} false (by decide +kernel)).symm.trans valid⟩

end Settings
end TunnelSettings
