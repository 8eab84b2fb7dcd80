import TunnelSettings.Proofs.Overrides
import TunnelSettings.Proofs.Reading

/-!
Fragments and the environment. A secret that a file does not mention comes from the environment before it
is known where the fragment will lie, and so an override replaces it although its file does not say so.
-/
namespace TunnelSettings

namespace Secrets

/-- What the environment has for each field that is a secret. -/
def entries (env : Secrets) : List (List String × Option String) := [
  (["shadowsocks", "password"], env.shadowsocksPassword),
  (["vpn", "openvpn", "user"], env.openvpnUser),
  (["vpn", "openvpn", "password"], env.openvpnPassword),
  (["vpn", "wireguard", "private_key"], env.wireguardKey)]

/-- The secret that the environment gives for a field. -/
def given? (env : Secrets) (path : List String) : Option String :=
  (env.entries.lookup path).join.filter fun t => !t.isEmpty

theorem given?_none (path : List String) : ({} : Secrets).given? path = none := by
  have all : ∀ e ∈ ({} : Secrets).entries, e.2 = none := by decide
  rw [given?]
  cases found : ({} : Secrets).entries.lookup path with
  | none => rfl
  | some secret =>
    obtain ⟨before, after, split, -⟩ := List.lookup_eq_some_iff.1 found
    have none : secret = none := all (path, secret) (by simp [split])
    rw [none]
    rfl

end Secrets

theorem Section.toValue_orGiven (s : Section) (path : List String) (field given : Option String) :
    toValue (s.orGiven path field given) =
      if s.mentions path then toValue field else toValue (given.filter fun t => !t.isEmpty) := by
  rw [orGiven]
  split <;> rfl

namespace Settings

/-- The environment gives nothing but secrets, and those only where the file does not mention them. -/
theorem field_withSecrets (s : Settings) (es : Section) (env : Secrets) (path : List String)
    (h : path ∈ fieldPaths) :
    (s.withSecrets es env).field path =
      if (env.entries.lookup path).isNone || es.mentions path then s.field path
      else toValue (env.given? path) := by
  rw [fieldPaths_eq] at h
  fin_cases h <;> first | rfl | exact Section.toValue_orGiven _ _ _ _

/-- The fields that hold names to be written in small letters. -/
def smallPaths : List (List String) := [["vpn", "type"], ["vpn", "provider", "name"]]

def lowered : Value → Value
  | .text t => .text (Text.lower t)
  | v => v

theorem field_withSmallNames (s : Settings) (path : List String) (h : path ∈ fieldPaths) :
    s.withSmallNames.field path =
      if path ∈ smallPaths then lowered (s.field path) else s.field path := by
  have small (t : Option String) : toValue (t.map Text.lower) = lowered (toValue t) := by
    cases t <;> rfl
  rw [fieldPaths_eq] at h
  fin_cases h <;> first | rfl | exact small _

theorem fragment_eq_ok_iff (es : Section) (env : Secrets) (fragment : Settings) :
    Settings.fragment (.map es) env = .ok fragment ↔
      ∃ s, ofSection es = .ok s ∧ s.withSmallNames.withSecrets es env = fragment := by
  rw [Settings.fragment, bind_eq_ok_iff]
  exact exists_congr fun s => and_congr Iff.rfl ⟨Except.ok.inj, congrArg _⟩

theorem field_withSmallNames_of_absent {es : Section} {s : Settings} (read : ofSection es = .ok s)
    (path : List String) (hp : path ∈ fieldPaths) (absent : es.mentions path = false) :
    s.withSmallNames.field path = .null := by
  rw [field_withSmallNames s path hp, field_of_not_mentioned es s read path hp absent]
  split <;> rfl

/-- A field that a file does not mention has what the environment gives for it, if anything. -/
theorem field_fragment_of_absent (es : Section) (env : Secrets) (fragment : Settings)
    (built : Settings.fragment (.map es) env = .ok fragment) (path : List String)
    (hp : path ∈ fieldPaths) (absent : es.mentions path = false) :
    fragment.field path = toValue (env.given? path) := by
  obtain ⟨s, read, rfl⟩ := (fragment_eq_ok_iff es env fragment).1 built
  rw [field_withSecrets _ es env path hp, absent, Bool.or_false,
    field_withSmallNames_of_absent read path hp absent]
  cases found : env.entries.lookup path with
  | none => simp [Secrets.given?, found]
  | some secret => rfl

/-- A fragment is what is read, with two names in small letters, if the environment gives no secrets. -/
theorem fragment_eq_ok_iff_of_no_secrets (es : Section) (f : Settings) :
    fragment (.map es) {} = .ok f ↔ ∃ s, ofSection es = .ok s ∧ s.withSmallNames = f := by
  rw [fragment_eq_ok_iff]
  refine exists_congr fun s => and_congr_right fun read => ?_
  have same : s.withSmallNames.withSecrets es {} = s.withSmallNames := by
    refine ext_field _ _ fun path hp => ?_
    rw [field_withSecrets _ es {} path hp]
    split
    · rfl
    · next missing =>
      rw [Bool.or_eq_true, not_or, Bool.not_eq_true, Bool.not_eq_true] at missing
      rw [field_withSmallNames_of_absent read path hp missing.2, Secrets.given?_none]
      rfl
  rw [same]

theorem eq_overlay_of_taken (servers : Servers) (ipv6 : Bool) (s t other : Settings)
    (taken : (putOnTop other servers ipv6).run s = (.ok (), t)) : t = s.overlay other :=
  ((putOnTop_eq_ok_iff servers ipv6 s other t).1 taken).2

/-- After an accepted override by a file, a field that the file does not mention has the secret that the
environment gives for it, or else what it had; so these fields are all kept just if each of the secrets
that are given for them is what the settings had. -/
theorem field_override_of_absent (servers : Servers) (ipv6 : Bool) (s t fragment : Settings)
    (es : Section) (env : Secrets) (built : Settings.fragment (.map es) env = .ok fragment)
    (taken : (putOnTop fragment servers ipv6).run s = (.ok (), t)) :
    (∀ path ∈ fieldPaths, es.mentions path = false →
        t.field path = ((env.given? path).map Value.text).getD (s.field path)) ∧
      ((∀ path ∈ fieldPaths, es.mentions path = false → t.field path = s.field path) ↔
        ∀ path ∈ fieldPaths, es.mentions path = false →
          ∀ secret, env.given? path = some secret → s.field path = .text secret) := by
  have seen : ∀ path ∈ fieldPaths, es.mentions path = false →
      t.field path = ((env.given? path).map Value.text).getD (s.field path) := by
    intro path hp absent
    rw [eq_overlay_of_taken servers ipv6 s t fragment taken, field_overlay s fragment path hp, isSet,
      field_fragment_of_absent es env fragment built path hp absent]
    cases env.given? path <;> rfl
  refine ⟨seen, ?_⟩
  constructor
  · intro kept path hp absent secret given
    rw [← kept path hp absent, seen path hp absent, given]
    rfl
  · intro same path hp absent
    rw [seen path hp absent]
    cases given : env.given? path with
    | none => rfl
    | some secret => exact (same path hp absent secret given).symm

/-- Settings with a password of their own. -/
def withPassword : Settings :=
  withDefaults { shadowsocks := { password := "kept" }, vpn := { provider := { name := "custom" } } }

/-- A file that mentions nothing but a level. -/
def levelFile : Section := [(.text "log", .map [(.text "level", .text "debug")])]

/-- What the file and a password in the environment give together. -/
def levelFragment : Settings := { log := { level := "debug" }, shadowsocks := { password := "given" } }

theorem putOnTop_levelFragment :
    (putOnTop levelFragment {} false).run withPassword = (.ok (), withPassword.overlay levelFragment) := by
  have clean : (withPassword.overlay levelFragment).complaint? {} false = none := by decide +kernel
  exact putOnTop_of_valid {} false _ _ (by rw [validate, clean])

theorem field_override_of_absent_levelFile :
    Settings.fragment (.map levelFile) { shadowsocksPassword := "given" } = .ok levelFragment ∧
      (withPassword.overlay levelFragment).field ["shadowsocks", "password"] = .text "given" :=
  ⟨rfl, (field_override_of_absent {} false withPassword _ levelFragment levelFile
    { shadowsocksPassword := "given" } rfl putOnTop_levelFragment).1 _ (by decide) rfl⟩

/-- An override replaces a password that its file does not mention. -/
theorem override_replaces_unmentioned :
    ∃ t, Settings.fragment (.map levelFile) { shadowsocksPassword := "given" } = .ok levelFragment ∧
      (putOnTop levelFragment {} false).run withPassword = (.ok (), t) ∧
      Section.mentions ["shadowsocks", "password"] levelFile = false ∧
      withPassword.field ["shadowsocks", "password"] = .text "kept" ∧
      t.field ["shadowsocks", "password"] = .text "given" :=
  ⟨_, rfl, putOnTop_levelFragment, rfl, rfl, rfl⟩

end Settings
end TunnelSettings
