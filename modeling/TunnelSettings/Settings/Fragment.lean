import TunnelSettings.Settings.Reading
import TunnelSettings.Text.Casing

/-!
Fragments: settings as one file gives them, to be layered with others. The names of the tunnel's kind and
of its provider are written in small letters, and a secret that the file does not mention may come from
the environment.
-/
namespace TunnelSettings

/-- The secrets that the environment gives. An empty one counts as not given. The environment is the one in which a
settings file is read: what a `.env` file adds to it, which is there by then, is part of it. -/
structure Secrets where
  openvpnUser : Option String := none
  openvpnPassword : Option String := none
  wireguardKey : Option String := none
  shadowsocksPassword : Option String := none
  deriving DecidableEq

/-- Whether a path of section names and a field name leads to any entry, be it null. -/
def Section.mentions : List String → Section → Bool
  | [], _ => true
  | [key], s => (Value.find? key s).isSome
  | key :: next :: rest, s =>
    match (Value.find? key s).bind Value.entries? with
    | some es => mentions (next :: rest) es
    | none => false

/-- A field as the file has it, or what the environment gives if the file does not mention it. -/
def Section.orGiven (s : Section) (path : List String) (field given : Option String) : Option String :=
  if s.mentions path then field else given.filter fun t => !t.isEmpty

namespace Settings

/-- The settings with secrets from the environment where the file does not mention them. -/
def withSecrets (s : Settings) (file : Section) (env : Secrets) : Settings :=
  let shadowsocks := { s.shadowsocks with
    password := file.orGiven ["shadowsocks", "password"] s.shadowsocks.password env.shadowsocksPassword }
  let openvpn := { s.vpn.openvpn with
    user := file.orGiven ["vpn", "openvpn", "user"] s.vpn.openvpn.user env.openvpnUser
    password := file.orGiven ["vpn", "openvpn", "password"] s.vpn.openvpn.password env.openvpnPassword }
  let wireguard := { s.vpn.wireguard with
    privateKey :=
      file.orGiven ["vpn", "wireguard", "private_key"] s.vpn.wireguard.privateKey env.wireguardKey }
  { s with shadowsocks, vpn := { s.vpn with openvpn, wireguard } }

/-- The settings with the names of the kind of tunnel and of the provider in small letters. -/
def withSmallNames (s : Settings) : Settings :=
  let provider := { s.vpn.provider with name := s.vpn.provider.name.map Text.lower }
  { s with vpn := { s.vpn with kind := s.vpn.kind.map Text.lower, provider } }

/-- The settings that untyped data and the environment give. -/
def fragment (raw : Value) (env : Secrets) : Except Failure Settings := do
  let s ← ofValue raw
  return s.withSmallNames.withSecrets (raw.entries?.getD []) env

end Settings
end TunnelSettings
