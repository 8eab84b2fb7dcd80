import TunnelSettings.Settings.Basic
import TunnelSettings.Settings.Catalogue

/-!
Advice on settings that are valid but may not work well.
-/
namespace TunnelSettings

/-- A piece of advice, with the provider that it names. -/
inductive Advice where
  /-- The provider no longer supports the tunnel on this system. -/
  | supportDropped
  /-- A provider with weak security is used with a version that allows it. -/
  | weakSecurityAllowed (provider : String)
  /-- A provider with weak security is used with a version that refuses it. -/
  | weakSecurityRefused (provider : String)
  | versionToBeRemoved
  deriving DecidableEq, Repr

/-- The text of a piece of advice. -/
def Advice.message : Advice → String
  | supportDropped => "HideMyAss dropped support for Linux OpenVPN so this will likely not work anymore."
  | weakSecurityAllowed provider =>
    "OpenVPN 2.4 uses OpenSSL 1.1.1 which allows the usage of weak security in today's standards. " ++
    "This can be ok if good security is enforced by the VPN provider. However, " ++ provider ++
    " uses weak security so you should use OpenVPN 2.5 to enforce good security practices."
  | weakSecurityRefused provider =>
    "OpenVPN 2.5 uses OpenSSL 3 which prohibits the usage of weak security in today's standards. " ++
    provider ++ " uses weak security which is out of our control so the only workaround is to allow " ++
    "such weaknesses using the OpenVPN option tls-cipher \"DEFAULT:@SECLEVEL=0\". " ++
    "You might want to reach to your provider so they upgrade their certificates."
  | versionToBeRemoved =>
    "OpenVPN 2.4 will be removed in a future release. " ++
    "Please create an issue if you have a compelling reason to keep it."

namespace Settings

/-- The provider that dropped its support. -/
def supportDroppedBy : String := "hidemyass"

/-- The provider whose security is weak. -/
def weakProvider : String := "slickvpn"

/-- The version that will be removed. -/
def oldVersion : String := "2.4"

/-- The advice on settings; it depends on the provider, the kind of tunnel and the version alone. -/
def advice (s : Settings) : List Advice :=
  let provider := Text.lower (s.vpn.provider.name.getD "")
  let isOld := s.vpn.openvpn.version = some oldVersion
  let isWeak := provider = weakProvider && s.vpn.kind = some Catalogue.openvpn
  (if provider = supportDroppedBy then [.supportDropped] else []) ++
  (if !isWeak then [] else if isOld then [.weakSecurityAllowed provider]
    else [.weakSecurityRefused provider]) ++
  (if isOld then [.versionToBeRemoved] else [])

/-- The advice on settings as text. -/
def warnings (s : Settings) : List String := s.advice.map Advice.message

end Settings
end TunnelSettings
