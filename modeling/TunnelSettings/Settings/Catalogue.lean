import TunnelSettings.Number.Binary64
import TunnelSettings.Text.Casing

/-!
The names that settings may use, and the values that stand for unset fields.
-/
namespace TunnelSettings

/-- Whether a text is one of some names, in any letter case. -/
def isOneOf (s : Option String) (names : List String) : Bool :=
  s.any fun s => names.any fun n => Text.lower s = Text.lower n

namespace Catalogue

def openvpn : String := "openvpn"

def wireguard : String := "wireguard"

def tunnelKinds : List String := [openvpn, wireguard]

def openvpnVersions : List String := ["2.4", "2.5", "2.6"]

def openvpnProtocols : List String := ["udp", "tcp"]

/-- The provider whose servers are not known. -/
def custom : String := "custom"

def providers : List String := [
  "airvpn", "custom", "cyberghost", "expressvpn", "fastestvpn", "hidemyass", "ipvanish", "ivpn",
  "mullvad", "nordvpn", "perfect privacy", "privado", "private internet access", "privatevpn",
  "protonvpn", "purevpn", "slickvpn", "surfshark", "torguard", "vpn unlimited", "vpnsecure",
  "vyprvpn", "windscribe"]

def wireguardProviders : List String := [
  "airvpn", "custom", "fastestvpn", "ivpn", "mullvad", "nordvpn", "protonvpn", "surfshark",
  "windscribe"]

/-- Providers that know a client by certificates or keys alone. -/
def withoutUser : List String := ["airvpn", "custom", "vpnsecure"]

/-- Providers that know a client by one name alone. -/
def withoutPassword : List String := ["ivpn", "mullvad"]

def upstreamProviders : List String := [
  "cleanbrowsing", "cloudflare", "google", "libredns", "opendns", "quad9", "quadrant"]

def logLevels : List String := ["debug", "info", "warning", "error"]

def publicIpApis : List String := ["cloudflare", "ip2location", "ipinfo"]

def shadowsocksCiphers : List String := ["aes-128-gcm", "aes-256-gcm", "chacha20-ietf-poly1305"]

def wireguardImplementations : List String := ["auto", "kernelspace", "userspace"]

/-! ### Least periods -/

def minDnsPeriod : Int := 60

def minPublicIpPeriod : Int := 5

def minUpdaterPeriod : Int := 60

/-- Four fifths, as near as a binary number comes. -/
def defaultMinRatio : Binary64 := .ofDecimal false 8 (-1)

end Catalogue
end TunnelSettings
