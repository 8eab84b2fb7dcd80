import TunnelSettings.Settings.Basic
import TunnelSettings.Value.Basic

/-!
Settings as untyped data. `toValue` has every field, unset ones as null; `toRaw` leaves out what is unset
and the groups that have nothing else.
-/
namespace TunnelSettings

/-- Types whose values can be written as untyped data. -/
class ToValue (α : Type) where
  toValue : α → Value

export ToValue (toValue)

namespace ToValue

instance : ToValue Bool := ⟨.bool⟩
instance : ToValue Int := ⟨.int⟩
instance : ToValue Binary64 := ⟨.float⟩
instance : ToValue String := ⟨.text⟩

instance {α : Type} [ToValue α] : ToValue (List α) := ⟨fun xs => .list (xs.map toValue)⟩

instance {α : Type} [ToValue α] : ToValue (Option α) := ⟨fun x => (x.map toValue).getD .null⟩

/-- An entry for a field. -/
def entry {α : Type} [ToValue α] (key : String) (x : α) : Value × Value := (.text key, toValue x)

instance : ToValue ControlServer where
  toValue c := .map [entry "address" c.address, entry "log" c.log]

instance : ToValue Dns where
  toValue d := .map [
    entry "server_enabled" d.serverEnabled, entry "address" d.address,
    entry "keep_nameserver" d.keepNameserver, entry "upstream_providers" d.upstreamProviders,
    entry "caching" d.caching, entry "block_malicious" d.blockMalicious,
    entry "block_ads" d.blockAds, entry "block_surveillance" d.blockSurveillance,
    entry "allowed_hosts" d.allowedHosts, entry "update_period" d.updatePeriod]

instance : ToValue Firewall where
  toValue f := .map [
    entry "enabled" f.enabled, entry "vpn_input_ports" f.vpnInputPorts,
    entry "input_ports" f.inputPorts, entry "outbound_subnets" f.outboundSubnets,
    entry "debug" f.debug]

instance : ToValue Health where
  toValue h := .map [
    entry "server_address" h.serverAddress, entry "target_address" h.targetAddress,
    entry "success_wait" h.successWait, entry "vpn_initial" h.vpnInitial,
    entry "vpn_addition" h.vpnAddition]

instance : ToValue HttpProxy where
  toValue h := .map [
    entry "enabled" h.enabled, entry "user" h.user, entry "password" h.password,
    entry "listening_address" h.listeningAddress, entry "stealth" h.stealth, entry "log" h.log]

instance : ToValue Log where
  toValue l := .map [entry "level" l.level]

instance : ToValue PublicIp where
  toValue p := .map [
    entry "period" p.period, entry "ip_filepath" p.filePath, entry "api" p.api, entry "token" p.token]

instance : ToValue Shadowsocks where
  toValue s := .map [
    entry "enabled" s.enabled, entry "address" s.address, entry "cipher" s.cipher,
    entry "password" s.password, entry "log" s.log]

instance : ToValue System where
  toValue s := .map [entry "puid" s.userId, entry "pgid" s.groupId, entry "timezone" s.timezone]

instance : ToValue Updater where
  toValue u := .map [
    entry "period" u.period, entry "dns_address" u.dnsAddress, entry "min_ratio" u.minRatio,
    entry "providers" u.providers]

instance : ToValue Version where
  toValue v := .map [entry "enabled" v.enabled]

instance : ToValue ServerSelection where
  toValue s := .map [
    entry "countries" s.countries, entry "regions" s.regions, entry "cities" s.cities,
    entry "isps" s.isps, entry "hostnames" s.hostnames, entry "names" s.names]

instance : ToValue Provider where
  toValue p := .map [entry "name" p.name, entry "server_selection" p.selection]

instance : ToValue OpenVpn where
  toValue o := .map [
    entry "version" o.version, entry "user" o.user, entry "password" o.password,
    entry "ciphers" o.ciphers, entry "protocol" o.protocol]

instance : ToValue Wireguard where
  toValue w := .map [
    entry "private_key" w.privateKey, entry "addresses" w.addresses,
    entry "implementation" w.implementation]

instance : ToValue Vpn where
  toValue v := .map [
    entry "type" v.kind, entry "provider" v.provider, entry "openvpn" v.openvpn,
    entry "wireguard" v.wireguard]

instance : ToValue Profiling where
  toValue p := .map [
    entry "enabled" p.enabled, entry "block_profile_rate" p.blockProfileRate,
    entry "mutex_profile_rate" p.mutexProfileRate, entry "address" p.address]

instance : ToValue Settings where
  toValue s := .map [
    entry "control_server" s.controlServer, entry "dns" s.dns, entry "firewall" s.firewall,
    entry "health" s.health, entry "http_proxy" s.httpProxy, entry "log" s.log,
    entry "public_ip" s.publicIp, entry "shadowsocks" s.shadowsocks, entry "system" s.system,
    entry "updater" s.updater, entry "version" s.version, entry "vpn" s.vpn,
    entry "profiling" s.profiling]

end ToValue

namespace Value

mutual

/-- A mapping without its null entries and without the mappings in it that are thereby empty. -/
def pruned : Value → Value
  | .map es => .map (prunedEntries es)
  | v => v

def prunedEntries : List (Value × Value) → List (Value × Value)
  | [] => []
  | (_, .null) :: es => prunedEntries es
  | (k, v) :: es =>
    match pruned v with
    | .map [] => prunedEntries es
    | w => (k, w) :: prunedEntries es

end

end Value

/-- The untyped data of settings, with what is unset left out. -/
def Settings.toRaw (s : Settings) : Value := (toValue s).pruned

end TunnelSettings
