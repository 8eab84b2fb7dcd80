import TunnelSettings.Settings.Basic
import TunnelSettings.Value.Conversion

/-!
Settings from untyped data: a mapping from group names to sections, each of them a mapping from field
names to values. What is null or not there stays unset, and what has no name here is passed over.
-/
namespace TunnelSettings

/-- The entries of a mapping whose keys name fields or further sections. -/
abbrev Section := List (Value × Value)

namespace Section

def flag (key : String) (s : Section) : Except Failure (Option Bool) :=
  Value.optional Value.toBool (Value.find? key s)

def integer (key : String) (s : Section) : Except Failure (Option Int) :=
  Value.optional Value.toInt (Value.find? key s)

def decimal (key : String) (s : Section) : Except Failure (Option Binary64) :=
  Value.optional Value.toFloat (Value.find? key s)

def text (key : String) (s : Section) : Except Failure (Option String) :=
  Value.optional Value.toText (Value.find? key s)

def texts (key : String) (s : Section) : Except Failure (Option (List String)) :=
  Value.optional (Value.toList Value.toText) (Value.find? key s)

def integers (key : String) (s : Section) : Except Failure (Option (List Int)) :=
  Value.optional (Value.toList Value.toInt) (Value.find? key s)

/-- A section within a section; one that is null or not there is empty. -/
def inner (name : String) (s : Section) : Except Failure Section :=
  match Value.find? name s with
  | none | some .null => .ok []
  | some v =>
    match v.entries? with
    | some es => .ok es
    | none => .error (.sectionNotMapping name)

end Section

open Section

def ControlServer.ofSection (s : Section) : Except Failure ControlServer := do
  return { address := ← text "address" s, log := ← flag "log" s }

def Dns.ofSection (s : Section) : Except Failure Dns := do
  return {
    serverEnabled := ← flag "server_enabled" s
    address := ← text "address" s
    keepNameserver := ← flag "keep_nameserver" s
    upstreamProviders := ← texts "upstream_providers" s
    caching := ← flag "caching" s
    blockMalicious := ← flag "block_malicious" s
    blockAds := ← flag "block_ads" s
    blockSurveillance := ← flag "block_surveillance" s
    allowedHosts := ← texts "allowed_hosts" s
    updatePeriod := ← integer "update_period" s }

def Firewall.ofSection (s : Section) : Except Failure Firewall := do
  return {
    enabled := ← flag "enabled" s
    vpnInputPorts := ← integers "vpn_input_ports" s
    inputPorts := ← integers "input_ports" s
    outboundSubnets := ← texts "outbound_subnets" s
    debug := ← flag "debug" s }

def Health.ofSection (s : Section) : Except Failure Health := do
  return {
    serverAddress := ← text "server_address" s
    targetAddress := ← text "target_address" s
    successWait := ← integer "success_wait" s
    vpnInitial := ← integer "vpn_initial" s
    vpnAddition := ← integer "vpn_addition" s }

def HttpProxy.ofSection (s : Section) : Except Failure HttpProxy := do
  return {
    enabled := ← flag "enabled" s
    user := ← text "user" s
    password := ← text "password" s
    listeningAddress := ← text "listening_address" s
    stealth := ← flag "stealth" s
    log := ← flag "log" s }

def Log.ofSection (s : Section) : Except Failure Log := do
  return { level := ← text "level" s }

def PublicIp.ofSection (s : Section) : Except Failure PublicIp := do
  return {
    period := ← integer "period" s
    filePath := ← text "ip_filepath" s
    api := ← text "api" s
    token := ← text "token" s }

def Shadowsocks.ofSection (s : Section) : Except Failure Shadowsocks := do
  return {
    enabled := ← flag "enabled" s
    address := ← text "address" s
    cipher := ← text "cipher" s
    password := ← text "password" s
    log := ← flag "log" s }

def System.ofSection (s : Section) : Except Failure System := do
  return {
    userId := ← integer "puid" s
    groupId := ← integer "pgid" s
    timezone := ← text "timezone" s }

def Updater.ofSection (s : Section) : Except Failure Updater := do
  return {
    period := ← integer "period" s
    dnsAddress := ← text "dns_address" s
    minRatio := ← decimal "min_ratio" s
    providers := ← texts "providers" s }

def Version.ofSection (s : Section) : Except Failure Version := do
  return { enabled := ← flag "enabled" s }

def ServerSelection.ofSection (s : Section) : Except Failure ServerSelection := do
  return {
    countries := ← texts "countries" s
    regions := ← texts "regions" s
    cities := ← texts "cities" s
    isps := ← texts "isps" s
    hostnames := ← texts "hostnames" s
    names := ← texts "names" s }

def OpenVpn.ofSection (s : Section) : Except Failure OpenVpn := do
  return {
    version := ← text "version" s
    user := ← text "user" s
    password := ← text "password" s
    ciphers := ← texts "ciphers" s
    protocol := ← text "protocol" s }

def Wireguard.ofSection (s : Section) : Except Failure Wireguard := do
  return {
    privateKey := ← text "private_key" s
    addresses := ← texts "addresses" s
    implementation := ← text "implementation" s }

/-- All sections of the tunnel are looked up before any of their fields. -/
def Vpn.ofSection (s : Section) : Except Failure Vpn := do
  let provider ← inner "provider" s
  let selection ← inner "server_selection" provider
  let openvpn ← inner "openvpn" s
  let wireguard ← inner "wireguard" s
  let name ← text "name" provider
  let kind ← text "type" s
  return {
    kind
    provider := { name, selection := ← ServerSelection.ofSection selection }
    openvpn := ← OpenVpn.ofSection openvpn
    wireguard := ← Wireguard.ofSection wireguard }

def Profiling.ofSection (s : Section) : Except Failure Profiling := do
  return {
    enabled := ← flag "enabled" s
    blockProfileRate := ← integer "block_profile_rate" s
    mutexProfileRate := ← integer "mutex_profile_rate" s
    address := ← text "address" s }

namespace Settings

/-- The three smallest groups are looked up first; apart from that the order is that of the groups. -/
def ofSection (s : Section) : Except Failure Settings := do
  let system ← inner "system" s
  let log ← inner "log" s
  let version ← inner "version" s
  return {
    controlServer := ← ControlServer.ofSection (← inner "control_server" s)
    dns := ← Dns.ofSection (← inner "dns" s)
    firewall := ← Firewall.ofSection (← inner "firewall" s)
    health := ← Health.ofSection (← inner "health" s)
    httpProxy := ← HttpProxy.ofSection (← inner "http_proxy" s)
    log := ← Log.ofSection log
    publicIp := ← PublicIp.ofSection (← inner "public_ip" s)
    shadowsocks := ← Shadowsocks.ofSection (← inner "shadowsocks" s)
    system := ← System.ofSection system
    updater := ← Updater.ofSection (← inner "updater" s)
    version := ← Version.ofSection version
    vpn := ← Vpn.ofSection (← inner "vpn" s)
    profiling := ← Profiling.ofSection (← inner "profiling" s) }

/-- The settings that untyped data give; they have to be a mapping. -/
def ofValue (v : Value) : Except Failure Settings :=
  match v.entries? with
  | some es => ofSection es
  | none => .error (.noMember v.kind "get")

end Settings
end TunnelSettings
