import TunnelSettings.Settings.Basic

/-!
Layers of settings. `atop a b` is what is seen of two layers that lie on each other: a field as it is set
in `a`, and as it is in `b` where `a` leaves it unset. Merging another state into one puts it below,
overriding puts it on top.
-/
namespace TunnelSettings

/-- Types whose values can lie on each other. -/
class Layered (α : Type) where
  atop : α → α → α
  /-- The layer through which everything is seen. -/
  clear : α

namespace Layered

instance {α : Type} : Layered (Option α) := ⟨Option.or, none⟩

instance : Layered ControlServer where
  atop a b := { address := atop a.address b.address, log := atop a.log b.log }
  clear := {}

instance : Layered Dns where
  atop a b := {
    serverEnabled := atop a.serverEnabled b.serverEnabled
    address := atop a.address b.address
    keepNameserver := atop a.keepNameserver b.keepNameserver
    upstreamProviders := atop a.upstreamProviders b.upstreamProviders
    caching := atop a.caching b.caching
    blockMalicious := atop a.blockMalicious b.blockMalicious
    blockAds := atop a.blockAds b.blockAds
    blockSurveillance := atop a.blockSurveillance b.blockSurveillance
    allowedHosts := atop a.allowedHosts b.allowedHosts
    updatePeriod := atop a.updatePeriod b.updatePeriod }
  clear := {}

instance : Layered Firewall where
  atop a b := {
    enabled := atop a.enabled b.enabled
    vpnInputPorts := atop a.vpnInputPorts b.vpnInputPorts
    inputPorts := atop a.inputPorts b.inputPorts
    outboundSubnets := atop a.outboundSubnets b.outboundSubnets
    debug := atop a.debug b.debug }
  clear := {}

instance : Layered Health where
  atop a b := {
    serverAddress := atop a.serverAddress b.serverAddress
    targetAddress := atop a.targetAddress b.targetAddress
    successWait := atop a.successWait b.successWait
    vpnInitial := atop a.vpnInitial b.vpnInitial
    vpnAddition := atop a.vpnAddition b.vpnAddition }
  clear := {}

instance : Layered HttpProxy where
  atop a b := {
    enabled := atop a.enabled b.enabled
    user := atop a.user b.user
    password := atop a.password b.password
    listeningAddress := atop a.listeningAddress b.listeningAddress
    stealth := atop a.stealth b.stealth
    log := atop a.log b.log }
  clear := {}

instance : Layered Log where
  atop a b := { level := atop a.level b.level }
  clear := {}

instance : Layered PublicIp where
  atop a b := {
    period := atop a.period b.period
    filePath := atop a.filePath b.filePath
    api := atop a.api b.api
    token := atop a.token b.token }
  clear := {}

instance : Layered Shadowsocks where
  atop a b := {
    enabled := atop a.enabled b.enabled
    address := atop a.address b.address
    cipher := atop a.cipher b.cipher
    password := atop a.password b.password
    log := atop a.log b.log }
  clear := {}

instance : Layered System where
  atop a b := {
    userId := atop a.userId b.userId
    groupId := atop a.groupId b.groupId
    timezone := atop a.timezone b.timezone }
  clear := {}

instance : Layered Updater where
  atop a b := {
    period := atop a.period b.period
    dnsAddress := atop a.dnsAddress b.dnsAddress
    minRatio := atop a.minRatio b.minRatio
    providers := atop a.providers b.providers }
  clear := {}

instance : Layered Version where
  atop a b := { enabled := atop a.enabled b.enabled }
  clear := {}

instance : Layered ServerSelection where
  atop a b := {
    countries := atop a.countries b.countries
    regions := atop a.regions b.regions
    cities := atop a.cities b.cities
    isps := atop a.isps b.isps
    hostnames := atop a.hostnames b.hostnames
    names := atop a.names b.names }
  clear := {}

instance : Layered Provider where
  atop a b := { name := atop a.name b.name, selection := atop a.selection b.selection }
  clear := {}

instance : Layered OpenVpn where
  atop a b := {
    version := atop a.version b.version
    user := atop a.user b.user
    password := atop a.password b.password
    ciphers := atop a.ciphers b.ciphers
    protocol := atop a.protocol b.protocol }
  clear := {}

instance : Layered Wireguard where
  atop a b := {
    privateKey := atop a.privateKey b.privateKey
    addresses := atop a.addresses b.addresses
    implementation := atop a.implementation b.implementation }
  clear := {}

instance : Layered Vpn where
  atop a b := {
    kind := atop a.kind b.kind
    provider := atop a.provider b.provider
    openvpn := atop a.openvpn b.openvpn
    wireguard := atop a.wireguard b.wireguard }
  clear := {}

instance : Layered Profiling where
  atop a b := {
    enabled := atop a.enabled b.enabled
    blockProfileRate := atop a.blockProfileRate b.blockProfileRate
    mutexProfileRate := atop a.mutexProfileRate b.mutexProfileRate
    address := atop a.address b.address }
  clear := {}

instance : Layered Settings where
  atop a b := {
    controlServer := atop a.controlServer b.controlServer
    dns := atop a.dns b.dns
    firewall := atop a.firewall b.firewall
    health := atop a.health b.health
    httpProxy := atop a.httpProxy b.httpProxy
    log := atop a.log b.log
    publicIp := atop a.publicIp b.publicIp
    shadowsocks := atop a.shadowsocks b.shadowsocks
    system := atop a.system b.system
    updater := atop a.updater b.updater
    version := atop a.version b.version
    vpn := atop a.vpn b.vpn
    profiling := atop a.profiling b.profiling }
  clear := {}

end Layered

namespace Settings

/-- Put a state below this one: what is set here stays. -/
def merge (s other : Settings) : Settings := Layered.atop s other

/-- Put a state on top of this one: what is set there counts. -/
def overlay (s other : Settings) : Settings := Layered.atop other s

end Settings
end TunnelSettings
