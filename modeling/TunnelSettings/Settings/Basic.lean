import TunnelSettings.Number.Binary64

/-!
The settings of a VPN client: thirteen groups of fields, some of them in groups of their own. A field
that is `none` is unset. Durations are in seconds.
-/
namespace TunnelSettings

/-- The server through which the client is controlled. -/
structure ControlServer where
  address : Option String := none
  log : Option Bool := none
  deriving DecidableEq

/-- The resolver of names. -/
structure Dns where
  serverEnabled : Option Bool := none
  /-- The name server that the host is told to use. -/
  address : Option String := none
  keepNameserver : Option Bool := none
  upstreamProviders : Option (List String) := none
  caching : Option Bool := none
  blockMalicious : Option Bool := none
  blockAds : Option Bool := none
  blockSurveillance : Option Bool := none
  /-- Hosts that are never blocked. -/
  allowedHosts : Option (List String) := none
  /-- How often the block lists are fetched; zero for never. -/
  updatePeriod : Option Int := none
  deriving DecidableEq

/-- What may pass beside the tunnel and through it. -/
structure Firewall where
  enabled : Option Bool := none
  /-- Ports that are open through the tunnel. -/
  vpnInputPorts : Option (List Int) := none
  /-- Ports that are open beside the tunnel. -/
  inputPorts : Option (List Int) := none
  /-- Networks that may be reached beside the tunnel. -/
  outboundSubnets : Option (List String) := none
  debug : Option Bool := none
  deriving DecidableEq

/-- How the health of the tunnel is checked. -/
structure Health where
  serverAddress : Option String := none
  targetAddress : Option String := none
  successWait : Option Int := none
  vpnInitial : Option Int := none
  vpnAddition : Option Int := none
  deriving DecidableEq

/-- The web proxy. -/
structure HttpProxy where
  enabled : Option Bool := none
  user : Option String := none
  password : Option String := none
  listeningAddress : Option String := none
  stealth : Option Bool := none
  log : Option Bool := none
  deriving DecidableEq

/-- How much is logged. -/
structure Log where
  level : Option String := none
  deriving DecidableEq

/-- How the public address is looked up. -/
structure PublicIp where
  /-- How often the address is looked up; zero for never. -/
  period : Option Int := none
  filePath : Option String := none
  api : Option String := none
  token : Option String := none
  deriving DecidableEq

/-- The Shadowsocks proxy. -/
structure Shadowsocks where
  enabled : Option Bool := none
  address : Option String := none
  cipher : Option String := none
  password : Option String := none
  log : Option Bool := none
  deriving DecidableEq

/-- The account that the client runs under, and its time zone. -/
structure System where
  userId : Option Int := none
  groupId : Option Int := none
  timezone : Option String := none
  deriving DecidableEq

/-- The updater of server data. -/
structure Updater where
  period : Option Int := none
  dnsAddress : Option String := none
  /-- The least ratio of new servers to old ones at which new data is taken. -/
  minRatio : Option Binary64 := none
  providers : Option (List String) := none
  deriving DecidableEq

/-- Whether newer versions are looked for. -/
structure Version where
  enabled : Option Bool := none
  deriving DecidableEq

/-- Filters for the servers of a provider. -/
structure ServerSelection where
  countries : Option (List String) := none
  regions : Option (List String) := none
  cities : Option (List String) := none
  isps : Option (List String) := none
  hostnames : Option (List String) := none
  names : Option (List String) := none
  deriving DecidableEq

/-- The company that runs the servers, and which of them may be used. -/
structure Provider where
  name : Option String := none
  selection : ServerSelection := {}
  deriving DecidableEq

/-- The tunnel if its kind is OpenVPN. -/
structure OpenVpn where
  version : Option String := none
  user : Option String := none
  password : Option String := none
  ciphers : Option (List String) := none
  protocol : Option String := none
  deriving DecidableEq

/-- The tunnel if its kind is Wireguard. -/
structure Wireguard where
  privateKey : Option String := none
  /-- Addresses of the tunnel's interface, as networks. -/
  addresses : Option (List String) := none
  implementation : Option String := none
  deriving DecidableEq

/-- The tunnel. Only the part for its kind is checked and shown. -/
structure Vpn where
  kind : Option String := none
  provider : Provider := {}
  openvpn : OpenVpn := {}
  wireguard : Wireguard := {}
  deriving DecidableEq

/-- The server of run-time profiles. -/
structure Profiling where
  enabled : Option Bool := none
  blockProfileRate : Option Int := none
  mutexProfileRate : Option Int := none
  address : Option String := none
  deriving DecidableEq

/-- All settings. -/
structure Settings where
  controlServer : ControlServer := {}
  dns : Dns := {}
  firewall : Firewall := {}
  health : Health := {}
  httpProxy : HttpProxy := {}
  log : Log := {}
  publicIp : PublicIp := {}
  shadowsocks : Shadowsocks := {}
  system : System := {}
  updater : Updater := {}
  version : Version := {}
  vpn : Vpn := {}
  profiling : Profiling := {}
  deriving DecidableEq

/-- Whether two states are equal: field by field, the two zeros of a ratio counting as one. -/
def Settings.same (s t : Settings) : Bool :=
  let ratiosSame := match s.updater.minRatio, t.updater.minRatio with
    | some x, some y => x.same y
    | none, none => true
    | _, _ => false
  ratiosSame && s = { t with updater := { t.updater with minRatio := s.updater.minRatio } }

/-- The same settings with a mark of its own on a ratio that is no number: such a ratio is the same only as
its own copies. -/
def Settings.marked (s : Settings) (mark : Nat) : Settings :=
  match s.updater.minRatio with
  | some (.nan _) => { s with updater := { s.updater with minRatio := some (.nan mark) } }
  | _ => s

end TunnelSettings
