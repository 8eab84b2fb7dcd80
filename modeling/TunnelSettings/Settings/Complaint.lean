import TunnelSettings.Number.Integer
import TunnelSettings.Number.Shortest
import TunnelSettings.Text.Quoted

/-!
Why a group of settings is not valid. A complaint names the rule that is broken and the values that
break it; its wording is given in one place.
-/
namespace TunnelSettings

/-- The groups of settings, in the order in which they are checked. -/
inductive Group where
  | controlServer | dns | firewall | health | httpProxy | log | publicIp | shadowsocks | system
  | updater | version | vpn | profiling
  deriving DecidableEq, Repr

/-- All groups, in order. -/
def Group.all : List Group := [
  .controlServer, .dns, .firewall, .health, .httpProxy, .log, .publicIp, .shadowsocks, .system,
  .updater, .version, .vpn, .profiling]

/-- The name of a group in messages. -/
def Group.title : Group → String
  | controlServer => "control server"
  | dns => "dns"
  | firewall => "firewall"
  | health => "health"
  | httpProxy => "http proxy"
  | log => "log"
  | publicIp => "public ip check"
  | shadowsocks => "shadowsocks"
  | system => "system"
  | updater => "updater"
  | version => "version"
  | vpn => "VPN"
  | profiling => "profiling"

/-- The name of a group's section in files. -/
def Group.key : Group → String
  | controlServer => "control_server"
  | dns => "dns"
  | firewall => "firewall"
  | health => "health"
  | httpProxy => "http_proxy"
  | log => "log"
  | publicIp => "public_ip"
  | shadowsocks => "shadowsocks"
  | system => "system"
  | updater => "updater"
  | version => "version"
  | vpn => "vpn"
  | profiling => "profiling"

/-- A duration in seconds as hours, minutes and seconds, leaving out the parts that are zero. -/
def durationParts (seconds : Int) : List (Int × String) :=
  [(seconds.fdiv 3600, "h"), ((seconds.fmod 3600).fdiv 60, "m"), ((seconds.fmod 3600).fmod 60, "s")].filter
    (·.1 ≠ 0)

def durationText (seconds : Int) : Except NumberFault String := do
  if seconds = 0 then return "0s"
  let parts ← (durationParts seconds).mapM fun (n, unit) => return (← writeInteger n) ++ unit
  return "".intercalate parts

/-- Why a group is not valid. -/
inductive Complaint where
  | addressUnset (field : String)
  | portMissing (field address : String)
  | hostInvalid (field address : String)
  | portNotNumber (field address : String)
  | portOutOfRange (field : String) (port : Int)
  | periodNegative (field : String) (period : Option Int)
  | periodTooShort (field : String) (period minimum : Int)
  | notAnAddress (address : Option String)
  | noUpstream
  | unknownUpstream (name : String) (known : List String)
  | firewallPort (field : String) (port : Int)
  | notANetwork (subnet : String)
  | defaultRoute (subnet : String)
  | durationNotPositive (field : String) (duration : Option Int)
  | negative (field : String) (n : Option Int)
  | unknownChoice (field : String) (choice : Option String) (known : List String)
  | filePathUnset
  | serverPasswordUnset
  | ratioOutOfRange (ratio : Option Binary64)
  | notUpdatable (provider : String)
  | unknownProvider (name : Option String)
  | withoutWireguard (provider : String)
  | filterUnavailable (field value provider : String) (offered : List String)
  | userUnset (provider : String)
  | passwordUnset (provider : String)
  | emptyCipher
  | keyUnset
  | keyNotBase64
  | keyLength (bytes : Nat)
  | noInterfaceAddress
  | interfaceNotANetwork (address : String)
  | interfaceNeedsIPv6 (address : String)
  /-- The complaint is about a part of the group, named by the context. -/
  | inside (context : String) (complaint : Complaint)
  deriving DecidableEq

namespace Complaint

def quotedOr (s : Option String) : String := (s.map Text.quoted).getD "None"

/-- A message that shows an integer or the lack of one. -/
def showing (n : Option Int) (message : String → String) : String :=
  match n with
  | some n => showingInteger n message
  | none => message "None"

/-- A message that shows two durations. -/
def showingDurations (a b : Int) (message : String → String → String) : String :=
  match durationText a, durationText b with
  | .ok s, .ok t => message s t
  | .error f, _ | _, .error f => f.message

def commaList (items : List String) : String := ", ".intercalate items

def commaListOrNone (items : List String) : String :=
  if items.isEmpty then "[none]" else commaList items

/-- The text of a complaint. -/
def message : Complaint → String
  | addressUnset field => field ++ " must be set"
  | portMissing field address => field ++ " " ++ Text.quoted address ++ " is missing a port"
  | hostInvalid field address => field ++ " " ++ Text.quoted address ++ " has an invalid host"
  | portNotNumber field address => field ++ " " ++ Text.quoted address ++ " has a non-numeric port"
  | portOutOfRange field port => showingInteger port fun n =>
    field ++ " port " ++ n ++ " must be between 0 and 65535"
  | periodNegative field period => showing period fun n =>
    field ++ " must be a positive duration, got " ++ n
  | periodTooShort field period minimum => showingDurations period minimum fun p m =>
    field ++ " " ++ p ++ " must be 0 (disabled) or at least " ++ m
  | notAnAddress address => "address " ++ quotedOr address ++ " is not a valid IP address"
  | noUpstream => "at least one upstream provider is required when the DNS server is enabled"
  | unknownUpstream name known =>
    "upstream provider " ++ Text.quoted name ++ " must be one of " ++ commaList known
  | firewallPort field port => showingInteger port fun n =>
    field ++ " port " ++ n ++ " must be between 1 and 65535"
  | notANetwork subnet => "outbound subnet " ++ Text.quoted subnet ++ " is not a valid network"
  | defaultRoute subnet => "outbound subnet " ++ Text.quoted subnet ++ " cannot be the default route"
  | durationNotPositive field duration => showing duration fun n =>
    field ++ " must be positive, got " ++ n
  | negative field n => showing n fun n => field ++ " must be non-negative, got " ++ n
  | unknownChoice field choice known =>
    field ++ " " ++ quotedOr choice ++ " must be one of " ++ commaList known
  | filePathUnset => "IP file path must be set when the public IP check is enabled"
  | serverPasswordUnset => "password must be set when the server is enabled"
  | ratioOutOfRange ratio =>
    "minimum ratio " ++ (ratio.map Binary64.text).getD "None" ++ " must be in the range (0, 1]"
  | notUpdatable provider => "provider " ++ Text.quoted provider ++ " cannot be updated"
  | unknownProvider name => "provider name " ++ quotedOr name ++ " is not a known provider"
  | withoutWireguard provider => "provider " ++ provider ++ " does not support Wireguard"
  | filterUnavailable field value provider offered =>
    field ++ " value " ++ Text.quoted value ++ " is not available for provider " ++ provider ++
      ": choices are " ++ commaListOrNone offered
  | userUnset provider => "user is required for provider " ++ provider
  | passwordUnset provider => "password is required for provider " ++ provider
  | emptyCipher => "ciphers cannot contain an empty value"
  | keyUnset => "private key is required"
  | keyNotBase64 => "private key is not valid base64"
  | keyLength bytes => "private key must decode to 32 bytes, got " ++ toString bytes
  | noInterfaceAddress => "at least one interface address is required"
  | interfaceNotANetwork address => "interface address " ++ Text.quoted address ++ " is not valid"
  | interfaceNeedsIPv6 address =>
    "interface address " ++ address ++ " is IPv6 but IPv6 is not supported"
  | inside context complaint => context ++ ": " ++ complaint.message

end Complaint
end TunnelSettings
