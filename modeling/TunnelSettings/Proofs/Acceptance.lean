import Mathlib.Data.List.TakeWhile
import Mathlib.Tactic.MkIffOfInductiveProp
import TunnelSettings.Proofs.Runs

/-!
What settings have to be like to be valid, group by group and in words of the fields alone. Validation
succeeds on just these settings.
-/
namespace TunnelSettings

/-- A name is known if it is one of the names of a list in some letter case. -/
def Known (names : List String) (name : String) : Prop := ∃ n ∈ names, Text.lower name = Text.lower n

namespace Net

/-- A host, a colon, and a port that is a number of sixteen bits; the host has brackets at both ends or at
neither. -/
def IsEndpoint (address : String) : Prop :=
  ∃ host port : List Char, address.toList = host ++ ':' :: port ∧ ':' ∉ port ∧
    (host.head? = some '[' ↔ host.getLast? = some ']') ∧
    ∃ n, readInteger 10 port "" = .ok n ∧ 0 ≤ n ∧ n ≤ 65535

end Net

/-- A period that switches something off, or is not too short. -/
def IsPeriod (minimum period : Int) : Prop := period = 0 ∨ minimum ≤ period

@[mk_iff]
structure ControlServer.Acceptable (c : ControlServer) : Prop where
  address : ∃ a ∈ c.address, Net.IsEndpoint a

@[mk_iff]
structure Dns.Acceptable (d : Dns) : Prop where
  address : ∃ a ∈ d.address, Net.isAddress a
  upstream : d.serverEnabled = some true → ∃ names ∈ d.upstreamProviders, names ≠ []
  known : ∀ names ∈ d.upstreamProviders, ∀ name ∈ names, Known Catalogue.upstreamProviders name
  period : ∃ p ∈ d.updatePeriod, IsPeriod 60 p

@[mk_iff]
structure Firewall.Acceptable (f : Firewall) : Prop where
  vpnInputPorts : ∀ ports ∈ f.vpnInputPorts, ∀ p ∈ ports, 1 ≤ p ∧ p ≤ 65535
  inputPorts : ∀ ports ∈ f.inputPorts, ∀ p ∈ ports, 1 ≤ p ∧ p ≤ 65535
  outbound : ∀ subnets ∈ f.outboundSubnets, ∀ s ∈ subnets, ∃ n ∈ Net.network? s, 1 ≤ n.fixedBits

@[mk_iff]
structure Health.Acceptable (h : Health) : Prop where
  serverAddress : ∃ a ∈ h.serverAddress, Net.IsEndpoint a
  targetAddress : ∃ a ∈ h.targetAddress, Net.IsEndpoint a
  successWait : ∃ d ∈ h.successWait, 0 < d
  vpnInitial : ∃ d ∈ h.vpnInitial, 0 < d
  vpnAddition : ∃ d ∈ h.vpnAddition, 0 < d

@[mk_iff]
structure HttpProxy.Acceptable (h : HttpProxy) : Prop where
  address : ∃ a ∈ h.listeningAddress, Net.IsEndpoint a

@[mk_iff]
structure Log.Acceptable (l : Log) : Prop where
  level : ∃ name ∈ l.level, Known Catalogue.logLevels name

@[mk_iff]
structure PublicIp.Acceptable (p : PublicIp) : Prop where
  period : ∃ n ∈ p.period, IsPeriod 5 n
  filePath : (∃ n ∈ p.period, 0 < n) → ∃ f ∈ p.filePath, f ≠ ""
  api : ∃ name ∈ p.api, Known Catalogue.publicIpApis name

@[mk_iff]
structure Shadowsocks.Acceptable (s : Shadowsocks) : Prop where
  address : ∃ a ∈ s.address, Net.IsEndpoint a
  cipher : ∃ name ∈ s.cipher, Known Catalogue.shadowsocksCiphers name
  password : s.enabled = some true → ∃ p ∈ s.password, p ≠ ""

@[mk_iff]
structure System.Acceptable (s : System) : Prop where
  userId : ∃ n ∈ s.userId, 0 ≤ n
  groupId : ∃ n ∈ s.groupId, 0 ≤ n

@[mk_iff]
structure Updater.Acceptable (u : Updater) : Prop where
  period : ∃ n ∈ u.period, IsPeriod 60 n
  dnsAddress : ∃ a ∈ u.dnsAddress, Net.IsEndpoint a
  ratio : ∃ r ∈ u.minRatio, (Binary64.zero false).lt r ∧ r.le .one
  providers : ∀ names ∈ u.providers, ∀ name ∈ names,
    Text.lower name ≠ Catalogue.custom ∧ Known Catalogue.providers name

/-- The filters name nothing but what a provider offers. -/
@[mk_iff]
structure ServerSelection.Offered (offered : Choices) (s : ServerSelection) : Prop where
  countries : ∀ values ∈ s.countries, ∀ v ∈ values, Known offered.countries v
  regions : ∀ values ∈ s.regions, ∀ v ∈ values, Known offered.regions v
  cities : ∀ values ∈ s.cities, ∀ v ∈ values, Known offered.cities v
  isps : ∀ values ∈ s.isps, ∀ v ∈ values, Known offered.isps v
  hostnames : ∀ values ∈ s.hostnames, ∀ v ∈ values, Known offered.hostnames v
  names : ∀ values ∈ s.names, ∀ v ∈ values, Known offered.names v

/-- The provider, named in small letters, decides which credentials are needed. -/
@[mk_iff]
structure OpenVpn.Acceptable (provider : String) (o : OpenVpn) : Prop where
  version : ∃ v ∈ o.version, v ∈ Catalogue.openvpnVersions
  protocol : ∃ name ∈ o.protocol, Known Catalogue.openvpnProtocols name
  user : provider ∉ Catalogue.withoutUser → ∃ u ∈ o.user, u ≠ ""
  password : provider ∉ Catalogue.withoutUser → provider ∉ Catalogue.withoutPassword →
    ∃ p ∈ o.password, p ≠ ""
  ciphers : ∀ ciphers ∈ o.ciphers, ∀ c ∈ ciphers, Text.trim c ≠ ""

@[mk_iff]
structure Wireguard.Acceptable (ipv6 : Bool) (w : Wireguard) : Prop where
  privateKey : ∃ key ∈ w.privateKey, Text.base64Length? key = some 32
  addresses : ∃ addresses ∈ w.addresses, addresses ≠ [] ∧
    ∀ a ∈ addresses, ∃ n ∈ Net.network? a, n.version = .six → ipv6 = true
  implementation : ∃ i ∈ w.implementation, i ∈ Catalogue.wireguardImplementations

@[mk_iff]
structure Vpn.Acceptable (servers : Servers) (ipv6 : Bool) (v : Vpn) : Prop where
  kind : v.kind = some Catalogue.openvpn ∨ v.kind = some Catalogue.wireguard
  provider : ∃ name ∈ v.provider.name, Known Catalogue.providers name ∧
    (v.kind = some Catalogue.wireguard → Known Catalogue.wireguardProviders name) ∧
    (Text.lower name ≠ Catalogue.custom →
      v.provider.selection.Offered (servers.choices (Text.lower name))) ∧
    (v.kind = some Catalogue.openvpn → v.openvpn.Acceptable (Text.lower name))
  wireguard : v.kind = some Catalogue.wireguard → v.wireguard.Acceptable ipv6

@[mk_iff]
structure Profiling.Acceptable (p : Profiling) : Prop where
  blockProfileRate : ∃ n ∈ p.blockProfileRate, 0 ≤ n
  mutexProfileRate : ∃ n ∈ p.mutexProfileRate, 0 ≤ n
  address : ∃ a ∈ p.address, Net.IsEndpoint a

/-- Settings all of whose groups are acceptable. Nothing is asked of the search for new versions. -/
structure Settings.Acceptable (servers : Servers) (ipv6 : Bool) (s : Settings) : Prop where
  controlServer : s.controlServer.Acceptable
  dns : s.dns.Acceptable
  firewall : s.firewall.Acceptable
  health : s.health.Acceptable
  httpProxy : s.httpProxy.Acceptable
  log : s.log.Acceptable
  publicIp : s.publicIp.Acceptable
  shadowsocks : s.shadowsocks.Acceptable
  system : s.system.Acceptable
  updater : s.updater.Acceptable
  vpn : s.vpn.Acceptable servers ipv6
  profiling : s.profiling.Acceptable

/-! ### Rules that are kept -/

@[simp] theorem refuse_eq_none_iff (broken : Bool) (c : Complaint) :
    refuse broken c = none ↔ broken = false := by
  cases broken <;> simp [refuse]

theorem isOneOf_iff (s : Option String) (names : List String) :
    isOneOf s names = true ↔ ∃ name ∈ s, Known names name := by
  cases s <;> simp [isOneOf, Known]

@[simp] theorem isOneOf_some_iff (name : String) (names : List String) :
    isOneOf (some name) names = true ↔ Known names name := by
  simp [isOneOf_iff]

theorem isBare_eq_false_iff (s : Option String) : isBare s = false ↔ ∃ t ∈ s, t ≠ "" := by
  cases s <;> simp [isBare]

theorem isOn_iff (b : Option Bool) : isOn b = true ↔ b = some true := by
  cases b <;> simp [isOn]

theorem complaintAmong_eq_none_iff {α : Type} (rule : α → Option Complaint) (xs : Option (List α)) :
    complaintAmong rule xs = none ↔ ∀ items ∈ xs, ∀ x ∈ items, rule x = none := by
  cases xs <;> simp [complaintAmong]

theorem choiceComplaint?_eq_none_iff (field : String) (choice : Option String) (known : List String) :
    choiceComplaint? field choice known = none ↔ ∃ name ∈ choice, Known known name := by
  rw [choiceComplaint?, refuse_eq_none_iff, Bool.not_eq_false', isOneOf_iff]

theorem exactChoiceComplaint?_eq_none_iff (field : String) (choice : Option String)
    (known : List String) :
    exactChoiceComplaint? field choice known = none ↔ ∃ name ∈ choice, name ∈ known := by
  cases choice <;> simp [exactChoiceComplaint?]

theorem periodComplaint?_eq_none_iff (field : String) (period : Option Int) (minimum : Int)
    (h : 0 ≤ minimum) :
    periodComplaint? field period minimum = none ↔ ∃ p ∈ period, IsPeriod minimum p := by
  cases period with
  | none => simp [periodComplaint?]
  | some p =>
    simp only [periodComplaint?, Option.or_eq_none_iff, refuse_eq_none_iff, IsPeriod]
    simp
    omega

theorem durationComplaint?_eq_none_iff (field : String) (duration : Option Int) :
    durationComplaint? field duration = none ↔ ∃ d ∈ duration, 0 < d := by
  cases duration <;> simp [durationComplaint?]

theorem negativeComplaint?_eq_none_iff (field : String) (n : Option Int) :
    negativeComplaint? field n = none ↔ ∃ m ∈ n, 0 ≤ m := by
  cases n <;> simp [negativeComplaint?]

namespace Net

theorem cutAtLastColon_of_not_mem (cs : List Char) (h : ':' ∉ cs) : cutAtLastColon cs = none := by
  have whole : cs.reverse.takeWhile (· ≠ ':') = cs.reverse := by
    refine List.takeWhile_eq_self_iff.2 fun c hc => decide_eq_true ?_
    rintro rfl
    exact h (List.mem_reverse.1 hc)
  rw [cutAtLastColon, whole, List.reverse_reverse]
  exact if_pos rfl

theorem cutAtLastColon_append (host port : List Char) (h : ':' ∉ port) :
    cutAtLastColon (host ++ ':' :: port) = some (host, port) := by
  have last : ((host ++ ':' :: port).reverse.takeWhile (· ≠ ':')).reverse = port := by
    rw [List.reverse_append, List.reverse_cons, List.append_assoc, List.takeWhile_append_of_pos]
    · simp
    · intro c hc
      refine decide_eq_true ?_
      rintro rfl
      exact h (List.mem_reverse.1 hc)
  have length : (host ++ ':' :: port).length = host.length + 1 + port.length := by
    rw [List.length_append, List.length_cons]
    omega
  rw [cutAtLastColon]
  simp only [last, length]
  rw [if_neg (by omega), show host.length + 1 + port.length - port.length - 1 = host.length by omega,
    List.take_left]

/-- A text is cut at the last of its colons. -/
theorem cutAtLastColon_eq_some_iff (cs host port : List Char) :
    cutAtLastColon cs = some (host, port) ↔ cs = host ++ ':' :: port ∧ ':' ∉ port := by
  constructor
  · intro found
    by_cases h : ':' ∈ cs
    · obtain ⟨after, before, split, first⟩ := List.eq_append_cons_of_mem (List.mem_reverse.2 h)
      have split : cs = before.reverse ++ ':' :: after.reverse := by
        rw [← List.reverse_reverse cs, split, List.reverse_append, List.reverse_cons, List.append_assoc]
        rfl
      have last : ':' ∉ after.reverse := fun hc => first (List.mem_reverse.1 hc)
      rw [split, cutAtLastColon_append _ _ last] at found
      cases found
      exact ⟨split, last⟩
    · rw [cutAtLastColon_of_not_mem cs h] at found
      cases found
  · rintro ⟨rfl, last⟩
    exact cutAtLastColon_append host port last

theorem isBalanced_iff (host : List Char) :
    isBalanced host = true ↔ (host.head? = some '[' ↔ host.getLast? = some ']') := by
  rw [isBalanced, decide_eq_true_iff, eq_iff_iff]

theorem isEndpoint_iff (a : String) :
    IsEndpoint a ↔ ∃ host port, cutAtLastColon a.toList = some (host, port) ∧ isBalanced host = true ∧
      ∃ n, readInteger 10 port "" = .ok n ∧ 0 ≤ n ∧ n ≤ 65535 := by
  simp only [IsEndpoint, cutAtLastColon_eq_some_iff, isBalanced_iff, and_assoc]

theorem not_isEndpoint_empty : ¬ IsEndpoint "" := by
  rintro ⟨host, port, split, _⟩
  exact List.append_ne_nil_of_right_ne_nil host (List.cons_ne_nil _ _) split.symm

/-- There is nothing to complain about in an address just if it is a host and a port. -/
theorem addressComplaint?_eq_none_iff (field : String) (address : Option String) :
    addressComplaint? field address = none ↔ ∃ a ∈ address, IsEndpoint a := by
  cases address with
  | none => simp [addressComplaint?]
  | some a =>
    simp only [Option.mem_some_iff, exists_eq_left', addressComplaint?, Option.getD_some,
      String.isEmpty_iff]
    by_cases empty : a = ""
    · simp [empty, not_isEndpoint_empty]
    rw [if_neg empty, isEndpoint_iff]
    cases cutAtLastColon a.toList with
    | none => simp
    | some cut =>
      obtain ⟨host, port⟩ := cut
      cases balanced : isBalanced host with
      | false => simp [balanced]
      | true =>
        cases read : readInteger 10 port "" with
        | error fault => simp [balanced, read]
        | ok n => simp [balanced, read]

end Net

namespace Binary64

/-- Of two numbers, one is at most the other or is above it. -/
theorem le_eq_not_lt (x y : Binary64) (hx : x.isNaN = false) (hy : y.isNaN = false) :
    x.le y = !y.lt x := by
  cases x with
  | nan => cases hx
  | infinite s =>
    cases y with
    | nan => cases hy
    | infinite t => cases s <;> cases t <;> rfl
    | finite => cases s <;> rfl
  | finite s m e h =>
    cases y with
    | nan => cases hy
    | infinite t => cases t <;> rfl
    | finite t n f k =>
      simp only [le, lt, same, isNaN, Bool.not_false, Bool.true_and, ← decide_not, ← Bool.decide_or,
        decide_eq_decide]
      omega

end Binary64

/-! ### Groups without complaints -/

theorem ControlServer.complaint?_eq_none_iff (c : ControlServer) :
    c.complaint? = none ↔ c.Acceptable := by
  rw [complaint?, Net.addressComplaint?_eq_none_iff, acceptable_iff]

theorem Dns.upstreamComplaint?_eq_none_iff (name : String) :
    upstreamComplaint? name = none ↔ Known Catalogue.upstreamProviders name := by
  simp [upstreamComplaint?]

theorem Dns.complaint?_eq_none_iff (d : Dns) : d.complaint? = none ↔ d.Acceptable := by
  have address : Net.isAddress (d.address.getD "") = true ↔ ∃ a ∈ d.address, Net.isAddress a := by
    cases d.address with
    | none => simp [show Net.isAddress "" = false by decide]
    | some a => simp
  have upstream : (isOn d.serverEnabled && (d.upstreamProviders.getD []).isEmpty) = false ↔
      (d.serverEnabled = some true → ∃ names ∈ d.upstreamProviders, names ≠ []) := by
    rw [Bool.and_eq_false_imp, isOn_iff]
    cases d.upstreamProviders <;> simp
  simp only [complaint?, Option.or_eq_none_iff, refuse_eq_none_iff, Bool.not_eq_false', address, upstream,
    complaintAmong_eq_none_iff, Dns.upstreamComplaint?_eq_none_iff]
  rw [periodComplaint?_eq_none_iff _ _ _ (by decide), acceptable_iff]
  exact Iff.rfl

theorem Firewall.portComplaint?_eq_none_iff (field : String) (port : Int) :
    portComplaint? field port = none ↔ 1 ≤ port ∧ port ≤ 65535 := by
  simp [portComplaint?]

theorem Firewall.subnetComplaint?_eq_none_iff (subnet : String) :
    subnetComplaint? subnet = none ↔ ∃ n ∈ Net.network? subnet, 1 ≤ n.fixedBits := by
  rw [subnetComplaint?]
  cases Net.network? subnet with
  | none => simp
  | some n => simp [Nat.one_le_iff_ne_zero]

theorem Firewall.complaint?_eq_none_iff (f : Firewall) : f.complaint? = none ↔ f.Acceptable := by
  simp only [complaint?, Option.or_eq_none_iff, complaintAmong_eq_none_iff,
    portComplaint?_eq_none_iff, subnetComplaint?_eq_none_iff, acceptable_iff]

theorem Health.complaint?_eq_none_iff (h : Health) : h.complaint? = none ↔ h.Acceptable := by
  simp only [complaint?, Option.or_eq_none_iff, Net.addressComplaint?_eq_none_iff,
    durationComplaint?_eq_none_iff, acceptable_iff]

theorem HttpProxy.complaint?_eq_none_iff (h : HttpProxy) : h.complaint? = none ↔ h.Acceptable := by
  rw [complaint?, Net.addressComplaint?_eq_none_iff, acceptable_iff]

theorem Log.complaint?_eq_none_iff (l : Log) : l.complaint? = none ↔ l.Acceptable := by
  rw [complaint?, choiceComplaint?_eq_none_iff, acceptable_iff]

theorem PublicIp.complaint?_eq_none_iff (p : PublicIp) : p.complaint? = none ↔ p.Acceptable := by
  rw [complaint?, Option.or_eq_none_iff, Option.or_eq_none_iff, choiceComplaint?_eq_none_iff,
    periodComplaint?_eq_none_iff _ _ _ (by decide), refuse_eq_none_iff, Bool.and_eq_false_imp,
    isBare_eq_false_iff, decide_eq_true_iff]
  -- A period that is acceptable is not zero just if it is positive.
  have running (period : ∃ n ∈ p.period, IsPeriod 5 n) :
      p.period.getD 0 ≠ 0 ↔ ∃ n ∈ p.period, 0 < n := by
    obtain ⟨n, set, n_eq⟩ := period
    rw [set, Option.getD_some]
    simp only [Option.mem_some_iff, exists_eq_left']
    rcases n_eq with rfl | least <;> omega
  exact ⟨fun ⟨period, path, api⟩ => ⟨period, fun on => path ((running period).2 on), api⟩,
    fun ⟨period, path, api⟩ => ⟨period, fun on => path ((running period).1 on), api⟩⟩

theorem Shadowsocks.complaint?_eq_none_iff (s : Shadowsocks) : s.complaint? = none ↔ s.Acceptable := by
  rw [complaint?, Option.or_eq_none_iff, Option.or_eq_none_iff, Net.addressComplaint?_eq_none_iff,
    choiceComplaint?_eq_none_iff, refuse_eq_none_iff, Bool.and_eq_false_imp, isOn_iff,
    isBare_eq_false_iff, acceptable_iff]

theorem System.complaint?_eq_none_iff (s : System) : s.complaint? = none ↔ s.Acceptable := by
  rw [complaint?, Option.or_eq_none_iff, negativeComplaint?_eq_none_iff,
    negativeComplaint?_eq_none_iff, acceptable_iff]

theorem Updater.ratioComplaint?_eq_none_iff (ratio : Option Binary64)
    (number : ∀ r ∈ ratio, r.isNaN = false) :
    ratioComplaint? ratio = none ↔ ∃ r ∈ ratio, (Binary64.zero false).lt r ∧ r.le .one := by
  cases ratio with
  | none => simp [ratioComplaint?]
  | some r =>
    have hr : r.isNaN = false := number r rfl
    simp [ratioComplaint?, Binary64.le_eq_not_lt r (.zero false) hr rfl,
      Binary64.le_eq_not_lt r .one hr rfl]

theorem Updater.providerComplaint?_eq_none_iff (name : String) :
    providerComplaint? name = none ↔
      Text.lower name ≠ Catalogue.custom ∧ Known Catalogue.providers name := by
  simp [providerComplaint?]

theorem Updater.complaint?_eq_none_iff (u : Updater) (number : ∀ r ∈ u.minRatio, r.isNaN = false) :
    u.complaint? = none ↔ u.Acceptable := by
  simp only [complaint?, Option.or_eq_none_iff, Net.addressComplaint?_eq_none_iff,
    ratioComplaint?_eq_none_iff _ number, complaintAmong_eq_none_iff, providerComplaint?_eq_none_iff]
  rw [periodComplaint?_eq_none_iff _ _ _ (by decide), acceptable_iff]
  exact Iff.rfl

theorem Profiling.complaint?_eq_none_iff (p : Profiling) : p.complaint? = none ↔ p.Acceptable := by
  rw [complaint?, Option.or_eq_none_iff, Option.or_eq_none_iff, Net.addressComplaint?_eq_none_iff,
    negativeComplaint?_eq_none_iff, negativeComplaint?_eq_none_iff, acceptable_iff]

/-! ### The tunnel -/

theorem ServerSelection.filterComplaint?_eq_none_iff (field provider : String)
    (wanted : Option (List String)) (offered : List String) :
    filterComplaint? field provider wanted offered = none ↔
      ∀ values ∈ wanted, ∀ v ∈ values, Known offered v := by
  simp [filterComplaint?, complaintAmong_eq_none_iff]

theorem ServerSelection.complaint?_eq_none_iff (s : ServerSelection) (provider : String)
    (servers : Servers) :
    s.complaint? provider servers = none ↔
      (Text.lower provider ≠ Catalogue.custom → s.Offered (servers.choices (Text.lower provider))) := by
  rw [complaint?]
  by_cases custom : Text.lower provider = Catalogue.custom
  · simp [custom]
  · rw [if_neg custom, forall_prop_of_true custom]
    simp only [Option.or_eq_none_iff, filterComplaint?_eq_none_iff, offered_iff]

theorem Provider.complaint?_eq_none_iff (p : Provider) (kind : String) (servers : Servers) :
    p.complaint? kind servers = none ↔
      ∃ name ∈ p.name, Known Catalogue.providers name ∧
        (kind = Catalogue.wireguard → Known Catalogue.wireguardProviders name) ∧
        (Text.lower name ≠ Catalogue.custom →
          p.selection.Offered (servers.choices (Text.lower name))) := by
  cases named : p.name with
  | none => simp [complaint?, named, isOneOf]
  | some name =>
    simp only [complaint?, named, Option.or_eq_none_iff, refuse_eq_none_iff, Bool.not_eq_false',
      isOneOf_some_iff, Bool.and_eq_false_imp, decide_eq_true_iff, Option.map_eq_none_iff,
      Option.getD_some, ServerSelection.complaint?_eq_none_iff, Option.mem_some_iff, exists_eq_left']

theorem OpenVpn.cipherComplaint?_eq_none_iff (cipher : String) :
    cipherComplaint? cipher = none ↔ Text.trim cipher ≠ "" := by
  simp [cipherComplaint?]

theorem OpenVpn.complaint?_eq_none_iff (o : OpenVpn) (provider : String) :
    o.complaint? provider = none ↔ o.Acceptable (Text.lower provider) := by
  simp only [complaint?, Option.or_eq_none_iff, exactChoiceComplaint?_eq_none_iff,
    choiceComplaint?_eq_none_iff, refuse_eq_none_iff, Bool.and_eq_false_imp, isBare_eq_false_iff,
    complaintAmong_eq_none_iff, cipherComplaint?_eq_none_iff, Bool.and_eq_true, Bool.not_eq_true',
    List.contains_eq_mem, decide_eq_false_iff_not, and_imp, acceptable_iff]

theorem Wireguard.keyComplaint?_eq_none_iff (key : Option String) :
    keyComplaint? key = none ↔ ∃ k ∈ key, Text.base64Length? k = some 32 := by
  cases key with
  | none => simp [keyComplaint?, isBare]
  | some k =>
    by_cases empty : k = ""
    · simp [keyComplaint?, isBare, empty, show Text.base64Length? "" = some 0 by decide]
    · cases length : Text.base64Length? k <;> simp [keyComplaint?, isBare, empty, length]

theorem Wireguard.interfaceComplaint?_eq_none_iff (ipv6 : Bool) (address : String) :
    interfaceComplaint? ipv6 address = none ↔
      ∃ n ∈ Net.network? address, n.version = .six → ipv6 = true := by
  rw [interfaceComplaint?]
  cases Net.network? address with
  | none => simp
  | some n => simp

theorem Wireguard.complaint?_eq_none_iff (w : Wireguard) (ipv6 : Bool) :
    w.complaint? ipv6 = none ↔ w.Acceptable ipv6 := by
  have addresses : ((w.addresses.getD []).isEmpty = false ∧ ∀ items ∈ w.addresses, ∀ a ∈ items,
        ∃ n ∈ Net.network? a, n.version = .six → ipv6 = true) ↔
      ∃ addresses ∈ w.addresses, addresses ≠ [] ∧
        ∀ a ∈ addresses, ∃ n ∈ Net.network? a, n.version = .six → ipv6 = true := by
    cases w.addresses <;> simp
  simp only [complaint?, Option.or_eq_none_iff, keyComplaint?_eq_none_iff, refuse_eq_none_iff,
    complaintAmong_eq_none_iff, interfaceComplaint?_eq_none_iff, exactChoiceComplaint?_eq_none_iff]
  constructor
  · rintro ⟨key, nonempty, each, implementation⟩
    exact ⟨key, addresses.1 ⟨nonempty, each⟩, implementation⟩
  · rintro ⟨key, interface, implementation⟩
    obtain ⟨nonempty, each⟩ := addresses.2 interface
    exact ⟨key, nonempty, each, implementation⟩

theorem Vpn.activeComplaint?_of_openvpn (v : Vpn) (ipv6 : Bool) (h : v.kind = some Catalogue.openvpn) :
    v.activeComplaint? ipv6 = none ↔ v.openvpn.Acceptable (Text.lower (v.provider.name.getD "")) := by
  rw [activeComplaint?, if_pos h, Option.map_eq_none_iff, OpenVpn.complaint?_eq_none_iff]

theorem Vpn.activeComplaint?_of_wireguard (v : Vpn) (ipv6 : Bool)
    (h : v.kind = some Catalogue.wireguard) :
    v.activeComplaint? ipv6 = none ↔ v.wireguard.Acceptable ipv6 := by
  have other : v.kind ≠ some Catalogue.openvpn := by
    rw [h]
    decide
  rw [activeComplaint?, if_neg other, Option.map_eq_none_iff, Wireguard.complaint?_eq_none_iff]

theorem Vpn.complaint?_eq_none_iff (v : Vpn) (servers : Servers) (ipv6 : Bool) :
    v.complaint? servers ipv6 = none ↔ v.Acceptable servers ipv6 := by
  have kinds : (∃ kind ∈ v.kind, kind ∈ Catalogue.tunnelKinds) ↔
      v.kind = some Catalogue.openvpn ∨ v.kind = some Catalogue.wireguard := by
    cases v.kind <;> simp [Catalogue.tunnelKinds]
  rw [complaint?, Option.or_eq_none_iff, Option.or_eq_none_iff, exactChoiceComplaint?_eq_none_iff, kinds,
    Option.map_eq_none_iff, Provider.complaint?_eq_none_iff]
  constructor
  · rintro ⟨kind, ⟨name, named, known, capable, offered⟩, active⟩
    refine ⟨kind, ⟨name, named, known, fun wireguard => ?_, offered, fun openvpn => ?_⟩, fun wireguard => ?_⟩
    · exact capable (by rw [wireguard, Option.getD_some])
    · rw [activeComplaint?_of_openvpn v ipv6 openvpn, named, Option.getD_some] at active
      exact active
    · exact (activeComplaint?_of_wireguard v ipv6 wireguard).1 active
  · rintro ⟨kind, ⟨name, named, known, capable, offered, openvpn⟩, wireguard⟩
    refine ⟨kind, ⟨name, named, known, fun kind_eq => capable ?_, offered⟩, ?_⟩
    · rcases kind with kind | kind
      · rw [kind] at kind_eq
        exact absurd kind_eq (by decide)
      · exact kind
    · rcases kind with kind | kind
      · rw [activeComplaint?_of_openvpn v ipv6 kind, named, Option.getD_some]
        exact openvpn kind
      · exact (activeComplaint?_of_wireguard v ipv6 kind).2 (wireguard kind)

namespace Settings

theorem vpn_of_valid {s : Settings} {servers : Servers} {ipv6 : Bool}
    (valid : s.validate servers ipv6 = .ok ()) : s.vpn.Acceptable servers ipv6 :=
  (Vpn.complaint?_eq_none_iff s.vpn servers ipv6).1 ((validate_eq_ok_iff servers ipv6 s).1 valid .vpn)

/-- Validation succeeds on acceptable settings and on no others, provided the ratio is a number. -/
theorem validate_accepts_iff (servers : Servers) (ipv6 : Bool) (s : Settings)
    (number : ∀ r ∈ s.updater.minRatio, r.isNaN = false) :
    s.validate servers ipv6 = .ok () ↔ s.Acceptable servers ipv6 := by
  rw [validate_eq_ok_iff]
  constructor
  · intro clean
    exact {
      controlServer := (ControlServer.complaint?_eq_none_iff _).1 (clean .controlServer)
      dns := (Dns.complaint?_eq_none_iff _).1 (clean .dns)
      firewall := (Firewall.complaint?_eq_none_iff _).1 (clean .firewall)
      health := (Health.complaint?_eq_none_iff _).1 (clean .health)
      httpProxy := (HttpProxy.complaint?_eq_none_iff _).1 (clean .httpProxy)
      log := (Log.complaint?_eq_none_iff _).1 (clean .log)
      publicIp := (PublicIp.complaint?_eq_none_iff _).1 (clean .publicIp)
      shadowsocks := (Shadowsocks.complaint?_eq_none_iff _).1 (clean .shadowsocks)
      system := (System.complaint?_eq_none_iff _).1 (clean .system)
      updater := (Updater.complaint?_eq_none_iff _ number).1 (clean .updater)
      vpn := (Vpn.complaint?_eq_none_iff _ servers ipv6).1 (clean .vpn)
      profiling := (Profiling.complaint?_eq_none_iff _).1 (clean .profiling) }
  · intro ok g
    cases g with
    | controlServer => exact (ControlServer.complaint?_eq_none_iff _).2 ok.controlServer
    | dns => exact (Dns.complaint?_eq_none_iff _).2 ok.dns
    | firewall => exact (Firewall.complaint?_eq_none_iff _).2 ok.firewall
    | health => exact (Health.complaint?_eq_none_iff _).2 ok.health
    | httpProxy => exact (HttpProxy.complaint?_eq_none_iff _).2 ok.httpProxy
    | log => exact (Log.complaint?_eq_none_iff _).2 ok.log
    | publicIp => exact (PublicIp.complaint?_eq_none_iff _).2 ok.publicIp
    | shadowsocks => exact (Shadowsocks.complaint?_eq_none_iff _).2 ok.shadowsocks
    | system => exact (System.complaint?_eq_none_iff _).2 ok.system
    | updater => exact (Updater.complaint?_eq_none_iff _ number).2 ok.updater
    | version => rfl
    | vpn => exact (Vpn.complaint?_eq_none_iff _ servers ipv6).2 ok.vpn
    | profiling => exact (Profiling.complaint?_eq_none_iff _).2 ok.profiling

theorem validate_accepts_iff_plainExample :
    (∀ r ∈ plainExample.updater.minRatio, r.isNaN = false) ∧ plainExample.Acceptable {} false := by
  have number : ∀ r ∈ plainExample.updater.minRatio, r.isNaN = false := by
    rintro r ⟨⟩
    decide +kernel
  have clean : plainExample.complaint? {} false = none := by decide +kernel
  have valid : plainExample.validate {} false = .ok () := by rw [validate, clean]
  exact ⟨number, (validate_accepts_iff {} false plainExample number).1 valid⟩

end Settings
end TunnelSettings
