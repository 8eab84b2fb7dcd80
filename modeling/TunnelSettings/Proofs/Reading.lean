import TunnelSettings.Proofs.Fields
import TunnelSettings.Settings.Fragment

/-!
Reading settings as a list of look-ups. Each look-up follows a path to a section or to a field of some
kind, and the first one that fails ends the reading.
-/
namespace TunnelSettings

open ToValue

/-- What a field is read as. -/
inductive FieldKind where
  | flag | integer | decimal | text | texts | integers
  deriving DecidableEq, Repr

/-- The value that a field gets from what stands in a section; null for an unset one. -/
@[simp] def FieldKind.read (v : Option Value) : FieldKind → Except Failure Value
  | flag => toValue <$> Value.optional Value.toBool v
  | integer => toValue <$> Value.optional Value.toInt v
  | decimal => toValue <$> Value.optional Value.toFloat v
  | text => toValue <$> Value.optional Value.toText v
  | texts => toValue <$> Value.optional (Value.toList Value.toText) v
  | integers => toValue <$> Value.optional (Value.toList Value.toInt) v

/-- Fields with the names under which a section has them. -/
abbrev Columns := List (String × FieldKind)

theorem Value.optional_some {α : Type} (convert : Value → Except Failure α) {v : Value}
    (set : v.isNull = false) : Value.optional convert (some v) = some <$> convert v := by
  cases v <;> first | rfl | cases set

namespace Columns

/-- Fields read from a section one after another. -/
@[simp] def entries (s : Section) : Columns → Except Failure (List (Value × Value))
  | [] => return []
  | (key, kind) :: rest => do
    let v ← kind.read (Value.find? key s)
    return (.text key, v) :: (← entries s rest)

def read (s : Section) (fields : Columns) : Except Failure Value := .map <$> fields.entries s

end Columns

/-- Groups that are read column by column. -/
class Tabular (α : Type) [ToValue α] where
  columns : Columns
  ofSection : Section → Except Failure α
  nodup : (columns.map (·.1)).Nodup := by decide
  toValue_ofSection (s : Section) : toValue <$> ofSection s = columns.read s

instance : Tabular ControlServer where
  columns := [("address", .text), ("log", .flag)]
  ofSection := ControlServer.ofSection
  toValue_ofSection _ := by
    simp [ControlServer.ofSection, Columns.read, Section.flag, Section.text]
    rfl

instance : Tabular Dns where
  columns := [
    ("server_enabled", .flag), ("address", .text), ("keep_nameserver", .flag),
    ("upstream_providers", .texts), ("caching", .flag), ("block_malicious", .flag),
    ("block_ads", .flag), ("block_surveillance", .flag), ("allowed_hosts", .texts),
    ("update_period", .integer)]
  ofSection := Dns.ofSection
  toValue_ofSection _ := by
    simp [Dns.ofSection, Columns.read, Section.flag, Section.integer, Section.text, Section.texts]
    rfl

instance : Tabular Firewall where
  columns := [
    ("enabled", .flag), ("vpn_input_ports", .integers), ("input_ports", .integers),
    ("outbound_subnets", .texts), ("debug", .flag)]
  ofSection := Firewall.ofSection
  toValue_ofSection _ := by
    simp [Firewall.ofSection, Columns.read, Section.flag, Section.integers, Section.texts]
    rfl

instance : Tabular Health where
  columns := [
    ("server_address", .text), ("target_address", .text), ("success_wait", .integer),
    ("vpn_initial", .integer), ("vpn_addition", .integer)]
  ofSection := Health.ofSection
  toValue_ofSection _ := by
    simp [Health.ofSection, Columns.read, Section.integer, Section.text]
    rfl

instance : Tabular HttpProxy where
  columns := [
    ("enabled", .flag), ("user", .text), ("password", .text), ("listening_address", .text),
    ("stealth", .flag), ("log", .flag)]
  ofSection := HttpProxy.ofSection
  toValue_ofSection _ := by
    simp [HttpProxy.ofSection, Columns.read, Section.flag, Section.text]
    rfl

instance : Tabular Log where
  columns := [("level", .text)]
  ofSection := Log.ofSection
  toValue_ofSection _ := by
    simp [Log.ofSection, Columns.read, Section.text]
    rfl

instance : Tabular PublicIp where
  columns := [("period", .integer), ("ip_filepath", .text), ("api", .text), ("token", .text)]
  ofSection := PublicIp.ofSection
  toValue_ofSection _ := by
    simp [PublicIp.ofSection, Columns.read, Section.integer, Section.text]
    rfl

instance : Tabular Shadowsocks where
  columns := [
    ("enabled", .flag), ("address", .text), ("cipher", .text), ("password", .text), ("log", .flag)]
  ofSection := Shadowsocks.ofSection
  toValue_ofSection _ := by
    simp [Shadowsocks.ofSection, Columns.read, Section.flag, Section.text]
    rfl

instance : Tabular System where
  columns := [("puid", .integer), ("pgid", .integer), ("timezone", .text)]
  ofSection := System.ofSection
  toValue_ofSection _ := by
    simp [System.ofSection, Columns.read, Section.integer, Section.text]
    rfl

instance : Tabular Updater where
  columns := [
    ("period", .integer), ("dns_address", .text), ("min_ratio", .decimal), ("providers", .texts)]
  ofSection := Updater.ofSection
  toValue_ofSection _ := by
    simp [Updater.ofSection, Columns.read, Section.decimal, Section.integer, Section.text, Section.texts]
    rfl

instance : Tabular Version where
  columns := [("enabled", .flag)]
  ofSection := Version.ofSection
  toValue_ofSection _ := by
    simp [Version.ofSection, Columns.read, Section.flag]
    rfl

instance : Tabular ServerSelection where
  columns := [
    ("countries", .texts), ("regions", .texts), ("cities", .texts), ("isps", .texts),
    ("hostnames", .texts), ("names", .texts)]
  ofSection := ServerSelection.ofSection
  toValue_ofSection _ := by
    simp [ServerSelection.ofSection, Columns.read, Section.texts]
    rfl

instance : Tabular OpenVpn where
  columns := [
    ("version", .text), ("user", .text), ("password", .text), ("ciphers", .texts),
    ("protocol", .text)]
  ofSection := OpenVpn.ofSection
  toValue_ofSection _ := by
    simp [OpenVpn.ofSection, Columns.read, Section.text, Section.texts]
    rfl

instance : Tabular Wireguard where
  columns := [("private_key", .text), ("addresses", .texts), ("implementation", .text)]
  ofSection := Wireguard.ofSection
  toValue_ofSection _ := by
    simp [Wireguard.ofSection, Columns.read, Section.text, Section.texts]
    rfl

instance : Tabular Profiling where
  columns := [
    ("enabled", .flag), ("block_profile_rate", .integer), ("mutex_profile_rate", .integer),
    ("address", .text)]
  ofSection := Profiling.ofSection
  toValue_ofSection _ := by
    simp [Profiling.ofSection, Columns.read, Section.flag, Section.integer, Section.text]
    rfl

/-- Why a part failed, if it did. -/
def fault? {α : Type} : Except Failure α → Option Failure
  | .ok _ => none
  | .error f => some f

section

variable {ε α β : Type}

@[simp] theorem ok_bind (a : α) (f : α → Except ε β) : (.ok a >>= f) = f a := rfl

@[simp] theorem error_bind (e : ε) (f : α → Except ε β) : (.error e >>= f) = .error e := rfl

theorem bind_eq_ok_iff (r : Except ε α) (f : α → Except ε β) (b : β) :
    (r >>= f) = .ok b ↔ ∃ a, r = .ok a ∧ f a = .ok b := by
  cases r with
  | error e => exact ⟨nofun, nofun⟩
  | ok a => exact ⟨fun h => ⟨a, rfl, h⟩, fun ⟨a', ha, h⟩ => by cases ha; exact h⟩

theorem mapError_eq_ok_iff {ε' : Type} (r : Except ε α) (f : ε → ε') (a : α) :
    r.mapError f = .ok a ↔ r = .ok a := by
  cases r <;> simp [Except.mapError]

@[simp] theorem fault?_map (f : α → β) (r : Except Failure α) : fault? (f <$> r) = fault? r := by
  cases r <;> rfl

/-- Two parts that fail alike and do not give different results are the same. -/
theorem eq_of_fault?_eq {r q : Except Failure α} (faults : fault? r = fault? q)
    (results : ∀ a b, r = .ok a → q = .ok b → a = b) : r = q := by
  cases r with
  | error f =>
    cases q with
    | error g => rw [Option.some.inj faults]
    | ok b => cases faults
  | ok a =>
    cases q with
    | error g => cases faults
    | ok b => rw [results a b rfl rfl]

/-- Of two parts after one another the first one that fails is to blame. -/
theorem fault?_bind (r : Except Failure α) (f : α → Except Failure β) (rest : Option Failure)
    (h : ∀ a, r = .ok a → fault? (f a) = rest) : fault? (r >>= f) = (fault? r).or rest := by
  cases r with
  | error e => rfl
  | ok a => exact h a rfl

end

namespace Columns

theorem fault?_read (s : Section) (fields : Columns) :
    fault? (fields.read s) = fields.findSome? fun f => fault? (f.2.read (Value.find? f.1 s)) := by
  rw [read, fault?_map]
  induction fields with
  | nil => rfl
  | cons f rest ih =>
    rw [entries, fault?_bind _ _ (fault? (entries s rest))]
    · rw [ih, List.findSome?_cons]
      cases fault? (f.2.read (Value.find? f.1 s)) <;> rfl
    · intro v _
      rw [fault?_bind _ _ none fun _ _ => rfl, Option.or_none]

/-- Each field has what was read under its name. -/
theorem find?_of_entries (s : Section) (fields : Columns) (nodup : (fields.map (·.1)).Nodup)
    (es : List (Value × Value)) (h : fields.entries s = .ok es) :
    ∀ f ∈ fields, ∃ v, Value.find? f.1 es = some v ∧ f.2.read (Value.find? f.1 s) = .ok v := by
  induction fields generalizing es with
  | nil => nofun
  | cons f rest ih =>
    obtain ⟨key, kind⟩ := f
    simp only [entries, bind_eq_ok_iff] at h
    obtain ⟨v, hv, es, hes, h⟩ := h
    cases h
    rw [List.map_cons, List.nodup_cons] at nodup
    intro f hf
    rcases List.mem_cons.1 hf with rfl | hr
    · exact ⟨v, by simp [Value.find?], hv⟩
    · obtain ⟨w, found, read⟩ := ih nodup.2 es hes f hr
      have other : key ≠ f.1 := fun e => nodup.1 (e ▸ List.mem_map.2 ⟨f, hr, rfl⟩)
      exact ⟨w, by simp [Value.find?, other, found], read⟩

end Columns

theorem Tabular.follow_of_ofSection {α : Type} [ToValue α] [Tabular α] (s : Section) (x : α)
    (h : Tabular.ofSection s = .ok x) :
    ∀ f ∈ Tabular.columns α, f.2.read (Value.find? f.1 s) = .ok ((toValue x).follow [f.1]) := by
  have read := Tabular.toValue_ofSection (α := α) s
  rw [h, Columns.read] at read
  cases hes : (columns α).entries s with
  | error e => rw [hes] at read; cases read
  | ok es =>
    rw [hes] at read
    have eq : toValue x = .map es := Except.ok.inj read
    intro f hf
    obtain ⟨v, found, read⟩ := Columns.find?_of_entries s _ (Tabular.nodup (α := α)) es hes f hf
    rw [read, eq, Value.follow, Value.entries?]
    dsimp only
    rw [found]
    rfl

/-- What stands at the end of a path of section names and a field name. -/
def Section.at? : List String → Section → Option Value
  | [], s => some (.map s)
  | [key], s => Value.find? key s
  | key :: next :: rest, s => ((Value.find? key s).bind Value.entries?).bind (at? (next :: rest))

theorem Section.mentions_eq_isSome_at? (path : List String) (s : Section) :
    s.mentions path = (s.at? path).isSome := by
  induction path generalizing s with
  | nil => rfl
  | cons key rest ih =>
    cases rest with
    | nil => rfl
    | cons next rest =>
      rw [mentions, at?]
      cases (Value.find? key s).bind Value.entries? with
      | none => rfl
      | some es => exact ih es

/-- A look-up of a section, or of a field of some kind. -/
inductive Lookup where
  | inner (path : List String)
  | field (path : List String) (kind : FieldKind)
  deriving DecidableEq

namespace Lookup

/-- A section has to be a mapping unless it is null or not there. -/
def innerFault? (name : String) : Option Value → Option Failure
  | none | some .null => none
  | some v => if v.entries?.isSome then none else some (.sectionNotMapping name)

theorem eq_of_innerFault?_eq_some {name : String} {v : Option Value} {f : Failure}
    (h : innerFault? name v = some f) : f = .sectionNotMapping name := by
  unfold innerFault? at h
  split at h
  · cases h
  · cases h
  · split at h
    · cases h
    · exact (Option.some.inj h).symm

/-- Why a look-up fails, if it does. -/
def fault? (es : Section) : Lookup → Option Failure
  | inner path => innerFault? (path.getLast?.getD "") (es.at? path)
  | field path kind => TunnelSettings.fault? (kind.read (es.at? path))

/-- The look-ups of the fields of a section. -/
def fields (path : List String) (columns : Columns) : List Lookup :=
  columns.map fun f => .field (path ++ [f.1]) f.2

/-- The look-ups of a group: its section, and then its fields. -/
def group (key : String) (columns : Columns) : List Lookup :=
  .inner [key] :: fields [key] columns

end Lookup

/-- The look-ups for the tunnel. -/
def Vpn.lookups : List Lookup :=
  [.inner ["vpn"], .inner ["vpn", "provider"], .inner ["vpn", "provider", "server_selection"],
    .inner ["vpn", "openvpn"], .inner ["vpn", "wireguard"],
    .field ["vpn", "provider", "name"] .text, .field ["vpn", "type"] .text] ++
  Lookup.fields ["vpn", "provider", "server_selection"] (Tabular.columns ServerSelection) ++
  Lookup.fields ["vpn", "openvpn"] (Tabular.columns OpenVpn) ++
  Lookup.fields ["vpn", "wireguard"] (Tabular.columns Wireguard)

/-- All look-ups that reading settings makes, in order. -/
def Settings.lookups : List Lookup :=
  [.inner ["system"], .inner ["log"], .inner ["version"]] ++
  Lookup.group "control_server" (Tabular.columns ControlServer) ++
  Lookup.group "dns" (Tabular.columns Dns) ++
  Lookup.group "firewall" (Tabular.columns Firewall) ++
  Lookup.group "health" (Tabular.columns Health) ++
  Lookup.group "http_proxy" (Tabular.columns HttpProxy) ++
  Lookup.fields ["log"] (Tabular.columns Log) ++
  Lookup.group "public_ip" (Tabular.columns PublicIp) ++
  Lookup.group "shadowsocks" (Tabular.columns Shadowsocks) ++
  Lookup.fields ["system"] (Tabular.columns System) ++
  Lookup.group "updater" (Tabular.columns Updater) ++
  Lookup.fields ["version"] (Tabular.columns Version) ++
  Vpn.lookups ++
  Lookup.group "profiling" (Tabular.columns Profiling)

theorem Section.fault?_inner (name : String) (s : Section) :
    fault? (s.inner name) = Lookup.innerFault? name (Value.find? name s) := by
  rw [Section.inner]
  cases Value.find? name s with
  | none => rfl
  | some v => cases v <;> rfl

theorem Section.at?_singleton (key : String) (s : Section) : s.at? [key] = Value.find? key s := rfl

theorem Section.at?_empty (key : String) (rest : List String) : Section.at? (key :: rest) [] = none := by
  cases rest <;> rfl

/-- A section stands at the end of a path if what follows on the path is what the section has. -/
def Section.Stands (es : Section) (path : List String) (s : Section) : Prop :=
  ∀ key rest, es.at? (path ++ key :: rest) = s.at? (key :: rest)

namespace Section.Stands

variable {es s t : Section} {path : List String} {name : String}

theorem root (es : Section) : Stands es [] es := fun _ _ => rfl

theorem inner (h : Stands es path s) (ht : s.inner name = .ok t) : Stands es (path ++ [name]) t := by
  intro key rest
  rw [List.append_assoc, List.singleton_append, h name (key :: rest), at?]
  rw [Section.inner] at ht
  split at ht
  · next absent =>
    cases ht
    rw [absent, at?_empty]
    rfl
  · next null =>
    cases ht
    rw [null, at?_empty]
    rfl
  · next v _ found =>
    rw [found]
    cases v <;> cases ht <;> rfl

theorem at?_concat (h : Stands es path s) (key : String) :
    es.at? (path ++ [key]) = Value.find? key s := by
  rw [h key [], at?_singleton]

end Section.Stands

/-- A part of the reading makes some look-ups in order and fails with the first one that fails; what it
gives has a property. -/
structure Makes {β : Type} (es : Section) (ls : List Lookup) (r : Except Failure β) (P : β → Prop) :
    Prop where
  fault : fault? r = ls.findSome? (Lookup.fault? es)
  result : ∀ b, r = .ok b → P b

namespace Makes

variable {es s : Section} {path : List String} {name : String} {ls : List Lookup} {α β : Type}
  {P : β → Prop}

theorem done (b : β) (h : P b) : Makes es [] (pure b) P :=
  ⟨rfl, fun _ e => by cases e; exact h⟩

/-- One part before others: if it makes its own look-ups, so does the whole. -/
theorem bind {r : Except Failure α} {f : α → Except Failure β} (first : List Lookup)
    (hr : fault? r = first.findSome? (Lookup.fault? es)) (hf : ∀ a, r = .ok a → Makes es ls (f a) P) :
    Makes es (first ++ ls) (r >>= f) P where
  fault := by
    rw [fault?_bind _ _ _ fun a ha => (hf a ha).fault, hr, List.findSome?_append]
  result b hb := by
    obtain ⟨a, ha, hb⟩ := (bind_eq_ok_iff _ _ _).1 hb
    exact (hf a ha).result b hb

theorem inner {f : Section → Except Failure β} (h : Section.Stands es path s)
    (hf : ∀ t, Section.Stands es (path ++ [name]) t → Makes es ls (f t) P) :
    Makes es (.inner (path ++ [name]) :: ls) (s.inner name >>= f) P := by
  refine bind [.inner (path ++ [name])] ?_ fun t ht => hf t (h.inner ht)
  rw [Section.fault?_inner, List.findSome?_singleton, Lookup.fault?, h.at?_concat, List.getLast?_concat]
  rfl

theorem text {f : Option String → Except Failure β} (h : Section.Stands es path s)
    (hf : ∀ x, FieldKind.text.read (es.at? (path ++ [name])) = .ok (toValue x) → Makes es ls (f x) P) :
    Makes es (.field (path ++ [name]) .text :: ls) (s.text name >>= f) P := by
  refine bind [.field (path ++ [name]) .text] ?_ fun x hx => hf x ?_
  · rw [List.findSome?_singleton, Lookup.fault?, h.at?_concat, FieldKind.read, fault?_map]
    rfl
  · rw [h.at?_concat, FieldKind.read, ← Section.text, hx]
    rfl

theorem fields [ToValue α] [Tabular α] {f : α → Except Failure β} (h : Section.Stands es path s)
    (hf : ∀ x : α, (∀ c ∈ Tabular.columns α,
      c.2.read (es.at? (path ++ [c.1])) = .ok ((toValue x).follow [c.1])) → Makes es ls (f x) P) :
    Makes es (Lookup.fields path (Tabular.columns α) ++ ls) (Tabular.ofSection s >>= f) P := by
  refine bind _ ?_ fun x hx => hf x fun c hc => ?_
  · rw [← fault?_map toValue, Tabular.toValue_ofSection, Columns.fault?_read, Lookup.fields,
      List.findSome?_map]
    simp only [Function.comp_def, Lookup.fault?, h.at?_concat]
  · rw [h.at?_concat]
    exact Tabular.follow_of_ofSection s x hx c hc

end Makes

namespace Lookup

/-- What a look-up has found once settings are read. -/
def Found (es : Section) (s : Settings) : Lookup → Prop
  | inner _ => True
  | field path kind => kind.read (es.at? path) = .ok (s.field path)

variable {es : Section} {s : Settings} {path : List String}

/-- The path of the field that is looked up, if it is one. -/
def path? : Lookup → Option (List String)
  | inner _ => none
  | field path _ => some path

theorem found_inner : (inner path).Found es s ↔ True := Iff.rfl

theorem found_field {kind : FieldKind} :
    (field path kind).Found es s ↔ kind.read (es.at? path) = .ok (s.field path) := Iff.rfl

theorem found_fields {columns : Columns} :
    (∀ l ∈ fields path columns, l.Found es s) ↔
      ∀ c ∈ columns, c.2.read (es.at? (path ++ [c.1])) = .ok (s.field (path ++ [c.1])) := by
  simp only [fields, List.forall_mem_map, Found]

/-- A look-up does not tell two sections apart: it fails alike in both, and finds the same if it is one of a
field. -/
def Agrees (es fs : Section) : Lookup → Prop
  | inner path => (inner path).fault? es = (inner path).fault? fs
  | field path kind => kind.read (es.at? path) = kind.read (fs.at? path)

theorem Agrees.fault?_eq {fs : Section} {l : Lookup} (same : l.Agrees es fs) : l.fault? es = l.fault? fs := by
  cases l with
  | inner path => exact same
  | field path kind => exact congrArg TunnelSettings.fault? same

end Lookup

namespace Settings

/-- Reading settings makes the look-ups in order and fills every field with what its look-up finds. -/
theorem makes_ofSection (es : Section) :
    Makes es lookups (ofSection es) fun s => ∀ l ∈ lookups, l.Found es s := by
  rw [ofSection]
  simp only [Vpn.ofSection, bind_assoc, pure_bind, lookups, Vpn.lookups, Lookup.group, List.cons_append,
    List.append_assoc, List.nil_append, List.forall_mem_append, List.forall_mem_cons, Lookup.found_inner,
    Lookup.found_field, Lookup.found_fields, true_and]
  have root := Section.Stands.root es
  refine .inner root fun _ hsystem => .inner root fun _ hlog => .inner root fun _ hversion => ?_
  refine .inner root fun _ hs => .fields (α := ControlServer) hs fun _ controlServer => ?_
  refine .inner root fun _ hs => .fields (α := Dns) hs fun _ dns => ?_
  refine .inner root fun _ hs => .fields (α := Firewall) hs fun _ firewall => ?_
  refine .inner root fun _ hs => .fields (α := Health) hs fun _ health => ?_
  refine .inner root fun _ hs => .fields (α := HttpProxy) hs fun _ httpProxy => ?_
  refine .fields (α := Log) hlog fun _ log => ?_
  refine .inner root fun _ hs => .fields (α := PublicIp) hs fun _ publicIp => ?_
  refine .inner root fun _ hs => .fields (α := Shadowsocks) hs fun _ shadowsocks => ?_
  refine .fields (α := System) hsystem fun _ system => ?_
  refine .inner root fun _ hs => .fields (α := Updater) hs fun _ updater => ?_
  refine .fields (α := Version) hversion fun _ version => ?_
  refine .inner root fun _ hvpn => .inner hvpn fun _ hprovider => .inner hprovider fun _ hselection => ?_
  refine .inner hvpn fun _ hopenvpn => .inner hvpn fun _ hwireguard => ?_
  refine .text hprovider fun _ name => .text hvpn fun _ kind => ?_
  refine .fields (α := ServerSelection) hselection fun _ selection => ?_
  refine .fields (α := OpenVpn) hopenvpn fun _ openvpn => ?_
  refine .fields (α := Wireguard) hwireguard fun _ wireguard => ?_
  rw [← List.append_nil (Lookup.fields ["profiling"] _)]
  refine .inner root fun _ hs => .fields (α := Profiling) hs fun _ profiling => .done _ ?_
  exact ⟨controlServer, dns, firewall, health, httpProxy, log, publicIp, shadowsocks, system, updater,
    version, name, kind, selection, openvpn, wireguard, profiling⟩

/-- Reading succeeds if every look-up does. -/
theorem exists_ofSection_eq {es : Section} (clean : ∀ l ∈ lookups, l.fault? es = none) :
    ∃ s, ofSection es = .ok s := by
  cases read : ofSection es with
  | ok s => exact ⟨s, rfl⟩
  | error f =>
    have fault := (makes_ofSection es).fault
    rw [List.findSome?_eq_none_iff.2 clean, read] at fault
    cases fault

theorem fault?_eq_none_of_read {es : Section} {s : Settings} (read : ofSection es = .ok s) :
    ∀ l ∈ lookups, l.fault? es = none := by
  have fault := (makes_ofSection es).fault
  rw [read] at fault
  exact List.findSome?_eq_none_iff.1 fault.symm

/-- Every field is looked up. -/
theorem exists_lookup (path : List String) (h : path ∈ fieldPaths) :
    ∃ kind, .field path kind ∈ lookups := by
  have all : ∀ path ∈ fieldPaths, path ∈ lookups.filterMap Lookup.path? := by decide +kernel
  obtain ⟨l, hl, found⟩ := List.mem_filterMap.1 (all path h)
  cases l with
  | inner _ => cases found
  | field path kind =>
    cases found
    exact ⟨kind, hl⟩

theorem field_of_ofSection (es : Section) (s : Settings) (h : ofSection es = .ok s)
    (path : List String) (hp : path ∈ fieldPaths) :
    ∃ kind, .field path kind ∈ lookups ∧ kind.read (es.at? path) = .ok (s.field path) := by
  obtain ⟨kind, hk⟩ := exists_lookup path hp
  exact ⟨kind, hk, (makes_ofSection es).result s h _ hk⟩

/-- Data that no look-up tells apart are read alike. -/
theorem ofSection_congr {es fs : Section} (same : ∀ l ∈ lookups, l.Agrees es fs) :
    ofSection es = ofSection fs := by
  refine eq_of_fault?_eq ?_ fun s t here there => ext_field s t fun path hp => ?_
  · have faults : lookups.map (Lookup.fault? es) = lookups.map (Lookup.fault? fs) :=
      List.map_congr_left fun l hl => (same l hl).fault?_eq
    rw [(makes_ofSection es).fault, (makes_ofSection fs).fault]
    have first (gs : Section) :
        lookups.findSome? (Lookup.fault? gs) = (lookups.map (Lookup.fault? gs)).findSome? id := by
      rw [List.findSome?_map]
      rfl
    rw [first, first, faults]
  · obtain ⟨kind, hk⟩ := exists_lookup path hp
    have found := (makes_ofSection es).result s here _ hk
    have again := (makes_ofSection fs).result t there _ hk
    rw [Lookup.found_field] at found again
    have agree : kind.read (es.at? path) = kind.read (fs.at? path) := same _ hk
    rw [agree, again] at found
    exact (Except.ok.inj found).symm

/-- A field that a file does not mention is unset. -/
theorem field_of_not_mentioned (es : Section) (s : Settings) (h : ofSection es = .ok s)
    (path : List String) (hp : path ∈ fieldPaths) (absent : es.mentions path = false) :
    s.field path = .null := by
  obtain ⟨kind, _, read⟩ := field_of_ofSection es s h path hp
  rw [Section.mentions_eq_isSome_at?, Option.isSome_eq_false_iff, Option.isNone_iff_eq_none] at absent
  rw [absent] at read
  cases kind <;> exact (Except.ok.inj read).symm

end Settings
end TunnelSettings

