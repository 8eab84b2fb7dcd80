import TunnelSettings.Proofs.Fragments
import TunnelSettings.Proofs.Trees

/-!
Settings as data and back. Each field stands at the end of its path in the data if it is set, and nothing
stands there if it is not; so reading the data gives the settings back, up to letter case in two names
and the secrets of the environment.
-/
namespace TunnelSettings

open ToValue

/-- Groups whose data have an entry for every column, in order. -/
class Written (α : Type) [ToValue α] [Tabular α] : Prop where
  toValue_eq (x : α) :
    toValue x = .map ((Tabular.columns α).map fun c => (.text c.1, (toValue x).follow [c.1]))

instance : Written ControlServer := ⟨fun _ => rfl⟩
instance : Written Dns := ⟨fun _ => rfl⟩
instance : Written Firewall := ⟨fun _ => rfl⟩
instance : Written Health := ⟨fun _ => rfl⟩
instance : Written HttpProxy := ⟨fun _ => rfl⟩
instance : Written Log := ⟨fun _ => rfl⟩
instance : Written PublicIp := ⟨fun _ => rfl⟩
instance : Written Shadowsocks := ⟨fun _ => rfl⟩
instance : Written System := ⟨fun _ => rfl⟩
instance : Written Updater := ⟨fun _ => rfl⟩
instance : Written Version := ⟨fun _ => rfl⟩
instance : Written ServerSelection := ⟨fun _ => rfl⟩
instance : Written OpenVpn := ⟨fun _ => rfl⟩
instance : Written Wireguard := ⟨fun _ => rfl⟩
instance : Written Profiling := ⟨fun _ => rfl⟩

theorem Columns.find?_of_not_mem (value : String → Value) (columns : Columns) (name : String)
    (h : name ∉ columns.map (·.1)) :
    Value.find? name (columns.map fun c => (.text c.1, value c.1)) = none := by
  induction columns with
  | nil => rfl
  | cons c rest ih =>
    rw [List.map_cons, List.mem_cons, not_or] at h
    rw [List.map_cons, Value.find?, if_neg (Ne.symm h.1), ih h.2]

/-- Entries for different columns are a tree if their values are. -/
theorem Columns.areNamed {leaf : Value → Prop} (value : String → Value) (columns : Columns)
    (nodup : (columns.map (·.1)).Nodup) (h : ∀ c ∈ columns, (value c.1).IsTree leaf) :
    Value.AreNamed leaf (columns.map fun c => (.text c.1, value c.1)) := by
  induction columns with
  | nil => exact .nil
  | cons c rest ih =>
    obtain ⟨first, nodup⟩ := List.nodup_cons.1 nodup
    obtain ⟨tree, trees⟩ := List.forall_mem_cons.1 h
    exact .cons (find?_of_not_mem value rest c.1 first) tree (ih nodup trees)

theorem Written.isTree {α : Type} [ToValue α] [Tabular α] [Written α] {leaf : Value → Prop} (x : α)
    (h : ∀ c ∈ Tabular.columns α, ((toValue x).follow [c.1]).IsTree leaf) : (toValue x).IsTree leaf := by
  rw [toValue_eq x]
  exact .map (Columns.areNamed (fun key => (toValue x).follow [key]) _ Tabular.nodup h)

/-- Values that a field of some kind can have: null for an unset one, or else what the kind is. -/
def FieldKind.Admits (v : Value) : FieldKind → Prop
  | flag => ∃ x : Option Bool, v = toValue x
  | integer => ∃ x : Option Int, v = toValue x
  | decimal => ∃ x : Option Binary64, v = toValue x
  | text => ∃ x : Option String, v = toValue x
  | texts => ∃ x : Option (List String), v = toValue x
  | integers => ∃ x : Option (List Int), v = toValue x

/-- Settings as data have a mapping for a section, and for a field a value that its kind admits. -/
def Lookup.Fits (s : Settings) : Lookup → Prop
  | inner path => path ≠ [] ∧ ∃ inside, (toValue s).entries.at? path = some (.map inside)
  | field path kind => path ≠ [] ∧ kind.Admits (s.field path)

namespace Settings

theorem fits_of_mem_lookups (s : Settings) : ∀ l ∈ lookups, l.Fits s := by
  simp only [lookups, Vpn.lookups, Lookup.group, Lookup.fields, Tabular.columns, List.map_cons,
    List.map_nil, List.cons_append, List.nil_append, List.forall_mem_cons, Lookup.Fits]
  and_intros
  all_goals first | exact ⟨_, rfl⟩ | exact List.cons_ne_nil _ _ | exact List.forall_mem_nil _

/-- Settings as data are trees, with leaves of some sort if all fields are of that sort. -/
theorem areNamed_toValue {leaf : Value → Prop} (s : Settings)
    (h : ∀ path ∈ fieldPaths, (s.field path).IsTree leaf) : Value.AreNamed leaf (toValue s).entries := by
  have flat {α : Type} [ToValue α] [Tabular α] [Written α] (x : α) (path : List String)
      (seen : ∀ name, s.field (path ++ [name]) = (toValue x).follow [name])
      (known : ∀ c ∈ Tabular.columns α, path ++ [c.1] ∈ fieldPaths) : (toValue x).IsTree leaf :=
    Written.isTree x fun c hc => seen c.1 ▸ h _ (known c hc)
  have kind : (toValue s.vpn.kind).IsTree leaf := h ["vpn", "type"] (by decide)
  have name : (toValue s.vpn.provider.name).IsTree leaf := h ["vpn", "provider", "name"] (by decide)
  have selection : (toValue s.vpn.provider.selection).IsTree leaf :=
    flat _ ["vpn", "provider", "server_selection"] (fun _ => rfl) (by decide)
  have provider : (toValue s.vpn.provider).IsTree leaf := .map (.cons rfl name (.cons rfl selection .nil))
  have openvpn : (toValue s.vpn.openvpn).IsTree leaf := flat _ ["vpn", "openvpn"] (fun _ => rfl) (by decide)
  have wireguard : (toValue s.vpn.wireguard).IsTree leaf :=
    flat _ ["vpn", "wireguard"] (fun _ => rfl) (by decide)
  have vpn : (toValue s.vpn).IsTree leaf :=
    .map (.cons rfl kind (.cons rfl provider (.cons rfl openvpn (.cons rfl wireguard .nil))))
  refine .cons rfl (flat s.controlServer ["control_server"] (fun _ => rfl) (by decide)) ?_
  refine .cons rfl (flat s.dns ["dns"] (fun _ => rfl) (by decide)) ?_
  refine .cons rfl (flat s.firewall ["firewall"] (fun _ => rfl) (by decide)) ?_
  refine .cons rfl (flat s.health ["health"] (fun _ => rfl) (by decide)) ?_
  refine .cons rfl (flat s.httpProxy ["http_proxy"] (fun _ => rfl) (by decide)) ?_
  refine .cons rfl (flat s.log ["log"] (fun _ => rfl) (by decide)) ?_
  refine .cons rfl (flat s.publicIp ["public_ip"] (fun _ => rfl) (by decide)) ?_
  refine .cons rfl (flat s.shadowsocks ["shadowsocks"] (fun _ => rfl) (by decide)) ?_
  refine .cons rfl (flat s.system ["system"] (fun _ => rfl) (by decide)) ?_
  refine .cons rfl (flat s.updater ["updater"] (fun _ => rfl) (by decide)) ?_
  refine .cons rfl (flat s.version ["version"] (fun _ => rfl) (by decide)) ?_
  refine .cons rfl vpn ?_
  exact .cons rfl (flat s.profiling ["profiling"] (fun _ => rfl) (by decide)) .nil

end Settings

namespace FieldKind

theorem mapM_toText (xs : List String) : (xs.map toValue).mapM Value.toText = .ok xs := by
  induction xs with
  | nil => rfl
  | cons x xs ih =>
    rw [List.map_cons, List.mapM_cons, ih]
    rfl

theorem mapM_toInt (xs : List Int) : (xs.map toValue).mapM Value.toInt = .ok xs := by
  induction xs with
  | nil => rfl
  | cons x xs ih =>
    rw [List.map_cons, List.mapM_cons, ih]
    rfl

/-- What pruning leaves of a value of some kind is read as that value. -/
theorem read_kept {kind : FieldKind} {v : Value} (h : kind.Admits v) : kind.read v.kept = .ok v := by
  cases kind with
  | texts =>
    obtain ⟨_ | xs, rfl⟩ := h
    · rfl
    · have items : Value.toList Value.toText (toValue xs) = .ok xs := mapM_toText xs
      change toValue <$> (some <$> Value.toList Value.toText (toValue xs)) = _
      rw [items]
      rfl
  | integers =>
    obtain ⟨_ | xs, rfl⟩ := h
    · rfl
    · have items : Value.toList Value.toInt (toValue xs) = .ok xs := mapM_toInt xs
      change toValue <$> (some <$> Value.toList Value.toInt (toValue xs)) = _
      rw [items]
      rfl
  | _ =>
    obtain ⟨_ | x, rfl⟩ := h <;> rfl

/-- Pruning leaves what is set. -/
theorem Admits.kept_eq {kind : FieldKind} {v : Value} (h : kind.Admits v) :
    v.kept = if !v.isNull then some v else none := by
  cases kind <;> obtain ⟨_ | x, rfl⟩ := h <;> rfl

/-- Values of a kind are trees if their leaves are of the sort that is asked for. -/
theorem Admits.isTree {kind : FieldKind} {v : Value} (h : kind.Admits v) : v.IsTree fun _ => True := by
  cases kind with
  | texts =>
    obtain ⟨_ | xs, rfl⟩ := h
    · trivial
    · exact (Value.areTrees_iff _ _).2 (by simp [toValue, Value.IsTree])
  | integers =>
    obtain ⟨_ | xs, rfl⟩ := h
    · trivial
    · exact (Value.areTrees_iff _ _).2 (by simp [toValue, Value.IsTree])
  | _ => obtain ⟨_ | x, rfl⟩ := h <;> trivial

end FieldKind

/-- Types whose values are equal if their data are. -/
class Exact (α : Type) [ToValue α] : Prop where
  eq_of_same {x y : α} : (toValue x).same (toValue y) = true → x = y

namespace Exact

instance : Exact Bool := ⟨fun h => of_decide_eq_true h⟩
instance : Exact Int := ⟨fun h => of_decide_eq_true h⟩
instance : Exact String := ⟨fun h => of_decide_eq_true h⟩

instance {α : Type} [ToValue α] [Exact α] : Exact (List α) where
  eq_of_same {xs ys} h := by
    have h : Value.sameItems (xs.map toValue) (ys.map toValue) = true := h
    induction xs generalizing ys with
    | nil =>
      cases ys with
      | nil => rfl
      | cons => cases h
    | cons x xs ih =>
      cases ys with
      | nil => cases h
      | cons y ys =>
        rw [List.map_cons, List.map_cons, Value.sameItems, Bool.and_eq_true] at h
        rw [eq_of_same h.1, ih h.2 h.2]

end Exact

/-- Unset fields agree, and set ones whose data are equal. -/
theorem Value.rel_of_agree {α : Type} [ToValue α] (left : ∀ x : α, (toValue x).kept = some (toValue x))
    {a b : Option α} (agree : Agree (toValue a).kept (toValue b).kept) :
    Option.Rel (fun x y => (toValue x).same (toValue y) = true) a b := by
  cases a with
  | none =>
    cases b with
    | none => exact .none
    | some y => rw [toValue_some, left] at agree; cases agree
  | some x =>
    cases b with
    | none => rw [toValue_some, left] at agree; cases agree
    | some y =>
      rw [toValue_some, toValue_some, left, left] at agree
      cases agree with
      | some eq => exact .some eq

theorem Value.eq_of_agree {α : Type} [ToValue α] [Exact α]
    (left : ∀ x : α, (toValue x).kept = some (toValue x)) {a b : Option α}
    (agree : Agree (toValue a).kept (toValue b).kept) : a = b := by
  cases rel_of_agree left agree with
  | none => rfl
  | some eq => rw [Exact.eq_of_same eq]

/-- Data of one kind that is not that of decimals are the same if they agree. -/
theorem FieldKind.Admits.eq_of_agree {kind : FieldKind} (exact : kind ≠ .decimal) {v w : Value}
    (hv : kind.Admits v) (hw : kind.Admits w) (agree : Value.Agree v.kept w.kept) : v = w := by
  cases kind <;> first | exact absurd rfl exact | skip
  all_goals
    obtain ⟨a, rfl⟩ := hv
    obtain ⟨b, rfl⟩ := hw
    rw [Value.eq_of_agree (fun _ => rfl) agree]

namespace Settings

/-- A field is what stands at the end of its path in the data, if anything does. -/
theorem field_eq_at? (s : Settings) (path : List String) :
    s.field path = ((toValue s).entries.at? path).getD .null :=
  Value.follow_map path _

theorem areNamed_entries (s : Settings) : Value.AreNamed (fun _ => True) (toValue s).entries := by
  refine areNamed_toValue s fun path hp => ?_
  obtain ⟨kind, hk⟩ := exists_lookup path hp
  exact (fits_of_mem_lookups s _ hk).2.isTree

/-- The entries of the data of settings with what is unset left out. -/
def rawEntries (s : Settings) : Section := Value.prunedEntries (toValue s).entries

theorem toRaw_eq (s : Settings) : s.toRaw = .map s.rawEntries := rfl

theorem areNamed_rawEntries (s : Settings) : Value.AreNamed (fun _ => True) s.rawEntries :=
  s.areNamed_entries.prunedEntries

/-- The data have a set field at the end of its path, and nothing at the end of the path of one that is unset. -/
theorem at?_rawEntries (s : Settings) (path : List String) (ne : path ≠ []) :
    s.rawEntries.at? path = (s.field path).kept := by
  obtain ⟨key, rest, rfl⟩ := List.exists_cons_of_ne_nil ne
  rw [rawEntries, Section.at?_prunedEntries _ s.areNamed_entries, field_eq_at?]
  cases (toValue s).entries.at? (key :: rest) <;> rfl

/-- No look-up in the data of settings fails. -/
theorem fault?_rawEntries (s : Settings) : ∀ l ∈ lookups, l.fault? s.rawEntries = none := by
  intro l hl
  have fits := fits_of_mem_lookups s l hl
  cases l with
  | inner path =>
    obtain ⟨ne, inside, found⟩ := fits
    rw [Lookup.fault?, at?_rawEntries s path ne, field_eq_at?, found, Option.getD_some, Value.kept_map]
    cases Value.prunedEntries inside <;> rfl
  | field path kind =>
    obtain ⟨ne, admits⟩ := fits
    rw [Lookup.fault?, at?_rawEntries s path ne, FieldKind.read_kept admits]
    rfl

/-- The data of settings are read as these settings. -/
theorem ofSection_rawEntries (s : Settings) : ofSection s.rawEntries = .ok s := by
  obtain ⟨t, read⟩ := exists_ofSection_eq s.fault?_rawEntries
  have same : t = s := by
    refine ext_field t s fun path hp => ?_
    obtain ⟨kind, hk, found⟩ := field_of_ofSection _ t read path hp
    obtain ⟨ne, admits⟩ := fits_of_mem_lookups s _ hk
    rw [at?_rawEntries s path ne, FieldKind.read_kept admits] at found
    exact (Except.ok.inj found).symm
  rw [read, same]

/-- The settings that are read from the data of settings: two names are then in small letters, and a secret
that is unset is the one that the environment gives, if it gives one that is not empty. -/
def reread (s : Settings) (env : Secrets) : Settings :=
  let secret (field given : Option String) := field.or (given.filter fun t => !t.isEmpty)
  { s with
    shadowsocks := { s.shadowsocks with
      password := secret s.shadowsocks.password env.shadowsocksPassword }
    vpn := {
      kind := s.vpn.kind.map Text.lower
      provider := { s.vpn.provider with name := s.vpn.provider.name.map Text.lower }
      openvpn := { s.vpn.openvpn with
        user := secret s.vpn.openvpn.user env.openvpnUser
        password := secret s.vpn.openvpn.password env.openvpnPassword }
      wireguard := { s.vpn.wireguard with
        privateKey := secret s.vpn.wireguard.privateKey env.wireguardKey } } }

/-- The data of settings mention the fields that are set. -/
theorem mentions_rawEntries (s : Settings) (path : List String) (hp : path ∈ fieldPaths) :
    s.rawEntries.mentions path = s.isSet path := by
  obtain ⟨kind, hk⟩ := exists_lookup path hp
  obtain ⟨ne, admits⟩ := fits_of_mem_lookups s _ hk
  rw [Section.mentions_eq_isSome_at?, at?_rawEntries s path ne, isSet, admits.kept_eq]
  cases (s.field path).isNull <;> rfl

theorem withSecrets_rawEntries (s : Settings) (env : Secrets) :
    s.withSmallNames.withSecrets s.rawEntries env = s.reread env := by
  have secret (path : List String) (field given : Option String) (hp : path ∈ fieldPaths)
      (h : s.field path = toValue field) :
      s.rawEntries.orGiven path field given = field.or (given.filter fun t => !t.isEmpty) := by
    rw [Section.orGiven, mentions_rawEntries s path hp, isSet, h, isNull_toValue]
    cases field <;> rfl
  have password := secret ["shadowsocks", "password"] s.shadowsocks.password env.shadowsocksPassword
    (by decide) rfl
  have user := secret ["vpn", "openvpn", "user"] s.vpn.openvpn.user env.openvpnUser (by decide) rfl
  have openvpn := secret ["vpn", "openvpn", "password"] s.vpn.openvpn.password env.openvpnPassword
    (by decide) rfl
  have key := secret ["vpn", "wireguard", "private_key"] s.vpn.wireguard.privateKey env.wireguardKey
    (by decide) rfl
  simp only [withSecrets, withSmallNames, reread, password, user, openvpn, key]

theorem fragment_toRaw (s : Settings) (env : Secrets) : fragment s.toRaw env = .ok (s.reread env) := by
  rw [toRaw_eq, fragment_eq_ok_iff]
  exact ⟨s, s.ofSection_rawEntries, s.withSecrets_rawEntries env⟩

theorem toRaw_injective {s t : Settings} (h : s.toRaw = t.toRaw) : s = t := by
  have same : ofSection s.rawEntries = ofSection t.rawEntries :=
    congrArg (fun es => ofSection es) (Value.map.inj h)
  rw [ofSection_rawEntries, ofSection_rawEntries] at same
  exact Except.ok.inj same

theorem field_withRatio (s : Settings) (ratio : Option Binary64) : ∀ path ∈ fieldPaths,
    ({ s with updater := { s.updater with minRatio := ratio } } : Settings).field path =
      if path = ["updater", "min_ratio"] then toValue ratio else s.field path := by
  rw [fieldPaths_eq]
  simp only [List.forall_mem_cons]
  and_intros
  all_goals first | rfl | exact List.forall_mem_nil _

/-- The one field that is a decimal number. -/
theorem decimal_path (path : List String) (h : .field path .decimal ∈ lookups) :
    path = ["updater", "min_ratio"] := by
  have all : ∀ l ∈ lookups, ∀ path, l = .field path .decimal → path = ["updater", "min_ratio"] := by
    simp only [lookups, Vpn.lookups, Lookup.group, Lookup.fields, Tabular.columns, List.map_cons,
      List.map_nil, List.cons_append, List.nil_append, List.forall_mem_cons, List.not_mem_nil]
    simp
  exact all _ h path rfl

theorem same_of_same_toRaw {s t : Settings} (h : s.toRaw.same t.toRaw = true) : s.same t = true := by
  have agree (path : List String) (hp : path ∈ fieldPaths) :
      Value.Agree (s.field path).kept (t.field path).kept := by
    obtain ⟨kind, hk⟩ := exists_lookup path hp
    have ne := (fits_of_mem_lookups s _ hk).1
    rw [← at?_rawEntries s path ne, ← at?_rawEntries t path ne]
    exact Section.agree_at? _ _ s.areNamed_rawEntries t.areNamed_rawEntries h path
  have ratio : Option.Rel (fun x y => x.same y = true) s.updater.minRatio t.updater.minRatio :=
    Value.rel_of_agree (fun _ => rfl) (agree ["updater", "min_ratio"] (by decide))
  have rest : s = { t with updater := { t.updater with minRatio := s.updater.minRatio } } := by
    refine ext_field _ _ fun path hp => ?_
    rw [field_withRatio t _ path hp]
    split
    · next eq =>
      rw [eq]
      rfl
    · next ne =>
      obtain ⟨kind, hk⟩ := exists_lookup path hp
      have exact : kind ≠ .decimal := by
        rintro rfl
        exact ne (decimal_path path hk)
      exact (fits_of_mem_lookups s _ hk).2.eq_of_agree exact (fits_of_mem_lookups t _ hk).2 (agree path hp)
  rw [same, ← rest, decide_eq_true rfl, Bool.and_true]
  revert ratio
  cases s.updater.minRatio <;> cases t.updater.minRatio <;> rintro ⟨⟩
  · rfl
  · assumption

/-- Settings come back from their data, whatever the environment gives: the data have at the end of each
path the field that is set there, be it empty or zero or false, and nothing of the fields that are unset,
and different settings have different data. -/
theorem raw_round_trip (s : Settings) (env : Secrets) :
    fragment s.toRaw env = .ok (s.reread env) ∧
      (∃ es : Section, s.toRaw = .map es ∧ ∀ path ∈ fieldPaths,
        es.at? path = if s.isSet path then some (s.field path) else none) ∧
      ∀ t : Settings, (s.toRaw = t.toRaw → s = t) ∧ (s.toRaw.same t.toRaw = true → s.same t = true) := by
  refine ⟨s.fragment_toRaw env, ⟨s.rawEntries, rfl, fun path hp => ?_⟩,
    fun t => ⟨toRaw_injective, same_of_same_toRaw⟩⟩
  obtain ⟨kind, hk⟩ := exists_lookup path hp
  obtain ⟨ne, admits⟩ := fits_of_mem_lookups s _ hk
  rw [at?_rawEntries s path ne, isSet, admits.kept_eq]

end Settings
end TunnelSettings
