import Mathlib.Data.List.Infix
import TunnelSettings.Proofs.LayeredData

/-!
Null in data. A key that has null stands for a section or a field that is unset, and so it can as well be
left out: the data are read alike, and fail alike. Only the environment sees the difference, since it gives
a secret where the data do not mention one, and null is a mention.
-/
namespace TunnelSettings

namespace Value

mutual

/-- Data without the keys that have null, in the mapping itself and in all that is below, as far as to the
fields; what a field has is left as it is. -/
def withoutNulls (path : List String) : Value → Value
  | .map es => if path ∈ Settings.fieldPaths then .map es else .map (entriesWithoutNulls path es es)
  | .outerMap back es =>
    if path ∈ Settings.fieldPaths then .outerMap back es else .outerMap back (entriesWithoutNulls path es es)
  | v => v

/-- Entries without those whose key has null in the mapping `all` that they are from. -/
def entriesWithoutNulls (path : List String) (all : Section) : List (Value × Value) → List (Value × Value)
  | [] => []
  | (.text name, v) :: es =>
    if (find? name all).any isNull then entriesWithoutNulls path all es
    else (.text name, withoutNulls (path ++ [name]) v) :: entriesWithoutNulls path all es
  | (key, v) :: es =>
    if v.isNull then entriesWithoutNulls path all es else (key, v) :: entriesWithoutNulls path all es

end

theorem withoutNulls_field {path : List String} (h : path ∈ Settings.fieldPaths) (v : Value) :
    v.withoutNulls path = v := by
  cases v with
  | map es => exact if_pos h
  | outerMap back es => exact if_pos h
  | _ => rfl

theorem entries?_withoutNulls {path : List String} (h : path ∉ Settings.fieldPaths) (v : Value) :
    (v.withoutNulls path).entries? = v.entries?.map fun es => entriesWithoutNulls path es es := by
  cases v with
  | map es => exact congrArg entries? (if_neg h)
  | outerMap back es => exact congrArg entries? (if_neg h)
  | _ => rfl

/-- Under a name there is left what was there, unless that was null. -/
theorem find?_entriesWithoutNulls (path : List String) (name : String) (all es : Section) :
    find? name (entriesWithoutNulls path all es) =
      if (find? name all).any isNull then none else (find? name es).map (withoutNulls (path ++ [name])) := by
  induction es with
  | nil => simp [entriesWithoutNulls, find?]
  | cons e es ih =>
    obtain ⟨k, v⟩ := e
    cases k with
    | text key =>
      rw [entriesWithoutNulls, find?]
      by_cases same : key = name
      · subst same
        by_cases null : (find? key all).any isNull
        · rw [if_pos null, ih, if_pos null, if_pos null]
        · rw [if_neg null, if_neg null, if_pos rfl, find?, if_pos rfl]
          rfl
      · rw [if_neg same, ← ih]
        split
        · rfl
        · rw [find?, if_neg same]
    | _ =>
      rw [entriesWithoutNulls]
      · split <;> exact ih
      · rintro _ ⟨⟩

end Value

namespace Section

/-- Whether a path leads to null. -/
def hasNull (path : List String) (es : Section) : Bool := (es.at? path).any Value.isNull

/-- Data without the keys that have null. -/
def withoutNulls (es : Section) : Section := Value.entriesWithoutNulls [] es es

end Section

/-- What a path leads to without the keys that have null is what is present there. No part of the path may
lead to a field but the whole. -/
theorem Section.at?_entriesWithoutNulls (path before : List String) (key : String) (rest : List String)
    (split : before ++ key :: rest = path) (outer : ∀ p, p <+: path → p ≠ path → p ∉ Settings.fieldPaths)
    (es : Section) :
    Section.at? (key :: rest) (Value.entriesWithoutNulls before es es) =
      (es.present? (key :: rest)).map (Value.withoutNulls path) := by
  induction rest generalizing before key es with
  | nil =>
    rw [present?, at?_singleton, at?_singleton, Value.find?_entriesWithoutNulls, split]
    cases Value.find? key es with
    | none => rfl
    | some v => cases v <;> rfl
  | cons next rest ih =>
    have notField : before ++ [key] ∉ Settings.fieldPaths := by
      refine outer _ ⟨next :: rest, by simpa using split⟩ fun whole => ?_
      have := congrArg List.length (whole.trans split.symm)
      simp at this
    rw [present?, at?, at?, Value.find?_entriesWithoutNulls]
    cases Value.find? key es with
    | none => rfl
    | some v =>
      -- null has no entries, so it makes no difference that it is left out
      have inside : (if (some v).any Value.isNull then none
          else (some v).map (Value.withoutNulls (before ++ [key]))).bind Value.entries? =
            v.entries?.map fun inner => Value.entriesWithoutNulls (before ++ [key]) inner inner := by
        rw [← Value.entries?_withoutNulls notField]
        split
        · next null =>
          rw [Option.any_some, Value.isNull_iff] at null
          rw [null]
          rfl
        · rfl
      rw [inside, Option.bind_some]
      cases v.entries? with
      | none => rfl
      | some inner => exact ih (before ++ [key]) next (by simpa using split) inner

namespace Lookup

variable (name : String) (v : Option Value)

theorem innerFault?_filter : innerFault? name (v.filter (!·.isNull)) = innerFault? name v := by
  cases v with
  | none => rfl
  | some v => cases v <;> rfl

theorem innerFault?_map_withoutNulls (path : List String) :
    innerFault? name (v.map (Value.withoutNulls path)) = innerFault? name v := by
  cases v with
  | none => rfl
  | some v =>
    rw [Option.map_some]
    cases v with
    | map es => rw [Value.withoutNulls]; split <;> rfl
    | outerMap back es => rw [Value.withoutNulls]; split <;> rfl
    | _ => rfl

end Lookup

namespace Settings

/-- On the way to a field there are no other fields. -/
theorem not_mem_fieldPaths_of_above :
    ∀ path ∈ fieldPaths, ∀ p, p <+: path → p ≠ path → p ∉ fieldPaths := by
  have all : ∀ path ∈ fieldPaths, ∀ p ∈ path.inits, p ≠ path → p ∉ fieldPaths := by decide +kernel
  exact fun path h p before => all path h p ((List.mem_inits p path).2 before)

theorem ne_nil_of_mem_fieldPaths : ∀ path ∈ fieldPaths, path ≠ [] := by decide +kernel

variable (es : Section)

/-- The path of a field leads to what is present there. -/
theorem at?_withoutNulls (path : List String) (h : path ∈ fieldPaths) :
    es.withoutNulls.at? path = es.present? path := by
  obtain ⟨key, rest, rfl⟩ := List.exists_cons_of_ne_nil (ne_nil_of_mem_fieldPaths path h)
  rw [Section.withoutNulls, Section.at?_entriesWithoutNulls _ [] key rest rfl
    (not_mem_fieldPaths_of_above _ h)]
  have kept : Value.withoutNulls (key :: rest) = id := funext fun v => Value.withoutNulls_field h v
  rw [List.nil_append, kept, Option.map_id, id]

/-- A path leads to a section, or to what may not stand there, just if it did before. -/
theorem innerFault?_withoutNulls (path : List String) (h : .inner path ∈ lookups) (name : String) :
    Lookup.innerFault? name (es.withoutNulls.at? path) = Lookup.innerFault? name (es.at? path) := by
  obtain ⟨field, known, rfl⟩ := exists_field_of_inner path h
  obtain ⟨key, rest, eq⟩ := List.exists_cons_of_ne_nil (fits_of_mem_lookups {} _ h).1
  have outer : ∀ p, p <+: field.dropLast → p ≠ field.dropLast → p ∉ fieldPaths := by
    intro p before _
    refine not_mem_fieldPaths_of_above field known p (before.trans field.dropLast_prefix) ?_
    rintro rfl
    have shorter := before.length_le
    have := List.length_pos_of_ne_nil (ne_nil_of_mem_fieldPaths p known)
    rw [List.length_dropLast] at shorter
    omega
  rw [eq] at outer ⊢
  rw [Section.withoutNulls, Section.at?_entriesWithoutNulls _ [] key rest rfl outer,
    Lookup.innerFault?_map_withoutNulls, Section.present?, Lookup.innerFault?_filter]

/-- Data are read alike with and without the keys that have null. -/
theorem ofSection_withoutNulls : ofSection es.withoutNulls = ofSection es := by
  refine ofSection_congr fun l hl => ?_
  cases l with
  | inner path => exact innerFault?_withoutNulls es path hl _
  | field path kind =>
    have known := mem_fieldPaths_of_lookup path kind hl
    change kind.read (es.withoutNulls.at? path) = kind.read (es.at? path)
    rw [at?_withoutNulls es path known, FieldKind.read_present]

variable {es}

/-- What has null is unset, whatever the environment gives. -/
theorem field_fragment_of_hasNull {env : Secrets} {s : Settings} (built : fragment (.map es) env = .ok s)
    (path : List String) (h : path ∈ fieldPaths) (null : es.hasNull path) : s.field path = .null := by
  obtain ⟨u, read, rfl⟩ := (fragment_eq_ok_iff es env s).1 built
  obtain ⟨v, found, isNull⟩ := (Option.any_eq_true _ _).1 null
  have mentioned : es.mentions path = true := by
    rw [Section.mentions_eq_isSome_at?, found, Option.isSome_some]
  rw [field_withSecrets _ es env path h, mentioned, Bool.or_true, if_pos rfl, ← isSet_eq_false_iff,
    isSet_withSmallNames u path h, isSet_eq_isSome_present? read path h, Section.present?, found]
  simp [isNull]

/-- Without the keys that have null the data mention what they mentioned and is not null. -/
theorem mentions_withoutNulls (path : List String) (h : path ∈ fieldPaths) :
    es.withoutNulls.mentions path = (es.mentions path && !es.hasNull path) := by
  rw [Section.mentions_eq_isSome_at?, Section.mentions_eq_isSome_at?, at?_withoutNulls es path h,
    Section.present?, Section.hasNull]
  cases es.at? path with
  | none => rfl
  | some v => cases null : v.isNull <;> simp [null]

theorem field_withSecrets_withoutNulls (es : Section) (s : Settings) (env : Secrets) (path : List String)
    (h : path ∈ fieldPaths) (present : es.hasNull path = false) :
    (s.withSecrets es.withoutNulls env).field path = (s.withSecrets es env).field path := by
  rw [field_withSecrets _ _ env path h, field_withSecrets _ _ env path h, mentions_withoutNulls path h, present,
    Bool.not_false, Bool.and_true]

theorem fragment_withoutNulls_eq_error_iff (env : Secrets) (f : Failure) :
    fragment (.map es.withoutNulls) env = .error f ↔ fragment (.map es) env = .error f := by
  simp only [fragment, ofValue, Value.entries?, ofSection_withoutNulls]
  cases ofSection es with
  | error g => rfl
  | ok u => exact iff_of_false (by simp) (by simp)

/--
Leaving out the keys that have null changes neither whether data are read nor how that fails. A field that
had null was unset, and has the secret that the environment gives for it once its key is left out; all
other fields are the same. So nothing changes just if the environment gives nothing for the fields that
had null.
-/
theorem fragment_withoutNulls (es : Section) (env : Secrets) :
    (∀ f, fragment (.map es.withoutNulls) env = .error f ↔ fragment (.map es) env = .error f) ∧
      ∀ s, fragment (.map es) env = .ok s → ∃ t, fragment (.map es.withoutNulls) env = .ok t ∧
        (∀ path ∈ fieldPaths, es.hasNull path = true →
          s.field path = .null ∧ t.field path = toValue (env.given? path)) ∧
        (∀ path ∈ fieldPaths, es.hasNull path = false → t.field path = s.field path) ∧
        (t = s ↔ ∀ path ∈ fieldPaths, es.hasNull path = true → env.given? path = none) := by
  refine ⟨fragment_withoutNulls_eq_error_iff env, fun s built => ?_⟩
  have unset := field_fragment_of_hasNull built
  obtain ⟨u, read, rfl⟩ := (fragment_eq_ok_iff es env s).1 built
  have rebuilt := (fragment_eq_ok_iff es.withoutNulls env _).2 ⟨u, (ofSection_withoutNulls es).trans read, rfl⟩
  have kept := field_withSecrets_withoutNulls es u.withSmallNames env
  have given (path : List String) (h : path ∈ fieldPaths) (null : es.hasNull path = true) :
      (u.withSmallNames.withSecrets es.withoutNulls env).field path = toValue (env.given? path) := by
    refine field_fragment_of_absent es.withoutNulls env _ rebuilt path h ?_
    rw [mentions_withoutNulls path h, null, Bool.not_true, Bool.and_false]
  refine ⟨_, rebuilt, fun path h null => ⟨unset path h null, given path h null⟩, kept, ?_⟩
  constructor
  · intro same path h null
    have nothing := unset path h null
    rw [← same, given path h null] at nothing
    exact (toValue_inj _ none).1 nothing
  · intro nothing
    refine ext_field _ _ fun path h => ?_
    cases null : es.hasNull path with
    | false => exact kept path h null
    | true =>
      rw [given path h null, nothing path h null, unset path h null]
      rfl

/-- A file in which a password, a section and a name are null. -/
def nullFile : Section := [
  (.text "shadowsocks", .map [(.text "password", .null), (.text "log", .text "on")]),
  (.text "dns", .null),
  (.text "vpn", .map [(.text "type", .null), (.text "openvpn", .map [(.text "user", .text "me")])])]

theorem fragment_withoutNulls_nullFile :
    ∃ s t, fragment (.map nullFile) { shadowsocksPassword := "given" } = .ok s ∧
      fragment (.map nullFile.withoutNulls) { shadowsocksPassword := "given" } = .ok t ∧
      s.field ["shadowsocks", "password"] = .null ∧ t.field ["shadowsocks", "password"] = .text "given" ∧
      t.field ["vpn", "openvpn", "user"] = s.field ["vpn", "openvpn", "user"] := by
  have built : fragment (.map nullFile) { shadowsocksPassword := "given" } =
      .ok { shadowsocks := { log := true }, vpn := { openvpn := { user := "me" } } } := by decide +kernel
  obtain ⟨t, rebuilt, nulls, others, -⟩ := (fragment_withoutNulls nullFile _).2 _ built
  obtain ⟨unset, given⟩ := nulls ["shadowsocks", "password"] (by decide) rfl
  exact ⟨_, t, built, rebuilt, unset, given, others _ (by decide) rfl⟩

/-- A password that is null is not one that is left out, if the environment gives one; and what a field has is
data of its own, in which keys that have null count. -/
theorem fragment_ne_withoutNulls :
    (∃ s t, fragment (.map [(.text "shadowsocks", .map [(.text "password", .null)])])
          { shadowsocksPassword := "given" } = .ok s ∧
        fragment (.map (Section.withoutNulls [(.text "shadowsocks", .map [(.text "password", .null)])]))
          { shadowsocksPassword := "given" } = .ok t ∧
        s ≠ t) ∧
      fragment (.map [(.text "dns", .map [(.text "upstream_providers", .map [(.text "quad9", .null)])])]) {} ≠
        fragment (.map [(.text "dns", .map [(.text "upstream_providers", .map [])])]) {} :=
  ⟨⟨{}, { shadowsocks := { password := "given" } }, by decide +kernel, by decide +kernel, by decide⟩,
    by decide +kernel⟩

end Settings
end TunnelSettings
