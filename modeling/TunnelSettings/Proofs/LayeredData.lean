import TunnelSettings.Proofs.RawData

/-!
Layers of data. Data can lie on each other as settings do: at the end of each path there is what the upper
data have there, unless that is null or not there at all, and then what the lower data have. It makes no
difference whether data are laid on each other and then read, or read first.
-/
namespace TunnelSettings

namespace Section

/-- What stands at the end of a path and is not null. -/
def present? (path : List String) (es : Section) : Option Value := (es.at? path).filter (!·.isNull)

/-- The data have what is present in the upper data, and for the rest what is present in the lower ones;
what stands where a section belongs is one. -/
structure Layers (upper lower es : Section) : Prop where
  field : ∀ path ∈ Settings.fieldPaths,
    es.present? path = (upper.present? path).or (lower.present? path)
  inner : ∀ path ∈ Settings.fieldPaths, ∀ v ∈ es.present? path.dropLast, ∃ inside, v = .map inside

end Section

/-! ### Data for given fields -/

namespace Value

mutual

/-- Data of the same form with other leaves. -/
def withLeaves (leaf : List String → Value) (path : List String) : Value → Value
  | .map es => .map (entriesWithLeaves leaf path es)
  | .outerMap back es => .outerMap back (entriesWithLeaves leaf path es)
  | _ => leaf path

def entriesWithLeaves (leaf : List String → Value) (path : List String) :
    List (Value × Value) → List (Value × Value)
  | [] => []
  | (.text name, v) :: es =>
    (.text name, withLeaves leaf (path ++ [name]) v) :: entriesWithLeaves leaf path es
  | _ :: es => entriesWithLeaves leaf path es

end

variable (leaf : List String → Value)

theorem find?_entriesWithLeaves (path : List String) (name : String) (es : List (Value × Value)) :
    find? name (entriesWithLeaves leaf path es) =
      (find? name es).map (withLeaves leaf (path ++ [name])) := by
  induction es with
  | nil => rfl
  | cons e es ih =>
    obtain ⟨k, v⟩ := e
    cases k with
    | text key =>
      rw [entriesWithLeaves, find?, find?, ih]
      split
      · next same => rw [same]; rfl
      · rfl
    | _ => exact ih

end Value

theorem Section.at?_entriesWithLeaves (leaf : List String → Value) (es : Section) (path : List String)
    (key : String) (rest : List String) {v : Value} (found : es.at? (key :: rest) = some v) :
    Section.at? (key :: rest) (Value.entriesWithLeaves leaf path es) =
      some (v.withLeaves leaf (path ++ key :: rest)) := by
  induction rest generalizing key es path with
  | nil =>
    rw [at?_singleton] at found ⊢
    rw [Value.find?_entriesWithLeaves, found]
    rfl
  | cons next rest ih =>
    rw [at?] at found ⊢
    rw [Value.find?_entriesWithLeaves]
    cases inner : Value.find? key es with
    | none => rw [inner] at found; cases found
    | some w =>
      rw [inner] at found
      have below (inside : Section) := ih inside (path ++ [key]) next
      simp only [List.append_assoc] at below
      cases w with
      | map inside => exact below inside found
      | outerMap _ inside => exact below inside found
      | _ => cases found

namespace Settings

theorem at?_unset : ∀ path ∈ fieldPaths, (toValue ({} : Settings)).entries.at? path = some .null := by
  intro path h
  rw [fieldPaths_eq] at h
  fin_cases h <;> rfl

/-- Fields stand in sections that are looked up. -/
theorem dropLast_mem_lookups : ∀ path ∈ fieldPaths, .inner path.dropLast ∈ lookups := by decide +kernel

theorem mem_fieldPaths_of_lookup (path : List String) (kind : FieldKind)
    (h : .field path kind ∈ lookups) : path ∈ fieldPaths := by
  have all : ∀ path ∈ lookups.filterMap Lookup.path?, path ∈ fieldPaths := by decide +kernel
  exact all path (List.mem_filterMap.2 ⟨_, h, rfl⟩)

/-- The sections that are looked up are those in which fields stand. -/
theorem exists_field_of_inner (path : List String) (h : .inner path ∈ lookups) :
    ∃ field ∈ fieldPaths, field.dropLast = path := by
  have all : ∀ l ∈ lookups, l.path?.isSome ∨ ∃ field ∈ fieldPaths, l = .inner field.dropLast := by
    decide +kernel
  rcases all _ h with field | ⟨field, known, same⟩
  · cases field
  · exact ⟨field, known, (Lookup.inner.inj same).symm⟩

end Settings

namespace Section

/-- Data that have what is present in the upper data, and for the rest what is present in the lower ones. -/
def layered (upper lower : Section) : Section :=
  Value.entriesWithLeaves (fun path => ((upper.present? path).or (lower.present? path)).getD .null) []
    (toValue ({} : Settings)).entries

theorem present?_eq_some {path : List String} {es : Section} {v : Value}
    (present : es.present? path = some v) : es.at? path = some v ∧ v.isNull = false := by
  simpa [present?, Option.filter_eq_some_iff] using present

theorem filter_getD {v : Option Value} (set : ∀ w ∈ v, w.isNull = false) :
    (some (v.getD .null)).filter (!·.isNull) = v := by
  cases v with
  | none => rfl
  | some w => simp [set w rfl]

/-- Any two data can be laid on each other. -/
theorem layers_layered (upper lower : Section) : upper.Layers lower (upper.layered lower) where
  field path h := by
    obtain ⟨kind, hk⟩ := Settings.exists_lookup path h
    obtain ⟨key, rest, rfl⟩ := List.exists_cons_of_ne_nil (Settings.fits_of_mem_lookups {} _ hk).1
    -- All fields are null in the form that is filled, so the path of each leads to a leaf.
    rw [present?, layered, at?_entriesWithLeaves _ _ [] key rest (Settings.at?_unset _ h)]
    refine filter_getD fun v hv => ?_
    rcases Option.or_eq_some_iff.1 hv with above | ⟨-, below⟩
    · exact (present?_eq_some above).2
    · exact (present?_eq_some below).2
  inner path h v present := by
    obtain ⟨ne, inside, found⟩ := Settings.fits_of_mem_lookups {} _ (Settings.dropLast_mem_lookups path h)
    obtain ⟨key, rest, eq⟩ := List.exists_cons_of_ne_nil ne
    rw [eq] at found present
    have there := at?_entriesWithLeaves
      (fun path => ((upper.present? path).or (lower.present? path)).getD .null) _ [] key rest found
    rw [← Option.some.inj (there.symm.trans (present?_eq_some present).1)]
    exact ⟨_, rfl⟩

end Section

/-! ### Reading -/

theorem Value.optional_filter {α : Type} (convert : Value → Except Failure α) (v : Option Value) :
    Value.optional convert (v.filter (!·.isNull)) = Value.optional convert v := by
  cases v with
  | none => rfl
  | some v => cases v <;> rfl

/-- A field is read from what is present. -/
theorem FieldKind.read_present (kind : FieldKind) (es : Section) (path : List String) :
    kind.read (es.present? path) = kind.read (es.at? path) := by
  cases kind <;> simp only [read, Section.present?, Value.optional_filter]

/-- A field is unset just if nothing is present. -/
theorem FieldKind.isNull_of_read {kind : FieldKind} {es : Section} {path : List String} {v : Value}
    (read : kind.read (es.at? path) = .ok v) : v.isNull = (es.present? path).isNone := by
  have unset {α : Type} [ToValue α] [Plain α] {convert : Value → Except Failure α}
      (read : toValue <$> Value.optional convert (es.at? path) = .ok v) :
      v.isNull = (es.present? path).isNone := by
    rw [← Value.optional_filter, ← Section.present?] at read
    cases present : es.present? path with
    | none =>
      rw [present] at read
      cases read
      rfl
    | some w =>
      rw [present, Value.optional_some convert (Section.present?_eq_some present).2] at read
      cases converted : convert w with
      | error f => rw [converted] at read; cases read
      | ok x =>
        rw [converted] at read
        rw [← Except.ok.inj read, isNull_toValue]
        rfl
  cases kind <;> exact unset read

namespace Settings

theorem isSet_withSmallNames (s : Settings) (path : List String) (h : path ∈ fieldPaths) :
    s.withSmallNames.isSet path = s.isSet path := by
  have set (v : Value) : (lowered v).isNull = v.isNull := by cases v <;> rfl
  rw [isSet, isSet, field_withSmallNames s path h]
  split
  · rw [set]
  · rfl

theorem withSmallNames_merge (s t : Settings) :
    (s.merge t).withSmallNames = s.withSmallNames.merge t.withSmallNames := by
  refine ext_field _ _ fun path h => ?_
  rw [field_withSmallNames _ path h, field_merge _ _ path h, field_merge _ _ path h,
    isSet_withSmallNames s path h, field_withSmallNames s path h, field_withSmallNames t path h]
  split <;> split <;> rfl

/-- A field that was read is set just if something is present for it. -/
theorem isSet_eq_isSome_present? {es : Section} {s : Settings} (read : ofSection es = .ok s)
    (path : List String) (h : path ∈ fieldPaths) : s.isSet path = (es.present? path).isSome := by
  obtain ⟨kind, -, found⟩ := field_of_ofSection es s read path h
  rw [isSet, FieldKind.isNull_of_read found, Option.not_isNone]

section Layers

variable {upper lower es : Section} {s t : Settings}

/-- Where no look-up fails in either layer, none fails in both together. -/
theorem fault?_of_layers (layers : upper.Layers lower es) (above : ofSection upper = .ok s)
    (below : ofSection lower = .ok t) : ∀ l ∈ lookups, l.fault? es = none := by
  intro l hl
  cases l with
  | inner path =>
    obtain ⟨field, known, rfl⟩ := exists_field_of_inner path hl
    have inside := layers.inner field known
    rw [Lookup.fault?]
    cases found : es.at? field.dropLast with
    | none => rfl
    | some v =>
      cases null : v.isNull with
      | true =>
        rw [(Value.isNull_iff v).1 null]
        rfl
      | false =>
        obtain ⟨_, rfl⟩ := inside v (by simp [Section.present?, found, null])
        rfl
  | field path kind =>
    have first := fault?_eq_none_of_read above _ hl
    have second := fault?_eq_none_of_read below _ hl
    have known := mem_fieldPaths_of_lookup path kind hl
    rw [Lookup.fault?, ← FieldKind.read_present] at first second ⊢
    rw [layers.field path known]
    cases present : upper.present? path with
    | none => exact second
    | some v => rwa [present] at first

/-- Layers of data are read as the layers of what is read from each. -/
theorem ofSection_of_layers (layers : upper.Layers lower es) (above : ofSection upper = .ok s)
    (below : ofSection lower = .ok t) : ofSection es = .ok (s.merge t) := by
  obtain ⟨u, read⟩ := exists_ofSection_eq (fault?_of_layers layers above below)
  have same : u = s.merge t := by
    refine ext_field _ _ fun path hp => ?_
    obtain ⟨kind, hk, found⟩ := field_of_ofSection es u read path hp
    -- The look-up that finds the field in the layers together is made in each of them as well.
    have first := (makes_ofSection upper).result s above _ hk
    have second := (makes_ofSection lower).result t below _ hk
    rw [Lookup.found_field] at first second
    rw [field_merge s t path hp, isSet_eq_isSome_present? above path hp]
    rw [← FieldKind.read_present] at found first second
    rw [layers.field path hp] at found
    cases present : upper.present? path with
    | none =>
      rw [present, Option.none_or, second] at found
      exact (Except.ok.inj found).symm
    | some v =>
      rw [present] at found first
      exact Except.ok.inj (found.symm.trans first)
  rw [read, same]

end Layers

/-- Data can be laid on each other and then be read, or be read and then laid on each other: the settings
are the same, whether the lower ones are merged into the upper ones or the upper ones override the lower
ones group by group. What is set in settings is what is present in their data. -/
theorem fragment_of_layers {upper lower : Section} {a b : Settings}
    (above : fragment (.map upper) {} = .ok a) (below : fragment (.map lower) {} = .ok b) :
    (∃ es, upper.Layers lower es) ∧
      (∀ es, upper.Layers lower es →
        fragment (.map es) {} = .ok (a.merge b) ∧
        fragment (.map es) {} = .ok (Group.all.foldl (overlayGroup a) b)) ∧
      ∀ path ∈ fieldPaths, a.isSet path = (upper.present? path).isSome := by
  obtain ⟨s, readAbove, rfl⟩ := (fragment_eq_ok_iff_of_no_secrets upper a).1 above
  obtain ⟨t, readBelow, rfl⟩ := (fragment_eq_ok_iff_of_no_secrets lower b).1 below
  have reads (es : Section) (layers : upper.Layers lower es) :
      fragment (.map es) {} = .ok (s.withSmallNames.merge t.withSmallNames) :=
    (fragment_eq_ok_iff_of_no_secrets es _).2
      ⟨s.merge t, ofSection_of_layers layers readAbove readBelow, withSmallNames_merge s t⟩
  refine ⟨⟨_, Section.layers_layered upper lower⟩, fun es layers => ⟨reads es layers, ?_⟩, ?_⟩
  · rw [foldl_overlayGroup]
    exact reads es layers
  · intro path h
    rw [isSet_withSmallNames s path h, isSet_eq_isSome_present? readAbove path h]

/-- A file with a level of its own, and with a kind of tunnel that is not in small letters. -/
def kindFile : Section := [
  (.text "log", .map [(.text "level", .text "info")]),
  (.text "vpn", .map [(.text "type", .text "OpenVPN"), (.text "provider", .null)])]

theorem fragment_of_layers_levelFile :
    fragment (.map levelFile) {} = .ok { log := { level := "debug" } } ∧
      fragment (.map kindFile) {} = .ok { log := { level := "info" }, vpn := { kind := "openvpn" } } ∧
      fragment (.map (levelFile.layered kindFile)) {} =
        .ok { log := { level := "debug" }, vpn := { kind := "openvpn" } } := by
  have above : fragment (.map levelFile) {} = .ok { log := { level := "debug" } } := rfl
  have below : fragment (.map kindFile) {} =
      .ok { log := { level := "info" }, vpn := { kind := "openvpn" } } := by decide +kernel
  exact ⟨above, below, ((fragment_of_layers above below).2.1 _ (Section.layers_layered _ _)).1⟩

/-- A file whose ratio is written as a text and is no number. -/
def noNumberFile : Section := [(.text "updater", .map [(.text "min_ratio", .text "nan")])]

/-- The file lies over an empty one, and what is read from both layers together is not the same as what
is read from each: a ratio that is no number is made anew whenever its text is read. -/
theorem not_same_of_layers :
    ∃ l a b, noNumberFile.Layers [] noNumberFile ∧ fragment (.map noNumberFile) {} = .ok l ∧
      fragment (.map noNumberFile) {} = .ok a ∧ fragment (.map []) {} = .ok b ∧
      (l.marked 1).same ((a.marked 2).merge (b.marked 3)) = false := by
  have layers : noNumberFile.Layers [] noNumberFile := by
    constructor <;> intro path h <;> rw [fieldPaths_eq] at h
    · fin_cases h <;> rfl
    · fin_cases h <;> rintro v ⟨⟩ <;> exact ⟨_, rfl⟩
  let read : Settings := { updater := { minRatio := some (.nan 0) } }
  exact ⟨read, read, {}, layers, by decide +kernel, by decide +kernel, by decide +kernel, by decide +kernel⟩

end Settings
end TunnelSettings
