import TunnelSettings.Proofs.ExitCodes

/-!
Roots of files. Settings and server data are mappings, and a file that stands for anything else is refused. In a
YAML file whatever does not count as present is taken for an empty mapping before that is looked at, so that not
only an empty document is accepted there but also an empty list, an empty text, zero and false. A mapping of a
YAML text may stand inside itself; as far as anything is looked at it has its entries there too.
-/
namespace TunnelSettings

/-! ### What a text stands for -/

namespace Json

theorem isMapping_of_readWord {cs rest : List Char} {v : Value} (h : readWord cs = some (v, rest)) :
    v.isMapping = false := by
  have mapless : ∀ w ∈ words, w.2.isMapping = false := by decide
  obtain ⟨w, found, same⟩ := Option.map_eq_some_iff.1 h
  cases same
  exact mapless w (List.mem_of_find?_eq_some found)

theorem isMapping_of_readNumber {cs rest : List Char} {v : Value} (h : readNumber cs = .ok (v, rest)) :
    v.isMapping = false := by
  rw [readNumber] at h
  dsimp only at h
  split at h
  · cases h
  · split at h
    · split at h
      · cases h
        rfl
      · cases h
    · split at h
      · cases h
        rfl
      · cases h

theorem readValue_ne_outerMap {fuel : Nat} {cs rest : List Char} {v : Value}
    (h : readValue fuel cs = .ok (v, rest)) (back : Nat) (es : List (Value × Value)) : v ≠ .outerMap back es := by
  rw [readValue.eq_def] at h
  split at h
  · cases h
  · split at h
    · obtain ⟨_, _, h⟩ := (bind_eq_ok_iff _ _ _).1 h
      cases h
      simp
    · split at h
      · cases h
        simp
      · obtain ⟨_, _, h⟩ := (bind_eq_ok_iff _ _ _).1 h
        cases h
        simp
    · split at h
      · cases h
        simp
      · obtain ⟨_, _, h⟩ := (bind_eq_ok_iff _ _ _).1 h
        cases h
        simp
    · split at h
      · next found =>
        cases h
        rintro rfl
        cases isMapping_of_readWord found
      · rintro rfl
        cases isMapping_of_readNumber h

/-- No mapping of a JSON text stands in itself, since nothing can be named there. -/
theorem read_ne_outerMap (text : String) (back : Nat) (es : List (Value × Value)) :
    read text ≠ .ok (.outerMap back es) := by
  intro h
  rw [read] at h
  split at h
  · next v document =>
    cases h
    rw [readDocument.eq_def] at document
    split at document
    · cases document
    · obtain ⟨⟨v, rest⟩, value, document⟩ := (bind_eq_ok_iff _ _ _).1 document
      dsimp only at document
      split at document
      · cases document
        exact readValue_ne_outerMap value back es rfl
      · cases document
  · cases h
  · cases h

end Json

namespace Yaml

theorem Scalar.value_ne_outerMap (s : Scalar) (back : Nat) (es : List (Value × Value)) :
    s.value ≠ .outerMap back es := by
  cases s <;> simp [value]

/-- What is looked at lies above the reach: the fields, and at most one level below them their items. -/
theorem length_lt_reach : ∀ path ∈ Settings.fieldPaths, path.length < reach := by decide +kernel

/-- Above the reach a mapping has its entries wherever it comes, be it for the first time or again: an alias of a
mapping that it stands in is looked at like that mapping. -/
theorem entries?_laidOut (things : Array (Option Thing)) (fuel i : Nat) (way : List Spot)
    (near : way.length ≤ reach) :
    (laidOut things (fuel + 1) way i).entries? =
      match things.getD i none with
      | some (.map es) =>
        some (Value.ofEntries (es.map fun e => (e.1.value, laidOut things fuel ((i, 0) :: way) e.2)))
      | _ => none := by
  rw [laidOut]
  dsimp only
  cases things.getD i none with
  | none => rfl
  | some thing =>
    cases thing with
    | scalar s => cases s <;> rfl
    | set items => rfl
    | map es =>
      cases way.idxOf? (i, 0) with
      | none => rfl
      | some place =>
        have isOpen : way.length < reach + (place + 1) := by omega
        simp [Value.entries?, isOpen]
    | _ => cases way.idxOf? (i, 0) <;> rfl

/-- The outermost thing is not given again. -/
theorem laidOut_ne_outerMap (things : Array (Option Thing)) (fuel i back : Nat) (es : List (Value × Value)) :
    laidOut things fuel [] i ≠ .outerMap back es := by
  cases fuel with
  | zero => simp [laidOut]
  | succ fuel =>
    have nowhere : (([] : List Spot).idxOf? (i, 0)).map (· + 1) = none := rfl
    rw [laidOut]
    dsimp only
    rw [nowhere]
    cases things.getD i none with
    | none => simp
    | some thing =>
      cases thing with
      | scalar s => exact s.value_ne_outerMap back es
      | _ => simp

/-- Nothing stands further out than the root of a document. -/
theorem load_ne_outerMap (wording : String → String) (text file : String) (back : Nat)
    (es : List (Value × Value)) : load wording text file ≠ .ok (.outerMap back es) := by
  intro h
  obtain ⟨root, -, h⟩ := (bind_eq_ok_iff _ _ _).1 ((mapError_eq_ok_iff _ _ _).1 h)
  cases root with
  | none => cases h
  | some g =>
    obtain ⟨things, -, h⟩ := (bind_eq_ok_iff _ _ _).1 h
    exact laidOut_ne_outerMap _ _ _ _ _ (Except.ok.inj h)

end Yaml

namespace Document

/-- The value that the text of a file stands for, in the format that the suffix of its name tells. -/
def root (wording : String → String) (text : String) (p : Path) : Except Failure Value := do
  match ← Format.ofPath p with
  | .json => Json.read text
  | .yaml => Yaml.load wording text p.name

/-- In a YAML file a root that does not count as present is taken for an empty mapping. -/
theorem parse_of_root {wording : String → String} {text : String} {p : Path} {v : Value}
    (h : root wording text p = .ok v) :
    parse wording text p = .ok (if p.suffix ≠ ".json" ∧ v.isTruthy = false then .map [] else v) := by
  obtain ⟨chosen, format, h⟩ := (bind_eq_ok_iff _ _ _).1 h
  rw [parse, format, ok_bind]
  by_cases json : p.suffix = ".json"
  · rw [Format.ofPath, if_pos json] at format
    cases format
    rw [if_neg fun other => other.1 json]
    exact h
  · rw [Format.ofPath, if_neg json] at format
    split at format
    · cases format
      dsimp only at h ⊢
      rw [Yaml.read, h, ok_bind]
      refine congrArg Except.ok ?_
      cases v.isTruthy <;> simp [json]
    · cases format

theorem root_ne_outerMap (wording : String → String) (text : String) (p : Path) (back : Nat)
    (es : List (Value × Value)) : root wording text p ≠ .ok (.outerMap back es) := by
  intro h
  obtain ⟨chosen, -, h⟩ := (bind_eq_ok_iff _ _ _).1 h
  cases chosen with
  | json => exact Json.read_ne_outerMap text back es h
  | yaml => exact Yaml.load_ne_outerMap wording text p.name back es h

/-- A root that is a mapping has entries. -/
theorem exists_of_isMapping_root {wording : String → String} {text : String} {p : Path} {v : Value}
    (h : root wording text p = .ok v) (mapping : v.isMapping = true) : ∃ es, v = .map es := by
  cases v with
  | map es => exact ⟨es, rfl⟩
  | outerMap back es => exact absurd h (root_ne_outerMap wording text p back es)
  | _ => cases mapping

end Document

/-! ### Reading files -/

/-- The readers of settings and of server data go on with a mapping. -/
structure GoOn (s : Session) (p : Path) (shown : String) (es : Section) : Prop where
  settings : (readSections p).run s = ((fun _ => es) <$> Document.unknownSections es, s.noteUnknown p)
  servers : (readServers p shown).run s = (Servers.ofValue (.map es), s.noteServers p shown)

/-- Neither reader goes on. Both say that the value is unsuitable, and leave the session as it is. -/
structure Refuse (s : Session) (p : Path) (shown : String) (v : Value) : Prop where
  settings : ∃ f, (readSections p).run s = (.error f, s) ∧ f.kind = "ValueError" ∧
    f.message = "Settings root must be a mapping, got " ++ v.shortKind
  servers : ∃ f, (readServers p shown).run s = (.error f, s) ∧ f.kind = "ValueError" ∧
    f.message = "Servers file must map provider names to server lists: " ++ shown

section

variable {s : Session} {p : Path}

theorem goOn_of_document {es : Section} (h : s.files.document p = .ok (.map es)) (shown : String) :
    GoOn s p shown es where
  settings := by
    rw [run_readSections, Files.sections, h, ok_bind]
    dsimp only
    cases Document.unknownSections es <;> rfl
  servers := by
    rw [run_readServers, Files.servers, h, ok_bind]

theorem refuse_of_document {v : Value} (h : s.files.document p = .ok v) (other : ∀ es, v ≠ .map es)
    (shown : String) : Refuse s p shown v := by
  have runs : (readSections p).run s = (.error (.rootNotMapping v.shortKind), s) ∧
      (readServers p shown).run s = (.error (.serversNotMapping shown), s) := by
    rw [run_readSections, run_readServers, Files.sections, Files.servers, Session.noteUnknown,
      Session.noteServers, h]
    cases v with
    | map es => exact absurd rfl (other es)
    | _ => exact ⟨rfl, rfl⟩
  exact ⟨⟨_, runs.1, rfl, rfl⟩, ⟨_, runs.2, rfl, rfl⟩⟩

variable {text : String} {v : Value}

theorem document_of_root (read : s.files.readText p = .ok text) (stands : Document.root s.files.wording text p = .ok v) :
    s.files.document p = .ok (if p.suffix ≠ ".json" ∧ v.isTruthy = false then .map [] else v) := by
  rw [Files.document, read, ok_bind, Document.parse_of_root stands]

/--
Which roots are accepted, for a text that stands for a value. A mapping is; in a YAML file so is everything that does
not count as present, for which an empty mapping is taken. Every other root is refused as an unsuitable value.
-/
theorem roots_accepted (read : s.files.readText p = .ok text) (stands : Document.root s.files.wording text p = .ok v)
    (shown : String) :
    (v.isMapping = true → ∃ es, v = .map es ∧ GoOn s p shown es) ∧
    (p.suffix ≠ ".json" → v.isTruthy = false → GoOn s p shown []) ∧
    (v.isMapping = false → (p.suffix = ".json" ∨ v.isTruthy = true) → Refuse s p shown v) := by
  have document := document_of_root read stands
  refine ⟨?_, ?_, ?_⟩
  · intro mapping
    obtain ⟨es, rfl⟩ := Document.exists_of_isMapping_root stands mapping
    refine ⟨es, rfl, goOn_of_document ?_ shown⟩
    rw [document]
    split
    · next absent =>
      have empty : es = [] := by simpa [Value.isTruthy] using absent.2
      rw [empty]
    · rfl
  · intro yaml absent
    rw [if_pos ⟨yaml, absent⟩] at document
    exact goOn_of_document document shown
  · intro other present
    have kept : ¬ (p.suffix ≠ ".json" ∧ v.isTruthy = false) := by
      rintro ⟨yaml, absent⟩
      rcases present with json | present
      · exact yaml json
      · rw [present] at absent
        cases absent
    rw [if_neg kept] at document
    refine refuse_of_document document ?_ shown
    rintro es rfl
    cases other

end

/-! ### Lists as roots -/

/-- A session with one file, in the working folder. -/
def oneFile (name text : String) : Session := Cli.freshSession [(⟨"/", [name]⟩, Files.encode text)]

/-- What kind of value a text stands for, and whether it counts as present. -/
theorem exists_root_of_map {wording : String → String} {text : String} {p : Path} {kind : String} {present : Bool}
    (h : (fun v : Value => (v.kind, v.isTruthy)) <$> Document.root wording text p = .ok (kind, present)) :
    ∃ v, Document.root wording text p = .ok v ∧ v.kind = kind ∧ v.isTruthy = present := by
  cases stands : Document.root wording text p with
  | error f =>
    rw [stands] at h
    cases h
  | ok v =>
    rw [stands] at h
    cases h
    exact ⟨v, rfl, rfl, rfl⟩

theorem isMapping_of_kind_list {v : Value} (h : v.kind = "list") : v.isMapping = false := by
  cases v with
  | map es => exact absurd h (by simp [Value.kind])
  | outerMap => exact absurd h (by simp [Value.kind])
  | _ => rfl

/-- A list is refused in a file whose suffix is in capital letters. -/
theorem roots_accepted_logList :
    let p : Path := ⟨"", ["s.YML"]⟩
    let s := oneFile "s.YML" "- log"
    p.suffix = ".yml" ∧ s.files.readText p = .ok "- log" ∧
      ∃ v, Document.root s.files.wording "- log" p = .ok v ∧ v.kind = "list" ∧ Refuse s p "s.YML" v := by
  intro p s
  have read : s.files.readText p = .ok "- log" := by decide +kernel
  have list : ∃ v, Document.root s.files.wording "- log" p = .ok v ∧ v.kind = "list" ∧ v.isTruthy = true :=
    exists_root_of_map (by decide +kernel)
  obtain ⟨v, stands, list, present⟩ := list
  have refused := (roots_accepted read stands "s.YML").2.2 (isMapping_of_kind_list list) (.inr present)
  exact ⟨by decide +kernel, read, v, stands, list, refused⟩

/-- An empty list is no mapping, but in a YAML file it is accepted for settings and for server data. -/
theorem emptyList_accepted :
    let p : Path := ⟨"", ["s.yaml"]⟩
    let s := oneFile "s.yaml" "[]"
    s.files.readText p = .ok "[]" ∧
      (∃ v, Document.root s.files.wording "[]" p = .ok v ∧ v.kind = "list" ∧ v.isMapping = false) ∧
      ((readSections p).run s).1 = .ok [] ∧ ((readServers p "s.yaml").run s).1 = .ok {} := by
  intro p s
  have read : s.files.readText p = .ok "[]" := by decide +kernel
  have list : ∃ v, Document.root s.files.wording "[]" p = .ok v ∧ v.kind = "list" ∧ v.isTruthy = false :=
    exists_root_of_map (by decide +kernel)
  obtain ⟨v, stands, list, absent⟩ := list
  have document := document_of_root read stands
  rw [if_pos ⟨by decide +kernel, absent⟩] at document
  obtain ⟨settings, servers⟩ := goOn_of_document document "s.yaml"
  refine ⟨read, ⟨v, stands, list, isMapping_of_kind_list list⟩, ?_, ?_⟩
  · rw [settings]
    rfl
  · rw [servers]
    rfl

end TunnelSettings
