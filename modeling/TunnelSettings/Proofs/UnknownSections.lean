import TunnelSettings.Proofs.Roots

/-!
Sections with unknown names. The settings are read from the known ones alone: whatever else a file has, the settings
and the failures are those of the file without it. But the names of unknown sections are sorted and joined for the
journal, and so a key that is no text keeps the file from being read at all.
-/
namespace TunnelSettings

/-! ### Keys of JSON objects -/

section

variable {P : Value → Prop}

theorem Value.forall_keys_put {key : Value} (v : Value) {es : List (Value × Value)} (hes : ∀ e ∈ es, P e.1)
    (hkey : P key) : ∀ e ∈ put key v es, P e.1 := by
  induction es with
  | nil => simpa [put] using hkey
  | cons first rest ih =>
    obtain ⟨hfirst, hrest⟩ := List.forall_mem_cons.1 hes
    rw [put]
    split
    · exact List.forall_mem_cons.2 ⟨hfirst, hrest⟩
    · exact List.forall_mem_cons.2 ⟨hfirst, ih hrest⟩

/-- A mapping made of entries has no keys but theirs. -/
theorem Value.forall_keys_ofEntries {es : List (Value × Value)} (hes : ∀ e ∈ es, P e.1) :
    ∀ e ∈ ofEntries es, P e.1 := by
  have all (done : List (Value × Value)) (hdone : ∀ e ∈ done, P e.1) :
      ∀ e ∈ es.foldl (fun done e => put e.1 e.2 done) done, P e.1 := by
    induction es generalizing done with
    | nil => exact hdone
    | cons first rest ih =>
      obtain ⟨hfirst, hrest⟩ := List.forall_mem_cons.1 hes
      exact ih hrest _ (forall_keys_put first.2 hdone hfirst)
  exact all [] nofun

end

namespace Json

/-- The names of members are texts. -/
theorem isText_of_readMembers {fuel : Nat} {cs rest : List Char} {es : List (Value × Value)}
    (h : readMembers fuel cs = .ok (es, rest)) : ∀ e ∈ es, e.1.isText = true := by
  induction fuel generalizing cs rest es with
  | zero => cases h
  | succ fuel ih =>
    rw [readMembers.eq_def] at h
    dsimp only at h
    split at h
    · obtain ⟨⟨name, afterName⟩, -, h⟩ := (bind_eq_ok_iff _ _ _).1 h
      dsimp only at h
      split at h
      · obtain ⟨⟨v, afterValue⟩, -, h⟩ := (bind_eq_ok_iff _ _ _).1 h
        dsimp only at h
        split at h
        · cases h
          simp [Value.isText]
        · obtain ⟨⟨members, after⟩, more, h⟩ := (bind_eq_ok_iff _ _ _).1 h
          cases h
          exact List.forall_mem_cons.2 ⟨rfl, ih more⟩
        · cases h
      · cases h
    · cases h

theorem isText_of_readValue {fuel : Nat} {cs rest : List Char} {es : Section}
    (h : readValue fuel cs = .ok (.map es, rest)) : ∀ e ∈ es, e.1.isText = true := by
  rw [readValue.eq_def] at h
  split at h
  · cases h
  · split at h
    · obtain ⟨_, _, h⟩ := (bind_eq_ok_iff _ _ _).1 h
      cases h
    · split at h
      · cases h
        exact List.forall_mem_nil _
      · obtain ⟨⟨members, after⟩, read, h⟩ := (bind_eq_ok_iff _ _ _).1 h
        cases h
        exact Value.forall_keys_ofEntries (P := fun key => key.isText = true) (isText_of_readMembers read)
    · split at h
      · cases h
      · obtain ⟨_, _, h⟩ := (bind_eq_ok_iff _ _ _).1 h
        cases h
    · split at h
      · next found =>
        cases h
        cases isMapping_of_readWord found
      · cases isMapping_of_readNumber h

/-- The keys of an object are texts. -/
theorem isText_of_read {text : String} {es : Section} (h : read text = .ok (.map es)) :
    ∀ e ∈ es, e.1.isText = true := by
  rw [read] at h
  split at h
  · next v document =>
    cases h
    rw [readDocument.eq_def] at document
    split at document
    · cases document
    · obtain ⟨⟨v, rest⟩, value, document⟩ := (bind_eq_ok_iff _ _ _).1 document
      dsimp only at document
      split at document
      · cases document
        exact isText_of_readValue value
      · cases document
  · cases h
  · cases h

end Json

/-! ### Known sections -/

/-- The sections with known names, in their order. -/
def Section.known (es : Section) : Section := es.filter fun e => Document.isSectionName e.1

namespace Section

variable (es : Section)

theorem find?_known {name : String} (known : Document.isSectionName (.text name) = true) :
    Value.find? name es.known = Value.find? name es := by
  induction es with
  | nil => rfl
  | cons e es ih =>
    obtain ⟨key, v⟩ := e
    rw [Section.known, List.filter_cons]
    cases key with
    | text key =>
      by_cases same : key = name
      · subst same
        rw [if_pos known, Value.find?, Value.find?, if_pos rfl, if_pos rfl]
      · rw [Value.find?, if_neg same, ← ih]
        split
        · rw [Value.find?, if_neg same]
          rfl
        · rfl
    | _ => exact ih

theorem at?_known {name : String} (known : Document.isSectionName (.text name) = true) (rest : List String) :
    es.known.at? (name :: rest) = es.at? (name :: rest) := by
  cases rest with
  | nil => rw [at?, at?, es.find?_known known]
  | cons next rest => rw [at?, at?, es.find?_known known]

theorem mentions_known {name : String} (known : Document.isSectionName (.text name) = true) (rest : List String) :
    es.known.mentions (name :: rest) = es.mentions (name :: rest) := by
  rw [mentions_eq_isSome_at?, mentions_eq_isSome_at?, es.at?_known known rest]

end Section

/-- The path of a look-up. -/
def Lookup.path : Lookup → List String
  | inner path => path
  | field path _ => path

namespace Settings

variable (es : Section)

/-- Every look-up starts at a known section. -/
theorem isSectionName_of_mem_lookups :
    ∀ l ∈ lookups, ∃ name rest, l.path = name :: rest ∧ Document.isSectionName (.text name) = true := by
  have heads : ∀ l ∈ lookups, l.path.head?.any fun name => Document.isSectionName (.text name) := by
    decide
  intro l hl
  have head := heads l hl
  cases path : l.path with
  | nil =>
    rw [path] at head
    cases head
  | cons name rest =>
    rw [path] at head
    exact ⟨name, rest, rfl, head⟩

theorem ofSection_known : ofSection es.known = ofSection es := by
  apply ofSection_congr
  intro l hl
  obtain ⟨name, rest, path, known⟩ := isSectionName_of_mem_lookups l hl
  cases l with
  | inner p =>
    cases path
    rw [Lookup.Agrees, Lookup.fault?, Lookup.fault?, es.at?_known known]
  | field p kind =>
    cases path
    rw [Lookup.Agrees, es.at?_known known]

theorem withSecrets_known (s : Settings) (env : Secrets) : s.withSecrets es.known env = s.withSecrets es env := by
  have tunnel : Document.isSectionName (.text "vpn") = true := by decide
  have proxy : Document.isSectionName (.text "shadowsocks") = true := by decide
  simp only [withSecrets, Section.orGiven, es.mentions_known tunnel, es.mentions_known proxy]

/-- The settings that a file gives, and its failures, are those of its known sections. -/
theorem fragment_known (env : Secrets) : fragment (.map es.known) env = fragment (.map es) env := by
  simp only [fragment, ofValue, Value.entries?, Option.getD_some, ofSection_known, withSecrets_known]

end Settings

theorem Document.isText_of_parse {wording : String → String} {text : String} {p : Path} {es : Section}
    (json : p.suffix = ".json") (h : parse wording text p = .ok (.map es)) : ∀ e ∈ es, e.1.isText = true := by
  rw [parse, Format.ofPath, if_pos json, ok_bind] at h
  exact Json.isText_of_read h

/-- A key that is no text keeps a mapping from being read. -/
theorem run_readSections_of_not_text {s : Session} {p : Path} {es : Section}
    (document : s.files.document p = .ok (.map es)) (other : ∃ e ∈ es, e.1.isText = false) :
    ∃ f, (readSections p).run s = (.error f, s) ∧ f.kind = "TypeError" := by
  obtain ⟨f, stuck, -⟩ := (Document.escapes_unknownSections es).2 other
  refine ⟨f, ?_, by rw [Failure.kind, Document.family_of_unknownSections stuck, Failure.Family.name]⟩
  rw [(goOn_of_document document "").settings, Session.noteUnknown, document]
  dsimp only
  rw [stuck]
  rfl

/--
What unknown sections do in a file whose text stands for a mapping. If every key is a text the mapping is read, and if
one is not the reader fails for its type; in a JSON file all of them are. The settings and the failures that come of
the mapping are those of the known sections.
-/
theorem unknownSections_ignored {s : Session} {p : Path} {text : String} {es : Section}
    (read : s.files.readText p = .ok text) (parsed : Document.parse s.files.wording text p = .ok (.map es)) :
    ((∀ e ∈ es, e.1.isText = true) → (readSections p).run s = (.ok es, s.noteUnknown p)) ∧
    ((∃ e ∈ es, e.1.isText = false) →
      ∃ f, (readSections p).run s = (.error f, s) ∧ f.kind = "TypeError") ∧
    (p.suffix = ".json" → ∀ e ∈ es, e.1.isText = true) ∧
    ∀ env, Settings.fragment (.map es) env = Settings.fragment (.map es.known) env := by
  have document : s.files.document p = .ok (.map es) := by rw [Files.document, read, ok_bind, parsed]
  refine ⟨?_, run_readSections_of_not_text document, ?_, fun env => (Settings.fragment_known es env).symm⟩
  · intro texts
    obtain ⟨names, sorted⟩ := Document.unknownSections_of_isText es texts
    rw [(goOn_of_document document "").settings, sorted]
    rfl
  · intro json
    exact Document.isText_of_parse json parsed

/-- Which of the keys of a mapping are texts. -/
def Value.textKeys? : Value → Option (List Bool)
  | map es => some (es.map fun e => e.1.isText)
  | _ => none

theorem exists_map_of_textKeys (r : Except Failure Value) (texts : List Bool)
    (h : Value.textKeys? <$> r = .ok (some texts)) :
    ∃ es, r = .ok (.map es) ∧ es.map (fun e => e.1.isText) = texts := by
  cases r with
  | error f => cases h
  | ok v =>
    have found : v.textKeys? = some texts := Except.ok.inj h
    cases v with
    | map es => exact ⟨es, rfl, Option.some.inj found⟩
    | _ => cases found

/-- In a file with an unknown and a known section the first is ignored. -/
theorem unknownSections_ignored_extra :
    let p : Path := ⟨"", ["s.yaml"]⟩
    let text := "x: 1\nlog:\n  level: info"
    let s := oneFile "s.yaml" text
    s.files.readText p = .ok text ∧ ∃ es, Document.parse s.files.wording text p = .ok (.map es) ∧ es.length = 2 ∧
      ((readSections p).run s).1 = .ok es ∧
      Settings.fragment (.map es) {} = Settings.fragment (.map (Section.known es)) {} := by
  intro p text s
  have values : s.files.readText p = .ok text ∧
      Value.textKeys? <$> Document.parse s.files.wording text p = .ok (some [true, true]) := by decide +kernel
  obtain ⟨read, values⟩ := values
  obtain ⟨es, parsed, keys⟩ := exists_map_of_textKeys _ _ values
  have texts : ∀ e ∈ es, e.1.isText = true := by
    have all : ∀ b ∈ es.map (fun e => e.1.isText), b = true := by simp [keys]
    simpa using all
  obtain ⟨ignored, -, -, same⟩ := unknownSections_ignored read parsed
  refine ⟨read, es, parsed, ?_, ?_, same {}⟩
  · simpa using congrArg List.length keys
  · rw [ignored texts]

/-- A file with a number for a key stands for a mapping, but is not read. -/
theorem unknownSections_number : ¬ ∀ (s : Session) (p : Path) (text : String) (es : Section),
    s.files.readText p = .ok text → Document.parse s.files.wording text p = .ok (.map es) →
      ∃ s', (readSections p).run s = (.ok es, s') := by
  intro always
  have values : (oneFile "s.yaml" "1: x").files.readText ⟨"", ["s.yaml"]⟩ = .ok "1: x" ∧
      Value.textKeys? <$> Document.parse (oneFile "s.yaml" "1: x").files.wording "1: x" ⟨"", ["s.yaml"]⟩ =
        .ok (some [false]) := by decide +kernel
  obtain ⟨read, values⟩ := values
  obtain ⟨es, parsed, keys⟩ := exists_map_of_textKeys _ _ values
  have other : ∃ e ∈ es, e.1.isText = false := by
    have mem : false ∈ es.map (fun e => e.1.isText) := by simp [keys]
    exact List.mem_map.1 mem
  have document : (oneFile "s.yaml" "1: x").files.document ⟨"", ["s.yaml"]⟩ = .ok (.map es) := by
    rw [Files.document, read, ok_bind, parsed]
  obtain ⟨f, stuck, -⟩ := run_readSections_of_not_text document other
  obtain ⟨s', reads⟩ := always _ _ _ es read parsed
  rw [stuck] at reads
  cases reads

end TunnelSettings
