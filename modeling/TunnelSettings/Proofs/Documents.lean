import TunnelSettings.Files.Store
import TunnelSettings.Proofs.Escapes
import TunnelSettings.Servers
import TunnelSettings.Settings.Document

/-!
Documents that the program cannot use without saying so: what escapes while a file is read. Whatever is
wrong with a JSON text is reported; keys that are not texts, folders and some YAML scalars are not.
-/
namespace TunnelSettings

/-! ### JSON -/

namespace Json

/-- Whether reading ends at a number that is too large for its type. -/
def Stop.isOverflow : Stop → Bool
  | .number fault => fault.isOverflow
  | .at .. => false

/-- A reader ends at a number that is too large for its type. -/
def Overflows {α : Type} (r : Except Stop α) : Prop := FailsWith (fun stop => stop.isOverflow = true) r

section

variable {α β : Type}

@[simp] theorem overflows_ok (a : α) : ¬ Overflows (.ok a) := failsWith_ok a

@[simp] theorem overflows_error (stop : Stop) :
    Overflows (.error stop : Except Stop α) ↔ stop.isOverflow = true := failsWith_error stop

@[simp] theorem overflows_at (fault : Fault) (left : Nat) :
    ¬ Overflows (.error (.at fault left) : Except Stop α) := by
  rw [overflows_error]
  exact Bool.false_ne_true

theorem overflows_bind {r : Except Stop α} {f : α → Except Stop β} (hr : ¬ Overflows r)
    (hf : ∀ a, ¬ Overflows (f a)) : ¬ Overflows (r >>= f) := not_failsWith_bind hr hf

end

theorem overflows_secondHalf (cs : List Char) : ¬ Overflows (secondHalf cs) := by
  rw [secondHalf.eq_def]
  split
  · split
    · exact overflows_at _ _
    · exact overflows_ok _
  · exact overflows_ok _

theorem overflows_readUnit (cs : List Char) : ¬ Overflows (readUnit cs) := by
  rw [readUnit.eq_def]
  split
  · split
    · exact overflows_at _ _
    · split
      · refine overflows_bind (overflows_secondHalf _) fun second => ?_
        split
        · split <;> exact overflows_ok _
        · exact overflows_ok _
      · exact overflows_ok _
  · exact overflows_at _ _

theorem overflows_readText (start fuel : Nat) (done cs : List Char) :
    ¬ Overflows (readText start fuel done cs) := by
  fun_induction readText start fuel done cs with
  | case5 fuel done cs ih => exact overflows_bind (overflows_readUnit cs) fun _ => ih _ _
  | _ => simp_all [Stop.isOverflow]

/-- A whole numeral may have too many digits, which is reported, and other numerals never fail. -/
theorem overflows_readNumber (cs : List Char) : ¬ Overflows (readNumber cs) := by
  rw [readNumber]
  dsimp only
  split
  · exact overflows_at _ _
  · split
    · split
      · exact overflows_ok _
      · next fault h =>
        rw [overflows_error]
        exact fun tooLarge => overflows_readInteger _ _ _ ⟨fault, h, tooLarge⟩
    · split
      · exact overflows_ok _
      · next fault h =>
        rw [overflows_error]
        exact fun tooLarge => overflows_readDecimal _ _ ⟨fault, h, tooLarge⟩

/-- Values, members and items never overflow, by induction on the bound that they share. -/
theorem overflows_values (fuel : Nat) :
    (∀ cs, ¬ Overflows (readValue fuel cs)) ∧ (∀ cs, ¬ Overflows (readMembers fuel cs)) ∧
      ∀ cs, ¬ Overflows (readItems fuel cs) := by
  induction fuel with
  | zero =>
    refine ⟨fun cs => ?_, fun cs => ?_, fun cs => ?_⟩
    · rw [readValue.eq_def]
      exact overflows_at _ _
    · rw [readMembers.eq_def]
      exact overflows_at _ _
    · rw [readItems.eq_def]
      exact overflows_at _ _
  | succ fuel ih =>
    obtain ⟨value, members, items⟩ := ih
    refine ⟨fun cs => ?_, fun cs => ?_, fun cs => ?_⟩
    · rw [readValue.eq_def]
      dsimp only
      split
      · exact overflows_bind (overflows_readText _ _ _ _) fun _ => overflows_ok _
      · split
        · exact overflows_ok _
        · exact overflows_bind (members _) fun _ => overflows_ok _
      · split
        · exact overflows_ok _
        · exact overflows_bind (items _) fun _ => overflows_ok _
      · split
        · exact overflows_ok _
        · exact overflows_readNumber cs
    · rw [readMembers.eq_def]
      dsimp only
      split
      · refine overflows_bind (overflows_readText _ _ _ _) fun _ => ?_
        split
        · refine overflows_bind (value _) fun _ => ?_
          split
          · exact overflows_ok _
          · exact overflows_bind (members _) fun _ => overflows_ok _
          · exact overflows_at _ _
        · exact overflows_at _ _
      · exact overflows_at _ _
    · rw [readItems.eq_def]
      refine overflows_bind (value cs) fun _ => ?_
      dsimp only
      split
      · exact overflows_ok _
      · exact overflows_bind (items _) fun _ => overflows_ok _
      · exact overflows_at _ _

theorem overflows_readDocument (cs : List Char) : ¬ Overflows (readDocument cs) := by
  rw [readDocument.eq_def]
  split
  · exact overflows_at _ _
  · refine overflows_bind ((overflows_values _).1 _) fun _ => ?_
    dsimp only
    split
    · exact overflows_ok _
    · exact overflows_at _ _

/-- Whatever is wrong with a JSON text is reported. -/
theorem escapes_read (text : String) : ¬ Escapes (read text) := by
  rw [read]
  split
  · exact escapes_ok _
  · next fault h =>
    rw [escapes_error, isReported_number, Bool.not_eq_false']
    exact fun tooLarge => overflows_readDocument text.toList ⟨_, h, tooLarge⟩
  · exact fun h => by cases (escapes_error _).1 h

end Json

/-! ### Names of sections -/

def Value.isText : Value → Bool
  | .text _ => true
  | _ => false

namespace Document

theorem family_of_isBefore {a b : Value} {f : Failure} (h : isBefore a b = .error f) : f.family = .type := by
  rw [isBefore.eq_def] at h
  split at h
  all_goals first | (cases h; done) | (cases h; rfl) | skip
  all_goals
    split at h
    all_goals first | (cases h; done) | (cases h; rfl)

theorem family_of_insertKey {key : Value} {ks : List Value} {f : Failure} (h : insertKey key ks = .error f) :
    f.family = .type := by
  induction ks with
  | nil => cases h
  | cons k ks ih =>
    rw [insertKey] at h
    cases before : isBefore key k with
    | error e =>
      rw [before] at h
      cases h
      exact family_of_isBefore before
    | ok b =>
      rw [before] at h
      cases b with
      | true => cases h
      | false =>
        cases inserted : insertKey key ks with
        | ok _ =>
          simp only [inserted] at h
          cases h
        | error e =>
          simp only [inserted] at h
          cases h
          exact ih inserted

theorem mem_insertKey (key : Value) (ks sorted : List Value) (h : insertKey key ks = .ok sorted)
    (k : Value) : k ∈ sorted ↔ k = key ∨ k ∈ ks := by
  induction ks generalizing sorted with
  | nil =>
    cases h
    simp
  | cons l ks ih =>
    rw [insertKey] at h
    obtain ⟨b, _, h⟩ := (bind_eq_ok_iff _ _ _).1 h
    cases b with
    | true =>
      cases h
      simp
    | false =>
      obtain ⟨rest, inserted, h⟩ := (bind_eq_ok_iff _ _ _).1 h
      cases h
      rw [List.mem_cons, List.mem_cons, ih rest inserted]
      exact or_left_comm

/-- Keys that are texts can be sorted. -/
theorem insertKey_of_isText (key : Value) (ks : List Value) (hk : key.isText = true)
    (hks : ∀ k ∈ ks, k.isText = true) : ∃ sorted, insertKey key ks = .ok sorted := by
  induction ks with
  | nil => exact ⟨_, rfl⟩
  | cons l ks ih =>
    obtain ⟨hl, hks⟩ := List.forall_mem_cons.1 hks
    obtain ⟨sorted, inserted⟩ := ih hks
    cases key with
    | text s =>
      cases l with
      | text t =>
        rw [insertKey, show isBefore (.text s) (.text t) = .ok (decide (s < t)) from rfl, inserted]
        cases decide (s < t) <;> exact ⟨_, rfl⟩
      | _ => cases hl
    | _ => cases hk

/-- The keys in order. -/
def sorted (keys done : List Value) : Except Failure (List Value) :=
  keys.foldlM (fun done k => insertKey k done) done

theorem sorted_cons (key : Value) (keys done : List Value) :
    sorted (key :: keys) done = insertKey key done >>= sorted keys := rfl

/-- Keys that cannot be sorted are of unsuitable types. -/
theorem family_of_sorted {keys done : List Value} {f : Failure} (h : sorted keys done = .error f) :
    f.family = .type := by
  induction keys generalizing done with
  | nil => cases h
  | cons key keys ih =>
    rw [sorted_cons] at h
    cases inserted : insertKey key done with
    | error e =>
      rw [inserted] at h
      cases h
      exact family_of_insertKey inserted
    | ok next =>
      rw [inserted] at h
      exact ih h

theorem mem_sorted (keys done out : List Value) (h : sorted keys done = .ok out) (k : Value) :
    k ∈ out ↔ k ∈ done ∨ k ∈ keys := by
  induction keys generalizing done with
  | nil =>
    cases h
    simp
  | cons key keys ih =>
    rw [sorted_cons] at h
    obtain ⟨next, inserted, h⟩ := (bind_eq_ok_iff _ _ _).1 h
    rw [ih next h, mem_insertKey key done next inserted, List.mem_cons]
    tauto

theorem sorted_of_isText (keys done : List Value) (hd : ∀ k ∈ done, k.isText = true)
    (hk : ∀ k ∈ keys, k.isText = true) : ∃ out, sorted keys done = .ok out := by
  induction keys generalizing done with
  | nil => exact ⟨done, rfl⟩
  | cons key keys ih =>
    obtain ⟨hkey, hk⟩ := List.forall_mem_cons.1 hk
    obtain ⟨next, inserted⟩ := insertKey_of_isText key done hkey hd
    rw [sorted_cons, inserted]
    refine ih next ?_ hk
    intro k hn
    rcases (mem_insertKey key done next inserted k).1 hn with rfl | hn
    · exact hkey
    · exact hd k hn

theorem joined_of_isText (i : Nat) (ks : List Value) (h : ∀ k ∈ ks, k.isText = true) :
    ∃ names, joined i ks = .ok names := by
  induction ks generalizing i with
  | nil => exact ⟨[], rfl⟩
  | cons k ks ih =>
    obtain ⟨hk, hks⟩ := List.forall_mem_cons.1 h
    obtain ⟨names, rest⟩ := ih (i + 1) hks
    cases k with
    | text s => exact ⟨s :: names, by rw [joined, rest]; rfl⟩
    | _ => cases hk

theorem family_of_joined {i : Nat} {ks : List Value} {f : Failure} (h : joined i ks = .error f) :
    f.family = .type := by
  induction ks generalizing i with
  | nil => cases h
  | cons k ks ih =>
    cases k with
    | text s =>
      rw [joined] at h
      cases rest : joined (i + 1) ks with
      | error e =>
        rw [rest] at h
        cases h
        exact ih rest
      | ok names =>
        rw [rest] at h
        cases h
    | _ =>
      cases h
      rfl

theorem escapes_joined (i : Nat) (ks : List Value) (k : Value) (hk : k ∈ ks) (other : k.isText = false) :
    Escapes (joined i ks) := by
  induction ks generalizing i with
  | nil => cases hk
  | cons l ks ih =>
    cases l with
    | text s =>
      rcases List.mem_cons.1 hk with rfl | hk
      · cases other
      · rw [joined, escapes_bind]
        exact .inl (ih (i + 1) hk)
    | _ => exact ⟨_, rfl, rfl⟩

theorem unknownSections_eq (es : Section) :
    unknownSections es = sorted ((es.map (·.1)).filter fun k => !isSectionName k) [] >>= joined 0 := rfl

theorem family_of_unknownSections {es : Section} {f : Failure} (h : unknownSections es = .error f) :
    f.family = .type := by
  rw [unknownSections_eq] at h
  cases sort : sorted ((es.map (·.1)).filter fun k => !isSectionName k) [] with
  | error e =>
    rw [sort] at h
    cases h
    exact family_of_sorted sort
  | ok keys =>
    rw [sort, ok_bind] at h
    exact family_of_joined h

/-- Keys that are texts can be sorted and joined. -/
theorem unknownSections_of_isText (es : Section) (h : ∀ e ∈ es, e.1.isText = true) :
    ∃ names, unknownSections es = .ok names := by
  have texts : ∀ k ∈ (es.map (·.1)).filter fun k => !isSectionName k, k.isText = true := by
    intro k hk
    obtain ⟨e, he, rfl⟩ := List.mem_map.1 (List.mem_filter.1 hk).1
    exact h e he
  obtain ⟨out, sort⟩ := sorted_of_isText _ [] (by simp) texts
  obtain ⟨names, join⟩ := joined_of_isText 0 out fun k hk =>
    ((mem_sorted _ [] out sort k).1 hk).elim (fun hk => by cases hk) (texts k)
  exact ⟨names, by rw [unknownSections_eq, sort, ok_bind, join]⟩

/-- Every key of a settings file has to be a text. -/
theorem escapes_unknownSections (es : Section) :
    Escapes (unknownSections es) ↔ ∃ e ∈ es, e.1.isText = false := by
  constructor
  · intro escapes
    by_contra texts
    obtain ⟨names, sort⟩ := unknownSections_of_isText es (by simpa using texts)
    rw [sort] at escapes
    exact escapes_ok names escapes
  · rintro ⟨e, he, other⟩
    rw [unknownSections_eq]
    cases sort : sorted ((es.map (·.1)).filter fun k => !isSectionName k) [] with
    | error f => exact ⟨f, rfl, by simp [Failure.isReported, family_of_sorted sort, Failure.Family.isValue]⟩
    | ok out =>
      refine escapes_joined 0 out e.1 ((mem_sorted _ [] out sort e.1).2 (.inr ?_)) other
      refine List.mem_filter.2 ⟨List.mem_map.2 ⟨e, he, rfl⟩, ?_⟩
      cases hk : e.1 with
      | text s => rw [hk] at other; cases other
      | _ => rfl

end Document

/-! ### Files -/

namespace Files

/-- The untyped data in a file. -/
def document (d : Files) (p : Path) : Except Failure Value := do
  Document.parse d.wording (← d.readText p) p

/-- Nothing is said about a folder, a locked file, or a YAML text on which the reader fails in a way that is
not reported. -/
def Unreadable (d : Files) (p : Path) : Prop :=
  d.find p = .folder ∨ d.find p = .locked ∨
    ∃ text, d.readText p = .ok text ∧ Format.ofPath p = .ok .yaml ∧ Escapes (Yaml.read d.wording text p.name)

theorem escapes_readText (d : Files) (p : Path) :
    Escapes (d.readText p) ↔ d.find p = .folder ∨ d.find p = .locked := by
  rw [readText]
  cases d.find p with
  | nothing => simp [Failure.isReported, Failure.family]
  | folder => simp [Failure.isReported, Failure.family, Failure.Family.isValue]
  | locked => simp [Failure.isReported, Failure.family, Failure.Family.isValue]
  | content bytes =>
    dsimp only
    split <;> simp [Failure.isReported, Failure.family, Failure.Family.isValue]

end Files

theorem Document.escapes_parse (wording : String → String) (text : String) (p : Path) :
    Escapes (parse wording text p) ↔ Format.ofPath p = .ok .yaml ∧ Escapes (Yaml.read wording text p.name) := by
  rw [parse]
  cases found : Format.ofPath p with
  | error f =>
    have reported : f.isReported = true := by
      rw [Format.ofPath] at found
      split at found
      · cases found
      · split at found <;> cases found
        rfl
    refine iff_of_false (fun h => ?_) (fun h => by cases h.1)
    rw [error_bind, escapes_error, reported] at h
    cases h
  | ok chosen =>
    cases chosen with
    | json => exact iff_of_false (Json.escapes_read text) fun h => by cases h.1
    | yaml => exact ⟨fun h => ⟨rfl, h⟩, fun h => h.2⟩

theorem Files.escapes_document (d : Files) (p : Path) : Escapes (d.document p) ↔ d.Unreadable p := by
  rw [document, escapes_bind, escapes_readText, or_assoc]
  simp only [Document.escapes_parse]
  rfl

namespace Files

/-- The mapping in a settings file. -/
def sections (d : Files) (p : Path) : Except Failure Section := do
  match ← d.document p with
  | .map es =>
    let _ ← Document.unknownSections es
    return es
  | v => throw (.rootNotMapping v.shortKind)

/-- The settings that a file gives, and the secrets that the environment adds. -/
def fragment (d : Files) (p : Path) (env : Secrets) : Except Failure Settings := do
  Settings.fragment (.map (← d.sections p)) env

/-- The server data in a file. -/
def servers (d : Files) (p : Path) (shown : String) : Except Failure Servers := do
  match ← d.document p with
  | .map es => Servers.ofValue (.map es)
  | _ => throw (.serversNotMapping shown)

/-- Nothing is said about a settings file that is unreadable, or has a key that is no text or a field with
a value that the field cannot have. -/
def UnfitSettings (d : Files) (p : Path) : Prop :=
  d.Unreadable p ∨ ∃ es, d.document p = .ok (.map es) ∧
    ((∃ e ∈ es, e.1.isText = false) ∨ Settings.Unfit es)

/-- Nothing is said about a servers file that is unreadable, or has no proper records for a provider. -/
def UnfitServers (d : Files) (p : Path) : Prop :=
  d.Unreadable p ∨ ∃ es, d.document p = .ok (.map es) ∧ Servers.Unfit es

theorem escapes_servers (d : Files) (p : Path) (shown : String) :
    Escapes (d.servers p shown) ↔ d.UnfitServers p := by
  rw [servers, escapes_bind, escapes_document, UnfitServers]
  refine or_congr Iff.rfl ⟨?_, ?_⟩
  · rintro ⟨v, found, escapes⟩
    cases v with
    | map es => exact ⟨es, found, (Servers.escapes_ofValue es).1 escapes⟩
    | _ => cases (escapes_error _).1 escapes
  · rintro ⟨es, found, unfit⟩
    exact ⟨.map es, found, (Servers.escapes_ofValue es).2 unfit⟩

theorem escapes_fragment (d : Files) (p : Path) (env : Secrets) :
    Escapes (d.fragment p env) ↔ d.UnfitSettings p := by
  rw [fragment, escapes_bind, sections, escapes_bind, escapes_document, UnfitSettings, or_assoc]
  refine or_congr Iff.rfl ⟨?_, ?_⟩
  · rintro (⟨v, found, escapes⟩ | ⟨es, read, escapes⟩)
    · cases v with
      | map es =>
        refine ⟨es, found, .inl ((Document.escapes_unknownSections es).1 ?_)⟩
        exact ((escapes_bind _ _).1 escapes).resolve_right fun ⟨_, _, h⟩ => escapes_ok es h
      | _ => cases (escapes_error _).1 escapes
    · obtain ⟨v, found, kept⟩ := (bind_eq_ok_iff _ _ _).1 read
      cases v with
      | map es' =>
        obtain ⟨_, _, same⟩ := (bind_eq_ok_iff _ _ _).1 kept
        cases same
        exact ⟨es, found, .inr ((Settings.escapes_fragment es env).1 escapes)⟩
      | _ => cases kept
  · rintro ⟨es, found, unfit⟩
    by_cases other : ∃ e ∈ es, e.1.isText = false
    · refine .inl ⟨.map es, found, (escapes_bind _ _).2 (.inl ?_)⟩
      exact (Document.escapes_unknownSections es).2 other
    · obtain ⟨names, sort⟩ := Document.unknownSections_of_isText es (by simpa using other)
      refine .inr ⟨es, ?_, (Settings.escapes_fragment es env).2 (unfit.resolve_left other)⟩
      rw [found, ok_bind]
      dsimp only
      rw [sort]
      rfl

end Files

end TunnelSettings
