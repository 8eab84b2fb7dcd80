import TunnelSettings.Proofs.Documents

/-!
Verdicts on settings. That settings are not valid, or that an override of them is refused, is said by
validation alone: no failure to read a file is a verdict.
-/
namespace TunnelSettings

/-- Whether a failure is a verdict on settings, rather than a failure to read or to show them. -/
def Failure.isVerdict : Failure → Bool
  | invalid .. | rejected .. => true
  | _ => false

/-- An outcome that is a verdict. -/
def Judges {α : Type} (r : Except Failure α) : Prop := FailsWith (fun f => f.isVerdict = true) r

section

variable {α β : Type}

@[simp] theorem judges_ok (a : α) : ¬ Judges (.ok a) := failsWith_ok a

@[simp] theorem judges_error (f : Failure) :
    Judges (.error f : Except Failure α) ↔ f.isVerdict = true := failsWith_error f

theorem not_judges_error {f : Failure} (h : f.isVerdict = false) : ¬ Judges (.error f : Except Failure α) := by
  rw [judges_error, h]
  exact Bool.false_ne_true

theorem not_judges_bind {r : Except Failure α} {f : α → Except Failure β} (hr : ¬ Judges r)
    (hf : ∀ a, ¬ Judges (f a)) : ¬ Judges (r >>= f) := not_failsWith_bind hr hf

theorem not_judges_map {f : α → β} {r : Except Failure α} (h : ¬ Judges r) : ¬ Judges (f <$> r) :=
  not_judges_bind h fun _ => judges_ok _

theorem not_judges_mapError {ε : Type} {f : ε → Failure} (h : ∀ e, (f e).isVerdict = false) (r : Except ε α) :
    ¬ Judges (r.mapError f) := by
  cases r with
  | ok a => exact judges_ok a
  | error e => exact not_judges_error (h e)

theorem not_judges_number (r : Except NumberFault α) : ¬ Judges (r.mapError .number) :=
  not_judges_mapError (fun _ => rfl) r

theorem judges_iff_fault? (r : Except Failure α) :
    Judges r ↔ ∃ f, fault? r = some f ∧ f.isVerdict = true := by
  cases r <;> simp [Judges, FailsWith, fault?]

end

/-! ### Values -/

namespace Value

theorem not_judges_toText (v : Value) : ¬ Judges v.toText := not_judges_number _

theorem not_judges_toInt (v : Value) : ¬ Judges v.toInt := by
  cases v with
  | bool b => exact judges_ok _
  | int n => exact judges_ok _
  | float x => exact not_judges_number _
  | text s => exact not_judges_number _
  | bytes bs => exact not_judges_number _
  | _ => exact not_judges_error rfl

theorem not_judges_toFloat (v : Value) : ¬ Judges v.toFloat := by
  cases v with
  | bool b => exact judges_ok _
  | float x => exact judges_ok _
  | int n => exact not_judges_number _
  | text s => exact not_judges_number _
  | bytes bs => exact not_judges_number _
  | _ => exact not_judges_error rfl

theorem not_judges_toBool (v : Value) : ¬ Judges v.toBool := by
  unfold toBool
  split
  · exact judges_ok _
  · refine not_judges_bind (not_judges_toText v) fun word => ?_
    dsimp only
    split
    · exact judges_ok _
    · split
      · exact judges_ok _
      · exact not_judges_bind (not_judges_number _) fun _ => not_judges_error rfl

theorem not_judges_listed (v : Value) : ¬ Judges v.listed := by
  cases v <;> first | exact judges_ok _ | exact not_judges_error rfl

theorem not_judges_toList {α : Type} {convert : Value → Except Failure α}
    (h : ∀ v, ¬ Judges (convert v)) (v : Value) : ¬ Judges (v.toList convert) := by
  rw [toList_eq]
  exact not_judges_bind (not_judges_listed v) fun xs => not_failsWith_mapM h xs

theorem not_judges_optional {α : Type} {convert : Value → Except Failure α}
    (h : ∀ v, ¬ Judges (convert v)) (v : Option Value) : ¬ Judges (optional convert v) := by
  unfold optional
  split
  · exact judges_ok _
  · exact judges_ok _
  · exact not_judges_map (h _)

end Value

theorem FieldKind.not_judges_read (kind : FieldKind) (v : Option Value) : ¬ Judges (kind.read v) := by
  cases kind with
  | flag => exact not_judges_map (Value.not_judges_optional Value.not_judges_toBool v)
  | integer => exact not_judges_map (Value.not_judges_optional Value.not_judges_toInt v)
  | decimal => exact not_judges_map (Value.not_judges_optional Value.not_judges_toFloat v)
  | text => exact not_judges_map (Value.not_judges_optional Value.not_judges_toText v)
  | texts =>
    exact not_judges_map (Value.not_judges_optional (Value.not_judges_toList Value.not_judges_toText) v)
  | integers =>
    exact not_judges_map (Value.not_judges_optional (Value.not_judges_toList Value.not_judges_toInt) v)

/-! ### Settings -/

theorem Lookup.isVerdict_fault? (es : Section) (l : Lookup) (f : Failure) (h : l.fault? es = some f) :
    f.isVerdict = false := by
  cases l with
  | inner path =>
    cases eq_of_innerFault?_eq_some h
    rfl
  | field path kind =>
    rw [fault?] at h
    by_contra verdict
    rw [Bool.not_eq_false] at verdict
    exact kind.not_judges_read _ ((judges_iff_fault? _).2 ⟨f, h, verdict⟩)

theorem Settings.not_judges_ofSection (es : Section) : ¬ Judges (ofSection es) := by
  rw [judges_iff_fault?, (makes_ofSection es).fault]
  rintro ⟨f, first, verdict⟩
  obtain ⟨l, _, fault⟩ := List.exists_of_findSome?_eq_some first
  rw [l.isVerdict_fault? es f fault] at verdict
  cases verdict

theorem Settings.not_judges_fragment (es : Section) (env : Secrets) :
    ¬ Judges (fragment (.map es) env) :=
  not_judges_bind (not_judges_ofSection es) fun _ => judges_ok _

/-! ### Files -/

theorem Yaml.Fault.isVerdict_failure (f : Fault) : f.failure.isVerdict = false := by
  cases f <;> rfl

theorem Yaml.not_judges_load (wording : String → String) (text file : String) :
    ¬ Judges (load wording text file) := by
  refine not_judges_mapError (fun stop => ?_) _
  cases stop with
  | malformed => rfl
  | fault f => exact f.isVerdict_failure

theorem Yaml.not_judges_read (wording : String → String) (text file : String) :
    ¬ Judges (read wording text file) :=
  not_judges_bind (not_judges_load wording text file) fun _ => judges_ok _

theorem Json.not_judges_read (text : String) : ¬ Judges (read text) := by
  rw [read]
  split
  · exact judges_ok _
  · exact not_judges_error rfl
  · exact not_judges_error rfl

namespace Document

theorem not_judges_parse (wording : String → String) (text : String) (p : Path) :
    ¬ Judges (parse wording text p) := by
  rw [parse]
  refine not_judges_bind ?_ fun chosen => ?_
  · unfold Format.ofPath
    repeat' split
    · exact judges_ok _
    · exact judges_ok _
    · exact not_judges_error rfl
  · cases chosen with
    | json => exact Json.not_judges_read text
    | yaml => exact Yaml.not_judges_read wording text p.name

theorem not_judges_isBefore (a b : Value) : ¬ Judges (isBefore a b) := by
  unfold isBefore
  repeat' split
  all_goals first | exact judges_ok _ | exact not_judges_error rfl

theorem not_judges_insertKey (key : Value) (ks : List Value) : ¬ Judges (insertKey key ks) := by
  induction ks with
  | nil => exact judges_ok _
  | cons k ks ih =>
    rw [insertKey]
    refine not_judges_bind (not_judges_isBefore key k) fun before => ?_
    cases before
    · exact not_judges_bind ih fun _ => judges_ok _
    · exact judges_ok _

theorem not_judges_sorted (keys done : List Value) : ¬ Judges (sorted keys done) := by
  induction keys generalizing done with
  | nil => exact judges_ok _
  | cons key keys ih => exact not_judges_bind (not_judges_insertKey key done) ih

theorem not_judges_joined (i : Nat) (ks : List Value) : ¬ Judges (joined i ks) := by
  induction ks generalizing i with
  | nil => exact judges_ok _
  | cons k ks ih =>
    cases k with
    | text s => exact not_judges_bind (ih (i + 1)) fun _ => judges_ok _
    | _ => exact not_judges_error rfl

theorem not_judges_unknownSections (es : Section) : ¬ Judges (unknownSections es) := by
  rw [unknownSections_eq]
  exact not_judges_bind (not_judges_sorted _ []) fun ks => not_judges_joined 0 ks

end Document

namespace Files

variable (d : Files) (p : Path) (env : Secrets)

theorem not_judges_readText : ¬ Judges (d.readText p) := by
  rw [readText]
  cases d.find p with
  | content bytes =>
    dsimp only
    split
    · exact judges_ok _
    · exact not_judges_error rfl
  | _ => exact not_judges_error rfl

theorem not_judges_document : ¬ Judges (d.document p) :=
  not_judges_bind (d.not_judges_readText p) fun text => Document.not_judges_parse d.wording text p

theorem not_judges_sections : ¬ Judges (d.sections p) := by
  rw [sections]
  refine not_judges_bind (d.not_judges_document p) fun v => ?_
  cases v with
  | map es => exact not_judges_bind (Document.not_judges_unknownSections es) fun _ => judges_ok _
  | _ => exact not_judges_error rfl

/-- Reading a settings file does not end with a verdict on the settings. -/
theorem not_judges_fragment : ¬ Judges (d.fragment p env) :=
  not_judges_bind (d.not_judges_sections p) fun es => Settings.not_judges_fragment es env

end Files
end TunnelSettings
