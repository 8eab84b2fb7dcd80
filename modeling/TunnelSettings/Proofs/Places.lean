import TunnelSettings.Proofs.Documents

/-!
Places of files. A path and its full form lead to the same place, unless the path goes up; and nothing
is found at a path with a name that no file has.
-/
namespace TunnelSettings

/-- Whether a name can be that of a file. -/
def IsFileName (part : String) : Prop := '\x00' ∉ part.toList

instance : DecidablePred IsFileName := fun part => inferInstanceAs (Decidable ('\x00' ∉ part.toList))

namespace Files

/-- The paths that are known to lead somewhere. -/
def known (d : Files) : List Path := d.here :: d.folders ++ d.contents.map (·.1)

/-- Files as a system can have them: the working folder is a folder with a full path, and all names are
names of files. -/
structure Proper (d : Files) : Prop where
  rooted : d.here.root ≠ ""
  straight : ".." ∉ d.here.parts
  folder : d.contents.lookup d.here = none
  named : ∀ p ∈ d.known, ∀ part ∈ p.parts, IsFileName part

end Files

namespace Path

theorem collapseFrom_of_straight (done parts : List String) (h : ".." ∉ parts) :
    collapseFrom done parts = done.reverse ++ parts := by
  induction parts generalizing done with
  | nil => simp [collapseFrom]
  | cons part parts ih =>
    rw [List.mem_cons, not_or] at h
    rw [collapseFrom, if_neg (Ne.symm h.1), ih _ h.2, List.reverse_cons, List.append_assoc]
    rfl

/-- The full form of a path that does not go up. -/
theorem resolve_of_straight (p here : Path) (hp : ".." ∉ p.parts) (hh : ".." ∉ here.parts) :
    p.resolve here = if p.root = "" then ⟨here.root, here.parts ++ p.parts⟩ else p := by
  rw [resolve]
  split
  · rw [collapseFrom_of_straight [] _ (by simp [hp, hh])]
    rfl
  · rw [collapseFrom_of_straight [] _ hp]
    rfl

end Path

namespace Path

@[simp] theorem leadsTo_self (p : Path) : p.leadsTo p = true := by
  simp [leadsTo, List.isPrefixOf_iff_prefix]

end Path

namespace Files

variable {d : Files}

theorem isFolder_of_leadsTo (p : Path) (h : p.leadsTo d.here = true) : d.isFolder p = true := by
  simp [isFolder, h]

theorem walk?_cons (p : Path) (part : String) (rest : List String) (folder : d.isFolder p = true)
    (h : part ≠ "..") : d.walk? p (part :: rest) = d.walk? (p.enter part) rest := by
  rw [walk?, folder, if_neg h]
  rfl

/-- The way to the working folder can be walked. -/
theorem walk?_here (done rest parts : List String) (split : d.here.parts = done ++ rest)
    (h : ".." ∉ rest) : d.walk? ⟨d.here.root, done⟩ (rest ++ parts) = d.walk? d.here parts := by
  induction rest generalizing done with
  | nil =>
    rw [List.append_nil] at split
    rw [← split]
    rfl
  | cons part rest ih =>
    rw [List.mem_cons, not_or] at h
    have folder : d.isFolder ⟨d.here.root, done⟩ = true :=
      isFolder_of_leadsTo _ (by simp [Path.leadsTo, split])
    rw [List.cons_append, walk?_cons _ _ _ folder (Ne.symm h.1)]
    exact ih (done ++ [part]) (by rw [split, List.append_assoc]; rfl) h.2

/-- A path and its full form lead to the same place. -/
theorem find_resolve (proper : d.Proper) (p : Path) (h : ".." ∉ p.parts) :
    d.find (p.resolve d.here) = d.find p := by
  rw [Path.resolve_of_straight p d.here h proper.straight]
  split
  · next relative =>
    rw [find, find, if_neg proper.rooted, if_pos relative]
    rw [walk?_here [] d.here.parts p.parts rfl proper.straight]
  · rfl

/-- A walk that does not go up ends behind all its parts. -/
theorem walk?_eq_some (p place : Path) (parts : List String) (h : ".." ∉ parts)
    (walked : d.walk? p parts = some place) : place = { p with parts := p.parts ++ parts } := by
  induction parts generalizing p with
  | nil =>
    cases walked
    rw [List.append_nil]
  | cons part parts ih =>
    rw [List.mem_cons, not_or] at h
    rw [walk?] at walked
    split at walked
    · cases walked
    · rw [if_neg (Ne.symm h.1)] at walked
      rw [ih _ h.2 walked, Path.enter, List.append_assoc]
      rfl

/-- Nothing is found at a place if some part of it is no name of a file. -/
theorem at?_of_not_isFileName (proper : d.Proper) (place : Path) (part : String) (hp : part ∈ place.parts)
    (h : ¬ IsFileName part) : d.at? place = .nothing := by
  have unknown (q : Path) (hq : q ∈ d.known) : place.leadsTo q = false := by
    by_contra leads
    rw [Bool.not_eq_false, Path.leadsTo, Bool.and_eq_true] at leads
    exact h (proper.named q hq part ((List.isPrefixOf_iff_prefix.1 leads.2).subset hp))
  have absent : d.contents.lookup place = none := by
    refine List.lookup_eq_none_iff.2 fun f hf => ?_
    rw [bne_iff_ne]
    rintro rfl
    have itself := unknown f.1 (List.mem_append_right _ (List.mem_map.2 ⟨f, hf, rfl⟩))
    rw [Path.leadsTo_self] at itself
    cases itself
  have open_ : d.isFolder place = false := by
    have none_here : place.leadsTo d.here = false := unknown _ List.mem_cons_self
    have none_folder : ∀ q ∈ d.folders, place.leadsTo q = false := fun q hq =>
      unknown q (List.mem_append_left _ (List.mem_cons_of_mem _ hq))
    have none_file : ∀ f ∈ d.contents, place.leadsTo f.1 = false := fun f hf =>
      unknown f.1 (List.mem_append_right _ (List.mem_map.2 ⟨f, hf, rfl⟩))
    have some_part : place.parts ≠ [] := List.ne_nil_of_mem hp
    simp only [isFolder, Bool.or_eq_false_iff, List.any_eq_false, Bool.and_eq_true, not_and,
      List.isEmpty_eq_false_iff, none_here]
    refine ⟨⟨⟨some_part, trivial⟩, fun q hq => ?_⟩, fun f hf leads => ?_⟩
    · rw [none_folder q hq]
      exact Bool.false_ne_true
    · rw [none_file f hf] at leads
      cases leads
  rw [at?, absent, open_]
  rfl

/-- A path with a name that no file has leads nowhere. -/
theorem find_of_not_isFileName (proper : d.Proper) (p : Path) (straight : ".." ∉ p.parts) (part : String)
    (hp : part ∈ p.parts) (h : ¬ IsFileName part) : d.find p = .nothing := by
  unfold find
  dsimp only
  split
  · next place walked =>
    refine at?_of_not_isFileName proper place part ?_ h
    rw [walk?_eq_some _ _ _ straight walked]
    exact List.mem_append_right _ hp
  · rfl

theorem fullPath_of_isFileName (d : Files) (p : Path) (h : ∀ part ∈ p.parts, IsFileName part) :
    d.fullPath p = .ok (p.resolve d.here) := by
  rw [fullPath, if_neg]
  simpa [IsFileName] using h

theorem fullPath_of_not_isFileName (d : Files) (p : Path) (part : String) (hp : part ∈ p.parts)
    (h : ¬ IsFileName part) : d.fullPath p = .error .nullInName := by
  rw [fullPath, if_pos]
  exact List.any_eq_true.2 ⟨part, hp, by simpa [IsFileName] using h⟩

theorem settled_of_owner?_eq_none (d : Files) (p : Path) (h : p.owner? = none) :
    d.settled p = d.fullPath p := by
  rw [settled, expanded, h]
  rfl

/-- The working folder is found at a path without parts. -/
theorem find_empty (proper : d.Proper) (p : Path) (relative : p.root = "") (empty : p.parts = []) :
    d.find p = .folder := by
  have folder : d.isFolder d.here = true := isFolder_of_leadsTo _ (Path.leadsTo_self _)
  rw [find, if_pos relative, empty, walk?]
  dsimp only
  rw [at?, proper.folder, folder]
  rfl

end Files

/-! ### Reading at a place -/

/-- Outcomes that are the same, or failures both of which are reported or neither. -/
def Alike {α : Type} (r r' : Except Failure α) : Prop :=
  r = r' ∨ ∃ f g, r = .error f ∧ r' = .error g ∧ f.isReported = g.isReported

namespace Alike

variable {α β : Type} {r r' : Except Failure α}

theorem refl (r : Except Failure α) : Alike r r := .inl rfl

theorem bind (f : α → Except Failure β) (h : Alike r r') : Alike (r >>= f) (r' >>= f) := by
  rcases h with rfl | ⟨f, g, rfl, rfl, same⟩
  · exact refl _
  · exact .inr ⟨f, g, rfl, rfl, same⟩

theorem ok_iff (h : Alike r r') (a : α) : r = .ok a ↔ r' = .ok a := by
  rcases h with rfl | ⟨f, g, rfl, rfl, _⟩
  · exact Iff.rfl
  · exact ⟨nofun, nofun⟩

end Alike

namespace Path

theorem suffix_congr {p q : Path} (h : p.name = q.name) : p.suffix = q.suffix := by
  rw [suffix, suffix, h]

theorem name_resolve (p here : Path) (hp : ".." ∉ p.parts) (hh : ".." ∉ here.parts) (h : p.parts ≠ []) :
    (p.resolve here).name = p.name := by
  rw [resolve_of_straight p here hp hh]
  split
  · rw [name, name, List.getLast?_append_of_ne_nil _ h]
  · rfl

end Path

/-- The name of a file decides how it is read. -/
theorem Document.parse_congr {p q : Path} (h : p.name = q.name) (wording : String → String) (text : String) :
    parse wording text p = parse wording text q := by
  rw [parse, parse, Format.ofPath, Format.ofPath, Path.suffix_congr h, h]

namespace Files

variable {d : Files}

/-- Two paths with the same last name that lead to the same place are read alike. -/
theorem document_alike (p q : Path) (place : d.find p = d.find q)
    (name : ∀ bytes, d.find q = .content bytes → p.name = q.name) :
    Alike (d.document p) (d.document q) := by
  rw [document, document, readText, readText, place]
  cases found : d.find q with
  | content bytes =>
    refine .inl (congrArg _ (funext fun text => ?_))
    exact Document.parse_congr (name bytes found) d.wording text
  | nothing => exact .inr ⟨_, _, rfl, rfl, rfl⟩
  | folder => exact .inr ⟨_, _, rfl, rfl, rfl⟩
  | locked => exact .inr ⟨_, _, rfl, rfl, rfl⟩

theorem document_resolve (proper : d.Proper) (p : Path) (straight : ".." ∉ p.parts) :
    Alike (d.document (p.resolve d.here)) (d.document p) := by
  refine document_alike _ _ (find_resolve proper p straight) fun bytes found => ?_
  by_cases relative : p.root = ""
  · refine Path.name_resolve p d.here straight proper.straight fun empty => ?_
    rw [find_empty proper p relative empty] at found
    cases found
  · rw [Path.resolve_of_straight p d.here straight proper.straight, if_neg relative]

/-- A settings file is read alike at a path and at its full form, if it has one. -/
theorem fragment_settled (proper : d.Proper) (p : Path) (straight : ".." ∉ p.parts)
    (homeless : p.owner? = none) (env : Secrets) :
    Alike (d.settled p >>= fun q => d.fragment q env) (d.fragment p env) := by
  rw [settled_of_owner?_eq_none d p homeless]
  by_cases named : ∀ part ∈ p.parts, IsFileName part
  · rw [fullPath_of_isFileName d p named, ok_bind]
    exact ((document_resolve proper p straight).bind _).bind _
  · obtain ⟨part, hp, h⟩ : ∃ part ∈ p.parts, ¬ IsFileName part := by simpa using named
    have missing : d.readText p = .error (.fileNotFound p.text) := by
      rw [readText, find_of_not_isFileName proper p straight part hp h]
    rw [fullPath_of_not_isFileName d p part hp h]
    refine .inr ⟨.nullInName, .fileNotFound p.text, rfl, ?_, rfl⟩
    rw [fragment, sections, document, missing]
    rfl

end Files
end TunnelSettings
