import TunnelSettings.Proofs.Places

/-!
Files that are written. Where a file can be written, its text is found afterwards, as long as it is plain;
and the full path of a file has the name that the file was given.
-/
namespace TunnelSettings

/-! ### Plain texts in bytes -/

namespace Text

theorem utf8EncodeChar_of_low {c : Char} (low : c.toNat < 128) :
    String.utf8EncodeChar c = [c.toNat.toUInt8] := by
  have low : c.val.toNat ≤ 127 := Nat.le_of_lt_succ low
  rw [String.utf8EncodeChar]
  exact if_pos low

/-- ASCII characters are decoded from their own bytes. -/
theorem decodeFrom_of_low (done : List Char) (position : Nat) (cs : List Char)
    (low : ∀ c ∈ cs, c.toNat < 128) :
    decodeFrom done position (cs.flatMap String.utf8EncodeChar) = .ok (done.reverse ++ cs) := by
  induction cs generalizing done position with
  | nil =>
    rw [List.flatMap_nil, decodeFrom, List.append_nil]
  | cons c cs ih =>
    obtain ⟨first, rest⟩ := List.forall_mem_cons.1 low
    have byte : c.toNat.toUInt8.toNat = c.toNat :=
      Nat.mod_eq_of_lt (Nat.lt_trans first (by decide))
    rw [List.flatMap_cons, utf8EncodeChar_of_low first, List.singleton_append, decodeFrom,
      if_pos (byte.symm ▸ first), ih _ _ rest, List.reverse_cons, List.append_assoc, byte, Char.ofNat_toNat]
    rfl

theorem universalNewlines_of_ne {cs : List Char} (h : ∀ c ∈ cs, c ≠ '\r') : universalNewlines cs = cs := by
  induction cs with
  | nil => rfl
  | cons c cs ih =>
    obtain ⟨first, rest⟩ := List.forall_mem_cons.1 h
    rw [universalNewlines, ih rest]
    · exact fun _ same _ => first same
    · exact first

end Text

namespace Files

variable {d : Files}

/-! ### Writing -/

section
variable (d : Files) (p : Path) (bytes : List UInt8)

@[simp] theorem here_put : (d.put p bytes).here = d.here := by
  rw [put]
  split <;> rfl

@[simp] theorem homes_put : (d.put p bytes).homes = d.homes := by
  rw [put]
  split <;> rfl

@[simp] theorem folders_put : (d.put p bytes).folders = d.folders := by
  rw [put]
  split <;> rfl

@[simp] theorem locked_put : (d.put p bytes).locked = d.locked := by
  rw [put]
  split <;> rfl

@[simp] theorem settled_put (q : Path) : (d.put p bytes).settled q = d.settled q := by
  simp only [settled, expanded, fullPath, here_put, homes_put]

/-- What is put at a place is the content there. -/
theorem lookup_put : (d.put p bytes).contents.lookup p = some bytes := by
  have replaced (contents : List (Path × List UInt8)) (known : contents.any (·.1 = p) = true) :
      (contents.map fun f => if f.1 = p then (p, bytes) else f).lookup p = some bytes := by
    induction contents with
    | nil => cases known
    | cons f fs ih =>
      rw [List.map_cons]
      by_cases same : f.1 = p
      · rw [if_pos same, List.lookup_cons_self]
      · have rest : fs.any (·.1 = p) = true := by simpa [same] using known
        rw [if_neg same, List.lookup_cons, beq_eq_false_iff_ne.2 (Ne.symm same)]
        exact ih rest
  rw [put]
  split
  · next known => exact replaced d.contents known
  · next new =>
    have absent : d.contents.lookup p = none := by
      refine List.lookup_eq_none_iff.2 fun f hf => bne_iff_ne.2 fun same => new ?_
      exact List.any_eq_true.2 ⟨f, hf, decide_eq_true same.symm⟩
    rw [List.lookup_append, absent, Option.none_or, List.lookup_cons_self]

/-- Every file is there still after a file is written. -/
theorem exists_mem_put {f : Path × List UInt8} (hf : f ∈ d.contents) :
    ∃ g ∈ (d.put p bytes).contents, g.1 = f.1 := by
  rw [put]
  split
  · refine ⟨_, List.mem_map.2 ⟨f, hf, rfl⟩, ?_⟩
    split
    · next same => exact same.symm
    · rfl
  · exact ⟨f, List.mem_append_left _ hf, rfl⟩

end

/-- Folders stay folders when a file is written. -/
theorem isFolder_put {p q : Path} (bytes : List UInt8) (folder : d.isFolder q = true) :
    (d.put p bytes).isFolder q = true := by
  rw [isFolder, here_put, folders_put, Bool.or_eq_true, List.any_eq_true]
  rw [isFolder, Bool.or_eq_true, List.any_eq_true] at folder
  rcases folder with known | ⟨f, hf, around⟩
  · exact .inl known
  · obtain ⟨g, hg, same⟩ := d.exists_mem_put p bytes hf
    exact .inr ⟨g, hg, same ▸ around⟩

theorem isFolder_of_at?_eq_folder {p : Path} (found : d.at? p = .folder) : d.isFolder p = true := by
  rw [at?] at found
  split at found
  · split at found <;> cases found
  · split at found
    · assumption
    · cases found

/-- Where nothing is in the way of a file, the way leads to it once it is written, and it is not locked. -/
theorem walk?_put {target : Path} (bytes : List UInt8) (p : Path) (rest : List String)
    (straight : ".." ∉ rest) (free : d.wayFault? target p rest = none) :
    (d.put target bytes).walk? p rest = some { p with parts := p.parts ++ rest } ∧
      d.locked.contains target = false := by
  induction rest generalizing p with
  | nil =>
    rw [wayFault?] at free
    split at free
    · cases free
    split at free
    · cases free
    · next unlocked => exact ⟨by rw [walk?, List.append_nil], Bool.eq_false_iff.2 unlocked⟩
  | cons part rest ih =>
    rw [List.mem_cons, not_or] at straight
    rw [wayFault?] at free
    split at free
    · next found =>
      obtain ⟨walked, unlocked⟩ := ih (p.enter part) straight.2 free
      refine ⟨?_, unlocked⟩
      rw [walk?_cons p part rest (isFolder_put bytes (isFolder_of_at?_eq_folder found)) (Ne.symm straight.1),
        walked, Path.enter, List.append_assoc]
      rfl
    all_goals cases free

/-- What is written at a full path is found there. -/
theorem find_put {target : Path} (bytes : List UInt8) (rooted : target.root ≠ "")
    (straight : ".." ∉ target.parts) (free : d.writeFault? target = none) :
    (d.put target bytes).find target = .content bytes := by
  obtain ⟨walked, unlocked⟩ := walk?_put bytes ⟨target.root, []⟩ target.parts straight free
  rw [find, if_neg rooted, walked]
  dsimp only
  rw [List.nil_append, at?, lookup_put, locked_put, unlocked]
  rfl

/-- A plain text that is written is read again. -/
theorem readText_put {target : Path} {s : String} (rooted : target.root ≠ "")
    (straight : ".." ∉ target.parts) (free : d.writeFault? target = none)
    (plain : ∀ c ∈ s.toList, c.toNat < 128 ∧ c ≠ '\r') :
    (d.put target (encode s)).readText target = .ok s := by
  have decoded : Text.decodeUtf8 (encode s) = .ok s := by
    rw [Text.decodeUtf8, encode, Text.decodeFrom_of_low [] 0 _ fun c hc => (plain c hc).1]
    exact congrArg _ String.ofList_toList
  rw [readText, find_put _ rooted straight free]
  dsimp only
  rw [decoded]
  dsimp only
  rw [Text.universalNewlines_of_ne fun c hc => (plain c hc).2, String.ofList_toList]

end Files

/-! ### Full paths -/

namespace Path

theorem collapseFrom_concat (done parts : List String) {last : String} (h : last ≠ "..") :
    collapseFrom done (parts ++ [last]) = collapseFrom done parts ++ [last] := by
  induction parts generalizing done with
  | nil => simp [collapseFrom, h]
  | cons part parts ih =>
    rw [List.cons_append, collapseFrom, collapseFrom]
    split <;> exact ih _

theorem not_mem_collapseFrom (done parts : List String) (h : ".." ∉ done) :
    ".." ∉ collapseFrom done parts := by
  induction parts generalizing done with
  | nil => simpa [collapseFrom] using h
  | cons part parts ih =>
    rw [collapseFrom]
    split
    · exact ih _ fun above => h (List.mem_of_mem_tail above)
    · next other => exact ih _ (by simp [h, Ne.symm other])

/-- A full path does not go up. -/
theorem straight_resolve (p here : Path) : ".." ∉ (p.resolve here).parts := by
  rw [resolve]
  split <;> exact not_mem_collapseFrom _ _ List.not_mem_nil

theorem rooted_resolve (p : Path) {here : Path} (h : here.root ≠ "") : (p.resolve here).root ≠ "" := by
  rw [resolve]
  split <;> assumption

theorem name_eq_of_getLast? {p : Path} {last : String} (h : p.parts.getLast? = some last) : p.name = last := by
  rw [name, h, Option.getD_some]

/-- The full path of a file has the name of the file. -/
theorem name_resolve_of_ne (p here : Path) {last : String} (h : p.parts.getLast? = some last)
    (down : last ≠ "..") : (p.resolve here).name = last := by
  obtain ⟨init, split⟩ := List.getLast?_eq_some_iff.1 h
  rw [resolve, split]
  split
  · exact name_eq_of_getLast? (by rw [← List.append_assoc, collapseFrom_concat _ _ down, List.getLast?_concat])
  · exact name_eq_of_getLast? (by rw [collapseFrom_concat _ _ down, List.getLast?_concat])

/-- A path to a file whose name ends in `.json`. A lone name behind a tilde is not that of a file. -/
structure IsJson (p : Path) : Prop where
  suffix : p.suffix = ".json"
  inside : p.owner? = none ∨ p.parts.tail ≠ []

theorem IsJson.exists_last {p : Path} (h : p.IsJson) :
    ∃ last, p.parts.getLast? = some last ∧ last ≠ ".." := by
  cases given : p.parts.getLast? with
  | none =>
    have name : p.name = "" := by rw [name, given, Option.getD_none]
    have suffix := h.suffix
    rw [Path.suffix, name] at suffix
    exact absurd suffix (by decide)
  | some last =>
    refine ⟨last, rfl, ?_⟩
    rintro rfl
    have suffix := h.suffix
    rw [Path.suffix, name_eq_of_getLast? given] at suffix
    exact absurd suffix (by decide)

end Path

namespace Files

variable {d : Files}

theorem fullPath_eq_ok {p place : Path} (h : d.fullPath p = .ok place) : place = p.resolve d.here := by
  rw [fullPath] at h
  split at h
  · cases h
  · exact (Except.ok.inj h).symm

/-- The last part of a path is the last one still when its home folder is written out. -/
theorem getLast?_expanded {p full : Path} (inside : p.owner? = none ∨ p.parts.tail ≠ [])
    (h : d.expanded p = .ok full) : full.parts.getLast? = p.parts.getLast? := by
  rw [expanded] at h
  split at h
  · rw [Except.ok.inj h]
  · next owner given =>
    have further : p.parts.tail ≠ [] := inside.resolve_left (by rw [given]; exact Option.some_ne_none owner)
    split at h
    · cases h
    split at h
    · next home _ =>
      rw [← Except.ok.inj h]
      dsimp only
      rw [List.getLast?_append_of_ne_nil _ further]
      cases split : p.parts with
      | nil => exact absurd (congrArg List.tail split) further
      | cons first rest =>
        rw [split] at further
        exact (List.getLast?_append_of_ne_nil [first] further).symm
    · cases h

/-- The full path of a file whose name ends in `.json` ends so too. -/
theorem suffix_settled {p place : Path} (json : p.IsJson) (h : d.settled p = .ok place) :
    place.suffix = ".json" := by
  obtain ⟨last, given, down⟩ := json.exists_last
  rw [settled, bind_eq_ok_iff] at h
  obtain ⟨full, expanded, h⟩ := h
  have name : place.name = p.name := by
    rw [fullPath_eq_ok h, Path.name_eq_of_getLast? given]
    exact Path.name_resolve_of_ne full d.here ((getLast?_expanded json.inside expanded).trans given) down
  rw [Path.suffix_congr name, json.suffix]

/-- A place at which a file can be written is its full path, and nothing is in the way. -/
theorem placeToWrite_eq_ok {p place : Path} (h : d.expanded p >>= d.placeToWrite = .ok place) :
    d.settled p = .ok place ∧ d.writeFault? place = none := by
  rw [bind_eq_ok_iff] at h
  obtain ⟨full, expanded, h⟩ := h
  rw [placeToWrite, bind_eq_ok_iff] at h
  obtain ⟨found, resolved, h⟩ := h
  cases free : d.writeFault? found with
  | some f =>
    rw [free] at h
    cases h
  | none =>
    rw [free] at h
    cases h
    exact ⟨by rw [settled, expanded, ok_bind, resolved], free⟩

/-- A file can be written at its full path if nothing is in the way there. -/
theorem placeToWrite_of_settled {p place : Path} (h : d.settled p = .ok place) :
    d.expanded p >>= d.placeToWrite =
      match d.writeFault? place with
      | some f => .error f
      | none => .ok place := by
  rw [settled, bind_eq_ok_iff] at h
  obtain ⟨full, expanded, resolved⟩ := h
  cases free : d.writeFault? place <;> rw [expanded, ok_bind, placeToWrite, resolved, ok_bind, free]

theorem placeToWrite_of_unsettled {p : Path} {f : Failure} (h : d.settled p = .error f) :
    d.expanded p >>= d.placeToWrite = .error f := by
  rw [settled] at h
  cases expanded : d.expanded p with
  | error g => rwa [expanded, error_bind] at h
  | ok full =>
    rw [expanded, ok_bind] at h
    rw [ok_bind, placeToWrite, h, error_bind]

theorem settled_eq_ok {p place : Path} (rooted : d.here.root ≠ "") (h : d.settled p = .ok place) :
    place.root ≠ "" ∧ ".." ∉ place.parts := by
  rw [settled, bind_eq_ok_iff] at h
  obtain ⟨full, -, h⟩ := h
  rw [fullPath_eq_ok h]
  exact ⟨Path.rooted_resolve full rooted, Path.straight_resolve full d.here⟩

end Files
end TunnelSettings
