import TunnelSettings.Proofs.Reading

/-!
Data that are trees: lists, and mappings whose keys are different texts. What stands at the end of a path
in a tree is found again once the tree is pruned, and equal trees have equal values at the end of every
path.
-/

namespace TunnelSettings

namespace Value

mutual

/-- A value made of lists, of mappings with a different text for every key, and of leaves of some sort. Nothing
stands inside itself. -/
def IsTree (leaf : Value → Prop) : Value → Prop
  | .list items => AreTrees leaf items
  | .map entries => AreNamed leaf entries
  | .outerList .. | .outerTuple .. | .outerMap .. => False
  | v => leaf v

def AreTrees (leaf : Value → Prop) : List Value → Prop
  | [] => True
  | v :: vs => v.IsTree leaf ∧ AreTrees leaf vs

def AreNamed (leaf : Value → Prop) : List (Value × Value) → Prop
  | [] => True
  | (key, v) :: es => (∃ name, key = .text name ∧ find? name es = none) ∧ v.IsTree leaf ∧ AreNamed leaf es

end

theorem areTrees_iff (leaf : Value → Prop) (items : List Value) :
    AreTrees leaf items ↔ ∀ v ∈ items, v.IsTree leaf := by
  induction items with
  | nil => simp [AreTrees]
  | cons v vs ih => simp [AreTrees, ih]

/-- The entries of a mapping. -/
def entries : Value → Section
  | .map es => es
  | _ => []

variable {leaf : Value → Prop}

theorem AreNamed.nil : AreNamed leaf [] := trivial

theorem AreNamed.cons {name : String} {v : Value} {es : List (Value × Value)}
    (new : find? name es = none) (tree : v.IsTree leaf) (rest : AreNamed leaf es) :
    AreNamed leaf ((.text name, v) :: es) := ⟨⟨name, rfl, new⟩, tree, rest⟩

theorem IsTree.map {es : List (Value × Value)} (named : AreNamed leaf es) : (Value.map es).IsTree leaf :=
  named

/-- What pruning leaves of the value of an entry: nothing of null and of a mapping that is empty then. -/
def kept : Value → Option Value
  | .null => none
  | v =>
    match pruned v with
    | .map [] => none
    | w => some w

theorem kept_map (es : List (Value × Value)) :
    kept (.map es) = if prunedEntries es = [] then none else some (.map (prunedEntries es)) := by
  have eq : pruned (.map es) = .map (prunedEntries es) := rfl
  rw [kept, eq]
  · cases prunedEntries es <;> rfl
  · nofun

theorem prunedEntries_cons (k v : Value) (es : List (Value × Value)) :
    prunedEntries ((k, v) :: es) = ((kept v).map fun w => (k, w)).toList ++ prunedEntries es := by
  cases v with
  | map inner =>
    have eq : pruned (.map inner) = .map (prunedEntries inner) := rfl
    rw [kept_map, prunedEntries, eq]
    · cases prunedEntries inner <;> rfl
    · nofun
  | _ => rfl

theorem AreNamed.isTree_of_find? {es : List (Value × Value)} (named : AreNamed leaf es) {name : String}
    {v : Value} (found : find? name es = some v) : v.IsTree leaf := by
  induction es with
  | nil => cases found
  | cons e es ih =>
    obtain ⟨k, w⟩ := e
    obtain ⟨⟨key, rfl, _⟩, tree, named⟩ := named
    rw [find?] at found
    split at found
    · cases found
      exact tree
    · exact ih named found

/-- Pruning leaves under a name what it leaves of the value there. -/
theorem find?_prunedEntries {es : List (Value × Value)} (named : AreNamed leaf es) (name : String) :
    find? name (prunedEntries es) = (find? name es).bind kept := by
  induction es with
  | nil => rfl
  | cons e es ih =>
    obtain ⟨k, v⟩ := e
    obtain ⟨⟨key, rfl, first⟩, _, named⟩ := named
    rw [prunedEntries_cons, find?]
    split
    · next same =>
      subst same
      have rest : find? key (prunedEntries es) = none := by rw [ih named, first]; rfl
      cases left : kept v with
      | none => simpa [left] using rest
      | some w => simp [left, find?]
    · next other =>
      rw [← ih named]
      cases left : kept v with
      | none => rfl
      | some w => simp [find?, other]

theorem kept_eq_some {v w : Value} (h : v.kept = some w) : w = v.pruned := by
  cases v with
  | null => cases h
  | map es =>
    rw [kept_map] at h
    split at h
    · cases h
    · exact (Option.some.inj h).symm
  | _ => exact (Option.some.inj h).symm

mutual

theorem IsTree.pruned {v : Value} (tree : v.IsTree leaf) : v.pruned.IsTree leaf := by
  cases v with
  | map es => exact AreNamed.prunedEntries tree
  | _ => exact tree

theorem AreNamed.prunedEntries {es : List (Value × Value)} (named : AreNamed leaf es) :
    AreNamed leaf (Value.prunedEntries es) := by
  match es with
  | [] => exact .nil
  | (k, v) :: es =>
    obtain ⟨⟨name, rfl, first⟩, tree, rest⟩ := named
    have new : find? name (Value.prunedEntries es) = none := by
      rw [find?_prunedEntries rest, first, Option.bind_none]
    have below := AreNamed.prunedEntries rest
    rw [prunedEntries_cons]
    cases left : v.kept with
    | none => exact below
    | some w => exact .cons new (kept_eq_some left ▸ IsTree.pruned tree) below

end

end Value

/-- What a path leads to in a mapping is what stands at its end, if anything does. -/
theorem Value.follow_map (path : List String) (es : List (Value × Value)) :
    (Value.map es).follow path = (Section.at? path es).getD .null := by
  induction path generalizing es with
  | nil => rfl
  | cons key rest ih =>
    rw [follow, entries?]
    cases rest with
    | nil => rfl
    | cons next rest =>
      rw [Section.at?]
      dsimp only
      cases find? key es with
      | none => rfl
      | some v =>
        rw [Option.getD_some, Option.bind_some]
        cases inside : v.entries? with
        | none => simp [follow, inside]
        | some inner =>
          have below := ih inner
          rw [follow, entries?] at below
          rw [follow, inside]
          exact below

/-- Pruning leaves at the end of a path what it leaves of the value there. -/
theorem Section.at?_prunedEntries {leaf : Value → Prop} (es : Section) (named : Value.AreNamed leaf es)
    (key : String) (rest : List String) :
    Section.at? (key :: rest) (Value.prunedEntries es) =
      (Section.at? (key :: rest) es).bind Value.kept := by
  induction rest generalizing key es with
  | nil => rw [at?_singleton, at?_singleton, Value.find?_prunedEntries named]
  | cons next rest ih =>
    rw [at?, at?, Value.find?_prunedEntries named]
    cases found : Value.find? key es with
    | none => rfl
    | some v =>
      rw [Option.bind_some]
      cases v with
      | map inner =>
        have inside : Value.AreNamed leaf inner := named.isTree_of_find? found
        change _ = (at? (next :: rest) inner).bind Value.kept
        rw [← ih inner inside next, Value.kept_map]
        split
        · next gone =>
          rw [gone, at?_empty]
          rfl
        · rfl
      | outerMap => exact (named.isTree_of_find? found).elim
      | _ => rfl

namespace Value

/-- What a mapping holds under a key. -/
def get? (key : Value) (es : List (Value × Value)) : Option Value :=
  (es.find? fun e => sameKey e.1 key).map (·.2)

mutual

/-- Whether two pieces of data are equal: lists item by item, mappings if they hold equal values under the
same keys in whatever order, and all else as keys are. -/
def same : Value → Value → Bool
  | .list xs, .list ys => sameItems xs ys
  | .map es, .map fs => es.length = fs.length && sameEntries es fs
  | .bool a, .bool b => a = b
  | .int m, .int n => m = n
  | v, w => sameKey v w

def sameItems : List Value → List Value → Bool
  | [], [] => true
  | x :: xs, y :: ys => same x y && sameItems xs ys
  | _, _ => false

def sameEntries : List (Value × Value) → List (Value × Value) → Bool
  | [], _ => true
  | (k, v) :: es, fs => (get? k fs).any (same v) && sameEntries es fs

end

/-- What two mappings hold in one place if they are equal: nothing both, or equal values. -/
def Agree (a b : Option Value) : Prop := Option.Rel (fun v w => same v w) a b

variable {leaf : Value → Prop}

theorem get?_text {es : List (Value × Value)} (named : AreNamed leaf es) (name : String) :
    get? (.text name) es = find? name es := by
  induction es with
  | nil => rfl
  | cons e es ih =>
    obtain ⟨k, v⟩ := e
    obtain ⟨⟨key, rfl, _⟩, _, named⟩ := named
    have eq : sameKey (.text key) (.text name) = decide (key = name) := by rw [sameKey]
    rw [find?, ← ih named, get?, get?, List.find?_cons, eq]
    by_cases h : key = name
    · rw [if_pos h, decide_eq_true h]
      rfl
    · rw [if_neg h, decide_eq_false h]

/-- The names of the entries of a mapping. -/
def names (es : List (Value × Value)) : List String :=
  es.filterMap fun e => match e.1 with
    | .text name => some name
    | _ => none

theorem find?_eq_none_iff (name : String) (es : List (Value × Value)) :
    find? name es = none ↔ name ∉ names es := by
  induction es with
  | nil => simp [find?, names]
  | cons e es ih =>
    obtain ⟨k, v⟩ := e
    cases k with
    | text key =>
      rw [find?]
      by_cases h : key = name
      · simp [h, names]
      · simp only [h, if_false, ih]
        simp [names, Ne.symm h]
    | _ => simpa [find?, names] using ih

theorem AreNamed.nodup_names {es : List (Value × Value)} (named : AreNamed leaf es) : (names es).Nodup := by
  induction es with
  | nil => exact List.nodup_nil
  | cons e es ih =>
    obtain ⟨k, v⟩ := e
    obtain ⟨⟨key, rfl, first⟩, tree, named⟩ := named
    exact List.nodup_cons.2 ⟨(find?_eq_none_iff key es).1 first, ih named⟩

theorem AreNamed.length_names {es : List (Value × Value)} (named : AreNamed leaf es) :
    (names es).length = es.length := by
  induction es with
  | nil => rfl
  | cons e es ih =>
    obtain ⟨k, v⟩ := e
    obtain ⟨⟨key, rfl, first⟩, tree, named⟩ := named
    exact congrArg (· + 1) (ih named)

/-- An entry with a new name is put behind those that came before. -/
theorem AreNamed.put_append {done rest : List (Value × Value)} {name : String} {v : Value}
    (named : AreNamed leaf (done ++ (.text name, v) :: rest)) :
    put (.text name) v done = done ++ [(.text name, v)] := by
  induction done with
  | nil => rfl
  | cons e done ih =>
    obtain ⟨k, w⟩ := e
    obtain ⟨⟨key, rfl, first⟩, -, named⟩ := named
    have other : key ≠ name := by
      rintro rfl
      exact (find?_eq_none_iff _ _).1 first (by simp [names])
    have differ : sameKey (.text key) (.text name) = false := by
      rw [sameKey]
      exact decide_eq_false other
    rw [put, differ, if_neg Bool.false_ne_true, ih named]
    rfl

/-- Entries with different names are the entries of the mapping that they make. -/
theorem AreNamed.ofEntries_eq {es : List (Value × Value)} (named : AreNamed leaf es) : ofEntries es = es := by
  suffices all : ∀ done, AreNamed leaf (done ++ es) → es.foldl (fun done e => put e.1 e.2 done) done = done ++ es
    from all [] named
  induction es with
  | nil => exact fun done _ => (List.append_nil done).symm
  | cons e es ih =>
    intro done all_named
    obtain ⟨k, v⟩ := e
    obtain ⟨⟨name, rfl, _⟩, _, rest⟩ := named
    rw [List.foldl_cons, all_named.put_append, ih rest _ (by rwa [List.append_assoc]), List.append_assoc]
    rfl

theorem find?_of_sameEntries {es fs : List (Value × Value)} (named : AreNamed leaf es)
    (others : AreNamed leaf fs) (h : sameEntries es fs = true) {name : String} {v : Value}
    (found : find? name es = some v) : ∃ w, find? name fs = some w ∧ same v w = true := by
  induction es with
  | nil => cases found
  | cons e es ih =>
    obtain ⟨k, u⟩ := e
    obtain ⟨⟨key, rfl, _⟩, _, named⟩ := named
    rw [sameEntries, get?_text others, Bool.and_eq_true] at h
    rw [find?] at found
    split at found
    · next same =>
      cases found
      rw [same, Option.any_eq_true] at h
      exact h.1
    · exact ih named h.2 found

theorem eq_map_of_same_map {es : List (Value × Value)} {w : Value} (h : same (.map es) w = true) :
    ∃ fs, w = .map fs := by
  cases w with
  | map fs => exact ⟨fs, rfl⟩
  | _ => cases h

theorem eq_map_of_map_same {v : Value} {fs : List (Value × Value)} (h : same v (.map fs) = true) :
    ∃ es, v = .map es := by
  cases v with
  | map es => exact ⟨es, rfl⟩
  | float x => cases x <;> cases h
  | _ => cases h

/-- Equal mappings agree under every name. -/
theorem agree_find? {es fs : List (Value × Value)} (named : AreNamed leaf es) (others : AreNamed leaf fs)
    (h : same (.map es) (.map fs) = true) (name : String) : Agree (find? name es) (find? name fs) := by
  rw [same, Bool.and_eq_true, decide_eq_true_iff] at h
  cases found : find? name es with
  | some v =>
    obtain ⟨w, there, eq⟩ := find?_of_sameEntries named others h.2 found
    rw [there]
    exact .some eq
  | none =>
    -- Since there are as many names on one side as on the other, no name is on the other side alone.
    have sub : names es ⊆ names fs := by
      intro key hk
      by_contra missing
      cases there : find? key es with
      | none => exact (find?_eq_none_iff key es).1 there hk
      | some v =>
        obtain ⟨w, found, _⟩ := find?_of_sameEntries named others h.2 there
        rw [(find?_eq_none_iff key fs).2 missing] at found
        cases found
    have perm : (names es).Perm (names fs) := by
      refine (List.subperm_of_subset named.nodup_names sub).perm_of_length_le ?_
      rw [named.length_names, others.length_names, h.1]
    have absent : name ∉ names fs := fun hf => (find?_eq_none_iff name es).1 found (perm.mem_iff.2 hf)
    rw [(find?_eq_none_iff name fs).2 absent]
    exact .none

end Value

/-- Equal mappings agree at the end of every path. -/
theorem Section.agree_at? {leaf : Value → Prop} (es fs : Section) (named : Value.AreNamed leaf es)
    (others : Value.AreNamed leaf fs) (h : Value.same (.map es) (.map fs) = true) (path : List String) :
    Value.Agree (es.at? path) (fs.at? path) := by
  induction path generalizing es fs with
  | nil => exact .some h
  | cons key rest ih =>
    have agree := Value.agree_find? named others h key
    cases rest with
    | nil => exact agree
    | cons next rest =>
      rw [at?, at?]
      cases here : Value.find? key es with
      | none =>
        cases there : Value.find? key fs with
        | none => exact .none
        | some w => rw [here, there] at agree; cases agree
      | some v =>
        cases there : Value.find? key fs with
        | none => rw [here, there] at agree; cases agree
        | some w =>
          rw [here, there] at agree
          obtain ⟨eq⟩ := agree
          have tree := named.isTree_of_find? here
          have tree' := others.isTree_of_find? there
          cases v with
          | map inner =>
            obtain ⟨inside, rfl⟩ := Value.eq_map_of_same_map eq
            exact ih inner inside tree tree' eq
          | outerMap => exact tree.elim
          | _ =>
            cases w with
            | map inside =>
              obtain ⟨_, same⟩ := Value.eq_map_of_map_same eq
              cases same
            | outerMap => exact tree'.elim
            | _ => exact .none

end TunnelSettings
