import TunnelSettings.Proofs.JsonScalars
import TunnelSettings.Proofs.JsonTexts
import TunnelSettings.Proofs.Trees

/-!
Data in JSON and back. A value is read from the text that is written for it, whatever follows the text, if
it is a tree whose leaves have forms of their own in JSON. The texts of lists and mappings are put together
from the texts of what they hold.
-/
namespace TunnelSettings.Json

open Text

/-- The characters that values are written with: printable ASCII characters and line breaks. -/
def IsPlain (c : Char) : Prop := c = '\n' ∨ 32 ≤ c.toNat ∧ c.toNat < 127

instance : DecidablePred IsPlain := fun c =>
  inferInstanceAs (Decidable (c = '\n' ∨ 32 ≤ c.toNat ∧ c.toNat < 127))

theorem IsPlain.ascii {c : Char} (h : IsPlain c) : c.toNat < 128 ∧ c ≠ '\r' := by
  rcases h with rfl | ⟨above, below⟩
  · decide
  · refine ⟨Nat.lt_succ_of_lt below, ?_⟩
    rintro rfl
    exact absurd above (by decide)

/-- A text that is written for a value: the value is read from it, whatever follows. -/
structure IsTextOf (v : Value) (t : List Char) : Prop where
  plain : ∀ c ∈ t, IsPlain c
  starts : ∃ c cs, t = c :: cs ∧ isSpace c = false ∧ c ≠ ']'
  read : ∀ fuel rest, t.length ≤ fuel → Ends rest → readValue fuel (t ++ rest) = .ok (v, rest)

/-! ### Leaves -/

/-- Two texts with only plain characters make one. -/
theorem isPlain_append {s t : List Char} (hs : ∀ c ∈ s, IsPlain c) (ht : ∀ c ∈ t, IsPlain c) :
    ∀ c ∈ s ++ t, IsPlain c := fun c hc => (List.mem_append.1 hc).elim (hs c) (ht c)

theorem isPlain_cons {c : Char} {t : List Char} (hc : IsPlain c) (ht : ∀ c ∈ t, IsPlain c) :
    ∀ d ∈ c :: t, IsPlain d := List.forall_mem_cons.2 ⟨hc, ht⟩

theorem isPlain_of_numeral {c : Char} (h : IsNumeralChar c) : IsPlain c :=
  forall_ascii (P := fun c => IsNumeralChar c → IsPlain c) (by decide +kernel) c h.low h

theorem isPlain_hexDigit (n : Nat) : IsPlain (hexDigit n) := by
  have all : ∀ d < 16, IsPlain (Nat.digitChar d) := by decide
  exact all _ (Nat.mod_lt n (by decide))

theorem isPlain_escapeUnit (n : Nat) : ∀ c ∈ escapeUnit n, IsPlain c := by
  rw [escapeUnit, hexDigits_four]
  exact isPlain_cons (by decide) (isPlain_cons (by decide) (isPlain_cons (isPlain_hexDigit _)
    (isPlain_cons (isPlain_hexDigit _) (isPlain_cons (isPlain_hexDigit _) (isPlain_cons (isPlain_hexDigit _)
      (List.forall_mem_nil _))))))

/-- A character is written with a single letter behind a backslash, as it is, or by its code units. -/
theorem escapeChar_eq (c : Char) : (∃ d ∈ ['"', '\\', 'n', 'r', 't', 'b', 'f'], escapeChar c = ['\\', d]) ∨
    (escapeChar c = [c] ∧ IsPlain c) ∨ ∃ n ns, escapeChar c = (n :: ns).flatMap escapeUnit := by
  generalize eq : escapeChar c = e
  rw [escapeChar] at eq
  split at eq
  · exact .inl ⟨'"', by decide, eq.symm⟩
  split at eq
  · exact .inl ⟨'\\', by decide, eq.symm⟩
  split at eq
  · exact .inl ⟨'n', by decide, eq.symm⟩
  split at eq
  · exact .inl ⟨'r', by decide, eq.symm⟩
  split at eq
  · exact .inl ⟨'t', by decide, eq.symm⟩
  split at eq
  · exact .inl ⟨'b', by decide, eq.symm⟩
  split at eq
  · exact .inl ⟨'f', by decide, eq.symm⟩
  split at eq
  · next printable =>
    rw [Bool.and_eq_true, decide_eq_true_eq, decide_eq_true_eq] at printable
    exact .inr (.inl ⟨eq.symm, .inr printable⟩)
  split at eq
  · exact .inr (.inr ⟨c.toNat, [], by rw [List.flatMap_singleton, eq]⟩)
  · exact .inr (.inr ⟨_, [_], by rw [List.flatMap_cons, List.flatMap_singleton, ← eq]⟩)

theorem isPlain_escapeChar (c : Char) : ∀ d ∈ escapeChar c, IsPlain d := by
  rcases escapeChar_eq c with ⟨d, hd, eq⟩ | ⟨eq, plain⟩ | ⟨n, ns, eq⟩ <;> rw [eq]
  · exact isPlain_cons (by decide) (List.forall_mem_singleton.2 (forall_mem_of_all (by decide) d hd))
  · exact List.forall_mem_singleton.2 plain
  · intro d hd
    obtain ⟨unit, -, hd⟩ := List.mem_flatMap.1 hd
    exact isPlain_escapeUnit unit d hd

theorem length_escapeChar_pos (c : Char) : 0 < (escapeChar c).length := by
  rcases escapeChar_eq c with ⟨d, -, eq⟩ | ⟨eq, -⟩ | ⟨n, ns, eq⟩ <;> rw [eq]
  · exact Nat.zero_lt_two
  · exact Nat.zero_lt_one
  · exact Nat.succ_pos _

theorem writeText_append (s : String) (rest : List Char) :
    writeText s ++ rest = '"' :: (s.toList.flatMap escapeChar ++ '"' :: rest) := by
  rw [writeText, List.append_assoc]
  rfl

theorem isPlain_writeText (s : String) : ∀ c ∈ writeText s, IsPlain c := by
  intro c hc
  rw [← List.append_nil (writeText s), writeText_append, List.mem_cons, List.mem_append, List.mem_singleton,
    List.mem_flatMap] at hc
  rcases hc with rfl | ⟨d, -, escape⟩ | rfl
  · decide
  · exact isPlain_escapeChar d c escape
  · decide

theorem length_le_escaped (cs : List Char) : cs.length ≤ (cs.flatMap escapeChar).length := by
  induction cs with
  | nil => rfl
  | cons c cs ih =>
    have := length_escapeChar_pos c
    rw [List.flatMap_cons, List.length_append, List.length_cons]
    omega

/-- The text in quotes is read behind its opening quote. -/
theorem readText_written (start : Nat) (s : String) (rest : List Char) :
    readText start ((s.toList.flatMap escapeChar ++ '"' :: rest).length + 1) []
      (s.toList.flatMap escapeChar ++ '"' :: rest) = .ok (s, rest) := by
  have enough := length_le_escaped s.toList
  rw [readText_escaped start _ [] s.toList rest (by rw [List.length_append]; omega), List.reverse_nil,
    List.nil_append, String.ofList_toList]

namespace IsTextOf

/-- A text is one of a value if the value is read from it whatever stands behind, with one unit of fuel beyond
the characters after its first. -/
theorem of_read {v : Value} {c : Char} {cs : List Char} (plain : ∀ d ∈ c :: cs, IsPlain d)
    (start : isSpace c = false ∧ c ≠ ']')
    (read : ∀ fuel rest, cs.length ≤ fuel → Ends rest →
      readValue (fuel + 1) (c :: (cs ++ rest)) = .ok (v, rest)) : IsTextOf v (c :: cs) := by
  refine ⟨plain, ⟨c, cs, rfl, start⟩, fun fuel rest enough ends => ?_⟩
  obtain ⟨fuel, rfl⟩ := Nat.exists_eq_add_one_of_ne_zero (Nat.ne_of_gt (Nat.zero_lt_of_lt enough))
  exact read fuel rest (Nat.le_of_succ_le_succ enough) ends

theorem null : IsTextOf .null "null".toList := by
  have read := readValue_null
  rw [toList_null] at read ⊢
  exact of_read (forall_mem_of_all (by decide)) (by decide) fun fuel rest _ _ => read fuel rest

theorem bool (b : Bool) : IsTextOf (.bool b) (if b then "true".toList else "false".toList) := by
  have read := fun fuel rest => readValue_bool fuel b rest
  cases b
  · rw [if_neg Bool.false_ne_true, toList_false] at read ⊢
    exact of_read (forall_mem_of_all (by decide)) (by decide) fun fuel rest _ _ => read fuel rest
  · rw [if_pos rfl, toList_true] at read ⊢
    exact of_read (forall_mem_of_all (by decide)) (by decide) fun fuel rest _ _ => read fuel rest

theorem text (s : String) : IsTextOf (.text s) (writeText s) := by
  have plain := isPlain_writeText s
  rw [← List.append_nil (writeText s), writeText_append] at plain ⊢
  refine of_read plain (by decide) fun fuel rest _ _ => ?_
  rw [List.append_assoc, List.cons_append, List.nil_append]
  change readText _ _ _ _ >>= _ = _
  rw [readText_written, ok_bind]
  rfl

/-- Numerals that are read as a value are texts of it. -/
theorem numeral {v : Value} (negative : Bool) {c : Char} {cs : List Char} (digit : c.isDigit = true)
    (chars : ∀ d ∈ c :: cs, IsNumeralChar d)
    (read : ∀ rest, Ends rest → readNumber (signText negative ++ (c :: cs ++ rest)) = .ok (v, rest)) :
    IsTextOf v (signText negative ++ c :: cs) := by
  have plain : ∀ d ∈ signText negative ++ c :: cs, IsPlain d :=
    fun d hd => isPlain_of_numeral (isNumeralChar_of_signed negative chars d hd)
  have readValue (fuel : Nat) (rest : List Char) (ends : Ends rest) :
      readValue (fuel + 1) (signText negative ++ c :: (cs ++ rest)) = .ok (v, rest) := by
    rw [readValue_numeral fuel negative digit]
    exact read rest ends
  cases negative with
  | true => exact of_read plain (by decide) fun fuel rest _ ends => readValue fuel rest ends
  | false =>
    have start : isSpace c = false ∧ c ≠ ']' :=
      forall_digit (P := fun c => isSpace c = false ∧ c ≠ ']') (by decide) c digit
    exact of_read plain start fun fuel rest _ ends => readValue fuel rest ends

theorem int {n : Int} (short : n.natAbs < Nat.pow 10 maxDigits) : IsTextOf (.int n) (toString n).toList := by
  have digits := areDigits_toDigits n.natAbs
  have read := fun rest (ends : Ends rest) => readNumber_integer short ends
  rw [toList_toString]
  obtain ⟨c, cs, first⟩ := List.exists_cons_of_ne_nil digits.1
  rw [first] at digits read ⊢
  exact numeral _ (digits.2 c List.mem_cons_self) (fun d hd => .inl (digits.2 d hd)) read

theorem float (negative : Bool) {m : Nat} {e : Int} (canonical : Canonical m e) :
    IsTextOf (.float (.finite negative m e canonical))
      ((Binary64.finite negative m e canonical).write numberLayout).toList := by
  obtain ⟨s, proper, text, same⟩ := Binary64.exists_spelling numberLayout negative canonical
  have read := fun rest (ends : Ends rest) => readNumber_decimal negative proper ends
  have chars := Spelling.isNumeralChar_of_mem_text proper
  obtain ⟨c, cs, digit, first⟩ := Spelling.exists_first proper
  rw [same] at read
  rw [text]
  rw [first] at chars read ⊢
  exact numeral negative digit chars read

end IsTextOf

/-! ### Blanks and line breaks -/

theorem skipSpace_cons {c : Char} (h : isSpace c = false) (cs : List Char) : skipSpace (c :: cs) = c :: cs := by
  rw [skipSpace, List.dropWhile_cons, h, if_neg Bool.false_ne_true]

theorem skipSpace_lineBreak (depth : Nat) {c : Char} (h : isSpace c = false) (cs : List Char) :
    skipSpace (lineBreak depth ++ c :: cs) = c :: cs := by
  have spaces : ∀ d ∈ lineBreak depth, isSpace d = true := by
    refine List.forall_mem_cons.2 ⟨rfl, fun d hd => ?_⟩
    rw [List.eq_of_mem_replicate hd]
    rfl
  rw [skipSpace, List.dropWhile_append_of_pos spaces]
  exact skipSpace_cons h cs

theorem isPlain_lineBreak (depth : Nat) : ∀ c ∈ lineBreak depth, IsPlain c := by
  refine List.forall_mem_cons.2 ⟨.inl rfl, fun d hd => ?_⟩
  rw [List.eq_of_mem_replicate hd]
  decide

theorem ends_lineBreak (depth : Nat) (cs : List Char) : Ends (lineBreak depth ++ cs) := ends_cons (by decide)

/-! ### Lists -/

/-- A text that is written behind the first item of a list, for the further items. -/
structure AreItemsOf (xs : List Value) (t : List Char) : Prop where
  plain : ∀ c ∈ t, IsPlain c
  ends : ∀ rest, Ends rest → Ends (t ++ rest)
  read : ∀ x tx, IsTextOf x tx → ∀ fuel depth rest, tx.length + t.length < fuel →
    readItems fuel (tx ++ (t ++ (lineBreak depth ++ ']' :: rest))) = .ok (x :: xs, rest)

theorem AreItemsOf.nil : AreItemsOf [] [] where
  plain := List.forall_mem_nil _
  ends _ ends := ends
  read x tx hx fuel depth rest enough := by
    obtain ⟨fuel, rfl⟩ := Nat.exists_eq_add_one_of_ne_zero (Nat.ne_of_gt (Nat.zero_lt_of_lt enough))
    rw [List.nil_append, readItems, hx.read fuel _ (Nat.le_of_lt_succ enough) (ends_lineBreak depth _), ok_bind]
    dsimp only
    rw [skipSpace_lineBreak depth (by decide)]
    rfl

theorem AreItemsOf.cons {x : Value} {xs : List Value} {tx t : List Char} (hx : IsTextOf x tx)
    (h : AreItemsOf xs t) (depth : Nat) : AreItemsOf (x :: xs) (',' :: lineBreak depth ++ tx ++ t) where
  plain := isPlain_append (isPlain_append (isPlain_cons (by decide) (isPlain_lineBreak depth)) hx.plain) h.plain
  ends _ _ := ends_cons (by decide)
  read y ty hy fuel after rest enough := by
    obtain ⟨fuel, rfl⟩ := Nat.exists_eq_add_one_of_ne_zero (Nat.ne_of_gt (Nat.zero_lt_of_lt enough))
    obtain ⟨c, cs, first, start, -⟩ := hx.starts
    have next : skipSpace (lineBreak depth ++ (tx ++ (t ++ (lineBreak after ++ ']' :: rest)))) =
        tx ++ (t ++ (lineBreak after ++ ']' :: rest)) := by
      rw [first, List.cons_append, skipSpace_lineBreak depth start]
    simp only [List.length_append, List.length_cons] at enough
    simp only [List.cons_append, List.append_assoc]
    rw [readItems, hy.read fuel _ (by omega) (ends_cons (by decide)), ok_bind]
    dsimp only
    rw [skipSpace_cons (by decide)]
    change readItems fuel (skipSpace _) >>= _ = _
    rw [next, h.read x tx hx fuel after rest (by omega), ok_bind]
    rfl

namespace IsTextOf

theorem list_nil : IsTextOf (.list []) "[]".toList := by
  have brackets : "[]".toList = ['[', ']'] := by decide
  rw [brackets]
  exact of_read (forall_mem_of_all (by decide)) (by decide) fun fuel rest _ _ => rfl

theorem list_cons {x : Value} {xs : List Value} {tx t : List Char} (hx : IsTextOf x tx) (h : AreItemsOf xs t)
    (depth : Nat) : IsTextOf (.list (x :: xs))
      ('[' :: lineBreak (depth + 1) ++ tx ++ t ++ lineBreak depth ++ [']']) := by
  have plain : ∀ c ∈ '[' :: lineBreak (depth + 1) ++ tx ++ t ++ lineBreak depth ++ [']'], IsPlain c :=
    isPlain_append (isPlain_append (isPlain_append (isPlain_append (isPlain_cons (by decide)
      (isPlain_lineBreak _)) hx.plain) h.plain) (isPlain_lineBreak _)) (List.forall_mem_singleton.2 (by decide))
  simp only [List.cons_append] at plain ⊢
  refine of_read plain (by decide) fun fuel rest enough _ => ?_
  obtain ⟨c, cs, first, start, other⟩ := hx.starts
  have next : skipSpace (lineBreak (depth + 1) ++ (tx ++ (t ++ (lineBreak depth ++ ']' :: rest)))) =
      c :: (cs ++ (t ++ (lineBreak depth ++ ']' :: rest))) := by
    rw [first, List.cons_append, skipSpace_lineBreak _ start]
  have items := h.read x tx hx fuel depth rest (by simp at enough; omega)
  rw [first, List.cons_append] at items
  simp only [List.append_assoc, List.cons_append, List.nil_append]
  rw [readValue, next]
  split
  · next same => exact absurd (List.cons.inj same).1 other
  · rw [items, ok_bind]
    rfl

end IsTextOf

/-! ### Mappings -/

/-- A text that is written behind the first member of a mapping, for the further members. -/
structure AreMembersOf (es : List (Value × Value)) (t : List Char) : Prop where
  plain : ∀ c ∈ t, IsPlain c
  ends : ∀ rest, Ends rest → Ends (t ++ rest)
  read : ∀ name v tv, IsTextOf v tv → ∀ fuel depth rest, tv.length + t.length < fuel →
    readMembers fuel (writeText name ++ ':' :: ' ' :: (tv ++ (t ++ (lineBreak depth ++ '}' :: rest)))) =
      .ok ((.text name, v) :: es, rest)

/-- A member is read: its name and its value, and what is left behind the value. -/
theorem readMembers_member (fuel : Nat) (name : String) {v : Value} {tv : List Char} (hv : IsTextOf v tv)
    (enough : tv.length ≤ fuel) {rest : List Char} (ends : Ends rest) :
    readMembers (fuel + 1) (writeText name ++ ':' :: ' ' :: (tv ++ rest)) =
      match skipSpace rest with
      | '}' :: after => .ok ([(.text name, v)], after)
      | ',' :: more => do
        let (entries, after) ← readMembers fuel (skipSpace more)
        return ((.text name, v) :: entries, after)
      | other => .error (.at .noComma other.length) := by
  obtain ⟨c, cs, first, start, -⟩ := hv.starts
  have blank : skipSpace (' ' :: (tv ++ rest)) = tv ++ rest := by
    rw [first]
    exact skipSpace_cons start _
  rw [writeText_append, readMembers, readText_written, ok_bind]
  dsimp only
  rw [skipSpace_cons (by decide)]
  change readValue fuel (skipSpace _) >>= _ = _
  rw [blank, hv.read fuel rest enough ends, ok_bind]
  rfl

theorem AreMembersOf.nil : AreMembersOf [] [] where
  plain := List.forall_mem_nil _
  ends _ ends := ends
  read name v tv hv fuel depth rest enough := by
    obtain ⟨fuel, rfl⟩ := Nat.exists_eq_add_one_of_ne_zero (Nat.ne_of_gt (Nat.zero_lt_of_lt enough))
    rw [List.nil_append, readMembers_member fuel name hv (Nat.le_of_lt_succ enough) (ends_lineBreak depth _),
      skipSpace_lineBreak depth (by decide)]
    rfl

/-- The text of a member. -/
def memberText (name : String) (tv : List Char) : List Char := writeText name ++ [':', ' '] ++ tv

theorem isPlain_memberText (name : String) {tv : List Char} (hv : ∀ c ∈ tv, IsPlain c) :
    ∀ c ∈ memberText name tv, IsPlain c :=
  isPlain_append (isPlain_append (isPlain_writeText name) (forall_mem_of_all (by decide))) hv

theorem AreMembersOf.cons {name : String} {v : Value} {tv : List Char} (hv : IsTextOf v tv)
    {es : List (Value × Value)} {t : List Char} (h : AreMembersOf es t) (depth : Nat) :
    AreMembersOf ((.text name, v) :: es) (',' :: lineBreak depth ++ memberText name tv ++ t) where
  plain := isPlain_append (isPlain_append (isPlain_cons (by decide) (isPlain_lineBreak depth))
    (isPlain_memberText name hv.plain)) h.plain
  ends _ _ := ends_cons (by decide)
  read other w tw hw fuel after rest enough := by
    obtain ⟨fuel, rfl⟩ := Nat.exists_eq_add_one_of_ne_zero (Nat.ne_of_gt (Nat.zero_lt_of_lt enough))
    simp only [memberText, List.length_append, List.length_cons] at enough
    have next := h.read name v tv hv fuel after rest (by omega)
    simp only [memberText, List.cons_append, List.nil_append, List.append_assoc]
    rw [readMembers_member fuel other hw (by omega) (ends_cons (by decide)), skipSpace_cons (by decide)]
    change readMembers fuel (skipSpace _) >>= _ = _
    rw [writeText_append] at next ⊢
    rw [skipSpace_lineBreak depth (by decide), next]
    rfl

namespace IsTextOf

theorem map_nil : IsTextOf (.map []) ['{', '}'] :=
  of_read (forall_mem_of_all (by decide)) (by decide) fun fuel rest _ _ => rfl

theorem map_cons {name : String} {v : Value} {tv : List Char} (hv : IsTextOf v tv)
    {es : List (Value × Value)} {t : List Char} (h : AreMembersOf es t)
    (same : Value.ofEntries ((.text name, v) :: es) = (.text name, v) :: es) (depth : Nat) :
    IsTextOf (.map ((.text name, v) :: es))
      ('{' :: lineBreak (depth + 1) ++ memberText name tv ++ t ++ lineBreak depth ++ ['}']) := by
  have plain : ∀ c ∈ '{' :: lineBreak (depth + 1) ++ memberText name tv ++ t ++ lineBreak depth ++ ['}'],
      IsPlain c :=
    isPlain_append (isPlain_append (isPlain_append (isPlain_append (isPlain_cons (by decide)
      (isPlain_lineBreak _)) (isPlain_memberText name hv.plain)) h.plain) (isPlain_lineBreak _))
      (List.forall_mem_singleton.2 (by decide))
  simp only [List.cons_append] at plain ⊢
  refine of_read plain (by decide) fun fuel rest enough _ => ?_
  have members := h.read name v tv hv fuel depth rest (by simp [memberText] at enough; omega)
  simp only [memberText, List.append_assoc, List.cons_append, List.nil_append]
  rw [writeText_append] at members ⊢
  rw [readValue, skipSpace_lineBreak _ (by decide)]
  change readMembers fuel _ >>= _ = _
  rw [members, ok_bind]
  dsimp only
  rw [same]
  rfl

end IsTextOf

/-! ### Trees -/

/-- The leaves that have forms of their own in JSON. -/
def IsLeaf : Value → Prop
  | .null | .bool _ | .text _ => True
  | .int n => n.natAbs < Nat.pow 10 maxDigits
  | .float x => ∃ negative m e canonical, x = .finite negative m e canonical
  | _ => False

mutual

theorem exists_text (depth : Nat) (v : Value) (tree : v.IsTree IsLeaf) :
    ∃ t, writeValue depth v = .ok t ∧ IsTextOf v t := by
  match v with
  | .null => exact ⟨_, by rw [writeValue.eq_def], .null⟩
  | .bool b => exact ⟨_, by rw [writeValue.eq_def], .bool b⟩
  | .int n =>
    have short : n.natAbs < Nat.pow 10 maxDigits := tree
    have written : writeInteger n = .ok (toString n) := if_pos short
    refine ⟨_, ?_, .int short⟩
    rw [writeValue.eq_def]
    dsimp only
    rw [written]
  | .float x =>
    obtain ⟨negative, m, e, canonical, rfl⟩ := tree
    exact ⟨_, by rw [writeValue.eq_def], .float negative canonical⟩
  | .text s => exact ⟨_, by rw [writeValue.eq_def], .text s⟩
  | .list [] => exact ⟨_, by rw [writeValue.eq_def], .list_nil⟩
  | .list (x :: xs) =>
    obtain ⟨tx, first, hx⟩ := exists_text (depth + 1) x tree.1
    obtain ⟨t, further, items⟩ := exists_items (depth + 1) xs tree.2
    refine ⟨_, ?_, hx.list_cons items depth⟩
    rw [writeValue.eq_def]
    dsimp only
    rw [first, ok_bind, further]
    rfl
  | .map [] => exact ⟨_, by rw [writeValue.eq_def], .map_nil⟩
  | .map ((k, v) :: es) =>
    obtain ⟨⟨name, rfl, _⟩, below, named⟩ := id tree
    obtain ⟨tv, first, hv⟩ := exists_text (depth + 1) v below
    obtain ⟨t, further, members⟩ := exists_members (depth + 1) es named
    refine ⟨_, ?_, hv.map_cons members (Value.AreNamed.ofEntries_eq tree) depth⟩
    rw [writeValue.eq_def]
    dsimp only
    rw [writeMember.eq_def]
    dsimp only
    rw [first, ok_bind, further]
    rfl

theorem exists_items (depth : Nat) (xs : List Value) (trees : Value.AreTrees IsLeaf xs) :
    ∃ t, writeItems depth xs = .ok t ∧ AreItemsOf xs t := by
  match xs with
  | [] => exact ⟨_, by rw [writeItems.eq_def], .nil⟩
  | x :: xs =>
    obtain ⟨tx, first, hx⟩ := exists_text depth x trees.1
    obtain ⟨t, further, items⟩ := exists_items depth xs trees.2
    refine ⟨_, ?_, .cons hx items depth⟩
    rw [writeItems.eq_def]
    dsimp only
    rw [first, ok_bind, further]
    rfl

theorem exists_members (depth : Nat) (es : List (Value × Value)) (named : Value.AreNamed IsLeaf es) :
    ∃ t, writeMembers depth es = .ok t ∧ AreMembersOf es t := by
  match es with
  | [] => exact ⟨_, by rw [writeMembers.eq_def], .nil⟩
  | (k, v) :: es =>
    obtain ⟨⟨name, rfl, _⟩, below, named⟩ := named
    obtain ⟨tv, first, hv⟩ := exists_text depth v below
    obtain ⟨t, further, members⟩ := exists_members depth es named
    refine ⟨_, ?_, .cons hv members depth⟩
    rw [writeMembers.eq_def]
    dsimp only
    rw [writeMember.eq_def]
    dsimp only
    rw [first, ok_bind, further]
    rfl

end

/-- A tree is written, in plain characters, and what is written is read as the tree. -/
theorem read_write {v : Value} (tree : v.IsTree IsLeaf) :
    ∃ s, write v = .ok s ∧ (∀ c ∈ s.toList, IsPlain c) ∧ read s = .ok v := by
  obtain ⟨t, written, text⟩ := exists_text 0 v tree
  refine ⟨.ofList t, by rw [write, written]; rfl, by rw [String.toList_ofList]; exact text.plain, ?_⟩
  obtain ⟨c, cs, first, start, -⟩ := text.starts
  have mark : c ≠ '\ufeff' := by
    rintro rfl
    exact absurd (text.plain '\ufeff' (first ▸ List.mem_cons_self)) (by decide)
  have whole := text.read (2 * t.length + 2) [] (by omega) ends_nil
  rw [List.append_nil] at whole
  have document : readDocument t = .ok v := by
    rw [first] at whole ⊢
    rw [readDocument, skipSpace_cons start, whole, ok_bind]
    · rfl
    · rintro _ ⟨⟩
      exact mark rfl
  rw [read, String.toList_ofList, document]

end TunnelSettings.Json
