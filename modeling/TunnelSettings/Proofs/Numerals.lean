import Mathlib.Data.List.TakeWhile
import Mathlib.Tactic.Ring
import TunnelSettings.Number.Decimal
import TunnelSettings.Number.Integer

/-!
Numerals in their plain spelling. Nothing is trimmed or replaced in a text of ASCII digits, signs, points and
marks of exponents, and the decimal digits of a whole number are read as that number.
-/
namespace TunnelSettings

open Text

/-- A property of all ASCII characters, checked one by one. -/
theorem forall_ascii {P : Char → Prop} (h : ∀ n < 128, P (.ofNat n)) (c : Char) (low : c.toNat < 128) :
    P c := Char.ofNat_toNat c ▸ h c.toNat low

/-- A property of the members of a list, checked one by one. -/
theorem forall_mem_of_all {α : Type} {P : α → Prop} [DecidablePred P] {l : List α}
    (h : (l.all fun a => P a) = true) : ∀ a ∈ l, P a :=
  fun a ha => of_decide_eq_true (List.all_eq_true.1 h a ha)

/-! ### Digits -/

/-- One digit or more. -/
def AreDigits (cs : List Char) : Prop := cs ≠ [] ∧ ∀ c ∈ cs, c.isDigit = true

theorem toNat_of_isDigit {c : Char} (h : c.isDigit = true) : 48 ≤ c.toNat ∧ c.toNat ≤ 57 :=
  Char.isDigit_iff_toNat.1 h

/-- A property of all digits, checked one by one. -/
theorem forall_digit {P : Char → Prop} (h : ∀ n < 10, P (.ofNat (48 + n))) (c : Char)
    (digit : c.isDigit = true) : P c := by
  obtain ⟨above, below⟩ := toNat_of_isDigit digit
  have found := h (c.toNat - 48) (by omega)
  rwa [Nat.add_sub_cancel' above, Char.ofNat_toNat] at found

theorem areDigits_toDigits (n : Nat) : AreDigits (Nat.toDigits 10 n) :=
  ⟨Nat.toDigits_ne_nil, fun _ hc => Nat.isDigit_of_mem_toDigits (by decide) (by decide) hc⟩

theorem baseDigit?_of_isDigit {c : Char} (h : c.isDigit = true) : baseDigit? c = some (c.toNat - 48) := by
  rw [baseDigit?, if_pos h]

theorem digitsValue_append (base : Nat) (cs ds : List Char) :
    digitsValue base (cs ++ ds) = digitsValue base cs * base ^ ds.length + digitsValue base ds := by
  have behind (n : Nat) : ds.foldl (fun n c => n * base + (baseDigit? c).getD 0) n =
      n * base ^ ds.length + digitsValue base ds := by
    induction ds generalizing n with
    | nil => simp [digitsValue]
    | cons d ds ih =>
      rw [digitsValue, List.foldl_cons, List.foldl_cons, ih, ih, List.length_cons, Nat.pow_succ]
      ring
  rw [digitsValue, List.foldl_append, behind]
  rfl

theorem digitsValue_cons (base : Nat) (c : Char) (cs : List Char) :
    digitsValue base (c :: cs) = (baseDigit? c).getD 0 * base ^ cs.length + digitsValue base cs := by
  rw [← List.singleton_append, digitsValue_append]
  simp [digitsValue]

/-- Decimal digits have the value that the library gives them. -/
theorem digitsValue_eq_ofDigitChars {cs : List Char} (digits : ∀ c ∈ cs, c.isDigit = true) :
    digitsValue 10 cs = Nat.ofDigitChars 10 cs 0 := by
  rw [Nat.ofDigitChars_eq_foldl, digitsValue]
  suffices same : ∀ n, cs.foldl (fun n c => n * 10 + (baseDigit? c).getD 0) n =
      cs.foldl (fun n c => 10 * n + (c.toNat - '0'.toNat)) n from same 0
  induction cs with
  | nil => exact fun _ => rfl
  | cons c cs ih =>
    intro n
    obtain ⟨digit, digits⟩ := List.forall_mem_cons.1 digits
    rw [List.foldl_cons, List.foldl_cons, ih digits, baseDigit?_of_isDigit digit, Nat.mul_comm]
    rfl

/-- The decimal digits of a number are read as the number. -/
theorem digitsValue_toDigits (n : Nat) : digitsValue 10 (Nat.toDigits 10 n) = n := by
  rw [digitsValue_eq_ofDigitChars (areDigits_toDigits n).2, Nat.ofDigitChars_toDigits (by decide) (by decide)]

theorem digitsValue_replicate_zero (base k : Nat) : digitsValue base (List.replicate k '0') = 0 := by
  induction k with
  | zero => rfl
  | succ k ih =>
    have zero : baseDigit? '0' = some 0 := rfl
    rw [List.replicate_succ, digitsValue_cons, ih, zero, Option.getD_some, Nat.zero_mul]

/-! ### Plain spelling -/

/-- The characters that numerals are written with. -/
def IsNumeralChar (c : Char) : Prop := c.isDigit = true ∨ c ∈ ['+', '-', '.', 'e', 'E']

instance : DecidablePred IsNumeralChar := fun c =>
  inferInstanceAs (Decidable (c.isDigit = true ∨ c ∈ ['+', '-', '.', 'e', 'E']))

theorem IsNumeralChar.low {c : Char} (h : IsNumeralChar c) : c.toNat < 128 := by
  rcases h with digit | mark
  · have := toNat_of_isDigit digit
    omega
  · exact forall_mem_of_all (P := fun c => c.toNat < 128) (by decide) c mark

theorem IsNumeralChar.plain {c : Char} (h : IsNumeralChar c) :
    plainNumeralChar c = c ∧ isNumeralBlank c = false ∧ c ≠ '_' :=
  forall_ascii (P := fun c => IsNumeralChar c →
    plainNumeralChar c = c ∧ isNumeralBlank c = false ∧ c ≠ '_') (by decide +kernel) c h.low h

theorem dropWhile_eq_self {p : Char → Bool} {cs : List Char} (h : ∀ c ∈ cs, p c = false) :
    cs.dropWhile p = cs := by
  cases cs with
  | nil => rfl
  | cons c cs => rw [List.dropWhile_cons, h c List.mem_cons_self, if_neg Bool.false_ne_true]

theorem trimWith_eq_self {p : Char → Bool} {cs : List Char} (h : ∀ c ∈ cs, p c = false) :
    trimWith p cs = cs := by
  rw [trimWith, dropWhile_eq_self h, trimEnd, dropWhile_eq_self fun c hc => h c (List.mem_reverse.1 hc),
    List.reverse_reverse]

theorem plainNumeral_eq_self {cs : List Char} (h : ∀ c ∈ cs, IsNumeralChar c) : plainNumeral cs = cs := by
  have same : cs.map plainNumeralChar = cs := by
    conv_rhs => rw [← List.map_id cs]
    exact List.map_congr_left fun c hc => (h c hc).plain.1
  rw [plainNumeral, same, trimWith_eq_self fun c hc => (h c hc).plain.2.1]

/-- The sign before a numeral. -/
def signText (negative : Bool) : List Char := if negative then ['-'] else []

theorem isNumeralChar_of_signed (negative : Bool) {cs : List Char} (h : ∀ c ∈ cs, IsNumeralChar c) :
    ∀ c ∈ signText negative ++ cs, IsNumeralChar c := by
  cases negative with
  | true => exact List.forall_mem_cons.2 ⟨by decide, h⟩
  | false => exact h

/-- The sign is told apart from what begins with a digit. -/
theorem splitSign_signText (negative : Bool) {c : Char} (digit : c.isDigit = true) (cs : List Char) :
    splitSign (signText negative ++ c :: cs) = (negative, c :: cs) := by
  cases negative with
  | true => rfl
  | false =>
    rw [signText, if_neg Bool.false_ne_true, List.nil_append, splitSign]
    · rintro _ ⟨⟩
      cases digit
    · rintro _ ⟨⟩
      cases digit

/-! ### Whole numbers -/

theorem dropBaseMark_ten (cs : List Char) : dropBaseMark 10 cs = cs := by
  have none_marks (c : Char) : isBaseMark 10 c = false := by simp [isBaseMark]
  unfold dropBaseMark
  split
  · rw [none_marks, if_neg Bool.false_ne_true]
  · rw [none_marks, if_neg Bool.false_ne_true]
  · rfl

theorem isBaseDigit_ten {c : Char} (h : c.isDigit = true) : isBaseDigit 10 c = true := by
  have := toNat_of_isDigit h
  rw [isBaseDigit, baseDigit?_of_isDigit h, Option.any_some, decide_eq_true_eq]
  omega

theorem ne_of_isDigit {c d : Char} (digit : c.isDigit = true) (other : d.isDigit = false) : c ≠ d := by
  rintro rfl
  rw [digit] at other
  cases other

theorem underscoresSeparate_of_digits {cs : List Char} (h : ∀ c ∈ cs, c.isDigit = true) :
    underscoresSeparate cs = true := by
  induction cs with
  | nil => rfl
  | cons c cs ih =>
    obtain ⟨digit, digits⟩ := List.forall_mem_cons.1 h
    have other : c ≠ '_' := ne_of_isDigit digit (by decide)
    rw [underscoresSeparate]
    · exact ih digits
    · exact fun same _ => other same
    · exact fun _ same _ => other same

theorem readDigits_ten {cs : List Char} (h : AreDigits cs) (short : cs.length ≤ maxDigits) :
    readDigits 10 cs = .ok (digitsValue 10 cs) := by
  obtain ⟨c, rest, rfl⟩ := List.exists_cons_of_ne_nil h.1
  have run : (c :: rest).takeWhile (fun c => isBaseDigit 10 c || c = '_') = c :: rest := by
    refine List.takeWhile_eq_self_iff.2 fun d hd => ?_
    rw [isBaseDigit_ten (h.2 d hd), Bool.true_or]
  have digits : (c :: rest).filter (· ≠ '_') = c :: rest := by
    refine List.filter_eq_self.2 fun d hd => decide_eq_true ?_
    exact ne_of_isDigit (h.2 d hd) (by decide)
  have other : c ≠ '_' := ne_of_isDigit (h.2 c List.mem_cons_self) (by decide)
  have fits : ¬ maxDigits < rest.length + 1 := Nat.not_lt.2 short
  rw [readDigits, run, digits, underscoresSeparate_of_digits h.2]
  simp [other, fits]

/-- A sign and few enough digits are read as a whole number. -/
theorem readInteger_digits (negative : Bool) (cs : List Char) (h : AreDigits cs)
    (short : cs.length ≤ maxDigits) (shown : String) :
    readInteger 10 (signText negative ++ cs) shown =
      .ok (if negative then -(digitsValue 10 cs : Int) else digitsValue 10 cs) := by
  have plain : plainNumeral (signText negative ++ cs) = signText negative ++ cs :=
    plainNumeral_eq_self (isNumeralChar_of_signed negative fun c hc => .inl (h.2 c hc))
  have split : splitSign (signText negative ++ cs) = (negative, cs) := by
    obtain ⟨c, rest, rfl⟩ := List.exists_cons_of_ne_nil h.1
    exact splitSign_signText negative (h.2 c List.mem_cons_self) rest
  rw [readInteger, plain, split]
  dsimp only
  rw [dropBaseMark_ten, readDigits_ten h short]

theorem toList_toString (n : Int) :
    (toString n).toList = signText (decide (n < 0)) ++ Nat.toDigits 10 n.natAbs := by
  cases n with
  | ofNat n => exact String.toList_ofList
  | negSucc n =>
    have text : toString (Int.negSucc n) = "-" ++ toString (n + 1) := rfl
    have mark : "-".toList = ['-'] := by decide
    have sign : decide (Int.negSucc n < 0) = true := decide_eq_true (Int.negSucc_lt_zero n)
    rw [text, String.toList_append, mark, sign, Nat.toString_eq_ofList_toDigits, String.toList_ofList]
    rfl

theorem length_toDigits_le {n k : Nat} (few : n < Nat.pow 10 k) (pos : 0 < k) :
    (Nat.toDigits 10 n).length ≤ k := (Nat.length_toDigits_le_iff (by decide) pos).2 few

theorem isNumeralChar_toString (n : Int) : ∀ c ∈ (toString n).toList, IsNumeralChar c := by
  rw [toList_toString]
  exact isNumeralChar_of_signed _ fun c hc => .inl ((areDigits_toDigits _).2 c hc)

/-- An integer is told by its decimal form. -/
theorem toList_toString_inj {m n : Int} (same : (toString m).toList = (toString n).toList) : m = n := by
  have parts (n : Int) : splitSign (toString n).toList = (decide (n < 0), Nat.toDigits 10 n.natAbs) := by
    obtain ⟨ne, digits⟩ := areDigits_toDigits n.natAbs
    obtain ⟨c, rest, found⟩ := List.exists_cons_of_ne_nil ne
    rw [toList_toString, found]
    exact splitSign_signText _ (digits c (found ▸ .head _)) rest
  obtain ⟨signs, digits⟩ := Prod.mk.inj ((parts m).symm.trans (same ▸ parts n))
  have sizes : m.natAbs = n.natAbs := by
    rw [← digitsValue_toDigits m.natAbs, digits, digitsValue_toDigits]
  have signs : m < 0 ↔ n < 0 := decide_eq_decide.1 signs
  omega

theorem eq_of_writeInteger {n : Int} {t : String} (written : writeInteger n = .ok t) : t = toString n := by
  rw [writeInteger] at written
  split at written
  · cases written
    rfl
  · cases written

/-- An integer is read back from its decimal form. -/
theorem readInteger_of_writeInteger {n : Int} {s : String} (written : writeInteger n = .ok s) (shown : String) :
    readInteger 10 s.toList shown = .ok n := by
  rw [writeInteger] at written
  split at written
  · next few =>
    cases written
    have short := length_toDigits_le few (by decide)
    rw [toList_toString, readInteger_digits _ _ (areDigits_toDigits _) short, digitsValue_toDigits]
    have signed : (if decide (n < 0) then -(n.natAbs : Int) else n.natAbs) = n := by
      simp only [decide_eq_true_eq]
      split <;> omega
    rw [signed]
  · cases written

end TunnelSettings
