import TunnelSettings.Proofs.Numerals
import TunnelSettings.Proofs.Shortest

/-!
Decimal numerals. A binary number is written as digits with a point or an exponent, and what is written is
read as the number, whatever the layout.
-/
namespace TunnelSettings

open Text

/-- The parts of a decimal numeral without its sign: the digits before and behind the point, and whether
the exponent is negative and its digits. -/
structure Spelling where
  whole : List Char
  fraction : List Char
  exponent : Option (Bool × List Char)

namespace Spelling

def fractionText (s : Spelling) : List Char := if s.fraction = [] then [] else '.' :: s.fraction

def exponentText (s : Spelling) : List Char :=
  match s.exponent with
  | none => []
  | some (negative, digits) => 'e' :: (if negative then '-' else '+') :: digits

def text (s : Spelling) : List Char := s.whole ++ s.fractionText ++ s.exponentText

/-- The number that all digits write together. -/
def digits (s : Spelling) : Nat := digitsValue 10 (s.whole ++ s.fraction)

/-- The decimal place of the last digit. -/
def place (s : Spelling) : Int :=
  (match s.exponent with
    | none => 0
    | some (negative, digits) => if negative then -(digitsValue 10 digits : Int) else digitsValue 10 digits) -
  s.fraction.length

/-- Numerals as they are written: with digits only, no zeros before others, and a fraction or an exponent. -/
structure Proper (s : Spelling) : Prop where
  whole : AreDigits s.whole
  plain : s.whole = ['0'] ∨ s.whole.head? ≠ some '0'
  fraction : ∀ c ∈ s.fraction, c.isDigit = true
  exponent : ∀ p ∈ s.exponent, AreDigits p.2
  decimal : s.fraction ≠ [] ∨ s.exponent ≠ none

variable {s : Spelling}

/-! ### Reading -/

theorem takeWhile_digits {cs ds : List Char} (digits : ∀ c ∈ cs, c.isDigit = true)
    (ends : ∀ c ∈ ds.head?, c.isDigit = false) : (cs ++ ds).takeWhile Char.isDigit = cs := by
  rw [List.takeWhile_append_of_pos digits]
  cases ds with
  | nil => simp
  | cons d ds => rw [List.takeWhile_cons, ends d rfl, if_neg Bool.false_ne_true, List.append_nil]

theorem dropWhile_digits {cs ds : List Char} (digits : ∀ c ∈ cs, c.isDigit = true)
    (ends : ∀ c ∈ ds.head?, c.isDigit = false) : (cs ++ ds).dropWhile Char.isDigit = ds := by
  rw [List.dropWhile_append_of_pos digits]
  cases ds with
  | nil => rfl
  | cons d ds => rw [List.dropWhile_cons, ends d rfl, if_neg Bool.false_ne_true]

theorem exponentText_shape (s : Spelling) : s.exponentText = [] ∨ ∃ cs, s.exponentText = 'e' :: cs := by
  rw [exponentText]
  split
  · exact .inl rfl
  · exact .inr ⟨_, rfl⟩

theorem exponentText_ends (s : Spelling) : ∀ c ∈ s.exponentText.head?, c.isDigit = false := by
  rcases s.exponentText_shape with shape | ⟨cs, shape⟩ <;> rw [shape]
  · nofun
  · rintro _ ⟨⟩
    rfl

theorem fractionText_ends (s : Spelling) :
    ∀ c ∈ (s.fractionText ++ s.exponentText).head?, c.isDigit = false := by
  rw [fractionText]
  split
  · exact s.exponentText_ends
  · rintro _ ⟨⟩
    rfl

theorem exponent_value {negative : Bool} {digits : List Char} (given : s.exponent = some (negative, digits)) :
    s.place + s.fraction.length =
      if negative then -(digitsValue 10 digits : Int) else digitsValue 10 digits := by
  rw [place, given]
  exact Int.sub_add_cancel ..

theorem readExponent_exponentText (proper : s.Proper) :
    readExponent s.exponentText = some (s.place + s.fraction.length) := by
  cases given : s.exponent with
  | none => simp [exponentText, given, readExponent, place]
  | some p =>
    obtain ⟨negative, digits⟩ := p
    obtain ⟨some_digits, all_digits⟩ := proper.exponent _ given
    have split : splitSign ((if negative then '-' else '+') :: digits) = (negative, digits) := by
      cases negative <;> rfl
    have fits : (('e' = 'e' || 'e' = 'E') && !digits.isEmpty && digits.all Char.isDigit) = true := by
      simpa [some_digits] using all_digits
    rw [exponentText, given, readExponent, split, exponent_value given]
    exact if_pos fits

theorem whole_takeWhile (proper : s.Proper) : s.text.takeWhile Char.isDigit = s.whole := by
  rw [text, List.append_assoc, takeWhile_digits proper.whole.2 s.fractionText_ends]

theorem readUnsigned_text (proper : s.Proper) : readUnsigned s.text = some (s.digits, s.place) := by
  have whole := whole_takeWhile proper
  have rest : s.text.drop s.whole.length = s.fractionText ++ s.exponentText := by
    rw [text, List.append_assoc, List.drop_left]
  have behind := readExponent_exponentText proper
  have some_digits : s.whole.isEmpty = false := by simpa using proper.whole.1
  rw [readUnsigned, whole, rest, fractionText]
  by_cases fraction : s.fraction = []
  · rw [if_pos fraction, List.nil_append]
    rcases s.exponentText_shape with shape | ⟨cs, shape⟩
    all_goals
      rw [shape] at behind ⊢
      simp [some_digits, behind, digits, fraction]
  · have taken := takeWhile_digits proper.fraction s.exponentText_ends
    have left := dropWhile_digits proper.fraction s.exponentText_ends
    rw [if_neg fraction, List.cons_append]
    simp [some_digits, behind, digits, taken, left]

theorem isNumeralChar_of_mem_text (proper : s.Proper) : ∀ c ∈ s.text, IsNumeralChar c := by
  intro c hc
  rw [text, List.mem_append, List.mem_append, fractionText, exponentText] at hc
  rcases hc with (whole | fraction) | exponent
  · exact .inl (proper.whole.2 c whole)
  · split at fraction
    · cases fraction
    rcases List.mem_cons.1 fraction with rfl | digit
    · decide
    · exact .inl (proper.fraction c digit)
  · split at exponent
    · cases exponent
    next negative digits given =>
    rcases List.mem_cons.1 exponent with rfl | exponent
    · decide
    rcases List.mem_cons.1 exponent with rfl | digit
    · cases negative <;> decide
    · exact .inl ((proper.exponent _ given).2 c digit)

theorem underscoresBetweenDigits_of_plain {cs : List Char} (plain : ∀ c ∈ cs, c ≠ '_') {before : Option Char}
    (first : before ≠ some '_') : underscoresBetweenDigits before cs = true := by
  induction cs generalizing before with
  | nil => simpa [underscoresBetweenDigits] using first
  | cons c cs ih =>
    obtain ⟨other, rest⟩ := List.forall_mem_cons.1 plain
    rw [underscoresBetweenDigits, if_neg other, ih rest (by simpa using other)]
    simp [first]

theorem exists_first (proper : s.Proper) : ∃ c cs, c.isDigit = true ∧ s.text = c :: cs := by
  obtain ⟨c, cs, whole⟩ := List.exists_cons_of_ne_nil proper.whole.1
  refine ⟨c, cs ++ s.fractionText ++ s.exponentText, ?_, ?_⟩
  · exact proper.whole.2 c (whole ▸ List.mem_cons_self)
  · rw [text, whole]
    rfl

/-- A numeral does not begin like the name of a number that is not finite. -/
theorem ne_name (proper : s.Proper) (name : String) (letter : Char) (first : name.toList.head? = some letter)
    (other : ∀ n < 10, (Char.ofNat (48 + n)).toLower ≠ letter) :
    String.ofList (s.text.map Char.toLower) ≠ name := by
  obtain ⟨c, cs, digit, text⟩ := exists_first proper
  rintro rfl
  rw [String.toList_ofList, text] at first
  cases first
  exact forall_digit (P := fun d => d.toLower ≠ c.toLower) other c digit rfl

/-- A numeral with a sign is read as the number nearest to it. -/
theorem readDecimal_text (proper : s.Proper) (negative : Bool) (shown : String) :
    readDecimal (signText negative ++ s.text) shown = .ok (.ofDecimal negative s.digits s.place) := by
  have chars := isNumeralChar_of_signed negative (isNumeralChar_of_mem_text proper)
  have plain := plainNumeral_eq_self chars
  have no_underscores : underscoresBetweenDigits none (signText negative ++ s.text) = true :=
    underscoresBetweenDigits_of_plain (fun c hc => (chars c hc).plain.2.2) nofun
  have kept : (signText negative ++ s.text).filter (· ≠ '_') = signText negative ++ s.text :=
    List.filter_eq_self.2 fun c hc => decide_eq_true (chars c hc).plain.2.2
  have split : splitSign (signText negative ++ s.text) = (negative, s.text) := by
    obtain ⟨c, cs, digit, text⟩ := exists_first proper
    rw [text]
    exact splitSign_signText negative digit cs
  have inf := ne_name proper "inf" 'i' (by decide) (by decide)
  have infinity := ne_name proper "infinity" 'i' (by decide) (by decide)
  have nan := ne_name proper "nan" 'n' (by decide) (by decide)
  rw [readDecimal, plain, no_underscores, kept, readPlainDecimal, split]
  simp [inf, infinity, nan, readUnsigned_text proper]

end Spelling

/-! ### Writing -/

theorem head?_toDigits {n : Nat} (pos : 0 < n) : (Nat.toDigits 10 n).head? ≠ some '0' := by
  induction n using Nat.strong_induction_on with
  | h n ih =>
    by_cases one : n < 10
    · rw [Nat.toDigits_of_lt_base one, List.head?_cons, ne_eq, Option.some.injEq, Nat.digitChar_eq_zero]
      exact pos.ne'
    · rw [Nat.toDigits_of_base_le (by decide) (Nat.le_of_not_lt one),
        List.head?_append_of_ne_nil _ Nat.toDigits_ne_nil]
      exact ih (n / 10) (by omega) (by omega)

/-- Zeros before digits. -/
def padded (k : Nat) (cs : List Char) : List Char := List.replicate k '0' ++ cs

theorem areDigits_padded (k : Nat) {cs : List Char} (h : AreDigits cs) : AreDigits (padded k cs) := by
  refine ⟨List.append_ne_nil_of_right_ne_nil _ h.1, fun c hc => ?_⟩
  rcases List.mem_append.1 hc with zero | digit
  · rw [List.eq_of_mem_replicate zero]
    rfl
  · exact h.2 c digit

theorem digitsValue_padded (k : Nat) (cs : List Char) : digitsValue 10 (padded k cs) = digitsValue 10 cs := by
  rw [padded, digitsValue_append, digitsValue_replicate_zero, Nat.zero_mul, Nat.zero_add]

/-- The digits of an exponent; there are at least two. -/
def exponentDigits (e : Int) : List Char :=
  padded (2 - (toString e.natAbs).length) (Nat.toDigits 10 e.natAbs)

theorem toList_exponentText (e : Int) :
    (exponentText e).toList = 'e' :: (if decide (e < 0) then '-' else '+') :: exponentDigits e := by
  have marks : "e-".toList = ['e', '-'] ∧ "e+".toList = ['e', '+'] := by decide
  rw [exponentText, zeros, String.toList_append, String.toList_append, String.toList_ofList]
  by_cases negative : e < 0 <;>
    simp [negative, marks, exponentDigits, padded]

theorem signed_exponentDigits (e : Int) :
    (if decide (e < 0) then -(digitsValue 10 (exponentDigits e) : Int)
      else digitsValue 10 (exponentDigits e)) = e := by
  rw [exponentDigits, digitsValue_padded, digitsValue_toDigits]
  by_cases negative : e < 0
  · rw [decide_eq_true negative, if_pos rfl]
    omega
  · rw [decide_eq_false negative, if_neg Bool.false_ne_true]
    omega

/-- The digits of a number without zeros before others. -/
structure Leading (ds : List Char) (n : Nat) : Prop where
  digits : AreDigits ds
  value : digitsValue 10 ds = n
  plain : ds = ['0'] ∨ ds.head? ≠ some '0'

theorem leading_toDigits (n : Nat) : Leading (Nat.toDigits 10 n) n := by
  refine ⟨areDigits_toDigits n, digitsValue_toDigits n, ?_⟩
  rcases n.eq_zero_or_pos with rfl | pos
  · exact .inl rfl
  · exact .inr (head?_toDigits pos)

/-- A numeral as it is written for `n · 10 ^ place`. -/
structure Spelling.Writes (s : Spelling) (n : Nat) (place : Int) : Prop where
  proper : s.Proper
  value : (s.digits * 10 ^ s.place : ℚ) = n * 10 ^ place

namespace Leading

variable {ds : List Char} {n : Nat}

theorem length_pos (h : Leading ds n) : 0 < ds.length := List.length_pos_iff.2 h.digits.1

/-- One digit before the point, and an exponent. -/
def scientific (ds : List Char) (e : Int) : Spelling :=
  ⟨ds.take 1, ds.drop 1, some (decide (e < 0), exponentDigits e)⟩

theorem writes_scientific (h : Leading ds n) (place : Int) :
    (scientific ds (ds.length + place - 1)).Writes n place := by
  have some_digits := h.length_pos
  refine ⟨⟨⟨?_, fun c hc => h.digits.2 c (List.mem_of_mem_take hc)⟩, ?_,
    fun c hc => h.digits.2 c (List.mem_of_mem_drop hc), ?_, .inr nofun⟩, ?_⟩
  · simpa [scientific] using h.digits.1
  · obtain ⟨c, cs, rfl⟩ := List.exists_cons_of_ne_nil h.digits.1
    by_cases zero : c = '0'
    · exact .inl (by rw [zero]; rfl)
    · exact .inr (by simpa [scientific] using zero)
  · rintro _ ⟨⟩
    exact areDigits_padded _ (areDigits_toDigits _)
  · have same : (scientific ds (ds.length + place - 1)).place = place := by
      rw [Spelling.place, scientific]
      dsimp only
      rw [signed_exponentDigits, List.length_drop]
      omega
    rw [same, Spelling.digits, scientific, List.take_append_drop, h.value]

/-- No digits but zeros before the point and right behind it. -/
def belowOne (ds : List Char) (k : Nat) : Spelling := ⟨['0'], padded k ds, none⟩

theorem writes_belowOne (h : Leading ds n) (k : Nat) :
    (belowOne ds k).Writes n (-(k + ds.length : Nat)) := by
  have fraction := areDigits_padded k h.digits
  refine ⟨⟨⟨nofun, List.forall_mem_singleton.2 rfl⟩, .inl rfl, fraction.2, nofun, .inl fraction.1⟩, ?_⟩
  have digits : (belowOne ds k).digits = n := by
    rw [Spelling.digits, belowOne, digitsValue_append, digitsValue_padded, h.value]
    exact Nat.add_eq_right.2 (Nat.zero_mul _)
  have place : (belowOne ds k).place = -(k + ds.length : Nat) := by
    simp [Spelling.place, belowOne, padded]
  rw [digits, place]

/-- No digits but a zero behind the point. -/
def whole (ds : List Char) (k : Nat) : Spelling := ⟨ds ++ List.replicate k '0', ['0'], none⟩

theorem writes_whole (h : Leading ds n) (k : Nat) (plain : n = 0 → k = 0) : (whole ds k).Writes n k := by
  refine ⟨⟨⟨List.append_ne_nil_of_left_ne_nil h.digits.1 _, fun c hc => ?_⟩, ?_, List.forall_mem_singleton.2 rfl, nofun,
    .inl nofun⟩, ?_⟩
  · rcases List.mem_append.1 hc with digit | zero
    · exact h.digits.2 c digit
    · rw [List.eq_of_mem_replicate zero]
      rfl
  · rcases h.plain with zero | other
    · have none_behind : k = 0 := plain (h.value ▸ zero ▸ rfl)
      exact .inl (by simp [whole, zero, none_behind])
    · exact .inr (by rwa [whole, List.head?_append_of_ne_nil _ h.digits.1])
  · have digits : (whole ds k).digits = n * 10 ^ (k + 1) := by
      rw [Spelling.digits, whole, List.append_assoc, digitsValue_append, h.value, ← List.replicate_succ',
        digitsValue_replicate_zero, List.length_replicate, Nat.add_zero]
    have place : (whole ds k).place = -1 := rfl
    rw [digits, place, zpow_natCast]
    push_cast
    rw [zpow_neg_one]
    field_simp
    ring

/-- The point among the digits. -/
def among (ds : List Char) (k : Nat) : Spelling := ⟨ds.take k, ds.drop k, none⟩

theorem writes_among (h : Leading ds n) (k : Nat) (before : 0 < k) (behind : k < ds.length) :
    (among ds k).Writes n (k - ds.length) := by
  refine ⟨⟨⟨?_, fun c hc => h.digits.2 c (List.mem_of_mem_take hc)⟩, ?_,
    fun c hc => h.digits.2 c (List.mem_of_mem_drop hc), nofun, .inl ?_⟩, ?_⟩
  · simpa [among] using ⟨before.ne', h.digits.1⟩
  · rcases h.plain with zero | other
    · rw [zero, List.length_singleton] at behind
      omega
    · refine .inr ?_
      rwa [among, List.head?_take, if_neg before.ne']
  · simpa [among] using behind
  · have place : (among ds k).place = k - ds.length := by
      rw [Spelling.place, among, List.length_drop]
      dsimp only
      omega
    rw [place, Spelling.digits, among, List.take_append_drop, h.value]

end Leading

/-- The text of a decimal is a numeral for it. -/
theorem DecimalLayout.exists_spelling (layout : DecimalLayout) (n : Nat) (place : Int) (plain : n = 0 → place = 0) :
    ∃ s : Spelling, (layout.magnitude n place).toList = s.text ∧ s.Writes n place := by
  have text : (toString n).toList = Nat.toDigits 10 n := by
    rw [Nat.toString_eq_ofList_toDigits, String.toList_ofList]
  have leading := leading_toDigits n
  rw [magnitude]
  simp only [text]
  generalize Nat.toDigits 10 n = ds at *
  have some_digits := leading.length_pos
  split
  · refine ⟨_, ?_, leading.writes_scientific place⟩
    rw [String.toList_append, String.toList_append, toList_exponentText, String.toList_ofList, Spelling.text]
    have tail : (if ds.length = 1 then "" else "." ++ String.ofList (ds.drop 1)).toList =
        if ds.drop 1 = [] then [] else '.' :: ds.drop 1 := by
      by_cases one : ds.length = 1
      · rw [if_pos one, if_pos (by rw [List.drop_eq_nil_iff]; omega)]
        rfl
      · rw [if_neg one, if_neg (by rw [List.drop_eq_nil_iff]; omega)]
        simp
    rw [tail]
    rfl
  split
  · next small =>
    have writes := leading.writes_belowOne (-(ds.length + place)).toNat
    refine ⟨_, ?_, (by omega : -(((-(ds.length + place)).toNat + ds.length : Nat) : Int) = place) ▸ writes⟩
    have fraction : padded (-(ds.length + place)).toNat ds ≠ [] := (areDigits_padded _ leading.digits).1
    rw [Spelling.text, Spelling.fractionText, Leading.belowOne, if_neg fraction]
    simp [Spelling.exponentText, zeros, padded]
  split
  · next large =>
    have writes := leading.writes_whole (ds.length + place - ds.length).toNat fun zero => by
      rw [plain zero]
      omega
    refine ⟨_, ?_, (by omega : (((ds.length + place - ds.length).toNat : Nat) : Int) = place) ▸ writes⟩
    simp [Leading.whole, Spelling.text, Spelling.fractionText, Spelling.exponentText, zeros]
  · next small among =>
    have writes := leading.writes_among (ds.length + place).toNat (by omega) (by omega)
    refine ⟨_, ?_, (by omega : (((ds.length + place).toNat : Nat) : Int) - ds.length = place) ▸ writes⟩
    have fraction : ds.drop (ds.length + place).toNat ≠ [] := by
      rw [ne_eq, List.drop_eq_nil_iff]
      omega
    simp [Leading.among, Spelling.text, Spelling.fractionText, Spelling.exponentText, fraction]

namespace Binary64

theorem ofDecimal_zero (negative : Bool) {n : Nat} {place : Int} (zero : (n * 10 ^ place : ℚ) = 0) :
    ofDecimal negative n place = .zero negative := by
  have zero : n = 0 := by
    have step : (10 : ℚ) ^ place ≠ 0 := (zpow_pos (by norm_num) place).ne'
    exact_mod_cast (mul_eq_zero.1 zero).resolve_right step
  rw [ofDecimal, zero]
  rfl

/-- The text of a finite number is a sign and a numeral that is read as the number. -/
theorem exists_spelling (layout : DecimalLayout) (negative : Bool) {m : Nat} {e : Int}
    (canonical : Canonical m e) :
    ∃ s : Spelling, s.Proper ∧
      ((finite negative m e canonical).write layout).toList = signText negative ++ s.text ∧
      ofDecimal negative s.digits s.place = .finite negative m e canonical := by
  have sign : (if negative then "-" else "").toList = signText negative := by
    cases negative <;> decide
  rw [write]
  by_cases zero : m = 0
  · obtain ⟨s, text, writes⟩ := layout.exists_spelling 0 0 fun _ => rfl
    refine ⟨s, writes.proper, ?_, ?_⟩
    · rw [if_pos zero, String.toList_append, sign, text]
    · rw [ofDecimal_zero negative (writes.value.trans (by simp)), Binary64.zero]
      have least : e = -1074 := canonical.2.2.2.resolve_left (by rw [zero]; decide)
      subst zero least
      rfl
  · have pos := Nat.pos_of_ne_zero zero
    have rounds := roundsTo_shortest pos canonical
    obtain ⟨s, text, writes⟩ := layout.exists_spelling (shortest m e).1 (shortest m e).2 fun none => by
      have := rounds.pos pos
      rw [none, Nat.cast_zero, zero_mul] at this
      exact absurd this (lt_irrefl 0)
    refine ⟨s, writes.proper, ?_, ?_⟩
    · rw [if_neg zero, String.toList_append, sign, text]
    · exact ofDecimal_eq negative canonical pos (writes.value ▸ rounds)

/-- The text of a finite number is read as the number. -/
theorem readDecimal_write (layout : DecimalLayout) (negative : Bool) {m : Nat} {e : Int}
    (canonical : Canonical m e) (shown : String) :
    readDecimal ((finite negative m e canonical).write layout).toList shown =
      .ok (finite negative m e canonical) := by
  obtain ⟨s, proper, text, same⟩ := exists_spelling layout negative canonical
  rw [text, Spelling.readDecimal_text proper, same]

end Binary64
end TunnelSettings
