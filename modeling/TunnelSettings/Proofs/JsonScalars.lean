import TunnelSettings.Json.Reader
import TunnelSettings.Proofs.Decimals

/-!
Numbers and words in JSON. A numeral is told apart from the words, read up to its end, and turned into an
integer if it has neither a fraction nor an exponent.
-/
namespace TunnelSettings.Json

/-- Characters behind a numeral that are no part of it. -/
def Ends (rest : List Char) : Prop := ∀ c ∈ rest.head?, ¬ IsNumeralChar c

theorem ends_nil : Ends [] := fun _ hc => by cases hc

theorem ends_cons {c : Char} {rest : List Char} (h : ¬ IsNumeralChar c) : Ends (c :: rest) := by
  rintro _ ⟨⟩
  exact h

theorem Ends.isDigit_eq_false {rest : List Char} (h : Ends rest) : ∀ c ∈ rest.head?, c.isDigit = false :=
  fun c hc => Bool.eq_false_iff.2 fun digit => h c hc (.inl digit)

/-! ### The parts of a numeral -/

theorem wholeDigits_append {whole rest : List Char} (digits : AreDigits whole)
    (plain : whole = ['0'] ∨ whole.head? ≠ some '0') (ends : ∀ c ∈ rest.head?, c.isDigit = false) :
    wholeDigits (whole ++ rest) = whole := by
  obtain ⟨c, cs, rfl⟩ := List.exists_cons_of_ne_nil digits.1
  by_cases zero : c = '0'
  · subst zero
    have alone : cs = [] := by simpa using plain
    rw [alone]
    rfl
  · rw [List.cons_append, wholeDigits, ← List.cons_append]
    · exact Spelling.takeWhile_digits digits.2 ends
    · rintro _ ⟨⟩
      exact zero rfl

variable {s : Spelling} {rest : List Char}

theorem fractionPart_append (fraction : ∀ c ∈ s.fraction, c.isDigit = true)
    (ends : ∀ c ∈ rest.head?, c.isDigit = false ∧ c ≠ '.') :
    fractionPart (s.fractionText ++ rest) = s.fractionText := by
  rw [Spelling.fractionText]
  split
  · cases rest with
    | nil => rfl
    | cons c rest =>
      rw [List.nil_append, fractionPart]
      rintro _ ⟨⟩
      exact (ends '.' rfl).2 rfl
  · next given =>
    rw [List.cons_append, fractionPart, Spelling.takeWhile_digits fraction fun c hc => (ends c hc).1,
      if_neg (by simpa using given)]

theorem exponentPart_append (exponent : ∀ p ∈ s.exponent, AreDigits p.2) (ends : Ends rest) :
    exponentPart (s.exponentText ++ rest) = s.exponentText := by
  cases given : s.exponent with
  | none =>
    rw [Spelling.exponentText, given, List.nil_append]
    cases rest with
    | nil => rfl
    | cons c rest =>
      have other : ¬ (c = 'e' || c = 'E') = true := fun mark =>
        ends c rfl (.inr (by simp at mark; rcases mark with rfl | rfl <;> decide))
      rw [exponentPart, if_neg other]
  | some p =>
    obtain ⟨negative, digits⟩ := p
    obtain ⟨some_digits, all_digits⟩ := exponent _ given
    have run := Spelling.takeWhile_digits all_digits ends.isDigit_eq_false
    have some_digits : digits.isEmpty = false := by simpa using some_digits
    rw [Spelling.exponentText, given]
    cases negative <;> simp [exponentPart, run, some_digits]

/-- Behind the digits of a numeral there is no further digit. -/
theorem tail_ends (ends : Ends rest) :
    ∀ c ∈ (s.fractionText ++ (s.exponentText ++ rest)).head?, c.isDigit = false := by
  have tail := s.fractionText_ends
  rw [← List.append_assoc]
  cases shape : s.fractionText ++ s.exponentText with
  | nil => exact ends.isDigit_eq_false
  | cons c cs =>
    rw [shape] at tail
    exact tail

theorem exponent_ends (ends : Ends rest) :
    ∀ c ∈ (s.exponentText ++ rest).head?, c.isDigit = false ∧ c ≠ '.' := by
  rcases s.exponentText_shape with shape | ⟨cs, shape⟩ <;> rw [shape]
  · exact fun c hc => ⟨ends.isDigit_eq_false c hc, fun point => ends c hc (point ▸ by decide)⟩
  · rintro _ ⟨⟩
    decide

theorem sign_of_append (negative : Bool) {c : Char} (digit : c.isDigit = true) (cs : List Char) :
    ((signText negative ++ c :: cs).take 1).filter (· = '-') = signText negative := by
  have other : c ≠ '-' := ne_of_isDigit digit (by decide)
  cases negative
  · simp [signText, other]
  · rfl

/-! ### Numerals -/

/-- The number that a whole numeral stands for. -/
def numeralValue (s : Spelling) (numeral : List Char) : Except NumberFault Value :=
  if s.fractionText.isEmpty && s.exponentText.isEmpty then .int <$> readInteger 10 numeral (.ofList numeral)
  else .float <$> readDecimal numeral (.ofList numeral)

/-- A numeral is read up to its end. -/
theorem readNumber_append (negative : Bool) (whole : AreDigits s.whole)
    (plain : s.whole = ['0'] ∨ s.whole.head? ≠ some '0') (fraction : ∀ c ∈ s.fraction, c.isDigit = true)
    (exponent : ∀ p ∈ s.exponent, AreDigits p.2) (ends : Ends rest) {v : Value}
    (stands : numeralValue s (signText negative ++ s.text) = .ok v) :
    readNumber (signText negative ++ (s.text ++ rest)) = .ok (v, rest) := by
  have sign : ((signText negative ++ (s.text ++ rest)).take 1).filter (· = '-') = signText negative := by
    obtain ⟨c, cs, first⟩ := List.exists_cons_of_ne_nil whole.1
    rw [Spelling.text, first]
    exact sign_of_append negative (whole.2 c (first ▸ List.mem_cons_self)) _
  have some_digits : s.whole.isEmpty = false := by simpa using whole.1
  have numeral : signText negative ++ s.whole ++ s.fractionText ++ s.exponentText =
      signText negative ++ s.text := by
    simp only [Spelling.text, List.append_assoc]
  have parts : s.text ++ rest = s.whole ++ (s.fractionText ++ (s.exponentText ++ rest)) := by
    simp only [Spelling.text, List.append_assoc]
  rw [readNumber]
  dsimp only
  rw [sign, List.drop_left, parts, wholeDigits_append whole plain (tail_ends ends), some_digits,
    if_neg Bool.false_ne_true, List.drop_left, fractionPart_append fraction (exponent_ends ends),
    List.drop_left, exponentPart_append exponent ends, List.drop_left, numeral]
  rw [numeralValue] at stands
  split at stands
  · next integral =>
    rw [if_pos integral]
    cases read : readInteger 10 (signText negative ++ s.text) (.ofList (signText negative ++ s.text)) with
    | error f =>
      rw [read] at stands
      cases stands
    | ok n =>
      rw [read] at stands
      cases stands
      rfl
  · next marked =>
    rw [if_neg marked]
    cases read : readDecimal (signText negative ++ s.text) (.ofList (signText negative ++ s.text)) with
    | error f =>
      rw [read] at stands
      cases stands
    | ok x =>
      rw [read] at stands
      cases stands
      rfl

theorem readNumber_decimal (negative : Bool) (proper : s.Proper) (ends : Ends rest) :
    readNumber (signText negative ++ (s.text ++ rest)) =
      .ok (.float (.ofDecimal negative s.digits s.place), rest) := by
  have marked : ¬ (s.fractionText.isEmpty && s.exponentText.isEmpty) = true := by
    rw [Bool.and_eq_true, List.isEmpty_iff, List.isEmpty_iff, not_and_or]
    rcases proper.decimal with fraction | exponent
    · exact .inl (by simpa [Spelling.fractionText] using fraction)
    · refine .inr ?_
      obtain ⟨p, given⟩ := Option.ne_none_iff_exists'.1 exponent
      rw [Spelling.exponentText, given]
      exact List.cons_ne_nil _ _
  have read : readDecimal (signText negative ++ s.text) (.ofList (signText negative ++ s.text)) =
      .ok (.ofDecimal negative s.digits s.place) := Spelling.readDecimal_text proper negative _
  refine readNumber_append negative proper.whole proper.plain proper.fraction proper.exponent ends ?_
  rw [numeralValue, if_neg marked, read]
  rfl

theorem readNumber_integer {n : Int} (short : n.natAbs < Nat.pow 10 maxDigits) (ends : Ends rest) :
    readNumber (signText (decide (n < 0)) ++ (Nat.toDigits 10 n.natAbs ++ rest)) = .ok (.int n, rest) := by
  obtain ⟨digits, -, plain⟩ := leading_toDigits n.natAbs
  have text : (⟨Nat.toDigits 10 n.natAbs, [], none⟩ : Spelling).text = Nat.toDigits 10 n.natAbs := by
    simp [Spelling.text, Spelling.fractionText, Spelling.exponentText]
  have written : writeInteger n = .ok (toString n) := if_pos short
  have back := readInteger_of_writeInteger written (.ofList (toString n).toList)
  rw [toList_toString] at back
  have stands : numeralValue ⟨Nat.toDigits 10 n.natAbs, [], none⟩
      (signText (decide (n < 0)) ++ Nat.toDigits 10 n.natAbs) = .ok (.int n) := by
    rw [numeralValue, back]
    rfl
  have read := readNumber_append (s := ⟨Nat.toDigits 10 n.natAbs, [], none⟩) (decide (n < 0)) digits plain
    (List.forall_mem_nil _) (fun p hp => by cases hp) ends (by rw [text]; exact stands)
  rwa [text] at read

/-! ### Words -/

/-- The words, character by character. -/
theorem words_eq : words.map (fun w => w.1.toList) =
    [['n', 'u', 'l', 'l'], ['t', 'r', 'u', 'e'], ['f', 'a', 'l', 's', 'e'], ['N', 'a', 'N'],
      ['I', 'n', 'f', 'i', 'n', 'i', 't', 'y'], ['-', 'I', 'n', 'f', 'i', 'n', 'i', 't', 'y']] := by decide

/-- No word begins like a numeral. -/
theorem readWord_numeral (negative : Bool) {c : Char} (digit : c.isDigit = true) (cs : List Char) :
    readWord (signText negative ++ c :: cs) = none := by
  have letters : ∀ d ∈ ['n', 't', 'f', 'N', 'I', '-'], (d == c) = false := by
    intro d letter
    rw [beq_eq_false_iff_ne]
    exact (ne_of_isDigit digit (forall_mem_of_all (P := fun d => d.isDigit = false) (by decide) d letter)).symm
  have others : ∀ w ∈ words.map (fun w => w.1.toList), w.isPrefixOf (signText negative ++ c :: cs) = false := by
    simp only [List.forall_mem_cons] at letters
    rw [words_eq]
    cases negative <;> simp [signText, List.isPrefixOf, letters]
  rw [readWord, List.find?_eq_none.2 fun w hw => ?_, Option.map_none]
  exact Bool.eq_false_iff.1 (others _ (List.mem_map_of_mem hw))

theorem readValue_numeral (fuel : Nat) (negative : Bool) {c : Char} (digit : c.isDigit = true)
    (cs : List Char) :
    readValue (fuel + 1) (signText negative ++ c :: cs) = readNumber (signText negative ++ c :: cs) := by
  have word := readWord_numeral negative digit cs
  cases negative with
  | true =>
    change readWord ('-' :: c :: cs) = none at word
    change readValue (fuel + 1) ('-' :: c :: cs) = readNumber ('-' :: c :: cs)
    rw [readValue]
    · simp only [word]
    all_goals exact fun _ same => absurd (List.cons.inj same).1 (by decide)
  | false =>
    change readWord (c :: cs) = none at word
    change readValue (fuel + 1) (c :: cs) = readNumber (c :: cs)
    rw [readValue]
    · simp only [word]
    all_goals
      rintro _ ⟨⟩
      cases digit

theorem toList_null : "null".toList = ['n', 'u', 'l', 'l'] := by decide
theorem toList_true : "true".toList = ['t', 'r', 'u', 'e'] := by decide
theorem toList_false : "false".toList = ['f', 'a', 'l', 's', 'e'] := by decide

theorem readValue_null (fuel : Nat) (rest : List Char) :
    readValue (fuel + 1) ("null".toList ++ rest) = .ok (.null, rest) := by
  rw [toList_null]
  rfl

theorem readValue_bool (fuel : Nat) (b : Bool) (rest : List Char) :
    readValue (fuel + 1) ((if b then "true".toList else "false".toList) ++ rest) = .ok (.bool b, rest) := by
  cases b
  · rw [if_neg Bool.false_ne_true, toList_false]
    rfl
  · rw [if_pos rfl, toList_true]
    rfl

end TunnelSettings.Json
