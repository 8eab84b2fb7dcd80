import TunnelSettings.Json.Reader
import TunnelSettings.Json.Writer
import TunnelSettings.Proofs.Numerals
import TunnelSettings.Proofs.Reading

/-!
Texts in JSON. What is escaped when a text is written is restored when it is read, be it a quote, a
control character or a pair of code units for a character beyond the first plane.
-/
namespace TunnelSettings.Json

open Text

/-! ### Code units -/

theorem baseDigit?_hexDigit (n : Nat) : baseDigit? (hexDigit n) = some (n % 16) := by
  have all : ∀ d < 16, baseDigit? (Nat.digitChar d) = some d := by decide
  exact all _ (Nat.mod_lt n (by decide))

theorem hexDigits_four (n : Nat) : hexDigits 4 n =
    [hexDigit (n / 4096), hexDigit (n / 256), hexDigit (n / 16), hexDigit (n / 1)] := rfl

/-- Four hexadecimal digits hold every code unit. -/
theorem hexValue?_hexDigits {n : Nat} (h : n < 0x10000) : hexValue? (hexDigits 4 n) = some n := by
  have digit (k : Nat) : isBaseDigit 16 (hexDigit k) = true := by
    rw [isBaseDigit, baseDigit?_hexDigit, Option.any_some, decide_eq_true_eq]
    exact Nat.mod_lt k (by decide)
  have value : digitsValue 16 (hexDigits 4 n) = n := by
    simp only [hexDigits_four, digitsValue, List.foldl_cons, List.foldl_nil, baseDigit?_hexDigit,
      Option.getD_some]
    omega
  rw [hexValue?, value, if_pos]
  simp [hexDigits_four, digit]

theorem not_surrogate (c : Char) : isHighSurrogate c.toNat = false := by
  have valid := c.valid
  rw [isHighSurrogate]
  simp only [Bool.and_eq_false_iff, decide_eq_false_iff_not]
  rcases valid with low | high
  · exact .inl (by have : c.toNat < 0xD800 := low; omega)
  · exact .inr (by have : 0xDFFF < c.toNat := high.1; omega)

theorem charOrReplacement_toNat (c : Char) : charOrReplacement c.toNat = c := by
  have valid : c.toNat.isValidChar := c.valid
  rw [charOrReplacement, if_pos valid, Char.ofNat_toNat]

/-- The code unit of a character in the first plane is read as the character. -/
theorem readUnit_low {c : Char} (low : c.toNat < 0x10000) (e : Char) (rest : List Char) :
    readUnit (hexDigits 4 c.toNat ++ e :: rest) = .ok (c, e :: rest) := by
  have value := hexValue?_hexDigits low
  rw [hexDigits_four] at value ⊢
  simp only [List.cons_append, List.nil_append, readUnit, value]
  rw [not_surrogate, if_neg Bool.false_ne_true, charOrReplacement_toNat]
  rfl

theorem secondHalf_hexDigits {n : Nat} (h : n < 0x10000) (e : Char) (rest : List Char) :
    secondHalf ('\\' :: 'u' :: hexDigits 4 n ++ e :: rest) = .ok (some (n, e :: rest)) := by
  have value := hexValue?_hexDigits h
  rw [hexDigits_four] at value ⊢
  simp only [List.cons_append, List.nil_append, secondHalf, value]

/-- Two code units that make up a pair are read as one character. -/
theorem readUnit_pair {hi lo : Nat} (hi_small : hi < 0x10000) (lo_small : lo < 0x10000)
    (first : isHighSurrogate hi = true) (second : isLowSurrogate lo = true) (e : Char) (rest : List Char) :
    readUnit (hexDigits 4 hi ++ (escapeUnit lo ++ e :: rest)) =
      .ok (charOrReplacement (0x10000 + (hi - 0xD800) * 0x400 + (lo - 0xDC00)), e :: rest) := by
  have value := hexValue?_hexDigits hi_small
  have half := secondHalf_hexDigits lo_small e rest
  rw [escapeUnit, List.cons_append, List.cons_append]
  rw [List.cons_append, List.cons_append] at half
  rw [hexDigits_four hi] at value ⊢
  simp only [List.cons_append, List.nil_append, readUnit, value]
  rw [if_pos first, half, ok_bind]
  dsimp only
  rw [if_pos second]
  rfl

/-- The codes beyond the first plane are told apart by their pairs of code units. -/
theorem join_pair {n : Nat} (high : 0x10000 ≤ n) :
    0x10000 + (0xD800 + (n - 0x10000) / 0x400 - 0xD800) * 0x400 +
      (0xDC00 + (n - 0x10000) % 0x400 - 0xDC00) = n := by omega

theorem toNat_lt (c : Char) : c.toNat < 0x110000 := by
  rcases c.valid with low | high
  · have : c.toNat < 0xD800 := low
    omega
  · exact high.2

/-- The pair of code units of a character beyond the first plane is read as the character. -/
theorem readUnit_high {c : Char} (high : 0x10000 ≤ c.toNat) (e : Char) (rest : List Char) :
    readUnit (hexDigits 4 (0xD800 + (c.toNat - 0x10000) / 0x400) ++
        (escapeUnit (0xDC00 + (c.toNat - 0x10000) % 0x400) ++ e :: rest)) = .ok (c, e :: rest) := by
  have least := toNat_lt c
  have hi_small : 0xD800 + (c.toNat - 0x10000) / 0x400 < 0xDC00 := by omega
  have lo_small : 0xDC00 + (c.toNat - 0x10000) % 0x400 < 0xE000 := by omega
  have first : isHighSurrogate (0xD800 + (c.toNat - 0x10000) / 0x400) = true := by
    rw [isHighSurrogate, Bool.and_eq_true, decide_eq_true_eq, decide_eq_true_eq]
    exact ⟨Nat.le_add_right _ _, hi_small⟩
  have second : isLowSurrogate (0xDC00 + (c.toNat - 0x10000) % 0x400) = true := by
    rw [isLowSurrogate, Bool.and_eq_true, decide_eq_true_eq, decide_eq_true_eq]
    exact ⟨Nat.le_add_right _ _, lo_small⟩
  rw [readUnit_pair (by omega) (by omega) first second, join_pair high, charOrReplacement_toNat]

/-! ### Texts -/

/-- One character is read from its escape. -/
theorem readText_escapeChar (start fuel : Nat) (done : List Char) (c e : Char) (rest : List Char) :
    readText start (fuel + 1) done (escapeChar c ++ e :: rest) = readText start fuel (c :: done) (e :: rest) := by
  rw [escapeChar]
  split
  · next quote => rw [quote]; rfl
  split
  · next backslash => rw [backslash]; rfl
  split
  · next feed => rw [feed]; rfl
  split
  · next carriage => rw [carriage]; rfl
  split
  · next tab => rw [tab]; rfl
  split
  · next back => rw [back]; rfl
  split
  · next form => rw [form]; rfl
  split
  · next not_quote not_backslash _ _ _ _ _ printable =>
    rw [Bool.and_eq_true, decide_eq_true_eq] at printable
    rw [List.singleton_append, readText, if_neg (by omega)]
    · exact not_quote
    · exact fun is_backslash _ => not_backslash is_backslash
    · exact fun _ is_backslash _ => not_backslash is_backslash
    · exact fun _ _ is_backslash _ => not_backslash is_backslash
  split
  · next low =>
    rw [escapeUnit, List.cons_append, List.cons_append, readText, readUnit_low low, ok_bind]
  · next high =>
    dsimp only
    rw [escapeUnit, List.cons_append, List.cons_append, List.cons_append, List.cons_append, List.append_assoc,
      readText, readUnit_high (Nat.le_of_not_lt high), ok_bind]

/-- A text is read from its escapes up to the closing quote. -/
theorem readText_escaped (start fuel : Nat) (done cs rest : List Char) (enough : cs.length < fuel) :
    readText start fuel done (cs.flatMap escapeChar ++ '"' :: rest) =
      .ok (.ofList (done.reverse ++ cs), rest) := by
  induction cs generalizing fuel done with
  | nil =>
    obtain ⟨fuel, rfl⟩ := Nat.exists_eq_add_one_of_ne_zero (Nat.ne_of_gt enough)
    rw [List.append_nil]
    rfl
  | cons c cs ih =>
    obtain ⟨fuel, rfl⟩ := Nat.exists_eq_add_one_of_ne_zero (Nat.ne_of_gt (Nat.zero_lt_of_lt enough))
    obtain ⟨e, more, follows⟩ : ∃ e more, cs.flatMap escapeChar ++ '"' :: rest = e :: more :=
      List.exists_cons_of_ne_nil (List.append_ne_nil_of_right_ne_nil _ (List.cons_ne_nil _ _))
    rw [List.flatMap_cons, List.append_assoc, follows, readText_escapeChar, ← follows,
      ih fuel (c :: done) (Nat.lt_of_succ_lt_succ enough), List.reverse_cons, List.append_assoc]
    rfl

end TunnelSettings.Json
