import Mathlib.Data.List.DropRight
import TunnelSettings.Proofs.Numerals

/-!
The grammar of integers. The reader of whole decimal numbers takes just the texts that have blanks, a sign or
none, digits with single underscores between some of them, and blanks again. Blanks and digits may be those of
any script, and there may not be more digits than are ever read.
-/
namespace TunnelSettings

open Text

/-! ### Text without the blanks around it -/

/-- What is dropped from the end is blank. -/
theorem exists_trimEnd (p : Char → Bool) (cs : List Char) :
    ∃ after, cs = trimEnd p cs ++ after ∧ ∀ c ∈ after, p c = true :=
  ⟨cs.rtakeWhile p, List.rdropWhile_append_rtakeWhile.symm, fun _ hc => List.mem_rtakeWhile_imp hc⟩

/-- What is trimmed off is blank. -/
theorem exists_trimWith (p : Char → Bool) (cs : List Char) :
    ∃ before after, cs = before ++ trimWith p cs ++ after ∧
      (∀ c ∈ before, p c = true) ∧ ∀ c ∈ after, p c = true := by
  obtain ⟨after, rest, blank_after⟩ := exists_trimEnd p (cs.dropWhile p)
  refine ⟨cs.takeWhile p, after, ?_, fun c hc => List.mem_takeWhile_imp hc, blank_after⟩
  rw [trimWith, List.append_assoc, ← rest, List.takeWhile_append_dropWhile]

theorem dropWhile_of_head {p : Char → Bool} {cs : List Char} (first : ∀ c ∈ cs.head?, p c = false) :
    cs.dropWhile p = cs := by
  cases cs with
  | nil => rfl
  | cons c cs => rw [List.dropWhile_cons, first c rfl, if_neg Bool.false_ne_true]

/-- Only the blanks around a text that neither begins nor ends with one are trimmed off. -/
theorem trimWith_append {p : Char → Bool} {before core after : List Char} (ne : core ≠ [])
    (blank_before : ∀ c ∈ before, p c = true) (blank_after : ∀ c ∈ after, p c = true)
    (first : ∀ c ∈ core.head?, p c = false) (last : ∀ c ∈ core.getLast?, p c = false) :
    trimWith p (before ++ core ++ after) = core := by
  have front : (before ++ core ++ after).dropWhile p = core ++ after := by
    rw [List.append_assoc, List.dropWhile_append_of_pos blank_before]
    obtain ⟨c, cs, rfl⟩ := List.exists_cons_of_ne_nil ne
    exact dropWhile_of_head first
  rw [trimWith, front, trimEnd, List.reverse_append,
    List.dropWhile_append_of_pos fun c hc => blank_after c (List.mem_reverse.1 hc), dropWhile_of_head,
    List.reverse_reverse]
  rwa [List.head?_reverse]

/-! ### Digits with underscores between them -/

/-- Decimal digits, any two of them with one underscore between them or none. -/
inductive SeparatedDigits : List Char → Prop
  | last {c : Char} : c.isDigit = true → SeparatedDigits [c]
  | next {c : Char} {cs : List Char} : c.isDigit = true → SeparatedDigits cs → SeparatedDigits (c :: cs)
  | underscore {c : Char} {cs : List Char} :
    c.isDigit = true → SeparatedDigits cs → SeparatedDigits (c :: '_' :: cs)

namespace SeparatedDigits

variable {cs : List Char}

theorem head (h : SeparatedDigits cs) : ∃ c rest, cs = c :: rest ∧ c.isDigit = true := by
  cases h with
  | last digit => exact ⟨_, _, rfl, digit⟩
  | next digit _ => exact ⟨_, _, rfl, digit⟩
  | underscore digit _ => exact ⟨_, _, rfl, digit⟩

theorem getLast (h : SeparatedDigits cs) : ∃ c ∈ cs.getLast?, c.isDigit = true := by
  induction h with
  | last digit => exact ⟨_, rfl, digit⟩
  | next _ rest ih =>
    obtain ⟨d, ds, rfl, -⟩ := rest.head
    exact ih
  | underscore _ rest ih =>
    obtain ⟨d, ds, rfl, -⟩ := rest.head
    exact ih

theorem mem (h : SeparatedDigits cs) : ∀ c ∈ cs, c.isDigit = true ∨ c = '_' := by
  induction h with
  | last digit => exact List.forall_mem_singleton.2 (.inl digit)
  | next digit _ ih => exact List.forall_mem_cons.2 ⟨.inl digit, ih⟩
  | underscore digit _ ih => exact List.forall_mem_cons.2 ⟨.inl digit, List.forall_mem_cons.2 ⟨.inr rfl, ih⟩⟩

theorem of_areDigits (h : AreDigits cs) : SeparatedDigits cs := by
  obtain ⟨ne, digits⟩ := h
  induction cs with
  | nil => exact absurd rfl ne
  | cons c cs ih =>
    obtain ⟨digit, digits⟩ := List.forall_mem_cons.1 digits
    cases cs with
    | nil => exact .last digit
    | cons d ds => exact .next digit (ih (List.cons_ne_nil d ds) digits)

end SeparatedDigits

theorem underscoresSeparate_cons {c : Char} (digit : c.isDigit = true) (cs : List Char) :
    underscoresSeparate (c :: cs) = underscoresSeparate cs := by
  have other : c ≠ '_' := ne_of_isDigit digit (by decide)
  rw [underscoresSeparate]
  · exact fun same _ => other same
  · exact fun _ same _ => other same

theorem underscoresSeparate_underscore {d : Char} (digit : d.isDigit = true) (ds : List Char) :
    underscoresSeparate ('_' :: d :: ds) = underscoresSeparate (d :: ds) := by
  have other : d ≠ '_' := ne_of_isDigit digit (by decide)
  rw [underscoresSeparate]
  · intro _ empty
    exact List.cons_ne_nil d ds empty
  · exact fun _ _ same => other (List.cons.inj same).1

theorem SeparatedDigits.separate {cs : List Char} (h : SeparatedDigits cs) :
    underscoresSeparate cs = true := by
  induction h with
  | last digit => rw [underscoresSeparate_cons digit, underscoresSeparate]
  | next digit _ ih => rwa [underscoresSeparate_cons digit]
  | underscore digit rest ih =>
    obtain ⟨d, ds, rfl, digit'⟩ := rest.head
    rwa [underscoresSeparate_cons digit, underscoresSeparate_underscore digit']

/-- By induction on the text, with a digit or with an underscore in front of what is in the grammar. -/
theorem SeparatedDigits.of_separate {c : Char} {cs : List Char}
    (run : ∀ d ∈ c :: cs, d.isDigit = true ∨ d = '_') (separate : underscoresSeparate (c :: cs) = true) :
    if c = '_' then SeparatedDigits cs else SeparatedDigits (c :: cs) := by
  induction cs generalizing c with
  | nil =>
    obtain ⟨digit | rfl, -⟩ := List.forall_mem_cons.1 run
    · rw [if_neg (ne_of_isDigit digit (by decide))]
      exact .last digit
    · cases separate
  | cons d ds ih =>
    obtain ⟨digit | rfl, others⟩ := List.forall_mem_cons.1 run
    · rw [underscoresSeparate_cons digit] at separate
      rw [if_neg (ne_of_isDigit digit (by decide))]
      have rest := ih others separate
      split at rest
      · next same => exact same ▸ .underscore digit rest
      · exact .next digit rest
    · rw [if_pos rfl]
      obtain ⟨digit | rfl, -⟩ := List.forall_mem_cons.1 others
      · rw [underscoresSeparate_underscore digit] at separate
        have rest := ih others separate
        rwa [if_neg (ne_of_isDigit digit (by decide))] at rest
      · cases separate

theorem le_toNat_of_isLower {c : Char} (small : c.isLower = true) : 97 ≤ c.toNat := by
  have ends : (decide (c.val ≥ 'a'.val) && decide (c.val ≤ 'z'.val)) = true := small
  rw [Bool.and_eq_true] at ends
  exact UInt32.le_iff_toNat_le.1 (of_decide_eq_true ends.1)

theorem le_toNat_of_isUpper {c : Char} (capital : c.isUpper = true) : 65 ≤ c.toNat := by
  have ends : c.val ≥ 'A'.val ∧ c.val ≤ 'Z'.val := of_decide_eq_true capital
  exact UInt32.le_iff_toNat_le.1 ends.1

/-- Letters are worth ten or more. -/
theorem isBaseDigit_ten_iff (c : Char) : isBaseDigit 10 c = true ↔ c.isDigit = true := by
  refine ⟨fun h => ?_, isBaseDigit_ten⟩
  by_contra other
  rw [isBaseDigit, baseDigit?, if_neg other] at h
  split at h
  · next small =>
    have worth := of_decide_eq_true h
    have := le_toNat_of_isLower small
    omega
  · split at h
    · next capital =>
      have worth := of_decide_eq_true h
      have := le_toNat_of_isUpper capital
      omega
    · cases h

/-- The digits of a text in which underscores may stand between them. -/
def digitsOf (cs : List Char) : List Char := cs.filter (· ≠ '_')

theorem digitsOf_of_areDigits {cs : List Char} (h : AreDigits cs) : digitsOf cs = cs :=
  List.filter_eq_self.2 fun c hc => decide_eq_true (ne_of_isDigit (h.2 c hc) (by decide))

/-- Where the digits and underscores at the front do not make up the text, or it is outside the grammar, nothing
is read. -/
theorem separatedDigits_of_readDigits {cs : List Char} {n : Nat} (read : readDigits 10 cs = .ok n) :
    SeparatedDigits cs := by
  rw [readDigits] at read
  generalize eq : cs.takeWhile (fun c => isBaseDigit 10 c || c = '_') = run at read
  have mem : ∀ c ∈ run, c.isDigit = true ∨ c = '_' := by
    intro c hc
    have := List.mem_takeWhile_imp (eq ▸ hc)
    rwa [Bool.or_eq_true, isBaseDigit_ten_iff, decide_eq_true_iff] at this
  split at read
  · cases read
  · next regular =>
    split at read
    · cases read
    · split at read
      · next whole =>
        have front : run <+: cs := eq ▸ List.takeWhile_prefix _
        have run_eq : run = cs := front.eq_of_length_le (by simpa using whole)
        subst run_eq
        cases run with
        | nil => exact absurd rfl regular
        | cons c rest =>
          simp only [Bool.or_eq_true, not_or, decide_eq_true_eq, Bool.not_eq_true', Bool.not_eq_false,
            List.head?_cons, Option.some.injEq] at regular
          have found := SeparatedDigits.of_separate mem regular.2
          rwa [if_neg regular.1.2] at found
      · cases read

/-- Digits in the grammar are read unless they are too many. -/
theorem readDigits_of_separatedDigits {cs : List Char} (grammar : SeparatedDigits cs) :
    readDigits 10 cs = if maxDigits < (digitsOf cs).length then .error (some (digitsOf cs).length)
      else .ok (digitsValue 10 (digitsOf cs)) := by
  have run : cs.takeWhile (fun c => isBaseDigit 10 c || c = '_') = cs := by
    refine List.takeWhile_eq_self_iff.2 fun c hc => ?_
    rw [Bool.or_eq_true, isBaseDigit_ten_iff, decide_eq_true_iff]
    exact grammar.mem c hc
  obtain ⟨c, rest, rfl, digit⟩ := grammar.head
  have other : c ≠ '_' := ne_of_isDigit digit (by decide)
  rw [readDigits, run, grammar.separate]
  simp [digitsOf, other]

/-! ### Integers -/

/-- The signs that may stand before the digits of an integer. -/
def signs : List (List Char) := [[], ['+'], ['-']]

/-- A text that spells an integer, once each character is in its plain spelling: blanks, a sign or none, digits
that are not too many, and blanks. -/
def SpellsInteger (cs : List Char) (n : Int) : Prop :=
  ∃ before, ∃ sign ∈ signs, ∃ digits after,
    cs.map plainNumeralChar = before ++ (sign ++ digits) ++ after ∧
    (∀ c ∈ before, isNumeralBlank c = true) ∧ (∀ c ∈ after, isNumeralBlank c = true) ∧
    SeparatedDigits digits ∧ (digitsOf digits).length ≤ maxDigits ∧
    n = if sign = ['-'] then -(digitsValue 10 (digitsOf digits) : Int) else digitsValue 10 (digitsOf digits)

theorem isNumeralBlank_of_isDigit {c : Char} (digit : c.isDigit = true) : isNumeralBlank c = false :=
  forall_digit (P := fun c => isNumeralBlank c = false) (by decide) c digit

/-- Around a sign and digits nothing more is trimmed off. -/
theorem plainNumeral_eq {cs before sign digits after : List Char}
    (eq : cs.map plainNumeralChar = before ++ (sign ++ digits) ++ after) (signed : sign ∈ signs)
    (blank_before : ∀ c ∈ before, isNumeralBlank c = true)
    (blank_after : ∀ c ∈ after, isNumeralBlank c = true) (grammar : SeparatedDigits digits) :
    plainNumeral cs = sign ++ digits := by
  obtain ⟨d, ds, rfl, digit⟩ := grammar.head
  have ne : sign ++ d :: ds ≠ [] := List.append_ne_nil_of_right_ne_nil _ (List.cons_ne_nil _ _)
  rw [plainNumeral, eq, trimWith_append ne blank_before blank_after]
  · simp only [signs, List.mem_cons, List.not_mem_nil, or_false] at signed
    rcases signed with rfl | rfl | rfl
    · rintro c ⟨⟩
      exact isNumeralBlank_of_isDigit digit
    · rintro c ⟨⟩
      rfl
    · rintro c ⟨⟩
      rfl
  · intro c hc
    obtain ⟨last, found, digit⟩ := grammar.getLast
    rw [List.getLast?_append, found, Option.some_or, Option.mem_some_iff] at hc
    exact isNumeralBlank_of_isDigit (hc ▸ digit)

theorem splitSign_append {sign digits : List Char} (signed : sign ∈ signs) (grammar : SeparatedDigits digits) :
    splitSign (sign ++ digits) = (decide (sign = ['-']), digits) := by
  simp only [signs, List.mem_cons, List.not_mem_nil, or_false] at signed
  obtain ⟨d, ds, rfl, digit⟩ := grammar.head
  rcases signed with rfl | rfl | rfl
  · exact splitSign_signText false digit ds
  · rfl
  · exact splitSign_signText true digit ds

theorem exists_sign (cs : List Char) :
    ∃ sign ∈ signs, ∃ body, cs = sign ++ body ∧ splitSign cs = (decide (sign = ['-']), body) := by
  rw [splitSign.eq_def]
  split
  · exact ⟨['-'], by decide, _, rfl, rfl⟩
  · exact ⟨['+'], by decide, _, rfl, rfl⟩
  · exact ⟨[], by decide, _, rfl, rfl⟩

/-- The reader of whole decimal numbers takes the texts that spell an integer, and reads that integer. -/
theorem readInteger_eq_ok_iff (cs : List Char) (shown : String) (n : Int) :
    readInteger 10 cs shown = .ok n ↔ SpellsInteger cs n := by
  constructor
  · intro read
    obtain ⟨before, after, eq, blank_before, blank_after⟩ :=
      exists_trimWith isNumeralBlank (cs.map plainNumeralChar)
    obtain ⟨sign, signed, digits, plain_eq, split_eq⟩ := exists_sign (plainNumeral cs)
    rw [← plainNumeral, plain_eq] at eq
    rw [readInteger, split_eq] at read
    dsimp only at read
    rw [dropBaseMark_ten] at read
    split at read
    · next m digits_read =>
      have grammar := separatedDigits_of_readDigits digits_read
      rw [readDigits_of_separatedDigits grammar] at digits_read
      split at digits_read
      · cases digits_read
      · next few =>
        cases digits_read
        refine ⟨before, sign, signed, digits, after, eq, blank_before, blank_after, grammar, by omega, ?_⟩
        simpa using (Except.ok.inj read).symm
    · cases read
    · cases read
  · rintro ⟨before, sign, signed, digits, after, eq, blank_before, blank_after, grammar, few, rfl⟩
    rw [readInteger, plainNumeral_eq eq signed blank_before blank_after grammar, splitSign_append signed grammar]
    dsimp only
    rw [dropBaseMark_ten, readDigits_of_separatedDigits grammar, if_neg (Nat.not_lt.2 few)]
    simp

/-- Digits alone spell their value, unless they are too many. -/
theorem spellsInteger_of_areDigits {cs : List Char} (h : AreDigits cs) (n : Int) :
    SpellsInteger cs n ↔ cs.length ≤ maxDigits ∧ n = digitsValue 10 cs := by
  rw [← readInteger_eq_ok_iff cs ""]
  by_cases few : cs.length ≤ maxDigits
  · have read := readInteger_digits false cs h few ""
    rw [signText, if_neg Bool.false_ne_true, List.nil_append] at read
    simp [read, few, eq_comm]
  · have plain : plainNumeral cs = cs := plainNumeral_eq_self fun c hc => .inl (h.2 c hc)
    have split : splitSign cs = (false, cs) := splitSign_append (show [] ∈ signs by decide) (.of_areDigits h)
    rw [readInteger, plain, split]
    dsimp only
    rw [dropBaseMark_ten, readDigits_of_separatedDigits (.of_areDigits h), digitsOf_of_areDigits h,
      if_pos (Nat.lt_of_not_le few)]
    simp [few]

end TunnelSettings
