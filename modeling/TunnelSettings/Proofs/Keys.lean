import TunnelSettings.Proofs.Acceptance
import TunnelSettings.Proofs.Numerals

/-!
Private keys. A text in base sixty-four is a run of the sixty-four characters and then signs of padding, and
the run alone decides how much padding may follow and how many bytes there are. Thirty-two bytes are just
forty-three characters and one sign of padding.
-/
namespace TunnelSettings

namespace Text

/-- The characters of base sixty-four, by their values. -/
def alphabet : List Char := "ABCDEFGHIJKLMNOPQRSTUVWXYZabcdefghijklmnopqrstuvwxyz0123456789+/".toList

/-- How many signs of padding may follow a run of characters: as many as are missing in its last group of four,
or any number if none are. -/
def IsPadding (length pads : Nat) : Prop :=
  length % 4 = 0 ∨ length % 4 = 2 ∧ pads = 2 ∨ length % 4 = 3 ∧ pads = 1

/-! ### Characters -/

theorem toNat_le_of_isUpper {c : Char} (capital : c.isUpper = true) : c.toNat ≤ 90 := by
  have ends : c.val ≥ 'A'.val ∧ c.val ≤ 'Z'.val := of_decide_eq_true capital
  exact UInt32.le_iff_toNat_le.1 ends.2

theorem toNat_le_of_isLower {c : Char} (small : c.isLower = true) : c.toNat ≤ 122 := by
  have ends : (decide (c.val ≥ 'a'.val) && decide (c.val ≤ 'z'.val)) = true := small
  rw [Bool.and_eq_true] at ends
  exact UInt32.le_iff_toNat_le.1 (of_decide_eq_true ends.2)

theorem toNat_lt_of_sextet? {c : Char} (value : (sextet? c).isSome = true) : c.toNat < 128 := by
  by_contra high
  have upper : c.isUpper = false := by
    by_contra capital
    have := toNat_le_of_isUpper (eq_true_of_ne_false capital)
    omega
  have lower : c.isLower = false := by
    by_contra small
    have := toNat_le_of_isLower (eq_true_of_ne_false small)
    omega
  have digit : c.isDigit = false := by
    simp [Char.isDigit, UInt32.le_iff_toNat_le]
    omega
  have plus : c ≠ '+' := by
    rintro rfl
    exact high (by decide)
  have slash : c ≠ '/' := by
    rintro rfl
    exact high (by decide)
  simp [sextet?, upper, lower, digit, plus, slash] at value

/-- A character has its place in the alphabet as its value. -/
theorem sextet?_eq (c : Char) : sextet? c = alphabet.idxOf? c := by
  by_cases low : c.toNat < 128
  · exact forall_ascii (P := fun c => sextet? c = alphabet.idxOf? c) (by decide +kernel) c low
  · have unknown : sextet? c = none := by
      rw [← Option.not_isSome_iff_eq_none]
      exact fun value => low (toNat_lt_of_sextet? value)
    rw [unknown, eq_comm, List.idxOf?_eq_none_iff]
    intro mem
    exact low (forall_mem_of_all (P := fun c => c.toNat < 128) (by decide) c mem)

theorem exists_sextet_iff (c : Char) : (∃ n, sextet? c = some n) ↔ c ∈ alphabet := by
  rw [← Option.isSome_iff_exists, sextet?_eq, List.isSome_idxOf?]

theorem sign_not_mem : '=' ∉ alphabet := by decide

/-! ### Reading a text -/

/-- What one character of the alphabet does to a reader that has read `k` of them. -/
theorem strictLength_step (k : Nat) {c : Char} (h : c ∈ alphabet) (rest : List Char) :
    strictLength (k % 4) (k * 3 / 4) (c :: rest) = strictLength ((k + 1) % 4) ((k + 1) * 3 / 4) rest := by
  have sign : c ≠ '=' := by
    rintro rfl
    exact sign_not_mem h
  obtain ⟨n, value⟩ := (exists_sextet_iff c).2 h
  have next : (k % 4 + 1) % 4 = (k + 1) % 4 := by omega
  rw [strictLength.eq_def]
  simp only [sign, if_false, value, next]
  by_cases start : k % 4 = 0
  · rw [if_pos start, show (k + 1) % 4 = 1 by omega, show (k + 1) * 3 / 4 = k * 3 / 4 by omega]
  · have more : (k + 1) * 3 / 4 = k * 3 / 4 + 1 := by
      have inside : k % 4 = 1 ∨ k % 4 = 2 ∨ k % 4 = 3 := by omega
      rcases inside with h | h | h <;> omega
    rw [if_neg start, more]

/-- The reader of a text keeps count: behind `k` characters it has three bytes for every four of them. -/
theorem strictLength_run (k : Nat) {body : List Char} (h : ∀ c ∈ body, c ∈ alphabet) (rest : List Char) :
    strictLength (k % 4) (k * 3 / 4) (body ++ rest) =
      strictLength ((k + body.length) % 4) ((k + body.length) * 3 / 4) rest := by
  induction body generalizing k with
  | nil => rfl
  | cons c body ih =>
    obtain ⟨first, others⟩ := List.forall_mem_cons.1 h
    rw [List.cons_append, strictLength_step k first, ih (k + 1) others, List.length_cons]
    simp only [Nat.add_assoc, Nat.add_comm 1]

theorem strictLength_sign (k count n : Nat) (rest : List Char) :
    strictLength (k % 4) count ('=' :: rest) = some n ↔
      (∀ c ∈ rest, c = '=') ∧ IsPadding k (rest.length + 1) ∧ count = n := by
  have place : k % 4 = 0 ∨ k % 4 = 1 ∨ k % 4 = 2 ∨ k % 4 = 3 := by omega
  rw [strictLength.eq_def]
  simp only [if_true, IsPadding]
  rcases place with h | h | h | h
  · simp [h]
  · simp [h]
  · rcases rest with _ | ⟨c, _ | ⟨d, rest⟩⟩
    · simp [h]
    · by_cases sign : c = '='
      · simp [h, sign]
      · simp [h, sign]
    · simp [h]
  · cases rest <;> simp [h]

/-- Where the characters of the alphabet end there is nothing but padding. -/
theorem strictLength_end (k count n : Nat) {rest : List Char} (h : ∀ c ∈ rest.head?, c ∉ alphabet) :
    strictLength (k % 4) count rest = some n ↔
      (∀ c ∈ rest, c = '=') ∧ IsPadding k rest.length ∧ count = n := by
  cases rest with
  | nil =>
    rw [strictLength]
    simp [IsPadding]
  | cons c rest =>
    by_cases sign : c = '='
    · subst c
      simp [strictLength_sign]
    · have unknown : sextet? c = none := by
        rw [Option.eq_none_iff_forall_ne_some]
        intro n value
        exact h c rfl ((exists_sextet_iff c).1 ⟨n, value⟩)
      rw [strictLength.eq_def]
      simp [sign, unknown]

theorem strictLength_append {body rest : List Char} (h : ∀ c ∈ body, c ∈ alphabet)
    (last : ∀ c ∈ rest.head?, c ∉ alphabet) (n : Nat) :
    strictLength 0 0 (body ++ rest) = some n ↔
      (∀ c ∈ rest, c = '=') ∧ IsPadding body.length rest.length ∧ body.length * 3 / 4 = n := by
  have run := strictLength_run 0 h rest
  simp only [Nat.zero_mod, Nat.zero_mul, Nat.zero_div, Nat.zero_add] at run
  rw [run, strictLength_end _ _ _ last]

theorem exists_run (cs : List Char) :
    ∃ body rest, cs = body ++ rest ∧ (∀ c ∈ body, c ∈ alphabet) ∧ ∀ c ∈ rest.head?, c ∉ alphabet := by
  induction cs with
  | nil => exact ⟨[], [], rfl, by simp, by simp⟩
  | cons c cs ih =>
    by_cases h : c ∈ alphabet
    · obtain ⟨body, rest, split, members, last⟩ := ih
      exact ⟨c :: body, rest, by simp [split], by simpa [h] using members, last⟩
    · exact ⟨[], c :: cs, rfl, by simp, by simpa using h⟩

/-- Texts in base sixty-four: there is padding for what is missing in the last group, and there are three bytes
for four characters. A text that is all padding is none. -/
theorem base64Length?_eq_some_iff (s : String) (n : Nat) :
    base64Length? s = some n ↔
      ∃ body pads, s.toList = body ++ List.replicate pads '=' ∧ (∀ c ∈ body, c ∈ alphabet) ∧
        IsPadding body.length pads ∧ (body = [] → pads = 0) ∧ body.length * 3 / 4 = n := by
  rw [base64Length?]
  constructor
  · intro length
    split at length
    · cases length
    · next noSign =>
      obtain ⟨body, rest, split, members, last⟩ := exists_run s.toList
      rw [split, strictLength_append members last] at length
      obtain ⟨signs, padding, count⟩ := length
      refine ⟨body, rest.length, ?_, members, padding, ?_, count⟩
      · rw [split, ← List.eq_replicate_of_mem signs]
      · rintro rfl
        cases rest with
        | nil => rfl
        | cons c rest =>
          rw [split, signs c List.mem_cons_self] at noSign
          exact absurd rfl noSign
  · rintro ⟨body, pads, split, members, padding, noPadding, count⟩
    have noSign : s.toList.head? ≠ some '=' := by
      rw [split]
      cases body with
      | nil => simp [noPadding rfl]
      | cons c body =>
        intro first
        cases first
        exact sign_not_mem (members _ List.mem_cons_self)
    have last : ∀ c ∈ (List.replicate pads '=').head?, c ∉ alphabet := by
      intro c hc
      rw [(List.mem_replicate.1 (List.mem_of_head? hc)).2]
      exact sign_not_mem
    rw [if_neg noSign, split, strictLength_append members last]
    simpa [count] using padding

end Text

namespace Wireguard

/-- Forty-three characters of base sixty-four and one sign of padding. -/
def IsKey (key : String) : Prop :=
  ∃ body : List Char, key.toList = body ++ ['='] ∧ body.length = 43 ∧ ∀ c ∈ body, c ∈ Text.alphabet

/-- Thirty-two bytes leave no choice of how many characters there are. -/
theorem base64Length?_eq_iff_isKey (key : String) : Text.base64Length? key = some 32 ↔ IsKey key := by
  rw [Text.base64Length?_eq_some_iff]
  constructor
  · rintro ⟨body, pads, split, members, padding, -, count⟩
    rw [Text.IsPadding] at padding
    have length : body.length = 43 := by omega
    have one : pads = 1 := by omega
    subst one
    exact ⟨body, split, length, members⟩
  · rintro ⟨body, split, length, members⟩
    refine ⟨body, 1, split, members, ?_, ?_, ?_⟩
    · simp [Text.IsPadding, length]
    · rintro rfl
      cases length
    · rw [length]

/-- The fields beside the private key are fit for a tunnel. -/
structure IsFitBesideKey (w : Wireguard) (ipv6 : Bool) : Prop where
  addresses : ∃ addresses ∈ w.addresses, addresses ≠ [] ∧
    ∀ a ∈ addresses, ∃ n ∈ Net.network? a, n.version = .six → ipv6 = true
  implementation : ∃ i ∈ w.implementation, i ∈ Catalogue.wireguardImplementations

theorem keyComplaint?_cases {key : String} {c : Complaint} (h : keyComplaint? (some key) = some c) :
    c = .keyUnset ∧ key = "" ∨ c = .keyNotBase64 ∧ Text.base64Length? key = none ∨
      ∃ n, n ≠ 32 ∧ c = .keyLength n ∧ Text.base64Length? key = some n := by
  rw [keyComplaint?] at h
  by_cases empty : key = ""
  · rw [if_pos (by simp [isBare, empty])] at h
    cases h
    exact .inl ⟨rfl, empty⟩
  · rw [if_neg (by simp [isBare, empty]), Option.getD_some] at h
    cases length : Text.base64Length? key with
    | none =>
      rw [length] at h
      cases h
      exact .inr (.inl ⟨rfl, rfl⟩)
    | some n =>
      rw [length] at h
      by_cases full : n = 32
      · simp [refuse, full] at h
      · simp [refuse, full] at h
        exact .inr (.inr ⟨n, full, h.symm, rfl⟩)

/-- Of a tunnel whose other fields are fit there is nothing to say but what is said of its key. -/
theorem complaint?_eq_of_fit (w : Wireguard) (ipv6 : Bool) (fit : w.IsFitBesideKey ipv6) (key : Option String) :
    complaint? { w with privateKey := key } ipv6 = keyComplaint? key := by
  cases bad : keyComplaint? key with
  | some c => rw [complaint?, bad, Option.some_or]
  | none =>
    rw [complaint?_eq_none_iff]
    exact ⟨(keyComplaint?_eq_none_iff key).1 bad, fit.addresses, fit.implementation⟩

/--
A tunnel whose other fields are fit is accepted with a private key of forty-three characters of base sixty-four
and one sign of padding, and with no other. Any other text is refused for what is wrong with it: it is empty, it
is not in base sixty-four, or it has another number of bytes.
-/
theorem accepts_key_iff (w : Wireguard) (ipv6 : Bool) (fit : w.IsFitBesideKey ipv6) (key : String) :
    (complaint? { w with privateKey := some key } ipv6 = none ↔ IsKey key) ∧
      (¬ IsKey key → ∃ c, complaint? { w with privateKey := some key } ipv6 = some c ∧
        (Failure.complaint c).kind = "ValueError" ∧
        (c = .keyUnset ∧ key = "" ∨ c = .keyNotBase64 ∧ Text.base64Length? key = none ∨
          ∃ n, n ≠ 32 ∧ c = .keyLength n ∧ Text.base64Length? key = some n)) := by
  have accepted : keyComplaint? (some key) = none ↔ IsKey key := by
    simp [keyComplaint?_eq_none_iff, base64Length?_eq_iff_isKey]
  rw [complaint?_eq_of_fit w ipv6 fit]
  refine ⟨accepted, ?_⟩
  intro bad
  obtain ⟨c, refused⟩ := Option.ne_none_iff_exists'.1 (mt accepted.1 bad)
  exact ⟨c, refused, rfl, keyComplaint?_cases refused⟩

/-- A tunnel without a key. -/
def keyless : Wireguard := { addresses := some ["10.0.0.2/32"], implementation := "auto" }

/-- Forty-three characters: with padding a key, but not without it; and a text of thirty-one bytes is none. -/
theorem accepts_key_iff_keyless :
    let zeros (n : Nat) (padding : List Char) := String.ofList (List.replicate n 'A' ++ padding)
    keyless.IsFitBesideKey false ∧
      complaint? { keyless with privateKey := some (zeros 43 ['=']) } false = none ∧
      complaint? { keyless with privateKey := some (zeros 43 []) } false ≠ none ∧
      complaint? { keyless with privateKey := some (zeros 42 ['=', '=']) } false ≠ none := by
  intro zeros
  have fit : keyless.IsFitBesideKey false :=
    ⟨⟨_, rfl, by simp, by decide +kernel⟩, _, rfl, by decide⟩
  have key : IsKey (zeros 43 ['=']) := by
    refine ⟨List.replicate 43 'A', String.toList_ofList, List.length_replicate, fun c mem => ?_⟩
    rw [List.eq_of_mem_replicate mem]
    decide
  have refused (n : Nat) (padding : List Char) (bad : padding.count '=' ≠ 1) :
      complaint? { keyless with privateKey := some (zeros n padding) } false ≠ none := by
    intro accepted
    obtain ⟨body, split, -, members⟩ := (accepts_key_iff keyless false fit _).1.1 accepted
    rw [String.toList_ofList] at split
    have signs := congrArg (List.count '=') split
    rw [List.count_append, List.count_append, List.count_replicate,
      List.count_eq_zero.2 fun mem => Text.sign_not_mem (members _ mem)] at signs
    exact bad (by simpa using signs)
  exact ⟨fit, (accepts_key_iff keyless false fit _).1.2 key, refused 43 [] (by decide),
    refused 42 ['=', '='] (by decide)⟩

end Wireguard
end TunnelSettings
