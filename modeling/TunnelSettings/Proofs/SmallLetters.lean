import TunnelSettings.Text.Casing

/-!
Small letters stay as they are: no character that comes from writing a text in small letters has a
further small form.
-/
namespace TunnelSettings.Text

namespace CaseRun

/-- The code points that a run gives, as a run of their own. -/
def image (r : CaseRun) : CaseRun :=
  { first := (r.first + r.shift).toNat, last := (r.last + r.shift).toNat, step := r.step, shift := 0 }

/-- Whether two runs have no code point in common: one lies behind the other, or both go in even steps
from starts of different parity. -/
def apart (r q : CaseRun) : Bool :=
  r.last.blt q.first || q.last.blt r.first ||
    ((r.first.beq r.last || (r.step % 2).beq 0) && (q.step % 2).beq 0 && ((r.first + q.first) % 2).beq 1)

theorem mod_two_of_covers {r : CaseRun} {n : Nat} (covered : r.covers n = true)
    (even : r.first = r.last ∨ r.step % 2 = 0) : n % 2 = r.first % 2 := by
  simp only [covers, Bool.and_eq_true, decide_eq_true_eq, beq_iff_eq] at covered
  obtain ⟨⟨above, below⟩, onStep⟩ := covered
  rcases even with single | even
  · omega
  · have : (n - r.first) % 2 = 0 := by
      rw [← Nat.mod_mod_of_dvd _ (Nat.dvd_of_mod_eq_zero even), onStep]
    omega

theorem not_covers_of_apart {r q : CaseRun} (separate : r.apart q = true) {n : Nat}
    (covered : r.covers n = true) : q.covers n = false := by
  rw [Bool.eq_false_iff]
  intro both
  have even := mod_two_of_covers covered
  have even' := mod_two_of_covers both
  simp only [covers, Bool.and_eq_true, decide_eq_true_eq] at covered both
  simp only [apart, Bool.or_eq_true, Bool.and_eq_true, Nat.blt_eq, Nat.beq_eq] at separate
  rcases separate with (before | behind) | ⟨⟨steps, steps'⟩, parity⟩
  · omega
  · omega
  · have := even steps
    have := even' (.inr steps')
    omega

theorem covers_image {r : CaseRun} (inside : 0 ≤ r.first + r.shift) {n : Nat} (covered : r.covers n = true) :
    r.image.covers (n + r.shift).toNat = true := by
  simp only [covers, image, Bool.and_eq_true, decide_eq_true_eq, beq_iff_eq] at *
  obtain ⟨⟨above, below⟩, onStep⟩ := covered
  have same : (n + r.shift).toNat - (r.first + r.shift).toNat = n - r.first := by omega
  exact ⟨⟨decide_eq_true (by omega), decide_eq_true (by omega)⟩, same ▸ onStep⟩

end CaseRun

theorem inside_lowerRuns : ∀ r ∈ lowerRuns, 0 ≤ r.first + r.shift := by decide +kernel

set_option maxRecDepth 10000 in
theorem apart_lowerRuns :
    ((lowerRuns.map CaseRun.image).all fun r => (⟨0x130, 0x130, 1, 0⟩ :: lowerRuns).all r.apart) = true := by
  decide +kernel

theorem shifted_of_not_covers {runs : List CaseRun} {n : Nat} (h : ∀ r ∈ runs, r.covers n = false) :
    shifted runs n = n := by
  rw [shifted, List.find?_eq_none.2 fun r hr => by rw [h r hr]; exact Bool.false_ne_true]

/-- What a run gives is covered by none. -/
theorem not_covers_shifted {r : CaseRun} (hr : r ∈ lowerRuns) {n : Nat} (covered : r.covers n = true) :
    ∀ q ∈ ⟨0x130, 0x130, 1, 0⟩ :: lowerRuns, q.covers (n + r.shift).toNat = false := by
  intro q hq
  have separate := List.all_eq_true.1 (List.all_eq_true.1 apart_lowerRuns _ (List.mem_map_of_mem hr)) q hq
  exact CaseRun.not_covers_of_apart separate (CaseRun.covers_image (inside_lowerRuns r hr) covered)

/-- Whether a character is its own small form wherever it stands. -/
def IsSmall (c : Char) : Prop := c ≠ 'Σ' ∧ lowerChar c = [c]

instance : DecidablePred IsSmall := fun c => inferInstanceAs (Decidable (c ≠ 'Σ' ∧ lowerChar c = [c]))

theorem toLower_eq_self (c : Char) (h : (⟨65, 90, 1, 32⟩ : CaseRun).covers c.toNat = false) :
    c.toLower = c := by
  delta Char.toLower
  rw [dif_neg]
  rintro ⟨above, below⟩
  have above : 65 ≤ c.toNat := UInt32.le_iff_toNat_le.1 above
  have below : c.toNat ≤ 90 := UInt32.le_iff_toNat_le.1 below
  simp [CaseRun.covers, above, below, Nat.mod_one] at h

/-- A character that no run covers is small. -/
theorem isSmall_of_not_covers (c : Char)
    (h : ∀ q ∈ ⟨0x130, 0x130, 1, 0⟩ :: lowerRuns, q.covers c.toNat = false) : IsSmall c := by
  obtain ⟨special, runs⟩ := List.forall_mem_cons.1 h
  refine ⟨?_, ?_⟩
  · rintro rfl
    exact absurd runs (by decide +kernel)
  · have plain : lowerSpecial.lookup c.toNat = none := by
      refine List.lookup_eq_none_iff.2 fun entry he => ?_
      rw [List.mem_singleton.1 he, bne_iff_ne]
      rintro same
      rw [same] at special
      cases special
    rw [lowerChar, plain, toLower_eq_self c (runs _ (.head _)), shifted_of_not_covers runs, Char.ofNat_toNat]
    exact ite_self _

theorem isSmall_ofNat (n : Nat)
    (h : ∀ q ∈ ⟨0x130, 0x130, 1, 0⟩ :: lowerRuns, q.covers n = false) : IsSmall (.ofNat n) := by
  by_cases valid : n.isValidChar
  · have same : (Char.ofNat n).toNat = n := by
      rw [Char.ofNat, dif_pos valid]
      rfl
    exact isSmall_of_not_covers _ (same.symm ▸ h)
  · rw [Char.ofNat, dif_neg valid]
    decide

theorem isSmall_shifted (n : Nat) (h : n ≠ 0x130) : IsSmall (.ofNat (shifted lowerRuns n)) := by
  rw [shifted]
  split
  · next r found =>
    have covered := List.find?_some found
    exact isSmall_ofNat _ (not_covers_shifted (List.mem_of_find?_eq_some found) covered)
  · next none_covers =>
    refine isSmall_ofNat n (List.forall_mem_cons.2 ⟨?_, fun q hq => ?_⟩)
    · rw [Bool.eq_false_iff]
      simp only [CaseRun.covers, ne_eq, Bool.and_eq_true, decide_eq_true_eq]
      omega
    · exact Bool.eq_false_iff.2 (List.find?_eq_none.1 none_covers q hq)

/-- What a character becomes is small. -/
theorem isSmall_of_mem_lowerChar (c d : Char) (h : d ∈ lowerChar c) : IsSmall d := by
  have ascii : ∀ n < 128, IsSmall (Char.ofNat n).toLower := by decide +kernel
  rw [lowerChar] at h
  split at h
  · next low =>
    rw [List.mem_singleton.1 h, ← Char.ofNat_toNat c]
    exact ascii _ low
  split at h
  · next cs found =>
    obtain rfl : [0x69, 0x307] = cs := by
      rw [lowerSpecial, List.lookup_cons] at found
      split at found
      · exact Option.some.inj found
      · cases found
    have small : ∀ e ∈ [Char.ofNat 0x69, Char.ofNat 0x307], IsSmall e :=
      List.forall_mem_cons.2 ⟨by decide +kernel, List.forall_mem_singleton.2 (by decide +kernel)⟩
    exact small d h
  · next absent =>
    rw [List.mem_singleton.1 h]
    refine isSmall_shifted _ fun same => ?_
    rw [same] at absent
    cases absent

theorem isSmall_of_mem_lowerFrom (before cs : List Char) : ∀ d ∈ lowerFrom before cs, IsSmall d := by
  induction cs generalizing before with
  | nil => exact List.forall_mem_nil _
  | cons c cs ih =>
    intro d hd
    rw [lowerFrom, List.mem_append] at hd
    rcases hd with here | later
    · rw [lowerBetween] at here
      split at here
      · split at here <;> rw [List.mem_singleton.1 here] <;> decide +kernel
      · exact isSmall_of_mem_lowerChar c d here
    · exact ih _ d later

theorem lowerFrom_of_isSmall (before cs : List Char) (h : ∀ c ∈ cs, IsSmall c) : lowerFrom before cs = cs := by
  induction cs generalizing before with
  | nil => rfl
  | cons c cs ih =>
    obtain ⟨⟨other, small⟩, rest⟩ := List.forall_mem_cons.1 h
    rw [lowerFrom, lowerBetween, if_neg other, small, ih _ rest]
    rfl

/-- A text in small letters is not changed by writing it in small letters again. -/
theorem lower_lower (s : String) : lower (lower s) = lower s := by
  rw [lower, lower, String.toList_ofList, lowerFrom_of_isSmall _ _ (isSmall_of_mem_lowerFrom [] s.toList)]

end TunnelSettings.Text
