import TunnelSettings.Proofs.Acceptance
import TunnelSettings.Proofs.IntegerTexts

/-!
The grammar of addresses. An address is accepted if it ends in a colon and an integer of sixteen bits, in any
spelling that the reader of integers takes, and if what stands before has brackets at both ends or at neither.
That is more than a host and a port: the integer may have a sign, blanks and underscores, and a host without
brackets may have colons, so a bare IPv6 literal is taken for a host and a port.
-/
namespace TunnelSettings

open Text

theorem SpellsInteger.ne_nil {cs : List Char} {n : Int} (h : SpellsInteger cs n) : cs ≠ [] := by
  rintro rfl
  obtain ⟨before, sign, -, digits, after, eq, -, -, grammar, -⟩ := h
  obtain ⟨d, ds, rfl, -⟩ := grammar.head
  simp at eq

instance (cs : List Char) : Decidable (AreDigits cs) :=
  decidable_of_iff (cs ≠ [] ∧ cs.all Char.isDigit = true) (by rw [List.all_eq_true, AreDigits])

namespace Net

/-- Whether a host has brackets at both ends. -/
def InBrackets (host : List Char) : Prop := host.head? = some '[' ∧ host.getLast? = some ']'

instance : DecidablePred InBrackets := fun host =>
  inferInstanceAs (Decidable (host.head? = some '[' ∧ host.getLast? = some ']'))

/-- A host, a colon, and a port in ASCII digits. A host without brackets has no colon, and a bracket at neither
end. -/
def IsHostPort (address : String) : Prop :=
  ∃ host port : List Char, address.toList = host ++ ':' :: port ∧ AreDigits port ∧ digitsValue 10 port ≤ 65535 ∧
    (':' ∉ host ∧ (host.head? = some '[' ↔ host.getLast? = some ']') ∨ InBrackets host)

/-- A text has one last colon. -/
theorem lastColon_unique {cs host port host' port' : List Char} (split : cs = host ++ ':' :: port)
    (last : ':' ∉ port) (split' : cs = host' ++ ':' :: port') (last' : ':' ∉ port') :
    host = host' ∧ port = port' := by
  have cut := (cutAtLastColon_eq_some_iff cs host' port').2 ⟨split', last'⟩
  rw [(cutAtLastColon_eq_some_iff cs host port).2 ⟨split, last⟩] at cut
  exact Prod.mk.inj (Option.some.inj cut)

theorem isHostPort_iff {address : String} {host port : List Char}
    (split : address.toList = host ++ ':' :: port) (last : ':' ∉ port) :
    IsHostPort address ↔ AreDigits port ∧ digitsValue 10 port ≤ 65535 ∧
      (':' ∉ host ∧ (host.head? = some '[' ↔ host.getLast? = some ']') ∨ InBrackets host) := by
  constructor
  · rintro ⟨host', port', split', digits, rest⟩
    have last' : ':' ∉ port' := fun colon => Bool.false_ne_true (digits.2 _ colon)
    obtain ⟨rfl, rfl⟩ := lastColon_unique split last split' last'
    exact ⟨digits, rest⟩
  · exact fun h => ⟨host, port, split, h⟩

instance : DecidablePred IsHostPort := fun address =>
  match found : cutAtLastColon address.toList with
  | some (host, port) =>
    have cut := (cutAtLastColon_eq_some_iff _ host port).1 found
    decidable_of_iff _ (isHostPort_iff cut.1 cut.2).symm
  | none => isFalse <| by
    rintro ⟨host, port, split, digits, -⟩
    have last : ':' ∉ port := fun colon => Bool.false_ne_true (digits.2 _ colon)
    rw [split, cutAtLastColon_append host port last] at found
    cases found

section

variable {address : String} {host port : List Char}

/-- Of what is accepted, a host and a port are the addresses without colons in a bare host and with nothing but
ASCII digits in the port. -/
theorem IsEndpoint.isHostPort_iff (ok : IsEndpoint address) (split : address.toList = host ++ ':' :: port)
    (last : ':' ∉ port) :
    IsHostPort address ↔ (':' ∈ host → InBrackets host) ∧ ∀ c ∈ port, c.isDigit = true := by
  obtain ⟨host', port', split', last', balanced, n, read, -, small⟩ := ok
  obtain ⟨rfl, rfl⟩ := lastColon_unique split last split' last'
  have spells := (readInteger_eq_ok_iff port "" n).1 read
  rw [Net.isHostPort_iff split last]
  constructor
  · rintro ⟨digits, -, bare | brackets⟩
    · exact ⟨fun colon => absurd colon bare.1, digits.2⟩
    · exact ⟨fun _ => brackets, digits.2⟩
  · rintro ⟨closed, digits⟩
    have digits : AreDigits port := ⟨spells.ne_nil, digits⟩
    obtain ⟨-, rfl⟩ := (spellsInteger_of_areDigits digits n).1 spells
    refine ⟨digits, by omega, ?_⟩
    by_cases colon : ':' ∈ host
    · exact .inr (closed colon)
    · exact .inl ⟨colon, balanced⟩

/-- A host and a port are accepted unless the port has more digits than are ever read. -/
theorem IsHostPort.isEndpoint_iff (h : IsHostPort address) (split : address.toList = host ++ ':' :: port)
    (last : ':' ∉ port) : IsEndpoint address ↔ port.length ≤ maxDigits := by
  obtain ⟨digits, small, shape⟩ := (Net.isHostPort_iff split last).1 h
  constructor
  · rintro ⟨host', port', split', last', -, n, read, -⟩
    obtain ⟨rfl, rfl⟩ := lastColon_unique split last split' last'
    exact ((spellsInteger_of_areDigits digits n).1 ((readInteger_eq_ok_iff _ _ _).1 read)).1
  · intro few
    refine ⟨host, port, split, last, ?_, digitsValue 10 port, ?_, by omega, by omega⟩
    · rcases shape with ⟨-, balanced⟩ | ⟨opened, closed⟩
      · exact balanced
      · exact iff_of_true opened closed
    · exact (readInteger_eq_ok_iff _ _ _).2 ((spellsInteger_of_areDigits digits _).2 ⟨few, rfl⟩)

end

/--
An address is accepted just if it is a host, a colon and a spelling of an integer of sixteen bits, where the
host has brackets at both ends or at neither. An accepted address is a proper host and port unless its host
has colons and no brackets, or its port has anything in it but ASCII digits; and every proper host and port is
accepted, unless its port has more digits than are ever read.
-/
theorem address_accepted_iff (field address : String) :
    (addressComplaint? field address = none ↔
      ∃ host port : List Char, address.toList = host ++ ':' :: port ∧ ':' ∉ port ∧
        (host.head? = some '[' ↔ host.getLast? = some ']') ∧
        ∃ n, SpellsInteger port n ∧ 0 ≤ n ∧ n ≤ 65535) ∧
      ∀ host port : List Char, address.toList = host ++ ':' :: port → ':' ∉ port →
        (addressComplaint? field address = none →
          (IsHostPort address ↔ (':' ∈ host → InBrackets host) ∧ ∀ c ∈ port, c.isDigit = true)) ∧
        (IsHostPort address → (addressComplaint? field address = none ↔ port.length ≤ maxDigits)) := by
  have accepted : addressComplaint? field address = none ↔ IsEndpoint address := by
    rw [addressComplaint?_eq_none_iff]
    simp
  rw [accepted]
  refine ⟨?_, fun host port split last => ⟨fun ok => ?_, fun proper => ?_⟩⟩
  · simp only [IsEndpoint, readInteger_eq_ok_iff]
  · exact ok.isHostPort_iff split last
  · exact proper.isEndpoint_iff split last

/-- An IPv6 literal in brackets, once with a port in ASCII digits and once with one in Arabic-Indic digits. -/
theorem address_accepted_iff_bracketed :
    (IsHostPort "[::1]:80" ∧ addressComplaint? "target address" "[::1]:80" = none) ∧
      ¬ IsHostPort "[::1]:٨٠" ∧ addressComplaint? "target address" "[::1]:٨٠" = none := by
  have proper : IsHostPort "[::1]:80" := ⟨"[::1]".toList, "80".toList, rfl, by decide⟩
  have ascii := (address_accepted_iff "target address" "[::1]:80").2 "[::1]".toList "80".toList rfl (by decide)
  have arabic := (address_accepted_iff "target address" "[::1]:٨٠").2 "[::1]".toList "٨٠".toList rfl (by decide)
  have accepted : addressComplaint? "target address" "[::1]:٨٠" = none := by decide +kernel
  refine ⟨⟨proper, (ascii.2 proper).2 (by decide)⟩, ?_, accepted⟩
  intro bad
  have digit := ((arabic.1 accepted).1 bad).2 '٨' (.head _)
  exact absurd digit (by decide)

/-- What is taken for a host and a port and is none: two bare IPv6 literals, of which the first has no port at
all, and ports with a sign, a blank, an underscore and wide digits. -/
theorem accepts_more_than_hostPort :
    (addressComplaint? "listening address" "::1" = none ∧ ¬ IsHostPort "::1") ∧
      (addressComplaint? "listening address" "::1:80" = none ∧ ¬ IsHostPort "::1:80") ∧
      (addressComplaint? "listening address" ":+80" = none ∧ ¬ IsHostPort ":+80") ∧
      (addressComplaint? "listening address" ": 80" = none ∧ ¬ IsHostPort ": 80") ∧
      (addressComplaint? "listening address" ":8_0" = none ∧ ¬ IsHostPort ":8_0") ∧
      (addressComplaint? "listening address" ":８０" = none ∧ ¬ IsHostPort ":８０") := by
  decide +kernel

end Net
end TunnelSettings
