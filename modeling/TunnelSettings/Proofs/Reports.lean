import Mathlib.Data.List.Chain
import TunnelSettings.Proofs.IntegerTexts
import TunnelSettings.Report
import TunnelSettings.Text.Line

/-!
Failures in one line. Blanks of any kind, line breaks among them, only part the words of a message, and a report has
one blank between neighbours. A report that is too long is cut behind a character that is not blank, so that at most
one place of the length that is allowed stays free. The name of the family is taken as it is.
-/
namespace TunnelSettings

namespace Text

/-! ### Words -/

/-- Characters that are not blank, one or more. -/
def IsWord (w : List Char) : Prop := w ≠ [] ∧ ∀ c ∈ w, isBlank c = false

instance : DecidablePred IsWord := fun w =>
  decidable_of_iff (w ≠ [] ∧ (w.all fun c => isBlank c = false) = true) (by
    simp only [List.all_eq_true, decide_eq_true_eq, IsWord])

/-- A text and its words in order. Blanks may stand before a word and at the end of the text, and what stands right
behind a word is a blank. -/
inductive HasWords : List Char → List (List Char) → Prop
  | blank {cs : List Char} : (∀ c ∈ cs, isBlank c = true) → HasWords cs []
  | word {before w rest : List Char} {ws : List (List Char)} : (∀ c ∈ before, isBlank c = true) → IsWord w →
    (∀ c ∈ rest.head?, isBlank c = true) → HasWords rest ws → HasWords (before ++ (w ++ rest)) (w :: ws)

theorem HasWords.cons {c : Char} {cs : List Char} {ws : List (List Char)} (blank : isBlank c = true)
    (h : HasWords cs ws) : HasWords (c :: cs) ws := by
  cases h with
  | blank all => exact .blank (List.forall_mem_cons.2 ⟨blank, all⟩)
  | @word before w rest ws all isWord behind more =>
    have all : ∀ d ∈ c :: before, isBlank d = true := List.forall_mem_cons.2 ⟨blank, all⟩
    exact .word all isWord behind more

theorem HasWords.isWord {cs : List Char} {ws : List (List Char)} (h : HasWords cs ws) : ∀ w ∈ ws, IsWord w := by
  induction h with
  | blank _ => exact List.forall_mem_nil _
  | word _ isWord _ _ ih => exact List.forall_mem_cons.2 ⟨isWord, ih⟩

theorem isWord_reverse {current : List Char} (plain : ∀ c ∈ current, isBlank c = false)
    (going : ¬ current.isEmpty = true) : IsWord current.reverse :=
  ⟨fun none => going (List.isEmpty_iff.2 (List.reverse_eq_nil_iff.1 none)),
    fun c hc => plain c (List.mem_reverse.1 hc)⟩

/-- What was read of a word so far belongs to the text. -/
theorem hasWords_wordsFrom (current : List Char) (plain : ∀ c ∈ current, isBlank c = false) (cs : List Char) :
    HasWords (current.reverse ++ cs) (wordsFrom current cs) := by
  have nothing : ∀ c ∈ ([] : List Char), isBlank c = true := List.forall_mem_nil _
  have nowhere : ∀ c ∈ ([] : List Char).head?, isBlank c = true := fun c hc => by cases hc
  induction cs generalizing current with
  | nil =>
    rw [wordsFrom]
    split
    · next empty =>
      rw [List.isEmpty_iff.1 empty]
      exact .blank nothing
    · next going => exact .word nothing (isWord_reverse plain going) nowhere (.blank nothing)
  | cons c cs ih =>
    rw [wordsFrom]
    split
    · next blank =>
      have rest : HasWords (c :: cs) (wordsFrom [] cs) := .cons blank (ih [] (List.forall_mem_nil _))
      split
      · next empty =>
        rw [List.isEmpty_iff.1 empty]
        exact rest
      · next going =>
        refine .word nothing (isWord_reverse plain going) ?_ rest
        rintro _ ⟨⟩
        exact blank
    · next other =>
      have further := ih (c :: current) (List.forall_mem_cons.2 ⟨Bool.eq_false_iff.2 other, plain⟩)
      rwa [List.reverse_cons, List.append_assoc, List.singleton_append] at further

theorem hasWords_words (cs : List Char) : HasWords cs (words cs) :=
  hasWords_wordsFrom [] (List.forall_mem_nil _) cs

theorem wordsFrom_append {w : List Char} (plain : ∀ c ∈ w, isBlank c = false) (current rest : List Char) :
    wordsFrom current (w ++ rest) = wordsFrom (w.reverse ++ current) rest := by
  induction w generalizing current with
  | nil => rfl
  | cons c w ih =>
    obtain ⟨first, plain⟩ := List.forall_mem_cons.1 plain
    rw [List.cons_append, wordsFrom, first, if_neg Bool.false_ne_true, ih plain, List.reverse_cons,
      List.append_assoc, List.singleton_append]

theorem words_append_of_blank {before : List Char} (blank : ∀ c ∈ before, isBlank c = true) (rest : List Char) :
    words (before ++ rest) = words rest := by
  induction before with
  | nil => rfl
  | cons c before ih =>
    obtain ⟨first, blank⟩ := List.forall_mem_cons.1 blank
    rw [List.cons_append, words, wordsFrom, if_pos first, if_pos List.isEmpty_nil]
    exact ih blank

theorem words_append_of_isWord {w rest : List Char} (h : IsWord w) (behind : ∀ c ∈ rest.head?, isBlank c = true) :
    words (w ++ rest) = w :: words rest := by
  have going : w.reverse.isEmpty = false := by simpa using h.1
  rw [words, wordsFrom_append h.2, List.append_nil]
  cases rest with
  | nil => rw [wordsFrom, going, if_neg Bool.false_ne_true, List.reverse_reverse]; rfl
  | cons c rest =>
    have blank : isBlank c = true := behind c rfl
    rw [wordsFrom, if_pos blank, going, if_neg Bool.false_ne_true, List.reverse_reverse, words, wordsFrom,
      if_pos blank, if_pos List.isEmpty_nil]

/-- A text has one list of words. -/
theorem HasWords.words_eq {cs : List Char} {ws : List (List Char)} (h : HasWords cs ws) : words cs = ws := by
  induction h with
  | @blank cs all =>
    have := words_append_of_blank all []
    rwa [List.append_nil] at this
  | word all isWord behind _ ih =>
    rw [words_append_of_blank all, words_append_of_isWord isWord behind, ih]

/-! ### Single blanks -/

/-- There are no blanks but single spaces between words. -/
structure IsSpaced (cs : List Char) : Prop where
  spaces : ∀ c ∈ cs, isBlank c = true → c = ' '
  single : cs.IsChain fun c d => isBlank c = false ∨ isBlank d = false
  first : ∀ c ∈ cs.head?, isBlank c = false
  last : ∀ c ∈ cs.getLast?, isBlank c = false

section

variable {cs ds : List Char}

theorem isSpaced_nil : IsSpaced [] where
  spaces := List.forall_mem_nil _
  single := .nil
  first c hc := by cases hc
  last c hc := by cases hc

theorem IsWord.isSpaced (h : IsWord cs) : IsSpaced cs where
  spaces c hc blank := by
    rw [h.2 c hc] at blank
    cases blank
  single := List.isChain_iff_getElem.2 fun _ _ => .inl (h.2 _ (List.getElem_mem _))
  first c hc := h.2 c (List.mem_of_mem_head? hc)
  last c hc := h.2 c (List.mem_of_mem_getLast? hc)

/-- Nothing is wrong where two texts meet. -/
theorem IsSpaced.append (h : IsSpaced cs) (h' : IsSpaced ds) : IsSpaced (cs ++ ds) where
  spaces := List.forall_mem_append.2 ⟨h.spaces, h'.spaces⟩
  single := List.isChain_append.2 ⟨h.single, h'.single, fun c hc _ _ => .inl (h.last c hc)⟩
  first c hc := by
    rw [List.head?_append, Option.mem_def, Option.or_eq_some_iff] at hc
    rcases hc with hc | ⟨-, hc⟩
    · exact h.first c hc
    · exact h'.first c hc
  last c hc := by
    rw [List.getLast?_append, Option.mem_def, Option.or_eq_some_iff] at hc
    rcases hc with hc | ⟨-, hc⟩
    · exact h'.last c hc
    · exact h.last c hc

/-- A space may stand between two texts. -/
theorem IsSpaced.append_space (h : IsSpaced cs) (h' : IsSpaced ds) (ne : cs ≠ []) (ne' : ds ≠ []) :
    IsSpaced (cs ++ ' ' :: ds) where
  spaces := List.forall_mem_append.2 ⟨h.spaces, List.forall_mem_cons.2 ⟨fun _ => rfl, h'.spaces⟩⟩
  single := List.isChain_append.2 ⟨h.single, List.isChain_cons.2 ⟨fun d hd => .inr (h'.first d hd), h'.single⟩,
    fun c hc _ _ => .inl (h.last c hc)⟩
  first c hc := by
    obtain ⟨d, cs, rfl⟩ := List.exists_cons_of_ne_nil ne
    exact h.first c hc
  last c hc := by
    obtain ⟨d, ds, rfl⟩ := List.exists_cons_of_ne_nil ne'
    rw [List.getLast?_append_cons, List.getLast?_cons_cons] at hc
    exact h'.last c hc

theorem intercalate_ne_nil {w : List Char} (ne : w ≠ []) (ws : List (List Char)) :
    [' '].intercalate (w :: ws) ≠ [] := by
  cases ws with
  | nil => simpa using ne
  | cons v ws => simp [List.intercalate_cons_cons]

theorem isSpaced_intercalate {ws : List (List Char)} (h : ∀ w ∈ ws, IsWord w) :
    IsSpaced ([' '].intercalate ws) := by
  induction ws with
  | nil => exact isSpaced_nil
  | cons w ws ih =>
    obtain ⟨isWord, h⟩ := List.forall_mem_cons.1 h
    cases ws with
    | nil =>
      rw [List.intercalate_singleton]
      exact isWord.isSpaced
    | cons v ws =>
      have ne := intercalate_ne_nil (h v (.head _)).1 ws
      rw [List.intercalate_cons_cons, List.append_assoc]
      exact isWord.isSpaced.append_space (ih h) isWord.1 ne

/-- All that separates lines is blank. -/
theorem isBlank_of_endsLine {c : Char} (h : endsLine c = true) : isBlank c = true := by
  simp only [endsLine, Bool.or_eq_true, Bool.and_eq_true, decide_eq_true_eq, beq_iff_eq] at h
  simp only [isBlank, within, blanks, List.any_cons, List.any_nil, Bool.or_false, Bool.or_eq_true,
    Bool.and_eq_true, decide_eq_true_eq]
  omega

/-- What is cut off behind a character that is not blank can be missed. -/
theorem IsSpaced.of_front (h : IsSpaced cs) (front : ds <+: cs) (last : ∀ c ∈ ds.getLast?, isBlank c = false) :
    IsSpaced ds where
  spaces c hc := h.spaces c (front.mem hc)
  single := by
    obtain ⟨rest, rfl⟩ := front
    exact h.single.left_of_append
  first c hc := by
    obtain ⟨rest, rfl⟩ := front
    exact h.first c (List.mem_head?_append_of_mem_head? hc)
  last := last

end

/-! ### Cutting -/

/-- The beginnings of a text that do not end in a blank and are no longer than there is room. -/
structure IsCutOf (cs : List Char) (room : Int) (p : List Char) : Prop where
  front : p <+: cs
  fits : p.length ≤ room
  last : ∀ c ∈ p.getLast?, isBlank c = false

/-- Blanks are dropped from the end until there is something else. -/
theorem getLast?_trimEnd (cs : List Char) : ∀ c ∈ (trimEnd isBlank cs).getLast?, isBlank c = false := by
  intro c hc
  obtain ⟨ne, rfl⟩ := List.mem_getLast?_eq_getLast hc
  exact Bool.eq_false_iff.2 (List.rdropWhile_last_not isBlank cs ne)

/-- Of all beginnings for which there is room and which do not end in a blank, the longest is what is left if first
the text is cut and then blanks are dropped. -/
theorem isCutOf_trimEnd (cs : List Char) (room : Nat) : IsCutOf cs room (trimEnd isBlank (cs.take room)) ∧
    ∀ q, IsCutOf cs room q → q <+: trimEnd isBlank (cs.take room) := by
  obtain ⟨after, split, blank⟩ := exists_trimEnd isBlank (cs.take room)
  have last := getLast?_trimEnd (cs.take room)
  generalize trimEnd isBlank (cs.take room) = p at split last
  have front : p <+: cs.take room := ⟨after, split.symm⟩
  have taken : cs.take room <+: cs := List.take_prefix room cs
  refine ⟨⟨front.trans taken, ?_, last⟩, ?_⟩
  · exact_mod_cast front.length_le.trans (List.length_take_le room cs)
  · intro q cut
    have front : q <+: p ++ after := split ▸ List.prefix_take_iff.2 ⟨cut.front, by exact_mod_cast cut.fits⟩
    rcases List.prefix_or_prefix_of_prefix front (List.prefix_append p after) with shorter | ⟨more, rfl⟩
    · exact shorter
    · have front : more <+: after := (List.prefix_append_right_inj p).1 front
      -- a longer beginning ends in one of the blanks that were dropped
      cases ends : more.getLast? with
      | none => simp [List.getLast?_eq_none_iff.1 ends]
      | some c =>
        have plain := cut.last c (List.mem_getLast?_append_of_mem_getLast? ends)
        rw [blank c (front.mem (List.mem_of_getLast? ends))] at plain
        cases plain

/-- Two blanks next to each other there are not, so no more than one is dropped. -/
theorem length_le_trimEnd {cs : List Char} (single : cs.IsChain fun c d => isBlank c = false ∨ isBlank d = false) :
    cs.length ≤ (trimEnd isBlank cs).length + 1 := by
  obtain ⟨after, split, blank⟩ := exists_trimEnd isBlank cs
  have length : cs.length = (trimEnd isBlank cs).length + after.length := by
    rw [← List.length_append, ← split]
  rcases after with _ | ⟨c, _ | ⟨d, after⟩⟩
  · exact length.le.trans (Nat.le_succ _)
  · exact length.le
  · rw [split] at single
    have meet := (List.isChain_cons_cons.1 single.right_of_append).1
    rw [blank c (.head _), blank d (.tail _ (.head _))] at meet
    simp at meet

end Text

namespace Report

open Text

/-! ### Reports -/

/-- A name, and words behind a colon if there are any. -/
def headed (name : List Char) (ws : List (List Char)) : List Char :=
  if ws = [] then name else name ++ ':' :: ' ' :: [' '].intercalate ws

theorem isSpaced_headed {name : List Char} {ws : List (List Char)} (spaced : IsSpaced name)
    (isWord : ∀ w ∈ ws, IsWord w) : IsSpaced (headed name ws) := by
  cases ws with
  | nil => exact spaced
  | cons w ws =>
    have ne := intercalate_ne_nil (isWord w (.head _)).1 ws
    have colon : IsWord [':'] := by decide
    have spaced := (spaced.append colon.isSpaced).append_space (isSpaced_intercalate isWord) (by simp) ne
    rwa [List.append_assoc, List.singleton_append] at spaced

theorem toList_unspaced (s : String) : (unspaced s).toList = [' '].intercalate (words s.toList) := by
  have same : String.toList ∘ String.ofList = id := funext fun _ => String.toList_ofList
  rw [unspaced, String.toList_intercalate, List.map_map, same, List.map_id]
  rfl

theorem toList_headed (name s : String) :
    (if (unspaced s).isEmpty then name else name ++ ": " ++ unspaced s).toList =
      headed name.toList (words s.toList) := by
  have spelled := toList_unspaced s
  have isWord := (hasWords_words s.toList).isWord
  rw [headed]
  cases found : words s.toList with
  | nil =>
    rw [found] at spelled
    have empty : unspaced s = "" := String.toList_inj.1 spelled
    rw [empty]
    rfl
  | cons w ws =>
    rw [found] at spelled isWord
    have ne := intercalate_ne_nil (isWord w (.head _)).1 ws
    have some_words : (unspaced s).isEmpty = false := by
      rw [Bool.eq_false_iff, Ne, String.isEmpty_iff]
      intro empty
      rw [← spelled, empty] at ne
      exact ne rfl
    rw [some_words, if_neg Bool.false_ne_true, if_neg (List.cons_ne_nil _ _), String.toList_append,
      String.toList_append, spelled, List.append_assoc]
    rfl

/-- The words that a report has: those of the message, or none if the exception counts as false. -/
def told (e : Exception) (ws : List (List Char)) : List (List Char) := if e.isTruthy then ws else []

theorem toList_full (e : Exception) :
    (full e).toList = headed e.kind.toList (told e (words e.message.toList)) := by
  have same : words (if e.isTruthy then e.message else "").toList = told e (words e.message.toList) := by
    rw [told]
    cases e.isTruthy <;> rfl
  rw [full, Exception.detail, toList_headed, same]

theorem isWord_told {e : Exception} {ws : List (List Char)} (isWord : ∀ w ∈ ws, IsWord w) :
    ∀ w ∈ told e ws, IsWord w := by
  rw [told]
  split
  · exact isWord
  · exact List.forall_mem_nil _

/-- A report tells the whole message unless the exception counts as false and there is something to tell. -/
theorem headed_told_eq_iff (e : Exception) (ws : List (List Char)) :
    headed e.kind.toList (told e ws) = headed e.kind.toList ws ↔ e.isTruthy = true ∨ ws = [] := by
  cases truth : e.isTruthy with
  | true => simp [told, truth]
  | false =>
    by_cases none : ws = []
    · simp [none, told]
    · simp [told, truth, headed, none]

/-- Blanks other than single spaces stand in the name. -/
theorem eq_space_or_mem_of_isBlank {name : List Char} {ws : List (List Char)} (isWord : ∀ w ∈ ws, IsWord w)
    {c : Char} (hc : c ∈ headed name ws) (blank : isBlank c = true) : c = ' ' ∨ c ∈ name := by
  rw [headed] at hc
  split at hc
  · exact .inr hc
  · rcases List.mem_append.1 hc with hc | hc
    · exact .inr hc
    · rcases List.mem_cons.1 hc with rfl | hc
      · exact absurd blank (by decide)
      · rcases List.mem_cons.1 hc with rfl | hc
        · exact .inl rfl
        · exact .inl ((isSpaced_intercalate isWord).spaces c hc blank)

theorem mem_headed_of_mem {name : List Char} (ws : List (List Char)) {c : Char} (hc : c ∈ name) :
    c ∈ headed name ws := by
  rw [headed]
  split
  · exact hc
  · exact List.mem_append_left _ hc

/-! ### Lines -/

/-- How a text becomes a line of at most `length` characters. It is the line if it is short enough, or if there is no
room for more than the ellipsis. Otherwise the ellipsis ends the line, and before it is the longest beginning that does
not end in a blank and leaves room for it. -/
structure IsLineOf (text : List Char) (length : Int) (line : List Char) : Prop where
  whole : length ≤ 3 ∨ text.length ≤ length → line = text
  cut : 3 < length → length < text.length → ∃ p, line = p ++ ellipsis.toList ∧ IsCutOf text (length - 3) p ∧
    ∀ q, IsCutOf text (length - 3) q → q <+: p
  atMost : 3 < length → line.length ≤ length

section

variable {text line : List Char} {length : Int}

theorem IsLineOf.eq_or_long (h : IsLineOf text length line) : line = text ∨ (3 < length ∧ length < text.length) := by
  by_cases short : length ≤ 3 ∨ text.length ≤ length
  · exact .inl (h.whole short)
  · omega

theorem IsLineOf.mem (h : IsLineOf text length line) {c : Char} (hc : c ∈ line) (blank : isBlank c = true) :
    c ∈ text := by
  rcases h.eq_or_long with rfl | ⟨room, long⟩
  · exact hc
  · obtain ⟨p, rfl, kept, -⟩ := h.cut room long
    rcases List.mem_append.1 hc with hc | hc
    · exact kept.front.mem hc
    · have points : IsWord ellipsis.toList := by decide
      rw [points.2 c hc] at blank
      cases blank

theorem IsLineOf.isSpaced (h : IsLineOf text length line) (spaced : IsSpaced text) : IsSpaced line := by
  rcases h.eq_or_long with rfl | ⟨room, long⟩
  · exact spaced
  · obtain ⟨p, rfl, kept, -⟩ := h.cut room long
    have points : IsWord ellipsis.toList := by decide
    exact (spaced.of_front kept.front kept.last).append points.isSpaced

/-- At most one place stays free in a line that was cut. -/
theorem IsLineOf.le_length (h : IsLineOf text length line) (spaced : IsSpaced text) (room : 3 < length)
    (long : length < text.length) : length - 1 ≤ line.length := by
  obtain ⟨p, rfl, -, longest⟩ := h.cut room long
  obtain ⟨isCut, -⟩ := isCutOf_trimEnd text (length - 3).toNat
  rw [Int.toNat_of_nonneg (by omega)] at isCut
  have longer := (longest _ isCut).length_le
  have single := spaced.single
  rw [← List.take_append_drop (length - 3).toNat text] at single
  have kept := length_le_trimEnd single.left_of_append
  have points : ellipsis.toList.length = 3 := rfl
  rw [List.length_take] at kept
  rw [List.length_append, points]
  omega

end

section

variable (e : Exception) (length : Int)

theorem isLineOf_oneLine : IsLineOf (full e).toList length (oneLine e length).toList := by
  by_cases long : 3 < length ∧ length < (full e).toList.length
  · have same : (length - 3).toNat = length.toNat - 3 := by omega
    have line : (oneLine e length).toList =
        trimEnd isBlank ((full e).toList.take (length - 3).toNat) ++ ellipsis.toList := by
      simp only [oneLine, Bool.and_eq_true, decide_eq_true_eq]
      rw [if_pos long, String.toList_append, String.toList_ofList, same]
    have cut := isCutOf_trimEnd (full e).toList (length - 3).toNat
    rw [Int.toNat_of_nonneg (by omega)] at cut
    have fits := cut.1.fits
    have points : ellipsis.toList.length = 3 := rfl
    refine ⟨fun short => by omega, fun _ _ => ⟨_, line, cut⟩, fun _ => ?_⟩
    rw [line, List.length_append, points]
    omega
  · have line : oneLine e length = full e := by
      simp only [oneLine, Bool.and_eq_true, decide_eq_true_eq]
      rw [if_neg long, String.ofList_toList]
    rw [line]
    exact ⟨fun _ => rfl, fun room more => absurd ⟨room, more⟩ long, fun room => by omega⟩

variable {e length}

theorem isSpaced_full (spaced : IsSpaced e.kind.toList) : IsSpaced (full e).toList := by
  rw [toList_full]
  exact isSpaced_headed spaced (isWord_told (hasWords_words _).isWord)

theorem isSpaced_oneLine (spaced : IsSpaced e.kind.toList) : IsSpaced (oneLine e length).toList :=
  (isLineOf_oneLine e length).isSpaced (isSpaced_full spaced)

theorem length_oneLine_le (room : 3 < length) : (oneLine e length).length ≤ length :=
  (isLineOf_oneLine e length).atMost room

/-- Blanks of any other kind than single spaces can come from the name of the family alone. -/
theorem eq_space_or_mem_kind_of_isBlank {c : Char} (hc : c ∈ (oneLine e length).toList)
    (blank : isBlank c = true) : c = ' ' ∨ c ∈ e.kind.toList := by
  have hc := (isLineOf_oneLine e length).mem hc blank
  rw [toList_full] at hc
  exact eq_space_or_mem_of_isBlank (isWord_told (hasWords_words _).isWord) hc blank

/-- So nothing separates lines in a report on an exception in the name of whose family nothing does. -/
theorem endsLine_oneLine (name : ∀ c ∈ e.kind.toList, endsLine c = false) :
    ∀ c ∈ (oneLine e length).toList, endsLine c = false := by
  intro c hc
  by_contra broken
  have broken : endsLine c = true := by simpa using broken
  rcases eq_space_or_mem_kind_of_isBlank hc (isBlank_of_endsLine broken) with rfl | hc
  · cases broken
  · rw [name c hc] at broken
    cases broken

end

/--
A report on an exception, for every length. It has the name of the family and, behind a colon, the words of the message
with one blank between neighbours. The message is told only if the exception counts as true, so that something is missing
if it counts as false and has words. The line is what `IsLineOf` makes of that; it is never longer than allowed if more
than three characters are. A blank in the line other than a space stands in the name: if nothing in the name separates
lines then nothing in the line does, and in a line that is not cut only then. If the name has no blanks but single spaces
between words then so has the line, and at most one place is left free in a line that is cut.
-/
theorem oneLine_fits (e : Exception) (length : Int) :
    let line := (oneLine e length).toList
    let name := e.kind.toList
    ∃ ws, HasWords e.message.toList ws ∧
      let text := headed name (told e ws)
      (text = headed name ws ↔ e.isTruthy = true ∨ ws = []) ∧
      IsLineOf text length line ∧
      (∀ c ∈ line, isBlank c = true → c = ' ' ∨ c ∈ name) ∧
      ((∀ c ∈ name, endsLine c = false) → ∀ c ∈ line, endsLine c = false) ∧
      (line = text → (∀ c ∈ line, endsLine c = false) → ∀ c ∈ name, endsLine c = false) ∧
      (IsSpaced name → IsSpaced line ∧ (3 < length → length < text.length → length - 1 ≤ line.length)) := by
  intro line name
  have whole := toList_full e
  have isLine : IsLineOf (full e).toList length line := isLineOf_oneLine e length
  refine ⟨words e.message.toList, hasWords_words _, headed_told_eq_iff e _, ?_⟩
  rw [← whole]
  refine ⟨isLine, fun c => eq_space_or_mem_kind_of_isBlank, endsLine_oneLine, fun same plain c hc => ?_,
    fun spaced => ?_⟩
  · refine plain c ?_
    rw [same, whole]
    exact mem_headed_of_mem _ hc
  · exact ⟨isLine.isSpaced (isSpaced_full spaced), isLine.le_length (isSpaced_full spaced)⟩

/-- A line that is cut right behind a blank: a name, a line break and two other blanks, and a place left free. -/
theorem oneLine_fits_behindBlank :
    let e : Exception := { kind := "ValueError", message := "bad\u2028\t value" }
    IsSpaced e.kind.toList ∧ HasWords e.message.toList ["bad".toList, "value".toList] ∧
      oneLine e 19 = "ValueError: bad..." ∧ IsSpaced (oneLine e 19).toList ∧
      19 - 1 ≤ ((oneLine e 19).toList.length : Int) := by
  intro e
  have name : IsWord e.kind.toList := by decide
  obtain ⟨ws, has, -, -, -, -, -, tidy⟩ := oneLine_fits e 19
  obtain ⟨spacedLine, filled⟩ := tidy name.isSpaced
  have found : words e.message.toList = ["bad".toList, "value".toList] := by decide
  rw [has.words_eq] at found
  subst found
  exact ⟨name.isSpaced, has, by decide +kernel, spacedLine, filled (by decide) (by decide)⟩

/-- The message of an exception that counts as false is missing, a line break in the name of a family stays, and
nothing is cut where three characters are allowed. -/
theorem oneLine_not_always :
    (¬ ∀ (e : Exception) (length : Int) (ws : List (List Char)), 3 < length → HasWords e.message.toList ws →
      IsLineOf (headed e.kind.toList ws) length (oneLine e length).toList) ∧
    (¬ ∀ (e : Exception) (length : Int), 3 < length → ∀ c ∈ (oneLine e length).toList, endsLine c = false) ∧
    oneLine { kind := "ValueError", message := "bad" } 3 = "ValueError: bad" := by
  refine ⟨fun always => ?_, fun always => ?_, by decide +kernel⟩
  · have line := always { kind := "Problems", message := "disk is full", isTruthy := false } 180
      (words "disk is full".toList) (by decide) (hasWords_words _)
    exact absurd (line.whole (.inr (by decide))) (by decide)
  · have plain := always { kind := "Bad\nName", message := "x" } 180 (by decide) '\n' (by decide)
    cases plain

end Report

/-! ### Failures of the program -/

namespace Failure

theorem isWord_kind (f : Failure) : Text.IsWord f.kind.toList := by
  rw [kind]
  cases f.family <;> decide

/-- What the program says about a failure is a line with single blanks, whatever is in the files. -/
theorem isSpaced_summary (f : Failure) : Text.IsSpaced f.summary.toList :=
  Report.isSpaced_oneLine f.isWord_kind.isSpaced

theorem length_summary_le (f : Failure) : f.summary.length ≤ Report.defaultLength :=
  Report.length_oneLine_le (by decide)

end Failure
end TunnelSettings
