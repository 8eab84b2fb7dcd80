import TunnelSettings.Cli.Options
import TunnelSettings.Proofs.Reading
import TunnelSettings.Session

/-!
Command lines. Whatever each option and the argument keep, reading a whole command line keeps; so the
options of the program name one of the known levels and a path that can be written.
-/
namespace TunnelSettings

theorem Path.text_ofText_ne_empty (s : String) : (ofText s).text ≠ "" := by
  have spelled : ∀ part ∈ (ofText s).parts, part ≠ "" := by
    intro part h
    simp only [ofText, List.mem_filter, Bool.and_eq_true, decide_eq_true_eq] at h
    exact h.2.1
  rw [text]
  split
  · cases parts : (ofText s).parts with
    | nil => simp
    | cons part rest =>
      have hp : part ≠ "" := spelled part (by simp [parts])
      cases rest <;> simp [String.intercalate_cons_cons, hp]
  · next root =>
    split
    · exact root
    · split <;> simp [root]

namespace Cli

namespace Grammar

variable {σ ε : Type}

/-- Everything that can be found on a command line keeps a property of the state. -/
def Keeps (g : Grammar σ ε) (P : σ → Prop) : Prop :=
  ∀ s found s', P s → g.act s found = .ok s' → P s'

variable {g : Grammar σ ε} {P : σ → Prop}

theorem Keeps.foldlM (keeps : g.Keeps P) (given : List Given) (s s' : σ) (hs : P s)
    (h : given.foldlM (fun s o => g.act s (.option o)) s = .ok s') : P s' := by
  induction given generalizing s with
  | nil =>
    cases h
    exact hs
  | cons o given ih =>
    rw [List.foldlM_cons] at h
    obtain ⟨next, act, h⟩ := (bind_eq_ok_iff _ _ _).1 h
    exact ih next (keeps s _ next hs act) h

theorem Keeps.takeOption (keeps : g.Keeps P) (p p' : Progress σ) (o : Written) (rest rest' : List Token)
    (hp : P p.state) (h : g.takeOption p o rest = .ok (p', rest')) : P p'.state := by
  obtain ⟨opened, _, h⟩ := (bind_eq_ok_iff _ _ _).1 h
  have acted (given : List Given) (behind : List Token) (left : List String)
      (h : (do
        let state ← given.foldlM (fun s o => g.act s (.option o)) p.state
        return ({ p with state, leftOver := left }, behind)) = Except.ok (p', rest')) :
      P p'.state := by
    obtain ⟨state, acted, h⟩ := (bind_eq_ok_iff _ _ _).1 h
    cases h
    exact keeps.foldlM given p.state state hp acted
  dsimp only at h
  split at h
  · exact acted _ _ _ h
  · split at h
    · exact acted _ _ _ h
    · cases h
  · cases h

/-- By induction on the tokens that may still be read. -/
theorem Keeps.readTokens (keeps : g.Keeps P) (fuel : Nat) (p p' : Progress σ) (ts : List Token)
    (hp : P p.state) (h : g.readTokens fuel p ts = .ok p') : P p'.state := by
  induction fuel generalizing p ts with
  | zero =>
    cases h
    exact hp
  | succ fuel ih =>
    rw [Grammar.readTokens.eq_def] at h
    dsimp only at h
    split at h
    · cases h
      exact hp
    · obtain ⟨⟨next, rest⟩, taken, h⟩ := (bind_eq_ok_iff _ _ _).1 h
      exact ih next rest (keeps.takeOption p next _ _ rest hp taken) h
    · refine ih _ _ ?_ h
      exact hp
    · split at h
      · obtain ⟨state, acted, h⟩ := (bind_eq_ok_iff _ _ _).1 h
        exact ih { p with state, isComplete := true } _ (keeps p.state _ state hp acted) h
      · refine ih _ _ ?_ h
        exact hp

theorem Keeps.read (keeps : g.Keeps P) (start s : σ) (words leftOver : List String) (hs : P start)
    (h : g.read start words = .ok (s, leftOver)) : P s := by
  obtain ⟨ts, _, h⟩ := (bind_eq_ok_iff _ _ _).1 h
  obtain ⟨p, read, h⟩ := (bind_eq_ok_iff _ _ _).1 h
  have hp : P p.state := keeps.readTokens ts.length { state := start } p ts hs read
  split at h
  · cases h
    exact hp
  · cases h

end Grammar

/-- A level that is asked for is one of the known ones, and a path for the journal was written as one. -/
structure Options.Proper (o : Options) : Prop where
  level : ∀ name, o.logLevel = some name → name ∈ logLevels
  file : ∀ p, o.logFile = some p → ∃ text, p = .ofText text

theorem grammar_keeps_proper : grammar.Keeps Options.Proper := by
  intro o found o' ho h
  cases found with
  | argument words =>
    cases words with
    | nil =>
      cases h
      exact ho
    | cons command words =>
      dsimp only [grammar] at h
      split at h
      · cases h
      · obtain ⟨⟨check, leftOver⟩, _, h⟩ := (bind_eq_ok_iff _ _ _).1 h
        cases h
        exact ⟨ho.level, ho.file⟩
  | option given =>
    obtain ⟨form, value⟩ := given
    dsimp only [grammar] at h
    split at h
    · cases h
    · split at h
      · cases h
        exact ⟨ho.level, ho.file⟩
      · split at h
        · cases h
          exact ⟨ho.level, fun p hp => ⟨value, (Option.some.inj hp).symm⟩⟩
        · split at h
          · next known =>
            cases h
            exact ⟨fun name hn => by cases hn; simpa using known, ho.file⟩
          · cases h

theorem Options.proper_of_ofWords (words : List String) (o : Options) (h : ofWords words = .ok o) :
    o.Proper := by
  obtain ⟨⟨read, leftOver⟩, found, h⟩ := (bind_eq_ok_iff _ _ _).1 h
  have proper : read.Proper :=
    grammar_keeps_proper.read {} read words leftOver ⟨nofun, nofun⟩ found
  dsimp only at h
  split at h
  · cases h
    exact ⟨proper.level, proper.file⟩
  · cases h

theorem Options.Proper.askedLevel_mem {o : Options} (h : o.Proper) :
    Session.askedLevel o.verbose o.logLevel ∈ "INFO" :: logLevels := by
  rw [Session.askedLevel]
  cases named : o.logLevel with
  | none => cases o.verbose <;> simp [logLevels]
  | some name =>
    have hn : name ∈ logLevels := h.level name named
    have spelled : ∀ name ∈ logLevels, name.isEmpty = false := by decide
    simp [Option.filter_some, spelled name hn, hn]

/-- The journal can be set up for every level that a command line asks for. -/
theorem Options.Proper.exists_level {o : Options} (h : o.Proper) :
    ∃ level, Level.ofName (Session.askedLevel o.verbose o.logLevel) = .ok level := by
  have known : ∀ name ∈ "INFO" :: logLevels, ∃ level, Level.ofName name = .ok level := by
    intro name hn
    fin_cases hn <;> exact ⟨_, rfl⟩
  exact known _ h.askedLevel_mem

theorem Options.Proper.text_isEmpty {o : Options} (h : o.Proper) (p : Path) (named : o.logFile = some p) :
    p.text.isEmpty = false := by
  obtain ⟨text, rfl⟩ := h.file p named
  simpa using Path.text_ofText_ne_empty text

end Cli
end TunnelSettings
