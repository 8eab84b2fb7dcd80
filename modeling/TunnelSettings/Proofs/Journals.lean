import TunnelSettings.Session

/-!
The journal as it is configured. Whatever calls set it up or change its level, and whatever becomes of the files
meanwhile, there are at most one console and one file to write to, both at the level of the journal. What there
is to write to is decided by the last call that set the journal up.
-/
namespace TunnelSettings

/-! ### What a journal writes to -/

/-- Whether a sink is the console; every other one is a file. -/
def Sink.isConsole : Sink → Bool
  | console _ => true
  | file _ => false

namespace Journal

/-- How many handlers write to the console. -/
def consoles (j : Journal) : Nat := j.handlers.countP (·.sink.isConsole)

/-- How many handlers write to a file. -/
def files (j : Journal) : Nat := j.handlers.countP (!·.sink.isConsole)

/-- At most one console and at most one file, and every handler at the level of the journal. -/
structure IsTidy (j : Journal) : Prop where
  consoles : j.consoles ≤ 1
  files : j.files ≤ 1
  level : ∀ h ∈ j.handlers, h.level = j.level

variable {j : Journal}

theorem isTidy_of_handlers_eq_nil (none : j.handlers = []) : j.IsTidy := by
  constructor <;> simp [consoles, files, none]

@[simp] theorem consoles_console (j : Journal) (level : Level) : (j.console level).consoles = 1 := rfl

@[simp] theorem files_console (j : Journal) (level : Level) : (j.console level).files = 0 := rfl

@[simp] theorem consoles_withFile (j : Journal) (place : Path) : (j.withFile place).consoles = j.consoles := by
  simp [withFile, consoles, Sink.isConsole]

@[simp] theorem files_withFile (j : Journal) (place : Path) : (j.withFile place).files = j.files + 1 := by
  simp [withFile, files, Sink.isConsole]

theorem isTidy_console (j : Journal) (level : Level) : (j.console level).IsTidy := by
  constructor
  · simp
  · simp
  · intro h hh
    rw [List.mem_singleton.1 hh]
    rfl

theorem IsTidy.withFile (tidy : j.IsTidy) (none : j.files = 0) (place : Path) : (j.withFile place).IsTidy := by
  constructor
  · simpa using tidy.consoles
  · simp [none]
  · intro h hh
    rcases List.mem_append.1 hh with old | new
    · exact tidy.level h old
    · rw [List.mem_singleton.1 new]
      rfl

/-- A new level does not change what is written to. -/
@[simp] theorem sinks_withLevel (j : Journal) (level : Level) :
    (j.withLevel level).handlers.map (·.sink) = j.handlers.map (·.sink) := by
  simp [withLevel]

theorem level_of_mem_withLevel {level : Level} {h : Handler} (hh : h ∈ (j.withLevel level).handlers) :
    h.level = level := by
  obtain ⟨k, -, rfl⟩ := List.mem_map.1 hh
  rfl

theorem IsTidy.withLevel (tidy : j.IsTidy) (level : Level) : (j.withLevel level).IsTidy := by
  have consoles : (j.withLevel level).consoles = j.consoles := by
    simp [Journal.withLevel, Journal.consoles, List.countP_map, Function.comp_def]
  have files : (j.withLevel level).files = j.files := by
    simp [Journal.withLevel, Journal.files, List.countP_map, Function.comp_def]
  constructor
  · rw [consoles]
    exact tidy.consoles
  · rw [files]
    exact tidy.files
  · intro h hh
    exact level_of_mem_withLevel hh

theorem IsTidy.apply (tidy : j.IsTidy) (setting : Option String) : (j.apply setting).IsTidy := by
  rw [Journal.apply]
  split
  · exact tidy.withLevel _
  · exact tidy

end Journal

/-! ### The level that settings name -/

namespace Level

/-- In a table of different names a name stands for what has it. -/
theorem lookup_map_names (levels : List Level) (names : Level → String) (nodup : (levels.map names).Nodup)
    (word : String) (level : Level) :
    (levels.map fun level => (names level, level)).lookup word = some level ↔
      level ∈ levels ∧ word = names level := by
  induction levels with
  | nil => simp
  | cons first rest ih =>
    obtain ⟨new, nodup⟩ := List.nodup_cons.1 nodup
    by_cases same : word = names first
    · subst same
      rw [List.map_cons, List.lookup_cons_self, Option.some.injEq, List.mem_cons]
      constructor
      · rintro rfl
        exact ⟨.inl rfl, rfl⟩
      · rintro ⟨rfl | later, alike⟩
        · rfl
        · exact absurd (List.mem_map.2 ⟨level, later, alike.symm⟩) new
    · rw [List.map_cons, List.lookup_cons, beq_eq_false_iff_ne.2 same, ih nodup, List.mem_cons]
      constructor
      · rintro ⟨later, alike⟩
        exact ⟨.inr later, alike⟩
      · rintro ⟨rfl | later, alike⟩
        · exact absurd alike same
        · exact ⟨later, alike⟩

/-- The levels that settings can name. -/
def settable : List Level := [debug, info, warning, error]

/-- Settings name a level by its name in any letter case. -/
def IsNamedBy (level : Level) (setting : Option String) : Prop :=
  level ∈ settable ∧ Text.lower (setting.getD "") = Text.lower level.name

theorem ofSetting?_eq_some_iff (setting : Option String) (level : Level) :
    ofSetting? setting = some level ↔ level.IsNamedBy setting := by
  have table : [("debug", debug), ("info", info), ("warning", warning), ("error", error)] =
      settable.map fun level => (Text.lower level.name, level) := by decide
  rw [ofSetting?, table, lookup_map_names settable (fun level => Text.lower level.name) (by decide)]
  rfl

end Level

/-- A journal to which settings are applied writes to the same sinks as before. It and all its handlers have the
level that the settings name; if they name none, nothing changes. -/
structure Journal.Adopts (j j' : Journal) (setting : Option String) : Prop where
  sinks : j'.handlers.map (·.sink) = j.handlers.map (·.sink)
  named : ∀ level : Level, level.IsNamedBy setting → j'.level = level ∧ ∀ h ∈ j'.handlers, h.level = level
  unnamed : (∀ level : Level, ¬ level.IsNamedBy setting) → j' = j

theorem Journal.adopts_apply (j : Journal) (setting : Option String) : j.Adopts (j.apply setting) setting := by
  cases found : Level.ofSetting? setting with
  | none =>
    have same : j.apply setting = j := by rw [apply, found]
    rw [same]
    refine ⟨rfl, ?_, fun _ => rfl⟩
    intro level named
    rw [← Level.ofSetting?_eq_some_iff, found] at named
    cases named
  | some level =>
    have changed : j.apply setting = j.withLevel level := by rw [apply, found]
    rw [changed]
    refine ⟨j.sinks_withLevel level, ?_, ?_⟩
    · intro other named
      rw [← Level.ofSetting?_eq_some_iff, found] at named
      cases named
      exact ⟨rfl, fun h hh => level_of_mem_withLevel hh⟩
    · intro unnamed
      exact absurd ((Level.ofSetting?_eq_some_iff setting level).1 found) (unnamed level)

/-! ### Calls -/

/-- What setting up a journal can come to: the level has no name, or the console is set up, and then a file if
one is named, which may be refused. -/
inductive Session.SetsUp (s : Session) (levelName : String) (file : Option String) :
    Except Failure Unit × Session → Prop
  | noLevel (f : Failure) (unknown : Level.ofName levelName = .error f) : SetsUp s levelName file (.error f, s)
  | console (level : Level) (known : Level.ofName levelName = .ok level) (unnamed : ∀ name ∈ file, name = "") :
    SetsUp s levelName file (.ok (), { s with journal := s.journal.console level })
  | refused (level : Level) (known : Level.ofName levelName = .ok level) (name : String) (named : file = some name)
      (spelled : name ≠ "") (f : Failure) (shut : s.files.placeToWrite (.ofText name) = .error f) :
    SetsUp s levelName file (.error f, { s with journal := s.journal.console level })
  | file (level : Level) (known : Level.ofName levelName = .ok level) (name : String) (named : file = some name)
      (spelled : name ≠ "") (place : Path) (opens : s.files.placeToWrite (.ofText name) = .ok place) :
    SetsUp s levelName file (.ok (), { s with
      files := s.files.append place "", journal := (s.journal.console level).withFile place })

theorem Session.setsUp_setUp (s : Session) (levelName : String) (file : Option String) :
    s.SetsUp levelName file (s.setUp levelName file) := by
  rw [setUp]
  cases known : Level.ofName levelName with
  | error f => exact .noLevel f known
  | ok level =>
    cases file with
    | none => exact .console level known nofun
    | some name =>
      by_cases spelled : name = ""
      · subst spelled
        refine .console level known ?_
        rintro _ ⟨⟩
        rfl
      · rw [Option.filter_some, if_pos (by simpa using spelled)]
        dsimp only
        cases opens : s.files.placeToWrite (.ofText name) with
        | error f => exact .refused level known name rfl spelled f opens
        | ok place => exact .file level known name rfl spelled place opens

/-- A call that configures the journal. -/
inductive Call where
  /-- Set the journal up at a level, and with a file if one is named. -/
  | setUp (levelName : String) (file : Option String)
  /-- Set it up as the options of a command line ask for. -/
  | configure (verbose : Bool) (levelName file : Option String)
  /-- Use the level that settings name. -/
  | adopt (setting : Option String)
  deriving DecidableEq, Repr

namespace Call

def run : Call → Session → Except Failure Unit × Session
  | setUp levelName file, s => s.setUp levelName file
  | configure verbose levelName file, s => s.setUp (Session.askedLevel verbose levelName) file
  | adopt setting, s => (.ok (), { s with journal := s.journal.apply setting })

/-- The name of the level and of the file for which a call sets the journal up, if it does. -/
def target? : Call → Option (String × Option String)
  | setUp levelName file => some (levelName, file)
  | configure verbose levelName file => some (Session.askedLevel verbose levelName, file)
  | adopt _ => none

theorem run_of_target? {c : Call} {levelName : String} {file : Option String}
    (target : c.target? = some (levelName, file)) (s : Session) : c.run s = s.setUp levelName file := by
  cases c <;> cases target <;> rfl

end Call

theorem Session.SetsUp.isTidy {s : Session} {levelName : String} {file : Option String}
    {outcome : Except Failure Unit × Session} (h : s.SetsUp levelName file outcome) (tidy : s.journal.IsTidy) :
    outcome.2.journal.IsTidy := by
  cases h with
  | noLevel => exact tidy
  | console level => exact Journal.isTidy_console _ level
  | refused level => exact Journal.isTidy_console _ level
  | file level _ _ _ _ place => exact (Journal.isTidy_console _ level).withFile rfl place

/-- A call keeps the journal tidy, whether it succeeds or fails. -/
theorem Call.isTidy_run (c : Call) {s : Session} (tidy : s.journal.IsTidy) : (c.run s).2.journal.IsTidy := by
  cases c with
  | setUp levelName file => exact (s.setsUp_setUp levelName file).isTidy tidy
  | configure verbose levelName file => exact (s.setsUp_setUp _ file).isTidy tidy
  | adopt setting => exact tidy.apply setting

/-- The session after calls, each of which comes upon files of its own. -/
def Session.afterCalls (s : Session) (calls : List (Files × Call)) : Session :=
  calls.foldl (fun s call => (call.2.run { s with files := call.1 }).2) s

theorem Session.isTidy_afterCalls {s : Session} (tidy : s.journal.IsTidy) (calls : List (Files × Call)) :
    (s.afterCalls calls).journal.IsTidy := by
  induction calls generalizing s with
  | nil => exact tidy
  | cons call calls ih =>
    apply ih
    apply call.2.isTidy_run
    exact tidy

/-- What a call that sets the journal up does: it succeeds just if the level and the file allow it, and then there
is one console, and one file if one is named. -/
structure Session.IsSetUpBy (s : Session) (levelName : String) (file : Option String)
    (outcome : Except Failure Unit × Session) : Prop where
  succeeds : outcome.1 = .ok () ↔ (∃ level, Level.ofName levelName = .ok level) ∧
    ∀ name ∈ file, name ≠ "" → ∃ place, s.files.placeToWrite (.ofText name) = .ok place
  consoles : outcome.1 = .ok () → outcome.2.journal.consoles = 1
  files : outcome.1 = .ok () → (outcome.2.journal.files = 1 ↔ ∃ name ∈ file, name ≠ "")
  level : outcome.1 = .ok () → Level.ofName levelName = .ok outcome.2.journal.level

theorem Session.SetsUp.isSetUpBy {s : Session} {levelName : String} {file : Option String}
    {outcome : Except Failure Unit × Session} (h : s.SetsUp levelName file outcome) :
    s.IsSetUpBy levelName file outcome := by
  cases h with
  | noLevel f unknown => constructor <;> simp [unknown]
  | console level known unnamed =>
    refine ⟨?_, fun _ => rfl, fun _ => ?_, fun _ => known⟩
    · refine iff_of_true rfl ⟨⟨level, known⟩, ?_⟩
      intro name named spelled
      exact absurd (unnamed name named) spelled
    · refine iff_of_false Nat.zero_ne_one ?_
      rintro ⟨name, named, spelled⟩
      exact spelled (unnamed name named)
  | refused level known name named spelled f shut =>
    subst named
    constructor <;> simp [shut, spelled]
  | file level known name named spelled place opens =>
    subst named
    constructor <;> simp [known, opens, spelled]
    rfl

/--
Starting without handlers, after any calls the journal is tidy, whether they succeed or fail and whatever files
they come upon. After one that set the journal up without failing there is one console, and one file if it named
one. One that applies settings changes nothing but levels: those of the journal and of every handler become the
level that the settings name, and if they name none nothing changes at all.
-/
theorem journal_after_calls (s : Session) (bare : s.journal.handlers = []) (calls : List (Files × Call))
    (files : Files) (c : Call) :
    let u := { s.afterCalls calls with files }
    (c.run u).2.journal.IsTidy ∧
    (∀ levelName file, c.target? = some (levelName, file) → u.IsSetUpBy levelName file (c.run u)) ∧
    (∀ setting, c = .adopt setting →
      ∃ j, c.run u = (.ok (), { u with journal := j }) ∧ u.journal.Adopts j setting) := by
  intro u
  have tidy : u.journal.IsTidy := s.isTidy_afterCalls (Journal.isTidy_of_handlers_eq_nil bare) calls
  refine ⟨c.isTidy_run tidy, ?_, ?_⟩
  · intro levelName file target
    rw [Call.run_of_target? target]
    exact (u.setsUp_setUp levelName file).isSetUpBy
  · rintro setting rfl
    exact ⟨_, rfl, u.journal.adopts_apply setting⟩

/-- A session next to a folder. -/
def besideFolder : Session where
  files := { here := ⟨"/", []⟩, folders := [⟨"/", ["d"]⟩], wording _ := "" }
  stamp := ⟨"09:05:07", "2024-05-17 09:05:07", "7"⟩
  trace _ := ""

/-- A set-up with a file, and one whose file is a folder: then the console alone is left, and settings and further
set-ups change it. -/
theorem journal_after_calls_refused :
    let calls : List (Files × Call) := [(besideFolder.files, .setUp "debug" (some "log.txt")),
      (besideFolder.files, .configure true none (some "d"))]
    let u := { besideFolder.afterCalls calls with files := besideFolder.files }
    besideFolder.journal.handlers = [] ∧ u.journal.IsTidy ∧
    u.journal.handlers = [⟨.debug, .console true⟩] ∧
    (∃ j, (Call.adopt (some "Error")).run u = (.ok (), { u with journal := j }) ∧ j.level = .error) ∧
    ((Call.setUp "warn" (some "log.txt")).run u).2.journal.files = 1 := by
  intro calls u
  have fresh : besideFolder.journal.handlers = [] := rfl
  obtain ⟨-, -, adopts⟩ := journal_after_calls besideFolder fresh calls besideFolder.files (.adopt (some "Error"))
  obtain ⟨tidy, setUp, -⟩ :=
    journal_after_calls besideFolder fresh calls besideFolder.files (.setUp "warn" (some "log.txt"))
  obtain ⟨j, ran, adopted⟩ := adopts _ rfl
  have named : Level.error.IsNamedBy (some "Error") := ⟨by decide, by decide⟩
  refine ⟨fresh, ?_, by decide, ⟨j, ran, (adopted.named .error named).1⟩, ?_⟩
  · exact besideFolder.isTidy_afterCalls (Journal.isTidy_of_handlers_eq_nil fresh) calls
  · exact ((setUp _ _ rfl).files rfl).2 ⟨"log.txt", rfl, by decide⟩

end TunnelSettings
