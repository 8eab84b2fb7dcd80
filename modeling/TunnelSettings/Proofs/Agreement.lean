import TunnelSettings.Proofs.ExitCodes
import TunnelSettings.Proofs.Places
import TunnelSettings.Proofs.Showing
import TunnelSettings.Proofs.Verdicts

/-!
The `check` command and the loader. They read settings by different ways, and agree on whether the
settings are valid, on whether they can be read, and on the settings.
-/
namespace TunnelSettings

/-! ### Sessions with a journal for the console -/

/-- A journal that writes to the console alone. -/
def Journal.IsConsole (j : Journal) : Prop := ∀ h ∈ j.handlers, ∃ timed, h.sink = .console timed

theorem Journal.isConsole_console (j : Journal) (level : Level) : (j.console level).IsConsole := by
  intro h hh
  rw [List.mem_singleton.1 hh]
  exact ⟨_, rfl⟩

theorem Journal.IsConsole.withLevel {j : Journal} (console : j.IsConsole) (level : Level) :
    (j.withLevel level).IsConsole := by
  intro h hh
  obtain ⟨k, hk, rfl⟩ := List.mem_map.1 hh
  exact console k hk

theorem Journal.IsConsole.apply {j : Journal} (console : j.IsConsole) (setting : Option String) :
    (j.apply setting).IsConsole := by
  rw [Journal.apply]
  split
  · exact console.withLevel _
  · exact console

namespace Session

/-- A session that comes after another in which nothing was printed, and nothing written but lines for the
console. -/
structure Follows (s s' : Session) : Prop where
  files : s'.files = s.files
  output : s'.output = s.output
  console : s'.journal.IsConsole

namespace Follows

variable {s s' s'' : Session}

theorem refl (console : s.journal.IsConsole) : s.Follows s := ⟨rfl, rfl, console⟩

theorem trans (h : s.Follows s') (h' : s'.Follows s'') : s.Follows s'' :=
  ⟨h'.files.trans h.files, h'.output.trans h.output, h'.console⟩

theorem complain (h : s.Follows s') (line : String) : s.Follows (s'.complain line) :=
  ⟨h.files, h.output, h.console⟩

theorem writeAll (h : s.Follows s') (r : Record) (sinks : List Sink)
    (console : ∀ sink ∈ sinks, ∃ timed, sink = .console timed) :
    s.Follows (sinks.foldl (fun s sink => s.write r sink) s') := by
  induction sinks generalizing s' with
  | nil => exact h
  | cons sink sinks ih =>
    obtain ⟨⟨timed, rfl⟩, rest⟩ := List.forall_mem_cons.1 console
    exact ih (h.complain _) rest

theorem log (h : s.Follows s') (r : Record) : s.Follows (s'.log r) := by
  rw [Session.log]
  split
  · exact h
  split
  · exact h.complain _
  refine h.writeAll r _ fun sink hs => ?_
  obtain ⟨handler, hh, rfl⟩ := List.mem_map.1 hs
  have hh := (List.mem_filter.1 hh).1
  rw [Journal.handlersFor] at hh
  split at hh
  · exact h.console handler hh
  · cases hh

theorem logAll (h : s.Follows s') (records : List Record) : s.Follows (records.foldl Session.log s') := by
  induction records generalizing s' with
  | nil => exact h
  | cons r records ih => exact ih (h.log r)

end Follows

theorem follows_noteUnknown (s : Session) (p : Path) (console : s.journal.IsConsole) :
    s.Follows (s.noteUnknown p) := by
  rw [noteUnknown]
  repeat' split
  all_goals first | exact .refl console | exact (Follows.refl console).log _

theorem follows_noteServers (s : Session) (p : Path) (shown : String) (console : s.journal.IsConsole) :
    s.Follows (s.noteServers p shown) := by
  rw [noteServers]
  split
  · exact (Follows.refl console).log _
  · exact .refl console

end Session

/-! ### Loading -/

namespace Settings

/-- The settings that a file gives, complete and valid. -/
def loaded (d : Files) (p : Path) (servers : Servers) (ipv6 : Bool) (env : Secrets) :
    Except Failure Settings := do
  let s := Cli.plainly (← d.fragment (← d.settled p) env)
  s.validate servers ipv6
  return s

theorem run_load (p : Path) (servers : Servers) (ipv6 : Bool) (env : Secrets) (s : Session) :
    ((load p servers ipv6 env).run s).1 = loaded s.files p servers ipv6 env := by
  rw [load, Task.run_bind, Task.run_get, loaded]
  dsimp only
  rw [Task.run_bind, Task.run_lift]
  cases s.files.settled p with
  | error f => rfl
  | ok full =>
    rw [ok_bind]
    dsimp only
    rw [Task.run_bind, run_readFragment]
    cases s.files.fragment full env with
    | error f => rfl
    | ok fragment =>
      rw [ok_bind]
      dsimp only
      rw [Task.run_bind, run_mergeFragment]
      dsimp only
      rw [Task.run_bind, Task.run_lift, Cli.plainly]
      cases ((merge {} fragment).withDefaults).validate servers ipv6 <;> rfl

end Settings
namespace Cli

variable (o : CheckOptions) (env : Secrets)

/-- The settings that are checked, or the complaint about them. -/
def CheckOptions.effective (o : CheckOptions) (d : Files) (env : Secrets) :
    Except Failure (Except Failure Settings) := do
  let data ← o.serversIn d
  let s := plainly (← d.fragment o.settings env)
  match s.validate data o.ipv6, o.override with
  | .error f, _ => return .error f
  | .ok (), none => return .ok s
  | .ok (), some p => return s.override (← d.fragment p env) data o.ipv6

theorem run_overrideWith_follows (s fragment : Settings) (servers : Servers) (ipv6 : Bool)
    (session : Session) (console : session.journal.IsConsole) :
    session.Follows ((s.overrideWith fragment servers ipv6).run session).2 := by
  unfold Settings.overrideWith
  cases s.override fragment servers ipv6
  · exact (Session.Follows.refl console).log _
  · exact (Session.Follows.refl console).log _

theorem run_overridden (s : Session) (console : s.journal.IsConsole) (data : Servers)
    (settings : Settings) :
    ∃ s', s.Follows s' ∧ (overridden o env data settings).run s =
      (match settings.validate data o.ipv6, o.override with
        | .error f, _ => .ok (.error f)
        | .ok (), none => .ok (.ok settings)
        | .ok (), some p => do return settings.override (← s.files.fragment p env) data o.ipv6, s') := by
  rw [overridden]
  cases settings.validate data o.ipv6 with
  | error f => exact ⟨s, .refl console, rfl⟩
  | ok u =>
    cases o.override with
    | none => exact ⟨s, .refl console, rfl⟩
    | some p =>
      dsimp only
      rw [Task.run_bind, run_readFragment]
      have noted := s.follows_noteUnknown p console
      cases s.files.fragment p env with
      | error f => exact ⟨_, noted, rfl⟩
      | ok fragment =>
        dsimp only
        rw [Task.run_outcome, Settings.run_overrideWith]
        exact ⟨_, noted.trans (run_overrideWith_follows settings fragment data o.ipv6 _ noted.console), rfl⟩

theorem follows_noteServers (s : Session) (console : s.journal.IsConsole) :
    s.Follows (o.noteServers s) := by
  rw [CheckOptions.noteServers]
  split
  · exact s.follows_noteServers _ _ console
  · exact .refl console

theorem run_effectiveSettings (s : Session) (console : s.journal.IsConsole) :
    ∃ s', s.Follows s' ∧ (effectiveSettings o env).run s = (o.effective s.files env, s') := by
  rw [effectiveSettings, Task.run_bind, run_serversFor, CheckOptions.effective]
  have first := follows_noteServers o s console
  cases o.serversIn s.files with
  | error f => exact ⟨_, first, rfl⟩
  | ok data =>
    dsimp only
    rw [Task.run_bind, run_readFragment, first.files, ok_bind]
    have second := first.trans ((o.noteServers s).follows_noteUnknown o.settings first.console)
    cases s.files.fragment o.settings env with
    | error f => exact ⟨_, second, rfl⟩
    | ok fragment =>
      dsimp only
      rw [Task.run_bind, Settings.run_mergeFragment, ok_bind]
      dsimp only
      have third := second.log ⟨Part.settings.name, .debug, "Merged settings fragment"⟩
      obtain ⟨s', last, ran⟩ := run_overridden o env _ third.console data (plainly fragment)
      refine ⟨s', third.trans last, ?_⟩
      rw [third.files] at ran
      exact ran

/-- The exit code for an outcome of a check, unless that is a failure without one. -/
def codeFor : Except Failure (Except Failure Settings) → Except Failure Nat
  | .ok (.ok _) => .ok 0
  | .ok (.error _) => .ok 1
  | .error f => if f.isReported then .ok 2 else .error f

/-- What is printed for an outcome of a check: the summary of settings that are valid. -/
def printed : Except Failure (Except Failure Settings) → String
  | .ok (.ok settings) =>
    match settings.summaryText with
    | .ok text => text ++ "\n"
    | .error _ => ""
  | _ => ""

theorem printed_error (f : Failure) : printed (.error f) = "" := rfl

theorem printed_complaint (f : Failure) : printed (.ok (.error f)) = "" := rfl

theorem output_present (o : Options) (settings : Settings) (s : Session) (console : s.journal.IsConsole)
    (text : String) (shown : settings.summaryText = .ok text) :
    ((present o settings).run s).1 = .ok 0 ∧
      ((present o settings).run s).2.output = s.output ++ (text ++ "\n") := by
  rw [run_present, shown]
  refine ⟨rfl, ?_⟩
  have level : s.Follows (o.withLevel settings s) := by
    rw [Options.withLevel]
    split
    · exact ⟨rfl, rfl, console.apply _⟩
    · exact .refl console
  have advised : ((o.withLevel settings s).print text).Follows
      (advise settings ((o.withLevel settings s).print text)) := by
    rw [advise]
    have logged := (Session.Follows.refl (s := (o.withLevel settings s).print text) level.console).logAll
      (settings.warnings.map fun warning => ⟨Part.commandLine.name, .warning, warning⟩)
    rw [List.foldl_map] at logged
    exact logged
  have line : ((o.withLevel settings s).print text).output = (o.withLevel settings s).output ++ text ++ "\n" :=
    rfl
  rw [advised.output, line, level.output, String.append_assoc]

theorem run_answer_check (o : Options) (env : Secrets) (s : Session) (console : s.journal.IsConsole)
    (shown : ∀ settings, o.check.effective s.files env = .ok (.ok settings) →
      Succeeds settings.summaryText) :
    (((check o env).outcome >>= answer).run s).1 = codeFor (o.check.effective s.files env) ∧
      (((check o env).outcome >>= answer).run s).2.output =
        s.output ++ printed (o.check.effective s.files env) := by
  obtain ⟨s', follows, ran⟩ := run_effectiveSettings o.check env s console
  rw [Task.run_bind, Task.run_outcome, check, Task.run_bind, ran]
  cases found : o.check.effective s.files env with
  | error f =>
    dsimp only
    rw [run_answer_error, codeFor]
    rw [printed_error, String.append_empty, ← follows.output]
    cases f.isReported <;> exact ⟨rfl, rfl⟩
  | ok outcome =>
    cases outcome with
    | error f =>
      refine ⟨rfl, ?_⟩
      have refused := (follows.log
        ⟨Part.commandLine.name, .debug, "Settings check failed\n" ++ s'.trace f⟩).complain
        ("Invalid settings: " ++ f.summary)
      rw [printed_complaint, String.append_empty]
      exact refused.output
    | ok settings =>
      obtain ⟨text, text_eq⟩ := shown settings found
      obtain ⟨code, output⟩ := output_present o settings s' follows.console text text_eq
      dsimp only
      rw [code, printed, text_eq]
      exact ⟨rfl, by rw [← follows.output]; exact output⟩

/-- Without a file for the journal a command begins by setting up the console. -/
theorem run_carryOut (o : Options) (level : Level)
    (known : Level.ofName (Session.askedLevel o.verbose o.logLevel) = .ok level)
    (noFile : o.logFile = none) (s : Session) :
    (carryOut o env).run s =
      ((check o env).outcome >>= answer).run { s with journal := s.journal.console level } := by
  have ready : s.setUp (Session.askedLevel o.verbose o.logLevel) (o.logFile.map Path.text) =
      (.ok (), { s with journal := s.journal.console level }) := by
    rw [Session.setUp, known, noFile]
    rfl
  rw [carryOut, Task.run_bind, Task.run_setUpJournal, ready]

/-- Finding the full path of settings and reading them does not end with a verdict on them. -/
theorem not_judges_settledFragment (d : Files) (p : Path) (env : Secrets) :
    ¬ Judges (d.settled p >>= fun q => d.fragment q env) := by
  refine not_judges_bind (not_judges_bind ?_ fun q => ?_) fun q => d.not_judges_fragment q env
  · unfold Files.expanded
    repeat' split
    all_goals first | exact judges_ok _ | exact not_judges_error rfl
  · rw [Files.fullPath]
    split
    · exact not_judges_error rfl
    · exact judges_ok _

/-- Settings are read first, and then they are judged. -/
theorem loaded_eq (d : Files) (p : Path) (servers : Servers) (ipv6 : Bool) (env : Secrets) :
    Settings.loaded d p servers ipv6 env =
      (d.settled p >>= fun q => d.fragment q env) >>= fun fragment => do
        (plainly fragment).validate servers ipv6
        return plainly fragment := by
  rw [Settings.loaded, bind_assoc]

/-- How what a check finds is related to what the loader gives: they fail alike to read the settings, or
have the same complaint about them, or have the same settings, on top of which the check puts the
override. -/
inductive Related (o : CheckOptions) (d : Files) (env : Secrets) (data : Servers) :
    Except Failure Settings → Except Failure (Except Failure Settings) → Prop
  | unread (f f' : Failure) (plain : f.isVerdict = false) (same : f.isReported = f'.isReported) :
    Related o d env data (.error f) (.error f')
  | refused (g : Group) (c : Complaint) :
    Related o d env data (.error (.invalid g c)) (.ok (.error (.invalid g c)))
  | plain (settings : Settings) (complete : settings.IsComplete) (none : o.override = none) :
    Related o d env data (.ok settings) (.ok (.ok settings))
  | overridden (settings : Settings) (complete : settings.IsComplete) (p : Path)
      (named : o.override = some p) :
    Related o d env data (.ok settings)
      (do return settings.override (← d.fragment p env) data o.ipv6)

theorem related_effective (o : CheckOptions) (d : Files) (data : Servers) (proper : d.Proper)
    (straight : ".." ∉ o.settings.parts) (homeless : o.settings.owner? = none) (stored : o.serversIn d = .ok data) :
    Related o d env data (Settings.loaded d o.settings data o.ipv6 env) (o.effective d env) := by
  have alike := Files.fragment_settled proper o.settings straight homeless env
  have unjudged := not_judges_settledFragment d o.settings env
  rw [loaded_eq, CheckOptions.effective, stored, ok_bind]
  rcases alike with same | ⟨f, f', read, read', reported⟩
  · rw [← same]
    cases read : d.settled o.settings >>= fun q => d.fragment q env with
    | error f =>
      refine .unread f f ?_ rfl
      rw [read, judges_error] at unjudged
      exact Bool.not_eq_true _ ▸ unjudged
    | ok fragment =>
      have complete : (plainly fragment).IsComplete := Settings.isComplete_withDefaults _
      rw [ok_bind, ok_bind]
      dsimp only
      rcases Settings.validate_cases data o.ipv6 (plainly fragment) with valid | ⟨g, c, invalid⟩
      · rw [valid]
        cases named : o.override with
        | none => exact .plain _ complete named
        | some p => exact .overridden _ complete p named
      · rw [invalid]
        exact .refused g c
  · rw [read, read']
    refine .unread f f' ?_ reported
    rw [read, judges_error] at unjudged
    exact Bool.not_eq_true _ ▸ unjudged

/-- The exit code and the printed summary of a check without a file for the journal. -/
theorem run_agrees (words : List String) (o : Options) (s : Session)
    (understood : Options.ofWords words = .ok o) (noFile : o.logFile = none)
    (shown : ∀ settings, o.check.effective s.files env = .ok (.ok settings) →
      Succeeds settings.summaryText) :
    ((run words env).run s).1 = codeFor (o.check.effective s.files env) ∧
      ((run words env).run s).2.output = s.output ++ printed (o.check.effective s.files env) := by
  obtain ⟨level, known⟩ := (Options.proper_of_ofWords words o understood).exists_level
  rw [run, understood]
  dsimp only
  rw [run_carryOut env o level known noFile s]
  exact run_answer_check o env _ (Journal.isConsole_console _ level) shown

/-- A failure that is reported and is no verdict: a missing file, or an unsuitable value. -/
def IsTrouble (f : Failure) : Prop := f.isReported = true ∧ f.isVerdict = false

namespace Related

variable {o : CheckOptions} {d : Files} {env : Secrets} {data : Servers} {loaded : Except Failure Settings}
  {found : Except Failure (Except Failure Settings)}

/-- What is found can be shown if the loaded settings and the override hold no long integers. -/
theorem shown (related : Related o d env data loaded found)
    (short : ∀ settings, loaded = .ok settings → settings.IsShort)
    (shortOverride : ∀ p fragment, o.override = some p → d.fragment p env = .ok fragment →
      fragment.IsShort) (settings : Settings) (ok : found = .ok (.ok settings)) :
    Succeeds settings.summaryText := by
  cases related with
  | unread f f' plain same => cases ok
  | refused g c => cases ok
  | plain settings' complete none =>
    cases ok
    exact complete.succeeds_summaryText (short settings rfl)
  | overridden below complete p named =>
    obtain ⟨fragment, read, patched⟩ := (bind_eq_ok_iff _ _ _).1 ok
    obtain ⟨_, rfl⟩ := (Settings.override_eq_ok_iff _ _ _ _ _).1 (Except.ok.inj patched)
    exact (complete.overlay fragment).succeeds_summaryText
      ((short below rfl).overlay (shortOverride p fragment named read))

theorem code_of_plain (related : Related o d env data loaded found) (none : o.override = none) :
    (codeFor found = .ok 0 ↔ ∃ settings, loaded = .ok settings) ∧
      (∀ settings, loaded = .ok settings → found = .ok (.ok settings)) ∧
      (codeFor found = .ok 1 ↔ ∃ g c, loaded = .error (.invalid g c)) ∧
      (codeFor found = .ok 2 ↔ ∃ f, loaded = .error f ∧ IsTrouble f) := by
  cases related with
  | unread f f' plain same =>
    have other : ∀ g c, f ≠ .invalid g c := by
      rintro g c rfl
      cases plain
    cases reported : f'.isReported <;> rw [reported] at same <;>
      simp [codeFor, IsTrouble, reported, same, other, plain]
  | refused g c => simp [codeFor, IsTrouble, Failure.isVerdict]
  | plain settings complete none => simp [codeFor]
  | overridden settings complete p named =>
    rw [none] at named
    cases named

theorem code_of_override (related : Related o d env data loaded found) (p : Path)
    (named : o.override = some p) :
    (codeFor found = .ok 0 ↔ ∃ settings upper patched, loaded = .ok settings ∧
        d.fragment p env = .ok upper ∧ settings.override upper data o.ipv6 = .ok patched) ∧
      (∀ settings upper patched, loaded = .ok settings → d.fragment p env = .ok upper →
        settings.override upper data o.ipv6 = .ok patched → found = .ok (.ok patched)) ∧
      (codeFor found = .ok 1 ↔ (∃ g c, loaded = .error (.invalid g c)) ∨
        ∃ settings upper f, loaded = .ok settings ∧ d.fragment p env = .ok upper ∧
          settings.override upper data o.ipv6 = .error f) ∧
      (codeFor found = .ok 2 ↔ (∃ f, loaded = .error f ∧ IsTrouble f) ∨
        ∃ settings f, loaded = .ok settings ∧ d.fragment p env = .error f ∧ IsTrouble f) := by
  cases related with
  | unread f f' plain same =>
    have other : ∀ g c, f ≠ .invalid g c := by
      rintro g c rfl
      cases plain
    cases reported : f'.isReported <;> rw [reported] at same <;>
      simp [codeFor, IsTrouble, reported, same, other, plain]
  | refused g c => simp [codeFor, IsTrouble, Failure.isVerdict]
  | plain settings complete none =>
    rw [none] at named
    cases named
  | overridden settings complete q named' =>
    obtain rfl : p = q := Option.some.inj (named.symm.trans named')
    have unjudged := d.not_judges_fragment p env
    cases read : d.fragment p env with
    | error f =>
      rw [read, judges_error, Bool.not_eq_true] at unjudged
      cases reported : f.isReported <;> simp [codeFor, IsTrouble, reported, unjudged]
    | ok upper =>
      rw [ok_bind]
      cases patched : settings.override upper data o.ipv6 with
      | error f =>
        simp [codeFor, pure, Except.pure, patched]
        rintro _ _ _ rfl rfl
        simp [patched]
      | ok top =>
        simp [codeFor, pure, Except.pure, patched]
        rintro _ _ _ rfl rfl
        simp [patched]

end Related

variable (o : CheckOptions) (env : Secrets)

/-- If the settings in the file are not valid, the check refuses them and looks at nothing else. -/
theorem run_check_of_invalid (o : Options) (data : Servers) (fragment : Settings) (e : Failure)
    (s : Session) (console : s.journal.IsConsole) (stored : o.check.serversIn s.files = .ok data)
    (given : s.files.fragment o.check.settings env = .ok fragment)
    (invalid : (plainly fragment).validate data o.check.ipv6 = .error e) :
    (check o env).run s = (refuse e).run (o.check.noteMerged s) := by
  have first := follows_noteServers o.check s console
  have ran : (effectiveSettings o.check env).run s = (.ok (.error e), o.check.noteMerged s) := by
    rw [effectiveSettings, Task.run_bind, run_serversFor, stored]
    dsimp only
    rw [Task.run_bind, run_readFragment, first.files, given]
    dsimp only
    rw [Task.run_bind, Settings.run_mergeFragment]
    dsimp only
    rw [overridden, show (Settings.merge {} fragment).withDefaults = plainly fragment from rfl, invalid]
    rfl
  rw [check, Task.run_bind, ran]

/-- The same options without an override. -/
def Options.alone (o : Options) : Options := { o with check := { o.check with override := none } }

/-- If the settings in the file are not valid, a command with an override does what it does without it. -/
theorem run_carryOut_of_invalid (o : Options) (proper : o.Proper) (noFile : o.logFile = none)
    (data : Servers) (fragment : Settings) (e : Failure) (s : Session)
    (stored : o.check.serversIn s.files = .ok data)
    (given : s.files.fragment o.check.settings env = .ok fragment)
    (invalid : (plainly fragment).validate data o.check.ipv6 = .error e) :
    (carryOut o.alone env).run s = (carryOut o env).run s := by
  obtain ⟨level, known⟩ := proper.exists_level
  have refused := run_check_of_invalid env o data fragment e { s with journal := s.journal.console level }
    (Journal.isConsole_console _ level) stored given invalid
  have refusedAlone := run_check_of_invalid env o.alone data fragment e { s with journal := s.journal.console level }
    (Journal.isConsole_console _ level) stored given invalid
  rw [run_carryOut env o level known noFile, run_carryOut env o.alone level known noFile, Task.run_bind,
    Task.run_bind, Task.run_outcome, Task.run_outcome, refused, refusedAlone]
  rfl

/-- The complaint of the loader is about the settings that the check reads. -/
theorem exists_fragment_of_invalid (o : CheckOptions) (d : Files) (data : Servers) (proper : d.Proper)
    (straight : ".." ∉ o.settings.parts) (homeless : o.settings.owner? = none) (g : Group) (c : Complaint)
    (invalid : Settings.loaded d o.settings data o.ipv6 env = .error (.invalid g c)) :
    ∃ fragment, d.fragment o.settings env = .ok fragment ∧
      (plainly fragment).validate data o.ipv6 = .error (.invalid g c) := by
  have unjudged := not_judges_settledFragment d o.settings env
  have alike := Files.fragment_settled proper o.settings straight homeless env
  rw [loaded_eq] at invalid
  cases read : d.settled o.settings >>= fun q => d.fragment q env with
  | error f =>
    rw [read, error_bind] at invalid
    rw [read, judges_error, Except.error.inj invalid] at unjudged
    exact absurd rfl unjudged
  | ok fragment =>
    refine ⟨fragment, (alike.ok_iff fragment).1 read, ?_⟩
    rw [read, ok_bind] at invalid
    cases judged : (plainly fragment).validate data o.ipv6 with
    | error f =>
      rw [judged] at invalid
      rw [Except.error.inj invalid]
    | ok u =>
      rw [judged] at invalid
      cases invalid

/-- `check` agrees with the loader. For a settings path that neither goes up nor starts in a home folder,
and no file for the journal:

Without an override, the code is 0 if and only if the loader gives settings, whose summary is then
printed; it is 1 if and only if the loader complains that they are not valid, and 2 if and only if it
reports another failure.

With an override, the code is 0 if and only if the loader gives settings, the override can be read,
and put on top of them it is accepted; then the summary of the result is printed. A refused override gives
1, one that cannot be read gives 2 if the failure is one that is reported. If the loader complains, the
override does not matter at all. -/
theorem check_agrees_with_load (words : List String) (o : Options) (env : Secrets) (s : Session)
    (data : Servers) (understood : Options.ofWords words = .ok o) (noFile : o.logFile = none)
    (proper : s.files.Proper) (straight : ".." ∉ o.check.settings.parts) (homeless : o.check.settings.owner? = none)
    (stored : o.check.serversIn s.files = .ok data)
    (short : ∀ settings, ((Settings.load o.check.settings data o.check.ipv6 env).run s).1 = .ok settings →
      settings.IsShort)
    (shortOverride : ∀ p fragment, o.check.override = some p →
      ((readFragment p env).run s).1 = .ok fragment → fragment.IsShort) :
    let loaded := ((Settings.load o.check.settings data o.check.ipv6 env).run s).1
    let code := ((run words env).run s).1
    let output := ((run words env).run s).2.output
    (o.check.override = none →
      (code = .ok 0 ↔ ∃ settings, loaded = .ok settings) ∧
      (∀ settings, loaded = .ok settings →
        ∃ text, settings.summaryText = .ok text ∧ output = s.output ++ (text ++ "\n")) ∧
      (code = .ok 1 ↔ ∃ g c, loaded = .error (.invalid g c)) ∧
      (code = .ok 2 ↔ ∃ f, loaded = .error f ∧ IsTrouble f)) ∧
    (∀ p, o.check.override = some p →
      let upper := ((readFragment p env).run s).1
      (code = .ok 0 ↔ ∃ settings fragment patched, loaded = .ok settings ∧ upper = .ok fragment ∧
        settings.override fragment data o.check.ipv6 = .ok patched) ∧
      (∀ settings fragment patched, loaded = .ok settings → upper = .ok fragment →
        settings.override fragment data o.check.ipv6 = .ok patched →
        ∃ text, patched.summaryText = .ok text ∧ output = s.output ++ (text ++ "\n")) ∧
      (code = .ok 1 ↔ (∃ g c, loaded = .error (.invalid g c)) ∨
        ∃ settings fragment f, loaded = .ok settings ∧ upper = .ok fragment ∧
          settings.override fragment data o.check.ipv6 = .error f) ∧
      (code = .ok 2 ↔ (∃ f, loaded = .error f ∧ IsTrouble f) ∨
        ∃ settings f, loaded = .ok settings ∧ upper = .error f ∧ IsTrouble f) ∧
      ∀ g c, loaded = .error (.invalid g c) → ∀ words', Options.ofWords words' = .ok o.alone →
        (run words' env).run s = (run words env).run s) := by
  simp only [Settings.run_load, run_readFragment] at short shortOverride ⊢
  have related := related_effective env o.check s.files data proper straight homeless stored
  have shown := related.shown short shortOverride
  obtain ⟨code, output⟩ := run_agrees env words o s understood noFile shown
  have printed_text (settings : Settings) (found : o.check.effective s.files env = .ok (.ok settings)) :
      ∃ text, settings.summaryText = .ok text ∧
        ((run words env).run s).2.output = s.output ++ (text ++ "\n") := by
    obtain ⟨text, text_eq⟩ := shown settings found
    refine ⟨text, text_eq, ?_⟩
    rw [output, found, printed, text_eq]
  rw [code]
  refine ⟨fun none => ?_, fun p named => ?_⟩
  · obtain ⟨valid, same, invalid, trouble⟩ := related.code_of_plain none
    exact ⟨valid, fun settings ok => printed_text settings (same settings ok), invalid, trouble⟩
  · obtain ⟨valid, same, invalid, trouble⟩ := related.code_of_override p named
    refine ⟨valid, fun settings fragment patched ok read accepted =>
      printed_text patched (same settings fragment patched ok read accepted), invalid, trouble, ?_⟩
    intro g c refused words' understood'
    obtain ⟨fragment, read, judged⟩ :=
      exists_fragment_of_invalid env o.check s.files data proper straight homeless g c refused
    rw [run, run, understood, understood']
    exact run_carryOut_of_invalid env o (Options.proper_of_ofWords words o understood) noFile data
      fragment _ s stored read judged

/-- A session with settings for a provider without servers of its own, and an override that names a level
for the journal. -/
def customProvider : Session :=
  freshSession [
    (⟨"/", ["s.json"]⟩,
      Files.encode (mappingText [("vpn", mappingText [("provider", mappingText [("name", "\"custom\"")])])])),
    (⟨"/", ["o.json"]⟩, Files.encode (mappingText [("log", mappingText [("level", "\"debug\"")])]))]

theorem check_agrees_with_load_customProvider :
    Options.ofWords ["check", "s.json", "--override", "o.json"] = .ok { overrideOptions with logFile := none } ∧
      customProvider.files.Proper ∧
      ((Settings.load ⟨"", ["s.json"]⟩ {} false {}).run customProvider).1 = .ok Settings.plainExample ∧
      ((run ["check", "s.json", "--override", "o.json"] {}).run customProvider).1 = .ok 0 := by
  have understood : Options.ofWords ["check", "s.json", "--override", "o.json"] =
      .ok { overrideOptions with logFile := none } := by decide +kernel
  have proper : customProvider.files.Proper := ⟨by decide, by decide, by decide, by decide⟩
  have loads : ((Settings.load ⟨"", ["s.json"]⟩ {} false {}).run customProvider).1 =
      .ok Settings.plainExample := by decide +kernel
  have reads : ((readFragment ⟨"", ["o.json"]⟩ {}).run customProvider).1 =
      .ok Settings.debugLevel := by decide +kernel
  have accepted : Settings.plainExample.override Settings.debugLevel {} false =
      .ok (Settings.plainExample.overlay Settings.debugLevel) := by decide +kernel
  have agrees := check_agrees_with_load _ _ {} customProvider {} understood rfl proper (by decide) rfl rfl
    (fun settings ok => by
      cases loads.symm.trans ok
      exact Settings.isShort_plainExample)
    (fun p fragment named ok => by
      cases named
      cases reads.symm.trans ok
      exact Settings.isShort_debugLevel)
  exact ⟨understood, proper, loads, (agrees.2 _ rfl).1.2 ⟨_, _, _, loads, reads, accepted⟩⟩

end Cli
end TunnelSettings
