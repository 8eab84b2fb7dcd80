import TunnelSettings.Cli.Command
import TunnelSettings.Proofs.CommandLines
import TunnelSettings.Proofs.Overrides
import TunnelSettings.Proofs.Summaries
import TunnelSettings.Proofs.Tasks

/-!
Exit codes. A command line that is understood ends with one of three codes, unless the file for the
journal cannot be opened or a file that is read holds something about which nothing is said.
-/
namespace TunnelSettings

/-! ### Parts of a check -/

@[simp] theorem Settings.run_mergeFragment (s fragment : Settings) (session : Session) :
    (s.mergeFragment fragment).run session =
      (.ok (s.merge fragment), session.log ⟨Part.settings.name, .debug, "Merged settings fragment"⟩) :=
  rfl

theorem Settings.run_overrideWith (s fragment : Settings) (servers : Servers) (ipv6 : Bool)
    (session : Session) :
    ((s.overrideWith fragment servers ipv6).run session).1 = s.override fragment servers ipv6 := by
  unfold overrideWith
  cases s.override fragment servers ipv6 <;> rfl

namespace Cli

namespace CheckOptions

/-- The servers that a file gives; none without a file. -/
def serversIn (o : CheckOptions) (d : Files) : Except Failure Servers :=
  match o.servers with
  | some p => d.servers p p.text
  | none => .ok {}

/-- The session once the servers are read. -/
def noteServers (o : CheckOptions) (s : Session) : Session :=
  match o.servers with
  | some p => s.noteServers p p.text
  | none => s

/-- The session once the settings are read and laid over the defaults. -/
def noteMerged (o : CheckOptions) (s : Session) : Session :=
  ((o.noteServers s).noteUnknown o.settings).log
    ⟨Part.settings.name, .debug, "Merged settings fragment"⟩

end CheckOptions

/-- The settings that a fragment gives over the defaults. -/
def plainly (fragment : Settings) : Settings := (Settings.merge {} fragment).withDefaults

/-- The ways in which a check ends without a code: at the servers, at the settings, or at the override of
settings that are valid. Each file is read from the session that the files before it leave behind. -/
inductive Stuck (o : CheckOptions) (env : Secrets) (s : Session) : Prop
  | servers (p : Path) (named : o.servers = some p) (unfit : s.files.UnfitServers p)
  | settings (data : Servers) (read : o.serversIn s.files = .ok data)
      (unfit : (o.noteServers s).files.UnfitSettings o.settings)
  | override (data : Servers) (fragment : Settings) (p : Path) (read : o.serversIn s.files = .ok data)
      (given : (o.noteServers s).files.fragment o.settings env = .ok fragment)
      (valid : (plainly fragment).validate data o.ipv6 = .ok ()) (named : o.override = some p)
      (unfit : (o.noteMerged s).files.UnfitSettings p)

variable (o : CheckOptions) (env : Secrets) (s : Session)

theorem run_serversFor : (serversFor o).run s = (o.serversIn s.files, o.noteServers s) := by
  rw [serversFor, CheckOptions.serversIn, CheckOptions.noteServers]
  cases o.servers with
  | none => rfl
  | some p => exact run_readServers p p.text s

theorem escapes_serversIn (d : Files) :
    Escapes (o.serversIn d) ↔ ∃ p, o.servers = some p ∧ d.UnfitServers p := by
  rw [CheckOptions.serversIn]
  cases o.servers with
  | none => simp
  | some p => simpa using d.escapes_servers p p.text

theorem escapes_overridden (data : Servers) (settings : Settings) :
    Escapes ((overridden o env data settings).run s).1 ↔
      settings.validate data o.ipv6 = .ok () ∧ ∃ p, o.override = some p ∧ s.files.UnfitSettings p := by
  rw [overridden]
  cases settings.validate data o.ipv6 with
  | error f => exact iff_of_false (escapes_ok _) fun h => by cases h.1
  | ok u =>
    cases o.override with
    | none => exact iff_of_false (escapes_ok _) fun ⟨_, _, h, _⟩ => by cases h
    | some p =>
      dsimp only
      rw [Task.escapes_run_bind, run_readFragment, Files.escapes_fragment]
      simp

/-- What is put on top of complete settings keeps them complete. -/
theorem isComplete_of_overridden (data : Servers) (settings kept : Settings) (s' : Session)
    (complete : settings.IsComplete)
    (h : (overridden o env data settings).run s = (.ok (.ok kept), s')) : kept.IsComplete := by
  rw [overridden] at h
  cases valid : settings.validate data o.ipv6 with
  | error f =>
    rw [valid] at h
    cases h
  | ok u =>
    rw [valid] at h
    cases named : o.override with
    | none =>
      rw [named] at h
      cases h
      exact complete
    | some p =>
      rw [named] at h
      obtain ⟨fragment, s₁, _, h⟩ := (Task.run_bind_eq_ok_iff _ _ _ _ _).1 h
      have patched : settings.override fragment data o.ipv6 = .ok kept := by
        rw [← Settings.run_overrideWith settings fragment data o.ipv6 s₁]
        rw [Task.run_outcome] at h
        exact Except.ok.inj (congrArg Prod.fst h)
      obtain ⟨_, rfl⟩ := (Settings.override_eq_ok_iff _ _ _ _ _).1 patched
      exact complete.overlay fragment

theorem isComplete_of_effectiveSettings (kept : Settings) (s' : Session)
    (h : (effectiveSettings o env).run s = (.ok (.ok kept), s')) : kept.IsComplete := by
  rw [effectiveSettings] at h
  obtain ⟨data, s₁, _, h⟩ := (Task.run_bind_eq_ok_iff _ _ _ _ _).1 h
  obtain ⟨fragment, s₂, _, h⟩ := (Task.run_bind_eq_ok_iff _ _ _ _ _).1 h
  obtain ⟨merged, s₃, _, h⟩ := (Task.run_bind_eq_ok_iff _ _ _ _ _).1 h
  exact isComplete_of_overridden o env s₃ data _ kept s' (Settings.isComplete_withDefaults merged) h

theorem escapes_effectiveSettings : Escapes ((effectiveSettings o env).run s).1 ↔ Stuck o env s := by
  rw [effectiveSettings, Task.escapes_run_bind, run_serversFor, escapes_serversIn]
  simp only [Task.escapes_run_bind, run_readFragment, Files.escapes_fragment, Settings.run_mergeFragment,
    escapes_ok, false_or, Except.ok.injEq, exists_eq_left', escapes_overridden]
  constructor
  · rintro (⟨p, named, unfit⟩ | ⟨data, read, unfit | ⟨fragment, given, valid, p, named, unfit⟩⟩)
    · exact .servers p named unfit
    · exact .settings data read unfit
    · exact .override data fragment p read given valid named unfit
  · intro stuck
    cases stuck with
    | servers p named unfit => exact .inl ⟨p, named, unfit⟩
    | settings data read unfit => exact .inr ⟨data, read, .inl unfit⟩
    | override data fragment p read given valid named unfit =>
      exact .inr ⟨data, read, .inr ⟨fragment, given, valid, p, named, unfit⟩⟩

/-- The session in which settings are shown: they name the level of the journal if the command line does
not. -/
def Options.withLevel (o : Options) (settings : Settings) (s : Session) : Session :=
  if o.logLevel.isNone && !o.verbose then { s with journal := s.journal.apply settings.log.level } else s

/-- The journal gives advice on settings. -/
def advise (settings : Settings) (s : Session) : Session :=
  settings.warnings.foldl (fun s warning => s.log ⟨Part.commandLine.name, .warning, warning⟩) s

theorem run_present (o : Options) (settings : Settings) :
    (present o settings).run s =
      match settings.summaryText with
      | .ok text => (.ok 0, advise settings ((o.withLevel settings s).print text))
      | .error f => (.error f, o.withLevel settings s) := by
  have rest (s : Session) : (do
      Task.print (← settings.summaryText)
      for warning in settings.warnings do
        Part.commandLine.note .warning warning
      return 0 : Task Nat).run s =
        match settings.summaryText with
        | .ok text => (.ok 0, advise settings (s.print text))
        | .error f => (.error f, s) := by
    rw [Task.run_bind, Task.run_lift]
    cases settings.summaryText with
    | error f => rfl
    | ok text =>
      dsimp only
      rw [Task.run_bind, Task.print, Task.run_modify]
      dsimp only
      rw [Task.run_bind, Part.run_notes]
      rfl
  rw [present, Options.withLevel]
  split
  · exact rest _
  · exact rest s

/-- Once the settings are known, nothing else gets in the way of a code. -/
theorem escapes_check (o : Options) : Escapes ((check o env).run s).1 ↔ Stuck o.check env s := by
  rw [check, Task.escapes_run_bind, escapes_effectiveSettings]
  refine or_iff_left ?_
  rintro ⟨outcome, found, escapes⟩
  cases outcome with
  | error f => exact escapes_ok _ escapes
  | ok settings =>
    have complete : settings.IsComplete :=
      isComplete_of_effectiveSettings o.check env s settings _ (Prod.ext found rfl)
    rw [run_present] at escapes
    cases shown : settings.summaryText with
    | ok text =>
      rw [shown] at escapes
      exact escapes_ok _ escapes
    | error f =>
      rw [shown] at escapes
      refine complete.escapes_summaryText ?_
      rw [shown, escapes_error]
      exact (escapes_error f).1 escapes

theorem check_code (o : Options) (code : Nat) (s' : Session) (h : (check o env).run s = (.ok code, s')) :
    code ≤ 1 := by
  rw [check] at h
  obtain ⟨outcome, s₁, _, h⟩ := (Task.run_bind_eq_ok_iff _ _ _ _ _).1 h
  cases outcome with
  | error f =>
    cases h
    exact Nat.le_refl 1
  | ok settings =>
    dsimp only at h
    rw [run_present] at h
    cases shown : settings.summaryText with
    | ok text =>
      rw [shown] at h
      cases h
      exact Nat.zero_le 1
    | error f =>
      rw [shown] at h
      cases h

theorem run_answer_error (f : Failure) :
    (answer (.error f)).run s =
      if f.isReported then (.ok 2, s.complain ("Error: " ++ f.summary)) else (.error f, s) := by
  rw [answer]
  cases f.isReported <;> rfl

/-- Once the journal is set up a check ends with a code unless it is stuck. -/
theorem exits_answer_iff (o : Options) :
    (∃ code, code ≤ 2 ∧ (((check o env).outcome >>= answer).run s).1 = .ok code) ↔
      ¬ Stuck o.check env s := by
  rw [← escapes_check, Task.run_bind, Task.run_outcome]
  rcases ran : (check o env).run s with ⟨f | code, s'⟩
  · dsimp only
    rw [escapes_error, run_answer_error]
    cases f.isReported with
    | true => exact iff_of_true ⟨2, Nat.le_refl 2, rfl⟩ Bool.true_eq_false.mp
    | false => exact iff_of_false (fun ⟨_, _, h⟩ => by cases h) fun h => h rfl
  · refine iff_of_true ⟨code, ?_, rfl⟩ (escapes_ok code)
    exact Nat.le_succ_of_le (check_code env s o code s' ran)

/-- The journal can be set up if the file for it can be written, or none is named. -/
theorem setUp_eq_ok_iff {o : Options} (proper : o.Proper) :
    (s.setUp (Session.askedLevel o.verbose o.logLevel) (o.logFile.map Path.text)).1 = .ok () ↔
      ∀ p, o.logFile = some p → ∃ place, s.files.placeToWrite (.ofText p.text) = .ok place := by
  obtain ⟨level, known⟩ := proper.exists_level
  rw [Session.setUp, known]
  cases named : o.logFile with
  | none => exact iff_of_true rfl nofun
  | some p =>
    have spelled : p.text.isEmpty = false := proper.text_isEmpty p named
    simp only [Option.map_some, Option.filter_some, spelled, Bool.not_false, if_true, Option.some.injEq,
      forall_eq']
    cases s.files.placeToWrite (.ofText p.text) <;> simp

/-- A command line that is understood ends with one of three codes if and only if the file for the
journal, if one is named, can be written and the check does not get stuck. -/
theorem exits_iff (words : List String) (o : Options) (understood : Options.ofWords words = .ok o) :
    (∃ code, code ≤ 2 ∧ ((run words env).run s).1 = .ok code) ↔
      (∀ p, o.logFile = some p → ∃ place, s.files.placeToWrite (.ofText p.text) = .ok place) ∧
      ¬ Stuck o.check env
        (s.setUp (Session.askedLevel o.verbose o.logLevel) (o.logFile.map Path.text)).2 := by
  have proper : o.Proper := Options.proper_of_ofWords words o understood
  rw [run, understood, ← setUp_eq_ok_iff s proper]
  dsimp only
  rw [carryOut, Task.run_bind, Task.run_setUpJournal]
  rcases s.setUp (Session.askedLevel o.verbose o.logLevel) (o.logFile.map Path.text) with ⟨e | u, s'⟩
  · exact iff_of_false (fun ⟨_, _, h⟩ => by cases h) fun h => by cases h.1
  · dsimp only
    rw [exits_answer_iff]
    exact ⟨fun h => ⟨rfl, h⟩, fun h => h.2⟩

/-- A session with files below the root, of which one is the working folder. -/
def freshSession (contents : List (Path × List UInt8)) : Session where
  files := { here := ⟨"/", []⟩, contents, wording _ := "" }
  stamp := ⟨"", "", ""⟩
  trace _ := ""

/-- The text of a JSON mapping, with the texts of what it holds. -/
def mappingText (entries : List (String × String)) : String :=
  Text.inBraces (", ".intercalate (entries.map fun e => "\"" ++ e.1 ++ "\": " ++ e.2))

/-- A session with settings, and an override that names a level for the journal. -/
def withOverride : Session :=
  freshSession [(⟨"/", ["s.json"]⟩, Files.encode (mappingText [])),
    (⟨"/", ["o.json"]⟩, Files.encode (mappingText [("log", mappingText [("level", "\"debug\"")])]))]

/-- The words that check those settings and write a journal. -/
def overrideWords : List String := ["--log-file", "log.txt", "check", "s.json", "--override", "o.json"]

def overrideOptions : Options where
  logFile := some ⟨"", ["log.txt"]⟩
  check := { settings := ⟨"", ["s.json"]⟩, override := some ⟨"", ["o.json"]⟩ }

theorem exits_withOverride :
    Options.ofWords overrideWords = .ok overrideOptions ∧
      ∃ code, code ≤ 2 ∧ ((run overrideWords {}).run withOverride).1 = .ok code := by
  have understood : Options.ofWords overrideWords = .ok overrideOptions := by decide +kernel
  refine ⟨understood, (exits_iff {} withOverride overrideWords _ understood).2 ⟨?_, ?_⟩⟩
  · intro p named
    cases named
    exact ⟨⟨"/", ["log.txt"]⟩, by decide +kernel⟩
  · intro stuck
    cases stuck with
    | servers p named _ => cases named
    | settings data _ unfit =>
      refine absurd ((Files.escapes_fragment _ _ {}).2 unfit) ?_
      decide +kernel
    | override data fragment p _ _ _ named unfit =>
      cases named
      refine absurd ((Files.escapes_fragment _ _ {}).2 unfit) ?_
      decide +kernel

/-- A session with a settings file that has a number in place of a list of ciphers. -/
def numberForCiphers : Session :=
  freshSession [(⟨"/", ["s.json"]⟩,
    Files.encode (mappingText [("vpn", mappingText [("openvpn", mappingText [("ciphers", "1.5")])])]))]

theorem run_numberForCiphers :
    ((run ["check", "s.json"] {}).run numberForCiphers).1 = .error (.notIterable "float") := by
  decide +kernel

/-- A number in place of a list ends a check without a code. -/
theorem exits_not_always : ¬ ∀ (words : List String) (o : Options) (env : Secrets) (s : Session),
    Options.ofWords words = .ok o → ∃ code, code ≤ 2 ∧ ((run words env).run s).1 = .ok code := by
  intro always
  obtain ⟨code, _, ends⟩ := always ["check", "s.json"] _ {} numberForCiphers rfl
  rw [run_numberForCiphers] at ends
  cases ends

end Cli
end TunnelSettings
