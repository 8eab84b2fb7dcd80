import TunnelSettings.Proofs.Documents
import TunnelSettings.Settings.Loading

/-!
Running tasks. What a task reads depends on the files alone, and all that it leaves behind are lines of
the journal; so a task that reads is a plain look-up beside a change of the session.
-/
namespace TunnelSettings

/-! ### Steps of a task -/

namespace Task

variable {α β : Type}

@[simp] theorem run_lift (r : Except Failure α) (s : Session) : (liftM r : Task α).run s = (r, s) := rfl

@[simp] theorem run_get (s : Session) : (get : Task Session).run s = (.ok s, s) := rfl

@[simp] theorem run_modify (f : Session → Session) (s : Session) :
    (modify f : Task Unit).run s = (.ok (), f s) := rfl

@[simp] theorem run_setUpJournal (levelName : String) (file : Option String) (s : Session) :
    (setUpJournal levelName file).run s = s.setUp levelName file := rfl

@[simp] theorem run_outcome (t : Task α) (s : Session) :
    t.outcome.run s = (.ok (t.run s).1, (t.run s).2) := rfl

/-- The second of two parts goes on from where the first ends, unless that fails. -/
theorem run_bind (t : Task α) (f : α → Task β) (s : Session) :
    (t >>= f).run s =
      match (t.run s).1 with
      | .error e => (.error e, (t.run s).2)
      | .ok a => (f a).run (t.run s).2 := by
  change ExceptT.bindCont f (t.run s).1 (t.run s).2 = _
  cases (t.run s).1 <;> rfl

theorem run_bind_eq_ok_iff (t : Task α) (f : α → Task β) (s s'' : Session) (b : β) :
    (t >>= f).run s = (.ok b, s'') ↔ ∃ a s', t.run s = (.ok a, s') ∧ (f a).run s' = (.ok b, s'') := by
  rw [run_bind]
  rcases t.run s with ⟨e | a, s'⟩
  · exact ⟨nofun, fun ⟨_, _, h, _⟩ => by cases h⟩
  · exact ⟨fun h => ⟨a, s', rfl, h⟩, fun ⟨_, _, same, h⟩ => by cases same; exact h⟩

/-- Of two parts after one another the first escapes, or it succeeds and the second escapes. -/
theorem escapes_run_bind (t : Task α) (f : α → Task β) (s : Session) :
    Escapes ((t >>= f).run s).1 ↔
      Escapes (t.run s).1 ∨ ∃ a, (t.run s).1 = .ok a ∧ Escapes ((f a).run (t.run s).2).1 := by
  rw [run_bind]
  rcases t.run s with ⟨e | a, s'⟩
  · simp
  · simp

end Task

@[simp] theorem Part.run_note (p : Part) (level : Level) (message : String) (s : Session) :
    (p.note level message).run s = (.ok (), s.log ⟨p.name, level, message⟩) := rfl

/-- A loop that logs its messages logs them one after another. -/
theorem Part.run_notes (p : Part) (level : Level) (messages : List String) (s : Session) :
    (forIn messages PUnit.unit fun message _ => do
        p.note level message
        pure (.yield PUnit.unit) : Task PUnit).run s =
      (.ok PUnit.unit, messages.foldl (fun s message => s.log ⟨p.name, level, message⟩) s) := by
  induction messages generalizing s with
  | nil => rfl
  | cons message messages ih =>
    rw [List.forIn_cons, Task.run_bind, Task.run_bind, run_note]
    exact ih _

/-! ### What tasks read -/

namespace Session

/-- The journal mentions sections of a settings file that have unknown names. -/
def noteUnknown (s : Session) (p : Path) : Session :=
  match s.files.document p with
  | .ok (.map es) =>
    match Document.unknownSections es with
    | .ok unknown =>
      if unknown.isEmpty then s
      else s.log ⟨Part.loader.name, .warning,
        "Ignoring unknown settings sections: " ++ Complaint.commaList unknown⟩
    | .error _ => s
  | _ => s

/-- The journal says for how many providers a file has servers. -/
def noteServers (s : Session) (p : Path) (shown : String) : Session :=
  match s.files.document p with
  | .ok (.map es) =>
    s.log ⟨Part.servers.name, .debug,
      "Loaded servers for " ++ toString es.length ++ " providers from " ++ shown⟩
  | _ => s

end Session

theorem run_readDocument (p : Path) (s : Session) :
    (readDocument p).run s = (s.files.document p, s) := by
  rw [readDocument, Task.run_bind, Task.run_get, Files.document]
  dsimp only
  rw [Task.run_bind, Task.run_lift]
  cases s.files.readText p with
  | error f => rfl
  | ok text =>
    rw [ok_bind]
    dsimp only
    rw [Task.run_lift]

theorem run_readSections (p : Path) (s : Session) :
    (readSections p).run s = (s.files.sections p, s.noteUnknown p) := by
  rw [readSections, Task.run_bind, run_readDocument, Files.sections, Session.noteUnknown]
  cases s.files.document p with
  | error f => rfl
  | ok v =>
    cases v with
    | map es =>
      rw [ok_bind]
      dsimp only
      rw [Task.run_bind, Task.run_lift]
      cases Document.unknownSections es with
      | error f => rfl
      | ok unknown =>
        rw [ok_bind]
        dsimp only
        cases unknown.isEmpty <;> rfl
    | _ => rfl

theorem run_readFragment (p : Path) (env : Secrets) (s : Session) :
    (readFragment p env).run s = (s.files.fragment p env, s.noteUnknown p) := by
  rw [readFragment, Task.run_bind, run_readSections, Files.fragment]
  cases s.files.sections p <;> rfl

theorem run_readServers (p : Path) (shown : String) (s : Session) :
    (readServers p shown).run s = (s.files.servers p shown, s.noteServers p shown) := by
  rw [readServers, Task.run_bind, run_readDocument, Files.servers, Session.noteServers]
  cases s.files.document p with
  | error f => rfl
  | ok v => cases v <;> rfl

end TunnelSettings
