import TunnelSettings.Proofs.Acceptance
import TunnelSettings.Proofs.Transcripts

/-!
Advice on settings. A check that ends well gives each piece of advice on the final settings once, in order, unless the
level in force is above that of warnings; and nothing else that it writes gives advice. What advice there is depends
on the provider, the kind of tunnel and the version alone.
-/
namespace TunnelSettings

/-! ### What advice there is -/

namespace Settings

end Settings

/-! ### What is logged on the way -/

namespace Record

/-- What is logged while settings are read and put together. -/
inductive IsRoutine : Record → Prop
  | unknown (names : String) :
    IsRoutine ⟨Part.loader.name, .warning, "Ignoring unknown settings sections: " ++ names⟩
  | servers (rest : String) : IsRoutine ⟨Part.servers.name, .debug, "Loaded servers for " ++ rest⟩
  | merged : IsRoutine ⟨Part.settings.name, .debug, "Merged settings fragment"⟩
  | applied : IsRoutine ⟨Part.settings.name, .debug, "Applied settings override"⟩
  | rejected (rest : String) : IsRoutine ⟨Part.settings.name, .warning, "Rejected settings override: " ++ rest⟩

theorem IsRoutine.exists_part {r : Record} (routine : r.IsRoutine) :
    ∃ part ∈ [Part.loader, Part.servers, Part.settings], r.logger = part.name := by
  cases routine with
  | unknown => exact ⟨Part.loader, by simp, rfl⟩
  | servers => exact ⟨Part.servers, by simp, rfl⟩
  | merged => exact ⟨Part.settings, by simp, rfl⟩
  | applied => exact ⟨Part.settings, by simp, rfl⟩
  | rejected => exact ⟨Part.settings, by simp, rfl⟩

end Record

namespace Record

end Record

theorem Part.governs_name (j : Journal) :
    ∀ part ∈ [loader, servers, settings, commandLine], j.governs part.name = true := by
  intro part hp
  have names : ∀ part ∈ [loader, servers, settings, commandLine],
      Journal.rootName.toList <+: part.name.toList ∧ Journal.dotsBehindRoot part.name = 1 := by decide
  exact j.governs_of_dotsBehindRoot_eq_one (names part hp).1 (names part hp).2

theorem Record.IsRoutine.governs {r : Record} (routine : r.IsRoutine) (j : Journal) :
    j.governs r.logger = true := by
  obtain ⟨part, mem, name⟩ := routine.exists_part
  rw [name]
  exact Part.governs_name j part (List.mem_append_left [Part.commandLine] mem)

/-- From one session to a later one, nothing happened but that messages of a sort were logged. -/
def Session.Logs (P : Record → Prop) (s t : Session) : Prop :=
  ∃ rs : List Record, (∀ r ∈ rs, P r) ∧ t = rs.foldl log s

namespace Session.Logs

variable {P : Record → Prop} {s t u : Session}

theorem refl (s : Session) : s.Logs P s := ⟨[], nofun, rfl⟩

theorem trans (h : s.Logs P t) (h' : t.Logs P u) : s.Logs P u := by
  obtain ⟨rs, hrs, rfl⟩ := h
  obtain ⟨rs', hrs', rfl⟩ := h'
  exact ⟨rs ++ rs', List.forall_mem_append.2 ⟨hrs, hrs'⟩, List.foldl_append.symm⟩

theorem log {r : Record} (s : Session) (hr : P r) : s.Logs P (s.log r) := ⟨[r], by simpa using hr, rfl⟩

end Session.Logs

namespace Cli

variable (o : CheckOptions) (env : Secrets) (s : Session)

/-- A session with settings that get a piece of advice, and that leave the level of the journal at the usual one. -/
def oldVersion : Session :=
  freshSession [(⟨"/", ["s.json"]⟩, Files.encode (mappingText [("vpn", mappingText [
    ("provider", mappingText [("name", "\"custom\"")]),
    ("openvpn", mappingText [("version", "\"2.4\"")])])]))]

end Cli
end TunnelSettings
