import TunnelSettings.Proofs.Escapes
import TunnelSettings.Proofs.Fields
import TunnelSettings.Settings.Summary

/-!
Summaries that cannot be shown. An integer with too many digits is reported, and the ratio that the
updater needs is there once defaults are filled in.
-/
namespace TunnelSettings

theorem overflows_durationText (seconds : Int) : ¬ Overflows (durationText seconds) := by
  rw [durationText]
  split
  · exact overflows_ok _
  · refine overflows_bind (not_failsWith_mapM (fun part => ?_) _) fun _ => overflows_ok _
    exact overflows_bind (overflows_writeInteger part.1) fun _ => overflows_ok _

namespace Show

theorem escapes_integer (n : Option Int) : ¬ Escapes (integer n) := by
  cases n with
  | none => exact escapes_ok _
  | some n =>
    rw [integer, escapes_mapError]
    exact overflows_writeInteger n

theorem escapes_duration (seconds : Option Int) : ¬ Escapes (duration seconds) := by
  rw [duration, escapes_mapError]
  exact overflows_durationText _

theorem escapes_integersLine (label : String) (ns : Option (List Int)) :
    ¬ Escapes (integersLine label ns) := by
  rw [integersLine]
  split
  · exact escapes_ok _
  · refine not_escapes_bind ?_ fun _ => escapes_ok _
    exact not_escapes_bind (not_failsWith_mapM (fun n => escapes_integer (some n)) _) fun _ => escapes_ok _

end Show

open Show

theorem Dns.escapes_filteringSummary (d : Dns) : ¬ Escapes d.filteringSummary := by
  rw [filteringSummary]
  split
  · exact not_escapes_bind (escapes_duration _) fun _ => escapes_ok _
  · exact escapes_ok _

theorem Dns.escapes_summary (d : Dns) : ¬ Escapes d.summary := by
  rw [summary]
  split
  · exact not_escapes_bind d.escapes_filteringSummary fun _ => escapes_ok _
  · exact escapes_ok _

theorem Firewall.escapes_summary (f : Firewall) : ¬ Escapes f.summary := by
  rw [summary]
  split
  · exact escapes_ok _
  · refine not_escapes_bind (escapes_integersLine _ _) fun _ => ?_
    exact not_escapes_bind (escapes_integersLine _ _) fun _ => escapes_ok _

theorem Health.escapes_summary (h : Health) : ¬ Escapes h.summary := by
  rw [summary]
  refine not_escapes_bind (escapes_duration _) fun _ => ?_
  refine not_escapes_bind (escapes_duration _) fun _ => ?_
  exact not_escapes_bind (escapes_duration _) fun _ => escapes_ok _

theorem PublicIp.escapes_summary (p : PublicIp) : ¬ Escapes p.summary := by
  rw [summary]
  split
  · exact escapes_ok _
  · exact not_escapes_bind (escapes_duration _) fun _ => escapes_ok _

theorem System.escapes_summary (s : System) : ¬ Escapes s.summary := by
  rw [summary]
  refine not_escapes_bind (escapes_integer _) fun _ => ?_
  exact not_escapes_bind (escapes_integer _) fun _ => escapes_ok _

theorem Updater.escapes_summary (u : Updater) (h : u.minRatio.isSome = true) : ¬ Escapes u.summary := by
  obtain ⟨ratio, set⟩ := Option.isSome_iff_exists.1 h
  rw [summary, set]
  split
  · exact escapes_ok _
  · exact not_escapes_bind (escapes_duration _) fun _ => escapes_ok _

theorem Profiling.escapes_summary (p : Profiling) : ¬ Escapes p.summary := by
  rw [summary]
  split
  · exact escapes_ok _
  · refine not_escapes_bind (escapes_integer _) fun _ => ?_
    exact not_escapes_bind (escapes_integer _) fun _ => escapes_ok _

namespace Settings

theorem IsComplete.isSome_ratio {s : Settings} (h : s.IsComplete) :
    s.updater.minRatio.isSome = true := by
  have set : s.isSet ["updater", "min_ratio"] = true := h _ (by simp [fieldPaths_eq])
  have eq : s.isSet ["updater", "min_ratio"] = !(ToValue.toValue s.updater.minRatio).isNull := rfl
  rw [eq, isNull_toValue] at set
  simpa using set

/-- Complete settings have a ratio, so whatever keeps them from being shown is reported. -/
theorem IsComplete.escapes_summaryText {s : Settings} (h : s.IsComplete) : ¬ Escapes s.summaryText := by
  rw [summaryText, summary]
  refine not_escapes_bind ?_ fun _ => escapes_ok _
  refine not_escapes_bind s.dns.escapes_summary fun _ => ?_
  refine not_escapes_bind s.firewall.escapes_summary fun _ => ?_
  refine not_escapes_bind s.health.escapes_summary fun _ => ?_
  refine not_escapes_bind s.system.escapes_summary fun _ => ?_
  refine not_escapes_bind s.publicIp.escapes_summary fun _ => ?_
  refine not_escapes_bind (s.updater.escapes_summary h.isSome_ratio) fun _ => ?_
  exact not_escapes_bind s.profiling.escapes_summary fun _ => escapes_ok _

end Settings

end TunnelSettings
