import TunnelSettings.Proofs.ExitCodes
import TunnelSettings.Proofs.PartNames
import TunnelSettings.Proofs.Storing

/-!
Transcripts. Once the journal is set up, every message of a part that it governs, if it is at least at the level of
the journal, becomes a line for the console and one in the file if there is one, in the order in which the messages
were logged; and nothing else is written by logging.
-/
namespace TunnelSettings

/-! ### Lines -/

namespace Files

/-- What is in a file; nothing if there is none. -/
def contentAt (d : Files) (p : Path) : List UInt8 := (d.contents.lookup p).getD []

theorem encode_append (s t : String) : encode (s ++ t) = encode s ++ encode t := by
  rw [encode, String.toList_append, List.flatMap_append]
  rfl

end Files

/-- The lines that messages become in a sink. -/
def Sink.lines (stamp : Stamp) (sink : Sink) : List Record → String
  | [] => ""
  | r :: rs => sink.write stamp r ++ "\n" ++ lines stamp sink rs

theorem Sink.lines_append (stamp : Stamp) (sink : Sink) (rs rs' : List Record) :
    sink.lines stamp (rs ++ rs') = sink.lines stamp rs ++ sink.lines stamp rs' := by
  induction rs with
  | nil => rw [List.nil_append, lines, String.empty_append]
  | cons r rs ih =>
    rw [List.cons_append, lines, lines, ih]
    exact String.append_assoc.symm

/-! ### What logging writes -/

/-- The journal writes to the console, and to a file if there is one, what is at least at its level. -/
structure Journal.IsReady (j : Journal) (timed : Bool) (place? : Option Path) : Prop where
  sinks : j.handlers.map (·.sink) = .console timed :: (place?.map Sink.file).toList
  level : ∀ h ∈ j.handlers, h.level = j.level
  positive : 0 < j.level

/-- From one session to a later one, messages were written and nothing else was. -/
structure Session.Gains (timed : Bool) (place? : Option Path) (s t : Session) (rs : List Record) : Prop where
  stamp : t.stamp = s.stamp
  output : t.output = s.output
  errors : t.errors = s.errors ++ (Sink.console timed).lines s.stamp rs
  content : ∀ place ∈ place?, t.files.contentAt place =
    s.files.contentAt place ++ Files.encode ((Sink.file place).lines s.stamp rs)

namespace Session

variable {timed : Bool} {place? : Option Path} {s t u : Session} {r : Record} {rs rs' : List Record}

/-- Nothing is written if the streams and files stay as they are. -/
theorem gains_nil (files : t.files = s.files) (stamp : t.stamp = s.stamp) (output : t.output = s.output)
    (errors : t.errors = s.errors) : s.Gains timed place? t [] where
  stamp := stamp
  output := output
  errors := by rw [errors, Sink.lines, String.append_empty]
  content := by
    intro place _
    rw [files, Sink.lines]
    exact (List.append_nil _).symm

theorem Gains.refl (s : Session) : s.Gains timed place? s [] := gains_nil rfl rfl rfl rfl

theorem Gains.trans (h : s.Gains timed place? t rs) (h' : t.Gains timed place? u rs') :
    s.Gains timed place? u (rs ++ rs') := by
  constructor
  · rw [h'.stamp, h.stamp]
  · rw [h'.output, h.output]
  · rw [h'.errors, h.errors, h.stamp, Sink.lines_append, String.append_assoc]
  · intro place hp
    rw [h'.content place hp, h.content place hp, h.stamp, Sink.lines_append, Files.encode_append, List.append_assoc]

end Session

/-! ### Ready journals -/

namespace Journal

variable {j : Journal} {timed : Bool} {place? : Option Path}

theorem IsReady.withLevel (ready : j.IsReady timed place?) {level : Level} (positive : 0 < level) :
    (j.withLevel level).IsReady timed place? where
  sinks := (j.sinks_withLevel level).trans ready.sinks
  level _ hh := level_of_mem_withLevel hh
  positive := positive

end Journal

end TunnelSettings
