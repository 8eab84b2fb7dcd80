import TunnelSettings.Proofs.Journals

/-!
Names of parts, and which messages the journal takes. The search for what is above a name passes over the first of
two dots next to each other, so what decides is how many dots stand right behind the root's letters: with one the
root is found, and with none it is not. A part whose name only begins with the root's letters is none of the
root's, and its messages go past everything that was set up.
-/
namespace TunnelSettings

/-! ### What is above a name -/

namespace Journal

variable (known : List String)

theorem leadsToRoot_cons_of_ne {c : Char} (other : c ≠ '.') (before : List Char) :
    leadsToRoot known (c :: before) = leadsToRoot known before := by
  rw [leadsToRoot.eq_def]
  exact if_pos other

theorem leadsToRoot_dot (before : List Char) :
    leadsToRoot known ('.' :: before) =
      (decide (before.reverse = rootName.toList) ||
        leadsToRoot known (if known.contains (.ofList before.reverse) then before else before.tail)) := by
  rw [leadsToRoot.eq_def]
  dsimp only
  rw [if_neg (not_not_intro rfl)]
  by_cases root : before.reverse = rootName.toList
  · simp [root]
  · rw [if_neg root, decide_eq_false root, Bool.false_or]
    by_cases asked : known.contains (.ofList before.reverse)
    · rw [if_pos asked, if_pos asked]
    · rw [if_neg asked, if_neg asked]
      cases before with
      | nil => rw [List.tail_nil, leadsToRoot]
      | cons c before => rfl

theorem leadsToRoot_of_not_mem {cs : List Char} (plain : '.' ∉ cs) : leadsToRoot known cs = false := by
  induction cs with
  | nil => rw [leadsToRoot]
  | cons c cs ih =>
    rw [List.mem_cons, not_or] at plain
    rw [leadsToRoot_cons_of_ne known (Ne.symm plain.1), ih plain.2]

/-- The root's letters with dots behind them. -/
def dotted (k : Nat) : List Char := rootName.toList ++ List.replicate k '.'

/-- Whether the root is above a name with some number of dots right behind the root's letters. Of two dots the first
is passed over, unless the part is known whose name ends between them. -/
def dotsLead : Nat → Bool
  | 0 => false
  | 1 => true
  | k + 2 => if known.contains (.ofList (dotted (k + 1))) then dotsLead (k + 1) else dotsLead k

theorem reverse_dotted_succ (k : Nat) : (dotted (k + 1)).reverse = '.' :: (dotted k).reverse := by
  rw [dotted, List.replicate_succ', ← List.append_assoc, List.reverse_concat, dotted]

theorem dotted_zero : dotted 0 = rootName.toList := List.append_nil _

theorem dotted_succ_ne (k : Nat) (cs : List Char) : dotted (k + 1) ++ cs ≠ rootName.toList := by
  intro same
  have := congrArg List.length same
  simp [dotted] at this

/-- By induction on the dots, two of which are passed at a time. -/
theorem leadsToRoot_dotted : ∀ k, leadsToRoot known (dotted k).reverse = dotsLead known k
  | 0 => leadsToRoot_of_not_mem known (by decide)
  | 1 => by
    rw [reverse_dotted_succ, leadsToRoot_dot, List.reverse_reverse, dotted_zero, decide_eq_true rfl, Bool.true_or]
    rfl
  | k + 2 => by
    have longer : dotted (k + 1) ≠ rootName.toList := by simpa using dotted_succ_ne k []
    rw [reverse_dotted_succ, leadsToRoot_dot, List.reverse_reverse, decide_eq_false longer, Bool.false_or, dotsLead]
    by_cases asked : known.contains (.ofList (dotted (k + 1)))
    · rw [if_pos asked, if_pos asked, leadsToRoot_dotted (k + 1)]
    · rw [if_neg asked, if_neg asked, reverse_dotted_succ, List.tail_cons, leadsToRoot_dotted k]

/-- What follows the dots does not matter: reading it from its end leaves the dots as they are. -/
theorem leadsToRoot_append (k : Nat) : ∀ cs : List Char, cs.getLast? ≠ some '.' →
    leadsToRoot known (cs ++ (dotted k).reverse) = dotsLead known k
  | [], _ => leadsToRoot_dotted known k
  | [c], last => by
    rw [List.singleton_append, leadsToRoot_cons_of_ne known (by simpa using last), leadsToRoot_dotted]
  | c :: d :: cs, last => by
    have next := leadsToRoot_append k (d :: cs) (by simpa using last)
    by_cases dot : c = '.'
    · subst dot
      have longer : (d :: cs ++ (dotted k).reverse).reverse ≠ rootName.toList := by
        intro same
        have := congrArg List.length same
        simp [dotted] at this
      have passed : leadsToRoot known (cs ++ (dotted k).reverse) = dotsLead known k := by
        apply leadsToRoot_append k cs
        cases cs with
        | nil => simp
        | cons e es => simpa using last
      rw [List.cons_append, leadsToRoot_dot, decide_eq_false longer, Bool.false_or]
      split
      · exact next
      · exact passed
    · rw [List.cons_append, leadsToRoot_cons_of_ne known dot]
      exact next

/-- Unless parts are known whose names have nothing but dots behind the root's letters, the number of dots has
to be odd. -/
theorem dotsLead_of_unknown : ∀ k, (∀ m, 0 < m → m < k → String.ofList (dotted m) ∉ known) →
    dotsLead known k = decide (k % 2 = 1)
  | 0, _ => rfl
  | 1, _ => rfl
  | k + 2, unknown => by
    have new : known.contains (String.ofList (dotted (k + 1))) = false := by
      simpa using unknown (k + 1) (by omega) (by omega)
    have rest := dotsLead_of_unknown k fun m pos less => unknown m pos (by omega)
    rw [dotsLead, new, rest]
    simp

/-! ### Names of parts -/

/-- A name that lies below the root's as far as its letters go. -/
def IsBelowRoot (name : String) : Prop := rootName.toList ++ ['.'] <+: name.toList

/-- A name that begins with the root's letters and goes on with something other than a dot. -/
def RunsOn (name : String) : Prop := ∃ c rest, c ≠ '.' ∧ name.toList = rootName.toList ++ c :: rest

/-- How many dots stand right behind the root's letters. -/
def dotsBehindRoot (name : String) : Nat :=
  ((name.toList.drop rootName.toList.length).takeWhile (· = '.')).length

/-- The full name of a part begins with the root's letters. -/
theorem begins_loggerName (name : String) : rootName.toList <+: (loggerName name).toList := by
  rw [loggerName]
  split
  · next begins => exact List.isPrefixOf_iff_prefix.1 begins
  · rw [String.toList_append, String.toList_append, List.append_assoc]
    exact List.prefix_append _ _

theorem eq_rootName_iff {name : String} {rest : List Char} (begins : rootName.toList ++ rest = name.toList) :
    name = rootName ↔ rest = [] := by
  rw [← String.toList_inj, ← begins]
  exact List.append_right_eq_self

theorem isBelowRoot_iff {name : String} {rest : List Char} (begins : rootName.toList ++ rest = name.toList) :
    IsBelowRoot name ↔ ∃ part, rest = '.' :: part := by
  rw [IsBelowRoot, ← begins, List.prefix_append_right_inj]
  constructor
  · rintro ⟨part, rfl⟩
    exact ⟨part, rfl⟩
  · rintro ⟨part, rfl⟩
    exact List.prefix_append _ part

theorem runsOn_iff {name : String} {rest : List Char} (begins : rootName.toList ++ rest = name.toList) :
    RunsOn name ↔ ∃ c part, c ≠ '.' ∧ rest = c :: part := by
  simp only [RunsOn, ← begins, List.append_cancel_left_eq]

/-- The full name of a part is the root's or lies below it, unless the name of the part runs on behind the root's
letters: such a name is kept as it is. -/
theorem isBelowRoot_loggerName_iff (name : String) :
    (loggerName name = rootName ∨ IsBelowRoot (loggerName name)) ↔ ¬ RunsOn name := by
  rw [loggerName]
  split
  · next begins =>
    obtain ⟨rest, same⟩ := List.isPrefixOf_iff_prefix.1 begins
    rw [eq_rootName_iff same, isBelowRoot_iff same, runsOn_iff same]
    cases rest with
    | nil => simp
    | cons c part => simp
  · next other =>
    constructor
    · rintro - ⟨c, rest, -, same⟩
      apply other
      rw [List.isPrefixOf_iff_prefix, same]
      exact List.prefix_append _ _
    · intro _
      right
      rw [IsBelowRoot, String.toList_append, String.toList_append]
      exact List.prefix_append _ _

/-! ### What the journal takes -/

/-- A name that begins with the root's letters is the root's own or has dots right behind them. -/
theorem exists_dotted {name : String} (begins : rootName.toList <+: name.toList) :
    ∃ cs : List Char, name.toList = dotted (dotsBehindRoot name) ++ cs ∧ cs.head? ≠ some '.' := by
  obtain ⟨rest, same⟩ := begins
  have behind : dotsBehindRoot name = (rest.takeWhile (· = '.')).length := by
    rw [dotsBehindRoot, ← same, List.drop_left]
  have dots : rest.takeWhile (· = '.') = List.replicate (dotsBehindRoot name) '.' := by
    rw [List.eq_replicate_iff]
    refine ⟨behind.symm, ?_⟩
    have all := List.all_takeWhile (p := (· = '.')) (l := rest)
    rw [List.all_eq_true] at all
    intro c hc
    exact of_decide_eq_true (all c hc)
  refine ⟨rest.dropWhile (· = '.'), ?_, ?_⟩
  · rw [dotted, ← dots, List.append_assoc, List.takeWhile_append_dropWhile, same]
  · intro dot
    have other := List.head?_dropWhile_not (· = '.') rest
    rw [dot] at other
    simp at other

/-- The journal governs the root's name, and those with one dot behind it; further dots count in pairs. -/
theorem governs_iff (j : Journal) {name : String} (begins : rootName.toList <+: name.toList) :
    j.governs name = true ↔ name = rootName ∨ dotsLead j.known (dotsBehindRoot name) = true := by
  obtain ⟨cs, same, rest⟩ := exists_dotted begins
  have lead : leadsToRoot j.known name.toList.reverse = dotsLead j.known (dotsBehindRoot name) := by
    rw [same, List.reverse_append]
    exact leadsToRoot_append j.known _ _ (by simpa using rest)
  rw [governs, lead]
  simp

/-- As long as no part is known whose name has nothing but dots behind the root's letters, the number of dots has to
be odd. -/
theorem governs_iff_odd (j : Journal) {name : String} (begins : rootName.toList <+: name.toList)
    (unknown : ∀ m, 0 < m → String.ofList (dotted m) ∉ j.known) :
    j.governs name = true ↔ name = rootName ∨ dotsBehindRoot name % 2 = 1 := by
  rw [j.governs_iff begins, dotsLead_of_unknown j.known _ fun m pos _ => unknown m pos, decide_eq_true_eq]

theorem governs_of_dotsBehindRoot_eq_one (j : Journal) {name : String} (begins : rootName.toList <+: name.toList)
    (one : dotsBehindRoot name = 1) : j.governs name = true := by
  rw [j.governs_iff begins, one]
  exact .inr rfl

/-- The level from which on the messages of governed parts are logged: where none is set, the usual one. -/
def inForce (j : Journal) : Level := if j.level = 0 then defaultLevel else j.level

end Journal

/-- No name stands for a negative level. -/
theorem Level.nonneg_of_ofName {word : String} {level : Level} (known : ofName word = .ok level) : 0 ≤ level := by
  have nonneg : ∀ entry ∈ wanted, 0 ≤ entry.2 := by decide
  rw [ofName] at known
  split at known
  · cases known
  · injection known with known
    subst known
    cases found : wanted.lookup (.ofList (word.toList.flatMap capitals)) with
    | none => decide
    | some level =>
      obtain ⟨before, after, split, -⟩ := List.lookup_eq_some_iff.1 found
      exact nonneg (_, level) (split ▸ List.mem_append_right before List.mem_cons_self)

namespace Session

/-- Write a message into sinks. -/
def writeTo (s : Session) (r : Record) (sinks : List Sink) : Session := sinks.foldl (fun s sink => s.write r sink) s

variable {s t : Session} {r : Record}

/-- The sinks of the journal get what is at least at the level in force. -/
theorem log_of_governs (level : ∀ h ∈ s.journal.handlers, h.level = s.journal.level)
    (some : s.journal.handlers ≠ []) (nonneg : 0 ≤ s.journal.level)
    (governed : s.journal.governs r.logger = true) :
    s.log r = if s.journal.inForce ≤ r.level then s.writeTo r (s.journal.handlers.map (·.sink)) else s := by
  have inForce : s.journal.levelFor r.logger = s.journal.inForce := by
    rw [Journal.levelFor, Journal.inForce, governed]
    by_cases unset : s.journal.level = 0 <;> simp [unset]
  have handlers : s.journal.handlersFor r.logger = s.journal.handlers := if_pos governed
  have positive : 0 < s.journal.inForce ∧ s.journal.level ≤ s.journal.inForce := by
    rw [Journal.inForce]
    split
    · next unset =>
      rw [unset]
      decide
    · next set => exact ⟨Int.lt_iff_le_and_ne.2 ⟨nonneg, Ne.symm set⟩, Int.le_refl _⟩
  by_cases grave : s.journal.inForce ≤ r.level
  · have taken : s.journal.accepts r = true := by
      simp only [Journal.accepts, inForce, Bool.and_eq_true, decide_eq_true_eq]
      exact ⟨Int.lt_of_lt_of_le positive.1 grave, grave⟩
    have all : s.journal.handlers.filter (·.level ≤ r.level) = s.journal.handlers := by
      rw [List.filter_eq_self]
      intro h hh
      rw [level h hh, decide_eq_true_eq]
      exact Int.le_trans positive.2 grave
    rw [log, taken, Journal.isBare, Journal.sinksFor, handlers, all, if_pos grave, writeTo]
    simp [some]
  · have dropped : s.journal.accepts r = false := by
      simp [Journal.accepts, inForce, grave]
    rw [log, dropped, if_neg grave]
    rfl

/-- Under a name that the journal does not govern a message is shown bare if it is at least a warning. -/
theorem log_of_not_governs (other : s.journal.governs r.logger = false) :
    s.log r = if Level.warning ≤ r.level then s.complain r.message else s := by
  have handlers : s.journal.handlersFor r.logger = [] := by simp [Journal.handlersFor, other]
  have level : s.journal.levelFor r.logger = .warning := by simp [Journal.levelFor, other, Journal.defaultLevel]
  by_cases grave : Level.warning ≤ r.level
  · have positive : 0 < r.level := Int.lt_of_lt_of_le (by decide) grave
    simp [log, Journal.accepts, Journal.isBare, handlers, level, grave, positive]
  · simp [log, Journal.accepts, level, grave]

/-- The session before a message is logged under the name of a part, which is then known. -/
def asking (s : Session) (name : String) : Session :=
  { s with journal := s.journal.asked (Journal.loggerName name) }

/-- What a successful set-up leaves: handlers at the journal's level, which is the one that was named. -/
theorem SetsUp.of_ok {levelName : String} {file : Option String} (h : s.SetsUp levelName file (.ok (), t)) :
    t.journal.IsTidy ∧ t.journal.handlers ≠ [] ∧ Level.ofName levelName = .ok t.journal.level := by
  cases h with
  | console level known => exact ⟨Journal.isTidy_console _ level, List.cons_ne_nil _ _, known⟩
  | file level known _ _ _ place =>
    exact ⟨(Journal.isTidy_console _ level).withFile rfl place, List.cons_ne_nil _ _, known⟩

end Session

namespace Journal

/-- A name that runs on behind the root's letters is none of the root's. -/
theorem governs_eq_false_of_runsOn (j : Journal) {name : String} (runs : RunsOn name) :
    j.governs (loggerName name) = false := by
  obtain ⟨c, rest, other, same⟩ := runs
  have begins : rootName.toList <+: name.toList := same ▸ List.prefix_append _ _
  have kept : loggerName name = name := if_pos (List.isPrefixOf_iff_prefix.2 begins)
  have none : dotsBehindRoot name = 0 := by
    rw [dotsBehindRoot, same, List.drop_left, List.takeWhile_cons, if_neg (by simpa using other), List.length_nil]
  rw [kept, ← Bool.not_eq_true, j.governs_iff begins, eq_rootName_iff same.symm, none]
  simp [dotsLead]

end Journal

/--
After the journal was set up, as long as it is not configured again, a message that is logged under a name which the
journal governs gets to every sink that was set up, if it is at least at the level in force, and to none otherwise.
Under any other name it is shown bare if it is at least a warning. The full name is the root's or lies below it
just if the name does not run on behind the root's letters, and a name that does is not governed. The others are
governed with one dot behind the root's letters, and with more as the search for what is above passes over them.
-/
theorem logAs_after_setUp (s t u : Session) (levelName : String) (file : Option String)
    (done : s.setUp levelName file = (.ok (), t)) (sameLevel : u.journal.level = t.journal.level)
    (sameHandlers : u.journal.handlers = t.journal.handlers)
    (name : String) (level : Level) (message : String) :
    let full := Journal.loggerName name
    let v := u.asking name
    Level.ofName levelName = .ok u.journal.level ∧
    ((full = Journal.rootName ∨ Journal.IsBelowRoot full) ↔ ¬ Journal.RunsOn name) ∧
    (v.journal.governs full = true ↔
      full = Journal.rootName ∨ Journal.dotsLead v.journal.known (Journal.dotsBehindRoot full) = true) ∧
    (Journal.RunsOn name → v.journal.governs full = false) ∧
    (v.journal.governs full = true → u.logAs name level message =
      if u.journal.inForce ≤ level then v.writeTo ⟨full, level, message⟩ (t.journal.handlers.map (·.sink))
      else v) ∧
    (v.journal.governs full = false → u.logAs name level message =
      if Level.warning ≤ level then v.complain message else v) := by
  intro full v
  have setsUp := s.setsUp_setUp levelName file
  rw [done] at setsUp
  obtain ⟨tidy, some, known⟩ := setsUp.of_ok
  have levels : ∀ h ∈ v.journal.handlers, h.level = v.journal.level := by
    intro h hh
    exact (tidy.level h (sameHandlers ▸ hh)).trans sameLevel.symm
  refine ⟨sameLevel ▸ known, Journal.isBelowRoot_loggerName_iff name,
    v.journal.governs_iff (Journal.begins_loggerName name), v.journal.governs_eq_false_of_runsOn, ?_, ?_⟩
  · intro governed
    rw [← sameHandlers]
    refine Session.log_of_governs levels ?_ ?_ governed
    · exact sameHandlers.symm ▸ some
    · exact sameLevel.symm ▸ Level.nonneg_of_ofName known
  · intro other
    exact Session.log_of_not_governs (s := v) (r := ⟨full, level, message⟩) other

/-- In a fresh session with a console and a file, a message under the name of a part gets to both. -/
theorem logAs_after_setUp_module :
    let t := (besideFolder.setUp "info" (some "log.txt")).2
    besideFolder.setUp "info" (some "log.txt") = (.ok (), t) ∧
    (t.logAs "module" .info "up").errors = "[\x1b[32mINFO\x1b[0m] up\n" ∧
    (t.logAs "module" .info "up").files.contents =
      [(⟨"/", ["log.txt"]⟩, Files.encode "2024-05-17 09:05:07 [INFO] vpnsettings.module:7 - up\n")] := by
  intro t
  have done : besideFolder.setUp "info" (some "log.txt") = (.ok (), t) := rfl
  have governed : (t.asking "module").journal.governs (Journal.loggerName "module") = true := by
    apply Journal.governs_of_dotsBehindRoot_eq_one
    · exact Journal.begins_loggerName "module"
    · decide
  obtain ⟨-, -, -, -, taken, -⟩ := logAs_after_setUp _ t t _ _ done rfl rfl "module" .info "up"
  rw [taken governed]
  exact ⟨done, by decide, by decide⟩

/-- A name can run on behind the root's letters, and then messages do not get to what was set up. -/
theorem logAs_vpnsettingsx :
    (¬ ∀ name, Journal.loggerName name = Journal.rootName ∨ Journal.IsBelowRoot (Journal.loggerName name)) ∧
    ¬ ∀ (s t : Session) (levelName : String) (file : Option String), s.setUp levelName file = (.ok (), t) →
      ∀ (name : String) (level : Level) (message : String),
        t.logAs name level message =
          if t.journal.level ≤ level then
            (t.asking name).writeTo ⟨Journal.loggerName name, level, message⟩ (t.journal.handlers.map (·.sink))
          else t.asking name := by
  constructor
  · intro always
    exact (Journal.isBelowRoot_loggerName_iff "vpnsettingsx").1 (always _) ⟨'x', [], by decide, by decide⟩
  · intro always
    have reached := congrArg Session.errors (always besideFolder _ "INFO" none rfl "vpnsettingsx" .warning "up")
    revert reached
    decide +kernel

end TunnelSettings
