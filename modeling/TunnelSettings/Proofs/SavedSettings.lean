import TunnelSettings.Proofs.Acceptance
import TunnelSettings.Proofs.Agreement
import TunnelSettings.Proofs.JsonValues
import TunnelSettings.Proofs.SmallLetters
import TunnelSettings.Proofs.Storing

/-!
Settings that are saved and loaded again. What was loaded is complete, so that the environment has no
part in it any more, and it has its two names in small letters; therefore it comes back as it was from the
JSON text that is written for it.
-/
namespace TunnelSettings

namespace Settings

/-! ### Loaded settings -/

/-- What loading gives: complete and valid settings with two names in small letters. -/
structure IsLoaded (servers : Servers) (ipv6 : Bool) (s : Settings) : Prop extends s.Sound servers ipv6 where
  small : s.withSmallNames = s

theorem lowered_lowered (v : Value) : lowered (lowered v) = lowered v := by
  cases v with
  | text t => exact congrArg Value.text (Text.lower_lower t)
  | _ => rfl

/-- A fragment has its two names in small letters. -/
theorem lowered_field_fragment {es : Section} {env : Secrets} {f : Settings}
    (built : Settings.fragment (.map es) env = .ok f) {path : List String} (hp : path ∈ smallPaths) :
    lowered (f.field path) = f.field path := by
  obtain ⟨s, -, rfl⟩ := (fragment_eq_ok_iff es env f).1 built
  have known : path ∈ fieldPaths := by
    revert path
    decide
  have plain : env.entries.lookup path = none := by
    rcases List.mem_pair.1 hp with rfl | rfl <;> rfl
  rw [field_withSecrets _ es env path known, plain, Option.isNone_none, Bool.true_or, if_pos rfl,
    field_withSmallNames s path known, if_pos hp, lowered_lowered]

theorem lowered_field_defaults (provider : String) {path : List String} (hp : path ∈ smallPaths) :
    lowered ((defaults provider).field path) = (defaults provider).field path := by
  rcases List.mem_pair.1 hp with rfl | rfl
  · exact congrArg Value.text (by decide +kernel : Text.lower Catalogue.openvpn = Catalogue.openvpn)
  · exact congrArg Value.text (by decide +kernel : Text.lower defaultProvider = defaultProvider)

theorem small_plainly {es : Section} {env : Secrets} {f : Settings}
    (built : Settings.fragment (.map es) env = .ok f) :
    (Cli.plainly f).withSmallNames = Cli.plainly f := by
  refine ext_field _ _ fun path hp => ?_
  rw [field_withSmallNames _ path hp]
  split
  · next small =>
    have first : lowered (((Settings.merge {} f)).field path) = (Settings.merge {} f).field path :=
      lowered_field_fragment built small
    rw [Cli.plainly, withDefaults, field_merge _ _ path hp]
    split
    · exact first
    · exact lowered_field_defaults _ small
  · rfl

/-- Loaded settings are those that a file gives, with defaults, and they are valid. -/
theorem exists_of_loaded {d : Files} {p : Path} {servers : Servers} {ipv6 : Bool} {env : Secrets}
    {s : Settings} (loads : loaded d p servers ipv6 env = .ok s) :
    ∃ place es f, d.settled p = .ok place ∧ d.sections place = .ok es ∧
      Settings.fragment (.map es) env = .ok f ∧ s = Cli.plainly f ∧ s.validate servers ipv6 = .ok () := by
  rw [loaded, bind_eq_ok_iff] at loads
  obtain ⟨place, settled, loads⟩ := loads
  rw [bind_eq_ok_iff] at loads
  obtain ⟨f, given, loads⟩ := loads
  rw [Files.fragment, bind_eq_ok_iff] at given
  obtain ⟨es, parsed, built⟩ := given
  dsimp only at loads
  rw [bind_eq_ok_iff] at loads
  obtain ⟨u, valid, same⟩ := loads
  cases same
  exact ⟨place, es, f, settled, parsed, built, rfl, valid⟩

theorem isLoaded_of_loaded {d : Files} {p : Path} {servers : Servers} {ipv6 : Bool} {env : Secrets}
    {s : Settings} (loads : loaded d p servers ipv6 env = .ok s) : s.IsLoaded servers ipv6 := by
  obtain ⟨place, es, f, -, -, built, rfl, valid⟩ := exists_of_loaded loads
  exact ⟨⟨isComplete_withDefaults _, valid⟩, small_plainly built⟩

/-- The environment adds nothing to complete settings. -/
theorem IsLoaded.reread_eq {servers : Servers} {ipv6 : Bool} {s : Settings} (h : s.IsLoaded servers ipv6)
    (env : Secrets) : s.reread env = s := by
  rw [← withSecrets_rawEntries, h.small]
  refine ext_field _ _ fun path hp => ?_
  rw [field_withSecrets _ _ _ path hp, mentions_rawEntries s path hp, h.complete path hp, Bool.or_true,
    if_pos rfl]

theorem IsLoaded.plainly_eq {servers : Servers} {ipv6 : Bool} {s : Settings} (h : s.IsLoaded servers ipv6) :
    Cli.plainly s = s := h.complete.withDefaults_eq

/-! ### Settings in JSON -/

end Settings

/-- Set fields that are no decimal numbers have forms of their own in JSON. -/
theorem FieldKind.Admits.isTree_json {kind : FieldKind} {v : Value} (h : kind.Admits v)
    (exact : kind ≠ .decimal) (short : v.IsTree Value.IsShort) : v.IsTree Json.IsLeaf := by
  cases kind with
  | decimal => exact absurd rfl exact
  | texts =>
    obtain ⟨_ | xs, rfl⟩ := h
    · trivial
    · exact (Value.areTrees_iff _ _).2 (by simp [toValue, Value.IsTree, Json.IsLeaf])
  | integers =>
    obtain ⟨_ | xs, rfl⟩ := h
    · trivial
    · have short := shortOfAll (some xs) short xs rfl
      refine (Value.areTrees_iff _ _).2 fun v hv => ?_
      obtain ⟨n, hn, rfl⟩ := List.mem_map.1 hv
      exact short n hn
  | integer =>
    obtain ⟨_ | n, rfl⟩ := h
    · trivial
    · exact short
  | _ => obtain ⟨_ | x, rfl⟩ := h <;> trivial

namespace Settings

/-- A valid ratio that is a number is finite. -/
theorem isLeaf_ratio {servers : Servers} {ipv6 : Bool} {s : Settings}
    (valid : s.validate servers ipv6 = .ok ()) (number : ∀ r ∈ s.updater.minRatio, r.isNaN = false) :
    (ToValue.toValue s.updater.minRatio).IsTree Json.IsLeaf := by
  have ratio := ((validate_accepts_iff servers ipv6 s number).1 valid).updater.ratio
  obtain ⟨r, given, positive, low⟩ := ratio
  rw [Option.mem_def.1 given]
  cases r with
  | nan payload => cases positive
  | infinite negative =>
    cases negative
    · cases low
    · cases positive
  | finite negative m e canonical => exact ⟨negative, m, e, canonical, rfl⟩

theorem isTree_json {servers : Servers} {ipv6 : Bool} {s : Settings} (valid : s.validate servers ipv6 = .ok ())
    (number : ∀ r ∈ s.updater.minRatio, r.isNaN = false) (short : s.IsShort) : s.toRaw.IsTree Json.IsLeaf := by
  refine Value.IsTree.map (Value.AreNamed.prunedEntries (areNamed_toValue s fun path hp => ?_))
  obtain ⟨kind, hk⟩ := exists_lookup path hp
  by_cases decimal : kind = .decimal
  · rw [decimal_path path (decimal ▸ hk)]
    exact isLeaf_ratio valid number
  · exact (fits_of_mem_lookups s _ hk).2.isTree_json decimal (short path hp)

end Settings

theorem Value.isText_of_named {leaf : Value → Prop} {es : Section} (named : AreNamed leaf es) :
    ∀ e ∈ es, e.1.isText = true := by
  induction es with
  | nil => exact List.forall_mem_nil _
  | cons e es ih =>
    obtain ⟨⟨name, same, -⟩, -, named⟩ := named
    refine List.forall_mem_cons.2 ⟨?_, ih named⟩
    rw [same]
    rfl

namespace Files

variable {d : Files}

/-- The data of settings that are stored under a name with the suffix of JSON are read from there. -/
theorem fragment_put {place : Path} (json : place.suffix = ".json") (rooted : place.root ≠ "")
    (straight : ".." ∉ place.parts) (free : d.writeFault? place = none) {s : Settings} {text : String}
    (plain : ∀ c ∈ text.toList, Json.IsPlain c) (read : Json.read text = .ok s.toRaw) (env : Secrets) :
    (d.put place (encode text)).fragment place env = .ok (s.reread env) := by
  have ascii : ∀ c ∈ text.toList, c.toNat < 128 ∧ c ≠ '\r' := fun c hc => (plain c hc).ascii
  have document : (d.put place (encode text)).document place = .ok (.map s.rawEntries) := by
    rw [document, readText_put rooted straight free ascii, ok_bind, Document.parse, Format.ofPath, if_pos json]
    exact read
  obtain ⟨names, known⟩ := Document.unknownSections_of_isText s.rawEntries
    (Value.isText_of_named s.areNamed_rawEntries)
  rw [fragment, sections, document, ok_bind]
  dsimp only
  rw [known]
  exact s.fragment_toRaw env

end Files

namespace Settings

/-- What a run of saving does: if the settings have a text and the file can be written, the text is put there. -/
theorem run_save (s : Settings) (q : Path) (session : Session) (text : String)
    (written : ∀ place, session.files.settled q = .ok place → Document.write s place = .ok text) :
    (s.save q).run session =
      match session.files.expanded q >>= session.files.placeToWrite with
      | .error f => (.error f, session)
      | .ok place => (.ok (), { session with files := session.files.put place (Files.encode text) }) := by
  rw [save, Task.run_bind, Task.run_get]
  dsimp only
  rw [Task.run_bind, Task.run_lift]
  dsimp only
  cases found : session.files.settled q with
  | error f => rw [Files.placeToWrite_of_unsettled found]
  | ok place =>
    rw [Files.placeToWrite_of_settled found]
    dsimp only
    rw [Task.run_bind, Task.run_lift, written place found]
    dsimp only
    cases session.files.writeFault? place <;> rfl

/-- Settings that were loaded come back as they were when they are saved as JSON and loaded again,
whatever secrets the environment gives by then. Saving them fails for no other reason than that the
file cannot be written. -/
theorem save_load (p q : Path) (servers : Servers) (ipv6 : Bool) (env : Secrets) (before session : Session)
    (s : Settings) (loads : ((load p servers ipv6 env).run before).1 = .ok s)
    (number : ∀ r ∈ s.updater.minRatio, r.isNaN = false) (short : s.IsShort) (json : q.IsJson)
    (rooted : session.files.here.root ≠ "") :
    ((s.save q).run session).1 =
        (session.files.expanded q >>= session.files.placeToWrite).map (fun _ => ()) ∧
      (((s.save q).run session).1 = .ok () → ∀ env',
        ((load q servers ipv6 env').run ((s.save q).run session).2).1 = .ok s) := by
  rw [run_load] at loads
  have loaded := isLoaded_of_loaded loads
  obtain ⟨text, written, plain, read⟩ := Json.read_write (isTree_json loaded.valid number short)
  have written (place : Path) (found : session.files.settled q = .ok place) :
      Document.write s place = .ok text := by
    rw [Document.write, Format.ofPath, if_pos (Files.suffix_settled json found)]
    exact written
  rw [run_save s q session text written]
  cases writable : session.files.expanded q >>= session.files.placeToWrite with
  | error f => exact ⟨rfl, fun saved => by cases saved⟩
  | ok place =>
    refine ⟨rfl, fun _ env' => ?_⟩
    obtain ⟨settled, free⟩ := Files.placeToWrite_eq_ok writable
    obtain ⟨rooted, straight⟩ := Files.settled_eq_ok rooted settled
    have given := Files.fragment_put (Files.suffix_settled json settled) rooted straight free plain read env'
    rw [run_load]
    dsimp only
    rw [Settings.loaded, Files.settled_put, settled, ok_bind, given, ok_bind, loaded.reread_eq,
      loaded.plainly_eq]
    dsimp only
    rw [loaded.valid]
    rfl

/-- Settings of a file are saved under another name and loaded in an environment with a user of its own. -/
theorem save_load_plainExample :
    ((plainExample.save ⟨"", ["t.json"]⟩).run Cli.customProvider).1 = .ok () ∧
      ((load ⟨"", ["t.json"]⟩ {} false { openvpnUser := some "u" }).run
        ((plainExample.save ⟨"", ["t.json"]⟩).run Cli.customProvider).2).1 = .ok plainExample := by
  have loads : ((load ⟨"", ["s.json"]⟩ {} false {}).run Cli.customProvider).1 = .ok plainExample := by
    decide +kernel
  have number : ∀ r ∈ plainExample.updater.minRatio, r.isNaN = false := by
    rintro r ⟨⟩
    decide +kernel
  have json : Path.IsJson ⟨"", ["t.json"]⟩ := ⟨by decide +kernel, .inl (by decide +kernel)⟩
  obtain ⟨saves, comes_back⟩ := save_load ⟨"", ["s.json"]⟩ ⟨"", ["t.json"]⟩ {} false {} Cli.customProvider
    Cli.customProvider plainExample loads number isShort_plainExample json (by decide)
  have writable : (Cli.customProvider.files.expanded ⟨"", ["t.json"]⟩ >>=
      Cli.customProvider.files.placeToWrite).map (fun _ => ()) = .ok () := by decide +kernel
  have saved := saves.trans writable
  exact ⟨saved, comes_back saved _⟩

end Settings
end TunnelSettings
