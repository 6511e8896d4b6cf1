import PathTracking.CommandLine.Run
import PathTracking.Proofs.CommandLine.Loading
import PathTracking.Proofs.Files
import PathTracking.Proofs.StandardLibrary
import Mathlib.Tactic.Common

/-!
# How runs end

A run with a command line that is understood loads its settings, its start pose, its log and its
route among the files of a host, whose state may change with every access. The first input that
cannot be used is one of `Fails`; it is reported with the code two unless it is one of `Escapes`,
which break the run off. So `run_ends` tells all that a run can come to, whatever library it works
with. `Escapes` is not empty: the syntax of a broken listing is not reported, while that of a broken
plan is.
-/
namespace PathTracking

variable {σ α β : Type}

/-! ## Loading -/

variable {library : Library} {host : Host (StateM σ)} {s : σ} {e : LoadError}

/-- A file that cannot be used is reported. -/
theorem perform_file_break_iff {access : ExceptT FileFault (StateM σ) α}
    {f : α → ExceptT LoadError (StateM σ) β} :
    (perform (access.adapt .file >>= f) s).1 = .error e ∧ e.isReported = false ↔
      ∃ a s', perform access s = (.ok a, s') ∧
        (perform (f a) s').1 = .error e ∧ e.isReported = false := by
  rw [perform_bind, perform_adapt]
  obtain ⟨_ | a, s'⟩ := perform access s
  · simp only [mapError_error, Except.error.injEq, Prod.mk.injEq, reduceCtorEq, false_and,
      exists_false, iff_false, not_and]
    rintro rfl
    simp [LoadError.isReported]
  · simp

theorem Settings.fileFields_break_iff {config : Option String} :
    (perform (fileFields library host config) s).1 = .error e ∧ e.isReported = false ↔
      ∃ name content s', config = some name ∧ name ≠ "" ∧
        perform (host.read name) s = (.ok content, s') ∧ SettingsBreak library content e := by
  unfold fileFields
  split
  · simp
  · simp
  next name nonempty =>
    simp only [perform_file_break_iff, perform_lift_bind, settingsBreak_iff, Option.some.injEq,
      ne_eq]
    constructor
    · rintro ⟨content, s', read, broken⟩
      exact ⟨name, content, s', rfl, fun empty => nonempty empty, read, broken⟩
    · rintro ⟨_, content, s', rfl, -, read, broken⟩
      exact ⟨content, s', read, broken⟩

theorem Settings.load_break_iff {config : Option String} {overrides : Fields} :
    (perform (load library host config overrides) s).1 = .error e ∧ e.isReported = false ↔
      ∃ name content s', config = some name ∧ name ≠ "" ∧
        perform (host.read name) s = (.ok content, s') ∧ SettingsBreak library content e := by
  rw [← fileFields_break_iff, load, perform_bind_error_iff]
  constructor
  · rintro ⟨failed | ⟨fields, s', -, failed⟩, unreported⟩
    · exact ⟨failed, unreported⟩
    · obtain ⟨record, rfl⟩ := failsOnly_ofLayers library fields overrides e failed
      cases unreported
  · exact fun ⟨failed, unreported⟩ => ⟨.inl failed, unreported⟩

theorem Log.setUp_break_iff {settings : Settings Float} {toFile : Bool} :
    (perform (setUp host settings toFile) s).1 = .error e ∧ e.isReported = false ↔
      upperName settings.logLevel = "_STYLES" ∧ e = .unusableLevel := by
  -- A log file that cannot be made is reported.
  have created (level : Nat) (name : String) :
      ¬((perform (do
          let place ← (host.create name).adapt LoadError.file
          return (⟨level, some ⟨place, settings.logMaxBytes, settings.logBackups⟩⟩ : Log)) s).1 =
        .error e ∧ e.isReported = false) := by
    rw [perform_file_break_iff]
    simp
  rw [setUp, perform_lift_bind_error_iff]
  constructor
  · rintro ⟨failed | ⟨level, -, failed⟩, unreported⟩
    · rcases failsOnly_rankNamed settings.logLevel e failed with ⟨shown, rfl⟩ | styles
      · cases unreported
      · exact styles
    · split at failed
      · cases failed
      · cases failed
      · split at failed
        · cases failed
        · exact absurd ⟨failed, unreported⟩ (created level _)
  · rintro ⟨styles, rfl⟩
    exact ⟨.inl (by simp [rankNamed, styles]), rfl⟩

theorem RouteFormat.failsOnly_ofName (name : String) :
    FailsOnly (fun e => ∃ shown, e = .unsupported shown) (ofName name) := by
  unfold ofName
  dsimp only
  split
  · exact .ok _
  split
  · exact .ok _
  split
  · exact .ok _
  · exact .error ⟨_, rfl⟩

theorem Route.load_break_iff {name : String} :
    (perform (load library host name) s).1 = .error e ∧ e.isReported = false ↔
      ∃ format content s', RouteFormat.ofName name = .ok format ∧
        perform (host.read name) s = (.ok content, s') ∧ RouteBreak library format content e := by
  have known (format : RouteFormat) (s : σ) :
      (perform (loadAs library host format none name) s).1 = .error e ∧ e.isReported = false ↔
        ∃ content s', perform (host.read name) s = (.ok content, s') ∧
          RouteBreak library format content e := by
    simp only [loadAs, perform_file_break_iff, perform_lift, ← routeBreak_iff]
  rw [load, perform_lift_bind_error_iff]
  constructor
  · rintro ⟨failed | ⟨format, found, failed⟩, unreported⟩
    · obtain ⟨shown, rfl⟩ := RouteFormat.failsOnly_ofName name e failed
      cases unreported
    · obtain ⟨content, s', read, broken⟩ := (known format s).mp ⟨failed, unreported⟩
      exact ⟨format, content, s', found, read, broken⟩
  · rintro ⟨format, content, s', found, read, broken⟩
    obtain ⟨failed, unreported⟩ := (known format s).mpr ⟨content, s', read, broken⟩
    exact ⟨.inr ⟨format, found, failed⟩, unreported⟩

/-! ## Runs -/

namespace CommandLine

theorem Prepared.failsOnly_startOf (start : Option String) :
    FailsOnly (fun e => e.isReported = true) (startOf start) := by
  unfold startOf
  split
  · exact .ok _
  · exact .ok _
  · refine .map (fun e failed => ?_) _
    rcases Pose.failsOnly_ofText _ e failed with ⟨shown, rfl⟩ | ⟨text, rfl⟩ <;> rfl

/-- The first input that cannot be used: the settings, the start pose, the log or the route. -/
inductive Fails (library : Library) (host : Host (StateM σ)) (a : Arguments) (s : σ) :
    LoadError → Prop
  | settings {e : LoadError}
      (failed : (perform (Settings.load library host a.options.config a.options.overrides) s).1 =
        .error e) : Fails library host a s e
  | start {settings : Settings Float} {s' : σ} {e : LoadError}
      (loaded : perform (Settings.load library host a.options.config a.options.overrides) s =
        (.ok settings, s'))
      (failed : Prepared.startOf a.options.start = .error e) : Fails library host a s e
  | log {settings : Settings Float} {start : Option (Pose Float)} {s' : σ} {e : LoadError}
      (loaded : perform (Settings.load library host a.options.config a.options.overrides) s =
        (.ok settings, s'))
      (started : Prepared.startOf a.options.start = .ok start)
      (failed : (perform (Log.setUp host settings (!a.options.noLogFile)) s').1 = .error e) :
      Fails library host a s e
  | route {settings : Settings Float} {start : Option (Pose Float)} {log : Log} {s₁ s₂ : σ}
      {e : LoadError}
      (loaded : perform (Settings.load library host a.options.config a.options.overrides) s =
        (.ok settings, s₁))
      (started : Prepared.startOf a.options.start = .ok start)
      (logged : perform (Log.setUp host settings (!a.options.noLogFile)) s₁ = (.ok log, s₂))
      (failed : (perform (Route.load library host a.name) s₂).1 = .error e) :
      Fails library host a s e

theorem Prepared.load_error_iff {a : Arguments} :
    (perform (load library host a) s).1 = .error e ↔ Fails library host a s e := by
  rw [load, perform_bind_error_iff]
  constructor
  · rintro (failed | ⟨settings, s₁, loaded, failed⟩)
    · exact .settings failed
    rcases perform_lift_bind_error_iff.mp failed with failed | ⟨start, started, failed⟩
    · exact .start loaded failed
    rcases perform_bind_error_iff.mp failed with failed | ⟨log, s₂, logged, failed⟩
    · exact .log loaded started failed
    rcases perform_bind_error_iff.mp failed with failed | ⟨route, s₃, -, failed⟩
    · exact .route loaded started logged failed
    · cases failed
  · intro fails
    cases fails with
    | settings failed => exact .inl failed
    | start loaded failed =>
      exact .inr ⟨_, _, loaded, perform_lift_bind_error_iff.mpr (.inl failed)⟩
    | log loaded started failed =>
      refine .inr ⟨_, _, loaded, perform_lift_bind_error_iff.mpr (.inr ⟨_, started, ?_⟩)⟩
      exact perform_bind_error_iff.mpr (.inl failed)
    | route loaded started logged failed =>
      refine .inr ⟨_, _, loaded, perform_lift_bind_error_iff.mpr (.inr ⟨_, started, ?_⟩)⟩
      refine perform_bind_error_iff.mpr (.inr ⟨_, _, logged, ?_⟩)
      exact perform_bind_error_iff.mpr (.inl failed)

/-- The inputs that break a run off: a settings file, the level of the log once the settings and
the start pose are fine, and a route file once the log is set up. -/
inductive Escapes (library : Library) (host : Host (StateM σ)) (a : Arguments) (s : σ) :
    LoadError → Prop
  | settings {name : String} {content : Bytes} {s' : σ} {e : LoadError}
      (named : a.options.config = some name) (nonempty : name ≠ "")
      (read : perform (host.read name) s = (.ok content, s'))
      (broken : SettingsBreak library content e) : Escapes library host a s e
  | level {settings : Settings Float} {start : Option (Pose Float)} {s' : σ}
      (loaded : perform (Settings.load library host a.options.config a.options.overrides) s =
        (.ok settings, s'))
      (started : Prepared.startOf a.options.start = .ok start)
      (styles : upperName settings.logLevel = "_STYLES") : Escapes library host a s .unusableLevel
  | route {settings : Settings Float} {start : Option (Pose Float)} {log : Log}
      {format : RouteFormat} {content : Bytes} {s₁ s₂ s₃ : σ} {e : LoadError}
      (loaded : perform (Settings.load library host a.options.config a.options.overrides) s =
        (.ok settings, s₁))
      (started : Prepared.startOf a.options.start = .ok start)
      (logged : perform (Log.setUp host settings (!a.options.noLogFile)) s₁ = (.ok log, s₂))
      (known : RouteFormat.ofName a.name = .ok format)
      (read : perform (host.read a.name) s₂ = (.ok content, s₃))
      (broken : RouteBreak library format content e) : Escapes library host a s e

theorem escapes_iff {a : Arguments} :
    Escapes library host a s e ↔ Fails library host a s e ∧ e.isReported = false := by
  constructor
  · intro escapes
    cases escapes with
    | settings named nonempty read broken =>
      obtain ⟨failed, unreported⟩ :=
        Settings.load_break_iff.mpr ⟨_, _, _, named, nonempty, read, broken⟩
      exact ⟨.settings failed, unreported⟩
    | level loaded started styles =>
      obtain ⟨failed, unreported⟩ := Log.setUp_break_iff.mpr ⟨styles, rfl⟩
      exact ⟨.log loaded started failed, unreported⟩
    | route loaded started logged known read broken =>
      obtain ⟨failed, unreported⟩ := Route.load_break_iff.mpr ⟨_, _, _, known, read, broken⟩
      exact ⟨.route loaded started logged failed, unreported⟩
  · rintro ⟨fails, unreported⟩
    cases fails with
    | settings failed =>
      obtain ⟨name, content, s', named, nonempty, read, broken⟩ :=
        Settings.load_break_iff.mp ⟨failed, unreported⟩
      exact .settings named nonempty read broken
    | start loaded failed =>
      -- A start pose never breaks a run off.
      have reported : e.isReported = true := Prepared.failsOnly_startOf _ e failed
      cases reported.symm.trans unreported
    | log loaded started failed =>
      obtain ⟨styles, rfl⟩ := Log.setUp_break_iff.mp ⟨failed, unreported⟩
      exact .level loaded started styles
    | route loaded started logged failed =>
      obtain ⟨format, content, s₃, known, read, broken⟩ :=
        Route.load_break_iff.mp ⟨failed, unreported⟩
      exact .route loaded started logged known read broken

namespace Prepared

variable {p : Prepared} {name : String}

theorem outcome_eq_error_iff {fault : TrackingFault} :
    p.outcome name = .error fault ↔
      p.route ≠ [] ∧ PathTracking.simulate p.route p.settings p.start = .error fault := by
  unfold outcome
  split
  next empty => simp_all
  next nonempty =>
    have route : p.route ≠ [] := by simpa using nonempty
    rw [simulate, bind_eq_error_iff]
    simp [route, pure, Except.pure]

/-- The code of a route that was not empty tells how its simulation ended. -/
theorem code_of_outcome {outcome : Outcome} (ended : p.outcome name = .ok outcome) :
    outcome.code ≤ 2 ∧ (outcome.code = 2 ↔ p.route = []) ∧
      (outcome.code = 0 ↔ p.route ≠ [] ∧ ∃ summary notices,
        PathTracking.simulate p.route p.settings p.start = .ok (summary, notices) ∧
          summary.phase = .completed) := by
  unfold Prepared.outcome at ended
  split at ended
  next empty =>
    obtain rfl := Except.ok.inj ended
    simp_all [Outcome.refused]
  next nonempty =>
    have route : p.route ≠ [] := by simpa using nonempty
    rw [simulate] at ended
    cases simulated : PathTracking.simulate p.route p.settings p.start with
    | error fault => simp [simulated, bind, Except.bind] at ended
    | ok result =>
      obtain ⟨summary, notices⟩ := result
      simp only [simulated, bind, Except.bind, pure, Except.pure, Except.ok.injEq] at ended
      subst ended
      by_cases completed : summary.phase = .completed <;> simp [completed, route]

end Prepared

theorem perform_runWith (library : Library) (host : Host (StateM σ)) (a : Arguments) (s : σ) :
    (perform (runWith library host a) s).1 =
      match (perform (Prepared.load library host a) s).1 with
      | .ok p => (p.outcome a.name).mapError .tracking
      | .error e => if e.isReported then .ok (.refused e.message) else .error (.load e) := by
  simp only [perform, runWith, ExceptT.run_mk, StateT.run_bind]
  rcases (Prepared.load library host a).run.run s with ⟨_ | _, _⟩ <;> rfl

theorem run_of_accepted {library : Library} {host : Host (StateM σ)} {level : Option String}
    {argv : List String} {a : Arguments} (accepted : Arguments.parse level argv = .ok a) :
    run library host level argv = runWith library host a := by
  rw [run, accepted]

section Run

variable {level : Option String} {argv : List String} {a : Arguments}

theorem run_load_error_iff (accepted : Arguments.parse level argv = .ok a) :
    (perform (run library host level argv) s).1 = .error (.load e) ↔
      Escapes library host a s e := by
  rw [run_of_accepted accepted, perform_runWith, escapes_iff, ← Prepared.load_error_iff]
  cases (perform (Prepared.load library host a) s).1 with
  | ok p => simp [mapError_eq_error_iff]
  | error e' =>
    by_cases reported : e'.isReported
    · simp only [reported, if_true, reduceCtorEq, Except.error.injEq, false_iff, not_and]
      rintro rfl
      simp [reported]
    · simp only [reported, Bool.false_eq_true, if_false, Except.error.injEq, Breakdown.load.injEq,
        iff_self_and]
      rintro rfl
      simpa using reported

theorem run_tracking_error_iff (accepted : Arguments.parse level argv = .ok a)
    {fault : TrackingFault} :
    (perform (run library host level argv) s).1 = .error (.tracking fault) ↔
      ∃ p, (perform (Prepared.load library host a) s).1 = .ok p ∧ p.route ≠ [] ∧
        PathTracking.simulate p.route p.settings p.start = .error fault := by
  rw [run_of_accepted accepted, perform_runWith]
  cases (perform (Prepared.load library host a) s).1 with
  | ok p => simp [mapError_eq_error_iff, Prepared.outcome_eq_error_iff]
  | error e => by_cases reported : e.isReported <;> simp [reported]

/-- A run that ends refuses an input, or ends as its route does. -/
theorem outcome_of_run (accepted : Arguments.parse level argv = .ok a) {outcome : Outcome}
    (ended : (perform (run library host level argv) s).1 = .ok outcome) :
    (∃ e, (perform (Prepared.load library host a) s).1 = .error e ∧
        outcome = .refused e.message) ∨
      ∃ p, (perform (Prepared.load library host a) s).1 = .ok p ∧
        p.outcome a.name = .ok outcome := by
  rw [run_of_accepted accepted, perform_runWith] at ended
  cases loaded : (perform (Prepared.load library host a) s).1 with
  | ok p =>
    rw [loaded] at ended
    exact .inr ⟨p, rfl, mapError_eq_ok_iff.mp ended⟩
  | error e =>
    rw [loaded] at ended
    dsimp only at ended
    split at ended
    · exact .inl ⟨e, rfl, (Except.ok.inj ended).symm⟩
    · cases ended

/-- A bracket that never closes. -/
def openListing : Bytes := "- [1\n".toList.map fun c => c.toNat.toUInt8

/-- A tree whose only file is a broken listing. -/
def openFiles : FileTree := ⟨[(["p.yaml"], openListing)]⟩

def openWords : List String := ["run", "--path", "p.yaml", "--no-log-file"]

def openArguments : Arguments :=
  ⟨"p.yaml", { Options.initial none with path := some "p.yaml", noLogFile := true }⟩

theorem parse_openWords : Arguments.parse none openWords = .ok openArguments := rfl

/-- What the reader says about a listing that is broken. -/
def malformed : ReadFailure := ⟨.malformed, "malformed document"⟩

theorem readDocument_openListing :
    Library.standard.readDocument openListing = .error malformed := by
  have decoded : Text.decodeFile openListing = .ok "- [1\n".toList := by decide +kernel
  -- Documents cannot be compared, so that only the form of the answer is decided.
  have unclosed : (match Yaml.parse 480 (Text.unifyLineEnds "- [1\n".toList) with
      | .error .malformed => true
      | _ => false) = true := by decide +kernel
  rw [Library.readDocument_of_decoded decoded]
  split at unclosed
  next failed =>
    rw [failed]
    rfl
  next => cases unclosed

theorem settings_openArguments :
    ∃ settings, Settings.ofLayers .standard [] openArguments.options.overrides = .ok settings ∧
      settings.logLevel = "INFO" := by
  -- Nor can settings; but their level can.
  have level : (Settings.ofLayers .standard [] openArguments.options.overrides).toOption.map
      (·.logLevel) = some "INFO" := by decide +kernel
  obtain ⟨settings, loaded, level⟩ := Option.map_eq_some_iff.mp level
  exact ⟨settings, toOption_eq_some_iff.mp loaded, level⟩

theorem setUp_console {settings : Settings Float} {level : Nat}
    (named : Log.rankNamed settings.logLevel = .ok level) :
    perform (Log.setUp host settings false) s = (.ok ⟨level, none⟩, s) := by
  rw [Log.setUp, perform_bind_of_ok (by rw [perform_lift, named])]
  split <;> rfl

theorem read_openFiles (root : String) :
    perform ((FileTree.host root).read "p.yaml") openFiles = (.ok openListing, openFiles) := by
  have content : openFiles.read "p.yaml" = .ok openListing := by
    rw [FileTree.read, String.contains_char_eq]
    decide +kernel
  exact congrArg (·, openFiles) content

theorem escapes_openFiles (root : String) :
    Escapes .standard (FileTree.host root) openArguments openFiles (.document malformed) := by
  obtain ⟨settings, layers, level⟩ := settings_openArguments
  have loaded : perform (Settings.load .standard (FileTree.host root) none
      openArguments.options.overrides) openFiles = (.ok settings, openFiles) := by
    rw [Settings.load, Settings.fileFields]
    exact (perform_bind_of_ok rfl).trans (congrArg (·, openFiles) layers)
  have named : Log.rankNamed settings.logLevel = .ok 20 := by
    rw [level]
    rfl
  have known : RouteFormat.ofName "p.yaml" = .ok .listing := rfl
  exact .route loaded rfl (setUp_console named) known (read_openFiles root)
    (.refused readDocument_openListing rfl)

/-- How a run ends whose command line is understood. It breaks off exactly for the inputs of
`Escapes` and when its simulation does. Otherwise its code is two if an input cannot be used or the
route is empty, and else zero or one as the simulation completes the route or not. -/
theorem run_ends (accepted : Arguments.parse level argv = .ok a) (library : Library)
    (host : Host (StateM σ)) (s : σ) :
    (∀ e, (perform (run library host level argv) s).1 = .error (.load e) ↔
      Escapes library host a s e) ∧
    (∀ fault, (perform (run library host level argv) s).1 = .error (.tracking fault) ↔
      ∃ p, (perform (Prepared.load library host a) s).1 = .ok p ∧ p.route ≠ [] ∧
        PathTracking.simulate p.route p.settings p.start = .error fault) ∧
    ∀ outcome, (perform (run library host level argv) s).1 = .ok outcome →
      outcome.code ≤ 2 ∧
      (outcome.code = 2 ↔
        (∃ e, Fails library host a s e) ∨
          ∃ p, (perform (Prepared.load library host a) s).1 = .ok p ∧ p.route = []) ∧
      (outcome.code = 0 ↔
        ∃ p, (perform (Prepared.load library host a) s).1 = .ok p ∧ p.route ≠ [] ∧
          ∃ summary notices,
            PathTracking.simulate p.route p.settings p.start = .ok (summary, notices) ∧
              summary.phase = .completed) := by
  refine ⟨fun e => run_load_error_iff accepted, fun fault => run_tracking_error_iff accepted,
    fun outcome ended => ?_⟩
  simp only [← Prepared.load_error_iff]
  rcases outcome_of_run accepted ended with ⟨e, failed, rfl⟩ | ⟨p, loaded, ended⟩
  · simp [failed, Outcome.refused]
  · simpa [loaded] using Prepared.code_of_outcome ended

theorem run_ends_on_openFiles :
    Arguments.parse none openWords = .ok openArguments ∧
      (perform (run .standard (FileTree.host "/w") none openWords) openFiles).1 =
        .error (.load (.document malformed)) :=
  ⟨parse_openWords,
    ((run_ends parse_openWords .standard (FileTree.host "/w") openFiles).1 _).mpr
      (escapes_openFiles "/w")⟩

/-- Not every run comes to an outcome whose simulation does not break off. -/
theorem not_run_reports_always :
    ¬ ∀ (argv : List String) (a : Arguments) (files : FileTree),
      Arguments.parse none argv = .ok a →
        (∃ outcome, (perform (run .standard (FileTree.host "/w") none argv) files).1 =
            .ok outcome) ∨
          ∃ fault, (perform (run .standard (FileTree.host "/w") none argv) files).1 =
            .error (.tracking fault) := by
  intro always
  have abrupt := (run_load_error_iff parse_openWords).mpr (escapes_openFiles "/w")
  rcases always openWords openArguments openFiles parse_openWords with
    ⟨outcome, ended⟩ | ⟨fault, ended⟩
  · cases abrupt.symm.trans ended
  · cases abrupt.symm.trans ended

end Run
end CommandLine
end PathTracking
