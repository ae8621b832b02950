import Mathlib.Data.List.TakeWhile
import IndicatorFeeds.Config.Load
import IndicatorFeeds.Proofs.Program.Replies
import IndicatorFeeds.World

/-!
What becomes of the durations that an environment states. The settings of a lease count whole seconds, of
which a duration never has too many. Those of the wait for shards count whole milliseconds in 64 bits, and
what does not fit there is neither refused nor kept: another setting is loaded in its place.
-/

namespace IndicatorFeeds

theorem Text.trim_of_isBlankText {s : String} (blank : isBlankText s = true) : trim s = "" := by
  have gone : trimStart s.toList = [] := List.dropWhile_eq_nil_iff.mpr (List.all_eq_true.mp blank)
  unfold trim trimChars
  rw [gone]
  rfl

namespace Duration

/-- The nanoseconds of a second. -/
def second : Nat := 1000000000

/-- The nanoseconds of a millisecond. -/
def millisecond : Nat := 1000000

/-- The nanoseconds of a duration. -/
def total (d : Duration) : Nat := d.secs * second + d.nanos

theorem secs_eq (d : Duration) : d.secs = d.total / second := by
  have := d.bounded.2
  unfold total second
  omega

theorem millis_eq (d : Duration) : d.millis = d.total / millisecond := by
  unfold millis total second millisecond
  omega

theorem parse_trim_of_isBlankText {s : String} (blank : Text.isBlankText s = true) :
    parse (Text.trim s) = .error (.refused .empty) := by
  rw [Text.trim_of_isBlankText blank]
  rfl

end Duration

/-- The duration that a variable states, if it has the text of one. -/
def Environment.duration? (env : Environment) (key : String) : Option Duration :=
  (env.get? key).bind fun raw => (Duration.parse (Text.trim raw)).toOption

theorem Environment.exists_of_mem_duration? {env : Environment} {key : String} {d : Duration}
    (stated : d ∈ env.duration? key) : ∃ raw, env.get? key = some raw ∧
      Text.isBlankText raw = false ∧ Duration.parse (Text.trim raw) = .ok d := by
  obtain ⟨raw, found, parsed⟩ := Option.bind_eq_some_iff.mp stated
  have parsed : Duration.parse (Text.trim raw) = .ok d := by
    cases read : Duration.parse (Text.trim raw) with
    | error why => simp [read, Except.toOption] at parsed
    | ok d' => simpa [read, Except.toOption] using parsed
  refine ⟨raw, found, ?_, parsed⟩
  by_contra blank
  rw [Duration.parse_trim_of_isBlankText (by simpa using blank)] at parsed
  cases parsed

namespace Config

variable {env : Environment} {key : String} {unit : Nat} {setting : UInt64}

/-- A setting that counts so many nanoseconds each is what a variable states, rounded down. -/
def AsStated (env : Environment) (key : String) (unit : Nat) (setting : UInt64) : Prop :=
  ∀ d ∈ env.duration? key, setting.toNat = d.total / unit

/-- What a variable states can be counted so in 64 bits. -/
def Fits (env : Environment) (key : String) (unit : Nat) : Prop :=
  ∀ d ∈ env.duration? key, d.total / unit < UInt64.size

instance : Decidable (AsStated env key unit setting) :=
  inferInstanceAs (Decidable (∀ d ∈ env.duration? key, setting.toNat = d.total / unit))

instance : Decidable (Fits env key unit) :=
  inferInstanceAs (Decidable (∀ d ∈ env.duration? key, d.total / unit < UInt64.size))

private theorem eq_count_of_overridden {count : Duration → UInt64} {current : UInt64}
    (read : overridden ((env.get? key).filter fun value => !Text.isBlankText value) current
      (fun raw => (durationOf key raw).map count) = .ok setting)
    {d : Duration} (stated : d ∈ env.duration? key) : setting = count d := by
  obtain ⟨raw, found, solid, parsed⟩ := Environment.exists_of_mem_duration? stated
  have given : (env.get? key).filter (fun value => !Text.isBlankText value) = some raw := by
    simp [found, solid]
  have text : durationOf key raw = .ok d := by
    unfold durationOf
    rw [parsed]
  rw [given, overridden, text] at read
  exact (Except.ok.inj read).symm

/-- Whole seconds are as stated, since a duration has less than `2 ^ 64` of them. -/
private theorem asStated_of_seconds {current : UInt64}
    (read : overridden ((env.get? key).filter fun value => !Text.isBlankText value) current
      (secondsOf key) = .ok setting) : AsStated env key Duration.second setting := by
  intro d stated
  rw [eq_count_of_overridden read stated, ← d.secs_eq]
  exact UInt64.toNat_ofNat_of_lt' d.bounded.1

/-- Whole milliseconds are as stated just if there are less than `2 ^ 64` of them. -/
private theorem asStated_iff_of_millis {current : UInt64}
    (read : overridden ((env.get? key).filter fun value => !Text.isBlankText value) current
      (millisOf key) = .ok setting) :
    AsStated env key Duration.millisecond setting ↔ Fits env key Duration.millisecond := by
  constructor
  · intro as d stated
    rw [← as d stated]
    exact setting.toNat_lt
  · intro fits d stated
    have bound := fits d stated
    rw [← d.millis_eq] at bound ⊢
    rw [eq_count_of_overridden read stated]
    exact UInt64.toNat_ofNat_of_lt' bound

/-- The environment that settings are taken from, if the file of variables has this content. -/
def LoadOptions.variables? (options : LoadOptions) (env : Environment) (content : FileContent) :
    Option Environment :=
  match env.addFile content with
  | .ok (env, _) => some (options.environment.getD env)
  | .error _ => none

section

variable {replies : Replies} {options : LoadOptions} {loaded : Loaded} {asked asked' : List Request}

private theorem exists_of_run_bind {x : Loading α} {next : α → Loading β} {b : β}
    (ended : ((x >>= next).run.run replies.answer asked).1 = .ok (.ok b)) :
    ∃ a asked', x.run.run replies.answer asked = (.ok (.ok a), asked') ∧
      ((next a).run.run replies.answer asked').1 = .ok (.ok b) := by
  rw [ExceptT.run_bind] at ended
  change ((Program.bind x.run _).run replies.answer asked).1 = _ at ended
  rw [Program.run_bind] at ended
  cases ran : x.run.run replies.answer asked with
  | mk result asked' =>
    rw [ran] at ended
    match result, ended with
    | .ok (.ok a), ended => exact ⟨a, asked', rfl, ended⟩

private theorem run_file (path : String) :
    (liftM (Program.file path) : Loading FileContent).run.run replies.answer asked =
      (.ok (.ok (replies asked (.file path))), asked ++ [.file path]) := rfl

private theorem ok_of_settled {result : Except Failure α} {a : α}
    (ended : (settled result).run.run replies.answer asked = (.ok (.ok a), asked')) :
    result = .ok a := by
  match result, ended with
  | .ok _, ended =>
    cases ended
    rfl
  | .error (.error _), ended => cases ended
  | .error (.fault _), ended => cases ended

private theorem engine_of_resolve {file : Option (String × FileConfig)} {o : Overrides} {added : Bool}
    (resolves : ((resolve file o added).run.run replies.answer asked).1 = .ok (.ok loaded)) :
    engineSettings ((file.map (·.2)).getD {}) o = .ok loaded.engine := by
  unfold resolve at resolves
  obtain ⟨engine, _, ran, resolves⟩ := exists_of_run_bind resolves
  obtain ⟨store, _, -, resolves⟩ := exists_of_run_bind resolves
  obtain ⟨content, _, -, resolves⟩ := exists_of_run_bind resolves
  cases resolves
  exact ok_of_settled ran

theorem engine_of_load (loads : ((load options env).run.outcome replies).1 = .ok (.ok loaded)) :
    ∃ said file,
      options.variables? env (replies [] (.file (options.envFile.getD ".env"))) = some said ∧
        engineSettings file (.ofEnvironment said) = .ok loaded.engine := by
  unfold load Program.outcome at loads
  obtain ⟨content, _, ran, loads⟩ := exists_of_run_bind loads
  rw [run_file] at ran
  cases ran
  unfold LoadOptions.variables?
  cases added : env.addFile (replies [] (.file (options.envFile.getD ".env"))) with
  | error e =>
    rw [added] at loads
    cases e <;> cases loads
  | ok found =>
    rw [added] at loads
    refine ⟨options.environment.getD found.1, ?_⟩
    obtain ⟨place, _, -, loads⟩ := exists_of_run_bind loads
    match place, loads with
    | none, loads => exact ⟨_, rfl, engine_of_resolve loads⟩
    | some (path, content), loads =>
      obtain ⟨file, _, -, loads⟩ := exists_of_run_bind loads
      exact ⟨_, rfl, engine_of_resolve loads⟩

/-- The settings of the lease are what an environment states. -/
structure LeaseAsStated (said : Environment) (c : EngineConfig) : Prop where
  duration : AsStated said leaseDurationVariable Duration.second c.lease.durationSecs
  renewAfter : AsStated said renewAfterVariable Duration.second c.lease.renewAfterSecs

/-- The settings of the wait for shards are what an environment states. -/
structure WaitAsStated (said : Environment) (c : EngineConfig) : Prop where
  timeout :
    AsStated said shardWaitTimeoutVariable Duration.millisecond c.rotation.shardWaitTimeoutMillis
  pollInterval :
    AsStated said shardPollIntervalVariable Duration.millisecond c.rotation.shardPollIntervalMillis

/-- What an environment states for the wait for shards fits its settings. -/
structure WaitFits (said : Environment) : Prop where
  timeout : Fits said shardWaitTimeoutVariable Duration.millisecond
  pollInterval : Fits said shardPollIntervalVariable Duration.millisecond

/-- Whatever the configuration file says, a loaded configuration fits together and has the durations that
its environment states for the lease. Those for the wait for shards it has just if they fit. -/
theorem load_as_stated_iff
    (loads : ((load options env).run.outcome replies).1 = .ok (.ok loaded)) :
    ∃ said,
      options.variables? env (replies [] (.file (options.envFile.getD ".env"))) = some said ∧
        loaded.engine.validate = .ok () ∧ LeaseAsStated said loaded.engine ∧
          (WaitAsStated said loaded.engine ↔ WaitFits said) := by
  obtain ⟨said, file, taken, settings⟩ := engine_of_load loads
  obtain ⟨applied, valid⟩ := engineSettings_eq_ok_iff.mp settings
  obtain ⟨duration, renewal, timeout, interval⟩ := Overrides.applyTo_durations applied
  have timeout := asStated_iff_of_millis timeout
  have interval := asStated_iff_of_millis interval
  refine ⟨said, taken, valid, ⟨asStated_of_seconds duration, asStated_of_seconds renewal⟩, ?_, ?_⟩
  · intro as
    exact ⟨timeout.mp as.timeout, interval.mp as.pollInterval⟩
  · intro fits
    exact ⟨timeout.mpr fits.timeout, interval.mpr fits.pollInterval⟩

end

private def loadedEngine? (ended : Except IndicatorFeeds.Failure (Except LoadError Loaded)) :
    Option EngineConfig :=
  (ended.toOption.bind (·.toOption)).map (·.engine)

private theorem exists_of_loadedEngine? {ended : Except IndicatorFeeds.Failure (Except LoadError Loaded)}
    {c : EngineConfig} (engine : loadedEngine? ended = some c) :
    ∃ loaded, ended = .ok (.ok loaded) ∧ loaded.engine = c := by
  match ended, engine with
  | .ok (.ok loaded), engine => exact ⟨loaded, rfl, Option.some.inj engine⟩

/-- Nothing is found at any path. -/
private def noFiles : Replies := fun _ r => (World.answer r {}).1

private def patient : Environment := .ofList [
  (leaseDurationVariable, "10m"), (renewAfterVariable, "1m 59s 999ms"),
  (shardWaitTimeoutVariable, " 1.5h "), (shardPollIntervalVariable, "2s 500us")]

/-- Durations as people write them are loaded as they are, less what is below a second or a
millisecond. -/
theorem load_as_stated_patient : ∃ loaded,
    ((load { environment := some patient } .empty).run.outcome noFiles).1 = .ok (.ok loaded) ∧
      loaded.engine.lease = ⟨600, 119⟩ ∧
      loaded.engine.rotation = ⟨10000, 5400000, 2000, ""⟩ ∧
      LeaseAsStated patient loaded.engine ∧ WaitAsStated patient loaded.engine := by
  obtain ⟨loaded, loads, engine⟩ : ∃ loaded,
      ((load { environment := some patient } .empty).run.outcome noFiles).1 = .ok (.ok loaded) ∧
        loaded.engine = { lease := ⟨600, 119⟩, rotation := ⟨10000, 5400000, 2000, ""⟩ } :=
    exists_of_loadedEngine? (by decide +kernel)
  obtain ⟨said, taken, -, lease, wait⟩ := load_as_stated_iff loads
  obtain rfl : patient = said := Option.some.inj taken
  have fits : WaitFits patient := ⟨by decide +kernel, by decide +kernel⟩
  refine ⟨loaded, loads, ?_, ?_, lease, wait.mpr fits⟩ <;> rw [engine]

private def forever : Environment := .ofList [(shardPollIntervalVariable, "18446744073709552s")]

/-- More than half a billion years between two polls are loaded as 384 milliseconds, which pass the check
against the time-out. -/
theorem load_forever : ∃ loaded,
    ((load { environment := some forever } .empty).run.outcome noFiles).1 = .ok (.ok loaded) ∧
      loaded.engine.validate = .ok () ∧
      forever.duration? shardPollIntervalVariable = some ⟨18446744073709552, 0, by decide⟩ ∧
      loaded.engine.rotation.shardPollIntervalMillis = 384 ∧
      ¬ WaitAsStated forever loaded.engine := by
  obtain ⟨loaded, loads, engine⟩ : ∃ loaded,
      ((load { environment := some forever } .empty).run.outcome noFiles).1 = .ok (.ok loaded) ∧
        loaded.engine = { rotation := { shardPollIntervalMillis := 384 } } :=
    exists_of_loadedEngine? (by decide +kernel)
  refine ⟨loaded, loads, ?_, by decide +kernel, ?_, fun as => ?_⟩
  · rw [engine]
    decide +kernel
  · rw [engine]
  · have wrong := as.pollInterval
    rw [engine] at wrong
    revert wrong
    decide +kernel

end Config

end IndicatorFeeds
