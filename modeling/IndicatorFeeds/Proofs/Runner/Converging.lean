import IndicatorFeeds.Proofs.Rotation.Names
import IndicatorFeeds.Proofs.Rotation.Visibility
import IndicatorFeeds.Proofs.Runner.Operations

namespace IndicatorFeeds

open Store (Memory)
open Program Rotation

namespace Runner

variable {r : Runner} {allows : (r : Request) → r.Answer → Prop} {name new : String}
  {record final : Job.Record} {feed : Feed.Metadata} {p : Program Outcome} {m m' : Memory} {y : Moment}

private theorem extent_of_default {config : Config.EngineConfig} {service : Nat}
    (created : Runner.create config service = .ok r) (default : config.store = {})
    (stored : r.records.Holds m name record) (named : record.name = name)
    (listed : ∀ i ∈ record.indices, r.IsData i) : r.Extent allows name (fun _ => True) m where
  apart := apart_of_create created
  named := by
    intro record' holds
    obtain rfl := holds.unique stored
    exact named
  listed := by
    intro record' holds i member
    obtain rfl := holds.unique stored
    exact ⟨listed i member, trivial⟩
  names := fun _ _ _ generation => ⟨isData_of_default created default generation, trivial⟩

private theorem Extent.executed (extent : r.Extent allows name (fun _ => True) m)
    (stored : r.records.Holds m name record) (run : r.Refreshes name p)
    (ended : Ends (Moment.surroundings allows) p (.start m) (.ok (.refreshed new)) y) :
    y.store.faults = m.faults ∧
      ∃ failureState, r.Executed allows record failureState y.store (.refreshed new) := by
  cases run with
  | tick =>
    obtain ⟨confined, -, ticked⟩ := (extent.along_tick.moved .refl fun _ _ _ => .trans).ended ended
    refine ⟨confined.faults, ?_⟩
    rcases ticked with aborted | scheduled | locked | ⟨e, -, barred⟩
    · cases aborted
    · cases scheduled with
      | executed holds _ _ executed =>
        obtain rfl := holds.unique stored
        exact ⟨_, executed⟩
    · cases locked
    · cases barred
  | onDemand =>
    obtain ⟨confined, -, refreshed⟩ :=
      (extent.along_refresh.moved .refl fun _ _ _ => .trans).ended ended
    refine ⟨confined.faults, ?_⟩
    cases refreshed with
    | executed holds _ executed =>
      obtain rfl := holds.unique stored
      exact ⟨_, executed⟩

private theorem stale_of_current {i : String} (current : record.currentIndex = some i) :
    i ∈ r.stale record feed := by
  have listed : i ∈ record.indices := List.mem_of_getLast? current
  have other : i ≠ r.nextIndex record feed := by
    rintro rfl
    exact nextIndex_ne_current r record feed current
  exact List.mem_filter.mpr ⟨listed, by simpa using other⟩

private theorem eq_current_or_next {base current i : String} (generation : i ∈ generationNames base)
    (served : current ∈ generationNames base) :
    i = current ∨ i = nextName base (some current) := by
  rcases mem_generationNames.mp generation with rfl | rfl <;>
    rcases mem_generationNames.mp served with rfl | rfl <;>
    simp [nextName, firstSuffix, secondSuffix]

/-- What the record of a refreshed job lists is just what could not be removed of all that it has
listed before, as it was listed, and then the new index. Whatever it does not list any more is gone;
and if nothing fails to be removed, it lists the new index alone, which is then the only one that is
there of the generations of its feed, if one of them has been served before. -/
theorem refresh_converges {config : Config.EngineConfig} {service : Nat}
    (created : Runner.create config service = .ok r) (default : config.store = {})
    (stored : r.records.Holds m name record) (named : record.name = name)
    (listed : ∀ i ∈ record.indices, r.IsData i) (run : r.Refreshes name p)
    (ended : Ends (Moment.surroundings allows) p (.start m) (.ok (.refreshed new)) y) :
    ∃ final feed, r.records.Holds y.store name final ∧
      allows (.feedFor name) (.ok (some feed)) ∧ new = r.nextIndex record feed ∧
      final.indices =
        (record.indices.filter (· ≠ new)).filter (· ∈ m.faults.failingDeletion) ++ [new] ∧
      (∀ i ∈ record.indices, i ∉ final.indices → y.store.indices.find? i = none) ∧
      ((∀ i ∈ record.indices, i ≠ new → i ∉ m.faults.failingDeletion) →
        final.indices = [new] ∧
          ∀ old ∈ generationNames (baseName r.config.rotation.dataIndexPrefix name feed.feedId),
            record.currentIndex = some old →
              ∀ i ∈ generationNames (baseName r.config.rotation.dataIndexPrefix name feed.feedId),
                y.store.indices.find? i ≠ none ↔ i = new) := by
  have extent : r.Extent allows name (fun _ => True) m :=
    extent_of_default created default stored named listed
  obtain ⟨faults, failureState, executed⟩ := extent.executed stored run ended
  cases executed with
  | @refreshed feed _ final kept served _ found reads gate whole made holds all gone there =>
  subst named
  rw [faults] at all
  have indices : final.indices = kept ++ [r.nextIndex record feed] := by
    obtain ⟨generation, millis, succeeded, enabled, now, -, -, -, -, -, rfl⟩ := made
    rfl
  have dropped : ∀ i ∈ r.stale record feed, i ∉ final.indices → y.store.indices.find? i = none := by
    intro i member unlisted
    exact gone i member fun member => unlisted (indices ▸ List.mem_append_left _ member)
  refine ⟨final, feed, holds, found, rfl, by rw [indices, all]; rfl, fun i member unlisted => ?_,
    fun working => ?_⟩
  · have other : i ≠ r.nextIndex record feed := by
      rintro rfl
      exact unlisted (by simp [indices])
    exact dropped i (List.mem_filter.mpr ⟨member, by simpa using other⟩) unlisted
  have nothing : kept = [] := by
    rw [all, List.filter_eq_nil_iff]
    intro i member failing
    obtain ⟨member, other⟩ := List.mem_filter.mp member
    exact working i member (by simpa using other) (by simpa using failing)
  have alone : final.indices = [r.nextIndex record feed] := by rw [indices, nothing]; rfl
  refine ⟨alone, fun old generation current i generation' => ⟨fun present => ?_, ?_⟩⟩
  · rcases eq_current_or_next generation' generation with rfl | next
    · have stale : i ∈ r.stale record feed := stale_of_current current
      have removed : y.store.indices.find? i = none := by
        refine gone i stale ?_
        rw [nothing]
        exact List.not_mem_nil
      exact absurd removed present
    · rw [next, nextIndex, current]
  · rintro rfl
    rw [there]
    exact Option.some_ne_none _

section

open Example

/-- The first index is served; an index of an earlier feed and the second one, which is next, could not
be removed before. -/
private def littered : Job.Record := { available with indices := ["job-2", "job-old-1", "job-1"] }

/-- The earlier feed's index cannot be removed now, either. -/
private def litteredStore : Memory :=
  { (["job-2", "job-old-1", "job-1"].foldl (fun m i => m.write i "x" (.string "old"))
      (Memory.empty.write ".threatintel-jobs" "job" littered.toJson)) with
    faults := { failingDeletion := ["job-old-1"] } }

private def tidied : Moment :=
  ((runner.runJob "job").outcome.run (Moment.answeredBy answer) (.start litteredStore)).2

/-- The second index has been made anew and is served; the first one is gone. -/
theorem refresh_converges_littered : ∃ final, runner.records.Holds tidied.store "job" final ∧
    final.indices = ["job-old-1", "job-2"] ∧ tidied.store.indices.find? "job-1" = none := by
  have created : Runner.create {} 0 = .ok runner := by rfl
  have stored : runner.records.Holds litteredStore "job" littered :=
    ⟨_, by rfl, Job.Record.fromJson?_toJson littered⟩
  have listed : ∀ i ∈ littered.indices, runner.IsData i := by
    unfold Runner.IsData
    decide +kernel
  have ended : Ends (Moment.surroundings (answers feed reply)) (runner.runJob "job").outcome
      (.start litteredStore) (.ok (.refreshed "job-2")) tidied :=
    Moment.ends_answeredBy answer_allowed _ (.start litteredStore) (by decide +kernel)
  obtain ⟨final, feed', holds, -, -, indices, dropped, -⟩ :=
    refresh_converges created rfl stored rfl listed .tick ended
  have left : final.indices = ["job-old-1", "job-2"] := indices.trans (by decide +kernel)
  refine ⟨final, holds, left, dropped "job-1" (by decide +kernel) ?_⟩
  rw [left]
  decide +kernel

end

end Runner

end IndicatorFeeds
