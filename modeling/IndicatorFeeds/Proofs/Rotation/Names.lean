import IndicatorFeeds.Proofs.Rotation.Course

/-!
The names of generations. With the default names of the engine's own indices, no generation has one
of them, whatever its job and feed are called. Two jobs may have generations of the same names, since
what stands between the names of a job and of its feed may stand in both of them too.
-/

namespace IndicatorFeeds

open Rotation

theorem Rotation.mem_generationNames {base i : String} :
    i ∈ generationNames base ↔ i = base ++ firstSuffix ∨ i = base ++ secondSuffix := by
  simp [generationNames]

theorem Rotation.getLast?_of_mem_generationNames {base i : String} (named : i ∈ generationNames base) :
    i.toList.getLast? = some '1' ∨ i.toList.getLast? = some '2' := by
  rcases mem_generationNames.mp named with rfl | rfl <;>
    simp [firstSuffix, secondSuffix, List.getLast?_append]

namespace Rotation

variable {namePrefix job feedId other feedId' : String}

/-- What follows the name of a job in the names of its generations. -/
def feedPart (job feedId : String) : String := if job = feedId then "" else "-" ++ feedId

theorem baseName_eq (namePrefix job feedId : String) :
    baseName namePrefix job feedId = namePrefix ++ (job ++ feedPart job feedId) := by
  unfold baseName feedPart
  split
  · rw [String.append_empty]
  · rw [String.append_assoc, String.append_assoc]

/-- The other job's name goes on after the one job's, and the id of the one job's feed is the rest of
the other job's name and what follows it. -/
def Joined (job feedId other feedId' : String) : Prop :=
  ∃ rest, other = job ++ "-" ++ rest ∧ feedId ≠ job ∧ feedId = rest ++ feedPart other feedId'

private theorem Joined.eq (joined : Joined job feedId other feedId') :
    job ++ feedPart job feedId = other ++ feedPart other feedId' := by
  obtain ⟨rest, longer, different, fed⟩ := joined
  rw [feedPart, if_neg different.symm, fed, longer]
  simp only [String.append_assoc]

private theorem joined_of_longer {rest : List Char} (different : job ≠ other)
    (longer : other.toList = job.toList ++ rest)
    (part : (feedPart job feedId).toList = rest ++ (feedPart other feedId').toList) :
    Joined job feedId other feedId' := by
  cases rest with
  | nil =>
    rw [List.append_nil] at longer
    exact absurd (String.toList_inj.mp longer.symm) different
  | cons c rest =>
    by_cases same : job = feedId
    · rw [feedPart, if_pos same] at part
      cases part
    · rw [feedPart, if_neg same, String.toList_append] at part
      have part : '-' :: feedId.toList = c :: (rest ++ (feedPart other feedId').toList) := part
      obtain ⟨rfl, fed⟩ := List.cons.inj part
      refine ⟨String.ofList rest, String.toList_inj.mp ?_, Ne.symm same, String.toList_inj.mp ?_⟩
      · simp [longer]
      · simpa using fed

/-- Two jobs have generations of the same names just if one is joined to the other. -/
theorem baseName_eq_iff (different : job ≠ other) :
    baseName namePrefix job feedId = baseName namePrefix other feedId' ↔
      Joined job feedId other feedId' ∨ Joined other feedId' job feedId := by
  rw [baseName_eq, baseName_eq]
  constructor
  · intro same
    have same := congrArg String.toList same
    simp only [String.toList_append, List.append_cancel_left_eq] at same
    rcases List.append_eq_append_iff.mp same with ⟨rest, longer, part⟩ | ⟨rest, longer, part⟩
    · exact .inl (joined_of_longer different longer part)
    · exact .inr (joined_of_longer different.symm longer part)
  · rintro (joined | joined)
    · rw [joined.eq]
    · rw [joined.eq]

private theorem first_ne_second (base base' : String) : base ++ firstSuffix ≠ base' ++ secondSuffix := by
  intro same
  have last := congrArg (fun name => name.toList.getLast?) same
  simp [firstSuffix, secondSuffix, List.getLast?_append] at last

theorem nodup_generationNames_iff {base base' : String} :
    (generationNames base ++ generationNames base').Nodup ↔ base ≠ base' := by
  have suffixes : firstSuffix ≠ secondSuffix := by decide
  simp [generationNames, first_ne_second, (first_ne_second _ _).symm, suffixes]

end Rotation

namespace Runner

variable {r : Runner}

/-- The default names of the engine's own indices do not end with a number. -/
theorem isData_of_default {config : Config.EngineConfig} {service : Nat} {base i : String}
    (created : Runner.create config service = .ok r) (default : config.store = {})
    (named : i ∈ generationNames base) : r.IsData i := by
  obtain ⟨-, -, leases, records⟩ := eq_of_create created
  have last := getLast?_of_mem_generationNames named
  refine ⟨?_, ?_⟩ <;> rintro rfl
  · rw [leases, default] at last
    revert last
    decide
  · rw [records, default] at last
    revert last
    decide

end Runner

end IndicatorFeeds
