import IndicatorFeeds.Proofs.Runner.Apart
import IndicatorFeeds.Proofs.Runner.AtRest

namespace IndicatorFeeds

open Store (Memory)
open Program Rotation

/-- A record is that of a job, and lists only indices that may be the job's own. -/
structure Job.Record.Belongs (own : String → Prop) (name : String) (record : Job.Record) : Prop where
  named : record.name = name
  listed : ∀ i ∈ record.indices, own i

namespace Runner

variable {r : Runner} {allows : (r : Request) → r.Answer → Prop} {name : String}
  {own may : String → Prop} {record record' : Job.Record} {failureState : Job.State} {m m' : Memory}

/-- What is stored as the record of a job belongs to the job. -/
def Lists (r : Runner) (own : String → Prop) (name : String) (m : Memory) : Prop :=
  ∀ record, r.records.Holds m name record → record.Belongs own name

theorem lists_empty : r.Lists own name .empty := fun _ ⟨_, there, _⟩ => by cases there

theorem Lists.mono {own' : String → Prop} (lists : r.Lists own name m)
    (more : ∀ i, own i → own' i) : r.Lists own' name m :=
  fun record holds => ⟨(lists record holds).named, fun i member =>
    more i ((lists record holds).listed i member)⟩

theorem Lists.of_document? (lists : r.Lists own name m)
    (same : m'.document? r.records.index name = m.document? r.records.index name) :
    r.Lists own name m' :=
  fun record holds => lists record (holds.of_document? same)

private theorem Begins.belongs (begins : r.Begins allows name m record failureState)
    (lists : r.Lists own name m) : record.Belongs own name := by
  cases begins with
  | ticked holds | asked holds => exact lists record holds
  | created => exact ⟨rfl, nofun⟩

private theorem Rotates.belongs (rotates : r.Rotates allows record failureState record')
    (belongs : record.Belongs own name)
    (generations : ∀ feed, allows (.feedFor name) (.ok (some feed)) →
      ∀ i ∈ r.config.generations name feed.feedId, own i) : record'.Belongs own name := by
  obtain ⟨rfl, listed⟩ := belongs
  cases rotates with
  | marked => exact ⟨rfl, listed⟩
  | @swapped feed reader kept final found gate made known =>
    obtain ⟨named, -, indices⟩ := made.parts
    refine ⟨named, fun i member => ?_⟩
    rw [indices, List.mem_append, List.mem_singleton] at member
    rcases member with kept | rfl
    · exact listed i (known i kept)
    · exact generations feed found _ (nextName_mem _ _)
  | @failed now later =>
    refine ⟨afterFailure_name record failureState now, fun i member => listed i ?_⟩
    exact (afterFailure_indices record failureState now) ▸ member

private theorem Noted.belongs (noted : Noted allows record record')
    (belongs : record.Belongs own name) : record'.Belongs own name := by
  cases noted <;> exact ⟨belongs.named, belongs.listed⟩

private theorem Updated.belongs (updated : Updated allows record record')
    (belongs : record.Belongs own name) : record'.Belongs own name := by
  obtain ⟨later, -, -, -, switched, -⟩ := updated
  obtain ⟨named, -, indices⟩ := switched.parts
  exact ⟨named.trans belongs.named, fun i member => belongs.listed i (indices ▸ member)⟩

theorem MayWrite.belongs (wrote : r.MayWrite allows name m (some record')) (lists : r.Lists own name m)
    (generations : ∀ feed, allows (.feedFor name) (.ok (some feed)) →
      ∀ i ∈ r.config.generations name feed.feedId, own i) : record'.Belongs own name := by
  rcases wrote with writes | erases
  · cases writes with
    | begun absent begins => exact begins.belongs lists
    | rotated begins rotates => exact rotates.belongs (begins.belongs lists) generations
    | rewritten holds rewritten =>
      rcases rewritten with noted | updated
      · exact noted.belongs (lists _ holds)
      · exact updated.belongs (lists _ holds)
  · cases erases with
    | marked holds | restored holds => exact ⟨(lists _ holds).named, (lists _ holds).listed⟩

theorem Lists.recorded (lists : r.Lists own name m)
    (generations : ∀ feed, allows (.feedFor name) (.ok (some feed)) →
      ∀ i ∈ r.config.generations name feed.feedId, own i)
    (recorded : r.Recorded name (r.MayWrite allows name m) m m') : r.Lists own name m' := by
  cases recorded with
  | kept same => exact lists.of_document? same
  | removed _ gone => exact fun record holds => absurd gone holds.present
  | written wrote stored =>
    intro record holds
    obtain rfl := holds.unique stored
    exact wrote.belongs lists generations

/-- Every record of a store is kept under the name of its job, and lists indices of data. -/
def Tidy (r : Runner) (m : Memory) : Prop := ∀ name, r.Lists r.IsData name m

theorem tidy_empty : r.Tidy .empty := fun _ => lists_empty

section

variable {config : Config.EngineConfig} {service : Nat} {p : Program α}
  {result : Except Failure α} {y : Moment}
  (created : Runner.create config service = .ok r) (default : config.store = {})

include created default

theorem Lists.footprint (lists : r.Lists (fun i => r.IsData i ∧ may i) name m)
    (generations : ∀ found, allows (.feedFor name) (.ok found) →
      ∀ i ∈ r.config.generations name ((found.map (·.feedId)).getD name), may i) :
    r.Footprint allows name may m where
  apart := apart_of_create created
  named := fun record holds => (lists record holds).named
  listed := fun record holds => (lists record holds).listed
  names := fun found answer i member =>
    ⟨isData_of_default created default member, generations found answer i member⟩

theorem Tidy.footprint (tidy : r.Tidy m) (allows : (r : Request) → r.Answer → Prop)
    (name : String) : r.Footprint allows name (fun _ => True) m := by
  have lists : r.Lists (fun i => r.IsData i ∧ True) name m :=
    (tidy name).mono fun _ data => ⟨data, trivial⟩
  exact lists.footprint created default fun _ _ _ _ => trivial

theorem Tidy.confined (tidy : r.Tidy m) (operates : r.Operates name p)
    (ended : Ends (Moment.surroundings allows) p (.start m) result y) :
    r.Confined name (fun _ => True) (r.MayWrite allows name m) (.start m) y :=
  have footprint := tidy.footprint created default allows name
  .of_moves ((footprint.along_operates operates).reached ended).2

theorem Tidy.ended (tidy : r.Tidy m) (operates : r.Operates name p)
    (ended : Ends (Moment.surroundings allows) p (.start m) result y) : r.Tidy y.store := by
  have confined := tidy.confined created default operates ended
  intro other
  by_cases same : other = name
  · subst same
    exact (tidy other).recorded (fun _ _ _ member => isData_of_default created default member)
      confined.recorded
  · exact (tidy other).of_document? (confined.documents _ _ (fun data => data.2 rfl) same)

end

end Runner

end IndicatorFeeds
