import IndicatorFeeds.Proofs.Documents
import IndicatorFeeds.Proofs.Rotation.Asked

namespace IndicatorFeeds

open Store (Memory MemoryIndex Call)

/-- The record as it is written at a time. -/
def Job.Record.writtenAt (record : Job.Record) (now : Instant) : Job.Record :=
  { record with lastUpdateTime := now }

/-- A store holds this record of a job. -/
def Job.Records.Holds (r : Job.Records) (m : Memory) (name : String) (record : Job.Record) : Prop :=
  ∃ stored, m.document? r.index name = some stored ∧
    Job.Record.fromJson? (.ofValue stored.source) = some record

theorem Job.Records.Holds.unique {r : Job.Records} {m : Memory} {name : String}
    {record other : Job.Record} (holds : r.Holds m name record) (again : r.Holds m name other) :
    record = other := by
  obtain ⟨stored, there, decoded⟩ := holds
  obtain ⟨stored', there', decoded'⟩ := again
  obtain rfl := Option.some.inj (there.symm.trans there')
  exact Option.some.inj (decoded.symm.trans decoded')

theorem Job.Records.Holds.congr {r : Job.Records} {m m' : Memory} {name : String}
    {record : Job.Record} (holds : r.Holds m name record)
    (same : m'.indices.find? r.index = m.indices.find? r.index) : r.Holds m' name record := by
  obtain ⟨stored, there, decoded⟩ := holds
  refine ⟨stored, ?_, decoded⟩
  unfold Memory.document? at there ⊢
  rw [same]
  exact there

theorem Job.Records.Holds.of_document? {r : Job.Records} {m m' : Memory} {name : String}
    {record : Job.Record} (holds : r.Holds m' name record)
    (same : m'.document? r.index name = m.document? r.index name) : r.Holds m name record :=
  let ⟨stored, there, decoded⟩ := holds
  ⟨stored, same.symm.trans there, decoded⟩

theorem Job.Records.Holds.present {r : Job.Records} {m : Memory} {name : String}
    {record : Job.Record} (holds : r.Holds m name record) : m.document? r.index name ≠ none := by
  obtain ⟨stored, there, -⟩ := holds
  rw [there]
  exact Option.some_ne_none stored

namespace Runner

open Program Rotation

variable {r : Runner} {allows : (r : Request) → r.Answer → Prop} {record : Job.Record}
  {own : Moment × Lease → Moment × Lease → Prop} {i : String} {found : Option MemoryIndex}
  {docs : List Json.Value} {x y : Moment × Lease}

/-! ### Asking and loading

The rules come in two forms: with others that may make moves before each request, as long as they
keep what the rule starts from, and for a program alone. -/

variable {others : Moment × Lease → Moment × Lease → Prop}

theorem along_ask_while (holds : Moment × Lease → Prop) {request : Request}
    {next : request.Answer → Program α} {ends : Except Failure α → Moment × Lease → Prop}
    (kept : ∀ x y, others x y → holds x → holds y) (start : holds x) (still : ∀ x, own x x)
    (notStore : ∀ c, request ≠ .store c) (notRenewal : request ≠ .renewLease)
    (rest : ∀ a y, allows request a → holds y → Along (r.held allows) others own ends (next a) y) :
    Along (r.held allows) others own ends (.ask request next) x := by
  intro y moved a z answered
  obtain ⟨allowed, rfl⟩ := held_of_other answered notStore notRenewal
  exact ⟨still _, rest a _ allowed (kept _ _ moved start)⟩

theorem along_ask {request : Request} {next : request.Answer → Program α}
    {ends : Except Failure α → Moment × Lease → Prop} (still : ∀ x, own x x)
    (notStore : ∀ c, request ≠ .store c) (notRenewal : request ≠ .renewLease)
    (rest : ∀ a, allows request a → Along (r.held allows) Eq own ends (next a) x) :
    Along (r.held allows) Eq own ends (.ask request next) x :=
  along_ask_while (· = x) (fun _ _ same there => same ▸ there) rfl still notStore notRenewal
    fun a _ allowed same => same ▸ rest a allowed

theorem along_now {next : Instant → Program α} {ends : Except Failure α → Moment × Lease → Prop}
    (still : ∀ x, own x x)
    (rest : ∀ now, Tells allows now → Along (r.held allows) Eq own ends (next now) x) :
    Along (r.held allows) Eq own ends (Program.now.bind next) x :=
  along_ask still nofun nofun fun (reading : Reading) allowed =>
    rest reading.instant ⟨reading, allowed, rfl⟩

theorem along_feedFor {name : String} {next : Option Feed.Metadata → Program α}
    {ends : Except Failure α → Moment × Lease → Prop} (still : ∀ x, own x x)
    (fails : ∀ e, allows (.feedFor name) (.error e) → ends (.error (.error e)) x)
    (rest : ∀ feed, allows (.feedFor name) (.ok feed) →
      Along (r.held allows) Eq own ends (next feed) x) :
    Along (r.held allows) Eq own ends
      ((Program.feedFor name).bind next) x := by
  refine along_ask still nofun nofun fun answer allowed => ?_
  match answer with
  | .error e => exact fails e allowed
  | .ok feed => exact rest feed allowed

theorem along_get_while {σ : Type} {env : Surroundings σ} {others own : σ → σ → Prop}
    (holds : σ → Prop) {ends : Except Failure (Option Job.Record) → σ → Prop}
    {records : Job.Records} {name : String} {s : σ} (m : Memory)
    (kept : ∀ s t, others s t → holds s → holds t) (start : holds s)
    (reads : ∀ s a t, holds s → env (.store (.getDocument records.index name)) s a t →
      own s t ∧ t = s ∧ ∃ m' : Memory, a = .ok (m'.getDocument records.index name) ∧
        m'.document? records.index name = m.document? records.index name)
    (fails : ∀ t, holds t → (∀ record, ¬records.Holds m name record) →
      ends (.error (.error .serialization)) t)
    (missing : ∀ t, holds t → m.document? records.index name = none → ends (.ok none) t)
    (found : ∀ record t, holds t → records.Holds m name record → ends (.ok (some record)) t) :
    Along env others own ends (records.get name) s := by
  intro t moved a u answered
  have there := kept s t moved start
  obtain ⟨own, rfl, m', rfl, same⟩ := reads t a u there answered
  refine ⟨own, ?_⟩
  unfold Memory.getDocument
  rw [same]
  cases known : m.document? records.index name with
  | none => exact missing u there known
  | some stored =>
    show Along env others _ ends ((ofExcept (Job.Records.decode
      ⟨name, stored.version, stored.source⟩)).bind fun record => done (some record)) _
    unfold Job.Records.decode
    dsimp only
    cases decoded : Job.Record.fromJson? (.ofValue stored.source) with
    | some record => exact found record u there ⟨stored, known, decoded⟩
    | none =>
      refine fails u there ?_
      rintro record ⟨stored', known', decoded'⟩
      obtain rfl := Option.some.inj (known.symm.trans known')
      cases decoded.symm.trans decoded'

theorem along_get {σ : Type} {env : Surroundings σ} {own : σ → σ → Prop}
    {ends : Except Failure (Option Job.Record) → σ → Prop} {records : Job.Records}
    {name : String} {s : σ} (m : Memory) (still : own s s)
    (reads : ∀ a t, env (.store (.getDocument records.index name)) s a t →
      t = s ∧ ∃ m' : Memory, a = .ok (m'.getDocument records.index name) ∧
        m'.document? records.index name = m.document? records.index name)
    (fails : (∀ record, ¬records.Holds m name record) → ends (.error (.error .serialization)) s)
    (missing : m.document? records.index name = none → ends (.ok none) s)
    (found : ∀ record, records.Holds m name record → ends (.ok (some record)) s) :
    Along env Eq own ends (records.get name) s := by
  refine along_get_while (· = s) m (fun _ _ same there => same ▸ there) rfl ?_ ?_ ?_ ?_
  · rintro _ a t rfl answered
    obtain ⟨rfl, answer⟩ := reads a t answered
    exact ⟨still, rfl, answer⟩
  · rintro _ rfl unreadable
    exact fails unreadable
  · rintro _ rfl absent
    exact missing absent
  · rintro record _ rfl holds
    exact found record holds

/-- An index that is to be removed is gone then, unless a fault keeps it; no other index changes. -/
theorem along_deleteIfThere_while (holds : Moment × Lease → Prop) {index : String}
    {next : Except Store.Error Unit → Program α} {ends : Except Failure α → Moment × Lease → Prop}
    (kept : ∀ x y, others x y → holds x → holds y) (start : holds x) (still : ∀ x, own x x)
    (refused : ∀ x, holds x → index ∈ x.1.store.faults.failingDeletion →
      Along (r.held allows) others own ends
        (next (.error (.backend s!"injected delete failure for {index}"))) x)
    (removed : ∀ a x y, holds x → r.held allows (.store (.deleteIndex index)) x a y →
      index ∉ x.1.store.faults.failingDeletion →
      (∀ i, y.1.store.indices.find? i = if i = index then none else x.1.store.indices.find? i) →
        own x y ∧ Along (r.held allows) others own ends (next (.ok ())) y) :
    Along (r.held allows) others own ends ((deleteIfThere index).bind next) x := by
  intro y moved a z answered
  have there := kept x y moved start
  have answered' := answered
  obtain ⟨⟨store, answer, same⟩, lease⟩ := answered
  rcases Memory.deleteIndex_cases answer with ⟨failing, rfl, rfl⟩ | ⟨working, gone, accepted⟩
  · obtain rfl : z = _ := Prod.ext (same.trans (Moment.after_error _ _ _)) lease
    exact ⟨still _, refused _ there failing⟩
  · obtain ⟨moved, rest⟩ := removed a y z there answered' working fun i => by
      rw [same]
      exact gone i
    refine ⟨moved, ?_⟩
    rcases accepted with rfl | rfl <;> exact rest

/-- A record is written over the one there is. -/
def Saved (r : Runner) (record : Job.Record) (x y : Moment × Lease) : Prop :=
  x.1.store.isBlocked r.records.index = false ∧
    y = (x.1.after (.putDocument r.records.index record.name record.toJson .overwrite)
      (.ok (Memory.version (x.1.store.lastSeqNo + 1)))
      (x.1.store.write r.records.index record.name record.toJson), x.2)

theorem Saved.document? (saved : r.Saved record x y) :
    y.1.store.document? r.records.index record.name =
      some ⟨Memory.version (x.1.store.lastSeqNo + 1), record.toJson⟩ := by
  obtain ⟨-, rfl⟩ := saved
  exact Memory.document?_write_self _ _ _ _

theorem Saved.holds (saved : r.Saved record x y) :
    r.records.Holds y.1.store record.name record :=
  ⟨_, saved.document?, Job.Record.fromJson?_toJson record⟩

theorem Saved.isBlocked (saved : r.Saved record x y) (i : String) :
    y.1.store.isBlocked i = x.1.store.isBlocked i := by
  obtain ⟨-, rfl⟩ := saved
  exact Memory.isBlocked_write _ _ _ _ _

theorem Saved.faults (saved : r.Saved record x y) : y.1.store.faults = x.1.store.faults := by
  obtain ⟨-, rfl⟩ := saved
  rfl

theorem Saved.answered (allows : (r : Request) → r.Answer → Prop) (saved : r.Saved record x y) :
    r.held allows (.store (.putDocument r.records.index record.name record.toJson .overwrite)) x
      (.ok (Memory.version (x.1.store.lastSeqNo + 1))) y := by
  obtain ⟨writable, rfl⟩ := saved
  exact ⟨⟨_, Memory.answer_overwrite writable _ _, rfl⟩, rfl⟩

theorem Saved.keeps (saved : r.Saved record x y) (other : i ≠ r.records.index)
    (keeps : r.Keeps i found docs x) : r.Keeps i found docs y := by
  have spares : (Request.store (.putDocument r.records.index record.name record.toJson
      .overwrite)).Spares i := Request.spares_of_ne other.symm
  exact keeps.step spares (saved.answered fun _ _ => True)

theorem Saved.at (saved : r.Saved record x y) (data : r.IsData i) (there : x.1.At i found docs) :
    y.1.At i found docs := by
  have spares : (Request.store (.putDocument r.records.index record.name record.toJson
      .overwrite)).Spares i := Request.spares_of_ne data.2.symm
  exact at_held there spares data.1 (saved.answered fun _ _ => True)

theorem Saved.tracks (saved : r.Saved record x y) (tracks : r.Tracks i docs x) :
    r.Tracks i docs y := by
  have called := tracks.call (saved.answered fun _ _ => True)
  refine ⟨fun data => ?_, called.issued⟩
  have nothing : Moment.additions (.putDocument r.records.index record.name record.toJson
      .overwrite) (.ok (Memory.version (x.1.store.lastSeqNo + 1))) i = [] := if_neg data.2.symm
  have written := called.written data
  rw [nothing, List.append_nil] at written
  exact written

/-- A generation takes no writes, so no record is written into it. -/
theorem Serves.saved (serves : r.Serves i docs x) (saved : r.Saved record x y) :
    r.Serves i docs y := by
  obtain ⟨served, keeps, blocked, sources⟩ := serves
  refine ⟨served, saved.keeps ?_ keeps, blocked, sources⟩
  rintro rfl
  have writable := saved.1
  simp [Memory.isBlocked, keeps.contents, blocked] at writable

theorem put_saved {a : Except Store.Error Store.Version}
    (answered : r.held allows (.store (.putDocument r.records.index record.name record.toJson
      .overwrite)) x a y) :
    (∃ version, a = .ok version ∧ r.Saved record x y) ∨
      a = .error (Memory.blocked r.records.index) ∧
        x.1.store.isBlocked r.records.index = true ∧ y = x := by
  obtain ⟨⟨store, answer, same⟩, lease⟩ := answered
  rcases Memory.putDocument_cases answer with ⟨version, rfl, written⟩ | ⟨e, rfl, refused, rfl⟩
  · obtain ⟨-, writable, rfl, rfl⟩ := Memory.putDocument_eq_ok_iff.mp written
    exact .inl ⟨_, rfl, writable, Prod.ext same lease⟩
  · rcases Memory.putDocument_eq_error_iff.mp refused with conflict | ⟨-, blocked, rfl⟩
    · cases conflict
    · exact .inr ⟨rfl, blocked, Prod.ext (same.trans (x.1.after_error _ _)) lease⟩

/-- A record that is saved is there afterwards with the time of its writing, unless the index of
records takes no writes. -/
theorem along_save_while (holds : Moment × Lease → Prop)
    {ends : Except Failure (Job.Record × Except Store.Error Unit) → Moment × Lease → Prop}
    (kept : ∀ x y, others x y → holds x → holds y) (start : holds x) (still : ∀ x, own x x)
    (accepted : ∀ now x y, holds x → Tells allows now → r.Saved (record.writtenAt now) x y →
      own x y ∧ ends (.ok (record.writtenAt now, .ok ())) y)
    (refused : ∀ now x, holds x → x.1.store.isBlocked r.records.index = true →
      ends (.ok (record.writtenAt now, .error (Memory.blocked r.records.index))) x) :
    Along (r.held allows) others own ends (r.records.save record) x := by
  refine along_ask_while holds kept start still nofun nofun fun (reading : Reading) y allowed there => ?_
  intro z moved a z' answered
  let now := reading.instant
  have there := kept y z moved there
  have answered : r.held allows (.store (.putDocument r.records.index (record.writtenAt now).name
    (record.writtenAt now).toJson .overwrite)) z a z' := answered
  rcases put_saved answered with ⟨version, rfl, saved⟩ | ⟨rfl, blocked, rfl⟩
  · exact accepted now z z' there ⟨reading, allowed, rfl⟩ saved
  · exact ⟨still _, refused now _ there blocked⟩

theorem along_save
    {ends : Except Failure (Job.Record × Except Store.Error Unit) → Moment × Lease → Prop}
    (still : ∀ x, own x x)
    (accepted : ∀ now y, Tells allows now → r.Saved (record.writtenAt now) x y →
      own x y ∧ ends (.ok (record.writtenAt now, .ok ())) y)
    (refused : ∀ now, x.1.store.isBlocked r.records.index = true →
      ends (.ok (record.writtenAt now, .error (Memory.blocked r.records.index))) x) :
    Along (r.held allows) Eq own ends (r.records.save record) x := by
  refine along_save_while (· = x) (fun _ _ same there => same ▸ there) rfl still ?_ ?_
  · rintro now _ y rfl allowed saved
    exact accepted now y allowed saved
  · rintro now _ rfl blocked
    exact refused now blocked

theorem along_saveQuietly {ends : Except Failure Unit → Moment × Lease → Prop} (still : ∀ x, own x x)
    (accepted : ∀ now y, Tells allows now → r.Saved (record.writtenAt now) x y →
      own x y ∧ ends (.ok ()) y)
    (refused : x.1.store.isBlocked r.records.index = true → ends (.ok ()) x) :
    Along (r.held allows) Eq own ends (r.saveQuietly record) x :=
  along_bind_iff.mpr (along_save still accepted fun _ blocked => refused blocked)

theorem along_put (lease : Lease) {x : Moment} {own : Moment → Moment → Prop}
    {ends : Except Failure Job.Record → Moment → Prop} (still : ∀ x, own x x)
    (accepted : ∀ now y, Tells allows now →
      x.store.document? r.records.index record.name = none →
      r.Saved (record.writtenAt now) (x, lease) (y, lease) →
        own x y ∧ ends (.ok (record.writtenAt now)) y)
    (refused : ∀ e, ends (.error (.error e)) x) :
    Along (Moment.surroundings allows) Eq own ends (r.records.put record) x := by
  rintro _ rfl (reading : Reading) y ⟨allowed, rfl⟩
  let now := reading.instant
  refine ⟨still y, ?_⟩
  rintro _ rfl (a : Except Store.Error Store.Version) z ⟨store, answer, same⟩
  rcases Memory.putDocument_cases answer with ⟨version, rfl, written⟩ | ⟨e, rfl, -, rfl⟩
  · obtain ⟨accepts, writable, rfl, rfl⟩ := Memory.putDocument_eq_ok_iff.mp written
    have absent : y.store.document? r.records.index record.name = none := by
      simpa [Memory.refusal?, Job.Record.writtenAt] using accepts
    exact accepted now z ⟨reading, allowed, rfl⟩ absent ⟨writable, Prod.ext same rfl⟩
  · obtain rfl : z = y := same.trans (y.after_error _ _)
    refine ⟨still z, ?_⟩
    cases e <;> exact refused _

end Runner

end IndicatorFeeds
