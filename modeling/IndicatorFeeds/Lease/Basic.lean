import IndicatorFeeds.Program

/-!
Leases: who holds a resource, and until when. A lease is a document of its own; it is taken by a
write that succeeds only if no one else has written the document since it was read, and every
later write or removal names the version of the write before it.
-/

namespace IndicatorFeeds

/-- A lease as its holder knows it. -/
structure Lease where
  resource : String
  takenAt : Reading
  durationSecs : UInt64
  /-- The version of the document that the holder wrote last. -/
  version : Store.Version
deriving DecidableEq

/-- The stored form of a lease, whose time is cut to whole milliseconds. -/
structure LeaseDocument where
  resource : String
  takenAt : Instant
  durationSecs : UInt64
deriving DecidableEq

/-- A length in seconds that is read as a signed number. -/
def seconds (word : UInt64) : Except Fault Span := Span.of .seconds (signedWord word)

/-- When a lease of this length ends. -/
def leaseEnd (takenAt : Instant) (durationSecs : UInt64) : Except Fault Instant := do
  takenAt.plus (← seconds durationSecs)

namespace LeaseDocument

def toJson (d : LeaseDocument) : Json.Value :=
  .ofFields [("job_id", .string d.resource), ("lock_time", d.takenAt.toJson),
    ("lock_duration_seconds", .nat d.durationSecs.toNat)]

def fromJson? (t : Json.Tree) : Option LeaseDocument := do
  let f ← t.fields ["job_id", "lock_time", "lock_duration_seconds"]
  return {
    resource := ← f.required "job_id" Json.Tree.text
    takenAt := ← f.required "lock_time" Instant.fromJson?
    durationSecs := .ofNat (← f.required "lock_duration_seconds" Json.Tree.natural) }

/-- Whether the lease keeps others from taking the resource. -/
def isLive (d : LeaseDocument) (now : Reading) : Except Fault Bool := do
  return now < .whole (← leaseEnd d.takenAt d.durationSecs)

end LeaseDocument

namespace Lease

def expiresAt (l : Lease) : Except Fault Reading := do
  l.takenAt.plus (← seconds l.durationSecs)

def isExpired (l : Lease) (now : Reading) : Except Fault Bool := do
  return (← l.expiresAt) ≤ now

def document (l : Lease) : LeaseDocument := ⟨l.resource, l.takenAt.instant, l.durationSecs⟩

end Lease

/-- What takes, renews and gives back leases. -/
structure LeaseService where
  /-- Tells services apart: each looks for the index of its leases once. -/
  id : Nat
  index : String
  /-- A lease younger than this is not renewed. -/
  renewAfter : Span

namespace LeaseService

/-- The service with these settings. -/
def create (id : Nat) (index : String) (renewAfterSecs : UInt64) : Except Fault LeaseService := do
  return ⟨id, index, ← seconds renewAfterSecs⟩

def indexSpec : Store.IndexSpec :=
  .system (.ofFields [("properties", .ofFields [
    ("job_id", .ofFields [("type", .string "keyword")]),
    ("lock_time", .ofFields [("type", .string "date"), ("format", .string "epoch_millis")]),
    ("lock_duration_seconds", .ofFields [("type", .string "long")])])])

/-- Makes the index of leases, unless this service has done so or another one has. -/
def ensureIndex (s : LeaseService) : Program Unit := do
  if ← Program.isLeaseIndexReady s.id then return ()
  match ← Program.call (.createIndex s.index indexSpec) with
  | .ok _ | .error (.alreadyExists _) => Program.request (.markLeaseIndexReady s.id)
  | .error e => Program.error (.store e)

/-- Why a lease cannot be written over what is stored, or the condition of the write. -/
def condition (now : Reading) :
    Option Store.Document → Program (Option Store.WriteCondition)
  | none => return some .create
  | some found =>
    match LeaseDocument.fromJson? (.ofValue found.source) with
    | none => Program.error .serialization
    | some current => do
      if ← Program.ofTime (current.isLive now) then return none
      else return some (.ifVersion found.version)

theorem condition_cases (now : Reading) (found : Store.Document) :
    (∃ e, condition now (some found) = .fail e) ∨ condition now (some found) = .done none ∨
      ∃ document, LeaseDocument.fromJson? (.ofValue found.source) = some document ∧
        document.isLive now = .ok false ∧
        condition now (some found) = .done (some (.ifVersion found.version)) := by
  cases decoded : LeaseDocument.fromJson? (.ofValue found.source) with
  | none =>
    simp only [condition, decoded]
    exact .inl ⟨_, rfl⟩
  | some document =>
    simp only [condition, decoded]
    cases live : document.isLive now with
    | error f => exact .inl ⟨_, rfl⟩
    | ok kept =>
      cases kept with
      | true => exact .inr (.inl rfl)
      | false => exact .inr (.inr ⟨document, rfl, live, rfl⟩)

/-- Takes the lease of a resource; `none` while another holder has it. -/
def acquire (s : LeaseService) (resource : String) (durationSecs : UInt64) :
    Program (Option Lease) := do
  s.ensureIndex
  let now ← Program.clock
  let found ← Program.ofStore (← Program.call (.getDocument s.index resource))
  match ← condition now found with
  | none => return none
  | some condition =>
    let document : LeaseDocument := ⟨resource, now.instant, durationSecs⟩
    match ← Program.call (.putDocument s.index resource document.toJson condition) with
    | .ok version => return some ⟨resource, now, durationSecs, version⟩
    | .error (.alreadyExists _) | .error (.versionConflict _ _) => return none
    | .error e => Program.error (.store e)

/-- Extends a lease. It stays as it is while it is young, and also when someone else has taken
it over: its holder then goes on without. -/
def renew (s : LeaseService) (lease : Lease) : Program Lease := do
  let now ← Program.clock
  if now < (← Program.ofTime (lease.takenAt.plus s.renewAfter)) then return lease
  let renewed := { lease with takenAt := now }
  match ← Program.call (.putDocument s.index lease.resource renewed.document.toJson
      (.ifVersion lease.version)) with
  | .ok version => return { renewed with version }
  | .error (.versionConflict _ _) | .error (.documentNotFound _ _) => return lease
  | .error e => Program.error (.store e)

def release (s : LeaseService) (lease : Lease) : Program Unit := do
  match ← Program.call (.deleteDocument s.index lease.resource (some lease.version)) with
  | .ok _ | .error (.documentNotFound _ _) | .error (.versionConflict _ _)
  | .error (.indexNotFound _) => return ()
  | .error e => Program.error (.store e)

/-- Gives a lease back; an error of the store is left to the lease's end. -/
def releaseQuietly (s : LeaseService) (lease : Lease) : Program Unit := do
  let _ ← (s.release lease).attempt

/-- Renews a lease; after an error of the store it stays as it is. -/
def renewQuietly (s : LeaseService) (lease : Lease) : Program Lease := do
  return ((← (s.renew lease).attempt).toOption).getD lease

/-- Runs a program that holds a lease: where it asks for a renewal, the lease it holds then is
renewed. The lease it ends with comes with its value or error. -/
def holding (s : LeaseService) (lease : Lease) : Program α → Program (Lease × Except Error α)
  | .done a => .done (lease, .ok a)
  | .fail (.error e) => .done (lease, .error e)
  | .fail (.fault f) => .fail (.fault f)
  | .ask .renewLease next => (s.renewQuietly lease).bind fun lease => s.holding lease (next ())
  | .ask r next => .ask r fun answer => s.holding lease (next answer)

/-- Runs a program that holds a lease, and gives the lease back however it ends. -/
def withLease (s : LeaseService) (lease : Lease) (work : Program α) :
    Program (Except Error α) := do
  let (lease, result) ← s.holding lease work
  s.releaseQuietly lease
  return result

end LeaseService

end IndicatorFeeds
