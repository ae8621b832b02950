import IndicatorFeeds.Store.Basic

namespace IndicatorFeeds

/-- Why an operation on a feed job fails. -/
inductive Error where
  /-- Another holder has the lease of the job. -/
  | contention (what : String)
  | validation (reason : String)
  /-- The header of a feed lacks fields that an earlier generation had. -/
  | incompatibleFields (missing : List String)
  | notFound (what : String)
  | alreadyExists (what : String)
  | fetch (reason : String)
  | parse (reason : String)
  /-- The shards of a new generation did not start in time. -/
  | shardTimeout (index : String) (waitedMillis : Nat)
  | store (cause : Store.Error)
  /-- A JSON text is not what was to be read from it. -/
  | serialization
  | internal (reason : String)
deriving Repr, DecidableEq

namespace Error

def message : Error → String
  | contention what => s!"Job is locked by another operation: {what}"
  | validation reason => s!"Validation failed: {reason}"
  | incompatibleFields missing =>
    "Feed header is missing previously recorded fields: " ++ ", ".intercalate missing
  | notFound what => s!"Not found: {what}"
  | alreadyExists what => s!"Already exists: {what}"
  | fetch reason => s!"Feed fetch failed: {reason}"
  | parse reason => s!"Feed parse failed: {reason}"
  | shardTimeout index waited => s!"Shards of index {index} did not start within {waited}ms"
  | store cause => s!"Store error: {cause.message}"
  | serialization => "Serialization error"
  | internal reason => s!"Internal error: {reason}"

def chain (e : Error) : List String :=
  e.message :: match e with
    | store cause => [cause.message]
    | _ => []

/-- Whether the error is raised before anything is changed. -/
def isValidation : Error → Bool
  | validation _ | incompatibleFields _ | notFound _ | alreadyExists _ => true
  | _ => false

end Error

theorem ok_of_bind_ok {a : Except ε α} {next : α → Except ε β} {b : β} (ok : a >>= next = .ok b) :
    ∃ value, a = .ok value ∧ next value = .ok b := by
  cases a with
  | error e => cases ok
  | ok value => exact ⟨value, rfl, ok⟩

end IndicatorFeeds
