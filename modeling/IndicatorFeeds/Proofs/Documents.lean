import IndicatorFeeds.Job.Record
import IndicatorFeeds.Lease.Basic
import IndicatorFeeds.Proofs.Json.Fields

namespace IndicatorFeeds

open Json

@[simp] theorem Instant.fromJson?_toJson (t : Instant) : fromJson? (.ofValue t.toJson) = some t :=
  ofMillis?_millis t

private theorem nullable_instant (t : Option Instant) :
    Tree.nullable Instant.fromJson? (.ofValue (.ofOption Instant.toJson t)) = some t :=
  Tree.nullable_ofOption Instant.fromJson?_toJson (fun _ => nofun) t

theorem LeaseDocument.fromJson?_toJson (d : LeaseDocument) :
    fromJson? (.ofValue d.toJson) = some d := by
  simp [fromJson?, toJson, Tree.fields_ofFields, Tree.Fields.required]

namespace Job

@[simp] theorem State.fromJson?_toJson (s : State) : fromJson? (.ofValue s.toJson) = some s := by
  cases s <;> rfl

@[simp] theorem IntervalUnit.fromJson?_name (u : IntervalUnit) :
    fromJson? (.ofValue (.string u.name)) = some u := by
  cases u <;> rfl

@[simp] theorem Schedule.fromJson?_toJson (s : Schedule) :
    fromJson? (.ofValue s.toJson) = some s := by
  simp [fromJson?, toJson, Tree.fields_ofFields, Tree.Fields.required]

@[simp] theorem UpdateStats.fromJson?_toJson (s : UpdateStats) :
    fromJson? (.ofValue s.toJson) = some s := by
  have millis : Tree.nullable Tree.natural
      (.ofValue (.ofOption (fun n : UInt64 => .nat n.toNat) s.lastProcessingMillis)) =
        some (s.lastProcessingMillis.map (·.toNat)) := by
    cases s.lastProcessingMillis with
    | none => rfl
    | some n => exact congrArg (Option.map some) (Tree.natural_nat n.toNat)
  simp [fromJson?, toJson, Tree.fields_ofFields, Tree.Fields.withDefault, nullable_instant, millis,
    Function.comp_def]

theorem Record.fromJson?_toJson (r : Record) : fromJson? (.ofValue r.toJson) = some r := by
  simp [fromJson?, toJson, Tree.fields_ofFields, Tree.Fields.required, Tree.Fields.withDefault,
    nullable_instant]

end Job

end IndicatorFeeds
