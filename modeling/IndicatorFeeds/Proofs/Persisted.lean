import IndicatorFeeds.Config.Engine
import IndicatorFeeds.Feed.Metadata
import IndicatorFeeds.Proofs.Documents
import IndicatorFeeds.Proofs.Json.Texts

/-!
Documents as text. Whatever is kept is read back from its text as it was, and what has been read,
whichever way it was put, stays the same when it is written and read again.
-/

namespace IndicatorFeeds

open Json

namespace Config

@[simp] theorem LeaseConfig.fromJson?_toJson (c : LeaseConfig) :
    fromJson? (.ofValue c.toJson) = some c := by
  simp [fromJson?, toJson, Tree.fields_ofFields, Tree.Fields.withDefault, word]

@[simp] theorem RotationConfig.fromJson?_toJson (c : RotationConfig) :
    fromJson? (.ofValue c.toJson) = some c := by
  simp [fromJson?, toJson, Tree.fields_ofFields, Tree.Fields.withDefault, word]

@[simp] theorem RunnerConfig.fromJson?_toJson (c : RunnerConfig) :
    fromJson? (.ofValue c.toJson) = some c := by
  simp [fromJson?, toJson, Tree.fields_ofFields, Tree.Fields.withDefault, word]

@[simp] theorem SystemIndices.fromJson?_toJson (c : SystemIndices) :
    fromJson? (.ofValue c.toJson) = some c := by
  simp [fromJson?, toJson, Tree.fields_ofFields, Tree.Fields.withDefault]

@[simp] theorem FetchConfig.fromJson?_toJson (c : FetchConfig) :
    fromJson? (.ofValue c.toJson) = some c := by
  simp [fromJson?, toJson, Tree.fields_ofFields, Tree.Fields.withDefault, word]

theorem EngineConfig.fromJson?_toJson (c : EngineConfig) :
    fromJson? (.ofValue c.toJson) = some c := by
  simp [fromJson?, toJson, Tree.fields_ofFields, Tree.Fields.withDefault]

end Config

namespace Feed

theorem Format.fromJson?_toJson (f : Format) {depth : Nat} (deep : 0 < depth) :
    fromJson? false depth (.ofValue f.toJson) = some f := by
  obtain ⟨c⟩ := f
  have whole : ∃ v, Tree.value? depth (.ofValue (toJson (.delimitedText c))) = some v := by
    have sorted : "delimiter" < "type" := by decide
    simp only [toJson, Value.ofFields, List.foldl, insertField, if_pos sorted]
    simp [Tree.ofValue, Tree.ofFields, Tree.value?, Tree.fields?, Nat.ne_of_gt deep]
  have single : Tree.character (.ofValue (.string (String.singleton c))) = some c := by
    simp [Tree.character]
  have read := Tree.fields_ofFields ["type", "delimiter"]
    [("type", .string delimitedTextName), ("delimiter", .string (String.singleton c))]
  obtain ⟨v, whole⟩ := whole
  simp only [toJson] at whole ⊢
  -- The reader asks whether the tree is an object before it looks for the fields.
  generalize shape : Tree.ofValue (.ofFields _) = t at read whole ⊢
  cases t with
  | object fields =>
    simp [fromJson?, whole, read, Tree.Fields.required, Tree.Fields.withDefault, namesFormat,
      single]
  | _ => cases shape

theorem Metadata.fromJson?_toJson (m : Metadata) (resolves : Url.parse m.url.text = .ok m.url) :
    fromJson? (.ofValue m.toJson) = some m := by
  have url : urlOf (.ofValue (.string m.url.text)) = some m.url := by
    simp [urlOf, resolves, Except.toOption]
  have format := m.format.fromJson?_toJson (by decide : 0 < Tree.maxDepth - 1)
  simp [fromJson?, ofFields?, fieldNames, toJson, Tree.fields_ofFields, Tree.Fields.required,
    Tree.Fields.withDefault, url, format]

end Feed

namespace Store

theorem Version.fromJson?_toJson (v : Version) : fromJson? (.ofValue v.toJson) = some v := by
  simp [fromJson?, toJson, Tree.fields_ofFields, Tree.Fields.required]

theorem Version.fits_of_fromJson? {t : Tree} (worded : t.Worded) {v : Version}
    (read : fromJson? t = some v) : v.seqNo < UInt64.size ∧ v.primaryTerm < UInt64.size := by
  have word {f : Tree.Fields} (fields : t.fields ["seq_no", "primary_term"] = some f)
      {name : String} {n : Nat} (read : f.required name Tree.natural = some n) :
      n < UInt64.size := by
    obtain ⟨field, found, natural⟩ := Option.bind_eq_some_iff.mp read
    exact (worded.find? fields found).natural natural
  simp only [fromJson?, bind, Option.bind_eq_some_iff, pure, Option.some.injEq] at read
  obtain ⟨f, fields, seqNo, first, primaryTerm, second, rfl⟩ := read
  exact ⟨word fields first, word fields second⟩

@[simp] theorem ShardState.fromJson?_name (s : ShardState) :
    fromJson? (.ofValue (.string s.name)) = some s := by
  cases s <;> rfl

theorem ShardStatus.fromJson?_toJson (s : ShardStatus) :
    fromJson? (.ofValue s.toJson) = some s := by
  simp [fromJson?, toJson, Tree.fields_ofFields, Tree.Fields.required]

theorem SettingsUpdate.fromJson?_toJson (u : SettingsUpdate) :
    fromJson? (.ofValue u.toJson) = some u := by
  have blocked := Tree.nullable_ofOption Tree.boolean_bool (fun _ => nofun)
  have named := Tree.nullable_ofOption Tree.text_string (fun _ => nofun)
  simp [fromJson?, toJson, Tree.fields_ofFields, Tree.Fields.optional, blocked, named]

end Store

section Exact

open Value (exact_ofFields exact_ofOption)

@[simp] theorem Instant.exact_toJson (t : Instant) : t.toJson.Exact :=
  .int ⟨Int.le_trans (by decide) t.bounded.1, Int.lt_of_le_of_lt t.bounded.2 (by decide)⟩

@[simp] theorem Job.State.exact_toJson (s : State) : s.toJson.Exact := .string _

@[simp] theorem Job.Schedule.exact_toJson (s : Schedule) : s.toJson.Exact :=
  exact_ofFields (by simp)

@[simp] theorem Job.UpdateStats.exact_toJson (s : UpdateStats) : s.toJson.Exact :=
  exact_ofFields (by simp [exact_ofOption])

theorem Job.Record.exact_toJson (r : Record) : r.toJson.Exact :=
  exact_ofFields (by simp [exact_ofOption])

theorem Config.EngineConfig.exact_toJson (c : EngineConfig) : c.toJson.Exact := by
  have lease : c.lease.toJson.Exact := exact_ofFields (by simp)
  have rotation : c.rotation.toJson.Exact := exact_ofFields (by simp)
  have runner : c.runner.toJson.Exact := exact_ofFields (by simp)
  have store : c.store.toJson.Exact := exact_ofFields (by simp)
  have fetch : c.fetch.toJson.Exact := exact_ofFields (by simp)
  exact exact_ofFields (by simp [lease, rotation, runner, store, fetch])

@[simp] theorem Feed.Format.exact_toJson (f : Format) : f.toJson.Exact :=
  exact_ofFields (by simp)

theorem Feed.Metadata.exact_toJson (m : Metadata) : m.toJson.Exact :=
  exact_ofFields (by simp)

theorem Store.Version.exact_toJson {v : Version} (seqNo : v.seqNo < UInt64.size)
    (primaryTerm : v.primaryTerm < UInt64.size) : v.toJson.Exact :=
  exact_ofFields (by simp [Value.exact_nat seqNo, Value.exact_nat primaryTerm])

theorem Store.ShardStatus.exact_toJson (s : ShardStatus) : s.toJson.Exact :=
  exact_ofFields (by simp)

theorem Store.SettingsUpdate.exact_toJson (u : SettingsUpdate) : u.toJson.Exact :=
  exact_ofFields (by simp [exact_ofOption])

end Exact

namespace Json

/-- How the values of a type are kept as text. -/
structure Codec (α : Type) where
  toJson : α → Value
  fromJson? : Tree → Option α
  /-- Whether the numbers of a value are words, where its type leaves that open. -/
  Fits : α → Prop := fun _ => True
  /-- The URLs of a value, which are kept as their texts. -/
  urls : α → List Url := fun _ => []

namespace Codec

variable {α : Type} {c : Codec α}

/-- The text of a value. -/
def text (c : Codec α) (a : α) : String := (c.toJson a).render

/-- The value of a text. -/
def parse? (c : Codec α) (text : String) : Option α :=
  (Tree.parse? text.toList).bind c.fromJson?

/-- Whether the URLs of a value are what is read from their texts. -/
def Resolves (c : Codec α) (a : α) : Prop := ∀ url ∈ c.urls a, Url.parse url.text = .ok url

/-- What makes values and texts agree: words and no doubles are written, trees of values are read
back, and what is read can be written. -/
structure Lawful (c : Codec α) : Prop where
  exact : ∀ a, c.Fits a → (c.toJson a).Exact
  readsBack : ∀ a, c.Resolves a → c.fromJson? (.ofValue (c.toJson a)) = some a
  fits : ∀ t a, t.Worded → c.fromJson? t = some a → c.Fits a

namespace Lawful

/-- A type whose values can all be written and read back. -/
theorem of_total (exact : ∀ a, (c.toJson a).Exact)
    (readsBack : ∀ a, c.fromJson? (.ofValue (c.toJson a)) = some a)
    (fits : ∀ a, c.Fits a := by exact fun _ => trivial) : c.Lawful where
  exact a _ := exact a
  readsBack a _ := readsBack a
  fits _ a _ _ := fits a

theorem parse?_text (lawful : c.Lawful) {a : α} (fits : c.Fits a) (resolves : c.Resolves a) :
    c.parse? (c.text a) = some a := by
  have printed := (lawful.exact a fits).parse?_print
  rw [parse?, text, Value.render, String.toList_ofList, printed]
  exact lawful.readsBack a resolves

theorem fits_of_parse? (lawful : c.Lawful) {text : String} {a : α}
    (read : c.parse? text = some a) : c.Fits a := by
  obtain ⟨t, parsed, decoded⟩ := Option.bind_eq_some_iff.mp read
  exact lawful.fits t a (Tree.worded_of_parse? parsed) decoded

end Lawful

end Codec

end Json

def Job.Record.codec : Codec Job.Record where
  toJson := toJson
  fromJson? := fromJson?

def Job.Schedule.codec : Codec Job.Schedule where
  toJson := toJson
  fromJson? := fromJson?

def Job.UpdateStats.codec : Codec Job.UpdateStats where
  toJson := toJson
  fromJson? := fromJson?

def Job.State.codec : Codec Job.State where
  toJson := toJson
  fromJson? := fromJson?

def Config.EngineConfig.codec : Codec Config.EngineConfig where
  toJson := toJson
  fromJson? := fromJson?

def Feed.Format.codec : Codec Feed.Format where
  toJson := toJson
  fromJson? := fromJson? false Tree.maxDepth

def Feed.Metadata.codec : Codec Feed.Metadata where
  toJson := toJson
  fromJson? := fromJson?
  urls m := [m.url]

def Store.Version.codec : Codec Store.Version where
  toJson := toJson
  fromJson? := fromJson?
  Fits v := v.seqNo < UInt64.size ∧ v.primaryTerm < UInt64.size

def Store.ShardStatus.codec : Codec Store.ShardStatus where
  toJson := toJson
  fromJson? := fromJson?

def Store.SettingsUpdate.codec : Codec Store.SettingsUpdate where
  toJson := toJson
  fromJson? := fromJson?

/-- The documents that are kept as text. -/
inductive Persisted : {α : Type} → Codec α → Prop
  | record : Persisted Job.Record.codec
  | schedule : Persisted Job.Schedule.codec
  | stats : Persisted Job.UpdateStats.codec
  | state : Persisted Job.State.codec
  | config : Persisted Config.EngineConfig.codec
  | format : Persisted Feed.Format.codec
  | metadata : Persisted Feed.Metadata.codec
  | version : Persisted Store.Version.codec
  | shard : Persisted Store.ShardStatus.codec
  | settings : Persisted Store.SettingsUpdate.codec

namespace Persisted

theorem lawful {α : Type} {c : Codec α} (persisted : Persisted c) : c.Lawful := by
  cases persisted with
  | record => exact .of_total Job.Record.exact_toJson Job.Record.fromJson?_toJson
  | schedule => exact .of_total Job.Schedule.exact_toJson Job.Schedule.fromJson?_toJson
  | stats => exact .of_total Job.UpdateStats.exact_toJson Job.UpdateStats.fromJson?_toJson
  | state => exact .of_total Job.State.exact_toJson Job.State.fromJson?_toJson
  | config => exact .of_total Config.EngineConfig.exact_toJson Config.EngineConfig.fromJson?_toJson
  | format =>
    exact .of_total Feed.Format.exact_toJson fun f => f.fromJson?_toJson (by decide)
  | metadata =>
    exact {
      exact := fun m _ => m.exact_toJson
      readsBack := fun m resolves => m.fromJson?_toJson (resolves m.url List.mem_cons_self)
      fits := fun _ _ _ _ => trivial }
  | version =>
    exact {
      exact := fun _ fits => Store.Version.exact_toJson fits.1 fits.2
      readsBack := fun v _ => v.fromJson?_toJson
      fits := fun _ _ worded read => Store.Version.fits_of_fromJson? worded read }
  | shard => exact .of_total Store.ShardStatus.exact_toJson Store.ShardStatus.fromJson?_toJson
  | settings =>
    exact .of_total Store.SettingsUpdate.exact_toJson Store.SettingsUpdate.fromJson?_toJson

/-- Every document is read back from its text as it was written, and one that has been read from
any text, with fields left out, unknown, in another order or in an array, is read again from its
own text and gives the same text once more. -/
theorem roundTrip {α : Type} {c : Codec α} (persisted : Persisted c) :
    (∀ a, c.Fits a → c.Resolves a → c.parse? (c.text a) = some a) ∧
    ∀ text a, c.parse? text = some a → c.Resolves a →
      c.parse? (c.text a) = some a ∧ (c.parse? (c.text a)).map c.text = some (c.text a) := by
  have lawful := persisted.lawful
  refine ⟨fun a fits resolves => lawful.parse?_text fits resolves, fun text a read resolves => ?_⟩
  have back := lawful.parse?_text (lawful.fits_of_parse? read) resolves
  exact ⟨back, by rw [back, Option.map_some]⟩

/-- A feed as an array of its first fields; the rest are left out. -/
private def briefFeed : String := "[\"ips\",\"\",\"\",\"\",\"https://[2001:db8::7]/ips.csv\"]"

/-- The greatest version of the first term, and a feed of few fields. -/
theorem roundTrip_greatest_brief :
    Store.Version.codec.parse? (Store.Version.codec.text ⟨0xffffffffffffffff, 1⟩) =
        some ⟨0xffffffffffffffff, 1⟩ ∧
      ∃ m, Feed.Metadata.codec.parse? briefFeed = some m ∧
        Feed.Metadata.codec.parse? (Feed.Metadata.codec.text m) = some m := by
  refine ⟨(roundTrip .version).1 _ ⟨by decide, by decide⟩ nofun, ?_⟩
  have sound : ((Feed.Metadata.codec.parse? briefFeed).any fun m =>
      (Url.parse m.url.text).toOption = some m.url) = true := by
    decide +kernel
  cases read : Feed.Metadata.codec.parse? briefFeed with
  | none => simp [read] at sound
  | some m =>
    have resolves : Url.parse m.url.text = .ok m.url := by
      cases parsed : Url.parse m.url.text <;> simp_all [Except.toOption]
    refine ⟨m, rfl, ((roundTrip .metadata).2 briefFeed m read fun url member => ?_).1⟩
    exact List.mem_singleton.mp member ▸ resolves

end Persisted

end IndicatorFeeds
