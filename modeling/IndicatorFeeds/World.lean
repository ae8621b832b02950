import IndicatorFeeds.Feed.Catalog
import IndicatorFeeds.Program
import IndicatorFeeds.Store.Scripted

/-!
A closed world for programs to run in: a store in memory, a catalog, replies that are known
beforehand, and clocks that move only when a program waits.
-/

namespace IndicatorFeeds

/-- What requests over the network meet. -/
inductive Network where
  /-- Nothing ever comes back. -/
  | silent
  /-- These replies in this order, then one that says nothing is there. -/
  | queue (replies : List (Option Http.Reply))
  /-- Replies by the URL asked for, and one that says nothing is there for the others. -/
  | routes (replies : List (String × Option Http.Reply))

namespace Network

def nothingThere : Http.Reply := ⟨404, Text.encodeUtf8 ['{', '}'], true⟩

def reply (request : Http.Request) : Network → Option Http.Reply × Network
  | silent => (none, silent)
  | queue [] => (some nothingThere, queue [])
  | queue (reply :: rest) => (reply, queue rest)
  | routes replies =>
    ((replies.lookup request.url.withoutFragment.text).getD (some nothingThere), routes replies)

end Network

/-- The state of a world. -/
structure World where
  store : Store.Scripted := {}
  catalog : Feed.Catalog := .table []
  files : Files := {}
  network : Network := .silent
  /-- The requests that have met something. -/
  requests : List Http.Request := []
  /-- The lease services that have their index. -/
  readyServices : List Nat := []
  now : Reading := .whole .epoch
  /-- How long programs have waited, in milliseconds. -/
  millis : Nat := 0
  /-- How often a lease was to be renewed outside of the store. -/
  renewals : Nat := 0
  /-- How long that takes. -/
  renewalMillis : Nat := 0

instance : Inhabited World := ⟨{}⟩

namespace World

private def exchange (w : World) (request : Http.Request) : Option Http.Reply × World :=
  match w.network with
  | .silent => (none, w)
  | network =>
    let (reply, network) := network.reply request
    (reply, { w with network, requests := w.requests ++ [request] })

def answer : (r : Request) → World → r.Answer × World
  | .store c, w =>
    let (answer, store) := w.store.answer c
    (answer, { w with store })
  | .http request, w => w.exchange request
  | .feedFor job, w => (w.catalog.feedFor job, w)
  | .file path, w => (w.files.find path, w)
  | .now, w => (w.now, w)
  | .stopwatch, w => (w.millis, w)
  | .sleep millis, w => ((), { w with millis := w.millis + millis })
  | .turn, w => ((), w)
  | .rings, w => ((0 : Nat), w)
  | .renewLease, w =>
    ((), { w with renewals := w.renewals + 1, millis := w.millis + w.renewalMillis })
  | .leaseIndexReady service, w => (w.readyServices.contains service, w)
  | .markLeaseIndexReady service, w => ((), { w with readyServices := service :: w.readyServices })

def run (w : World) (p : Program α) : Except Failure α × World := p.run answer w

end World

end IndicatorFeeds
