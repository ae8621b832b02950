import IndicatorFeeds.Feed.Metadata
import IndicatorFeeds.Files
import IndicatorFeeds.Http.Basic
import IndicatorFeeds.Store.Basic
import IndicatorFeeds.Time

/-!
Programs that ask their surroundings. A program is finished, has failed, or asks for one thing and
goes on with the answer. What answers is not said here: `Program.run` takes any way of answering
that keeps a state, so that a program can be followed from one call on the store to the next.
-/

namespace IndicatorFeeds

inductive Request where
  /-- A call on the store. -/
  | store (call : Store.Call)
  /-- A request over the network; `none` if nothing comes back. -/
  | http (request : Http.Request)
  /-- The feed of a job, as the catalog has it now. -/
  | feedFor (job : String)
  /-- What is found at a path. -/
  | file (path : String)
  /-- What the clock shows, the time of day. -/
  | now
  /-- The reading in milliseconds of a clock that only goes forward. -/
  | stopwatch
  /-- To be woken after this many milliseconds. -/
  | sleep (millis : Nat)
  /-- To be let on, if only so many runs may be under way at once. -/
  | turn
  /-- How often the timer of a lease has rung since the last step. -/
  | rings
  /-- The lease that is held to be renewed. -/
  | renewLease
  /-- Whether this service has found or made the index of its leases. -/
  | leaseIndexReady (service : Nat)
  /-- That it has. -/
  | markLeaseIndexReady (service : Nat)

def Request.Answer : Request → Type
  | store call => call.Answer
  | http _ => Option Http.Reply
  | feedFor _ => Except Error (Option Feed.Metadata)
  | file _ => FileContent
  | now => Reading
  | stopwatch => Nat
  | rings => Nat
  | leaseIndexReady _ => Bool
  | sleep _ | turn | renewLease | markLeaseIndexReady _ => Unit

/-- Why a program ends without its value. A fault cannot be handled by the program itself. -/
inductive Failure where
  | error (e : Error)
  | fault (f : Fault)
deriving Repr, DecidableEq

/-- A program with a value of type `α`. -/
inductive Program (α : Type) where
  | done (value : α)
  | fail (failure : Failure)
  | ask (request : Request) (next : request.Answer → Program α)

namespace Program

def bind : Program α → (α → Program β) → Program β
  | done a, f => f a
  | fail e, _ => fail e
  | ask r next, f => ask r fun answer => (next answer).bind f

instance : Monad Program where
  pure := done
  bind := bind

def request (r : Request) : Program r.Answer := ask r done

def error (e : Error) : Program α := fail (.error e)

def ofExcept : Except Error α → Program α
  | .ok a => done a
  | .error e => error e

def ofTime : Except Fault α → Program α
  | .ok a => done a
  | .error f => fail (.fault f)

def attempt : Program α → Program (Except Error α)
  | done a => done (.ok a)
  | fail (.error e) => done (.error e)
  | fail (.fault f) => fail (.fault f)
  | ask r next => ask r fun answer => (next answer).attempt

/-- The program with a value for every fault. -/
def orOnFault (whenFault : Fault → α) : Program α → Program α
  | done a => done a
  | fail (.error e) => fail (.error e)
  | fail (.fault f) => done (whenFault f)
  | ask r next => ask r fun answer => (next answer).orOnFault whenFault

def file (path : String) : Program FileContent := request (.file path)

def clock : Program Reading := request .now

/-- The time of day, as it is written down. -/
def now : Program Instant := ask .now fun reading => done reading.instant

def stopwatch : Program Nat := request .stopwatch

/-- The longest pause, thirty years, in milliseconds. -/
def maxPause : Nat := 30 * 365 * 24 * 60 * 60 * 1000

/-- A pause of so many milliseconds, or of thirty years if that is shorter. -/
def sleep (millis : Nat) : Program Unit := request (.sleep (min millis maxPause))

/-- Whether a service has its index of leases. -/
def isLeaseIndexReady (service : Nat) : Program Bool := request (.leaseIndexReady service)

def feedFor (job : String) : Program (Option Feed.Metadata) :=
  (request (.feedFor job)).bind ofExcept

def call (c : Store.Call) : Program c.Answer := request (.store c)

/-- The result of a call on the store, whose errors are the program's. -/
def ofStore : Except Store.Error α → Program α
  | .ok a => done a
  | .error e => error (.store e)

/-- Runs a program with a way of answering that keeps a state. -/
def run {σ : Type} (answer : (r : Request) → σ → r.Answer × σ) :
    Program α → σ → Except Failure α × σ
  | done a, s => (.ok a, s)
  | fail e, s => (.error e, s)
  | ask r next, s => (next (answer r s).1).run answer (answer r s).2

/-- The program with some requests replaced by programs. -/
def refine (replace : (r : Request) → Program r.Answer) : Program α → Program α
  | done a => done a
  | fail e => fail e
  | ask r next => (replace r).bind fun answer => (next answer).refine replace

@[simp] theorem bind_done (a : α) (f : α → Program β) : (done a).bind f = f a := rfl

@[simp] theorem bind_fail (e : Failure) (f : α → Program β) : (fail e).bind f = fail e := rfl

@[simp] theorem bind_ask (r : Request) (next : r.Answer → Program α) (f : α → Program β) :
    (ask r next).bind f = ask r fun answer => (next answer).bind f := rfl

@[simp] theorem bind_pure (p : Program α) : p.bind done = p := by
  induction p with
  | done => rfl
  | fail => rfl
  | ask r next ih => exact congrArg (ask r) (funext ih)

theorem bind_assoc (p : Program α) (f : α → Program β) (g : β → Program γ) :
    (p.bind f).bind g = p.bind fun a => (f a).bind g := by
  induction p with
  | done => rfl
  | fail => rfl
  | ask r next ih => exact congrArg (ask r) (funext ih)

instance : LawfulMonad Program :=
  LawfulMonad.mk' Program bind_pure bind_done bind_assoc

theorem run_bind {σ : Type} (answer : (r : Request) → σ → r.Answer × σ) (p : Program α)
    (f : α → Program β) (s : σ) :
    (p.bind f).run answer s = match p.run answer s with
      | (.ok a, s) => (f a).run answer s
      | (.error e, s) => (.error e, s) := by
  induction p generalizing s with
  | done => rfl
  | fail => rfl
  | ask r next ih => exact ih (answer r s).1 (answer r s).2

end Program

end IndicatorFeeds
