import ProcessWatch.Polling
import ProcessWatch.Reply
import ProcessWatch.Url.Reader

/-!
# The monitor

A monitor has a base address, and its answers lie below it. Requests for the identity of the master
process are repeated as long as they can succeed a little later; all others are made once, since the
next cycle repeats them.
-/

namespace ProcessWatch

/-- Why a text is not the address of a monitor. -/
inductive AddressError where
  /-- The text is no address. -/
  | invalid (text : String) (error : UrlError)
  /-- Nothing lies below the address. -/
  | closed (url : Url)
deriving Repr, DecidableEq

namespace AddressError

def message : AddressError → String
  | invalid text _ => "Invalid monitor URL: " ++ text
  | closed url => "Invalid monitor URL: " ++ url.text

def failure (error : AddressError) : Failure :=
  match error with
  | invalid _ reason => (⟨reason.reason⟩ : Failure).within error.message
  | closed _ => ⟨error.message⟩

end AddressError

structure Monitor where
  /-- The address that its answers lie below. -/
  base : Url
deriving Repr, DecidableEq

namespace Monitor

def ofText (text : String) : Except AddressError Monitor := do
  let url ← (Url.read text).mapError (.invalid text)
  match url.path with
  | .segments _ => return ⟨url.asDirectory⟩
  | .plain _ => throw (.closed url)

/-- The address of an answer. -/
def endpoint (monitor : Monitor) (path : String) : Except Failure Url :=
  (monitor.base.join path).mapError fun error =>
    (⟨error.reason⟩ : Failure).within ("Invalid monitor endpoint " ++ path)

def statusPath : String := "status"

def identityPath (pid : Option Pid) : String :=
  match pid with
  | some pid => "basic/" ++ toString pid
  | none => "basic"

end Monitor

/-- What the requests to a monitor need. -/
structure Network (m : Type → Type) where
  fetch : Url → m (Except Failure Reply)
  wait : UInt64 → m Unit
  note : Notice → m Unit

namespace Network

variable {m : Type → Type} [Monad m] (network : Network m)

/-- Whether the outcome of a request can be better a little later. -/
def isTransient : Except Failure Reply → Bool
  | .ok reply => reply.isTransient
  | .error _ => true

/-- Requests a page, and again after every delay as long as the outcome can become better. -/
def fetchPatiently (url : Url) : List UInt64 → m (Except Failure Reply)
  | [] => network.fetch url
  | delay :: delays => do
    let outcome ← network.fetch url
    if isTransient outcome then
      network.wait delay
      fetchPatiently url delays
    else return outcome

/-- Delays before the repetitions of a request for the identity of the master process. -/
def identityDelays : List UInt64 := [1000, 2000, 4000]

/-- Requests an answer of a monitor. -/
def ask {α : Type} (monitor : Monitor) (ofText : String → Except BodyError α)
    (delays : List UInt64) (path : String) : m (Except Failure α) := do
  match monitor.endpoint path with
  | .error failure => return .error failure
  | .ok url =>
    network.note (.requesting url.text)
    match ← network.fetchPatiently url delays with
    | .error failure =>
      return .error (failure.within ("Failed to reach the monitor at " ++ url.text))
    | .ok reply => return reply.decode ofText url.text

def identity (monitor : Monitor) (pid : Option Pid) : m (Except Failure Identity) :=
  -- only the question for the master process is repeated
  let delays := if pid.isNone then identityDelays else []
  network.ask monitor Identity.ofText delays (Monitor.identityPath pid)

/-- The environment of poll cycles that ask a monitor. -/
def environment (monitor : Monitor) (interval : UInt64) : Environment m where
  identity := network.identity monitor
  -- the next cycle asks again
  status := network.ask monitor Status.ofText [] Monitor.statusPath
  note := network.note
  pause := network.wait interval

end Network

end ProcessWatch
