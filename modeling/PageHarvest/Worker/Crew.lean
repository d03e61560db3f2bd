import PageHarvest.Queue.Call
import Mathlib.Logic.Function.Basic

/-!
# Crews of workers

Workers that share a queue take their steps in any order, and calls of others come in between.  A
worker leases a job, does it, and reports how it ended; how it ends is not told here, so that what
holds of a crew holds whatever the handlers do.  A crew keeps the calls made on its queue and the
jobs that were done.
-/

namespace PageHarvest

/-- What a worker is at.  A lease is known by the number of calls made up to it. -/
inductive Post
  | free
  | busy (job : Job) (lease : Nat)
  | done (job : Job) (lease : Nat) (outcome : Except Failure String)

/-- The job that a worker has, and its lease. -/
def Post.lease? : Post → Option (Job × Nat)
  | free => none
  | busy job lease => some (job, lease)
  | done job lease _ => some (job, lease)

/-- Workers on one queue. -/
structure Crew (ι : Type) where
  queue : Queue
  posts : ι → Post := fun _ => .free
  /-- The calls made on the queue, latest last. -/
  calls : Queue.Calls := []
  /-- The jobs done and how they ended, latest last. -/
  deeds : List (Job × Except Failure String) := []

namespace Crew

variable {ι : Type}

/-- What can happen next. -/
inductive Event (ι : Type)
  | acquire (w : ι)
  | handle (w : ι) (outcome : Except Failure String)
  | report (w : ι)
  | call (c : Queue.Call)

/-- The event is one of a worker, or a call of this kind. -/
def Event.within (kind : Queue.Call → Bool) : Event ι → Bool
  | call c => kind c
  | _ => true

/-- The crew before anything has happened. -/
def start (q : Queue) : Crew ι where
  queue := q

/-- A call made on the queue. -/
def call (now : Time.Instant) (c : Queue.Call) (crew : Crew ι) : Crew ι :=
  { crew with queue := c.on now crew.queue, calls := crew.calls ++ [(now, c)] }

/-- A job done. -/
def record (deed : Job × Except Failure String) (crew : Crew ι) : Crew ι :=
  { crew with deeds := crew.deeds ++ [deed] }

/-- The jobs handed out since a lease, in a run that began with the queue `q`. -/
def grantsSince (q : Queue) (crew : Crew ι) (lease : Nat) : List Uuid :=
  (q.after (crew.calls.take lease)).grants (crew.calls.drop lease)

/-- The jobs taken back since a lease. -/
def requeuesSince (q : Queue) (crew : Crew ι) (lease : Nat) : List Uuid :=
  (q.after (crew.calls.take lease)).requeues (crew.calls.drop lease)

/-- The lease is still the one that the job is held under: since then the job was neither taken back
nor handed out. -/
def IsCurrent (q : Queue) (crew : Crew ι) (id : Uuid) (lease : Nat) : Prop :=
  id ∉ crew.grantsSince q lease ∧ id ∉ crew.requeuesSince q lease

/-- The job was taken back since the lease and handed out again, and another worker has it under the
current lease. -/
def IsSuperseded (q : Queue) (crew : Crew ι) (w : ι) (id : Uuid) (lease : Nat) : Prop :=
  id ∈ crew.requeuesSince q lease ∧ id ∈ crew.grantsSince q lease ∧
    ∃ v job newer, v ≠ w ∧ (crew.posts v).lease? = some (job, newer) ∧ job.id = id ∧
      crew.IsCurrent q id newer

instance (q : Queue) (crew : Crew ι) (id : Uuid) (lease : Nat) :
    Decidable (crew.IsCurrent q id lease) :=
  inferInstanceAs (Decidable (_ ∧ _))

variable [DecidableEq ι]

/-- A worker put to something else. -/
def put (w : ι) (post : Post) (crew : Crew ι) : Crew ι :=
  { crew with posts := Function.update crew.posts w post }

/-- One step, if the event can happen: a worker that has a job does it and reports on it before it
asks for the next one. -/
def step (now : Time.Instant) (crew : Crew ι) : Event ι → Option (Crew ι)
  | .acquire w =>
    match crew.posts w with
    | .free =>
      let later := crew.call now .acquire
      some (match Queue.Call.acquire.leased? now crew.queue with
        | some job => later.put w (.busy job later.calls.length)
        | none => later)
    | _ => none
  | .handle w outcome =>
    match crew.posts w with
    | .busy job lease =>
      some ((crew.put w (.done job lease outcome)).record (job, outcome))
    | _ => none
  | .report w =>
    match crew.posts w with
    | .done job _ outcome => some ((crew.call now (.ofOutcome job.id outcome)).put w .free)
    | _ => none
  | .call c => some (crew.call now c)

/-- The crew after these events, if they can happen. -/
def run (crew : Crew ι) : List (Time.Instant × Event ι) → Option (Crew ι)
  | [] => some crew
  | (now, e) :: events => (crew.step now e).bind (run · events)

end Crew

end PageHarvest
