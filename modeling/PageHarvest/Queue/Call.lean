import PageHarvest.Queue.Basic

/-!
# What is asked of a queue

Whoever uses a queue makes calls, one after the other.  `Queue.after` is the queue after some calls,
and `grants`, `requeues` and `served` are what these calls came to: the jobs handed out, the jobs
taken back, and how many requests for a lease met no outage.
-/

namespace PageHarvest

namespace Job

/-- The job ended like this. -/
def endedAt (now : Time.Instant) : Except Failure String → Job → Job
  | .ok key => completedAt now key
  | .error failure => failedAt now failure.text

/-- The job has ended. -/
def isFinished (j : Job) : Bool := j.status == .completed || j.status == .failed

/-- How the job ended is on record: the key of its result, or what failed. -/
def Records (j : Job) : Except Failure String → Prop
  | .ok key => j.status = .completed ∧ j.resultKey = some key
  | .error failure => j.status = .failed ∧ j.errorMessage = some failure.text

end Job

namespace Queue

/-- What can be asked of a queue. -/
inductive Call
  | acquire
  | complete (id : Uuid) (key : String)
  | fail (id : Uuid) (message : String)
  | countStale (age : Time.Span)
  | requeueStale (age : Time.Span)
  | backdateLease (id : Uuid) (age : Time.Span)
  | failNextAcquires (count : Nat)
  | failReports (on : Bool)
  deriving DecidableEq, Repr

namespace Call

/-- The queue after the call. -/
def on (now : Time.Instant) (q : Queue) : Call → Queue
  | acquire => (q.acquire now).2
  | complete id key => (q.complete now id key).2
  | fail id message => (q.fail now id message).2
  | countStale _ => q
  | requeueStale age => (q.requeueStale now age).2
  | backdateLease id age => q.backdateLease id age
  | failNextAcquires count => q.failNextAcquires count
  | failReports refuses => q.failReports refuses

/-- The job that the call hands out. -/
def leased? (now : Time.Instant) (q : Queue) : Call → Option Job
  | acquire =>
    match (q.acquire now).1 with
    | .ok job => job
    | .error _ => none
  | _ => none

/-- The identifier of the job that the call hands out. -/
def granted (now : Time.Instant) (q : Queue) (c : Call) : List Uuid :=
  ((c.leased? now q).map Job.id).toList

/-- The jobs that the call takes back. -/
def requeued (now : Time.Instant) (q : Queue) : Call → List Uuid
  | requeueStale age => (q.rows.filter (Job.isStale now age)).map Job.id
  | _ => []

/-- The call asks for a lease and meets no outage. -/
def isServed (now : Time.Instant) (q : Queue) : Call → Bool
  | acquire => (q.acquire now).1.isOk
  | _ => false

/-- The call hands out no jobs and reports on none. -/
def isUpkeep : Call → Bool
  | countStale _ | requeueStale _ | backdateLease _ _ | failNextAcquires _ => true
  | _ => false

/-- The call changes no job. -/
def isOutage : Call → Bool
  | countStale _ | failNextAcquires _ => true
  | _ => false

/-- The call reports on a job. -/
def isReport : Call → Bool
  | complete _ _ | fail _ _ => true
  | _ => false

/-- The call neither asks for a job nor reports on one. -/
def isAside : Call → Bool
  | acquire | complete _ _ | fail _ _ => false
  | _ => true

/-- The call moves a lease back in time. -/
def isBackdating : Call → Bool
  | backdateLease _ _ => true
  | _ => false

/-- The report on how a job ended. -/
def ofOutcome (id : Uuid) : Except Failure String → Call
  | .ok key => complete id key
  | .error failure => fail id failure.text

end Call

/-- Calls with the times at which they are made. -/
abbrev Calls := List (Time.Instant × Call)

variable (q : Queue)

/-- The queue after the calls. -/
def after (calls : Calls) : Queue :=
  calls.foldl (fun q call => call.2.on call.1 q) q

/-- The jobs that the calls hand out, in this order. -/
def grants (q : Queue) : Calls → List Uuid
  | [] => []
  | (now, call) :: calls => call.granted now q ++ grants (call.on now q) calls

/-- The jobs that the calls take back, in this order. -/
def requeues (q : Queue) : Calls → List Uuid
  | [] => []
  | (now, call) :: calls => call.requeued now q ++ requeues (call.on now q) calls

/-- How many of the calls ask for a lease and meet no outage. -/
def served (q : Queue) : Calls → Nat
  | [] => 0
  | (now, call) :: calls =>
    (call.isServed now q).toNat + served (call.on now q) calls

/-- The job waits to be handed out. -/
def isPending (j : Job) : Bool := j.status == .pending

/-- The jobs that are pending, in order. -/
def pendingIds : List Uuid := (q.rows.filter isPending).map Job.id

/-- No two jobs have the same identifier. -/
def Distinct : Prop := (q.rows.map Job.id).Nodup

instance : Decidable q.Distinct := inferInstanceAs (Decidable (List.Nodup _))

end Queue

end PageHarvest
