import PageHarvest.Queue.Call
import PageHarvest.Queue.Leasing

/-!
# Shared queues

A worker need not have its queue to itself: others lease jobs, report on them and take back leases.
What they ask comes in between the calls of the worker.  `Shared` is the queue of such a worker, and
`Shared.leasing` is what the worker makes of it.
-/

namespace PageHarvest

/-- The queue of a worker that shares it with others. -/
structure Shared where
  /-- The queue as it was at first. -/
  first : Queue
  /-- The calls made on it since, latest last. -/
  calls : Queue.Calls := []
  /-- The calls of the worker among them. -/
  own : List Queue.Call := []
  /-- What the others will ask before each of the next calls of the worker. -/
  others : List Queue.Calls := []

namespace Shared

/-- The queue as it is now. -/
def queue (s : Shared) : Queue := s.first.after s.calls

/-- The queue as the next call of the worker finds it. -/
def awaited (s : Shared) : Queue := s.queue.after (s.others.headD [])

/-- A call of the worker, after what the others ask before it. -/
def call (now : Time.Instant) (c : Queue.Call) (s : Shared) : Shared :=
  { s with
    calls := s.calls ++ s.others.headD [] ++ [(now, c)]
    own := s.own ++ [c]
    others := s.others.tail }

/-- Jobs from a shared queue. -/
def leasing : Leasing Shared where
  acquire now s := ((s.awaited.acquire now).1, s.call now .acquire)
  complete now id key s := ((s.awaited.complete now id key).1, s.call now (.complete id key), [])
  fail now id message s := ((s.awaited.fail now id message).1, s.call now (.fail id message), [])

/-- The worker gets no more leases than this: those of the jobs that are pending, and each time that
the others act, of all jobs again. -/
def leasesAhead (s : Shared) : Nat :=
  s.queue.pendingIds.length + s.first.rows.length * s.others.length

end Shared

end PageHarvest
