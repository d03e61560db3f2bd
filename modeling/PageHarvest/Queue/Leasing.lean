import PageHarvest.Queue.Basic
import PageHarvest.Log.Entry

/-!
# Leasing jobs

What a worker needs of the place that it gets its jobs from, whatever that is, and what is needed to
take back the jobs of a worker that is gone.  The place may have something to say about a change.
-/

namespace PageHarvest

/-- Getting jobs from `σ` and reporting on them. -/
structure Leasing (σ : Type) where
  acquire : Time.Instant → σ → Except Failure (Option Job) × σ
  complete : Time.Instant → Uuid → String → σ → Except Failure Unit × σ × List Log.Entry
  fail : Time.Instant → Uuid → String → σ → Except Failure Unit × σ × List Log.Entry

/-- Jobs from a queue. -/
def Queue.leasing : Leasing Queue where
  acquire := Queue.acquire
  complete now id key q :=
    let (outcome, q) := q.complete now id key
    (outcome, q, [])
  fail now id message q :=
    let (outcome, q) := q.fail now id message
    (outcome, q, [])

/-- Taking back leases from `σ` that have become too old. -/
structure Upkeep (σ : Type) where
  countStale : Time.Instant → Time.Span → σ → Except Failure Nat × σ
  requeueStale : Time.Instant → Time.Span → σ → Except Failure Nat × σ × List Log.Entry

/-- Leases of jobs from a queue. -/
def Queue.upkeep : Upkeep Queue where
  countStale now age q := (.ok (q.countStale now age), q)
  requeueStale now age q :=
    let (n, q) := q.requeueStale now age
    (.ok n, q, [])

end PageHarvest
