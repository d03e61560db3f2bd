import PageHarvest.Proofs.Queue.Accounting
import PageHarvest.Proofs.Queue.Lifecycle

/-!
# What is on record about a job

In a queue that was filled with fresh jobs, what is on record about a job tells its status: it has a
result exactly if it is completed, an error exactly if it has failed, and the time of a lease exactly
if it was attempted (`record_follows_status`).  The point is in the reports.  A report of failure does
not touch the result, and so it matters that the job that it reaches has none, being processed.

Both invariants are kept by each change of status, `Job.IsDocumented` by any of them and
`Job.IsCounted` as long as there is room for one more attempt.
-/

namespace PageHarvest

namespace Job

/-- The job was just made: nobody has leased it. -/
structure IsFresh (j : Job) : Prop where
  status : j.status = .pending
  attempts : j.attempts = 0
  resultKey : j.resultKey = none
  errorMessage : j.errorMessage = none
  startedAt : j.startedAt = none

/-- The result, the error and the lease of the job are there if its status calls for them; the first
two are there only then. -/
structure IsDocumented (j : Job) : Prop where
  result : j.resultKey.isSome ↔ j.status = .completed
  error : j.errorMessage.isSome ↔ j.status = .failed
  lease : j.status ≠ .pending → j.startedAt.isSome

/-- The job has the time of a lease exactly if an attempt at it is counted. -/
structure IsCounted (j : Job) : Prop where
  nonneg : 0 ≤ j.attempts
  lease : j.startedAt.isSome ↔ 1 ≤ j.attempts

/-- Of a fresh job there is nothing on record, and its status calls for nothing. -/
theorem IsFresh.isDocumented {j : Job} (h : j.IsFresh) : j.IsDocumented where
  result := by simp [h.resultKey, h.status]
  error := by simp [h.errorMessage, h.status]
  lease hs := absurd h.status hs

theorem IsFresh.isCounted {j : Job} (h : j.IsFresh) : j.IsCounted where
  nonneg := by simp [h.attempts]
  lease := by simp [h.startedAt, h.attempts]

/-- A job that is not completed has no result. -/
theorem IsDocumented.resultKey {j : Job} (h : j.IsDocumented) (hs : j.status ≠ .completed) :
    j.resultKey = none := by
  rw [← Option.not_isSome_iff_eq_none, h.result]
  exact hs

/-- A job that has not failed has no error. -/
theorem IsDocumented.errorMessage {j : Job} (h : j.IsDocumented) (hs : j.status ≠ .failed) :
    j.errorMessage = none := by
  rw [← Option.not_isSome_iff_eq_none, h.error]
  exact hs

end Job

namespace Queue

variable {q : Queue} {now : Time.Instant} {c : Call} {calls : Calls} {i : Nat} {j k : Job}

/-! ### One call -/

/-- Each change of status brings what the new status calls for, and takes away what it does not. -/
theorem Call.Turns.isDocumented (h : c.Turns now q i j k) (hj : j.IsDocumented) :
    k.IsDocumented := by
  cases h with
  | leases up pending first =>
    have hresult := hj.resultKey (by simp [pending])
    have herror := hj.errorMessage (by simp [pending])
    exact ⟨by simp [Job.leasedAt, hresult], by simp [Job.leasedAt, herror], fun _ => rfl⟩
  | completes key taken held first =>
    have hlease := hj.lease (by simp [held])
    exact ⟨by simp [Job.completedAt], by simp [Job.completedAt], fun _ => hlease⟩
  | fails message taken held first =>
    -- The report leaves the result alone; there is none, as the job was being processed.
    have hresult := hj.resultKey (by simp [held])
    have hlease := hj.lease (by simp [held])
    exact ⟨by simp [Job.failedAt, hresult], by simp [Job.failedAt], fun _ => hlease⟩
  | requeues age stale =>
    have held := isStale_processing stale
    have hresult := hj.resultKey (by simp [held])
    have herror := hj.errorMessage (by simp [held])
    exact ⟨by simp [Job.requeuedAt, hresult], by simp [Job.requeuedAt, herror],
      fun hs => absurd rfl hs⟩

/-- Each lease counts as one more attempt, and stays on record. -/
theorem Call.Turns.isCounted (h : c.Turns now q i j k) (hj : j.IsCounted)
    (room : j.attempts + 1 < Number.beyondBits 31) : k.IsCounted := by
  cases h with
  | leases up pending first =>
    have hnonneg := hj.nonneg
    have hnext : (j.leasedAt now).attempts = j.attempts + 1 := wrap32_succ (by omega) room
    refine ⟨by omega, ?_⟩
    rw [hnext]
    exact ⟨fun _ => by omega, fun _ => rfl⟩
  -- Only a lease touches the attempts or the time of the lease.
  | completes | fails | requeues => exact ⟨hj.nonneg, hj.lease⟩

/-! ### Any number of calls -/

/-- Before each of the calls, the job at a place has had fewer attempts than the greatest number of 32
bits. -/
def HasRoomAt (q : Queue) (i : Nat) (calls : Calls) : Prop :=
  ∀ n < calls.length, ∀ k ∈ (q.after (calls.take n)).rows[i]?,
    k.attempts + 1 < Number.beyondBits 31

instance (q : Queue) (i : Nat) (calls : Calls) : Decidable (q.HasRoomAt i calls) :=
  inferInstanceAs (Decidable (∀ _ < _, _))

theorem HasRoomAt.head {call : Time.Instant × Call} (h : q.HasRoomAt i (call :: calls))
    (hj : q.rows[i]? = some j) : j.attempts + 1 < Number.beyondBits 31 :=
  h 0 (by simp) j hj

theorem HasRoomAt.tail (h : q.HasRoomAt i ((now, c) :: calls)) :
    (c.on now q).HasRoomAt i calls := by
  intro n hn k hk
  exact h (n + 1) (by simpa using hn) k hk

/-- Both invariants in a run, for the job at a place. -/
theorem exists_documented_after (plain : ∀ call ∈ calls, call.2.isBackdating = false)
    (hj : q.rows[i]? = some j) (hd : j.IsDocumented) :
    ∃ k, (q.after calls).rows[i]? = some k ∧ k.IsDocumented ∧
      (q.HasRoomAt i calls → j.IsCounted → k.IsCounted) := by
  -- On the calls: each of them turns the job at the place into another one or leaves it.
  induction calls generalizing q j with
  | nil => exact ⟨j, hj, hd, fun _ hc => hc⟩
  | cons call calls ih =>
    obtain ⟨now, c⟩ := call
    rw [List.forall_mem_cons] at plain
    obtain ⟨j', hj', hturns⟩ := turns_on q now c hj
    rcases hturns with hturns | ⟨age, rfl, -⟩ | rfl
    · obtain ⟨k, hk, hdk, hck⟩ := ih plain.2 hj' (hturns.isDocumented hd)
      refine ⟨k, hk, hdk, ?_⟩
      intro room hc
      exact hck room.tail (hturns.isCounted hc (room.head hj))
    · exact absurd plain.1 (by simp [Call.isBackdating])
    · obtain ⟨k, hk, hdk, hck⟩ := ih plain.2 hj' hd
      exact ⟨k, hk, hdk, fun room hc => hck room.tail hc⟩

/-- A job that was leased before the time limit is given back. -/
theorem getElem?_requeueStale_of_before {age : Time.Span} {started cutoff : Time.Instant}
    (hj : q.rows[i]? = some j) (hs : j.status = .processing) (hl : j.startedAt = some started)
    (hc : now.earlier? age = some cutoff) (hb : started.before cutoff = true) :
    ((Call.requeueStale age).on now q).rows[i]? = some (j.requeuedAt now) := by
  rw [getElem?_requeueStale hj, if_pos]
  simp [Job.isStale, hs, hl, hc, hb]

/-- **What is on record tells the status.**  In a queue that was filled with fresh jobs, after any
calls that move no lease back in time, a job has a result exactly if it is completed and an error
exactly if it has failed.  It has the time of a lease exactly if an attempt at it is counted, and this
is so of every job that is not pending, as long as the attempts can be counted in 32 bits.  No job that
is being processed is without the time of its lease, whatever was counted, so that it can be given
back. -/
theorem record_follows_status (q : Queue) (fresh : ∀ j ∈ q.rows, j.IsFresh) (calls : Calls)
    (plain : ∀ call ∈ calls, call.2.isBackdating = false) (i : Nat) (j : Job)
    (hj : (q.after calls).rows[i]? = some j) :
    (j.resultKey.isSome ↔ j.status = .completed) ∧
    (j.errorMessage.isSome ↔ j.status = .failed) ∧
    (q.HasRoomAt i calls →
      (j.startedAt.isSome ↔ 1 ≤ j.attempts) ∧ (j.status ≠ .pending → 1 ≤ j.attempts)) ∧
    (j.status = .processing → ∃ started, j.startedAt = some started ∧
      ∀ now age cutoff, now.earlier? age = some cutoff → started.before cutoff = true →
        ((Call.requeueStale age).on now (q.after calls)).rows[i]? = some (j.requeuedAt now)) := by
  -- The place is one of the queue that the run began with.
  have hplace : (q.rows.map Job.request)[i]? = some j.request := by
    rw [← map_request_after q calls, List.getElem?_map, hj]
    rfl
  rw [List.getElem?_map, Option.map_eq_some_iff] at hplace
  obtain ⟨j₀, hj₀, -⟩ := hplace
  have hfresh := fresh j₀ (List.mem_of_getElem? hj₀)
  obtain ⟨k, hk, hd, hc⟩ := exists_documented_after plain hj₀ hfresh.isDocumented
  obtain rfl := Option.some.inj (hj.symm.trans hk)
  refine ⟨hd.result, hd.error, ?_, ?_⟩
  · intro room
    have hcounted := hc room hfresh.isCounted
    exact ⟨hcounted.lease, fun hs => hcounted.lease.1 (hd.lease hs)⟩
  · intro hs
    obtain ⟨started, hl⟩ := Option.isSome_iff_exists.1 (hd.lease (by simp [hs]))
    refine ⟨started, hl, ?_⟩
    intro now age cutoff hcut hb
    exact getElem?_requeueStale_of_before hj hs hl hcut hb

/-- The first second of 1970 and a time two hours later. -/
private def early : Time.Instant := default

private def late : Time.Instant := { early with second := 7200, inDay := by decide }

/-- Two fresh jobs with one identifier. -/
private def brood : Queue where
  rows := [{ (default : Job) with status := .pending }, { (default : Job) with status := .pending }]

/-- The first job is leased, taken back as too old, leased again and ended in failure; then it would
be completed, too late; and the second one is leased. -/
private def errands : Calls :=
  [(early, .acquire), (late, .requeueStale (.ofSeconds 3600)), (late, .acquire),
    (late, .fail .nil "no page"), (late, .complete .nil "key"), (early, .acquire)]

/-- The first job has failed and has no result, after two attempts; the second one is being processed,
and can be taken back. -/
theorem record_follows_status_brood :
    (∃ j, (brood.after errands).rows[0]? = some j ∧ j.status = .failed ∧ j.errorMessage.isSome ∧
      ¬j.resultKey.isSome ∧ j.startedAt.isSome ∧ j.attempts = 2) ∧
    ∃ j, (brood.after errands).rows[1]? = some j ∧ j.status = .processing ∧ 1 ≤ j.attempts ∧
      ((Call.requeueStale (.ofSeconds 3600)).on late (brood.after errands)).rows[1]?
        = some (j.requeuedAt late) := by
  have fresh : ∀ j ∈ brood.rows, j.IsFresh := by
    simp only [brood, List.forall_mem_cons, List.not_mem_nil, IsEmpty.forall_iff, implies_true,
      and_true]
    exact ⟨⟨rfl, rfl, rfl, rfl, rfl⟩, ⟨rfl, rfl, rfl, rfl, rfl⟩⟩
  have plain : ∀ call ∈ errands, call.2.isBackdating = false := by decide
  have hfirst := record_follows_status brood fresh errands plain 0
  have hsecond := record_follows_status brood fresh errands plain 1
  obtain ⟨j, hj, hs, ha⟩ : ∃ j, (brood.after errands).rows[0]? = some j ∧ j.status = .failed ∧
      j.attempts = 2 := ⟨_, rfl, by decide +kernel, by decide +kernel⟩
  obtain ⟨k, hk, ht, hstart⟩ : ∃ k, (brood.after errands).rows[1]? = some k ∧
      k.status = .processing ∧ k.startedAt = some early :=
    ⟨_, rfl, by decide +kernel, by decide +kernel⟩
  obtain ⟨hresult, herror, hcount, -⟩ := hfirst j hj
  obtain ⟨-, -, hcount', hback⟩ := hsecond k hk
  obtain ⟨started, hl, hrequeue⟩ := hback ht
  obtain rfl := Option.some.inj (hstart.symm.trans hl)
  refine ⟨⟨j, hj, hs, herror.2 hs, ?_, ?_, ha⟩, ⟨k, hk, ht, ?_, ?_⟩⟩
  · rw [hresult, hs]
    simp
  · exact (hcount (by decide +kernel)).1.2 (by omega)
  · exact (hcount' (by decide +kernel)).2 (by simp [ht])
  · exact hrequeue late (.ofSeconds 3600) { early with second := 3600, inDay := by decide }
      (by decide +kernel) (by decide +kernel)

end Queue

end PageHarvest
