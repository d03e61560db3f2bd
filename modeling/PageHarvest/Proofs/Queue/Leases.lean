import PageHarvest.Proofs.Queue.Accounting
import PageHarvest.Proofs.Queue.Lifecycle

/-!
# Leases of a place

The place at which a job stands tells jobs with the same identifier apart.  A lease is made at one
place (`exists_turns_of_leased?`), and while its job is being processed there, a report under the
identifier ends this lease unless the report is refused or goes to an earlier place
(`not_processing_at_of_report`).  From then on the job there is processed again only if it is handed
out again (`handsOut_of_processing`).
-/

namespace PageHarvest.Queue

variable {q : Queue} {now : Time.Instant} {calls : Calls} {i : Nat} {j k job : Job}

/-- The calls hand out the job at this place. -/
def HandsOut (i : Nat) (q : Queue) : Calls → Prop
  | [] => False
  | (now, c) :: calls =>
    (c = .acquire ∧ ∃ j job, q.rows[i]? = some j ∧ c.Turns now q i j job) ∨
      HandsOut i (c.on now q) calls

/-- What is handed out comes from some place. -/
theorem exists_turns_of_leased? (h : Call.acquire.leased? now q = some job) :
    ∃ i j, q.rows[i]? = some j ∧ Call.acquire.Turns now q i j job := by
  rw [leased?_acquire] at h
  split at h
  · exact absurd h (by simp)
  · next hup =>
    obtain ⟨j, hfirst, rfl⟩ := Option.map_eq_some_iff.1 h
    obtain ⟨-, i, hi, hj, hbefore⟩ := List.find?_eq_some_iff_getElem.1 hfirst
    refine ⟨i, j, List.getElem?_eq_some_iff.2 ⟨hi, hj⟩, .leases (by omega) ?_ ?_⟩
    · exact status_of_first? hfirst
    · intro k hk
      obtain ⟨m, hm, rfl⟩ := List.mem_take_iff_getElem.1 hk
      simpa [isPending] using hbefore m (by omega)

/-- A job comes to be processed only by being handed out. -/
theorem handsOut_of_processing (hj : q.rows[i]? = some j) (hs : j.status ≠ .processing)
    (hk : (q.after calls).rows[i]? = some k) (hp : k.status = .processing) :
    q.HandsOut i calls := by
  induction calls generalizing q j with
  | nil =>
    obtain rfl := Option.some.inj (hj.symm.trans hk)
    exact absurd hp hs
  | cons call calls ih =>
    obtain ⟨now, c⟩ := call
    rw [after_cons] at hk
    obtain ⟨next, hnext, hturns⟩ := turns_on q now c hj
    -- If the job is being processed after this call, it was handed out by it.
    by_cases hprocessing : next.status = .processing
    · rcases hturns with hturns | ⟨age, -, rfl⟩ | rfl
      · cases hturns with
        | leases up pending first => exact .inl ⟨rfl, j, _, hj, .leases up pending first⟩
        | completes => exact absurd hprocessing (by simp [Job.completedAt])
        | fails => exact absurd hprocessing (by simp [Job.failedAt])
        | requeues => exact absurd hprocessing (by simp [Job.requeuedAt])
      · exact absurd hprocessing hs
      · exact absurd hprocessing hs
    · exact .inr (ih hnext hprocessing hk)

/-- A report that is taken, and that goes to no earlier place, leaves no job being processed at this
one. -/
theorem not_processing_at_of_report (now : Time.Instant) (hj : q.rows[i]? = some j)
    (htakes : q.refusesReports = false)
    (hfirst : ∀ k ∈ q.rows.take i, ¬(k.id = j.id ∧ k.status = .processing))
    (outcome : Except Failure String) :
    ∃ k, ((Call.ofOutcome j.id outcome).on now q).rows[i]? = some k ∧ k.status ≠ .processing := by
  refine ⟨_, getElem?_of_report hj (rows_ofOutcome j.id outcome), ?_⟩
  split
  · cases outcome <;> simp [Job.endedAt, Job.completedAt, Job.failedAt]
  -- The report would have been taken, had the job been processed.
  · next hnot => exact fun hp => hnot ⟨htakes, ⟨rfl, hp⟩, hfirst⟩

/-- The same job stands at a place, whatever is called. -/
theorem exists_id_after (hj : q.rows[i]? = some j) (calls : Calls) :
    ∃ k, (q.after calls).rows[i]? = some k ∧ k.id = j.id := by
  have hids : ((q.after calls).rows.map Job.id)[i]? = some j.id := by
    rw [ids_after, List.getElem?_map, hj]
    rfl
  rw [List.getElem?_map, Option.map_eq_some_iff] at hids
  exact hids

/-- Among distinct jobs none has the identifier of one that stands further down. -/
theorem id_ne_of_mem_take (hq : q.Distinct) (hj : q.rows[i]? = some j) (hk : k ∈ q.rows.take i) :
    k.id ≠ j.id := by
  obtain ⟨m, hm, rfl⟩ := List.mem_take_iff_getElem.1 hk
  obtain ⟨hi, rfl⟩ := List.getElem?_eq_some_iff.1 hj
  exact List.pairwise_iff_getElem.1 (List.pairwise_map.1 hq) m i (by omega) hi (by omega)

/-! ### How many jobs are pending -/

theorem length_rows_after (q : Queue) (calls : Calls) :
    (q.after calls).rows.length = q.rows.length := by
  have hids := congrArg List.length (ids_after q calls)
  rwa [List.length_map, List.length_map] at hids

theorem length_pendingIds_le (q : Queue) : q.pendingIds.length ≤ q.rows.length := by
  rw [pendingIds, List.length_map]
  exact List.length_filter_le ..

/-- A lease is on one of the pending jobs. -/
theorem length_pendingIds_acquire (q : Queue) (now : Time.Instant) :
    (Call.acquire.on now q).pendingIds.length + (Call.acquire.leased? now q).toList.length
      = q.pendingIds.length := by
  obtain ⟨hgranted, hpending⟩ := pendingIds_on q now .acquire rfl
  have hlength : (Call.acquire.leased? now q).toList.length
      = min (Call.acquire.isServed now q).toNat q.pendingIds.length := by
    rw [← List.length_take, ← hgranted, Call.granted, Option.toList_map, List.length_map]
  rw [hpending, List.length_drop, hlength]
  omega

theorem length_pendingIds_report (q : Queue) (now : Time.Instant) (id : Uuid)
    (outcome : Except Failure String) :
    ((Call.ofOutcome id outcome).on now q).pendingIds.length = q.pendingIds.length := by
  have hrequeued : (Call.ofOutcome id outcome).requeued now q = [] := by cases outcome <;> rfl
  have hserved : (Call.ofOutcome id outcome).isServed now q = false := by cases outcome <;> rfl
  rw [(pendingIds_on q now _ hrequeued).2, hserved]
  rfl

end PageHarvest.Queue
