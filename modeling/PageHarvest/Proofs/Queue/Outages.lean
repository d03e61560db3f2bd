import PageHarvest.Proofs.Queue.Lifecycle
import Mathlib.Data.List.Induction

/-!
# Queues that do not answer

A call that fails leaves the jobs as they are (`rows_of_fails`).  As many requests for a lease fail as
were told to, no matter what is called in between (`fails_acquire_after`), and a queue without
pending jobs is told from one that does not answer (`acquire_eq_none`).  A job whose report was lost
is still being processed until it is reported on again or taken back (`keeps_or_turns`).
-/

namespace PageHarvest.Queue

variable {q : Queue} {now : Time.Instant} {c : Call} {calls : Calls} {i : Nat} {j j' k : Job}

/-! ### Failing calls -/

/-- The call is answered with a failure. -/
def Call.fails (now : Time.Instant) (q : Queue) : Call → Bool
  | acquire => !(q.acquire now).1.isOk
  | complete id key => !(q.complete now id key).1.isOk
  | fail id message => !(q.fail now id message).1.isOk
  | _ => false

/-- A request for a lease fails during an outage. -/
theorem fails_acquire : Call.acquire.fails now q = true ↔ 0 < q.outages := by
  rw [Call.fails]
  by_cases h : 0 < q.outages
  · simp [acquire_of_outage h, h, Except.isOk, Except.toBool]
  · simp [acquire_of_no_outage (Nat.eq_zero_of_not_pos h), h, Except.isOk, Except.toBool]

/-- A report fails if reports are refused, whatever it says. -/
theorem fails_report (h : c.isReport = true) : c.fails now q = q.refusesReports := by
  cases c with
  | complete id key =>
    rw [Call.fails, complete]
    cases q.refusesReports <;> rfl
  | fail id message =>
    rw [Call.fails, fail]
    cases q.refusesReports <;> rfl
  | _ => exact absurd h (by simp [Call.isReport])

/-- **A call that fails changes no job.** -/
theorem rows_of_fails (h : c.fails now q = true) : (c.on now q).rows = q.rows := by
  cases c with
  | acquire => rw [Call.on, acquire_of_outage (fails_acquire.1 h)]
  | complete id key =>
    rw [fails_report rfl] at h
    rw [Call.on, rows_complete, if_pos h]
  | fail id message =>
    rw [fails_report rfl] at h
    rw [Call.on, rows_fail, if_pos h]
  | _ => exact absurd h (by simp [Call.fails])

/-- There is no job to hand out: nothing is pending, and the queue does answer. -/
theorem acquire_eq_none :
    (q.acquire now).1 = .ok none ↔ q.outages = 0 ∧ ∀ j ∈ q.rows, j.status ≠ .pending := by
  by_cases h : 0 < q.outages
  · rw [acquire_of_outage h]
    constructor
    · intro hnone
      exact absurd hnone (by simp)
    · rintro ⟨hup, -⟩
      omega
  · have hup := Nat.eq_zero_of_not_pos h
    rw [acquire_of_no_outage hup]
    simp [hup, first?, isPending]

/-! ### How many requests fail -/

/-- The number of requests for a lease. -/
def acquires (calls : Calls) : Nat := calls.countP fun call => call.2 == .acquire

/-- Each request uses up one outage, as long as there are any. -/
theorem outages_after (h : ∀ call ∈ calls, ∀ count, call.2 ≠ .failNextAcquires count) :
    (q.after calls).outages = q.outages - acquires calls := by
  induction calls generalizing q with
  | nil => rfl
  | cons call calls ih =>
    obtain ⟨now, c⟩ := call
    rw [List.forall_mem_cons] at h
    rw [after_cons, ih h.2, outages_on h.1, acquires, acquires, List.countP_cons]
    omega

/-- A request fails as long as fewer were made since the queue was told to fail so many. -/
theorem fails_acquire_after (h : ∀ call ∈ calls, ∀ count, call.2 ≠ .failNextAcquires count)
    (count : Nat) :
    Call.acquire.fails now ((q.failNextAcquires count).after calls) = true ↔
      acquires calls < count := by
  rw [fails_acquire, outages_after h, Nat.sub_pos_iff_lt]
  rfl

/-! ### A job whose report was lost -/

/-- The job is still as it was, but for its lease, which only calls that move it back have changed. -/
def KeepsHeld (calls : Calls) (j j' : Job) : Prop :=
  j' = { j with startedAt := j'.startedAt } ∧
    (j'.startedAt = j.startedAt ∨ ∃ now age, (now, Call.backdateLease j.id age) ∈ calls)

theorem KeepsHeld.status (h : KeepsHeld calls j j') : j'.status = j.status := by
  rw [h.1]

theorem KeepsHeld.id (h : KeepsHeld calls j j') : j'.id = j.id := by
  rw [h.1]

theorem KeepsHeld.append (h : KeepsHeld calls j j') (later : Calls) :
    KeepsHeld (calls ++ later) j j' := by
  obtain ⟨hsame, hlease⟩ := h
  refine ⟨hsame, hlease.imp_right ?_⟩
  rintro ⟨now, age, hmem⟩
  exact ⟨now, age, List.mem_append_left later hmem⟩

theorem KeepsHeld.backdate (h : KeepsHeld calls j j') (now : Time.Instant) (age : Time.Span) :
    KeepsHeld (calls ++ [(now, .backdateLease j.id age)]) j (j'.backdate age) := by
  refine ⟨?_, .inr ⟨now, age, by simp⟩⟩
  rw [h.1]
  rfl

/-- A job that is being processed is turned by a report on it or taken back. -/
theorem kind_of_turns (h : c.Turns now q i j k) (hs : j.status = .processing) :
    c.isReport = true ∨ ∃ age, c = .requeueStale age := by
  cases h with
  | leases up pending first => exact absurd (pending.symm.trans hs) (by decide)
  | completes key taken held first => exact .inl rfl
  | fails message taken held first => exact .inl rfl
  | requeues age stale => exact .inr ⟨age, rfl⟩

/-- The job stays, or there is a first call that turns it. -/
theorem keeps_or_turns (hj : q.rows[i]? = some j) (hs : j.status = .processing) (calls : Calls) :
    (∃ j', (q.after calls).rows[i]? = some j' ∧ KeepsHeld calls j j') ∨
    ∃ before now c later j' k, calls = before ++ (now, c) :: later ∧
      (q.after before).rows[i]? = some j' ∧ KeepsHeld before j j' ∧
      (c.isReport = true ∨ ∃ age, c = .requeueStale age) ∧ c.Turns now (q.after before) i j' k := by
  -- On the calls, the last one taken off: as long as the job was kept before it, it is this call
  -- that may turn it.
  induction calls using List.reverseRecOn with
  | nil => exact .inl ⟨j, hj, rfl, .inl rfl⟩
  | append_singleton calls call ih =>
    obtain ⟨now, c⟩ := call
    rcases ih with ⟨j', hj', hkeeps⟩ | ⟨before, t, turn, later, j', k, rfl, hturns⟩
    · obtain ⟨k, hk, hcases⟩ := turns_on (q.after calls) now c hj'
      rw [after_append, after_cons, after_nil]
      rcases hcases with hturns | ⟨age, rfl, rfl⟩ | rfl
      · exact .inr ⟨calls, now, c, [], j', k, rfl, hj', hkeeps,
          kind_of_turns hturns (hkeeps.status.trans hs), hturns⟩
      · exact .inl ⟨_, hk, hkeeps.id ▸ hkeeps.backdate now age⟩
      · exact .inl ⟨_, hk, hkeeps.append _⟩
    · exact .inr ⟨before, t, turn, later ++ [(now, c)], j', k, by simp, hturns⟩

/-- **No answer is no empty queue.**  A call that fails changes no job.  A queue that is told to fail
so many requests for a lease fails exactly these, whatever else is called.  It says that there is no job
exactly if it answers and none is pending.  And a job that is being processed when a call fails,
such as the report on it, stays as it is until a report on it is taken or it is taken back, except that its
lease can be moved back in time. -/
theorem outages_surface (q : Queue) :
    (∀ now c, Call.fails now q c = true → (c.on now q).rows = q.rows) ∧
    (∀ (count : Nat) (calls : Calls), (∀ call ∈ calls, ∀ n, call.2 ≠ .failNextAcquires n) → ∀ now,
      (Call.acquire.fails now ((q.failNextAcquires count).after calls) = true ↔
        acquires calls < count)) ∧
    (∀ now, (q.acquire now).1 = .ok none ↔
      q.outages = 0 ∧ ∀ j ∈ q.rows, j.status ≠ .pending) ∧
    (∀ now c (i : Nat) (j : Job), Call.fails now q c = true → q.rows[i]? = some j →
      j.status = .processing → ∀ calls,
        (∃ j', ((c.on now q).after calls).rows[i]? = some j' ∧ KeepsHeld calls j j') ∨
        ∃ before t turn later j' k, calls = before ++ (t, turn) :: later ∧
          ((c.on now q).after before).rows[i]? = some j' ∧ KeepsHeld before j j' ∧
          (turn.isReport = true ∨ ∃ age, turn = .requeueStale age) ∧
          turn.Turns t ((c.on now q).after before) i j' k) := by
  refine ⟨fun now c => rows_of_fails, ?_, fun now => acquire_eq_none, ?_⟩
  · intro count calls hcalls now
    exact fails_acquire_after hcalls count
  · intro now c i j hfails hj hs calls
    rw [← rows_of_fails hfails] at hj
    exact keeps_or_turns hj hs calls

/-- A job that is being processed. -/
private def ongoing : Job := Job.leasedAt default { (default : Job) with id := .nil }

/-- A queue whose only job is being processed when reports begin to fail. -/
private def cutOff : Queue :=
  ({ rows := [{ (default : Job) with id := .nil }] } : Queue).after
    [(default, .acquire), (default, .failReports true)]

/-- What is done to the queue after the report was lost. -/
private def aftermath : Calls := [(default, .failNextAcquires 2), (default, .countStale ⟨0⟩)]

/-- A job whose report was lost is still being processed after some upkeep, and of the requests for a
lease the second one fails and the third does not. -/
theorem outages_surface_cutOff :
    cutOff.rows[0]? = some ongoing ∧ (Call.complete .nil "key").fails default cutOff = true ∧
      (∃ j, (((Call.complete .nil "key").on default cutOff).after aftermath).rows[0]? = some j ∧
        KeepsHeld aftermath ongoing j) ∧
      Call.acquire.fails default
        ((cutOff.failNextAcquires 2).after [(default, .acquire), (default, .countStale ⟨0⟩)]) = true ∧
      ¬Call.acquire.fails default
        ((cutOff.failNextAcquires 2).after [(default, .acquire), (default, .acquire)]) = true := by
  obtain ⟨-, hnext, -, hkept⟩ := outages_surface cutOff
  have hlost : (Call.complete .nil "key").fails default cutOff = true := by decide
  refine ⟨rfl, hlost, ?_, (hnext 2 _ (by simp) default).2 (by decide), ?_⟩
  · rcases hkept default _ 0 ongoing hlost rfl rfl aftermath with
      hheld | ⟨before, t, turn, later, j', k, hcalls, -, -, hkind, -⟩
    · exact hheld
    · have hmem : (t, turn) ∈ aftermath := by simp [hcalls]
      simp only [aftermath, List.mem_cons, Prod.mk.injEq, List.not_mem_nil, or_false] at hmem
      obtain ⟨-, rfl⟩ | ⟨-, rfl⟩ := hmem <;> simp [Call.isReport] at hkind
  · rw [hnext 2 _ (by simp) default]
    decide

/-- The lease of a job whose report was lost is gone, although no later report and no taking back
changed the job: the lease was moved back beyond the calendar. -/
theorem lease_gone_after_lost_report :
    cutOff.rows[0]? = some ongoing ∧ ongoing.status = .processing ∧
      ongoing.startedAt = some default ∧
      (Call.complete .nil "key").fails default cutOff = true ∧
      (((Call.complete .nil "key").on default cutOff).after
        [(default, .backdateLease .nil (.ofSeconds (Number.beyondBits 64 - 1)))]).rows[0]?
          = some { ongoing with startedAt := none } := by
  decide

end PageHarvest.Queue
