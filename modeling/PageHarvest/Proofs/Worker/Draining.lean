import PageHarvest.Proofs.Worker.Rounds

/-!
# Polling until there is nothing to do

A worker that has its queue to itself takes the pending jobs in their order, once the queue answers,
and then finds none (`Worker.drain_spec`).  This goes for all handlers whose outcomes are up to the
jobs alone; what they do to the world, they do one after the other.
-/

namespace PageHarvest

open Queue (Call isPending)

namespace Queue

variable {q : Queue} {now : Time.Instant} {j k : Job} {rest : List Job} {x : Uuid}

/-- The jobs that are pending, in order. -/
def pending (q : Queue) : List Job := q.rows.filter isPending

theorem first?_eq_head?_pending (q : Queue) : q.first? = q.pending.head? :=
  List.head?_filter.symm

/-- The queue after the first pending job was leased and done. -/
def afterTurn (now : Time.Instant) (j : Job) (outcome : Except Failure String) (q : Queue) : Queue :=
  (Call.ofOutcome j.id outcome).on now (Call.acquire.on now q)

theorem leased?_of_pending (ho : q.outages = 0) (h : q.pending = j :: rest) :
    Call.acquire.leased? now q = some (j.leasedAt now) := by
  rw [leased?_acquire, if_neg (by omega), first?_eq_head?_pending, h]
  rfl

theorem leased?_of_no_pending (h : q.pending = []) : Call.acquire.leased? now q = none := by
  rw [leased?_acquire, first?_eq_head?_pending, h]
  simp

/-- What was handed out is pending no more, and no other job begins to be. -/
theorem pending_acquire (ho : q.outages = 0) :
    (Call.acquire.on now q).pending = q.pending.tail := by
  rw [Call.on, acquire_of_no_outage ho]
  exact filter_changeFirst_self isPending (Job.leasedAt now) (fun _ => rfl) q.rows

/-- A report changes nothing about pending jobs: it is about one that is being processed. -/
theorem pending_ofOutcome (id : Uuid) (outcome : Except Failure String) :
    ((Call.ofOutcome id outcome).on now q).pending = q.pending := by
  rw [pending, rows_ofOutcome]
  split
  · rfl
  · refine filter_changeFirst _ isPending _ (fun k hk => ?_) q.rows
    simp only [Bool.and_eq_true, beq_iff_eq] at hk
    constructor
    · rw [isPending, hk.2]
      rfl
    · cases outcome <;> rfl

/-- A job that was leased and done is pending no more. -/
theorem pending_afterTurn (ho : q.outages = 0) (h : q.pending = j :: rest)
    (outcome : Except Failure String) : (q.afterTurn now j outcome).pending = rest := by
  rw [afterTurn, pending_ofOutcome, pending_acquire ho, h, List.tail_cons]

theorem distinct_afterTurn (hq : q.Distinct) (outcome : Except Failure String) :
    (q.afterTurn now j outcome).Distinct :=
  distinct_on (distinct_on hq now .acquire) now _

theorem refusesReports_afterTurn (outcome : Except Failure String) :
    (q.afterTurn now j outcome).refusesReports = q.refusesReports := by
  have hreport : ∀ refuses, Call.ofOutcome j.id outcome ≠ .failReports refuses := by
    intro refuses
    cases outcome <;> simp [Call.ofOutcome]
  rw [afterTurn, refusesReports_on hreport, refusesReports_on (by simp)]

theorem outages_ofOutcome (id : Uuid) (outcome : Except Failure String) :
    ((Call.ofOutcome id outcome).on now q).outages = q.outages := by
  cases outcome with
  | ok key => exact outages_on (by simp [Call.ofOutcome])
  | error failure => exact outages_on (by simp [Call.ofOutcome])

theorem outages_afterTurn (ho : q.outages = 0) (outcome : Except Failure String) :
    (q.afterTurn now j outcome).outages = 0 := by
  rw [afterTurn, outages_ofOutcome, Call.on, acquire_of_no_outage ho]
  exact ho

/-- The job has ended as it was done, and the others stay. -/
theorem job?_afterTurn (hq : q.Distinct) (ho : q.outages = 0) (hr : q.refusesReports = false)
    (h : q.pending = j :: rest) (outcome : Except Failure String) :
    (q.afterTurn now j outcome).job? x
      = (q.job? x).map fun k => if k = j then (j.leasedAt now).endedAt now outcome else k := by
  have hleased : Call.acquire.leased? now q = some (j.leasedAt now) := leased?_of_pending ho h
  have hj : j ∈ q.rows := List.mem_of_mem_filter (p := isPending) (by
    rw [← pending, h]
    exact List.mem_cons_self)
  have hdistinct : (Call.acquire.on now q).Distinct := distinct_on hq now .acquire
  have hrefuses : (Call.acquire.on now q).refusesReports = false := by
    rw [refusesReports_on (by simp), hr]
  rw [afterTurn]
  cases hx : q.job? x with
  | none =>
    rw [job?_eq_none] at hx
    rw [Option.map_none, job?_eq_none, ids_on, ids_on]
    exact hx
  | some k =>
    rw [Option.map_some]
    obtain ⟨hid, -, hk, hk'⟩ | ⟨hne, hk'⟩ := job?_acquire hq hleased hx
    · -- The job under the identifier is the one that was leased.
      obtain rfl : k = j := List.inj_on_of_nodup_map hq ((job?_eq_some hq).1 hx).1 hj
        ((id_of_job? hx).trans hid.symm)
      -- It is being processed after the lease, so that the report is taken.
      rw [job?_ofOutcome hdistinct hk', if_pos ⟨hrefuses, rfl, rfl⟩, if_pos rfl]
    -- The lease and the report are about another job.
    · have hxj : x ≠ j.id := fun he => hne he.symm
      have hkj : k ≠ j := fun he => hxj (by rw [← he, id_of_job? hx])
      rw [job?_ofOutcome_of_ne hdistinct hxj, hk', if_neg hkj]

end Queue

namespace Worker

variable {σ : Type} {handler : Handler σ} {outcome : Job → Except Failure String}
  {now : Time.Instant} {s : Site Queue σ}

/-! ### One poll -/

theorem poll_of_outage (w : Worker) (handler : Handler σ) (now : Time.Instant)
    (ho : 0 < s.queue.outages) :
    ∃ s', w.poll Queue.leasing handler now s = (.queueError, s') ∧ s'.world = s.world ∧
      s'.queue = Call.acquire.on now s.queue := by
  rw [poll, Queue.leasing]
  simp only [Queue.acquire_of_outage ho, Call.on]
  exact ⟨_, rfl, rfl, rfl⟩

theorem poll_of_no_pending (w : Worker) (handler : Handler σ) (now : Time.Instant)
    (ho : s.queue.outages = 0) (h : s.queue.pending = []) :
    ∃ s', w.poll Queue.leasing handler now s = (.idle, s') ∧ s'.world = s.world ∧
      s'.queue = Call.acquire.on now s.queue := by
  have hfirst : s.queue.first? = none := by rw [Queue.first?_eq_head?_pending, h]; rfl
  rw [poll, Queue.leasing]
  simp only [Queue.acquire_of_no_outage ho, hfirst, Option.map_none, Call.on]
  exact ⟨_, rfl, rfl, rfl⟩

/-- The first pending job is leased, done and reported on. -/
theorem poll_of_pending (w : Worker) (handler : Handler σ) (now : Time.Instant)
    (ho : s.queue.outages = 0) {j : Job} {rest : List Job} (h : s.queue.pending = j :: rest) :
    ∃ s', w.poll Queue.leasing handler now s = (.processed j.id, s') ∧
      s'.world = (handler (j.leasedAt now) s.world).world ∧
      s'.queue = s.queue.afterTurn now j (handler (j.leasedAt now) s.world).outcome := by
  have hleased : Call.acquire.leased? now s.queue = some (j.leasedAt now) :=
    Queue.leased?_of_pending ho h
  obtain ⟨hpolled, hworld, hqueue⟩ := w.poll_of_leased handler hleased
  exact ⟨_, Prod.ext hpolled rfl, hworld, hqueue⟩

/-! ### Draining -/

/-- What comes of asking for a job again and again: the outages, the pending jobs, and then
nothing. -/
def answers (q : Queue) : List Polled :=
  List.replicate q.outages Polled.queueError ++
    (q.pending.map (Polled.processed ·.id) ++ [Polled.idle])

/-- The jobs that are done when a job is asked for so many times. -/
def turns (q : Queue) (n : Nat) : List Job := q.pending.take (n - q.outages)

/-- The job as it is after its turn. -/
def settled (now : Time.Instant) (outcome : Job → Except Failure String) (j : Job) : Job :=
  (j.leasedAt now).endedAt now (outcome (j.leasedAt now))

/-- What draining comes to when a job is asked for at most `n` times. -/
structure Drained (handler : Handler σ) (outcome : Job → Except Failure String) (now : Time.Instant)
    (n : Nat) (s : Site Queue σ) (drained : List Polled × Site Queue σ) : Prop where
  polled : drained.1 = (answers s.queue).take n
  world : drained.2.world
    = (turns s.queue n).foldl (fun world j => (handler (j.leasedAt now) world).world) s.world
  jobs : ∀ x, drained.2.queue.job? x
    = (s.queue.job? x).map fun j => if j ∈ turns s.queue n then settled now outcome j else j

theorem isPending_of_mem_turns {q : Queue} {n : Nat} {j : Job} (h : j ∈ turns q n) :
    isPending j = true :=
  (List.mem_filter.1 (List.mem_of_mem_take h)).2

/-- A job that has had its turn is pending no more. -/
theorem isPending_settled (now : Time.Instant) (outcome : Job → Except Failure String) (j : Job) :
    isPending (settled now outcome j) = false := by
  rw [settled]
  cases outcome (j.leasedAt now) <;> rfl

theorem drained_zero : Drained handler outcome now 0 s ([], s) where
  polled := rfl
  world := by simp [turns]
  jobs x := by simp [turns]

/-- Draining goes on as it does after an outage. -/
theorem Drained.outage {n : Nat} {s' : Site Queue σ} {drained : List Polled × Site Queue σ}
    (h : Drained handler outcome now n s' drained) (ho : 0 < s.queue.outages)
    (hworld : s'.world = s.world) (hqueue : s'.queue = Call.acquire.on now s.queue) :
    Drained handler outcome now (n + 1) s (.queueError :: drained.1, drained.2) := by
  have hs' : s'.queue.outages + 1 = s.queue.outages ∧ s'.queue.rows = s.queue.rows := by
    rw [hqueue, Call.on, Queue.acquire_of_outage ho]
    exact ⟨Nat.sub_add_cancel ho, rfl⟩
  obtain ⟨houtages, hrows⟩ := hs'
  have hpending : s'.queue.pending = s.queue.pending := by rw [Queue.pending, hrows, Queue.pending]
  have hturns : turns s'.queue n = turns s.queue (n + 1) := by
    rw [turns, turns, hpending, ← houtages, Nat.add_sub_add_right]
  constructor
  · rw [h.polled, answers, answers, hpending, ← houtages, List.replicate_succ]
    rfl
  · rw [h.world, hturns, hworld]
  · intro x
    rw [h.jobs, hturns, Queue.job?, hrows, Queue.job?]

/-- There is nothing to do. -/
theorem drained_of_no_pending {n : Nat} {s' : Site Queue σ} (ho : s.queue.outages = 0)
    (h : s.queue.pending = []) (hworld : s'.world = s.world)
    (hqueue : s'.queue = Call.acquire.on now s.queue) :
    Drained handler outcome now (n + 1) s ([.idle], s') := by
  have hrows : s'.queue.rows = s.queue.rows := by
    rw [hqueue, Queue.rows_acquire_of_none (Queue.leased?_of_no_pending h)]
  have hturns : turns s.queue (n + 1) = [] := by rw [turns, h, List.take_nil]
  constructor
  · simp [answers, ho, h]
  · rw [hturns, hworld, List.foldl_nil]
  · intro x
    rw [hturns, Queue.job?, hrows, Queue.job?]
    simp

/-- Draining goes on as it does after a job. -/
theorem Drained.turn {n : Nat} {s' : Site Queue σ} {drained : List Polled × Site Queue σ} {j : Job}
    {rest : List Job} (h : Drained handler outcome now n s' drained) (hq : s.queue.Distinct)
    (ho : s.queue.outages = 0) (hr : s.queue.refusesReports = false)
    (hpending : s.queue.pending = j :: rest)
    (hworld : s'.world = (handler (j.leasedAt now) s.world).world)
    (hqueue : s'.queue = s.queue.afterTurn now j (outcome (j.leasedAt now))) :
    Drained handler outcome now (n + 1) s (.processed j.id :: drained.1, drained.2) := by
  have ho' : s'.queue.outages = 0 := by rw [hqueue, Queue.outages_afterTurn ho]
  have hrest : s'.queue.pending = rest := by rw [hqueue, Queue.pending_afterTurn ho hpending]
  have hturns : turns s.queue (n + 1) = j :: turns s'.queue n := by
    rw [turns, turns, ho, ho', hpending, hrest]
    rfl
  constructor
  · rw [h.polled, answers, answers, ho, ho', hpending, hrest]
    rfl
  · rw [h.world, hturns, hworld, List.foldl_cons]
  · intro x
    have hjob : s'.queue.job? x
        = (s.queue.job? x).map fun k => if k = j then settled now outcome j else k := by
      rw [hqueue]
      exact Queue.job?_afterTurn hq ho hr hpending _
    rw [h.jobs, hturns, hjob, Option.map_map]
    congr 1
    funext k
    rw [Function.comp]
    by_cases hk : k = j
    · -- The job has ended, so that it gets no other turn.
      have hended : settled now outcome j ∉ turns s'.queue n := fun hmem =>
        absurd (isPending_of_mem_turns hmem) (by simp [isPending_settled])
      rw [if_pos hk, if_neg hended, hk, if_pos List.mem_cons_self]
    · rw [if_neg hk]
      simp only [List.mem_cons, hk, false_or]

/-- **Draining takes the pending jobs in their order.** -/
theorem drain_spec (w : Worker) (houtcome : ∀ job world, (handler job world).outcome = outcome job)
    (n : Nat) (hq : s.queue.Distinct) (hr : s.queue.refusesReports = false) :
    Drained handler outcome now n s (w.drain Queue.leasing handler now n s) := by
  -- Jobs stay distinct and reports are not refused from one poll to the next.
  induction n generalizing s with
  | zero => exact drained_zero
  | succ n ih =>
    rw [drain]
    obtain ho | ho := Nat.eq_zero_or_pos s.queue.outages
    · cases hpending : s.queue.pending with
      | nil =>
        obtain ⟨s', hpoll, hworld, hqueue⟩ := poll_of_no_pending w handler now ho hpending
        rw [hpoll]
        exact drained_of_no_pending ho hpending hworld hqueue
      | cons j rest =>
        obtain ⟨s', hpoll, hworld, hqueue⟩ := poll_of_pending w handler now ho hpending
        rw [houtcome] at hqueue
        rw [hpoll]
        have hrest := ih (s := s') (by rw [hqueue]; exact Queue.distinct_afterTurn hq _)
          (by rw [hqueue, Queue.refusesReports_afterTurn, hr])
        exact hrest.turn hq ho hr hpending hworld hqueue
    · obtain ⟨s', hpoll, hworld, hqueue⟩ := poll_of_outage w handler now ho
      rw [hpoll]
      have hrest := ih (s := s') (by rw [hqueue]; exact Queue.distinct_on hq now .acquire)
        (by rw [hqueue, Queue.refusesReports_on (by simp), hr])
      exact hrest.outage ho hworld hqueue

/-- Who asks often enough does all pending jobs. -/
theorem turns_of_lt {q : Queue} {n : Nat} (h : q.outages + q.pending.length < n) :
    turns q n = q.pending :=
  List.take_of_length_le (by omega)

/-- Who asks often enough is told that there is nothing left. -/
theorem take_answers_of_lt {q : Queue} {n : Nat} (h : q.outages + q.pending.length < n) :
    (answers q).take n = answers q :=
  List.take_of_length_le (by simp [answers]; omega)

end Worker

end PageHarvest
