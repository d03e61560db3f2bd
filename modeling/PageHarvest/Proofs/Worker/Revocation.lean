import PageHarvest.Proofs.Queue.Accounting
import PageHarvest.Proofs.Worker.Crew

/-!
# Reports under revoked leases

A queue takes a report on any job that is being processed; it does not ask under which lease the
report is made.  A lease that was revoked can therefore still be reported on once the job has been
handed out again (`report_of_superseded`), and this is the only case in which a report counts whose
lease is not the current one (`reports_count`).  What carries the proof is that a job that is being
processed is always held by some worker under its current lease, `Crew.Tracked.held`.
-/

namespace PageHarvest

open Queue (Call)

/-! ### Changes of status -/

namespace Queue

variable {q : Queue} {now : Time.Instant} {c : Call} {x : Uuid} {j j' : Job}

/-- Unless a lease is asked for, no job comes to be processed. -/
theorem processing_of_does (h : c.Does now q j j') (hc : c ≠ .acquire)
    (hj' : j'.status = .processing) : j.status = .processing := by
  cases h with
  | leases => exact absurd rfl hc
  | completes key taken held => exact held
  | fails message taken held => exact held
  | requeues age stale => exact isStale_processing stale
  | backdates age => exact hj'
  | keeps => exact hj'

/-- A job is finished by a report only. -/
theorem not_upkeep_of_finished (h : c.Does now q j j') (hj : j.isFinished = false)
    (hj' : j'.isFinished = true) : c ≠ .acquire ∧ c.isUpkeep = false := by
  cases h with
  | leases => exact absurd hj' (by simp [Job.isFinished, Job.leasedAt])
  | completes => exact ⟨by simp, rfl⟩
  | fails => exact ⟨by simp, rfl⟩
  | requeues => exact absurd hj' (by simp [Job.isFinished, Job.requeuedAt])
  | backdates age =>
    have hsame : (j.backdate age).isFinished = j.isFinished := rfl
    rw [hsame, hj] at hj'
    exact absurd hj' (by simp)
  | keeps =>
    rw [hj] at hj'
    exact absurd hj' (by simp)

theorem exists_job?_of_on (h : (c.on now q).job? x = some j') : ∃ j, q.job? x = some j := by
  rw [← mem_ids_iff, ← ids_on q now c]
  exact mem_ids_iff.2 ⟨j', h⟩

/-- A job is not being processed after a report on it that was taken. -/
theorem not_processing_of_report (hq : q.Distinct) (htakes : q.refusesReports = false)
    {outcome : Except Failure String} (h : ((Call.ofOutcome x outcome).on now q).job? x = some j) :
    j.status ≠ .processing := by
  obtain ⟨i, hi⟩ := exists_job?_of_on h
  rw [job?_ofOutcome hq hi] at h
  split at h
  · obtain rfl := Option.some.inj h
    cases outcome <;> simp [Job.endedAt, Job.completedAt, Job.failedAt]
  · next hnot =>
    obtain rfl := Option.some.inj h
    exact fun hp => hnot ⟨htakes, id_of_job? hi, hp⟩

end Queue

/-! ### The invariant -/

namespace Crew

variable {ι : Type} {q : Queue} {crew crew' : Crew ι} {now : Time.Instant} {c : Call} {x : Uuid}
  {j job : Job} {w : ι} {lease : Nat} {outcome : Except Failure String} {post : Post}

/-- What is known, at every point of a run that began with the queue `q`, of those who hold a
job. -/
structure Tracked (q : Queue) (crew : Crew ι) : Prop where
  queue : crew.queue = q.after crew.calls
  refuses : crew.queue.refusesReports = q.refusesReports
  leased : ∀ w job lease, (crew.posts w).lease? = some (job, lease) →
    lease ≤ crew.calls.length ∧
      ∃ j, (q.after (crew.calls.take lease)).job? job.id = some j ∧ j.status = .processing
  held : q.refusesReports = false → ∀ x j, crew.queue.job? x = some j → j.status = .processing →
    x ∈ q.grants crew.calls → ∃ w job lease, (crew.posts w).lease? = some (job, lease) ∧
      job.id = x ∧ x ∉ crew.grantsSince q lease

theorem grantsSince_call (hqueue : crew.queue = q.after crew.calls)
    (hl : lease ≤ crew.calls.length) : (crew.call now c).grantsSince q lease
      = crew.grantsSince q lease ++ c.granted now crew.queue := by
  rw [grantsSince, calls_call, List.take_append_of_le_length hl, List.drop_append_of_le_length hl,
    Queue.grants_append, ← Queue.after_append, List.take_append_drop, ← hqueue, Queue.grants,
    Queue.grants, List.append_nil, grantsSince]

namespace Tracked

theorem start (q : Queue) : Tracked q (Crew.start q : Crew ι) where
  queue := rfl
  refuses := rfl
  leased w job lease h := absurd h (by simp [Crew.start, Post.lease?])
  held _ x j _ _ hx := absurd hx (by simp [Crew.start, Queue.grants])

theorem distinct (h : Tracked q crew) (hq : q.Distinct) : crew.queue.Distinct := by
  rw [h.queue]
  exact Queue.distinct_after hq _

theorem exists_job? (h : Tracked q crew) (hl : (crew.posts w).lease? = some (job, lease)) :
    ∃ j, crew.queue.job? job.id = some j := by
  obtain ⟨-, i, hi, -⟩ := h.leased w job lease hl
  rw [← Queue.mem_ids_iff, h.queue, Queue.ids_after, ← Queue.ids_after q (crew.calls.take lease)]
  exact Queue.mem_ids_iff.2 ⟨i, hi⟩

/-- What a lease was when it was made does not change with later calls. -/
private theorem leased_call (h : Tracked q crew) (now : Time.Instant) (c : Call)
    (hl : (crew.posts w).lease? = some (job, lease)) : lease ≤ (crew.call now c).calls.length ∧
      ∃ j, (q.after ((crew.call now c).calls.take lease)).job? job.id = some j ∧
        j.status = .processing := by
  obtain ⟨hle, hj⟩ := h.leased w job lease hl
  rw [calls_call, List.take_append_of_le_length hle, List.length_append]
  exact ⟨by omega, hj⟩

/-- A call that hands out nothing and after which no job is being processed that was not before. -/
theorem call (h : Tracked q crew) (hr : ∀ refuses, c ≠ .failReports refuses)
    (hg : c.granted now crew.queue = [])
    (hkeep : ∀ x j', (c.on now crew.queue).job? x = some j' → j'.status = .processing →
      ∃ j, crew.queue.job? x = some j ∧ j.status = .processing) :
    Tracked q (crew.call now c) where
  queue := by rw [queue_call, calls_call, Queue.after_append, ← h.queue]; rfl
  refuses := by rw [queue_call, Queue.refusesReports_on hr, h.refuses]
  leased w job lease hl := h.leased_call now c hl
  held htakes x j' hj' hp hx := by
    obtain ⟨j, hj, hbefore⟩ := hkeep x j' hj' hp
    rw [calls_call, Queue.grants_append, ← h.queue, Queue.grants, Queue.grants, hg] at hx
    obtain ⟨w, job, lease, hl, hid, hsince⟩ := h.held htakes x j hj hbefore (by simpa using hx)
    refine ⟨w, job, lease, hl, hid, ?_⟩
    rw [grantsSince_call h.queue (h.leased w job lease hl).1, hg, List.append_nil]
    exact hsince

/-- A job that is being processed was handed out since a lease as often as it was taken back. -/
theorem count_since (h : Tracked q crew) (hq : q.Distinct)
    (hl : (crew.posts w).lease? = some (job, lease)) (hj : crew.queue.job? job.id = some j)
    (hp : j.status = .processing) :
    (crew.grantsSince q lease).count job.id = (crew.requeuesSince q lease).count job.id := by
  -- The job was being processed when the lease was made, and it is now: the account is even.
  obtain ⟨-, i, hi, hip⟩ := h.leased w job lease hl
  obtain ⟨j', hj', hcount, -⟩ := Queue.count_grants_after (Queue.distinct_after hq _) hi
    (crew.calls.drop lease)
  rw [← Queue.after_append, List.take_append_drop, ← h.queue, hj] at hj'
  obtain rfl := Option.some.inj hj'
  rw [Queue.held_of_not_pending (j := j) (by simp [hp]),
    Queue.held_of_not_pending (j := i) (by simp [hip])] at hcount
  rw [grantsSince, requeuesSince]
  omega

/-- **Who may report.**  While a job is being processed, a lease on it is the current one, or else the
job was handed out again and another worker has it under the current lease. -/
theorem standing (h : Tracked q crew) (hq : q.Distinct) (htakes : q.refusesReports = false)
    (hl : (crew.posts w).lease? = some (job, lease)) (hj : crew.queue.job? job.id = some j)
    (hp : j.status = .processing) :
    crew.IsCurrent q job.id lease ∨ crew.IsSuperseded q w job.id lease := by
  have hcurrent : ∀ {v : ι} {k : Job} {l : Nat}, (crew.posts v).lease? = some (k, l) →
      k.id = job.id → job.id ∉ crew.grantsSince q l → crew.IsCurrent q job.id l := by
    intro v k l hv hid hsince
    refine ⟨hsince, ?_⟩
    have hcount := h.count_since hq hv (by rw [hid]; exact hj) hp
    rw [hid, List.count_eq_zero.2 hsince] at hcount
    exact List.count_eq_zero.1 hcount.symm
  by_cases hgrant : job.id ∈ crew.grantsSince q lease
  · -- Whoever holds the job was handed it later, so it is another worker than `w`.
    right
    have hcount := h.count_since hq hl hj hp
    have hmem : job.id ∈ q.grants crew.calls := by
      rw [← List.take_append_drop lease crew.calls, Queue.grants_append]
      exact List.mem_append_right _ hgrant
    obtain ⟨v, k, l, hv, hid, hsince⟩ := h.held htakes job.id j hj hp hmem
    refine ⟨?_, hgrant, v, k, l, ?_, hv, hid, hcurrent hv hid hsince⟩
    · exact List.count_pos_iff.1 (hcount ▸ List.count_pos_iff.2 hgrant)
    · rintro rfl
      rw [hl] at hv
      cases hv
      exact hsince hgrant
  · exact .inl (hcurrent hl rfl hgrant)

variable [DecidableEq ι]

/-- A worker put to something else with the same lease. -/
theorem put_same (h : Tracked q crew) (hpost : post.lease? = (crew.posts w).lease?) :
    Tracked q (crew.put w post) := by
  have hlease : ∀ v, ((crew.put w post).posts v).lease? = (crew.posts v).lease? := by
    intro v
    rw [lease?_put]
    split
    · next hv => rw [hpost, hv]
    · rfl
  refine ⟨h.queue, h.refuses, ?_, ?_⟩
  · intro v job lease hl
    rw [hlease] at hl
    exact h.leased v job lease hl
  · intro htakes x j hj hp hx
    obtain ⟨v, job, lease, hl, hid, hsince⟩ := h.held htakes x j hj hp hx
    exact ⟨v, job, lease, by rw [hlease, hl], hid, hsince⟩

/-- A worker gives up a job that is not being processed. -/
theorem put_free (h : Tracked q crew) (hw : (crew.posts w).lease? = some (job, lease))
    (hjob : q.refusesReports = false → ∀ j, crew.queue.job? job.id = some j →
      j.status ≠ .processing) :
    Tracked q (crew.put w .free) where
  queue := h.queue
  refuses := h.refuses
  leased v k l hl := by
    rw [lease?_put] at hl
    split at hl
    · exact absurd hl (by simp [Post.lease?])
    · exact h.leased v k l hl
  held htakes x j hj hp hx := by
    obtain ⟨v, k, l, hl, hid, hsince⟩ := h.held htakes x j hj hp hx
    refine ⟨v, k, l, ?_, hid, hsince⟩
    -- The worker that gives up its job is not the one that holds this one.
    have hv : v ≠ w := by
      rintro rfl
      rw [hw] at hl
      cases hl
      exact hjob htakes j (by rw [hid]; exact hj) hp
    rw [lease?_put, if_neg hv, hl]

theorem leases (h : Tracked q crew) (hq : q.Distinct) (hw : crew.posts w = .free)
    (hl : Call.acquire.leased? now crew.queue = some job) :
    Tracked q ((crew.call now .acquire).put w (.busy job (crew.calls.length + 1))) := by
  have hg : Call.acquire.granted now crew.queue = [job.id] := by
    rw [Call.granted, hl]
    rfl
  have hqueue : (crew.call now .acquire).queue = q.after (crew.call now .acquire).calls := by
    rw [queue_call, calls_call, Queue.after_append, ← h.queue]
    rfl
  have hd := h.distinct hq
  refine ⟨hqueue, ?_, ?_, ?_⟩
  · rw [queue_put, queue_call, Queue.refusesReports_on (by simp), h.refuses]
  · intro v k l hv
    rw [lease?_put] at hv
    split at hv
    · cases hv
      -- The lease that is made here is that of the job as it now is.
      refine ⟨by simp, ?_⟩
      obtain ⟨j, hj⟩ := Queue.mem_ids_iff.1 (Queue.mem_ids_of_leased? hl)
      rcases Queue.job?_acquire hd hl hj with ⟨-, -, rfl, hrow⟩ | ⟨hne, -⟩
      · rw [calls_put, List.take_of_length_le (by simp), ← hqueue]
        exact ⟨_, hrow, rfl⟩
      · exact absurd rfl hne
    · exact h.leased_call now .acquire hv
  · intro htakes x j' hj' hp hx
    by_cases hjob : job.id = x
    · refine ⟨w, job, crew.calls.length + 1, ?_, hjob, ?_⟩
      · rw [lease?_put, if_pos rfl]
        rfl
      · rw [grantsSince, calls_put, calls_call, List.drop_of_length_le (by simp)]
        simp [Queue.grants]
    · obtain ⟨j, hj⟩ := Queue.exists_job?_of_on hj'
      rcases Queue.job?_acquire hd hl hj with ⟨heq, -⟩ | ⟨-, hrow⟩
      · exact absurd heq hjob
      · obtain rfl := Option.some.inj (hrow.symm.trans hj')
        rw [calls_put, calls_call, Queue.grants_append, ← h.queue, Queue.grants, Queue.grants,
          hg] at hx
        obtain ⟨v, k, l, hlease, hid, hsince⟩ :=
          h.held htakes x j hj hp (by simpa [Ne.symm hjob] using hx)
        refine ⟨v, k, l, ?_, hid, ?_⟩
        · have hv : v ≠ w := by
            rintro rfl
            rw [hw] at hlease
            exact absurd hlease (by simp [Post.lease?])
          rw [lease?_put, if_neg hv, posts_call, hlease]
        · have hsame : (crew.call now .acquire).grantsSince q l = _ :=
            grantsSince_call h.queue (h.leased v k l hlease).1
          rw [hg] at hsame
          show x ∉ (crew.call now .acquire).grantsSince q l
          rw [hsame, List.mem_append, List.mem_singleton]
          rintro (hold | hnew)
          · exact hsince hold
          · exact hjob hnew.symm

theorem reports (h : Tracked q crew) (hq : q.Distinct)
    (hw : crew.posts w = .done job lease outcome) :
    Tracked q ((crew.call now (.ofOutcome job.id outcome)).put w .free) := by
  have hd := h.distinct hq
  have hplain : ∀ d, (d = .acquire ∨ ∃ refuses, d = .failReports refuses) →
      Call.ofOutcome job.id outcome ≠ d := by
    rintro d (rfl | ⟨refuses, rfl⟩) <;> cases outcome <;> simp [Call.ofOutcome]
  have hcall : Tracked q (crew.call now (.ofOutcome job.id outcome)) := by
    refine h.call (fun refuses => hplain _ (.inr ⟨refuses, rfl⟩))
      (Queue.granted_of_not_acquire (hplain _ (.inl rfl))) ?_
    intro x j' hj' hp
    obtain ⟨j, hj⟩ := Queue.exists_job?_of_on hj'
    obtain ⟨k, hk, hdoes⟩ := Queue.does_on hd now (.ofOutcome job.id outcome) hj
    obtain rfl := Option.some.inj (hk.symm.trans hj')
    exact ⟨j, hj, Queue.processing_of_does hdoes (hplain _ (.inl rfl)) hp⟩
  have hlease : ((crew.call now (.ofOutcome job.id outcome)).posts w).lease?
      = some (job, lease) := by
    rw [posts_call, hw]
    rfl
  -- Nobody has to hold the job any more, whether the report counted or not.
  refine hcall.put_free hlease ?_
  intro htakes j hj
  exact Queue.not_processing_of_report hd (by rw [h.refuses, htakes]) hj

/-- Every step keeps track. -/
theorem of_steps (hq : q.Distinct) {e : Event ι} (h : Tracked q crew)
    (he : e.within Call.isUpkeep = true) (hs : Steps now crew e crew') : Tracked q crew' := by
  cases hs with
  | asks free none =>
    refine h.call (by simp) (by rw [Call.granted, none]; rfl) ?_
    intro x j' hj' hp
    rw [Queue.job?, Queue.rows_acquire_of_none none] at hj'
    exact ⟨j', hj', hp⟩
  | leases free leased => exact h.leases hq free leased
  | @handles w job lease outcome busy =>
    have hput : Tracked q (crew.put w (.done job lease outcome)) :=
      h.put_same (by rw [busy]; rfl)
    exact ⟨hput.queue, hput.refuses, hput.leased, hput.held⟩
  | reports done => exact h.reports hq done
  | @calls c =>
    have hupkeep : c.isUpkeep = true := he
    refine h.call ?_ (Queue.granted_of_not_acquire ?_) ?_
    · rintro refuses rfl
      exact absurd hupkeep (by simp [Call.isUpkeep])
    · rintro rfl
      exact absurd hupkeep (by simp [Call.isUpkeep])
    · intro x j' hj' hp
      obtain ⟨j, hj⟩ := Queue.exists_job?_of_on hj'
      obtain ⟨k, hk, hdoes⟩ := Queue.does_on (h.distinct hq) now c hj
      obtain rfl := Option.some.inj (hk.symm.trans hj')
      refine ⟨j, hj, Queue.processing_of_does hdoes ?_ hp⟩
      rintro rfl
      exact absurd hupkeep (by simp [Call.isUpkeep])

/-! ### Reports of a tracked crew -/

variable {e : Event ι} {later : Crew ι} {outcome : Except Failure String}

/-- A report leaves the other jobs, and counts if its job is being processed. -/
theorem report_spec (h : Tracked q crew) (hq : q.Distinct)
    (hw : crew.posts w = .done job lease outcome) (hstep : crew.step now (.report w) = some later) :
    (∀ x, x ≠ job.id → later.queue.job? x = crew.queue.job? x) ∧
    ∃ j, crew.queue.job? job.id = some j ∧
      later.queue.job? job.id = some (if q.refusesReports = false ∧ j.status = .processing
        then j.endedAt now outcome else j) ∧
      (q.refusesReports = false → j.status = .processing →
        crew.IsCurrent q job.id lease ∨ crew.IsSuperseded q w job.id lease) := by
  have hd := h.distinct hq
  have hl : (crew.posts w).lease? = some (job, lease) := by rw [hw]; rfl
  have hlater : later = (crew.call now (.ofOutcome job.id outcome)).put w .free := by
    simpa [step, hw] using hstep.symm
  obtain ⟨j, hj⟩ := h.exists_job? hl
  rw [hlater]
  refine ⟨fun x hx => Queue.job?_ofOutcome_of_ne hd hx outcome, j, hj, ?_, ?_⟩
  · have hrow : ((Call.ofOutcome job.id outcome).on now crew.queue).job? job.id = _ :=
      Queue.job?_ofOutcome hd hj job.id outcome
    rw [queue_put, queue_call, hrow, h.refuses]
    simp [Queue.id_of_job? hj]
  · intro htakes hp
    exact h.standing hq htakes hl hj hp

/-- A job is finished only by a report on it that counts. -/
theorem exists_report_of_finished (h : Tracked q crew) (hq : q.Distinct)
    (he : e.within Call.isUpkeep = true) (hstep : crew.step now e = some later)
    (hj : crew.queue.job? x = some j) (hj' : later.queue.job? x = some j')
    (hopen : j.isFinished = false) (hfinished : j'.isFinished = true) :
    ∃ w job lease outcome, e = .report w ∧ crew.posts w = .done job lease outcome ∧
      job.id = x ∧ j'.Records outcome ∧
      (crew.IsCurrent q x lease ∨ crew.IsSuperseded q w x lease) := by
  have hd := h.distinct hq
  -- The job has changed, so that the step is one that touches it.
  have hsame : later.queue.job? x ≠ some j := by
    rintro hk
    rw [hj', Option.some.injEq] at hk
    rw [hk, hopen] at hfinished
    exact absurd hfinished (by simp)
  -- No call but a report finishes a job.
  have hcall : ∀ c : Call, later.queue = c.on now crew.queue →
      c ≠ .acquire ∧ c.isUpkeep = false := by
    intro c hc
    obtain ⟨k, hk, hdoes⟩ := Queue.does_on hd now c hj
    rw [← hc, hj', Option.some.injEq] at hk
    subst hk
    exact Queue.not_upkeep_of_finished hdoes hopen hfinished
  cases steps_of_step hstep with
  | asks => exact absurd rfl (hcall .acquire rfl).1
  | leases => exact absurd rfl (hcall .acquire rfl).1
  | handles => exact absurd hj hsame
  | @calls c =>
    have hupkeep : c.isUpkeep = true := he
    rw [(hcall c rfl).2] at hupkeep
    exact absurd hupkeep (by simp)
  | @reports w job lease outcome hw =>
    have hl : (crew.posts w).lease? = some (job, lease) := by rw [hw]; rfl
    rw [queue_put, queue_call] at hj' hsame
    by_cases hx : x = job.id
    · subst hx
      rw [Queue.job?_ofOutcome hd hj] at hj' hsame
      split at hj'
      · next hcounts =>
        obtain rfl := Option.some.inj hj'
        exact ⟨w, job, lease, outcome, rfl, hw, rfl, Queue.records_endedAt now outcome j,
          h.standing hq (h.refuses.symm.trans hcounts.1) hl hj hcounts.2.2⟩
      · next hnot => exact absurd (by rw [if_neg hnot]) hsame
    · exact absurd (by rw [Queue.job?_ofOutcome_of_ne hd hx, hj]) hsame

end Tracked

end Crew

/-! ### Reports that count -/

variable {ι : Type} [DecidableEq ι]

/-- **Reports that count.**  Workers share a queue of distinct jobs from which leases may be taken
back; their steps come in any order.  A report leaves the other jobs, and counts exactly if its job
is being processed, whatever the lease: then the lease is the current one, or the job was taken back
and handed out again since and another worker has it under the current lease.  Conversely a job is
finished only by such a report, and what is on record is the outcome that the worker reported. -/
theorem reports_count (q : Queue) (hq : q.Distinct)
    (events : List (Time.Instant × Crew.Event ι)) (crew : Crew ι)
    (hkind : ∀ e ∈ events, e.2.within Call.isUpkeep = true)
    (hrun : (Crew.start q).run events = some crew) :
    (∀ now w job lease outcome later, crew.posts w = .done job lease outcome →
      crew.step now (.report w) = some later →
      (∀ x, x ≠ job.id → later.queue.job? x = crew.queue.job? x) ∧
      ∃ j, crew.queue.job? job.id = some j ∧
        later.queue.job? job.id = some (if q.refusesReports = false ∧ j.status = .processing
          then j.endedAt now outcome else j) ∧
        (q.refusesReports = false → j.status = .processing →
          crew.IsCurrent q job.id lease ∨ crew.IsSuperseded q w job.id lease)) ∧
    (∀ now e later x j j', e.within Call.isUpkeep = true → crew.step now e = some later →
      crew.queue.job? x = some j → later.queue.job? x = some j' →
      j.isFinished = false → j'.isFinished = true →
      ∃ w job lease outcome, e = .report w ∧ crew.posts w = .done job lease outcome ∧
        job.id = x ∧ j'.Records outcome ∧
        (crew.IsCurrent q x lease ∨ crew.IsSuperseded q w x lease)) := by
  have h : crew.Tracked q := Crew.holds_of_run (Crew.Tracked.of_steps hq) hrun hkind (.start q)
  exact ⟨fun now w job lease outcome later hw hstep => h.report_spec hq hw hstep,
    fun now e later x j j' he hstep hj hj' => h.exists_report_of_finished hq he hstep hj hj'⟩

/-- One pending job. -/
private def single : Queue where
  rows := [{ (default : Job) with id := .nil }]

/-- A worker leases the job and is slow, so that its lease is taken back and another one leases the
job.  Both do it. -/
private def takeover : List (Time.Instant × Crew.Event Bool) :=
  [(default, .acquire true),
    (default, .call (.backdateLease .nil (.ofSeconds 7200))),
    (default, .call (.requeueStale (.ofSeconds 3600))), (default, .acquire false),
    (default, .handle true (.ok "first")), (default, .handle false (.ok "second"))]

/-- The slow worker reports first, and its report counts, although the other one has the current
lease. -/
theorem report_of_superseded : single.Distinct ∧
    ∃ (crew later : Crew Bool) (job job' : Job) (lease lease' : Nat),
      (Crew.start single).run takeover = some crew ∧
      crew.posts true = .done job lease (.ok "first") ∧
      ¬crew.IsCurrent single job.id lease ∧
      crew.posts false = .done job' lease' (.ok "second") ∧ job'.id = job.id ∧
      crew.IsCurrent single job.id lease' ∧
      crew.step default (.report true) = some later ∧
      (crew.queue.job? job.id).map Job.status = some .processing ∧
      (later.queue.job? job.id).map Job.status = some .completed ∧
      (later.queue.job? job.id).bind Job.resultKey = some "first" := by
  refine ⟨by decide, _, _, _, _, _, _, rfl, rfl, ?_, rfl, rfl, ?_, rfl, rfl, rfl, rfl⟩
  · decide +kernel
  · decide +kernel

/-- When the slow worker reports, the other one has the job. -/
theorem reports_count_takeover : ∃ (crew later : Crew Bool) (job : Job) (lease : Nat),
    (Crew.start single).run takeover = some crew ∧
    crew.posts true = .done job lease (.ok "first") ∧
    crew.step default (.report true) = some later ∧
    (crew.IsCurrent single job.id lease ∨ crew.IsSuperseded single true job.id lease) := by
  refine ⟨_, _, _, _, rfl, rfl, rfl, ?_⟩
  obtain ⟨hreport, -⟩ := reports_count single (by decide) takeover _ (by decide +kernel) rfl
  obtain ⟨-, j, hj, -, hstanding⟩ := hreport default true _ _ (.ok "first") _ rfl rfl
  exact hstanding rfl (by cases hj; rfl)

end PageHarvest
