import PageHarvest.Proofs.Worker.Crew

/-!
# Jobs are done once

Workers that share a queue from which nothing is taken back do each pending job once, whatever the
order of their steps, and leave the others alone (`exactly_once`).  The invariant is `Stage`: how far
a job has got, which worker has it and what is recorded for it, all at the same time.  A step either
concerns another job or moves the job on to its next stage.
-/

namespace PageHarvest

variable {ι : Type}

/-! ### What concerns a job -/

/-- The post of a worker as far as it concerns a job. -/
def Post.on (x : Uuid) (post : Post) : Post :=
  if post.lease?.map (·.1.id) = some x then post else .free

namespace Crew

/-- The posts as far as they concern a job. -/
def postsOn (x : Uuid) (crew : Crew ι) : ι → Post := fun w => (crew.posts w).on x

/-- What was done about a job. -/
def deedsOn (x : Uuid) (crew : Crew ι) : List (Job × Except Failure String) :=
  crew.deeds.filter (·.1.id == x)

end Crew

variable {q : Queue} {crew crew' : Crew ι} {now : Time.Instant} {x : Uuid}
  {j j' job : Job} {w : ι} {lease : Nat} {outcome : Except Failure String} {post : Post}
  {posts : ι → Post} {deeds : List (Job × Except Failure String)}

theorem Post.on_of_lease (h : post.lease? = some (job, lease)) :
    post.on x = if job.id = x then post else .free := by
  rw [Post.on, h]
  simp

namespace Crew

@[simp] theorem postsOn_call (x : Uuid) (now : Time.Instant) (c : Queue.Call) (crew : Crew ι) :
    (crew.call now c).postsOn x = crew.postsOn x := rfl

@[simp] theorem postsOn_record (x : Uuid) (deed : Job × Except Failure String) (crew : Crew ι) :
    (crew.record deed).postsOn x = crew.postsOn x := rfl

@[simp] theorem deedsOn_call (x : Uuid) (now : Time.Instant) (c : Queue.Call) (crew : Crew ι) :
    (crew.call now c).deedsOn x = crew.deedsOn x := rfl

theorem deedsOn_record (x : Uuid) (deed : Job × Except Failure String) (crew : Crew ι) :
    (crew.record deed).deedsOn x
      = crew.deedsOn x ++ if deed.1.id = x then [deed] else [] := by
  rw [deedsOn, deeds_record, List.filter_append, List.filter_singleton]
  simp [deedsOn]

theorem deedsOn_eq_nil_iff : crew.deedsOn x = [] ↔ ∀ deed ∈ crew.deeds, deed.1.id ≠ x := by
  simp [deedsOn]

/-- How often a job was done is how much is recorded for it. -/
theorem count_deeds (x : Uuid) (crew : Crew ι) :
    (crew.deeds.map (·.1.id)).count x = (crew.deedsOn x).length := by
  rw [List.count, List.countP_map, List.countP_eq_length_filter]
  rfl

variable [DecidableEq ι]

@[simp] theorem deedsOn_put (x : Uuid) (w : ι) (post : Post) (crew : Crew ι) :
    (crew.put w post).deedsOn x = crew.deedsOn x := rfl

theorem postsOn_put (post : Post) (x : Uuid) (w : ι) (crew : Crew ι) :
    (crew.put w post).postsOn x = Function.update (crew.postsOn x) w (post.on x) := by
  funext v
  by_cases hv : v = w
  · subst hv
    simp [postsOn]
  · simp [postsOn, hv]

/-- A worker put from what does not concern the job to what does not either. -/
theorem postsOn_put_of_other (hpost : post.on x = .free) (hw : (crew.posts w).on x = .free) :
    (crew.put w post).postsOn x = crew.postsOn x := by
  rw [postsOn_put, hpost, ← hw]
  exact Function.update_eq_self w (crew.postsOn x)

end Crew

/-! ### Stages -/

variable [DecidableEq ι]

/-- How far a job has got since it was `j`: what it is now, the posts and the deeds that concern
it. -/
inductive Stage (j : Job) : Job → (ι → Post) → List (Job × Except Failure String) → Prop
  | untouched : Stage j j (fun _ => .free) []
  | busy (waited : j.status = .pending) (w : ι) (start : Time.Instant) (lease : Nat) :
    Stage j (j.leasedAt start)
      (Function.update (fun _ => .free) w (.busy (j.leasedAt start) lease)) []
  | done (waited : j.status = .pending) (w : ι) (start : Time.Instant) (lease : Nat)
    (outcome : Except Failure String) :
    Stage j (j.leasedAt start)
      (Function.update (fun _ => .free) w (.done (j.leasedAt start) lease outcome))
      [(j.leasedAt start, outcome)]
  | ended (waited : j.status = .pending) (start stop : Time.Instant)
    (outcome : Except Failure String) :
    Stage j ((j.leasedAt start).endedAt stop outcome) (fun _ => .free)
      [(j.leasedAt start, outcome)]

namespace Stage

/-- A job that is pending has not been touched. -/
theorem of_pending (h : Stage j j' posts deeds) (hp : j'.status = .pending) :
    j' = j ∧ posts = (fun _ => .free) ∧ deeds = [] := by
  cases h with
  | untouched => exact ⟨rfl, rfl, rfl⟩
  | busy => exact absurd hp (by simp [Job.leasedAt])
  | done => exact absurd hp (by simp [Job.leasedAt])
  | ended waited start stop outcome =>
    cases outcome <;> exact absurd hp (by simp [Job.endedAt, Job.completedAt, Job.failedAt])

/-- The worker that is busy with a job is the only one that has it. -/
theorem of_busy (h : Stage j j' posts deeds) (hw : posts w = .busy job lease) :
    j.status = .pending ∧ ∃ start, j' = j.leasedAt start ∧ job = j.leasedAt start ∧
      posts = Function.update (fun _ => .free) w (.busy job lease) ∧ deeds = [] := by
  cases h with
  | untouched => exact absurd hw (by simp)
  | ended => exact absurd hw (by simp)
  | busy waited v start l =>
    by_cases hv : w = v
    · subst hv
      rw [Function.update_self] at hw
      cases hw
      exact ⟨waited, start, rfl, rfl, rfl, rfl⟩
    · exact absurd hw (by simp [hv])
  | done waited v start l outcome =>
    by_cases hv : w = v
    · subst hv
      exact absurd hw (by simp)
    · exact absurd hw (by simp [hv])

/-- The worker that has done a job is the only one that has it, and did it alone. -/
theorem of_done (h : Stage j j' posts deeds) (hw : posts w = .done job lease outcome) :
    j.status = .pending ∧ ∃ start, j' = j.leasedAt start ∧
      posts = Function.update (fun _ => .free) w (.done job lease outcome) ∧
      deeds = [(j.leasedAt start, outcome)] := by
  cases h with
  | untouched => exact absurd hw (by simp)
  | ended => exact absurd hw (by simp)
  | busy waited v start l =>
    by_cases hv : w = v
    · subst hv
      exact absurd hw (by simp)
    · exact absurd hw (by simp [hv])
  | done waited v start l o =>
    by_cases hv : w = v
    · subst hv
      rw [Function.update_self] at hw
      cases hw
      exact ⟨waited, start, rfl, rfl, rfl⟩
    · exact absurd hw (by simp [hv])

theorem length_deeds_le (h : Stage j j' posts deeds) : deeds.length ≤ 1 := by
  cases h <;> simp

/-- A job that was not pending is left alone. -/
theorem of_not_pending (h : Stage j j' posts deeds) (hj : j.status ≠ .pending) :
    j' = j ∧ deeds = [] := by
  cases h with
  | untouched => exact ⟨rfl, rfl⟩
  | busy waited => exact absurd waited hj
  | done waited => exact absurd waited hj
  | ended waited => exact absurd waited hj

/-- A job that was pending and is not any more, and that no worker has, was done, and how it ended
is on record. -/
theorem of_free (h : Stage j j' posts deeds) (hposts : posts = fun _ => .free)
    (hj : j.status = .pending) (hj' : j'.status ≠ .pending) :
    ∃ deed, deeds = [deed] ∧ j'.Records deed.2 := by
  have hbusy : ∀ (w : ι) (post : Post),
      Function.update (fun _ => .free) w post = (fun _ : ι => Post.free) → post = .free := by
    intro w post he
    simpa using congrFun he w
  cases h with
  | untouched => exact absurd hj hj'
  | busy waited w start lease => exact absurd (hbusy w _ hposts) (by simp)
  | done waited w start lease outcome => exact absurd (hbusy w _ hposts) (by simp)
  | ended waited start stop outcome => exact ⟨_, rfl, Queue.records_endedAt stop outcome _⟩

end Stage

/-! ### The invariant -/

namespace Crew

open Queue (Call)

/-- What holds at every point of a run that began with the queue `q` and takes nothing back. -/
structure Orderly (q : Queue) (crew : Crew ι) : Prop where
  ids : crew.queue.rows.map Job.id = q.rows.map Job.id
  takes : crew.queue.refusesReports = false
  known : ∀ w job lease, (crew.posts w).lease? = some (job, lease) → job.id ∈ q.rows.map Job.id
  recorded : ∀ deed ∈ crew.deeds, deed.1.id ∈ q.rows.map Job.id
  stage : ∀ x j, q.job? x = some j →
    ∃ j', crew.queue.job? x = some j' ∧ Stage j j' (crew.postsOn x) (crew.deedsOn x)

namespace Orderly

/-- Nothing has happened yet. -/
theorem start (hr : q.refusesReports = false) : Orderly q (Crew.start q : Crew ι) where
  ids := rfl
  takes := hr
  known w job lease h := absurd h (by simp [Crew.start, Post.lease?])
  recorded deed h := absurd h (by simp [Crew.start])
  stage x j hj := ⟨j, hj, .untouched⟩

theorem distinct (h : Orderly q crew) (hq : q.Distinct) : crew.queue.Distinct := by
  rw [Queue.Distinct, h.ids]
  exact hq

/-- A step that leaves the jobs, the posts and the deeds. -/
theorem call (h : Orderly q crew) {c : Call} (hrows : (c.on now crew.queue).rows = crew.queue.rows)
    (hr : ∀ refuses, c ≠ .failReports refuses) : Orderly q (crew.call now c) where
  ids := by rw [queue_call, hrows, h.ids]
  takes := by rw [queue_call, Queue.refusesReports_on hr, h.takes]
  known := h.known
  recorded := h.recorded
  stage x j hj := by
    obtain ⟨j', hj', hstage⟩ := h.stage x j hj
    refine ⟨j', ?_, hstage⟩
    rw [queue_call, Queue.job?, hrows]
    exact hj'

/-- A lease begins the way of one job and leaves the others where they are. -/
theorem leases (h : Orderly q crew) (hq : q.Distinct) (hw : crew.posts w = .free)
    (hl : Call.acquire.leased? now crew.queue = some job) (lease : Nat) :
    Orderly q ((crew.call now .acquire).put w (.busy job lease)) where
  ids := by rw [queue_put, queue_call, Queue.ids_on, h.ids]
  takes := by rw [queue_put, queue_call, Queue.refusesReports_on (by simp), h.takes]
  known v k l hv := by
    rw [lease?_put] at hv
    split at hv
    · obtain ⟨rfl, rfl⟩ := Prod.mk.inj (Option.some.inj hv)
      rw [← h.ids]
      exact Queue.mem_ids_of_leased? hl
    · exact h.known v k l hv
  recorded := h.recorded
  stage x j hj := by
    -- The job that is handed out was pending and begins its way here; the others stay where they are.
    obtain ⟨j', hj', hstage⟩ := h.stage x j hj
    have hpost : (Post.busy job lease).on x = if job.id = x then .busy job lease else .free :=
      Post.on_of_lease rfl
    rcases Queue.job?_acquire (h.distinct hq) hl hj' with ⟨hx, hp, rfl, hrow⟩ | ⟨hx, hrow⟩
    · obtain ⟨rfl, hposts, hdeeds⟩ := hstage.of_pending hp
      refine ⟨_, hrow, ?_⟩
      rw [postsOn_put, hpost, if_pos hx]
      change Stage j' _ (Function.update (crew.postsOn x) w _) (crew.deedsOn x)
      rw [hposts, hdeeds]
      exact .busy hp w now lease
    · refine ⟨j', hrow, ?_⟩
      rw [postsOn_put_of_other (by rw [hpost, if_neg hx]) (by rw [posts_call, hw]; rfl)]
      exact hstage

/-- What is done is recorded by the worker that has the job. -/
theorem handles (h : Orderly q crew) (hw : crew.posts w = .busy job lease)
    (outcome : Except Failure String) :
    Orderly q ((crew.put w (.done job lease outcome)).record (job, outcome)) where
  ids := h.ids
  takes := h.takes
  known v k l hv := by
    rw [posts_record, lease?_put] at hv
    split at hv
    · exact h.known w k l (by rw [hw]; exact hv)
    · exact h.known v k l hv
  recorded deed hd := by
    rcases List.mem_append.1 hd with hd | hd
    · exact h.recorded deed hd
    · obtain rfl := List.mem_singleton.1 hd
      exact h.known w job lease (by rw [hw]; rfl)
  stage x j hj := by
    obtain ⟨j', hj', hstage⟩ := h.stage x j hj
    refine ⟨j', hj', ?_⟩
    have hbusy : (crew.posts w).on x = if job.id = x then .busy job lease else .free := by
      rw [hw, Post.on_of_lease rfl]
    have hdone : (Post.done job lease outcome).on x
        = if job.id = x then .done job lease outcome else .free := Post.on_of_lease rfl
    -- Only for the job that is done the stage changes, and its worker was busy with it.
    rw [deedsOn_record, postsOn_record]
    by_cases hx : job.id = x
    · rw [if_pos hx] at hbusy hdone
      obtain ⟨waited, start, rfl, rfl, hposts, hdeeds⟩ := hstage.of_busy (w := w) hbusy
      rw [postsOn_put, hdone, hposts, Function.update_idem, if_pos hx, deedsOn_put, hdeeds]
      exact .done waited w start lease outcome
    · rw [if_neg hx] at hbusy hdone
      rw [postsOn_put_of_other hdone hbusy, if_neg hx, List.append_nil]
      exact hstage

/-- A report ends the way of one job. -/
theorem reports (h : Orderly q crew) (hq : q.Distinct)
    (hw : crew.posts w = .done job lease outcome) :
    Orderly q ((crew.call now (.ofOutcome job.id outcome)).put w .free) where
  ids := by rw [queue_put, queue_call, Queue.ids_on, h.ids]
  takes := by
    rw [queue_put, queue_call, Queue.refusesReports_on (by cases outcome <;> simp [Call.ofOutcome]),
      h.takes]
  known v k l hv := by
    rw [lease?_put] at hv
    split at hv
    · exact absurd hv (by simp [Post.lease?])
    · exact h.known v k l hv
  recorded := h.recorded
  stage x j hj := by
    obtain ⟨j', hj', hstage⟩ := h.stage x j hj
    have hdone : (crew.posts w).on x = if job.id = x then .done job lease outcome else .free := by
      rw [hw, Post.on_of_lease rfl]
    have hrow : ((Call.ofOutcome job.id outcome).on now crew.queue).job? x = _ :=
      Queue.job?_ofOutcome (h.distinct hq) hj' job.id outcome
    rw [Queue.id_of_job? hj'] at hrow
    -- The report counts, as nobody else has the job and nothing was taken back.
    by_cases hx : job.id = x
    · rw [if_pos hx] at hdone
      obtain ⟨waited, start, rfl, hposts, hdeeds⟩ := hstage.of_done (w := w) hdone
      -- The row is the leased job still, and so the terminal write goes through.
      rw [if_pos ⟨h.takes, hx.symm, rfl⟩] at hrow
      refine ⟨_, hrow, ?_⟩
      rw [postsOn_put, postsOn_call, hposts, Function.update_idem, deedsOn_put, deedsOn_call,
        hdeeds]
      have hfree : Function.update (fun _ : ι => Post.free) w (Post.free.on x) = fun _ => .free :=
        Function.update_eq_self w _
      rw [hfree]
      exact .ended waited start now outcome
    · rw [if_neg hx] at hdone
      rw [if_neg fun hand => hx hand.2.1.symm] at hrow
      refine ⟨j', hrow, ?_⟩
      rw [postsOn_put_of_other (show Post.free.on x = .free from rfl) (by rw [posts_call, hdone])]
      exact hstage

/-- Every step keeps the order. -/
theorem of_steps (hq : q.Distinct) {e : Event ι} (h : Orderly q crew)
    (he : e.within Call.isOutage = true) (hs : Steps now crew e crew') : Orderly q crew' := by
  cases hs with
  | asks free none => exact h.call (Queue.rows_acquire_of_none none) (by simp)
  | leases free leased => exact h.leases hq free leased _
  | handles busy => exact h.handles busy _
  | reports done => exact h.reports hq done
  | @calls c =>
    refine h.call (Queue.rows_on_of_isOutage he) ?_
    rintro refuses rfl
    exact absurd he (by simp [Event.within, Call.isOutage])

/-! ### What an orderly crew has done -/

theorem exists_stage (h : Orderly q crew) (hq : q.Distinct) (hj : j ∈ q.rows) :
    ∃ j', crew.queue.job? j.id = some j' ∧
      Stage j j' (crew.postsOn j.id) (crew.deedsOn j.id) :=
  h.stage j.id j ((Queue.job?_eq_some hq).2 ⟨hj, rfl⟩)

/-- Each job has one stage, and no stage has more than one deed. -/
theorem nodup_deeds (h : Orderly q crew) (hq : q.Distinct) :
    (crew.deeds.map (·.1.id)).Nodup := by
  rw [List.nodup_iff_count_le_one]
  intro x
  rw [count_deeds]
  by_cases hx : crew.deedsOn x = []
  · simp [hx]
  · obtain ⟨deed, hdeed⟩ := List.exists_mem_of_ne_nil _ hx
    obtain ⟨hmem, hid⟩ := List.mem_filter.1 hdeed
    obtain ⟨j, hj, hjd⟩ := List.mem_map.1 (h.recorded deed hmem)
    obtain rfl : j.id = x := hjd.trans (beq_iff_eq.1 hid)
    obtain ⟨j', -, hs⟩ := h.exists_stage hq hj
    exact hs.length_deeds_le

/-- Nobody has done what a worker is busy with, and nobody else has it. -/
theorem alone (h : Orderly q crew) (hq : q.Distinct) (hw : crew.posts w = .busy job lease) :
    (∀ deed ∈ crew.deeds, deed.1.id ≠ job.id) ∧
      ∀ v k l, v ≠ w → (crew.posts v).lease? = some (k, l) → k.id ≠ job.id := by
  obtain ⟨j, hj, hid⟩ := List.mem_map.1 (h.known w job lease (by rw [hw]; rfl))
  obtain ⟨j', -, hs⟩ := h.exists_stage hq hj
  rw [hid] at hs
  have hbusy : crew.postsOn job.id w = .busy job lease := by
    rw [postsOn, hw, Post.on_of_lease rfl, if_pos rfl]
  obtain ⟨-, -, -, -, hposts, hdeeds⟩ := hs.of_busy hbusy
  refine ⟨deedsOn_eq_nil_iff.1 hdeeds, fun v k l hv hk he => ?_⟩
  -- Another worker that had the job too would be in the posts of its stage.
  have hfree : crew.postsOn job.id v = .free := by rw [hposts, Function.update_of_ne hv]
  rw [postsOn, Post.on_of_lease hk, if_pos he] at hfree
  rw [hfree] at hk
  exact absurd hk (by simp [Post.lease?])

/-- Only jobs that were pending are done. -/
theorem exists_pending_of_deed (h : Orderly q crew) (hq : q.Distinct)
    {deed : Job × Except Failure String} (hdeed : deed ∈ crew.deeds) :
    ∃ j ∈ q.rows, j.id = deed.1.id ∧ j.status = .pending := by
  obtain ⟨j, hj, hid⟩ := List.mem_map.1 (h.recorded deed hdeed)
  refine ⟨j, hj, hid, ?_⟩
  obtain ⟨j', -, hs⟩ := h.exists_stage hq hj
  by_contra hp
  exact deedsOn_eq_nil_iff.1 (hs.of_not_pending hp).2 deed hdeed hid.symm

/-- A job that was not pending is as it was. -/
theorem job?_of_not_pending (h : Orderly q crew) (hq : q.Distinct) (hj : j ∈ q.rows)
    (hp : j.status ≠ .pending) : crew.queue.job? j.id = some j := by
  obtain ⟨j', hj', hs⟩ := h.exists_stage hq hj
  rw [hj', (hs.of_not_pending hp).1]

/-- When no worker has a job and none is pending, only the last of the stages is left. -/
theorem exists_deed_of_free (h : Orderly q crew) (hq : q.Distinct)
    (hfree : ∀ w, crew.posts w = .free) (hnone : ∀ j ∈ crew.queue.rows, j.status ≠ .pending)
    (hj : j ∈ q.rows) (hp : j.status = .pending) :
    ∃ deed j', crew.deedsOn j.id = [deed] ∧ crew.queue.job? j.id = some j' ∧
      j'.Records deed.2 := by
  obtain ⟨j', hj', hs⟩ := h.exists_stage hq hj
  have hposts : crew.postsOn j.id = fun _ => .free := by
    funext w
    rw [postsOn, hfree w]
    rfl
  obtain ⟨deed, hdeeds, hrecords⟩ :=
    hs.of_free hposts hp (hnone j' ((Queue.job?_eq_some (h.distinct hq)).1 hj').1)
  exact ⟨deed, j', hdeeds, hj', hrecords⟩

end Orderly

end Crew

/-! ### Exactly once -/

open Queue (Call)

/-- **Jobs are done once.**  Workers share a queue of distinct jobs that takes their reports; their
steps come in any order, and the queue may fail to hand out jobs, but nothing is taken back.  Then no
job is done twice, and what a worker is busy with was not done before and no other worker has it;
only jobs that were pending are done, and the others are not changed.  When no worker has a job and
none is pending, each job that was pending was done once, and how it ended is on record. -/
theorem exactly_once (q : Queue) (hq : q.Distinct) (hr : q.refusesReports = false)
    (events : List (Time.Instant × Crew.Event ι)) (crew : Crew ι)
    (hkind : ∀ e ∈ events, e.2.within Call.isOutage = true)
    (hrun : (Crew.start q).run events = some crew) :
    (crew.deeds.map (·.1.id)).Nodup ∧
    (∀ w job lease, crew.posts w = .busy job lease →
      (∀ deed ∈ crew.deeds, deed.1.id ≠ job.id) ∧
      ∀ v k l, v ≠ w → (crew.posts v).lease? = some (k, l) → k.id ≠ job.id) ∧
    (∀ deed ∈ crew.deeds, ∃ j ∈ q.rows, j.id = deed.1.id ∧ j.status = .pending) ∧
    (∀ j ∈ q.rows, j.status ≠ .pending → crew.queue.job? j.id = some j) ∧
    ((∀ w, crew.posts w = .free) → (∀ j ∈ crew.queue.rows, j.status ≠ .pending) →
      ∀ j ∈ q.rows, j.status = .pending →
        ∃ deed j', crew.deeds.filter (·.1.id == j.id) = [deed] ∧
          crew.queue.job? j.id = some j' ∧ j'.Records deed.2) := by
  have h : crew.Orderly q := Crew.holds_of_run (Crew.Orderly.of_steps hq) hrun hkind (.start hr)
  exact ⟨h.nodup_deeds hq, fun w job lease hw => h.alone hq hw,
    fun deed hdeed => h.exists_pending_of_deed hq hdeed,
    fun j hj hp => h.job?_of_not_pending hq hj hp,
    fun hfree hnone j hj hp => h.exists_deed_of_free hq hfree hnone hj hp⟩

/-- A pending job and one that has failed. -/
private def mixed : Queue where
  rows := [{ (default : Job) with id := .nil, status := .failed },
    { (default : Job) with id := .ofRandom Text.Hex.lastValue }]

/-- Two workers ask for a job and one of them gets it; before that the queue fails once. -/
private def shift : List (Time.Instant × Crew.Event Bool) :=
  [(default, .call (.failNextAcquires 1)), (default, .acquire true), (default, .acquire false),
    (default, .acquire true), (default, .handle false (.error ⟨"no page", []⟩)),
    (default, .report false)]

/-- The pending job of two is done once, by the second of two workers. -/
theorem exactly_once_mixed : ∃ crew, (Crew.start mixed).run shift = some crew ∧
    ∃ deed j, crew.deeds.filter (·.1.id == (.ofRandom Text.Hex.lastValue)) = [deed] ∧
      crew.queue.job? (.ofRandom Text.Hex.lastValue) = some j ∧ j.Records deed.2 := by
  refine ⟨_, rfl, ?_⟩
  obtain ⟨-, -, -, -, hend⟩ :=
    exactly_once mixed (by decide) rfl shift _ (by decide +kernel) rfl
  refine hend ?_ (by decide +kernel) _ (List.mem_cons_of_mem _ List.mem_cons_self) rfl
  intro w
  cases w <;> rfl

end PageHarvest
