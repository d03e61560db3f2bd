import PageHarvest.Proofs.Queue.Rows
import PageHarvest.Worker.Basic
import PageHarvest.Worker.Crew

/-!
# Steps of a crew

`Crew.Steps` lists all that can happen to a crew in one step (`steps_of_step`), and `holds_of_run`
carries what each step preserves through a run.  `poll_is_run` ties crews to workers: a worker that
polls the queue has the effect of its own steps in a row.
-/

namespace PageHarvest

/-- Wherever the jobs come from, a report is what becomes of the place by the call that goes with the
outcome. -/
theorem Worker.report_eq {τ : Type} {leasing : Leasing τ} {now : Time.Instant}
    (on : Queue.Call → τ → τ)
    (hcomplete : ∀ id key q, (leasing.complete now id key q).2.1 = on (.complete id key) q)
    (hfail : ∀ id message q, (leasing.fail now id message q).2.1 = on (.fail id message) q)
    (job : Job) (outcome : Except Failure String) (q : τ) :
    (Worker.report leasing now job outcome q).1 = on (.ofOutcome job.id outcome) q := by
  cases outcome with
  | ok key =>
    rw [Queue.Call.ofOutcome, ← hcomplete, Worker.report]
    rcases leasing.complete now job.id key q with ⟨_ | _, _, _⟩ <;> rfl
  | error failure =>
    rw [Queue.Call.ofOutcome, ← hfail, Worker.report]
    rcases leasing.fail now job.id failure.text q with ⟨_ | _, _, _⟩ <;> rfl

namespace Crew

variable {ι : Type} {crew crew' : Crew ι} {now : Time.Instant} {e : Event ι}
  {events : List (Time.Instant × Event ι)}

/-! ### Calls and posts -/

/-- A call changes the queue and is noted; it is up to no one in particular, and so changes no post.
-/
@[simp] theorem queue_call (now : Time.Instant) (c : Queue.Call) (crew : Crew ι) :
    (crew.call now c).queue = c.on now crew.queue := rfl

@[simp] theorem calls_call (now : Time.Instant) (c : Queue.Call) (crew : Crew ι) :
    (crew.call now c).calls = crew.calls ++ [(now, c)] := rfl

@[simp] theorem posts_call (now : Time.Instant) (c : Queue.Call) (crew : Crew ι) :
    (crew.call now c).posts = crew.posts := rfl

@[simp] theorem deeds_call (now : Time.Instant) (c : Queue.Call) (crew : Crew ι) :
    (crew.call now c).deeds = crew.deeds := rfl

@[simp] theorem queue_record (deed : Job × Except Failure String) (crew : Crew ι) :
    (crew.record deed).queue = crew.queue := rfl

@[simp] theorem calls_record (deed : Job × Except Failure String) (crew : Crew ι) :
    (crew.record deed).calls = crew.calls := rfl

@[simp] theorem posts_record (deed : Job × Except Failure String) (crew : Crew ι) :
    (crew.record deed).posts = crew.posts := rfl

@[simp] theorem deeds_record (deed : Job × Except Failure String) (crew : Crew ι) :
    (crew.record deed).deeds = crew.deeds ++ [deed] := rfl

variable [DecidableEq ι]

/-- A worker that turns to something else leaves the queue alone. -/
@[simp] theorem queue_put (w : ι) (post : Post) (crew : Crew ι) :
    (crew.put w post).queue = crew.queue := rfl

@[simp] theorem calls_put (w : ι) (post : Post) (crew : Crew ι) :
    (crew.put w post).calls = crew.calls := rfl

@[simp] theorem posts_put (w : ι) (post : Post) (crew : Crew ι) :
    (crew.put w post).posts = Function.update crew.posts w post := rfl

@[simp] theorem deeds_put (w : ι) (post : Post) (crew : Crew ι) :
    (crew.put w post).deeds = crew.deeds := rfl

/-- The lease of a worker, after this or another one was put to something else. -/
theorem lease?_put (w v : ι) (post : Post) (crew : Crew ι) : ((crew.put w post).posts v).lease?
    = if v = w then post.lease? else (crew.posts v).lease? := by
  by_cases hv : v = w
  · subst hv
    rw [posts_put, Function.update_self, if_pos rfl]
  · rw [posts_put, Function.update_of_ne hv, if_neg hv]

/-- The post of a worker, after this or another one was put to something else. -/
theorem posts_of_put {w v : ι} {post post' : Post} (h : (crew.put w post).posts v = post') :
    v = w ∧ post = post' ∨ v ≠ w ∧ crew.posts v = post' := by
  rw [posts_put] at h
  by_cases hv : v = w
  · subst hv
    rw [Function.update_self] at h
    exact .inl ⟨rfl, h⟩
  · rw [Function.update_of_ne hv] at h
    exact .inr ⟨hv, h⟩

/-! ### Steps and runs -/

/-- What one step does to a crew. -/
inductive Steps (now : Time.Instant) (crew : Crew ι) : Event ι → Crew ι → Prop
  | asks {w : ι} (free : crew.posts w = .free)
    (none : Queue.Call.acquire.leased? now crew.queue = none) :
    Steps now crew (.acquire w) (crew.call now .acquire)
  | leases {w : ι} {job : Job} (free : crew.posts w = .free)
    (leased : Queue.Call.acquire.leased? now crew.queue = some job) :
    Steps now crew (.acquire w)
      ((crew.call now .acquire).put w (.busy job (crew.calls.length + 1)))
  | handles {w : ι} {job : Job} {lease : Nat} {outcome : Except Failure String}
    (busy : crew.posts w = .busy job lease) :
    Steps now crew (.handle w outcome)
      ((crew.put w (.done job lease outcome)).record (job, outcome))
  | reports {w : ι} {job : Job} {lease : Nat} {outcome : Except Failure String}
    (done : crew.posts w = .done job lease outcome) :
    Steps now crew (.report w) ((crew.call now (.ofOutcome job.id outcome)).put w .free)
  | calls {c : Queue.Call} : Steps now crew (.call c) (crew.call now c)

/-- Whatever happens in a step is in the list. -/
theorem steps_of_step (h : crew.step now e = some crew') : Steps now crew e crew' := by
  cases e with
  | acquire w =>
    simp only [step] at h
    split at h
    · next free =>
      obtain rfl := Option.some.inj h
      split
      · next job leased =>
        -- The lease is known by the number of the call that granted it.
        have hlength : (crew.call now .acquire).calls.length = crew.calls.length + 1 := by
          simp [call]
        rw [hlength]
        exact .leases free leased
      · next none => exact .asks free none
    · exact absurd h (by simp)
  | handle w outcome =>
    simp only [step] at h
    split at h
    · next job lease busy =>
      obtain rfl := Option.some.inj h
      exact .handles busy
    · exact absurd h (by simp)
  | report w =>
    simp only [step] at h
    split at h
    · next job lease outcome done =>
      obtain rfl := Option.some.inj h
      exact .reports done
    · exact absurd h (by simp)
  | call c =>
    obtain rfl := Option.some.inj h
    exact .calls

/-- Whatever is in the list can happen in a step. -/
theorem step_of_steps (h : Steps now crew e crew') : crew.step now e = some crew' := by
  cases h with
  | asks free none => simp [step, free, none]
  | leases free leased => simp [step, free, leased]
  | handles busy => simp [step, busy]
  | reports done => simp [step, done]
  | calls => rfl

/-- What each step with a call of this kind preserves holds at the end of a run of such steps. -/
theorem holds_of_run {holds : Crew ι → Prop} {kind : Queue.Call → Bool}
    (hstep : ∀ {crew crew' : Crew ι} {now : Time.Instant} {e : Event ι},
      holds crew → e.within kind = true → Steps now crew e crew' → holds crew')
    (hrun : crew.run events = some crew') (hkind : ∀ e ∈ events, e.2.within kind = true)
    (h : holds crew) : holds crew' := by
  induction events generalizing crew with
  | nil =>
    obtain rfl := Option.some.inj hrun
    exact h
  | cons event events ih =>
    obtain ⟨now, e⟩ := event
    rw [run, Option.bind_eq_some_iff] at hrun
    obtain ⟨next, hnext, hrest⟩ := hrun
    exact ih hrest (fun e he => hkind e (List.mem_cons_of_mem _ he))
      (hstep h (hkind _ List.mem_cons_self) (steps_of_step hnext))

/-! ### Workers -/

/-- A worker's report is the call that `Call.ofOutcome` names. -/
theorem report_eq_on (now : Time.Instant) (job : Job) (outcome : Except Failure String)
    (q : Queue) : (Worker.report Queue.leasing now job outcome q).1
      = (Queue.Call.ofOutcome job.id outcome).on now q :=
  Worker.report_eq (fun c q => c.on now q) (fun _ _ _ => rfl) (fun _ _ _ => rfl) job outcome q

/-- **Polling is a run.**  A free worker of a crew that polls the queue does what its own steps do,
one after the other, and is free again. -/
theorem poll_is_run {σ : Type} (worker : Worker) (handler : Handler σ) (now : Time.Instant)
    (s : Worker.Site Queue σ) (crew : Crew ι) (hq : crew.queue = s.queue) (w : ι)
    (hw : crew.posts w = .free) :
    ∃ events crew', crew.run events = some crew' ∧ (∀ e ∈ events, e.2.within (fun _ => false)) ∧
      crew'.queue = (worker.poll Queue.leasing handler now s).2.queue ∧
      crew'.posts = crew.posts ∧
      crew'.deeds.map (·.1.id) = crew.deeds.map (·.1.id) ++
        (match (worker.poll Queue.leasing handler now s).1 with
          | .processed id => [id]
          | _ => []) := by
  rcases h : s.queue.acquire now with ⟨failure | leased, queue⟩
  · refine ⟨[(now, .acquire w)], crew.call now .acquire, ?_, by simp [Event.within], ?_, rfl, ?_⟩
    · simp [run, step, hw, Queue.Call.leased?, hq, h]
    · simp [Worker.poll, Queue.leasing, h, Queue.Call.on, hq, Worker.Site.say]
    · simp [Worker.poll, Queue.leasing, h]
  · cases leased with
    | none =>
      refine ⟨[(now, .acquire w)], crew.call now .acquire, ?_, by simp [Event.within], ?_, rfl, ?_⟩
      · simp [run, step, hw, Queue.Call.leased?, hq, h]
      · simp [Worker.poll, Queue.leasing, h, Queue.Call.on, hq]
      · simp [Worker.poll, Queue.leasing, h]
    | some job =>
      -- The three steps of this worker in a row, with nothing of the others in between.
      set outcome := (handler job s.world).outcome with houtcome
      let leased := (crew.call now .acquire).put w (.busy job (crew.calls.length + 1))
      let handled : Crew ι :=
        (leased.put w (.done job (crew.calls.length + 1) outcome)).record (job, outcome)
      refine ⟨[(now, .acquire w), (now, .handle w outcome), (now, .report w)],
        (handled.call now (.ofOutcome job.id outcome)).put w .free, ?_, by simp [Event.within],
        ?_, ?_, ?_⟩
      · have hlease : crew.step now (.acquire w) = some leased := by
          simp [step, hw, Queue.Call.leased?, hq, h, leased]
        have hhandle : leased.step now (.handle w outcome) = some handled := by
          simp [step, leased, handled]
        have hreport : handled.step now (.report w)
            = some ((handled.call now (.ofOutcome job.id outcome)).put w .free) := by
          simp [step, handled]
        rw [run, hlease, Option.bind_some, run, hhandle, Option.bind_some, run, hreport]
        rfl
      · have hqueue : handled.queue = queue := by
          show Queue.Call.acquire.on now crew.queue = queue
          rw [hq, Queue.Call.on, h]
        rw [queue_put, queue_call, hqueue, ← report_eq_on]
        simp [Worker.poll, Queue.leasing, h, Worker.process, ← houtcome]
      -- The worker is free again, and no other one has moved.
      · funext v
        by_cases hv : v = w
        · subst hv
          simp [hw]
        · simp [hv, handled, leased]
      · simp [handled, leased, Worker.poll, Queue.leasing, h]

end Crew

end PageHarvest
