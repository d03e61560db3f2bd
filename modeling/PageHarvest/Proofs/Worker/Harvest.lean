import PageHarvest.Proofs.Attempt.Course
import PageHarvest.Proofs.Worker.Rounds
import PageHarvest.Worker.Harvest

/-!
# Steps of a harvest

`Harvest.Steps` lists all that can happen in one step of a harvest, in terms of the steps of its crew,
and `holds_of_run` carries what each step preserves through a run.  `poll_is_run` ties harvests to
workers whose handler makes attempts: a poll has the effect of one request for a job, five steps of an
attempt and one report.
-/

namespace PageHarvest

open Attempt

/-! ### Attempts in steps of any length -/

namespace Attempt

/-- The time that the call of a step takes. -/
def Script.delay (script : Script) : Step → Time.Span
  | .fetch => script.fetchDelay
  | .analyze _ => script.analyzeDelay
  | .store _ _ => script.storeDelay
  | _ => ⟨0⟩

/-- An attempt that has no steps left has an outcome. -/
theorem outcome?_of_left {σ : Type} {p : Progress σ} (h : p.step.left = 0) :
    ∃ outcome, p.outcome? = some outcome := by
  rw [Progress.outcome?]
  cases hp : p.step with
  | done key => exact ⟨.ok key, rfl⟩
  | error e => exact ⟨.error e, rfl⟩
  | store text posting =>
    rw [hp] at h
    cases posting <;> exact absurd h (by simp [Step.left])
  | _ =>
    rw [hp] at h
    exact absurd h (by simp [Step.left])

end Attempt

/-- The outfit makes out the same postings and refuses the same as the script. -/
structure Outfit.Follows {ι : Type} (o : Outfit ι) (script : Script) : Prop where
  posting : o.posting = script.posting
  refuses : o.refuses = script.refuses

/-- One step needs no more of a script than the delay of its own call. -/
theorem Outfit.Follows.advance {ι : Type} {o : Outfit ι} {script : Script} (h : o.Follows script)
    (s : Attempt.Settings) (job : Job) (p : Progress Script.State) :
    p.advance (o.script (script.delay p.step)).collaborators s job
      = p.advance script.collaborators s job := by
  obtain ⟨hposting, hrefuses⟩ := h
  rw [Progress.advance, Progress.advance]
  cases hp : p.step with
  | fetch => rfl
  | normalize markup =>
    simp only [Progress.normalize, Script.collaborators, Outfit.script, hposting, Option.isSome_map]
  | analyze text =>
    simp only [Progress.analyze, Script.collaborators, Outfit.script, hposting, Script.delay]
  | store text posting =>
    have hrefused : ∀ kind,
        (o.script script.storeDelay).isRefused kind = script.isRefused kind := by
      intro kind
      rw [Script.isRefused, Script.isRefused, ← hrefuses]
      rfl
    have hput : (o.script script.storeDelay).collaborators.put = script.collaborators.put := by
      funext kind key body
      show Call.mk _ _ = Call.mk _ _
      congr 1
      funext w
      rw [Script.put, Script.put, hrefused]
    cases posting with
    | some posting => simp only [Progress.put, Script.delay, hput]
    | none => simp only [Progress.put, Script.delay, hput]
  | done key => rfl
  | error e => rfl

namespace Harvest

variable {ι : Type} [DecidableEq ι] {o : Outfit ι} {h h' : Harvest ι} {now : Time.Instant}
  {e : Event ι} {events : List (Time.Instant × Event ι)}

/-! ### Steps and runs -/

/-- What one step does to a harvest. -/
inductive Steps (o : Outfit ι) (now : Time.Instant) (h : Harvest ι) : Event ι → Harvest ι → Prop
  | acquires {w : ι} {crew : Crew ι} (step : Crew.Steps now h.crew (.acquire w) crew) :
    Steps o now h (.acquire w)
      { h with crew, attempts := Function.update h.attempts w (.start h.world) }
  | advances {w : ι} {took : Time.Span} {job : Job} {lease : Nat}
    (busy : h.crew.posts w = .busy job lease) :
    Steps o now h (.advance w took) (h.advance o w job took)
  | handles {w : ι} {crew : Crew ι} {outcome : Except Error String}
    (ended : (h.attempts w).outcome? = some outcome)
    (step : Crew.Steps now h.crew (.handle w (Handler.failureOf (some outcome))) crew) :
    Steps o now h (.handle w) { h with crew }
  | reports {w : ι} {crew : Crew ι} (step : Crew.Steps now h.crew (.report w) crew) :
    Steps o now h (.report w) { h with crew }
  | calls {c : Queue.Call} : Steps o now h (.call c) { h with crew := h.crew.call now c }
  | publishes {pages : List (Except String String)} :
    Steps o now h (.publish pages) { h with world := { h.world with pages } }

theorem steps_of_step (hs : h.step o now e = some h') : Steps o now h e h' := by
  cases e with
  | acquire w =>
    rw [step, Option.map_eq_some_iff] at hs
    obtain ⟨crew, hcrew, rfl⟩ := hs
    exact .acquires (Crew.steps_of_step hcrew)
  | advance w took =>
    simp only [step] at hs
    split at hs
    · next job lease busy =>
      obtain rfl := Option.some.inj hs
      exact .advances busy
    · exact absurd hs (by simp)
  | handle w =>
    simp only [step] at hs
    split at hs
    · next outcome ended =>
      rw [Option.map_eq_some_iff] at hs
      obtain ⟨crew, hcrew, rfl⟩ := hs
      exact .handles ended (Crew.steps_of_step hcrew)
    · exact absurd hs (by simp)
  | report w =>
    rw [step, Option.map_eq_some_iff] at hs
    obtain ⟨crew, hcrew, rfl⟩ := hs
    exact .reports (Crew.steps_of_step hcrew)
  | call c =>
    obtain rfl := Option.some.inj hs
    exact .calls
  | publish pages =>
    obtain rfl := Option.some.inj hs
    exact .publishes

/-- What each step with a call of this kind preserves holds at the end of a run of such steps. -/
theorem holds_of_run {holds : Harvest ι → Prop} {kind : Queue.Call → Bool}
    (hstep : ∀ {h h' : Harvest ι} {now : Time.Instant} {e : Event ι},
      holds h → e.within kind = true → Steps o now h e h' → holds h')
    (hrun : h.run o events = some h') (hkind : ∀ e ∈ events, e.2.within kind = true)
    (hh : holds h) : holds h' := by
  induction events generalizing h with
  | nil =>
    obtain rfl := Option.some.inj hrun
    exact hh
  | cons event events ih =>
    obtain ⟨now, e⟩ := event
    rw [run, Option.bind_eq_some_iff] at hrun
    obtain ⟨next, hnext, hrest⟩ := hrun
    exact ih hrest (fun e he => hkind e (List.mem_cons_of_mem _ he))
      (hstep hh (hkind _ List.mem_cons_self) (steps_of_step hnext))

theorem run_append (o : Outfit ι) (h : Harvest ι) (a b : List (Time.Instant × Event ι)) :
    h.run o (a ++ b) = (h.run o a).bind (run o · b) := by
  induction a generalizing h with
  | nil => rfl
  | cons event a ih =>
    obtain ⟨now, e⟩ := event
    rw [List.cons_append, run, run, Option.bind_assoc]
    congr 1
    funext next
    exact ih next

/-! ### Workers -/

/-- A busy worker takes any number of steps of its attempt in a row. -/
theorem exists_run_advance {script : Script} (hscript : o.Follows script) (now : Time.Instant)
    {w : ι} {job : Job} {lease : Nat} (hw : h.crew.posts w = .busy job lease)
    (hworld : (h.attempts w).world = h.world) (n : Nat) :
    ∃ events h', h.run o events = some h' ∧ (∀ e ∈ events, e.2.within (fun _ => false)) ∧
      h'.crew = h.crew ∧ h'.world = (h'.attempts w).world ∧
      h'.attempts w
        = (Progress.advance script.collaborators (o.settings w) job)^[n] (h.attempts w) := by
  induction n with
  | zero => exact ⟨[], h, rfl, by simp, rfl, hworld.symm, rfl⟩
  | succ n ih =>
    obtain ⟨events, next, hrun, hplain, hcrew, hnext, hattempt⟩ := ih
    refine ⟨events ++ [(now, .advance w (script.delay (next.attempts w).step))],
      next.advance o w job (script.delay (next.attempts w).step), ?_, ?_, hcrew, ?_, ?_⟩
    · rw [run_append, hrun, Option.bind_some, run, step, hcrew, hw]
      rfl
    · intro e he
      rcases List.mem_append.1 he with he | he
      · exact hplain e he
      · obtain rfl := List.mem_singleton.1 he
        rfl
    · simp [advance]
    · have hsame : { next.attempts w with world := next.world } = next.attempts w := by
        rw [hnext]
      rw [Function.iterate_succ_apply', ← hattempt, ← hscript.advance, advance]
      simp only [Function.update_self, hsame]

/-- A busy worker brings its attempt to the end. -/
theorem exists_run_ended {script : Script} (hscript : o.Follows script) (now : Time.Instant)
    {w : ι} {job : Job} {lease : Nat} (hw : h.crew.posts w = .busy job lease)
    (hstart : h.attempts w = .start h.world) :
    ∃ events h' outcome, h.run o events = some h' ∧
      (∀ e ∈ events, e.2.within (fun _ => false)) ∧ h'.crew = h.crew ∧
      h'.world = (h'.attempts w).world ∧ (h'.attempts w).outcome? = some outcome ∧
      h'.attempts w = Progress.run script.collaborators (o.settings w) job h.world := by
  obtain ⟨events, h', hrun, hplain, hcrew, hworld, hattempt⟩ :=
    exists_run_advance hscript now hw (by rw [hstart]; rfl) 5
  rw [hstart] at hattempt
  obtain ⟨p, hp, -, hleft⟩ := course_iterate script (o.settings w) job h.world 5
  rw [hp] at hattempt
  obtain ⟨outcome, houtcome⟩ := outcome?_of_left (p := h'.attempts w) (by
    rw [hattempt]
    omega)
  refine ⟨events, h', outcome, hrun, hplain, hcrew, hworld, houtcome, ?_⟩
  rw [hattempt, ← hp]
  rfl

/-- A free worker leases a job, makes an attempt at it, reports how that ended, and is free again. -/
theorem exists_run_of_leased {script : Script} (hscript : o.Follows script) {now : Time.Instant}
    {w : ι} {job : Job} (hw : h.crew.posts w = .free)
    (hl : Queue.Call.acquire.leased? now h.crew.queue = some job) :
    ∃ events h' outcome, h.run o events = some h' ∧
      (∀ e ∈ events, e.2.within (fun _ => false)) ∧ h'.crew.posts = h.crew.posts ∧
      (Progress.run script.collaborators (o.settings w) job h.world).outcome? = some outcome ∧
      h'.crew.queue = (Queue.Call.ofOutcome job.id (Handler.failureOf (some outcome))).on now
        (Queue.Call.acquire.on now h.crew.queue) ∧
      h'.world = (Progress.run script.collaborators (o.settings w) job h.world).world := by
  let crew := (h.crew.call now .acquire).put w (.busy job (h.crew.calls.length + 1))
  have hleases : h.crew.step now (.acquire w) = some crew := Crew.step_of_steps (.leases hw hl)
  let leased : Harvest ι :=
    { h with crew, attempts := Function.update h.attempts w (.start h.world) }
  have hbusy : leased.crew.posts w = .busy job (h.crew.calls.length + 1) :=
    Function.update_self ..
  have hstart : leased.attempts w = .start h.world := Function.update_self ..
  obtain ⟨steps, ended, outcome, hsteps, hplain, hcrew, hended, houtcome, hattempt⟩ :=
    exists_run_ended hscript now hbusy hstart
  let result := Handler.failureOf (some outcome)
  let done := (crew.put w (.done job (h.crew.calls.length + 1) result)).record (job, result)
  let free := (done.call now (.ofOutcome job.id result)).put w .free
  have hhandles : ended.crew.step now (.handle w result) = some done := by
    rw [hcrew]
    exact Crew.step_of_steps (.handles hbusy)
  have hreports : done.step now (.report w) = some free :=
    Crew.step_of_steps (.reports (Function.update_self ..))
  refine ⟨(now, .acquire w) :: (steps ++ [(now, .handle w), (now, .report w)]),
    { ended with crew := free }, outcome, ?_, ?_, ?_, hattempt ▸ houtcome, rfl, ?_⟩
  · rw [run, step, hleases, Option.map_some, Option.bind_some, run_append, hsteps,
      Option.bind_some, run, step, houtcome]
    dsimp only
    rw [hhandles, Option.map_some, Option.bind_some, run, step, hreports]
    rfl
  · intro e he
    rcases List.mem_cons.1 he with rfl | he
    · rfl
    · rcases List.mem_append.1 he with he | he
      · exact hplain e he
      · rcases List.mem_pair.1 he with rfl | rfl
        · rfl
        · rfl
  · show Function.update (Function.update (Function.update h.crew.posts w _) w _) w .free
      = h.crew.posts
    rw [Function.update_idem, Function.update_idem, ← hw, Function.update_eq_self]
  · rw [← hattempt]
    exact hended

/-- **Polling is a run.**  A free worker of a harvest that polls the queue, and does its jobs by
attempts with collaborators like those of the harvest, does what its own steps do, one after the
other, and is free again. -/
theorem poll_is_run {script : Script} (hscript : o.Follows script) (worker : Worker)
    (now : Time.Instant) (s : Worker.Site Queue Script.State) (hq : h.crew.queue = s.queue)
    (hworld : h.world = s.world) {w : ι} (hw : h.crew.posts w = .free) :
    ∃ events h', h.run o events = some h' ∧ (∀ e ∈ events, e.2.within (fun _ => false)) ∧
      h'.crew.posts = h.crew.posts ∧
      h'.crew.queue = (worker.poll Queue.leasing
        (Handler.ofPipeline script.collaborators (o.settings w)) now s).2.queue ∧
      h'.world = (worker.poll Queue.leasing
        (Handler.ofPipeline script.collaborators (o.settings w)) now s).2.world := by
  set handler := Handler.ofPipeline script.collaborators (o.settings w) with hhandler
  cases hl : Queue.Call.acquire.leased? now s.queue with
  | none =>
    obtain ⟨-, hpollWorld, hpollQueue⟩ := worker.poll_of_not_leased handler hl
    have hasks := Crew.step_of_steps (.asks hw (by rw [hq]; exact hl))
    refine ⟨[(now, .acquire w)], { h with
      crew := h.crew.call now .acquire
      attempts := Function.update h.attempts w (.start h.world) },
      ?_, by simp [Event.within], rfl, ?_, ?_⟩
    · rw [run, step, hasks]
      rfl
    · rw [hpollQueue, ← hq]
      rfl
    · rw [hpollWorld, ← hworld]
  | some job =>
    obtain ⟨-, hpollWorld, hpollQueue⟩ := worker.poll_of_leased handler hl
    obtain ⟨events, h', outcome, hrun, hplain, hposts, houtcome, hqueue, hmade⟩ :=
      exists_run_of_leased hscript hw (by rw [hq]; exact hl)
    rw [hworld] at houtcome hmade
    rw [hq] at hqueue
    -- The attempt is the one that the handler makes.
    have hhandled : (handler job s.world).outcome = Handler.failureOf (some outcome) := by
      rw [hhandler, Handler.ofPipeline, houtcome]
    refine ⟨events, h', hrun, hplain, hposts, ?_, ?_⟩
    · rw [hpollQueue, hhandled]
      exact hqueue
    · rw [hpollWorld]
      exact hmade

end Harvest

end PageHarvest
