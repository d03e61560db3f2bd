import PageHarvest.Proofs.Queue.Accounting
import PageHarvest.Proofs.Worker.Crew
import Mathlib.Data.Set.Card

/-!
# Rounds of a worker

What a worker does is seen in the calls that it makes on the queue, in what it is handed, and in the
jobs that it does (`Crew.actsOf`).  In any run this is a sequence of rounds, each with a lease, the
job done and one report or else nothing but a request that gets no job, and then the beginning of one
more round (`exists_rounds`); no worker can leave a round out or begin two.  Therefore the leases are
as many as the reports and the workers that are at a job (`Counted`).  The main statement is
`one_report_per_lease`.
-/

namespace PageHarvest

open Queue (Call)

/-! ### What workers do -/

/-- What is seen of a worker: a call on the queue with the job that it gets by it, and a job done. -/
inductive Act
  | call (c : Call) (leased : Option Job)
  | deed (job : Job) (outcome : Except Failure String)

/-- A round of a worker: there is no job for it, or it has one and does it. -/
inductive Round
  | idle
  | lease (job : Job) (outcome : Except Failure String)

/-- What is seen of a round. -/
def Round.acts : Round → List Act
  | idle => [.call .acquire none]
  | lease job outcome =>
    [.call .acquire (some job), .deed job outcome, .call (.ofOutcome job.id outcome) none]

/-- What is seen of a round that has not ended. -/
def Post.acts : Post → List Act
  | free => []
  | busy job _ => [.call .acquire (some job)]
  | done job _ outcome => [.call .acquire (some job), .deed job outcome]

/-- The number of reports made. -/
def Queue.reportCalls (q : Queue) : Nat := q.completedCalls.length + q.failedCalls.length

namespace Crew

variable {ι : Type}

/-- The worker that does something. -/
def Event.worker? : Event ι → Option ι
  | acquire w | handle w _ | report w => some w
  | call _ => none

/-- What was done from one point of a run to a later one. -/
def actsUntil (crew later : Crew ι) : List Act :=
  (later.calls.drop crew.calls.length).map
      (fun call => .call call.2 (call.2.leased? call.1 crew.queue)) ++
    (later.deeds.drop crew.deeds.length).map fun deed => .deed deed.1 deed.2

/-- What a worker does in a run. -/
def actsOf [DecidableEq ι] (w : ι) (crew : Crew ι) : List (Time.Instant × Event ι) → List Act
  | [] => []
  | (now, e) :: events =>
    match crew.step now e with
    | none => []
    | some later =>
      (if e.worker? = some w then crew.actsUntil later else []) ++ actsOf w later events

/-- The workers that have a job. -/
def engaged (crew : Crew ι) : Set ι := fun w => crew.posts w ≠ .free

end Crew

/-! ### One step -/

namespace Queue

variable {q : Queue} {now : Time.Instant} {c : Call}

/-- Each report is counted, whether it is taken or not, and nothing else is. -/
theorem reportCalls_on (q : Queue) (now : Time.Instant) (c : Call) :
    (c.on now q).reportCalls = q.reportCalls + c.isReport.toNat := by
  cases c with
  | acquire =>
    rw [Call.on, acquire_frame]
    rfl
  | complete id key =>
    rw [Call.on, complete_frame]
    simp only [reportCalls, List.length_append, List.length_singleton, Call.isReport,
      Bool.toNat_true]
    omega
  | fail id message =>
    rw [Call.on, fail_frame]
    simp only [reportCalls, List.length_append, List.length_singleton, Call.isReport,
      Bool.toNat_true]
    omega
  | _ => rfl

theorem isReport_ofOutcome (id : Uuid) (outcome : Except Failure String) :
    (Call.ofOutcome id outcome).isReport = true := by
  cases outcome <;> rfl

theorem ofOutcome_ne_acquire (id : Uuid) (outcome : Except Failure String) :
    Call.ofOutcome id outcome ≠ .acquire := by
  cases outcome <;> simp [Call.ofOutcome]

theorem leased?_ofOutcome (id : Uuid) (outcome : Except Failure String) :
    (Call.ofOutcome id outcome).leased? now q = none := by
  cases outcome <;> rfl

end Queue

namespace Crew

variable {ι : Type} {q : Queue} {crew crew' : Crew ι} {now : Time.Instant} {e : Event ι} {w : ι}
  {post : Post} {events : List (Time.Instant × Event ι)}

theorem mem_engaged : w ∈ crew.engaged ↔ crew.posts w ≠ .free := Iff.rfl

theorem actsUntil_call (now : Time.Instant) (c : Call) (crew : Crew ι) :
    crew.actsUntil (crew.call now c) = [.call c (c.leased? now crew.queue)] := by
  rw [actsUntil, calls_call, deeds_call, List.drop_left, List.drop_length]
  rfl

theorem actsUntil_record (deed : Job × Except Failure String) (crew : Crew ι) :
    crew.actsUntil (crew.record deed) = [.deed deed.1 deed.2] := by
  rw [actsUntil, calls_record, deeds_record, List.drop_length, List.drop_left]
  rfl

section Rounds

variable [DecidableEq ι]

/-- Putting a worker to something else is not seen. -/
theorem actsUntil_put (crew later : Crew ι) (w : ι) (post : Post) :
    crew.actsUntil (later.put w post) = crew.actsUntil later := rfl

theorem put_record (deed : Job × Except Failure String) (w : ι) (post : Post) (crew : Crew ι) :
    (crew.put w post).record deed = (crew.record deed).put w post := rfl

/-- A worker stays at its post while another one does something. -/
theorem posts_of_other (hs : Steps now crew e crew') (he : e.worker? ≠ some w) :
    crew'.posts w = crew.posts w := by
  have hother : ∀ {v : ι} {post : Post}, Event.worker? (.acquire v) ≠ some w →
      Function.update crew.posts v post w = crew.posts w := by
    intro v post hv
    have hne : w ≠ v := fun h => hv (by rw [h]; rfl)
    exact Function.update_of_ne hne _ _
  cases hs with
  | asks free none => rfl
  | leases free leased => exact hother he
  | handles busy => exact hother he
  | reports done => exact hother he
  | calls => rfl

/-- A step of a worker goes on with the round that it is in, or ends it, or is a round without a job.
A step of another one leaves it at its post. -/
theorem round_of_steps (w : ι) (hs : Steps now crew e crew') : ∃ rounds : List Round,
    (crew.posts w).acts ++ (if e.worker? = some w then crew.actsUntil crew' else [])
      = rounds.flatMap Round.acts ++ (crew'.posts w).acts := by
  -- A step of this worker, or one of somebody else.
  by_cases hw : e.worker? = some w
  · rw [if_pos hw]
    cases hs with
    | asks free none =>
      obtain rfl := Option.some.inj hw
      refine ⟨[.idle], ?_⟩
      rw [actsUntil_call, posts_call, free, none]
      rfl
    | leases free leased =>
      obtain rfl := Option.some.inj hw
      refine ⟨[], ?_⟩
      rw [actsUntil_put, actsUntil_call, posts_put, Function.update_self, free, leased]
      rfl
    | handles busy =>
      obtain rfl := Option.some.inj hw
      refine ⟨[], ?_⟩
      rw [put_record, actsUntil_put, actsUntil_record, posts_put, Function.update_self, busy]
      rfl
    | @reports _ job lease outcome done =>
      obtain rfl := Option.some.inj hw
      refine ⟨[.lease job outcome], ?_⟩
      rw [actsUntil_put, actsUntil_call, posts_put, Function.update_self, done,
        Queue.leased?_ofOutcome]
      rfl
    | calls => exact absurd hw (by simp [Event.worker?])
  · rw [if_neg hw, posts_of_other hs hw, List.append_nil]
    exact ⟨[], rfl⟩

/-- **Rounds.**  What a worker does in a run, after what it had begun, is a sequence of rounds and
the beginning of another one. -/
theorem exists_rounds (w : ι) (hrun : crew.run events = some crew') : ∃ rounds : List Round,
    (crew.posts w).acts ++ crew.actsOf w events
      = rounds.flatMap Round.acts ++ (crew'.posts w).acts := by
  induction events generalizing crew with
  | nil =>
    obtain rfl := Option.some.inj hrun
    exact ⟨[], by rw [actsOf, List.append_nil, List.flatMap_nil, List.nil_append]⟩
  | cons event events ih =>
    obtain ⟨now, e⟩ := event
    rw [run, Option.bind_eq_some_iff] at hrun
    obtain ⟨later, hstep, hrest⟩ := hrun
    obtain ⟨first, hfirst⟩ := round_of_steps w (steps_of_step hstep)
    obtain ⟨rest, hrounds⟩ := ih hrest
    -- The rounds ended by this step, and then those that the rest of the run ends.
    refine ⟨first ++ rest, ?_⟩
    rw [actsOf, hstep, List.flatMap_append, List.append_assoc, ← hrounds, ← List.append_assoc,
      hfirst, List.append_assoc]

end Rounds

/-! ### The number of leases -/

section Engaged

variable [DecidableEq ι]

/-- A worker put to a job is at a job from then on. -/
theorem engaged_put (hpost : post ≠ .free) (w : ι) (crew : Crew ι) :
    (crew.put w post).engaged = insert w crew.engaged := by
  ext v
  rw [Set.mem_insert_iff, mem_engaged, mem_engaged, posts_put]
  by_cases hv : v = w
  · subst hv
    simp [hpost]
  · simp [hv]

/-- A worker that is free is at no job any more. -/
theorem engaged_put_free (w : ι) (crew : Crew ι) :
    (crew.put w .free).engaged = crew.engaged \ {w} := by
  ext v
  rw [Set.mem_sdiff, Set.mem_singleton_iff, mem_engaged, mem_engaged, posts_put]
  by_cases hv : v = w
  · subst hv
    simp
  · simp [hv]

end Engaged

/-- What holds at every point of a run that began with the queue `q` and in which only workers ask for
jobs and report on them. -/
structure Counted (q : Queue) (crew : Crew ι) : Prop where
  queue : crew.queue = q.after crew.calls
  finite : crew.engaged.Finite
  count : crew.queue.reportCalls + crew.engaged.ncard
    = q.reportCalls + (q.grants crew.calls).length

namespace Counted

theorem start (q : Queue) : Counted q (Crew.start q : Crew ι) := by
  have hnone : (Crew.start q : Crew ι).engaged = ∅ := by
    ext w
    simp [mem_engaged, Crew.start]
  refine ⟨rfl, ?_, ?_⟩
  · rw [hnone]
    exact Set.finite_empty
  · rw [hnone, Set.ncard_empty]
    rfl

/-- A call moves the two sides of the account by what it is itself. -/
theorem account_call (h : Counted q crew) (now : Time.Instant) (c : Call) :
    (crew.call now c).queue = q.after (crew.call now c).calls ∧
      (crew.call now c).queue.reportCalls = crew.queue.reportCalls + c.isReport.toNat ∧
      (q.grants (crew.call now c).calls).length
        = (q.grants crew.calls).length + (c.granted now crew.queue).length := by
  refine ⟨?_, Queue.reportCalls_on crew.queue now c, ?_⟩
  · rw [queue_call, calls_call, Queue.after_append, ← h.queue]
    rfl
  · rw [calls_call, Queue.grants_append, ← h.queue, Queue.grants, Queue.grants, List.append_nil,
      List.length_append]

/-- A call that hands out nothing and is no report. -/
theorem call (h : Counted q crew) {c : Call} (hr : c.isReport = false)
    (hg : c.granted now crew.queue = []) : Counted q (crew.call now c) := by
  obtain ⟨hqueue, hreports, hgrants⟩ := h.account_call now c
  refine ⟨hqueue, h.finite, ?_⟩
  have hcount := h.count
  rw [hreports, hgrants, hr, hg]
  exact hcount

variable [DecidableEq ι]

/-- A worker that is handed a job is one more at a job, for one more lease. -/
theorem leases (h : Counted q crew) {job : Job} (free : crew.posts w = .free)
    (leased : Call.acquire.leased? now crew.queue = some job) (lease : Nat) :
    Counted q ((crew.call now .acquire).put w (.busy job lease)) := by
  obtain ⟨hqueue, hreports, hgrants⟩ := h.account_call now .acquire
  have hgranted : (Call.acquire.granted now crew.queue).length = 1 := by
    rw [Call.granted, leased]
    rfl
  have hengaged : ((crew.call now .acquire).put w (.busy job lease)).engaged
      = insert w crew.engaged := engaged_put (by simp) w _
  have hnot : w ∉ crew.engaged := fun hw => hw free
  refine ⟨hqueue, ?_, ?_⟩
  · rw [hengaged]
    exact h.finite.insert w
  · rw [hengaged, Set.ncard_insert_of_notMem hnot h.finite, queue_put, calls_put, hreports, hgrants,
      hgranted]
    have hcount := h.count
    have hplain : Call.acquire.isReport.toNat = 0 := rfl
    omega

/-- A worker that does its job is still at it. -/
theorem handles (h : Counted q crew) {job : Job} {lease : Nat} {outcome : Except Failure String}
    (busy : crew.posts w = .busy job lease) :
    Counted q ((crew.put w (.done job lease outcome)).record (job, outcome)) := by
  -- The worker had the job before and still has it.
  have hengaged : ((crew.put w (.done job lease outcome)).record (job, outcome)).engaged
      = crew.engaged := by
    have hput : (crew.put w (.done job lease outcome)).engaged = insert w crew.engaged :=
      engaged_put (by simp) w crew
    have hmem : w ∈ crew.engaged := by
      rw [mem_engaged, busy]
      simp
    rw [Set.insert_eq_of_mem hmem] at hput
    exact hput
  refine ⟨h.queue, ?_, ?_⟩
  · rw [hengaged]
    exact h.finite
  · rw [hengaged]
    exact h.count

/-- A worker that reports is one less at a job, for one more report. -/
theorem reports (h : Counted q crew) {job : Job} {lease : Nat} {outcome : Except Failure String}
    (done : crew.posts w = .done job lease outcome) :
    Counted q ((crew.call now (.ofOutcome job.id outcome)).put w .free) := by
  obtain ⟨hqueue, hreports, hgrants⟩ := h.account_call now (.ofOutcome job.id outcome)
  have hengaged : ((crew.call now (.ofOutcome job.id outcome)).put w .free).engaged
      = crew.engaged \ {w} := engaged_put_free w _
  have hmem : w ∈ crew.engaged := by
    rw [mem_engaged, done]
    simp
  refine ⟨hqueue, ?_, ?_⟩
  · rw [hengaged]
    exact h.finite.sdiff
  · have hone := Set.ncard_sdiff_singleton_add_one hmem h.finite
    have hcount := h.count
    rw [hengaged, queue_put, calls_put, hreports, hgrants, Queue.isReport_ofOutcome,
      Queue.granted_of_not_acquire (Queue.ofOutcome_ne_acquire job.id outcome), Bool.toNat_true,
      List.length_nil]
    omega

/-- Every step keeps the count. -/
theorem of_steps (h : Counted q crew) (he : e.within Call.isAside = true)
    (hs : Steps now crew e crew') : Counted q crew' := by
  cases hs with
  | asks free none => exact h.call rfl (by rw [Call.granted, none]; rfl)
  | leases free leased => exact h.leases free leased _
  | handles busy => exact h.handles busy
  | reports done => exact h.reports done
  | @calls c =>
    have haside : c.isAside = true := he
    refine h.call ?_ (Queue.granted_of_not_acquire ?_)
    · cases c with
      | complete | fail => exact absurd haside (by simp [Call.isAside])
      | _ => rfl
    · rintro rfl
      exact absurd haside (by simp [Call.isAside])

end Counted

end Crew

/-! ### Polling -/

namespace Worker

variable {σ : Type} {now : Time.Instant} {s : Site Queue σ} {job : Job}

/-- A poll that gets a job does it once and makes the one report that goes with the outcome. -/
theorem poll_of_leased (w : Worker) (handler : Handler σ)
    (h : Call.acquire.leased? now s.queue = some job) :
    (w.poll Queue.leasing handler now s).1 = .processed job.id ∧
      (w.poll Queue.leasing handler now s).2.world = (handler job s.world).world ∧
      (w.poll Queue.leasing handler now s).2.queue
        = (Call.ofOutcome job.id (handler job s.world).outcome).on now
            (Call.acquire.on now s.queue) := by
  rcases hq : s.queue.acquire now with ⟨failure | leased, queue⟩
  -- During an outage nothing is handed out.
  · exact absurd h (by simp [Call.leased?, hq])
  · obtain rfl : leased = some job := by simpa [Call.leased?, hq] using h
    refine ⟨?_, ?_, ?_⟩
    · simp [poll, Queue.leasing, hq]
    · simp [poll, Queue.leasing, hq, process]
    · rw [Call.on, hq, ← Crew.report_eq_on]
      simp [poll, Queue.leasing, hq, process]

/-- A poll that gets no job does nothing and makes no report. -/
theorem poll_of_not_leased (w : Worker) (handler : Handler σ)
    (h : Call.acquire.leased? now s.queue = none) :
    (∀ id, (w.poll Queue.leasing handler now s).1 ≠ .processed id) ∧
      (w.poll Queue.leasing handler now s).2.world = s.world ∧
      (w.poll Queue.leasing handler now s).2.queue = Call.acquire.on now s.queue := by
  rcases hq : s.queue.acquire now with ⟨failure | leased, queue⟩
  · simp [poll, Queue.leasing, hq, Call.on, Site.say]
  · obtain rfl : leased = none := by simpa [Call.leased?, hq] using h
    simp [poll, Queue.leasing, hq, Call.on]

end Worker

/-- **One report for each lease.**  Workers share a queue, their steps come in any order, and others
call in between, so that leases are taken back, requests for jobs fail and reports are refused.  In
any run what a worker does is a sequence of rounds and perhaps the beginning of one more, and a round
with a lease is the job done once and then the one report that goes with how it ended.  If only
workers ask for jobs and report, the reports and the workers that have a job are at any point as many
as the leases.  A poll is such a round: if it gets a job, the job is done and reported on, and if it
gets none, nothing is done or reported. -/
theorem one_report_per_lease {ι : Type} [DecidableEq ι] (q : Queue)
    (events : List (Time.Instant × Crew.Event ι)) (crew : Crew ι)
    (hrun : (Crew.start q).run events = some crew) :
    (∀ w, ∃ rounds : List Round, (Crew.start q).actsOf w events
      = rounds.flatMap Round.acts ++ (crew.posts w).acts) ∧
    ((∀ e ∈ events, e.2.within Call.isAside = true) →
      crew.engaged.Finite ∧ crew.queue.reportCalls + crew.engaged.ncard
        = q.reportCalls + (q.grants crew.calls).length) ∧
    (∀ {σ : Type} (worker : Worker) (handler : Handler σ) (now : Time.Instant)
      (s : Worker.Site Queue σ),
      (∀ job, Call.acquire.leased? now s.queue = some job →
        (worker.poll Queue.leasing handler now s).1 = .processed job.id ∧
        (worker.poll Queue.leasing handler now s).2.world = (handler job s.world).world ∧
        (worker.poll Queue.leasing handler now s).2.queue
          = (Call.ofOutcome job.id (handler job s.world).outcome).on now
              (Call.acquire.on now s.queue)) ∧
      (Call.acquire.leased? now s.queue = none →
        (∀ id, (worker.poll Queue.leasing handler now s).1 ≠ .processed id) ∧
        (worker.poll Queue.leasing handler now s).2.world = s.world ∧
        (worker.poll Queue.leasing handler now s).2.queue = Call.acquire.on now s.queue)) := by
  refine ⟨?_, ?_, ?_⟩
  · intro w
    exact Crew.exists_rounds w hrun
  · intro hkind
    have h : crew.Counted q := Crew.holds_of_run Crew.Counted.of_steps hrun hkind (.start q)
    exact ⟨h.finite, h.count⟩
  · intro σ worker handler now s
    exact ⟨fun job => worker.poll_of_leased handler, worker.poll_of_not_leased handler⟩

/-- One pending job. -/
private def lone : Queue where
  rows := [{ (default : Job) with id := .nil }]

/-- A worker meets an outage, then leases the job and cannot do it, and its report is refused; the
job is taken back, and another worker leases it. -/
private def mishaps : List (Time.Instant × Crew.Event Bool) :=
  [(default, .call (.failNextAcquires 1)), (default, .acquire true), (default, .acquire true),
    (default, .call (.failReports true)), (default, .handle true (.error ⟨"no page", []⟩)),
    (default, .report true), (default, .call (.backdateLease .nil (.ofSeconds 7200))),
    (default, .call (.requeueStale (.ofSeconds 3600))), (default, .acquire false)]

/-- The queue before a worker whose jobs succeed. -/
private def calm : Worker.Site Queue Handler.Outcomes where
  queue := lone
  world := { outcomes := [] }

/-- Two leases: one worker has made its report, the other one has the job; and a poll of the queue as
it was at first does the job and reports on it. -/
theorem one_report_per_lease_lone : ∃ crew, (Crew.start lone).run mishaps = some crew ∧
    (∃ rounds : List Round, (Crew.start lone).actsOf true mishaps
      = rounds.flatMap Round.acts ++ (crew.posts true).acts) ∧
    crew.queue.reportCalls + crew.engaged.ncard = 2 ∧
    (Worker.poll { name := "w" } Queue.leasing (Handler.ofOutcomes ⟨0⟩) default calm).1
      = .processed .nil := by
  refine ⟨_, rfl, ?_⟩
  obtain ⟨hrounds, hcount, hpoll⟩ := one_report_per_lease lone mishaps _ rfl
  refine ⟨hrounds true, ?_, ?_⟩
  · exact (hcount (by decide +kernel)).2
  · obtain ⟨hleased, -⟩ := hpoll { name := "w" } (Handler.ofOutcomes ⟨0⟩) default calm
    exact (hleased _ rfl).1

end PageHarvest
