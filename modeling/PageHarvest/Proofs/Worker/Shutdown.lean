import PageHarvest.Proofs.Queue.Leases
import PageHarvest.Proofs.Worker.Crew
import PageHarvest.Worker.Shared

/-!
# Workers that are told to stop

A worker that runs until it is told to stop asks for jobs at a number of sites (`Worker.asks`), and
what it does at each of them is one round (`round_of_leased`, `round_of_unleased`).  A round brings
the stop nearer or uses up a lease (`left_round`), so that the rounds go on until the stop
(`stop_le_elapsed_rounds`); it is the last one of them that tells when the worker ends
(`rounds_eq_asks`).  What becomes of a job after its report rests on the calls made since then
(`Shared.Follows`).  The main statement is `run_until_stopped`.
-/

namespace PageHarvest

open Queue (Call Calls)

/-! ### Shared queues -/

namespace Shared

variable {s s' s'' : Shared} {now : Time.Instant} {c : Call}

@[simp] theorem first_call (now : Time.Instant) (c : Call) (s : Shared) :
    (s.call now c).first = s.first := rfl

@[simp] theorem own_call (now : Time.Instant) (c : Call) (s : Shared) :
    (s.call now c).own = s.own ++ [c] := rfl

@[simp] theorem others_call (now : Time.Instant) (c : Call) (s : Shared) :
    (s.call now c).others = s.others.tail := rfl

/-- A call finds the queue as it was awaited. -/
theorem queue_call (now : Time.Instant) (c : Call) (s : Shared) :
    (s.call now c).queue = c.on now s.awaited := by
  rw [queue, call, Queue.after_append, Queue.after_append]
  rfl

/-- What came of asking for a job, as it is told by the call. -/
theorem leased?_acquire (now : Time.Instant) (s : Shared) (job : Job) :
    (leasing.acquire now s).1 = .ok (some job) ↔ Call.acquire.leased? now s.awaited = some job := by
  rw [Call.leased?]
  show (s.awaited.acquire now).1 = _ ↔ _
  cases (s.awaited.acquire now).1 <;> simp

/-- A report of a worker is a call. -/
theorem report_eq_call (now : Time.Instant) (job : Job) (outcome : Except Failure String)
    (s : Shared) : (Worker.report leasing now job outcome s).1
      = s.call now (.ofOutcome job.id outcome) :=
  Worker.report_eq (Shared.call now) (fun _ _ _ => rfl) (fun _ _ _ => rfl) job outcome s

/-! ### Later points -/

/-- The queue has come from the other one by calls. -/
def Follows (s s' : Shared) : Prop :=
  s'.first = s.first ∧ ∃ more, s'.calls = s.calls ++ more

theorem Follows.refl (s : Shared) : s.Follows s := ⟨rfl, [], (List.append_nil _).symm⟩

theorem Follows.trans (h : s.Follows s') (h' : s'.Follows s'') : s.Follows s'' := by
  obtain ⟨hfirst, more, hcalls⟩ := h
  obtain ⟨hfirst', more', hcalls'⟩ := h'
  exact ⟨hfirst'.trans hfirst, more ++ more', by rw [hcalls', hcalls, List.append_assoc]⟩

theorem follows_call (now : Time.Instant) (c : Call) (s : Shared) : s.Follows (s.call now c) :=
  ⟨rfl, s.others.headD [] ++ [(now, c)], by rw [call, List.append_assoc]⟩

/-- The later queue is the earlier one after the calls made in between. -/
theorem Follows.queue_eq (h : s.Follows s') :
    s'.queue = s.queue.after (s'.calls.drop s.calls.length) := by
  obtain ⟨hfirst, more, hcalls⟩ := h
  rw [queue, queue, hfirst, hcalls, List.drop_left, Queue.after_append]

/-- The jobs of the queue stay distinct. -/
theorem distinct_awaited (s : Shared) (h : s.first.Distinct) : s.awaited.Distinct :=
  Queue.distinct_after (Queue.distinct_after h s.calls) _

/-! ### Leases ahead -/

theorem length_rows (s : Shared) : s.queue.rows.length = s.first.rows.length :=
  Queue.length_rows_after s.first s.calls

/-- What the others ask before the next call is accounted for. -/
theorem pending_awaited_le (s : Shared) :
    s.awaited.pendingIds.length + s.first.rows.length * s.others.tail.length ≤ s.leasesAhead := by
  rw [awaited, leasesAhead]
  cases s.others with
  | nil => exact Nat.le_refl _
  | cons calls others =>
    -- Whatever the others ask, no more jobs are pending then than there are.
    have hpending := Queue.length_pendingIds_le (s.queue.after calls)
    rw [Queue.length_rows_after, length_rows] at hpending
    rw [List.headD_cons, List.tail_cons, List.length_cons, Nat.mul_succ]
    omega

/-- A lease is one of those that were ahead. -/
theorem leasesAhead_acquire (now : Time.Instant) (s : Shared) :
    (s.call now .acquire).leasesAhead + (Call.acquire.leased? now s.awaited).toList.length
      ≤ s.leasesAhead := by
  have hpending := Queue.length_pendingIds_acquire s.awaited now
  have hawaited := s.pending_awaited_le
  rw [leasesAhead, queue_call, first_call, others_call]
  omega

/-- A report brings no new leases. -/
theorem leasesAhead_report (now : Time.Instant) (id : Uuid) (outcome : Except Failure String)
    (s : Shared) : (s.call now (.ofOutcome id outcome)).leasesAhead ≤ s.leasesAhead := by
  have hpending := Queue.length_pendingIds_report s.awaited now id outcome
  have hawaited := s.pending_awaited_le
  rw [leasesAhead, queue_call, first_call, others_call]
  omega

end Shared

namespace Worker

/-! ### Asking for jobs -/

section Asks

variable {τ σ : Type}

/-- The sites at which a worker asks for a job in at most `n` rounds. -/
def asks (w : Worker) (leasing : Leasing τ) (handler : Handler σ) (now : Time.Instant)
    (stop : Time.Span) : Nat → Site τ σ → List (Site τ σ)
  | 0, _ => []
  | n + 1, s =>
    if stop.nanos ≤ s.elapsed.nanos then []
    else s :: asks w leasing handler now stop n (w.round leasing handler now stop s)

variable {w : Worker} {leasing : Leasing τ} {handler : Handler σ} {now : Time.Instant}
  {stop : Time.Span} {n : Nat} {s b : Site τ σ}

theorem mem_asks_succ : b ∈ w.asks leasing handler now stop (n + 1) s ↔
    s.elapsed.nanos < stop.nanos ∧
      (b = s ∨ b ∈ w.asks leasing handler now stop n (w.round leasing handler now stop s)) := by
  rw [asks]
  split
  · next hstop => exact ⟨fun hb => absurd hb List.not_mem_nil, fun hb => absurd hb.1 (by omega)⟩
  · next hstop => rw [List.mem_cons, and_iff_right (by omega)]

/-- A worker asks for a job only before the stop. -/
theorem elapsed_lt_of_mem_asks (hb : b ∈ w.asks leasing handler now stop n s) :
    b.elapsed.nanos < stop.nanos := by
  induction n generalizing s with
  | zero => exact absurd hb List.not_mem_nil
  | succ n ih =>
    obtain ⟨hbefore, rfl | hb⟩ := mem_asks_succ.1 hb
    · exact hbefore
    · exact ih hb

/-- The rounds end with the one that begins at the last of the sites. -/
theorem rounds_eq_asks (n : Nat) (s : Site τ σ) : w.rounds leasing handler now stop n s
    = ((w.asks leasing handler now stop n s).getLast?.map
        (w.round leasing handler now stop)).getD s := by
  induction n generalizing s with
  | zero => rfl
  | succ n ih =>
    rw [rounds, asks]
    split
    · rfl
    · rw [ih, List.getLast?_cons]
      cases (w.asks leasing handler now stop n (w.round leasing handler now stop s)).getLast? <;> rfl

/-- A worker that has rounds left asks for a job unless the stop has come. -/
theorem asks_eq_nil_iff (hn : s.elapsed.nanos < stop.nanos → n ≠ 0) :
    w.asks leasing handler now stop n s = [] ↔ stop.nanos ≤ s.elapsed.nanos := by
  cases n with
  | zero =>
    have hle : stop.nanos ≤ s.elapsed.nanos := Nat.not_lt.1 fun hlt => hn hlt rfl
    exact ⟨fun _ => hle, fun _ => rfl⟩
  | succ n =>
    rw [asks]
    split
    · next hle => exact ⟨fun _ => hle, fun _ => rfl⟩
    · next hnot => exact ⟨fun h => absurd h (List.cons_ne_nil _ _), fun hle => absurd hle hnot⟩

end Asks

/-! ### One round -/

section Round

variable {σ : Type} {w : Worker} {handler : Handler σ} {now : Time.Instant} {stop : Time.Span}
  {n : Nat} {s b : Site Shared σ} {job : Job}

/-- The job that a worker is given that asks for one at the site. -/
def Site.leased? (now : Time.Instant) (s : Site Shared σ) : Option Job :=
  Call.acquire.leased? now s.queue.awaited

/-- The pause of a worker that asks for a job at the site and is given none. -/
def pauseAt (w : Worker) (s : Site Shared σ) : Time.Span :=
  if 0 < s.queue.awaited.outages then w.errorBackoff else w.pollInterval

/-- The shared queue after the lease of a job at the site and the report on how it ended. -/
def Site.reported (handler : Handler σ) (now : Time.Instant) (job : Job) (s : Site Shared σ) :
    Shared :=
  (s.queue.call now .acquire).call now (.ofOutcome job.id (handler job s.world).outcome)

/-- The calls of a worker that asks for a job at the site. -/
def Site.ownCalls (handler : Handler σ) (now : Time.Instant) (s : Site Shared σ) : List Call :=
  .acquire :: (s.leased? now).toList.map fun job =>
    Call.ofOutcome job.id (handler job s.world).outcome

/-- A job that is leased is done, and then there is a report on it. -/
theorem round_of_leased (h : s.leased? now = some job) :
    (w.round Shared.leasing handler now stop s).queue = s.reported handler now job ∧
      (w.round Shared.leasing handler now stop s).world = (handler job s.world).world ∧
      (w.round Shared.leasing handler now stop s).elapsed
        = ⟨s.elapsed.nanos + (handler job s.world).took.nanos⟩ := by
  have hacquire : Shared.leasing.acquire now s.queue
      = (.ok (some job), s.queue.call now .acquire) :=
    Prod.ext ((Shared.leased?_acquire now s.queue job).2 h) rfl
  simp only [round, poll, hacquire, pause, process]
  refine ⟨?_, trivial, trivial⟩
  rw [Shared.report_eq_call]
  rfl

/-- Without a job there is a pause, which ends with the stop. -/
theorem round_of_unleased (h : s.leased? now = none) :
    (w.round Shared.leasing handler now stop s).queue = s.queue.call now .acquire ∧
      (w.round Shared.leasing handler now stop s).world = s.world ∧
      (w.round Shared.leasing handler now stop s).elapsed
        = ⟨s.elapsed.nanos + min (w.pauseAt s).nanos (stop.nanos - s.elapsed.nanos)⟩ := by
  rw [Site.leased?, Queue.leased?_acquire] at h
  have hacquire : Shared.leasing.acquire now s.queue
      = ((s.queue.awaited.acquire now).1, s.queue.call now .acquire) := rfl
  -- There are two ways to be given no job, each with its own pause.
  by_cases hout : 0 < s.queue.awaited.outages
  · rw [Queue.acquire_of_outage hout] at hacquire
    simp only [round, poll, hacquire, pause, pauseAt, if_pos hout]
    exact ⟨rfl, rfl, rfl⟩
  · rw [if_neg hout, Option.map_eq_none_iff] at h
    rw [Queue.acquire_of_no_outage (by omega), h] at hacquire
    simp only [round, poll, hacquire, Option.map_none, pause, pauseAt, if_neg hout]
    exact ⟨rfl, rfl, rfl⟩

theorem own_round (s : Site Shared σ) : (w.round Shared.leasing handler now stop s).queue.own
    = s.queue.own ++ s.ownCalls handler now := by
  rw [Site.ownCalls]
  cases h : s.leased? now with
  | none =>
    rw [(round_of_unleased h).1]
    rfl
  | some job =>
    rw [(round_of_leased h).1, Site.reported, Shared.own_call, Shared.own_call, List.append_assoc]
    rfl

theorem follows_round (s : Site Shared σ) :
    s.queue.Follows (w.round Shared.leasing handler now stop s).queue := by
  cases h : s.leased? now with
  | none =>
    rw [(round_of_unleased h).1]
    exact Shared.follows_call now .acquire s.queue
  | some job =>
    rw [(round_of_leased h).1]
    exact (Shared.follows_call now .acquire s.queue).trans (Shared.follows_call ..)

/-- A round brings the stop nearer, or else it uses up a lease. -/
theorem left_round (hpoll : 0 < w.pollInterval.nanos) (hbackoff : 0 < w.errorBackoff.nanos)
    (hs : s.elapsed.nanos < stop.nanos) :
    (stop.nanos - (w.round Shared.leasing handler now stop s).elapsed.nanos)
        + (w.round Shared.leasing handler now stop s).queue.leasesAhead
      < (stop.nanos - s.elapsed.nanos) + s.queue.leasesAhead := by
  have hacquire := Shared.leasesAhead_acquire now s.queue
  cases h : s.leased? now with
  | none =>
    have hpause : 0 < (w.pauseAt s).nanos := by
      rw [pauseAt]
      split
      · exact hbackoff
      · exact hpoll
    rw [(round_of_unleased h).1, (round_of_unleased h).2.2]
    dsimp only
    omega
  | some job =>
    have hreport := Shared.leasesAhead_report now job.id (handler job s.world).outcome
      (s.queue.call now .acquire)
    rw [Site.leased?] at h
    rw [h, Option.toList_some, List.length_singleton] at hacquire
    rw [(round_of_leased h).1, (round_of_leased h).2.2, Site.reported]
    dsimp only
    omega

/-! ### All rounds -/

/-- The rounds go on until the stop. -/
theorem stop_le_elapsed_rounds (hpoll : 0 < w.pollInterval.nanos)
    (hbackoff : 0 < w.errorBackoff.nanos)
    (hn : (stop.nanos - s.elapsed.nanos) + s.queue.leasesAhead ≤ n) :
    stop.nanos ≤ (w.rounds Shared.leasing handler now stop n s).elapsed.nanos := by
  induction n generalizing s with
  | zero =>
    rw [rounds]
    omega
  | succ n ih =>
    rw [rounds]
    split
    · next hstop => exact hstop
    · next hstop =>
      -- The round was one of those that the time and the leases allow for.
      refine ih (Nat.le_of_lt_succ (Nat.lt_of_lt_of_le ?_ hn))
      exact left_round hpoll hbackoff (Nat.not_le.1 hstop)

/-- The rounds end with the report on the job that was leased last, or right at the stop. -/
theorem elapsed_rounds_of_last (hb : b ∈ (w.asks Shared.leasing handler now stop n s).getLast?)
    (hstop : stop.nanos ≤ (w.rounds Shared.leasing handler now stop n s).elapsed.nanos) :
    match b.leased? now with
    | some job => (w.rounds Shared.leasing handler now stop n s).elapsed.nanos
        = b.elapsed.nanos + (handler job b.world).took.nanos
    | none => (w.rounds Shared.leasing handler now stop n s).elapsed = stop ∧
        stop.nanos ≤ b.elapsed.nanos + (w.pauseAt b).nanos := by
  have hlast : w.rounds Shared.leasing handler now stop n s
      = w.round Shared.leasing handler now stop b := by
    rw [rounds_eq_asks, Option.mem_def.1 hb]
    rfl
  have hbefore := elapsed_lt_of_mem_asks (List.mem_of_getLast? hb)
  rw [hlast] at hstop ⊢
  cases h : b.leased? now with
  | some job =>
    dsimp only
    rw [(round_of_leased h).2.2]
  | none =>
    dsimp only
    rw [(round_of_unleased h).2.2] at hstop ⊢
    dsimp only at hstop ⊢
    have hend : b.elapsed.nanos + min (w.pauseAt b).nanos (stop.nanos - b.elapsed.nanos)
        = stop.nanos := by omega
    exact ⟨congrArg Time.Span.mk hend, by omega⟩

/-- The calls that the worker makes are those of its rounds. -/
theorem own_rounds (n : Nat) (s : Site Shared σ) :
    (w.rounds Shared.leasing handler now stop n s).queue.own
      = s.queue.own ++ (w.asks Shared.leasing handler now stop n s).flatMap
          (Site.ownCalls handler now) := by
  induction n generalizing s with
  | zero => exact (List.append_nil _).symm
  | succ n ih =>
    rw [rounds, asks]
    split
    · exact (List.append_nil _).symm
    · rw [ih, own_round, List.flatMap_cons, List.append_assoc]

theorem follows_rounds (n : Nat) (s : Site Shared σ) :
    s.queue.Follows (w.rounds Shared.leasing handler now stop n s).queue := by
  induction n generalizing s with
  | zero => exact .refl _
  | succ n ih =>
    rw [rounds]
    split
    · exact .refl _
    · exact (follows_round s).trans (ih _)

/-- Each of the rounds comes by calls from the beginning. -/
theorem follows_asks (hb : b ∈ w.asks Shared.leasing handler now stop n s) :
    s.queue.Follows b.queue := by
  induction n generalizing s with
  | zero => exact absurd hb List.not_mem_nil
  | succ n ih =>
    obtain ⟨-, rfl | hb⟩ := mem_asks_succ.1 hb
    · exact .refl _
    · exact (follows_round s).trans (ih hb)

/-- The end comes by calls from any of the rounds. -/
theorem follows_of_mem_asks (hb : b ∈ w.asks Shared.leasing handler now stop n s) :
    (w.round Shared.leasing handler now stop b).queue.Follows
      (w.rounds Shared.leasing handler now stop n s).queue := by
  induction n generalizing s with
  | zero => exact absurd hb List.not_mem_nil
  | succ n ih =>
    obtain ⟨hbefore, rfl | hb⟩ := mem_asks_succ.1 hb
    · rw [rounds, if_neg (by omega)]
      exact follows_rounds n _
    · rw [rounds, if_neg (by omega)]
      exact ih hb

/-- The jobs that are leased are done one after the other. -/
theorem world_rounds (n : Nat) (s : Site Shared σ) :
    (w.rounds Shared.leasing handler now stop n s).world
      = ((w.asks Shared.leasing handler now stop n s).filterMap (Site.leased? now)).foldl
          (fun world job => (handler job world).world) s.world := by
  induction n generalizing s with
  | zero => rfl
  | succ n ih =>
    rw [rounds, asks]
    split
    · rfl
    · rw [ih]
      cases h : s.leased? now with
      | none => rw [List.filterMap_cons_none h, (round_of_unleased h).2.1]
      | some job => rw [List.filterMap_cons_some h, (round_of_leased h).2.1, List.foldl_cons]

/-! ### Jobs after their reports -/

/-- Why a job that was leased at a site, from the place `i`, can still be being processed after the
report on it and later calls. -/
inductive Site.Unended (handler : Handler σ) (now : Time.Instant) (job : Job) (i : Nat)
    (s : Site Shared σ) (later : Calls) : Prop
  /-- The report was refused. -/
  | refused (refused : (s.queue.call now .acquire).awaited.refusesReports = true)
  /-- The report went to an earlier job with the same identifier. -/
  | misdirected {k : Job} (earlier : k ∈ (s.queue.call now .acquire).awaited.rows.take i)
    (id : k.id = job.id) (held : k.status = .processing)
  /-- The job was handed out again since. -/
  | superseded (again : (s.reported handler now job).queue.HandsOut i later)

/-- A lease is on the job at some place, and this job is not being processed once there was a report on
it, but for the reasons given. -/
theorem exists_place_of_leased {last : Shared} (h : b.leased? now = some job)
    (hlast : (b.reported handler now job).Follows last) :
    ∃ i j, b.queue.awaited.rows[i]? = some j ∧ Call.acquire.Turns now b.queue.awaited i j job ∧
      (b.queue.first.Distinct →
        ∀ k ∈ (b.queue.call now .acquire).awaited.rows.take i, k.id ≠ job.id) ∧
      ∀ later k, (last.queue.after later).rows[i]? = some k → k.status = .processing →
        b.Unended handler now job i
          (last.calls.drop (b.reported handler now job).calls.length ++ later) := by
  obtain ⟨i, j, hj, hturns⟩ := Queue.exists_turns_of_leased? h
  have hleased : (b.queue.call now .acquire).queue.rows[i]? = some job := by
    rw [Shared.queue_call]
    exact hturns.getElem?_on hj
  obtain ⟨held, hheld, hid⟩ := Queue.exists_id_after hleased
    ((b.queue.call now .acquire).others.headD [])
  refine ⟨i, j, hj, hturns, ?_, ?_⟩
  · intro hdistinct k hk
    rw [← hid]
    exact Queue.id_ne_of_mem_take ((b.queue.call now .acquire).distinct_awaited hdistinct) hheld hk
  · intro later k hk hprocessing
    by_cases hrefused : (b.queue.call now .acquire).awaited.refusesReports = true
    · exact .refused hrefused
    by_cases hearlier : ∃ k ∈ (b.queue.call now .acquire).awaited.rows.take i,
        k.id = job.id ∧ k.status = .processing
    · obtain ⟨k, hmem, hsame, hopen⟩ := hearlier
      exact .misdirected hmem hsame hopen
    -- The report ends what is being processed at the place, so that another lease must have come since.
    rw [← hid] at hearlier
    obtain ⟨ended, hended, hnot⟩ := Queue.not_processing_at_of_report now hheld
      (Bool.of_not_eq_true hrefused) (fun k hk hand => hearlier ⟨k, hk, hand⟩)
      (handler job b.world).outcome
    rw [hid] at hended
    have hreported : (b.reported handler now job).queue.rows[i]? = some ended := by
      rw [Site.reported, Shared.queue_call]
      exact hended
    rw [hlast.queue_eq, ← Queue.after_append] at hk
    exact .superseded (Queue.handsOut_of_processing hreported hnot hk hprocessing)

/-! ### A queue of its own -/

/-- The site with the queue alone. -/
def Site.unshared (s : Site Shared σ) : Site Queue σ :=
  { queue := s.queue.queue, world := s.world, elapsed := s.elapsed, log := s.log }

/-- Of a queue that nobody else uses a report makes the same, and the same is said about it. -/
theorem report_unshared (now : Time.Instant) {q : Shared} (hq : q.others = []) (job : Job)
    (outcome : Except Failure String) :
    (report Queue.leasing now job outcome q.queue).1
        = (report Shared.leasing now job outcome q).1.queue ∧
      (report Queue.leasing now job outcome q.queue).2
        = (report Shared.leasing now job outcome q).2 := by
  have hawaited : q.awaited = q.queue := by rw [Shared.awaited, hq]; rfl
  refine ⟨?_, ?_⟩
  · rw [Shared.report_eq_call, Shared.queue_call, hawaited, Crew.report_eq_on]
  · cases outcome with
    | ok key =>
      simp only [report, Queue.leasing, Shared.leasing, hawaited]
      cases (q.queue.complete now job.id key).1 <;> rfl
    | error failure =>
      simp only [report, Queue.leasing, Shared.leasing, hawaited]
      cases (q.queue.fail now job.id failure.text).1 <;> rfl

/-- A round on a queue that nobody else uses is a round on the queue alone. -/
theorem round_unshared (hs : s.queue.others = []) :
    (w.round Shared.leasing handler now stop s).unshared
        = w.round Queue.leasing handler now stop s.unshared ∧
      (w.round Shared.leasing handler now stop s).queue.others = [] := by
  have hothers : (s.queue.call now .acquire).others = [] := by rw [Shared.others_call, hs]; rfl
  have hawaited : s.queue.awaited = s.queue.queue := by rw [Shared.awaited, hs]; rfl
  rcases hq : s.queue.queue.acquire now with ⟨outcome, queue⟩
  have hshared : Shared.leasing.acquire now s.queue = (outcome, s.queue.call now .acquire) := by
    show ((s.queue.awaited.acquire now).1, _) = _
    rw [hawaited, hq]
  have halone : Queue.leasing.acquire now s.unshared.queue
      = (outcome, (s.queue.call now .acquire).queue) := by
    rw [Shared.queue_call, hawaited, Call.on, hq]
    exact hq
  rw [round, round, poll, poll, hshared, halone]
  rcases outcome with failure | (none | job)
  · exact ⟨rfl, hothers⟩
  · exact ⟨rfl, hothers⟩
  · obtain ⟨hqueue, hsaid⟩ := report_unshared now hothers job (handler job s.world).outcome
    refine ⟨?_, ?_⟩
    · simp only [pause, process, Site.unshared, hqueue, hsaid]
    · simp only [pause, process, Shared.report_eq_call, Shared.others_call, hs]
      rfl

/-- A run on a queue that nobody else uses is a run on the queue alone. -/
theorem run_unshared (hs : s.queue.others = []) (pending : Nat) :
    (w.run Shared.leasing handler now stop pending s).unshared
      = w.run Queue.leasing handler now stop pending s.unshared := by
  have hrounds : ∀ (stop : Time.Span) (n : Nat) (s : Site Shared σ), s.queue.others = [] →
      (w.rounds Shared.leasing handler now stop n s).unshared
        = w.rounds Queue.leasing handler now stop n s.unshared := by
    intro stop n s hs
    induction n generalizing s with
    | zero => rfl
    | succ n ih =>
      have helapsed : s.unshared.elapsed = s.elapsed := rfl
      rw [rounds, rounds, helapsed]
      split
      · rfl
      · rw [ih _ (round_unshared hs).2, (round_unshared hs).1]
  exact congrArg (Site.say · _) (hrounds _ _ (w.start s) hs)

end Round

end Worker

/-! ### The whole run -/

open Worker in
/-- **Stopping.**  A worker runs on a queue that it may share with others, whose calls come in between
its own; the queue may fail to hand out jobs and may refuse reports, and jobs take any time.  If the
worker is told to stop at some time after the beginning, it asks for jobs only before that time, and
its calls are these requests and one report for each job that it was given, once the job was done.
The run goes on until the time of the stop.  If the worker was given a job by its last request, the
run ends when there is the report on it, and otherwise in a pause, right at that time; without a
request, which is the case only if there is no time to the stop, nothing happens at all.  A job that
was leased is not being processed when the run has ended, or after later calls, unless the report on
it was refused or went to an earlier job with the same identifier, which there is none of if the jobs
are distinct, or the job was handed out again since.  If nobody else uses the queue, all this is said of a run on the queue alone. -/
theorem run_until_stopped {σ : Type} (w : Worker) (hpoll : 0 < w.pollInterval.nanos)
    (hbackoff : 0 < w.errorBackoff.nanos) (handler : Handler σ) (now : Time.Instant)
    (stop : Time.Span) (s : Site Shared σ) (extra : Nat) :
    let deadline : Time.Span := ⟨s.elapsed.nanos + stop.nanos⟩
    let asks := w.asks Shared.leasing handler now deadline
      (stop.nanos + (s.queue.leasesAhead + extra)) (w.start s)
    let last := w.run Shared.leasing handler now stop (s.queue.leasesAhead + extra) s
    (∀ b ∈ asks, b.elapsed.nanos < deadline.nanos) ∧
    last.queue.own = s.queue.own ++ asks.flatMap (Site.ownCalls handler now) ∧
    last.world = (asks.filterMap (Site.leased? now)).foldl
      (fun world job => (handler job world).world) s.world ∧
    deadline.nanos ≤ last.elapsed.nanos ∧
    (∀ b ∈ asks.getLast?, match b.leased? now with
      | some job => last.elapsed.nanos = b.elapsed.nanos + (handler job b.world).took.nanos
      | none => last.elapsed = deadline ∧
        deadline.nanos ≤ b.elapsed.nanos + (w.pauseAt b).nanos) ∧
    (asks = [] ↔ stop.nanos = 0) ∧
    (asks = [] → last.queue = s.queue ∧ last.elapsed = s.elapsed) ∧
    (∀ b ∈ asks, ∀ job, b.leased? now = some job → ∃ i j, b.queue.awaited.rows[i]? = some j ∧
      Call.acquire.Turns now b.queue.awaited i j job ∧
      (s.queue.first.Distinct →
        ∀ k ∈ (b.queue.call now .acquire).awaited.rows.take i, k.id ≠ job.id) ∧
      ∀ later k, (last.queue.queue.after later).rows[i]? = some k → k.status = .processing →
        b.Unended handler now job i
          (last.queue.calls.drop (b.reported handler now job).calls.length ++ later)) ∧
    (s.queue.others = [] → last.unshared
      = w.run Queue.leasing handler now stop (s.queue.leasesAhead + extra) s.unshared) := by
  intro deadline asks last
  have hlast : last = ((w.rounds Shared.leasing handler now deadline
      (stop.nanos + (s.queue.leasesAhead + extra)) (w.start s)).say
        [event .info "job worker stopped" [("worker_id", .shown w.name)]]) := rfl
  have hbegin : (w.start s).elapsed.nanos = s.elapsed.nanos := rfl
  have hdeadline : deadline.nanos = s.elapsed.nanos + stop.nanos := rfl
  have hstop : deadline.nanos ≤ last.elapsed.nanos := by
    refine stop_le_elapsed_rounds hpoll hbackoff ?_
    show deadline.nanos - s.elapsed.nanos + s.queue.leasesAhead ≤ _
    omega
  have hnil : asks = [] ↔ stop.nanos = 0 := by
    refine (asks_eq_nil_iff (by omega)).trans ?_
    omega
  refine ⟨fun b hb => elapsed_lt_of_mem_asks hb, own_rounds _ _, world_rounds _ _, hstop,
    fun b hb => elapsed_rounds_of_last hb hstop, hnil, ?_, ?_, fun hothers => run_unshared hothers _⟩
  · intro hasks
    have hnone : w.asks Shared.leasing handler now deadline
      (stop.nanos + (s.queue.leasesAhead + extra)) (w.start s) = [] := hasks
    rw [hlast, rounds_eq_asks, hnone]
    exact ⟨rfl, rfl⟩
  · intro b hb job h
    have hfollows := follows_of_mem_asks hb
    have hfirst : b.queue.first = s.queue.first := (follows_asks hb).1
    rw [(round_of_leased h).1] at hfollows
    rw [← hfirst]
    exact exists_place_of_leased h hfollows

/-- One pending job, which another worker takes back once it is leased. -/
private def revoked : Shared where
  first := { rows := [{ (default : Job) with id := .nil }] }
  others := [[], [(default, .backdateLease .nil (.ofSeconds 7200)),
    (default, .requeueStale (.ofSeconds 3600)), (default, .acquire)]]

/-- The job takes five nanoseconds, and the worker is told to stop after three: it ends when there is
the report on the job. -/
theorem run_until_stopped_revoked :
    let last := Worker.run { name := "w" } Shared.leasing (Handler.ofOutcomes ⟨5⟩) default ⟨3⟩
      (revoked.leasesAhead + 0) { queue := revoked, world := { outcomes := [.ok "key"] } }
    last.elapsed.nanos = 5 ∧ last.queue.own = [.acquire, .complete .nil "key"] := by
  intro last
  obtain ⟨-, hown, -, -, hend, -⟩ := run_until_stopped { name := "w" } (by decide) (by decide)
    (Handler.ofOutcomes ⟨5⟩) default ⟨3⟩
    { queue := revoked, world := { outcomes := [.ok "key"] } } 0
  exact ⟨hend _ rfl, hown⟩

/-- Two jobs with one identifier: the first one is being processed, the other one is pending. -/
private def namesakes : Queue where
  rows := [{ (default : Job) with id := .nil, status := .processing },
    { (default : Job) with id := .nil }]

/-- Of two jobs with one identifier a worker leases the second, and the report on it goes to the
first: the job that was leased is still being processed when the worker has stopped, although reports
are not refused and nobody else has leased it. -/
theorem misdirected_of_namesakes :
    let last := Worker.run { name := "w" } Queue.leasing (Handler.ofOutcomes ⟨0⟩) default ⟨1⟩ 1
      { queue := namesakes, world := { outcomes := [.ok "key"] } }
    namesakes.refusesReports = false ∧ namesakes.rows.map Job.status = [.processing, .pending] ∧
      last.elapsed.nanos = 1 ∧ last.queue.completedCalls = [(.nil, "key")] ∧
      last.queue.rows.map Job.attempts = [0, 1] ∧
      last.queue.rows.map Job.status = [.completed, .processing] := by
  decide +kernel

end PageHarvest
