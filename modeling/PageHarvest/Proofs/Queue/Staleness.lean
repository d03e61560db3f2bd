import PageHarvest.Proofs.Queue.Rows
import PageHarvest.Proofs.Time.Earlier

/-!
# Stale leases

A lease is stale for an age if it began before the moment so long ago, `Job.LeasedBefore`.  That is said
of any age: the moment may lie before the calendar, and then no lease is stale.  `stale_agree` says
that counting the stale leases and taking them back see the same jobs, and what becomes of each.
-/

namespace PageHarvest

namespace Job

variable {now : Time.Instant} {age age' : Time.Span} {j : Job}

/-- The job is being processed, under a lease from before the moment so long ago. -/
def LeasedBefore (now : Time.Instant) (age : Time.Span) (j : Job) : Prop :=
  j.status = .processing ∧
    ∃ started, j.startedAt = some started ∧ started.moment < now.momentBefore age

theorem isStale_iff : j.isStale now age = true ↔ j.LeasedBefore now age := by
  rw [isStale, Bool.and_eq_true, beq_iff_eq, LeasedBefore]
  refine and_congr_right fun _ => ?_
  cases j.startedAt with
  | none => simp
  | some started =>
    simp only [Option.some.injEq, exists_eq_left', ← Time.Instant.exists_earlier?_iff]
    -- Without a cutoff no lease is before it.
    cases now.earlier? age with
    | none => simp
    | some cutoff => simp

instance (now : Time.Instant) (age : Time.Span) (j : Job) : Decidable (j.LeasedBefore now age) :=
  decidable_of_iff _ isStale_iff

/-- A lease that is stale for an age is stale for a lesser one. -/
theorem LeasedBefore.of_le (h : j.LeasedBefore now age') (hage : age.nanos ≤ age'.nanos) :
    j.LeasedBefore now age := by
  obtain ⟨hstatus, started, hstarted, hbefore⟩ := h
  exact ⟨hstatus, started, hstarted, hbefore.trans_le (Time.Instant.momentBefore_le hage)⟩

/-- Outside of leap seconds a lease is stale if the age added to it is still in the past. -/
theorem leasedBefore_iff {started : Time.Instant} (hstarted : j.startedAt = some started)
    (hstart : started.nano < Time.nanosPerSecond) (hnow : now.nano < Time.nanosPerSecond) :
    j.LeasedBefore now age ↔
      j.status = .processing ∧ started.nanos + age.nanos < now.nanos := by
  simp only [LeasedBefore, hstarted, Option.some.injEq, exists_eq_left',
    Time.Instant.moment_lt_momentBefore hstart hnow]

end Job

namespace Queue

variable {q : Queue} {now : Time.Instant} {age age' : Time.Span}

theorem countStale_eq (q : Queue) (now : Time.Instant) (age : Time.Span) :
    q.countStale now age = (q.rows.filter fun j => j.LeasedBefore now age).length := by
  rw [countStale]
  congr 2
  funext j
  rw [Bool.eq_iff_iff, Job.isStale_iff, decide_eq_true_eq]

theorem requeueStale_eq (q : Queue) (now : Time.Instant) (age : Time.Span) :
    q.requeueStale now age = (q.countStale now age, { q with
      rows := q.rows.map fun j =>
        if j.LeasedBefore now age then { j with status := .pending, updatedAt := now } else j }) := by
  rw [requeueStale, takeBack_eq]
  simp only [Job.isStale_iff]
  rfl

/-- A job that is given back is under no lease. -/
theorem countStale_requeueStale (q : Queue) (now : Time.Instant) (age : Time.Span) :
    (q.requeueStale now age).2.countStale now age = 0 := by
  rw [countStale, rows_requeueStale, List.length_eq_zero_iff, List.filter_eq_nil_iff]
  intro j hj
  obtain ⟨k, -, rfl⟩ := List.mem_map.1 hj
  -- Its lease was taken back, or it was not stale to begin with.
  split
  · exact Bool.false_ne_true
  · assumption

theorem countStale_le (hage : age.nanos ≤ age'.nanos) :
    q.countStale now age' ≤ q.countStale now age := by
  rw [countStale_eq, countStale_eq]
  refine (List.monotone_filter_right q.rows fun j h => ?_).length_le
  rw [decide_eq_true_eq] at h ⊢
  exact h.of_le hage

/-- **Counting stale leases and taking them back agree.**  The jobs taken back are those counted,
which are those leased before the moment so long ago; they become pending now, nothing else
changes, and no stale lease is left.  Outside of leap seconds that moment is found by subtraction.  A
greater age makes no other lease stale. -/
theorem stale_agree (q : Queue) (now : Time.Instant) (age : Time.Span) :
    (q.requeueStale now age).1 = q.countStale now age ∧
    q.countStale now age = (q.rows.filter fun j => j.LeasedBefore now age).length ∧
    (q.requeueStale now age).2 = { q with
      rows := q.rows.map fun j =>
        if j.LeasedBefore now age then { j with status := .pending, updatedAt := now } else j } ∧
    (q.requeueStale now age).2.countStale now age = 0 ∧
    (∀ (j : Job) (started : Time.Instant), j.startedAt = some started →
      started.nano < Time.nanosPerSecond → now.nano < Time.nanosPerSecond →
      (j.LeasedBefore now age ↔
        j.status = .processing ∧ started.nanos + age.nanos < now.nanos)) ∧
    ∀ age' : Time.Span, age.nanos ≤ age'.nanos →
      (∀ j : Job, j.LeasedBefore now age' → j.LeasedBefore now age) ∧
      (q.requeueStale now age').1 ≤ (q.requeueStale now age).1 := by
  refine ⟨by rw [requeueStale_eq], countStale_eq q now age, by rw [requeueStale_eq],
    countStale_requeueStale q now age, fun j started => Job.leasedBefore_iff, ?_⟩
  intro age' hage
  refine ⟨fun j h => h.of_le hage, ?_⟩
  rw [requeueStale_eq, requeueStale_eq]
  exact countStale_le hage

/-- A lease of two hours is stale for one hour, and not for the longest age there is, which leads out
of the calendar. -/
theorem stale_agree_beyond_calendar :
    let now : Time.Instant := ⟨default, 7200, 0, by decide, by decide⟩
    let leased : Job := { (default : Job) with status := .processing, startedAt := some default }
    let q : Queue := { rows := [leased] }
    let hour := Time.Span.ofSeconds 3600
    let longest := Time.Span.ofSeconds (Number.beyondBits 64 - 1)
    now.earlier? longest = none ∧ hour.nanos ≤ longest.nanos ∧
      (leased.LeasedBefore now hour ↔ (default : Time.Instant).nanos + hour.nanos < now.nanos) ∧
      (q.requeueStale now hour).1 = 1 ∧ (q.requeueStale now longest).1 = 0 ∧
      (q.requeueStale now longest).1 ≤ (q.requeueStale now hour).1 := by
  intro now leased q hour longest
  have hage : hour.nanos ≤ longest.nanos := by decide
  obtain ⟨-, -, -, -, hexact, hless⟩ := stale_agree q now hour
  refine ⟨by decide, hage, ?_, by decide, by decide, (hless longest hage).2⟩
  rw [hexact leased default rfl (by decide) (by decide)]
  exact and_iff_right rfl

end Queue

end PageHarvest
