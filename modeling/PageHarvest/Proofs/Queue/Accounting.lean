import PageHarvest.Proofs.Queue.Rows

/-!
# Accounting of leases

A job is held from the call that hands it out to the one that takes it back: whatever the calls, they
hand it out as often as they take it back, and once more if it has come to be held
(`count_grants_after`).  Between two grants of a job it is therefore taken back
(`mem_requeues_between`), and as long as nothing is taken back the pending jobs go out one by one, in
their order (`grants_eq_take`).
-/

namespace PageHarvest.Queue

variable {q : Queue} {now : Time.Instant} {c : Call} {calls : Calls} {x : Uuid} {j j' : Job}

/-- 1 for a job that is not pending. -/
def held (j : Job) : Int := if j.status = .pending then 0 else 1

/-- The number of attempts is one of 32 bits that stays one when `n` is added. -/
def HasRoom (j : Job) (n : Nat) : Prop :=
  -(Number.beyondBits 31 : Int) ≤ j.attempts ∧ j.attempts + n < Number.beyondBits 31

instance (j : Job) (n : Nat) : Decidable (HasRoom j n) := inferInstanceAs (Decidable (_ ∧ _))

/-! ### One call -/

theorem held_of_pending (h : j.status = .pending) : held j = 0 := if_pos h

theorem held_of_not_pending (h : j.status ≠ .pending) : held j = 1 := if_neg h

theorem granted_acquire (up : q.outages = 0) :
    Call.acquire.granted now q = (q.first?.map Job.id).toList := by
  rw [Call.granted, leased?_acquire, if_neg (by omega), Option.map_map]
  rfl

/-- A call takes back a job at most once. -/
theorem nodup_requeued (hq : q.Distinct) (now : Time.Instant) (c : Call) :
    (c.requeued now q).Nodup := by
  cases c with
  | requeueStale age => exact (List.filter_sublist.map Job.id).nodup hq
  | _ => exact List.nodup_nil

/-- A number of 32 bits below the greatest is followed by the next one. -/
theorem wrap32_succ {n : Int} (hl : -(Number.beyondBits 31 : Int) ≤ n)
    (hu : n + 1 < Number.beyondBits 31) : Number.wrap32 (n + 1) = n + 1 := by
  have h31 : (Number.beyondBits 31 : Int) = 2147483648 := by decide
  have h32 : Number.beyondBits 32 = 4294967296 := by decide
  rw [Number.wrap32, h32]
  apply Int.bmod_eq_of_le_mul_two
  · omega
  · omega

/-- What a call hands out and takes back shows in whether the job is held. -/
theorem count_granted_of_does (hq : q.Distinct) (hj : q.job? x = some j) (h : c.Does now q j j') :
    ((c.granted now q).count x : Int) - (c.requeued now q).count x = held j' - held j := by
  obtain rfl := id_of_job? hj
  cases h with
  | leases up first =>
    have hp := status_of_first? first
    rw [granted_acquire up, first, held_of_pending hp, held_of_not_pending (by simp [Job.leasedAt])]
    simp [Call.requeued]
  | completes key taken held' =>
    rw [held_of_not_pending (j := j) (by simp [held']),
      held_of_not_pending (by simp [Job.completedAt])]
    rfl
  | fails message taken held' =>
    rw [held_of_not_pending (j := j) (by simp [held']),
      held_of_not_pending (by simp [Job.failedAt])]
    rfl
  | requeues age stale =>
    -- Identifiers are distinct, so that the job is taken back only once.
    have hmem : j.id ∈ (Call.requeueStale age).requeued now q :=
      List.mem_map_of_mem (List.mem_filter.2 ⟨((job?_eq_some hq).1 hj).1, stale⟩)
    rw [List.count_eq_one_of_mem (nodup_requeued hq now _) hmem,
      held_of_not_pending (j := j) (by simp [isStale_processing stale]),
      held_of_pending (by simp [Job.requeuedAt])]
    rfl
  | backdates age =>
    have hheld : held (j.backdate age) = held j := rfl
    rw [hheld, Int.sub_self]
    rfl
  | keeps ungranted unrequeued =>
    rw [List.count_eq_zero.2 ungranted, List.count_eq_zero.2 unrequeued, Int.sub_self, Int.sub_self]

/-- Each grant is counted as an attempt, and nothing else is. -/
theorem attempts_of_does (hj : q.job? x = some j) (h : c.Does now q j j')
    (room : HasRoom j ((c.granted now q).count x)) :
    j'.attempts = j.attempts + (c.granted now q).count x := by
  obtain rfl := id_of_job? hj
  obtain ⟨hl, hu⟩ := room
  cases h with
  | leases up first =>
    have hg : (Call.acquire.granted now q).count j.id = 1 := by
      rw [granted_acquire up, first]
      simp
    rw [hg] at hu ⊢
    exact wrap32_succ hl hu
  | keeps ungranted unrequeued => simp [List.count_eq_zero.2 ungranted]
  | completes => simp [Call.granted, Call.leased?, Job.completedAt]
  | fails => simp [Call.granted, Call.leased?, Job.failedAt]
  | requeues => simp [Call.granted, Call.leased?, Job.requeuedAt]
  | backdates => simp [Call.granted, Call.leased?, Job.backdate]

/-- A job that is handed out was pending and is so no more. -/
theorem held_of_granted (hq : q.Distinct) (h : x ∈ c.granted now q) :
    ∃ j j', q.job? x = some j ∧ (c.on now q).job? x = some j' ∧ held j = 0 ∧ held j' = 1 := by
  obtain ⟨k, hk, rfl⟩ := mem_granted.1 h
  cases c with
  | acquire =>
    rw [leased?_acquire] at hk
    split at hk
    · exact absurd hk (by simp)
    · next ho =>
      obtain ⟨j, hj, rfl⟩ := Option.map_eq_some_iff.1 hk
      have hfree := held_of_pending (status_of_first? hj)
      have hjob : q.job? j.id = some j :=
        (job?_eq_some hq).2 ⟨List.mem_of_find?_eq_some hj, rfl⟩
      obtain ⟨j', hj', hdoes⟩ := does_on hq now .acquire hjob
      have hcount := count_granted_of_does hq hjob hdoes
      rw [granted_acquire (by omega), hj, hfree] at hcount
      simp only [Option.map_some, Option.toList_some, List.count_singleton_self, Call.requeued,
        List.count_nil] at hcount
      exact ⟨j, j', hjob, hj', hfree, by omega⟩
  | _ => exact absurd hk (by simp [Call.leased?])

/-- Changing jobs that are not pending into others that are not leaves the pending ones. -/
theorem pendingIds_changeFirst (p : Job → Bool) (f : Job → Job) (hf : ∀ j, (f j).id = j.id)
    (hp : ∀ j, p j = true → isPending (f j) = isPending j) (rows : List Job) :
    ((changeFirst p f rows).filter isPending).map Job.id
      = (rows.filter isPending).map Job.id :=
  map_filter_changeFirst p isPending f Job.id (fun j h => ⟨hp j h, hf j⟩) rows

/-- A report on a job takes none from those that are pending. -/
theorem pendingIds_finish (id : Uuid) (f : Job → Job) (hf : ∀ j, (f j).id = j.id)
    (hs : ∀ j, isPending (f j) = false) (q : Queue) : (q.finish id f).pendingIds = q.pendingIds := by
  refine pendingIds_changeFirst _ f hf (fun j hp => ?_) q.rows
  simp only [Bool.and_eq_true, beq_iff_eq] at hp
  rw [hs, isPending, hp.2]
  rfl

theorem pendingIds_requeueStale (age : Time.Span)
    (h : (Call.requeueStale age).requeued now q = []) :
    ((Call.requeueStale age).on now q).pendingIds = q.pendingIds := by
  have hstale : ∀ j ∈ q.rows, ¬j.isStale now age = true :=
    List.filter_eq_nil_iff.1 (List.map_eq_nil_iff.1 h)
  have hrows : (q.rows.map fun j => if j.isStale now age then j.requeuedAt now else j) = q.rows :=
    (List.map_congr_left fun j hj => if_neg (hstale j hj)).trans (List.map_id _)
  simp only [Call.on, rows_requeueStale, pendingIds]
  rw [hrows]

/-- When nothing is taken back, a call takes at most the first of the pending jobs, namely when it
is a request for a lease that is served. -/
theorem pendingIds_on (q : Queue) (now : Time.Instant) (c : Call) (h : c.requeued now q = []) :
    c.granted now q = q.pendingIds.take (c.isServed now q).toNat ∧
      (c.on now q).pendingIds = q.pendingIds.drop (c.isServed now q).toNat := by
  cases c with
  | acquire =>
    rw [Call.on, Call.isServed]
    by_cases ho : 0 < q.outages
    · rw [Call.granted, leased?_acquire, if_pos ho, acquire_of_outage ho]
      exact ⟨rfl, rfl⟩
    · have hup : q.outages = 0 := by omega
      rw [granted_acquire hup, acquire_of_no_outage hup]
      constructor
      · rw [first?, ← List.head?_filter, ← List.head?_map, pendingIds]
        cases (q.rows.filter isPending).map Job.id with
        | nil => rfl
        | cons x xs => rfl
      · simp only [pendingIds]
        rw [filter_changeFirst_self isPending _ (fun _ => rfl), List.map_tail, ← List.drop_one]
        rfl
  | complete id key =>
    refine ⟨rfl, ?_⟩
    rw [Call.on, pendingIds, rows_complete]
    split
    · rfl
    · exact pendingIds_finish id (Job.completedAt now key) (fun _ => rfl) (fun _ => rfl) q
  | fail id message =>
    refine ⟨rfl, ?_⟩
    rw [Call.on, pendingIds, rows_fail]
    split
    · rfl
    · exact pendingIds_finish id (Job.failedAt now message) (fun _ => rfl) (fun _ => rfl) q
  | requeueStale age => exact ⟨rfl, pendingIds_requeueStale age h⟩
  | backdateLease id age =>
    exact ⟨rfl, pendingIds_changeFirst _ (Job.backdate age) (fun _ => rfl) (fun _ _ => rfl) q.rows⟩
  | countStale age => exact ⟨rfl, rfl⟩
  | failNextAcquires count => exact ⟨rfl, rfl⟩
  | failReports refuses => exact ⟨rfl, rfl⟩

/-! ### Any number of calls -/

theorem grants_append (q : Queue) (a b : Calls) :
    q.grants (a ++ b) = q.grants a ++ (q.after a).grants b := by
  induction a generalizing q with
  | nil => rfl
  | cons call a ih => rw [List.cons_append, grants, ih, grants, List.append_assoc, after_cons]

/-- The calls hand out a job as often as they take it back, and once more if it has come to be held;
each grant is counted as an attempt. -/
theorem count_grants_after (hq : q.Distinct) (hj : q.job? x = some j) (calls : Calls) :
    ∃ j', (q.after calls).job? x = some j' ∧
      ((q.grants calls).count x : Int) - (q.requeues calls).count x = held j' - held j ∧
      (HasRoom j ((q.grants calls).count x) →
        j'.attempts = j.attempts + (q.grants calls).count x) := by
  induction calls generalizing q j with
  | nil => exact ⟨j, hj, by simp [grants, requeues], by simp [grants]⟩
  | cons call calls ih =>
    obtain ⟨now, c⟩ := call
    obtain ⟨k, hk, hdoes⟩ := does_on hq now c hj
    obtain ⟨j', hj', hcount, hattempts⟩ := ih (distinct_on hq now c) hk
    have hstep := count_granted_of_does hq hj hdoes
    refine ⟨j', hj', ?_, ?_⟩
    · -- What the first call does to the account adds up with what the others do.
      rw [grants, requeues, List.count_append, List.count_append]
      omega
    · -- There is room for the grant of the first call, and then for the others.
      rw [grants, List.count_append]
      rintro ⟨hl, hu⟩
      have hk := attempts_of_does hj hdoes ⟨hl, by omega⟩
      rw [hattempts ⟨by omega, by omega⟩, hk]
      omega

/-- Between two grants of a job it is taken back. -/
theorem mem_requeues_between (hq : q.Distinct) {t u : Time.Instant} {c d : Call} {mid : Calls}
    (hc : x ∈ c.granted t q) (hd : x ∈ d.granted u ((c.on t q).after mid)) :
    x ∈ (c.on t q).requeues mid := by
  obtain ⟨-, j, -, hj, -, hheld⟩ := held_of_granted hq hc
  obtain ⟨k, -, hk, -, hfree, -⟩ := held_of_granted (distinct_after (distinct_on hq t c) mid) hd
  obtain ⟨j', hj', hcount, -⟩ := count_grants_after (distinct_on hq t c) hj mid
  obtain rfl := Option.some.inj (hj'.symm.trans hk)
  rw [hheld, hfree] at hcount
  exact List.count_pos_iff.1 (by omega)

/-- As long as nothing is taken back, the pending jobs are handed out in their order, one to each
request that is served. -/
theorem grants_eq_take (h : q.requeues calls = []) :
    q.grants calls = q.pendingIds.take (q.served calls) := by
  induction calls generalizing q with
  | nil => simp [grants, served]
  | cons call calls ih =>
    obtain ⟨now, c⟩ := call
    rw [requeues, List.append_eq_nil_iff] at h
    obtain ⟨hgranted, hpending⟩ := pendingIds_on q now c h.1
    rw [grants, served, ih h.2, hgranted, hpending, ← List.take_add]

theorem nodup_pendingIds (hq : q.Distinct) : q.pendingIds.Nodup :=
  (List.filter_sublist.map Job.id).nodup hq

/-- **The accounts of a queue.**  Whatever is asked of a queue of distinct jobs, and at every point,
a job has been handed out as often as it has been taken back, and once more if it has come to be
held, and each grant is counted among its attempts; between two grants of a job it is taken back; and
as long as nothing is taken back, the requests that are served get distinct jobs in the order of the
queue, until there are none. -/
theorem accounts_balance (q : Queue) (hq : q.Distinct) (calls : Calls) :
    (∀ j ∈ q.rows, ∃ j', (q.after calls).job? j.id = some j' ∧
      ((q.grants calls).count j.id : Int) - (q.requeues calls).count j.id = held j' - held j ∧
      (HasRoom j ((q.grants calls).count j.id) →
        j'.attempts = j.attempts + (q.grants calls).count j.id)) ∧
    (∀ (before : Calls) t c mid u d x, x ∈ Call.granted t (q.after before) c →
      x ∈ Call.granted u (q.after (before ++ (t, c) :: mid)) d →
      x ∈ (q.after (before ++ [(t, c)])).requeues mid) ∧
    (q.requeues calls = [] →
      q.grants calls = q.pendingIds.take (q.served calls) ∧ (q.grants calls).Nodup ∧
      (q.grants calls).length = min (q.served calls) q.pendingIds.length) := by
  refine ⟨?_, ?_, ?_⟩
  · intro j hj
    exact count_grants_after hq ((job?_eq_some hq).2 ⟨hj, rfl⟩) calls
  · intro before t c mid u d x hc hd
    rw [after_append] at hd ⊢
    exact mem_requeues_between (distinct_after hq before) hc hd
  · intro h
    rw [grants_eq_take h]
    exact ⟨rfl, (List.take_sublist _ _).nodup (nodup_pendingIds hq), List.length_take⟩

/-- Two pending jobs. -/
private def pair : Queue where
  rows := [{ (default : Job) with id := .nil },
    { (default : Job) with id := .ofRandom Text.Hex.lastValue }]

/-- The lease on the first job becomes too old and is taken back. -/
private def expiry : Calls :=
  [(default, .backdateLease .nil (.ofSeconds 7200)),
    (default, .requeueStale (.ofSeconds 3600))]

/-- The first of two jobs handed out twice, and taken back in between; both handed out to three
requests. -/
theorem accounts_balance_pair :
    (∃ j, (pair.after ((default, .acquire) :: expiry ++ [(default, .acquire)])).job? .nil = some j ∧
      held j = 1 ∧ j.attempts = 2) ∧
    Uuid.nil ∈ (pair.after [(default, .acquire)]).requeues expiry ∧
    (pair.grants (List.replicate 3 (default, .acquire))).length = 2 := by
  have hd : pair.Distinct := by decide
  obtain ⟨hrows, hbetween, -⟩ := accounts_balance pair hd
    ((default, .acquire) :: expiry ++ [(default, .acquire)])
  obtain ⟨-, -, htake⟩ := accounts_balance pair hd (List.replicate 3 (default, .acquire))
  refine ⟨?_, ?_, ?_⟩
  · obtain ⟨j, hj, hcount, hattempts⟩ := hrows _ List.mem_cons_self
    refine ⟨j, hj, ?_, ?_⟩
    · have h : ((2 : Nat) : Int) - (1 : Nat) = held j - 0 := hcount
      omega
    · exact hattempts (by decide +kernel)
  · exact hbetween [] default .acquire expiry default .acquire _ (by decide +kernel)
      (by decide +kernel)
  · exact (htake (by decide +kernel)).2.2

end PageHarvest.Queue
