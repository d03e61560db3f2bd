import PageHarvest.Proofs.Queue.Rows

/-!
# The life of a job

Here a queue is looked at place by place, so that nothing rests on its jobs being distinct.
`Call.Turns` lists the changes of status, each with all that it takes, and `status_changes` says that
calls make these changes and no others.  A job that has ended is not among those that can be changed,
and so stays as it is whatever is called (`getElem?_after_of_isFinished`); and what a job asks for
stays from the beginning (`map_request_after`).
-/

namespace PageHarvest

/-- What is the same in a job from the beginning to the end: which one it is and what it asks for. -/
def Job.request (j : Job) : Uuid × String × Uuid × Uuid × Option String × Time.Instant :=
  (j.id, j.url, j.owner, j.position, j.traceContext, j.createdAt)

theorem Job.id_of_request {j k : Job} (h : j.request = k.request) : j.id = k.id :=
  congrArg Prod.fst h

namespace Queue

variable {q : Queue} {now : Time.Instant} {c : Call} {calls : Calls} {i : Nat} {j k : Job}

/-! ### The first of its kind, by its place -/

/-- The change is made at the first place of its kind and nowhere else. -/
theorem getElem?_changeFirst {α : Type} (p : α → Bool) (f : α → α) (as : List α) (i : Nat) :
    (changeFirst p f as)[i]?
      = as[i]?.map fun a => if p a = true ∧ ∀ b ∈ as.take i, p b = false then f a else a := by
  induction as generalizing i with
  | nil => rfl
  | cons a as ih =>
    rw [changeFirst]
    by_cases hp : p a = true
    · rw [if_pos hp]
      cases i with
      | zero => simp [hp]
      | succ i =>
        -- Behind `a` no place is the first.
        have hnot : ∀ b, ¬(p b = true ∧ ∀ d ∈ (a :: as).take (i + 1), p d = false) := by
          rintro b ⟨-, hall⟩
          have ha := hall a (by simp)
          rw [hp] at ha
          exact absurd ha (by simp)
        simp only [List.getElem?_cons_succ, hnot, if_false, Option.map_id']
    · rw [if_neg hp]
      cases i with
      | zero => simp [hp]
      | succ i =>
        rw [List.getElem?_cons_succ, List.getElem?_cons_succ, ih]
        simp [hp]

/-! ### Changes of status -/

/-- The changes of status: the job `j` at the place `i` becomes another one.  Each case says all that
it takes. -/
inductive Call.Turns (now : Time.Instant) (q : Queue) (i : Nat) (j : Job) : Call → Job → Prop
  | leases (up : q.outages = 0) (pending : j.status = .pending)
    (first : ∀ k ∈ q.rows.take i, k.status ≠ .pending) :
    Turns now q i j .acquire (j.leasedAt now)
  | completes (key : String) (taken : q.refusesReports = false) (held : j.status = .processing)
    (first : ∀ k ∈ q.rows.take i, ¬(k.id = j.id ∧ k.status = .processing)) :
    Turns now q i j (.complete j.id key) (j.completedAt now key)
  | fails (message : String) (taken : q.refusesReports = false) (held : j.status = .processing)
    (first : ∀ k ∈ q.rows.take i, ¬(k.id = j.id ∧ k.status = .processing)) :
    Turns now q i j (.fail j.id message) (j.failedAt now message)
  | requeues (age : Time.Span) (stale : j.isStale now age = true) :
    Turns now q i j (.requeueStale age) (j.requeuedAt now)

theorem Call.Turns.status_ne (h : c.Turns now q i j k) : k.status ≠ j.status := by
  cases h with
  | leases up pending first => simp [Job.leasedAt, pending]
  | completes key taken held first => simp [Job.completedAt, held]
  | fails message taken held first => simp [Job.failedAt, held]
  | requeues age stale => simp [Job.requeuedAt, isStale_processing stale]

theorem Call.Turns.not_finished (h : c.Turns now q i j k) : j.isFinished = false := by
  cases h with
  | leases up pending first => simp [Job.isFinished, pending]
  | completes key taken held first => simp [Job.isFinished, held]
  | fails message taken held first => simp [Job.isFinished, held]
  | requeues age stale => simp [Job.isFinished, isStale_processing stale]

/-- The job at a place after a request for a lease. -/
theorem getElem?_acquire (hj : q.rows[i]? = some j) : (Call.acquire.on now q).rows[i]?
    = some (if q.outages = 0 ∧ j.status = .pending ∧ ∀ k ∈ q.rows.take i, k.status ≠ .pending
      then j.leasedAt now else j) := by
  rw [Call.on]
  by_cases h : 0 < q.outages
  · rw [acquire_of_outage h, if_neg (by omega)]
    exact hj
  · have hup : q.outages = 0 := by omega
    rw [acquire_of_no_outage hup]
    simp only [getElem?_changeFirst, hj, Option.map_some, isPending, beq_iff_eq, beq_eq_false_iff_ne,
      hup, true_and, ne_eq]

/-- The job at a place after a report. -/
theorem getElem?_of_report {p : Queue} {id : Uuid} {f : Job → Job} (hj : q.rows[i]? = some j)
    (hp : p.rows = if q.refusesReports then q.rows else (q.finish id f).rows) :
    p.rows[i]? = some (if q.refusesReports = false ∧ (j.id = id ∧ j.status = .processing) ∧
      ∀ k ∈ q.rows.take i, ¬(k.id = id ∧ k.status = .processing) then f j else j) := by
  rw [hp]
  by_cases hr : q.refusesReports = true
  · rw [if_pos hr, if_neg (by simp [hr]), hj]
  · rw [if_neg hr, finish]
    simp only [getElem?_changeFirst, hj, Option.map_some, Bool.and_eq_true, beq_iff_eq,
      Bool.and_eq_false_imp, beq_eq_false_iff_ne, hr, true_and, not_and, ne_eq]

theorem getElem?_requeueStale (hj : q.rows[i]? = some j) (age : Time.Span) :
    ((Call.requeueStale age).on now q).rows[i]?
      = some (if j.isStale now age = true then j.requeuedAt now else j) := by
  simp only [Call.on, rows_requeueStale, List.getElem?_map, hj, Option.map_some]

/-- A change comes about if all that it takes is there. -/
theorem Call.Turns.getElem?_on (h : c.Turns now q i j k) (hj : q.rows[i]? = some j) :
    (c.on now q).rows[i]? = some k := by
  cases h with
  | leases up pending first => rw [getElem?_acquire hj, if_pos ⟨up, pending, first⟩]
  | completes key taken held first =>
    rw [Call.on, getElem?_of_report hj (rows_complete j.id key),
      if_pos ⟨taken, ⟨rfl, held⟩, first⟩]
  | fails message taken held first =>
    rw [Call.on, getElem?_of_report hj (rows_fail j.id message),
      if_pos ⟨taken, ⟨rfl, held⟩, first⟩]
  | requeues age stale => rw [getElem?_requeueStale hj, if_pos stale]

/-- **All that can happen at a place.**  The job there changes its status, or its lease is moved back
in time, or it stays as it is. -/
theorem turns_on (q : Queue) (now : Time.Instant) (c : Call) (hj : q.rows[i]? = some j) :
    ∃ k, (c.on now q).rows[i]? = some k ∧
      (c.Turns now q i j k ∨ (∃ age, c = .backdateLease j.id age ∧ k = j.backdate age) ∨ k = j) := by
  cases c with
  | acquire =>
    refine ⟨_, getElem?_acquire hj, ?_⟩
    split
    · next h => exact .inl (.leases h.1 h.2.1 h.2.2)
    · exact .inr (.inr rfl)
  | complete id key =>
    refine ⟨_, getElem?_of_report hj (rows_complete id key), ?_⟩
    split
    · next h =>
      obtain ⟨taken, ⟨rfl, held⟩, first⟩ := h
      exact .inl (.completes key taken held first)
    · exact .inr (.inr rfl)
  | fail id message =>
    refine ⟨_, getElem?_of_report hj (rows_fail id message), ?_⟩
    split
    · next h =>
      obtain ⟨taken, ⟨rfl, held⟩, first⟩ := h
      exact .inl (.fails message taken held first)
    · exact .inr (.inr rfl)
  | requeueStale age =>
    refine ⟨_, getElem?_requeueStale hj age, ?_⟩
    split
    · next h => exact .inl (.requeues age h)
    · exact .inr (.inr rfl)
  | backdateLease id age =>
    have hrow : ((Call.backdateLease id age).on now q).rows[i]? = _ :=
      getElem?_changeFirst (fun j : Job => j.id == id) (Job.backdate age) q.rows i
    rw [hj, Option.map_some] at hrow
    refine ⟨_, hrow, ?_⟩
    split
    · next h =>
      obtain rfl := beq_iff_eq.1 h.1
      exact .inr (.inl ⟨age, rfl, rfl⟩)
    · exact .inr (.inr rfl)
  | countStale age => exact ⟨j, hj, .inr (.inr rfl)⟩
  | failNextAcquires count => exact ⟨j, hj, .inr (.inr rfl)⟩
  | failReports refuses => exact ⟨j, hj, .inr (.inr rfl)⟩

/-- The status of a job changes in the ways of `Call.Turns`, and in no other. -/
theorem turns_iff (hj : q.rows[i]? = some j) :
    ((c.on now q).rows[i]? = some k ∧ k.status ≠ j.status) ↔ c.Turns now q i j k := by
  constructor
  · rintro ⟨hk, hne⟩
    obtain ⟨k', hk', hturns⟩ := turns_on q now c hj
    obtain rfl := Option.some.inj (hk.symm.trans hk')
    rcases hturns with hturns | ⟨age, -, rfl⟩ | rfl
    · exact hturns
    · exact absurd rfl hne
    · exact absurd rfl hne
  · intro h
    exact ⟨h.getElem?_on hj, h.status_ne⟩

/-- A request for a lease changes one job at most. -/
theorem place_unique {i' : Nat} {j' k' : Job} (hj : q.rows[i]? = some j)
    (hj' : q.rows[i']? = some j') (h : Call.acquire.Turns now q i j k)
    (h' : Call.acquire.Turns now q i' j' k') : i = i' := by
  have hnot : ∀ {m n : Nat} {a b d e : Job}, q.rows[m]? = some a →
      Call.acquire.Turns now q m a d → Call.acquire.Turns now q n b e → ¬m < n := by
    intro m n a b d e ha hm hn hlt
    cases hm with
    | leases _ pending _ =>
      cases hn with
      | leases _ _ first =>
        have hmem : a ∈ q.rows.take n :=
          List.mem_of_getElem? (i := m) (by rw [List.getElem?_take_of_lt hlt, ha])
        exact first a hmem pending
  have hle := hnot hj h h'
  have hge := hnot hj' h' h
  omega

/-! ### What stays -/

/-- What the jobs ask for stays, and so do their number and their order. -/
theorem map_request_on (q : Queue) (now : Time.Instant) (c : Call) :
    (c.on now q).rows.map Job.request = q.rows.map Job.request :=
  map_rows_on Job.request (fun _ _ => rfl) (fun _ _ _ => rfl) (fun _ _ _ => rfl) (fun _ _ => rfl)
    (fun _ _ => rfl) q now c

theorem map_request_after (q : Queue) (calls : Calls) :
    (q.after calls).rows.map Job.request = q.rows.map Job.request := by
  induction calls generalizing q with
  | nil => rfl
  | cons call calls ih =>
    obtain ⟨now, c⟩ := call
    rw [after_cons, ih, map_request_on]

/-- Jobs that ask for the same have the same identifiers. -/
theorem ids_of_requests {p : Queue} (h : p.rows.map Job.request = q.rows.map Job.request) :
    p.rows.map Job.id = q.rows.map Job.id := by
  have hids := congrArg (List.map Prod.fst) h
  rw [List.map_map, List.map_map] at hids
  exact hids

/-- The job that was at a place. -/
theorem exists_of_getElem?_on (hk : (c.on now q).rows[i]? = some k) :
    ∃ j, q.rows[i]? = some j ∧ j.request = k.request := by
  have hplace : (q.rows.map Job.request)[i]? = some k.request := by
    rw [← map_request_on q now c, List.getElem?_map, hk, Option.map_some]
  rw [List.getElem?_map, Option.map_eq_some_iff] at hplace
  exact hplace

/-- A job that is completed was so before the call, with the same result, or else the call reports
this result under its identifier. -/
theorem completed_on (hk : (c.on now q).rows[i]? = some k) (hs : k.status = .completed) :
    (∃ j, q.rows[i]? = some j ∧ j.status = .completed ∧ j.id = k.id ∧ j.resultKey = k.resultKey) ∨
      ∃ key, c = .complete k.id key ∧ k.resultKey = some key := by
  obtain ⟨j, hj, -⟩ := exists_of_getElem?_on hk
  obtain ⟨k', hk', hturns⟩ := turns_on q now c hj
  obtain rfl := Option.some.inj (hk.symm.trans hk')
  rcases hturns with hturns | ⟨age, -, rfl⟩ | rfl
  · cases hturns with
    | leases up pending first => exact absurd hs (by simp [Job.leasedAt])
    | completes key taken held first => exact .inr ⟨key, rfl, rfl⟩
    | fails message taken held first => exact absurd hs (by simp [Job.failedAt])
    | requeues age stale => exact absurd hs (by simp [Job.requeuedAt])
  · exact .inl ⟨j, hj, hs, rfl, rfl⟩
  · exact .inl ⟨_, hj, hs, rfl, rfl⟩

/-- A job that has ended stays as it is. -/
theorem getElem?_on_of_isFinished (hc : c.isBackdating = false) (hj : q.rows[i]? = some j)
    (hf : j.isFinished = true) : (c.on now q).rows[i]? = some j := by
  obtain ⟨k, hk, hturns⟩ := turns_on q now c hj
  rcases hturns with hturns | ⟨age, rfl, -⟩ | rfl
  · have hopen := hturns.not_finished
    rw [hf] at hopen
    exact absurd hopen (by simp)
  · exact absurd hc (by simp [Call.isBackdating])
  · exact hk

theorem getElem?_after_of_isFinished (hc : ∀ call ∈ calls, call.2.isBackdating = false)
    (hj : q.rows[i]? = some j) (hf : j.isFinished = true) : (q.after calls).rows[i]? = some j := by
  induction calls generalizing q with
  | nil => exact hj
  | cons call calls ih =>
    obtain ⟨now, c⟩ := call
    rw [List.forall_mem_cons] at hc
    rw [after_cons]
    exact ih hc.2 (getElem?_on_of_isFinished hc.1 hj hf)

/-- **The life of a job.**  Whatever the jobs of a queue are, a call changes the status of the one at
a place exactly in the ways of `Call.Turns`: a request for a lease that meets no outage hands out the
first pending job and no other, a report ends the first job of its identifier that is being
processed, and what is taken back is pending again.  Over any calls the jobs keep their number, their
order and what they ask for; and from any point on, a job that has ended stays as it is, as long as no
lease is moved back in time. -/
theorem status_changes (q : Queue) :
    (∀ now c i j k, q.rows[i]? = some j →
      ((Call.on now q c).rows[i]? = some k ∧ k.status ≠ j.status ↔ c.Turns now q i j k)) ∧
    (∀ now i i' j j' k k', q.rows[i]? = some j → q.rows[i']? = some j' →
      Call.acquire.Turns now q i j k → Call.acquire.Turns now q i' j' k' → i = i') ∧
    (∀ calls, (q.after calls).rows.map Job.request = q.rows.map Job.request) ∧
    (∀ before calls : Calls, (∀ call ∈ calls, call.2.isBackdating = false) → ∀ (i : Nat) (j : Job),
      (q.after before).rows[i]? = some j → j.isFinished = true →
      (q.after (before ++ calls)).rows[i]? = some j) := by
  refine ⟨?_, ?_, map_request_after q, ?_⟩
  · intro now c i j k hj
    exact turns_iff hj
  · intro now i i' j j' k k' hj hj' h h'
    exact place_unique hj hj' h h'
  · intro before calls hc i j hj hf
    rw [after_append]
    exact getElem?_after_of_isFinished hc hj hf

/-- Two jobs with one identifier: the first has failed, the other one is pending. -/
private def twins : Queue where
  rows := [{ (default : Job) with id := .nil, status := .failed, errorMessage := some "no page" },
    { (default : Job) with id := .nil }]

/-- The pending job is leased and reported on twice, first with success and then with failure. -/
private def errand : Calls :=
  [(default, .acquire), (default, .complete .nil "key"), (default, .fail .nil "late")]

/-- The second of two jobs with one identifier goes from pending to completed, the first one stays
failed, and the second report on them changes neither. -/
theorem status_changes_twins :
    (∃ j, (Call.acquire.on default twins).rows[1]? = some j ∧ j.status = .processing) ∧
    (twins.after errand).rows[0]? = twins.rows[0]? ∧
    (twins.after errand).rows[1]? = (twins.after (errand.take 2)).rows[1]? ∧
    (twins.after errand).rows.map Job.request = twins.rows.map Job.request := by
  obtain ⟨hturns, -, hrequest, hfinished⟩ := status_changes twins
  have hplain : ∀ call ∈ errand, call.2.isBackdating = false := by decide
  refine ⟨?_, ?_, ?_, hrequest errand⟩
  · obtain ⟨hj, -⟩ := (hturns default .acquire 1 _ _ rfl).2 (.leases rfl rfl (by decide))
    exact ⟨_, hj, rfl⟩
  · exact hfinished [] errand hplain 0 _ rfl rfl
  · exact hfinished (errand.take 2) (errand.drop 2)
      (fun call hcall => hplain call (List.mem_of_mem_drop hcall)) 1 _ rfl rfl

end Queue

end PageHarvest
