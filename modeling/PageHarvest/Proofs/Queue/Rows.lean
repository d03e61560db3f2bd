import PageHarvest.Queue.Call
import Mathlib.Data.List.Nodup

/-!
# The jobs of a queue under calls

A queue is looked at through `Queue.job?`: what it holds under an identifier.  `Call.Does` lists all
that a call can do to one job, and `does_on` says that a call on a queue of distinct jobs does one of
these things to each of them.  What the changes leave alone in each job, no call changes
(`map_rows_on`), so that the identifiers and their order stay in any run (`ids_after`).
-/

namespace PageHarvest

namespace Queue

variable {α β : Type}

/-! ### Changing the first of its kind -/

/-- A change that does not show in what is read off by `g`. -/
theorem map_changeFirst (p : α → Bool) (f : α → α) (g : α → β) (hg : ∀ a, g (f a) = g a)
    (as : List α) : (changeFirst p f as).map g = as.map g := by
  induction as with
  | nil => rfl
  | cons a as ih =>
    rw [changeFirst]
    split
    · rw [List.map_cons, hg, List.map_cons]
    · rw [List.map_cons, ih, List.map_cons]

/-- A change that does not show in what is selected by `r` and read off by `g`. -/
theorem map_filter_changeFirst (p r : α → Bool) (f : α → α) (g : α → β)
    (h : ∀ a, p a = true → r (f a) = r a ∧ g (f a) = g a) (as : List α) :
    ((changeFirst p f as).filter r).map g = (as.filter r).map g := by
  -- On the list: the change is made at its head or further down.
  induction as with
  | nil => rfl
  | cons a as ih =>
    rw [changeFirst]
    split
    · next hp =>
      obtain ⟨hr, hg⟩ := h a hp
      rw [List.filter_cons, List.filter_cons, hr]
      split
      · rw [List.map_cons, hg, List.map_cons]
      · rfl
    · rw [List.filter_cons, List.filter_cons]
      split
      · rw [List.map_cons, ih, List.map_cons]
      · exact ih

/-- A change after which its object is no longer selected takes the first one out. -/
theorem filter_changeFirst_self (p : α → Bool) (f : α → α) (h : ∀ a, p (f a) = false)
    (as : List α) : (changeFirst p f as).filter p = (as.filter p).tail := by
  induction as with
  | nil => rfl
  | cons a as ih =>
    rw [changeFirst]
    split
    · next hp =>
      rw [List.filter_cons_of_neg (by simp [h a]), List.filter_cons_of_pos hp, List.tail_cons]
    · next hp => rw [List.filter_cons_of_neg hp, List.filter_cons_of_neg hp, ih]

/-- A change of something that is not selected, before it and after it. -/
theorem filter_changeFirst (p r : α → Bool) (f : α → α)
    (h : ∀ a, p a = true → r a = false ∧ r (f a) = false) (as : List α) :
    (changeFirst p f as).filter r = as.filter r := by
  induction as with
  | nil => rfl
  | cons a as ih =>
    rw [changeFirst]
    split
    · next hp =>
      obtain ⟨hr, hf⟩ := h a hp
      rw [List.filter_cons_of_neg (by simp [hf]), List.filter_cons_of_neg (by simp [hr])]
    · rw [List.filter_cons, List.filter_cons, ih]

/-- Where nothing is of the kind, nothing changes. -/
theorem changeFirst_eq_self (p : α → Bool) (f : α → α) {as : List α}
    (h : ∀ a ∈ as, ¬p a = true) : changeFirst p f as = as := by
  induction as with
  | nil => rfl
  | cons a as ih =>
    rw [List.forall_mem_cons] at h
    rw [changeFirst, if_neg h.1, ih h.2]

/-- Among distinct jobs the change is made to one of them only, the first that satisfies `p`. -/
theorem find?_changeFirst (p : Job → Bool) (f : Job → Job) (hf : ∀ j, (f j).id = j.id)
    (rows : List Job) (hd : (rows.map Job.id).Nodup) (x : Uuid) :
    (changeFirst p f rows).find? (·.id == x)
      = (rows.find? (·.id == x)).map fun j => if rows.find? p = some j then f j else j := by
  induction rows with
  | nil => rfl
  | cons a rows ih =>
    rw [List.map_cons, List.nodup_cons] at hd
    -- No job further down has the identifier of `a`.
    have hrest : ∀ j, rows.find? (·.id == x) = some j → j ≠ a := by
      rintro j hj rfl
      exact hd.1 (List.mem_map_of_mem (List.mem_of_find?_eq_some hj))
    rw [changeFirst]
    by_cases hp : p a = true
    · rw [if_pos hp, List.find?_cons, List.find?_cons, hf, List.find?_cons, hp]
      cases hx : a.id == x with
      | true => simp
      | false =>
        -- The changed job is `a`, so that every other one stays as it is.
        cases hj : rows.find? (·.id == x) with
        | none => rfl
        | some j => simp [(hrest j hj).symm]
    · rw [if_neg hp, List.find?_cons, List.find?_cons, ih hd.2]
      simp only [Bool.not_eq_true] at hp
      rw [List.find?_cons, hp]
      cases hx : a.id == x with
      | true =>
        have hne : rows.find? p ≠ some a := fun h =>
          hd.1 (List.mem_map_of_mem (List.mem_of_find?_eq_some h))
        simp [hne]
      | false => rfl

/-! ### A queue seen by its identifiers -/

variable {q : Queue} {now : Time.Instant} {c : Call} {x : Uuid} {j : Job}

/-- Among distinct jobs, one is known by its identifier. -/
theorem job?_eq_some (hq : q.Distinct) : q.job? x = some j ↔ j ∈ q.rows ∧ j.id = x := by
  constructor
  · intro h
    exact ⟨List.mem_of_find?_eq_some h, by simpa using List.find?_some h⟩
  · rintro ⟨hj, rfl⟩
    rw [job?]
    cases h : q.rows.find? (·.id == j.id) with
    | none => exact absurd (List.find?_eq_none.1 h j hj) (by simp)
    | some k =>
      have hk : k.id = j.id := by simpa using List.find?_some h
      rw [List.inj_on_of_nodup_map hq (List.mem_of_find?_eq_some h) hj hk]

theorem id_of_job? (h : q.job? x = some j) : j.id = x := by
  simpa using List.find?_some h

/-- The job that is handed out next. -/
def first? (q : Queue) : Option Job := q.rows.find? isPending

/-- During an outage nothing is leased, and the outage is used up. -/
theorem acquire_of_outage (h : 0 < q.outages) : q.acquire now
    = (.error unavailable,
      { q with acquireCalls := q.acquireCalls + 1, outages := q.outages - 1 }) := by
  simp [acquire, h]

/-- Otherwise the first pending job is leased, if there is one. -/
theorem acquire_of_no_outage (h : q.outages = 0) : q.acquire now
    = (.ok (q.first?.map (Job.leasedAt now)),
      { q with
        acquireCalls := q.acquireCalls + 1
        rows := changeFirst isPending (Job.leasedAt now) q.rows }) := by
  simp only [acquire, h, Nat.lt_irrefl, if_false]
  rfl

/-- Among distinct jobs, the one being processed that `finish` looks for is known by its
identifier. -/
theorem find?_finish (hq : q.Distinct) (id : Uuid) :
    q.rows.find? (fun j => j.id == id && j.status == .processing) = some j
      ↔ q.job? id = some j ∧ j.status = .processing := by
  constructor
  · intro h
    have hp := List.find?_some h
    simp only [Bool.and_eq_true, beq_iff_eq] at hp
    exact ⟨(job?_eq_some hq).2 ⟨List.mem_of_find?_eq_some h, hp.1⟩, hp.2⟩
  · rintro ⟨hj, hs⟩
    obtain ⟨hmem, hid⟩ := (job?_eq_some hq).1 hj
    cases h : q.rows.find? (fun j => j.id == id && j.status == .processing) with
    | none => exact absurd (List.find?_eq_none.1 h j hmem) (by simp [hid, hs])
    | some k =>
      have hp := List.find?_some h
      simp only [Bool.and_eq_true, beq_iff_eq] at hp
      -- Another job of this identifier would have been found before it.
      rw [List.inj_on_of_nodup_map hq (List.mem_of_find?_eq_some h) hmem (hp.1.trans hid.symm)]

/-- A terminal write changes the job that it names, as long as that is being processed. -/
theorem job?_finish (hq : q.Distinct) (id : Uuid) (f : Job → Job) (hf : ∀ j, (f j).id = j.id) :
    (q.finish id f).job? x
      = (q.job? x).map fun j => if j.id = id ∧ j.status = .processing then f j else j := by
  rw [finish, job?, find?_changeFirst _ _ hf _ hq, ← job?]
  cases h : q.job? x with
  | none => rfl
  | some j =>
    have hid := id_of_job? h
    simp only [Option.map_some, find?_finish hq]
    congr 2
    rw [eq_iff_iff]
    constructor
    · rintro ⟨hj, hs⟩
      exact ⟨id_of_job? hj, hs⟩
    · rintro ⟨hj, hs⟩
      exact ⟨by rw [← hj, hid, h], hs⟩

/-! ### What a call can do to a job -/

/-- What a call does to a job: the job afterwards.  Besides the change itself each case says when it
is made. -/
inductive Call.Does (now : Time.Instant) (q : Queue) : Call → Job → Job → Prop
  | leases {j : Job} (up : q.outages = 0) (first : q.first? = some j) :
    Does now q .acquire j (j.leasedAt now)
  | completes {j : Job} (key : String) (taken : q.refusesReports = false)
    (held : j.status = .processing) : Does now q (.complete j.id key) j (j.completedAt now key)
  | fails {j : Job} (message : String) (taken : q.refusesReports = false)
    (held : j.status = .processing) : Does now q (.fail j.id message) j (j.failedAt now message)
  | requeues {j : Job} (age : Time.Span) (stale : j.isStale now age = true) :
    Does now q (.requeueStale age) j (j.requeuedAt now)
  | backdates {j : Job} (age : Time.Span) :
    Does now q (.backdateLease j.id age) j (j.backdate age)
  | keeps {c : Call} {j : Job}
    (ungranted : j.id ∉ c.granted now q) (unrequeued : j.id ∉ c.requeued now q) :
    Does now q c j j

theorem mem_granted : x ∈ c.granted now q ↔ ∃ k, c.leased? now q = some k ∧ k.id = x := by
  rw [Call.granted, Option.mem_toList, Option.map_eq_some_iff]

theorem granted_of_not_acquire (hc : c ≠ .acquire) : c.granted now q = [] := by
  cases c with
  | acquire => exact absurd rfl hc
  | _ => rfl

/-- What asking for a lease hands out. -/
theorem leased?_acquire : Call.acquire.leased? now q
    = if 0 < q.outages then none else q.first?.map (Job.leasedAt now) := by
  rw [Call.leased?]
  by_cases h : 0 < q.outages
  · rw [acquire_of_outage h, if_pos h]
  · rw [acquire_of_no_outage (by omega), if_neg h]

/-- Outside of `acquire` nothing is handed out, outside of `requeueStale` nothing is taken back. -/
theorem does_of_plain (hl : c.leased? now q = none) (hr : c.requeued now q = []) :
    c.Does now q j j :=
  .keeps (by simp [Call.granted, hl]) (by simp [hr])

/-- Only a lease can be stale. -/
theorem isStale_processing {age : Time.Span} (h : j.isStale now age = true) :
    j.status = .processing := by
  rw [Job.isStale, Bool.and_eq_true, beq_iff_eq] at h
  exact h.1

private theorem does_acquire (hq : q.Distinct) (hj : q.job? x = some j) :
    ∃ j', (Call.acquire.on now q).job? x = some j' ∧ Call.acquire.Does now q j j' := by
  rw [Call.on]
  by_cases h : 0 < q.outages
  · rw [acquire_of_outage h]
    exact ⟨j, hj, does_of_plain (by rw [leased?_acquire, if_pos h]) rfl⟩
  · rw [acquire_of_no_outage (by omega)]
    simp only [job?]
    rw [find?_changeFirst isPending (Job.leasedAt now) (fun _ => rfl) q.rows hq, ← job?, hj]
    by_cases hf : q.first? = some j
    · exact ⟨j.leasedAt now, by rw [Option.map_some, if_pos (by exact hf)], .leases (by omega) hf⟩
    · refine ⟨j, by rw [Option.map_some, if_neg (by exact hf)], .keeps ?_ (by simp [Call.requeued])⟩
      -- What is handed out instead is another job, as no two share an identifier.
      rw [mem_granted, leased?_acquire, if_neg h]
      rintro ⟨k, hk, he⟩
      obtain ⟨i, hi, rfl⟩ := Option.map_eq_some_iff.1 hk
      have hmem := ((job?_eq_some hq).1 hj).1
      exact hf (by rw [hi, List.inj_on_of_nodup_map hq (List.mem_of_find?_eq_some hi) hmem he])

/-- A refused report leaves the jobs as they are. -/
theorem rows_complete (id : Uuid) (key : String) : (q.complete now id key).2.rows
    = if q.refusesReports then q.rows else (q.finish id (Job.completedAt now key)).rows := by
  unfold complete
  dsimp only
  split <;> rfl

theorem rows_fail (id : Uuid) (message : String) : (q.fail now id message).2.rows
    = if q.refusesReports then q.rows else (q.finish id (Job.failedAt now message)).rows := by
  unfold fail
  dsimp only
  split <;> rfl

/-- A report changes the job that it names, if that is being processed and the report is taken. -/
private theorem job?_of_report (hq : q.Distinct) (hj : q.job? x = some j) {p : Queue} {id : Uuid}
    {f : Job → Job} (hf : ∀ j, (f j).id = j.id)
    (hp : p.rows = if q.refusesReports then q.rows else (q.finish id f).rows) :
    p.job? x = some (if q.refusesReports = false ∧ j.id = id ∧ j.status = .processing
      then f j else j) := by
  rw [job?, hp]
  by_cases hr : q.refusesReports = true
  · rw [if_pos hr, if_neg (by simp [hr]), ← job?, hj]
  · rw [if_neg hr, ← job?, job?_finish hq id f hf, hj, Option.map_some]
    simp [hr]

private theorem does_complete (hq : q.Distinct) (hj : q.job? x = some j) (id : Uuid)
    (key : String) : ∃ j', ((Call.complete id key).on now q).job? x = some j' ∧
      (Call.complete id key).Does now q j j' := by
  refine ⟨_, job?_of_report hq hj (f := Job.completedAt now key) (fun _ => rfl)
    (rows_complete id key), ?_⟩
  split
  · next h =>
    obtain ⟨hr, rfl, hs⟩ := h
    exact .completes key hr hs
  · exact does_of_plain rfl rfl

private theorem does_fail (hq : q.Distinct) (hj : q.job? x = some j) (id : Uuid)
    (message : String) : ∃ j', ((Call.fail id message).on now q).job? x = some j' ∧
      (Call.fail id message).Does now q j j' := by
  refine ⟨_, job?_of_report hq hj (f := Job.failedAt now message) (fun _ => rfl)
    (rows_fail id message), ?_⟩
  split
  · next h =>
    obtain ⟨hr, rfl, hs⟩ := h
    exact .fails message hr hs
  · exact does_of_plain rfl rfl

theorem find?_map_rows (f : Job → Job) (hf : ∀ j, (f j).id = j.id) (rows : List Job) (x : Uuid) :
    (rows.map f).find? (·.id == x) = (rows.find? (·.id == x)).map f := by
  rw [List.find?_map]
  simp only [Function.comp_def, hf]

/-- What is taken back is what is counted. -/
theorem takeBack_eq (now : Time.Instant) (age : Time.Span) (rows : List Job) :
    takeBack now age rows = ((rows.filter (Job.isStale now age)).length,
      rows.map fun j => if j.isStale now age then j.requeuedAt now else j) := by
  induction rows with
  | nil => rfl
  | cons j rows ih =>
    rw [takeBack, ih]
    cases h : j.isStale now age with
    | true => simp [h]
    | false => simp [h]

/-- Every stale lease is taken back, and no other. -/
theorem rows_requeueStale (q : Queue) (now : Time.Instant) (age : Time.Span) :
    (q.requeueStale now age).2.rows
      = q.rows.map fun j => if j.isStale now age then j.requeuedAt now else j := by
  rw [requeueStale, takeBack_eq]

private theorem does_requeueStale (hq : q.Distinct) (hj : q.job? x = some j) (age : Time.Span) :
    ∃ j', ((Call.requeueStale age).on now q).job? x = some j' ∧
      (Call.requeueStale age).Does now q j j' := by
  refine ⟨if j.isStale now age then j.requeuedAt now else j, ?_, ?_⟩
  · simp only [Call.on, rows_requeueStale, job?]
    rw [find?_map_rows _ (fun j => by split <;> rfl), ← job?, hj, Option.map_some]
  · split
    · next h => exact .requeues age h
    · next h =>
      refine .keeps (by simp [Call.granted, Call.leased?]) fun hmem => ?_
      -- Whatever is taken back under this identifier is this job, which is not stale.
      obtain ⟨k, hk, he⟩ := List.mem_map.1 hmem
      rw [List.mem_filter] at hk
      rw [List.inj_on_of_nodup_map hq hk.1 ((job?_eq_some hq).1 hj).1 he] at hk
      exact h hk.2

private theorem does_backdateLease (hq : q.Distinct) (hj : q.job? x = some j) (id : Uuid)
    (age : Time.Span) : ∃ j', ((Call.backdateLease id age).on now q).job? x = some j' ∧
      (Call.backdateLease id age).Does now q j j' := by
  refine ⟨if j.id = id then j.backdate age else j, ?_, ?_⟩
  -- The lease of the first job of the identifier is moved, whatever its status.
  · have h : (q.backdateLease id age).job? x
        = (q.job? x).map fun j => if q.job? id = some j then j.backdate age else j :=
      find?_changeFirst (·.id == id) (Job.backdate age) (fun _ => rfl) q.rows hq x
    rw [Call.on, h, hj, Option.map_some]
    congr 2
    rw [eq_iff_iff]
    constructor
    · intro hi
      exact id_of_job? hi
    · rintro rfl
      rw [← id_of_job? hj] at hj
      exact hj
  · split
    · next h =>
      subst h
      exact .backdates age
    · exact does_of_plain rfl rfl

/-- **All that a call can do.** Each job of a queue of distinct jobs is there after the call, and
what happened to it is one of the cases of `Call.Does`. -/
theorem does_on (hq : q.Distinct) (now : Time.Instant) (c : Call) (hj : q.job? x = some j) :
    ∃ j', (c.on now q).job? x = some j' ∧ c.Does now q j j' := by
  cases c with
  | acquire => exact does_acquire hq hj
  | complete id key => exact does_complete hq hj id key
  | fail id message => exact does_fail hq hj id message
  | countStale age => exact ⟨j, hj, does_of_plain rfl rfl⟩
  | requeueStale age => exact does_requeueStale hq hj age
  | backdateLease id age => exact does_backdateLease hq hj id age
  | failNextAcquires count => exact ⟨j, hj, does_of_plain rfl rfl⟩
  | failReports refuses => exact ⟨j, hj, does_of_plain rfl rfl⟩

/-! ### Calls of one kind -/

theorem records_endedAt (now : Time.Instant) (outcome : Except Failure String) (j : Job) :
    (j.endedAt now outcome).Records outcome := by
  cases outcome with
  | ok key => exact ⟨rfl, rfl⟩
  | error failure => exact ⟨rfl, rfl⟩

/-- The jobs after a report, whichever of the two it is. -/
theorem rows_ofOutcome (id : Uuid) (outcome : Except Failure String) :
    ((Call.ofOutcome id outcome).on now q).rows
      = if q.refusesReports then q.rows else (q.finish id (Job.endedAt now outcome)).rows := by
  cases outcome with
  | ok key => exact rows_complete id key
  | error failure => exact rows_fail id failure.text

/-- What a report does to each job. -/
theorem job?_ofOutcome (hq : q.Distinct) (hj : q.job? x = some j) (id : Uuid)
    (outcome : Except Failure String) : ((Call.ofOutcome id outcome).on now q).job? x
      = some (if q.refusesReports = false ∧ j.id = id ∧ j.status = .processing
        then j.endedAt now outcome else j) :=
  job?_of_report hq hj (f := Job.endedAt now outcome) (fun _ => by cases outcome <;> rfl)
    (rows_ofOutcome id outcome)

/-- Where nothing is handed out, the jobs stay as they are. -/
theorem rows_acquire_of_none (h : Call.acquire.leased? now q = none) :
    (Call.acquire.on now q).rows = q.rows := by
  rw [leased?_acquire] at h
  rw [Call.on]
  by_cases ho : 0 < q.outages
  · rw [acquire_of_outage ho]
  · rw [if_neg ho, Option.map_eq_none_iff, first?, List.find?_eq_none] at h
    rw [acquire_of_no_outage (by omega)]
    exact changeFirst_eq_self isPending _ h

/-- What is handed out next is pending. -/
theorem status_of_first? (h : q.first? = some j) : j.status = .pending := by
  simpa [isPending] using List.find?_some h

/-- What is handed out is in the queue, was pending before, and the other jobs stay. -/
theorem job?_acquire {job : Job} (hq : q.Distinct) (h : Call.acquire.leased? now q = some job)
    (hj : q.job? x = some j) :
    (job.id = x ∧ j.status = .pending ∧ job = j.leasedAt now ∧
      (Call.acquire.on now q).job? x = some job) ∨
    (job.id ≠ x ∧ (Call.acquire.on now q).job? x = some j) := by
  obtain ⟨j', hj', hdoes⟩ := does_on hq now .acquire hj
  obtain rfl := id_of_job? hj
  cases hdoes with
  -- It is `j` that is handed out, or `j` is kept and another one is.
  | leases up first =>
    rw [leased?_acquire, if_neg (by omega), first, Option.map_some] at h
    obtain rfl := Option.some.inj h
    exact .inl ⟨rfl, status_of_first? first, rfl, hj'⟩
  | keeps ungranted unrequeued =>
    exact .inr ⟨fun he => ungranted (mem_granted.2 ⟨job, h, he⟩), hj'⟩

/-- What is handed out is a job of the queue, leased now. -/
theorem exists_of_leased? {job : Job} (h : Call.acquire.leased? now q = some job) :
    ∃ j ∈ q.rows, j.leasedAt now = job := by
  rw [leased?_acquire] at h
  split at h
  · exact absurd h (by simp)
  · obtain ⟨j, hj, hjob⟩ := Option.map_eq_some_iff.1 h
    exact ⟨j, List.mem_of_find?_eq_some hj, hjob⟩

/-- Nothing is handed out that was not in the queue. -/
theorem mem_ids_of_leased? {job : Job} (h : Call.acquire.leased? now q = some job) :
    job.id ∈ q.rows.map Job.id := by
  obtain ⟨j, hj, rfl⟩ := exists_of_leased? h
  exact List.mem_map.2 ⟨j, hj, rfl⟩

/-- Counting stale leases and announcing outages leave the jobs as they are. -/
theorem rows_on_of_isOutage (h : c.isOutage = true) : (c.on now q).rows = q.rows := by
  cases c with
  | countStale | failNextAcquires => rfl
  | _ => exact absurd h (by simp [Call.isOutage])

/-- What is left of a queue that is asked for a lease, but for its jobs. -/
theorem acquire_frame (q : Queue) (now : Time.Instant) : (q.acquire now).2 = { q with
    rows := (q.acquire now).2.rows
    outages := q.outages - 1
    acquireCalls := q.acquireCalls + 1 } := by
  by_cases ho : 0 < q.outages
  · rw [acquire_of_outage ho]
  · have hup : q.outages = 0 := by omega
    rw [acquire_of_no_outage hup, hup]

/-- What is left of a queue that is told of a result, but for its jobs. -/
theorem complete_frame (q : Queue) (now : Time.Instant) (id : Uuid) (key : String) :
    (q.complete now id key).2 = { q with
      rows := (q.complete now id key).2.rows
      completedCalls := q.completedCalls ++ [(id, key)] } := by
  unfold complete
  dsimp only
  split <;> rfl

/-- What is left of a queue that is told of a failure, but for its jobs. -/
theorem fail_frame (q : Queue) (now : Time.Instant) (id : Uuid) (message : String) :
    (q.fail now id message).2 = { q with
      rows := (q.fail now id message).2.rows
      failedCalls := q.failedCalls ++ [(id, message)] } := by
  unfold fail
  dsimp only
  split <;> rfl

/-- Only one call has a say in whether reports are refused. -/
theorem refusesReports_on (h : ∀ refuses, c ≠ .failReports refuses) :
    (c.on now q).refusesReports = q.refusesReports := by
  cases c with
  | acquire => rw [Call.on, acquire_frame]
  | complete id key => rw [Call.on, complete_frame]
  | fail id message => rw [Call.on, fail_frame]
  | failReports refuses => exact absurd rfl (h refuses)
  | _ => rfl

/-- A request for a lease uses up an outage, and only one other call has a say in them. -/
theorem outages_on (h : ∀ count, c ≠ .failNextAcquires count) :
    (c.on now q).outages = q.outages - if c == .acquire then 1 else 0 := by
  cases c with
  | acquire =>
    rw [Call.on, acquire_frame]
    rfl
  | complete id key =>
    rw [Call.on, complete_frame]
    rfl
  | fail id message =>
    rw [Call.on, fail_frame]
    rfl
  | failNextAcquires count => exact absurd rfl (h count)
  | _ => rfl

/-! ### What no call changes -/

/-- No call changes what is read off the jobs by `g`, if none of the changes to a job does. -/
theorem map_rows_on {β : Type} (g : Job → β) (hl : ∀ now j, g (Job.leasedAt now j) = g j)
    (hc : ∀ now key j, g (Job.completedAt now key j) = g j)
    (hf : ∀ now message j, g (Job.failedAt now message j) = g j)
    (hr : ∀ now j, g (Job.requeuedAt now j) = g j) (hb : ∀ age j, g (Job.backdate age j) = g j)
    (q : Queue) (now : Time.Instant) (c : Call) : (c.on now q).rows.map g = q.rows.map g := by
  cases c with
  | acquire =>
    rw [Call.on]
    by_cases h : 0 < q.outages
    · rw [acquire_of_outage h]
    · rw [acquire_of_no_outage (by omega)]
      exact map_changeFirst _ _ g (hl now) q.rows
  | complete id key =>
    rw [Call.on, rows_complete]
    split
    · rfl
    · exact map_changeFirst _ _ g (hc now key) q.rows
  | fail id message =>
    rw [Call.on, rows_fail]
    split
    · rfl
    · exact map_changeFirst _ _ g (hf now message) q.rows
  | requeueStale age =>
    simp only [Call.on, rows_requeueStale, List.map_map]
    -- A job that is not stale is not touched.
    refine List.map_congr_left fun j _ => ?_
    rw [Function.comp]
    split
    · exact hr now j
    · rfl
  | backdateLease id age => exact map_changeFirst _ _ g (hb age) q.rows
  | countStale age => rfl
  | failNextAcquires count => rfl
  | failReports refuses => rfl

/-- The identifiers and their order stay. -/
theorem ids_on (q : Queue) (now : Time.Instant) (c : Call) :
    (c.on now q).rows.map Job.id = q.rows.map Job.id :=
  map_rows_on Job.id (fun _ _ => rfl) (fun _ _ _ => rfl) (fun _ _ _ => rfl) (fun _ _ => rfl)
    (fun _ _ => rfl) q now c

theorem job?_eq_none : q.job? x = none ↔ x ∉ q.rows.map Job.id := by
  simp [job?, List.find?_eq_none]

/-- The identifiers are those under which there is a job. -/
theorem mem_ids_iff : x ∈ q.rows.map Job.id ↔ ∃ j, q.job? x = some j := by
  rw [← Option.isSome_iff_exists, ← not_iff_not, ← job?_eq_none, Option.not_isSome_iff_eq_none]

/-- A report leaves the jobs that it does not name. -/
theorem job?_ofOutcome_of_ne (hq : q.Distinct) {id : Uuid} (hx : x ≠ id)
    (outcome : Except Failure String) :
    ((Call.ofOutcome id outcome).on now q).job? x = q.job? x := by
  cases hj : q.job? x with
  | none =>
    rw [job?_eq_none] at hj ⊢
    rw [ids_on]
    exact hj
  | some j =>
    rw [job?_ofOutcome hq hj, if_neg]
    rintro ⟨-, hid, -⟩
    exact hx ((id_of_job? hj).symm.trans hid)

/-- Distinct jobs stay distinct. -/
theorem distinct_on (hq : q.Distinct) (now : Time.Instant) (c : Call) :
    (c.on now q).Distinct := by
  rw [Distinct, ids_on]
  exact hq

/-! ### Runs -/

@[simp] theorem after_nil (q : Queue) : q.after [] = q := rfl

@[simp] theorem after_cons (q : Queue) (now : Time.Instant) (c : Call) (calls : Calls) :
    q.after ((now, c) :: calls) = (c.on now q).after calls := rfl

theorem after_append (q : Queue) (a b : Calls) : q.after (a ++ b) = (q.after a).after b :=
  List.foldl_append ..

/-- A run leaves the identifiers and their order. -/
theorem ids_after (q : Queue) (calls : Calls) :
    (q.after calls).rows.map Job.id = q.rows.map Job.id := by
  induction calls generalizing q with
  | nil => rfl
  | cons call calls ih =>
    obtain ⟨now, c⟩ := call
    rw [after_cons, ih, ids_on]

theorem distinct_after (hq : q.Distinct) (calls : Calls) : (q.after calls).Distinct := by
  rw [Distinct, ids_after]
  exact hq

end Queue

end PageHarvest
