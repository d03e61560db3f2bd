import PageHarvest.Proofs.Queue.Lifecycle

/-!
# What earlier attempts leave behind

A job may come to a queue with a result or an error from before, for example one that had ended and was
put back by hand.  A report of success clears the error, but a report of failure leaves the result where
it is (`failed_with_result`).  So a report of success always leaves a coherent record, and a report of
failure does so exactly if the job carried no result (`coherent_after_report`).  In a run, a result that
a failed job carries has been there from the beginning, as a job that gets one has ended.
-/

namespace PageHarvest

namespace Job

/-- A result is on record exactly if the job is completed, and an error exactly if it has failed. -/
structure IsCoherent (j : Job) : Prop where
  result : j.resultKey.isSome ↔ j.status = .completed
  error : j.errorMessage.isSome ↔ j.status = .failed

/-- What is on record about the job `k` comes from its own end, or else from the job `j` that it was in
the beginning. -/
structure CarriesOn (j k : Job) : Prop where
  result : k.status ≠ .completed → k.resultKey = j.resultKey
  completed : k.status = .completed → j.status ≠ .completed →
    k.resultKey.isSome ∧ k.errorMessage = none
  failed : k.status = .failed → j.status ≠ .failed → k.errorMessage.isSome

variable {j k : Job}

theorem CarriesOn.refl (j : Job) : j.CarriesOn j where
  result _ := rfl
  completed h hne := absurd h hne
  failed h hne := absurd h hne

/-- A job that was completed since the beginning is on record as that and nothing else. -/
theorem CarriesOn.isCoherent_of_completed (h : j.CarriesOn k) (hk : k.status = .completed)
    (hj : j.status ≠ .completed) : k.IsCoherent where
  result := iff_of_true (h.completed hk hj).1 hk
  error := iff_of_false (by simp [(h.completed hk hj).2]) (by simp [hk])

/-- A job that has failed since the beginning is on record as that, but for a result from before. -/
theorem CarriesOn.isCoherent_iff_of_failed (h : j.CarriesOn k) (hk : k.status = .failed)
    (hj : j.status ≠ .failed) : k.IsCoherent ↔ j.resultKey = none := by
  have hresult : k.resultKey = j.resultKey := h.result (by simp [hk])
  rw [← hresult, ← Option.not_isSome_iff_eq_none]
  constructor
  · intro hcoherent hsome
    exact absurd (hcoherent.result.1 hsome) (by simp [hk])
  · intro hnone
    exact ⟨iff_of_false hnone (by simp [hk]), iff_of_true (h.failed hk hj) hk⟩

end Job

namespace Queue

variable {q : Queue} {now : Time.Instant} {c : Call} {calls : Calls} {i : Nat} {j k j₀ : Job}

/-! ### One call -/

/-- A change of status carries on what is on record. -/
theorem Call.Turns.carriesOn (h : c.Turns now q i j k) (hj : j₀.CarriesOn j) : j₀.CarriesOn k := by
  cases h with
  | leases up pending first =>
    exact ⟨fun _ => hj.result (by simp [pending]), by simp [Job.leasedAt], by simp [Job.leasedAt]⟩
  | completes key taken held first =>
    exact ⟨by simp [Job.completedAt], fun _ _ => ⟨rfl, rfl⟩, by simp [Job.completedAt]⟩
  | fails message taken held first =>
    -- The report does not touch the result.
    exact ⟨fun _ => hj.result (by simp [held]), by simp [Job.failedAt], fun _ _ => rfl⟩
  | requeues age stale =>
    have held := isStale_processing stale
    exact ⟨fun _ => hj.result (by simp [held]), by simp [Job.requeuedAt], by simp [Job.requeuedAt]⟩

/-- A report that changes a job ends it. -/
theorem turns_of_report (hc : c.isReport = true) (hj : q.rows[i]? = some j)
    (hk : (c.on now q).rows[i]? = some k) (hne : k ≠ j) :
    c.Turns now q i j k ∧ (k.status = .completed ∨ k.status = .failed) := by
  obtain ⟨k', hk', hturns⟩ := turns_on q now c hj
  obtain rfl := Option.some.inj (hk.symm.trans hk')
  rcases hturns with hturns | ⟨age, rfl, -⟩ | rfl
  · refine ⟨hturns, ?_⟩
    cases hturns with
    | completes => exact .inl rfl
    | fails => exact .inr rfl
    | leases | requeues => exact absurd hc (by simp [Call.isReport])
  · exact absurd hc (by simp [Call.isReport])
  · exact absurd rfl hne

/-! ### Any number of calls -/

/-- What is on record about the job at a place comes from its own end or from the beginning. -/
theorem exists_carriesOn_after (q : Queue) (calls : Calls) (hj : q.rows[i]? = some j)
    (hcarries : j₀.CarriesOn j) : ∃ k, (q.after calls).rows[i]? = some k ∧ j₀.CarriesOn k := by
  induction calls generalizing q j with
  | nil => exact ⟨j, hj, hcarries⟩
  | cons call calls ih =>
    obtain ⟨now, c⟩ := call
    obtain ⟨j', hj', hturns⟩ := turns_on q now c hj
    rw [after_cons]
    rcases hturns with hturns | ⟨age, -, rfl⟩ | rfl
    · exact ih _ hj' (hturns.carriesOn hcarries)
    · exact ih _ hj' ⟨hcarries.result, hcarries.completed, hcarries.failed⟩
    · exact ih _ hj' hcarries

/-- **What a report leaves on record.**  A report that changes a job, whatever was on record about it,
is about a job that was being processed.  If it completes the job, the record is coherent; if it fails
the job, the record is coherent exactly if the job carried no result.  Over any calls, a job that is
completed since the beginning has a coherent record, and one that has failed since then has one exactly
if it had no result in the beginning. -/
theorem coherent_after_report (q : Queue) (i : Nat) (j k : Job) (hj : q.rows[i]? = some j) :
    (∀ now c, c.isReport = true → (Call.on now q c).rows[i]? = some k → k ≠ j →
      j.status = .processing ∧ (k.status = .completed ∧ k.IsCoherent ∨
        k.status = .failed ∧ (k.IsCoherent ↔ j.resultKey = none))) ∧
    (∀ calls, (q.after calls).rows[i]? = some k →
      (k.status = .completed → j.status ≠ .completed → k.IsCoherent) ∧
      (k.status = .failed → j.status ≠ .failed → (k.IsCoherent ↔ j.resultKey = none))) := by
  constructor
  · intro now c hc hk hne
    obtain ⟨hturns, hended⟩ := turns_of_report hc hj hk hne
    have hcarries := hturns.carriesOn (.refl j)
    have held : j.status = .processing := by
      cases hturns with
      | completes key taken held first => exact held
      | fails message taken held first => exact held
      | leases | requeues => exact absurd hc (by simp [Call.isReport])
    refine ⟨held, ?_⟩
    rcases hended with hcompleted | hfailed
    · exact .inl ⟨hcompleted, hcarries.isCoherent_of_completed hcompleted (by simp [held])⟩
    · exact .inr ⟨hfailed, hcarries.isCoherent_iff_of_failed hfailed (by simp [held])⟩
  · intro calls hk
    obtain ⟨k', hk', hcarries⟩ := exists_carriesOn_after q calls hj (.refl j)
    obtain rfl := Option.some.inj (hk.symm.trans hk')
    exact ⟨hcarries.isCoherent_of_completed, hcarries.isCoherent_iff_of_failed⟩

/-- A job that is being processed, with a result and an error from before. -/
private def reopened : Queue where
  rows := [{ (default : Job) with
    status := .processing, resultKey := some "results/earlier", errorMessage := some "HTTP 503" }]

/-- The report of success leaves a coherent record, the report of failure does not. -/
theorem coherent_after_report_reopened :
    (∃ k, ((Call.complete .nil "results/later").on default reopened).rows[0]? = some k ∧
      k.IsCoherent) ∧
    ∃ k, ((Call.fail .nil "HTTP 404").on default reopened).rows[0]? = some k ∧ ¬k.IsCoherent := by
  constructor
  · obtain ⟨-, ⟨-, hcoherent⟩ | ⟨hfailed, -⟩⟩ := (coherent_after_report reopened 0 _ _ rfl).1 default
      (.complete .nil "results/later") rfl rfl (by decide)
    · exact ⟨_, rfl, hcoherent⟩
    · exact absurd hfailed (by decide)
  · obtain ⟨-, ⟨hcompleted, -⟩ | ⟨-, hcoherent⟩⟩ := (coherent_after_report reopened 0 _ _ rfl).1 default
      (.fail .nil "HTTP 404") rfl rfl (by decide)
    · exact absurd hcompleted (by decide)
    · exact ⟨_, rfl, fun h => absurd (hcoherent.1 h) (by decide)⟩

/-- A completed job that was put back to be done again. -/
private def putBack : Queue where
  rows := [{ (default : Job) with status := .pending, resultKey := some "results/earlier" }]

/-- Leased again and then ended in failure, the job still has its result. -/
theorem failed_with_result :
    ∃ k, (putBack.after [(default, .acquire), (default, .fail .nil "HTTP 503")]).rows[0]? = some k ∧
      k.status = .failed ∧ k.resultKey.isSome := by
  exact ⟨_, rfl, rfl, rfl⟩

end Queue

end PageHarvest
