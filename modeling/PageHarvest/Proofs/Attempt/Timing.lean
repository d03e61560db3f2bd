import PageHarvest.Proofs.Attempt.Course

/-!
# How long an attempt takes

The limit is a limit for one call.  Fetching and analyzing are one call each, but storing is two if
there is a record of the posting, and the second one gets a limit of its own.  So an attempt spends at
most the limit in any stage but storing, and there at most as many limits as there are artifacts
(`attempt_within_limits`), which is more than one limit exactly if the record is stored and both calls
together take longer (`storing_beyond_limit` is an attempt of this kind).

What one step takes is `elapsed_advance`.  From it and from the steps that can follow, `ahead` sums up
what is left in a stage, and `timeIn_eq_ahead` says so, by induction on the number of steps.
-/

namespace PageHarvest.Attempt

/-- The nanoseconds that a call takes, which is given up at the limit. -/
def Settings.taken (s : Settings) (delay : Time.Span) : Nat :=
  s.stepTimeout.elim delay.nanos fun limit => min delay.nanos limit.nanos

/-- In this stage others are called on. -/
def Stage.callsOut : Stage → Bool
  | fetching | analyzing | storing => true
  | _ => false

/-- The nanoseconds that an attempt spends in a stage in its next steps, so many of them. -/
def Progress.timeIn {σ : Type} (c : Collaborators σ) (s : Settings) (job : Job) (stage : Stage) :
    Nat → Progress σ → Nat
  | 0, _ => 0
  | n + 1, p =>
    let next := p.advance c s job
    (if stage = p.step.stage then next.elapsed.nanos - p.elapsed.nanos else 0) +
      next.timeIn c s job stage n

namespace Script

/-- The nanoseconds for making out the posting, if that is done at all. -/
def analysisTime (script : Script) (s : Settings) : Nat :=
  if script.posting.isSome then s.taken script.analyzeDelay else 0

/-- The nanoseconds for storing the record of a posting and then, if it is stored, the text. -/
def recordTime (script : Script) (s : Settings) : Nat :=
  (if script.keeps s .analysis then 2 else 1) * s.taken script.storeDelay

/-- The nanoseconds that a step takes. -/
def stepTime (script : Script) (s : Settings) : Step → Nat
  | .fetch => s.taken script.fetchDelay
  | .analyze _ => script.analysisTime s
  | .store _ _ => s.taken script.storeDelay
  | .normalize _ | .done _ | .error _ => 0

/-- The nanoseconds that an attempt spends in a stage if it gets its page. -/
def stageTime (script : Script) (s : Settings) : Stage → Nat
  | .fetching => s.taken script.fetchDelay
  | .analyzing => script.analysisTime s
  | .storing => if script.posting.isSome then script.recordTime s else s.taken script.storeDelay
  | .leased | .normalizing | .done | .errored => 0

/-- The nanoseconds that are left in a stage before a step. -/
def ahead (script : Script) (s : Settings) (stage : Stage) : Step → Nat
  | .fetch => script.stageTime s stage
  | .normalize _ => if stage = .fetching then 0 else script.stageTime s stage
  | .analyze _ =>
    (if stage = .analyzing then script.analysisTime s else 0) +
      if stage = .storing then script.recordTime s else 0
  | .store _ (some _) => if stage = .storing then script.recordTime s else 0
  | .store _ none => if stage = .storing then s.taken script.storeDelay else 0
  | .done _ | .error _ => 0

/-- The nanoseconds that an attempt spends in a stage. -/
def spent (script : Script) (s : Settings) (job : Job) (w : State) (stage : Stage) : Nat :=
  (Progress.start w).timeIn script.collaborators s job stage 5

end Script

variable {script : Script} {s : Settings} {job : Job} {w w' : Script.State} {step step' : Step}
  {stage : Stage} {markup : String}

/-! ### One step -/

theorem taken_le {limit : Time.Span} (h : s.stepTimeout = some limit) (delay : Time.Span) :
    s.taken delay ≤ limit.nanos := by
  rw [Settings.taken, h]
  exact Nat.min_le_right ..

/-- A call that is not given up takes its time. -/
theorem taken_of_allows {delay : Time.Span} (h : s.allows delay = true) :
    s.taken delay = delay.nanos := by
  rw [Settings.allows] at h
  rw [Settings.taken]
  cases hlimit : s.stepTimeout with
  | none => rfl
  | some limit =>
    rw [hlimit] at h
    exact Nat.min_eq_left (by simpa using h)

namespace Progress

variable {σ α : Type} {p : Progress σ}

theorem elapsed_goTo (p : Progress σ) (step : Step) : (p.goTo step).elapsed = p.elapsed := rfl

theorem elapsed_call (s : Settings) (span : Log.Span) (c : Call σ α) (p : Progress σ) :
    (p.call s.stepTimeout span c).2.elapsed.nanos = p.elapsed.nanos + s.taken c.delay := by
  rw [call, Settings.taken]
  cases s.stepTimeout with
  | none => rfl
  | some limit =>
    simp only [Call.within, Option.elim_some]
    split
    · next h => rw [Nat.min_eq_right (Nat.le_of_lt h)]; rfl
    · next h => rw [Nat.min_eq_left (Nat.le_of_not_lt h)]; rfl

/-- Going on to the next step takes no time, whatever the outcome of the call was. -/
theorem elapsed_fetch (c : Collaborators σ) (s : Settings) (job : Job) (p : Progress σ) :
    (p.fetch c s job).elapsed.nanos = p.elapsed.nanos + s.taken (c.fetch job.url).delay := by
  rw [← elapsed_call s (span "fetch_page" [("url", .shown job.url)]) (c.fetch job.url) p, fetch]
  -- What comes of the call decides which step is next, and none of the ways there takes time.
  split <;> next h => rw [h, elapsed_goTo]

theorem elapsed_put (c : Collaborators σ) (s : Settings) (kind : Artifact) (key body : String)
    (next : Step) (p : Progress σ) : (p.put c s kind key body next).elapsed.nanos
      = p.elapsed.nanos + s.taken (c.put kind key body).delay := by
  rw [← elapsed_call s (span "store_artifact" [("key", .shown key)]) (c.put kind key body) p, put]
  split <;> next h => rw [h, elapsed_goTo]

theorem elapsed_analyze {c : Collaborators σ} {analyzer : String → Call σ Posting}
    (h : c.analyze = some analyzer) (s : Settings) (job : Job) (text : String) (p : Progress σ) :
    (p.analyze c s job text).elapsed.nanos
      = p.elapsed.nanos + s.taken (analyzer text).delay := by
  rw [← elapsed_call s (span "analyze" [("text_bytes", size text)]) (analyzer text) p, analyze, h]
  dsimp only
  split <;> next hcall => rw [hcall]; rfl

theorem elapsed_analyze_of_none {c : Collaborators σ} (h : c.analyze = none) (s : Settings)
    (job : Job) (text : String) (p : Progress σ) :
    (p.analyze c s job text).elapsed = p.elapsed := by
  rw [analyze, h]
  rfl

/-- What a step takes is what its call takes. -/
theorem elapsed_advance (script : Script) (s : Settings) (job : Job)
    (p : Progress Script.State) :
    (p.advance script.collaborators s job).elapsed.nanos
      = p.elapsed.nanos + script.stepTime s p.step := by
  rw [advance]
  cases p.step with
  | fetch => exact elapsed_fetch script.collaborators s job p
  | normalize markup => rfl
  | analyze text =>
    rw [Script.stepTime, Script.analysisTime]
    -- Without anyone to make it out, no call is made.
    cases hposting : script.posting with
    | none =>
      have hnone : script.collaborators.analyze = none := by simp [Script.collaborators, hposting]
      exact congrArg Time.Span.nanos (elapsed_analyze_of_none hnone s job text p)
    | some posting =>
      obtain ⟨analyzer, hsome, hdelay⟩ : ∃ analyzer, script.collaborators.analyze = some analyzer ∧
          (analyzer text).delay = script.analyzeDelay := by
        simp [Script.collaborators, hposting]
      rw [elapsed_analyze hsome, hdelay]
      rfl
  | store text posting =>
    cases posting with
    | some posting => exact elapsed_put ..
    | none => exact elapsed_put ..
  | done key => rfl
  | error e => rfl

end Progress

/-! ### The whole attempt -/

/-- Storing is over if what is to be kept next is not kept. -/
theorem ahead_of_not_keeps {text : String} {posting : Option Posting}
    (h : script.keeps s (nextKind posting) = false) : script.ahead s stage (.store text posting)
      = if stage = .storing then s.taken script.storeDelay else 0 := by
  cases posting with
  | none => rfl
  | some posting =>
    have hrecord : script.recordTime s = s.taken script.storeDelay := by
      rw [Script.recordTime, if_neg (by simpa [nextKind] using h), Nat.one_mul]
    rw [Script.ahead, hrecord]

/-- What is left in a stage before a step is what the step takes and what is left after it, unless the
page is not got. -/
theorem ahead_of_moves (hmoves : Moves script s job w step step' w')
    (hpage : step = .fetch → ∃ markup, script.Fetches s job w markup) : script.ahead s stage step
      = (if stage = step.stage then script.stepTime s step else 0) + script.ahead s stage step' := by
  cases hmoves with
  | fetched intime page => cases stage <;> simp [Script.ahead, Script.stepTime, Step.stage,
      Script.stageTime]
  -- These two do not get the page.
  | unfetched intime page =>
    obtain ⟨markup, -, hmarkup⟩ := hpage rfl
    exact absurd (page.symm.trans hmarkup) (by simp)
  | fetchLate late =>
    obtain ⟨markup, hintime, -⟩ := hpage rfl
    exact absurd (late.symm.trans hintime) (by simp)
  | normalized analyzes => cases stage <;> simp [Script.ahead, Script.stepTime, Step.stage,
      Script.stageTime, analyzes]
  | unanalyzed missing => cases stage <;> simp [Script.ahead, Script.stepTime, Step.stage,
      Script.stageTime, Script.analysisTime, missing]
  -- The record is kept next, whatever became of it, so that the same is left.
  | analyzed | analysisLate | analysisMissing => rfl
  | keptRecord keeps =>
    have hrecord : script.recordTime s = s.taken script.storeDelay + s.taken script.storeDelay := by
      rw [Script.recordTime, if_pos keeps, Nat.two_mul]
    cases stage <;> simp [Script.ahead, Script.stepTime, Step.stage, hrecord]
  | keptText keeps => rfl
  | refused refused => exact ahead_of_not_keeps refused
  | storeLate late => exact ahead_of_not_keeps late
  | done | error => simp [Script.ahead, Script.stepTime]

theorem ahead_of_ended (h : step.left = 0) : script.ahead s stage step = 0 := by
  cases step with
  | done | error => rfl
  | fetch | normalize | analyze => exact absurd h (by simp [Step.left])
  | store text posting => cases posting <;> exact absurd h (by simp [Step.left])

/-- An attempt never goes back to its beginning. -/
theorem ne_fetch_of_moves (hmoves : Moves script s job w step step' w') : step' ≠ .fetch := by
  cases hmoves <;> simp

/-- An attempt that goes on to its end spends as much time in a stage as is left there, unless it does
not get its page. -/
theorem timeIn_eq_ahead (stage : Stage) (n : Nat) (p : Progress Script.State)
    (hpage : p.step = .fetch → ∃ markup, script.Fetches s job p.world markup)
    (hn : p.step.left ≤ n) :
    p.timeIn script.collaborators s job stage n = script.ahead s stage p.step := by
  -- On the steps that are left. Only the first one of all can fetch, so that nothing is asked of
  -- the page later.
  induction n generalizing p with
  | zero => rw [Progress.timeIn, ahead_of_ended (by omega)]
  | succ n ih =>
    obtain ⟨hmoves, -⟩ := Progress.advanced_advance script s job p
    have hleft := left_of_moves hmoves
    have hpast := ne_fetch_of_moves hmoves
    rw [Progress.timeIn, ih _ (fun hfetch => absurd hfetch hpast) (by omega),
      Progress.elapsed_advance, Nat.add_sub_cancel_left, ahead_of_moves hmoves hpage]

/-- The time that an attempt spends in a stage if it gets its page. -/
theorem spent_of_fetches (h : script.Fetches s job w markup) (stage : Stage) :
    script.spent s job w stage = script.stageTime s stage :=
  timeIn_eq_ahead stage 5 (.start w) (fun _ => ⟨markup, h⟩) (Nat.le_refl 5)

/-- An attempt that does not get its page ends with its first step. -/
theorem spent_of_not_fetches (h : ∀ markup, ¬script.Fetches s job w markup) (stage : Stage) :
    script.spent s job w stage = if stage = .fetching then script.stageTime s .fetching else 0 := by
  obtain ⟨hmoves, -⟩ := Progress.advanced_advance script s job (.start w)
  have hended : ∀ {step' w'}, Moves script s job w .fetch step' w' → step'.left = 0 := by
    intro step' w' hmoves
    cases hmoves with
    | fetched intime page => exact absurd ⟨intime, page⟩ (h _)
    | unfetched | fetchLate => rfl
  have hleft := hended hmoves
  rw [Script.spent, Progress.timeIn, timeIn_eq_ahead stage 4 _
      (fun hfetch => absurd hfetch (ne_fetch_of_moves hmoves)) (by omega),
    ahead_of_ended hleft, Progress.elapsed_advance, Nat.add_sub_cancel_left]
  rfl

/-- All time is spent in the stages in which others are called on. -/
theorem elapsed_iterate (n : Nat) (p : Progress Script.State) :
    ((Progress.advance script.collaborators s job)^[n] p).elapsed.nanos
      = p.elapsed.nanos + (p.timeIn script.collaborators s job .fetching n +
        p.timeIn script.collaborators s job .analyzing n +
        p.timeIn script.collaborators s job .storing n) := by
  induction n generalizing p with
  | zero => rfl
  | succ n ih =>
    -- A step takes time in its own stage only, and none in the other stages.
    have hstep : script.stepTime s p.step
        = (if .fetching = p.step.stage then script.stepTime s p.step else 0) +
          (if .analyzing = p.step.stage then script.stepTime s p.step else 0) +
          (if .storing = p.step.stage then script.stepTime s p.step else 0) := by
      cases p.step <;> simp [Script.stepTime, Step.stage]
    rw [Function.iterate_succ_apply, ih]
    simp only [Progress.timeIn, Progress.elapsed_advance, Nat.add_sub_cancel_left]
    omega

/-- The stages of an attempt, if it gets its page and if it does not. -/
theorem visited_cases (script : Script) (s : Settings) (job : Job) (w : Script.State) :
    ((∃ markup, script.Fetches s job w markup) ∧ ∃ last ∈ [Stage.done, .errored],
      (script.attempt s job w).visited = script.stages ++ [last]) ∨
    ((∀ markup, ¬script.Fetches s job w markup) ∧
      (script.attempt s job w).visited = [.leased, .fetching, .errored]) := by
  obtain ⟨p, hp, hcourse, hleft⟩ := course_iterate script s job w 5
  have hattempt : script.attempt s job w = p := hp
  rw [hattempt]
  rcases hcourse.ended (by omega) with ⟨markup, -, hvisited, hfetches, -⟩ |
    ⟨e, -, hvisited, -, hnone, -⟩ | ⟨markup, e, -, hvisited, -, hfetches, -⟩
  · exact .inl ⟨⟨markup, hfetches⟩, .done, by simp, hvisited⟩
  · exact .inr ⟨hnone, hvisited⟩
  · exact .inl ⟨⟨markup, hfetches⟩, .errored, by simp, hvisited⟩

/-! ### With a limit -/

variable {limit : Time.Span}

/-- No stage but storing takes longer than the limit. -/
theorem stageTime_le (h : s.stepTimeout = some limit) (hstage : stage ≠ .storing) :
    script.stageTime s stage ≤ limit.nanos := by
  cases stage with
  | storing => exact absurd rfl hstage
  | fetching => exact taken_le h _
  | analyzing =>
    rw [Script.stageTime, Script.analysisTime]
    split
    · exact taken_le h _
    · exact Nat.zero_le _
  | _ => exact Nat.zero_le _

/-- Each artifact takes one call at most. -/
theorem stageTime_storing_le (h : s.stepTimeout = some limit) :
    script.stageTime s .storing ≤ script.kinds.length * limit.nanos := by
  have hone : s.taken script.storeDelay ≤ limit.nanos := taken_le h _
  rw [Script.stageTime, Script.recordTime, Script.kinds]
  split
  · refine Nat.mul_le_mul ?_ hone
    split
    · exact Nat.le_refl 2
    · exact Nat.le_succ 1
  · simpa using hone

/-- Storing takes longer than one limit exactly if both artifacts are called for, the first one is
stored, and both calls together take longer. -/
theorem lt_stageTime_storing_iff (h : s.stepTimeout = some limit) :
    limit.nanos < script.stageTime s .storing ↔
      script.posting.isSome = true ∧ script.keeps s .analysis = true ∧
        limit.nanos < 2 * script.storeDelay.nanos := by
  have hone : ¬limit.nanos < s.taken script.storeDelay := Nat.not_lt.2 (taken_le h _)
  rw [Script.stageTime, Script.recordTime]
  by_cases hposting : script.posting.isSome = true
  · rw [if_pos hposting]
    by_cases hkeeps : script.keeps s .analysis = true
    · have hallows : s.allows script.storeDelay = true := by
        rw [Script.keeps, Bool.and_eq_true] at hkeeps
        exact hkeeps.1
      rw [if_pos hkeeps, taken_of_allows hallows]
      simp [hposting, hkeeps]
    · rw [if_neg hkeeps, Nat.one_mul]
      exact iff_of_false hone fun hall => hkeeps hall.2.1
  · rw [if_neg hposting]
    exact iff_of_false hone fun hall => hposting hall.1

/-- All stages together take a limit each, and one more if both artifacts are called for. -/
theorem sum_stageTime_le (h : s.stepTimeout = some limit) :
    script.stageTime s .fetching + script.stageTime s .analyzing + script.stageTime s .storing
      ≤ (script.stages.countP Stage.callsOut + if script.posting.isSome = true then 1 else 0) *
        limit.nanos := by
  have hfetch : script.stageTime s .fetching ≤ limit.nanos := stageTime_le h (by simp)
  have hanalyze : script.stageTime s .analyzing ≤ limit.nanos := stageTime_le h (by simp)
  have hstore : script.stageTime s .storing ≤ script.kinds.length * limit.nanos :=
    stageTime_storing_le h
  cases hposting : script.posting with
  | none =>
    have hnone : script.stageTime s .analyzing = 0 := by
      simp [Script.stageTime, Script.analysisTime, hposting]
    have hkinds : script.kinds.length = 1 := by simp [Script.kinds, hposting]
    have hcount : script.stages.countP Stage.callsOut = 2 := by
      rw [stages_of_none hposting]
      rfl
    rw [hkinds, Nat.one_mul] at hstore
    rw [hcount, if_neg (by simp)]
    omega
  | some posting =>
    have hkinds : script.kinds.length = 2 := by simp [Script.kinds, hposting]
    have hcount : script.stages.countP Stage.callsOut = 3 := by
      rw [stages_of_isSome (by simp [hposting])]
      rfl
    rw [hkinds] at hstore
    rw [hcount, if_pos (by simp)]
    omega

/-- A stage that is left out takes no time. -/
theorem stageTime_of_not_mem (h : stage ∉ script.stages) : script.stageTime s stage = 0 := by
  cases stage with
  | fetching | storing => exact absurd (by simp [Script.stages]) h
  | analyzing =>
    have hnone : ¬script.posting.isSome = true := by
      intro hsome
      exact h (by simp [Script.stages, hsome])
    rw [Script.stageTime, Script.analysisTime, if_neg hnone]
  | _ => rfl

/-- **The limit of an attempt.**  An attempt spends at most the limit in each stage but storing, and at
most one limit for each of its artifacts in storing.  It spends longer than the limit in storing exactly
if it gets its page, the posting is made out, its record is stored, and storing twice takes longer.
All its time is spent in the stages that it goes through and that call on others, and is at most a
limit for each of them, and one more if it stores a record. -/
theorem attempt_within_limits (script : Script) (s : Settings) (job : Job) (w : Script.State)
    (limit : Time.Span) (h : s.stepTimeout = some limit) :
    (∀ stage ≠ .storing, script.spent s job w stage ≤ limit.nanos) ∧
    script.spent s job w .storing ≤ script.kinds.length * limit.nanos ∧
    (limit.nanos < script.spent s job w .storing ↔
      (∃ markup, script.Fetches s job w markup) ∧ script.posting.isSome = true ∧
        script.keeps s .analysis = true ∧ limit.nanos < 2 * script.storeDelay.nanos) ∧
    (∀ stage ∉ (script.attempt s job w).visited, script.spent s job w stage = 0) ∧
    (script.attempt s job w).elapsed.nanos = script.spent s job w .fetching +
      script.spent s job w .analyzing + script.spent s job w .storing ∧
    (script.attempt s job w).elapsed.nanos
      ≤ ((script.attempt s job w).visited.countP Stage.callsOut +
        if .storing ∈ (script.attempt s job w).visited ∧ script.posting.isSome = true
          then 1 else 0) * limit.nanos := by
  have helapsed : (script.attempt s job w).elapsed.nanos = script.spent s job w .fetching +
      script.spent s job w .analyzing + script.spent s job w .storing := by
    exact (elapsed_iterate 5 (.start w)).trans (Nat.zero_add _)
  rw [helapsed]
  obtain ⟨⟨markup, hfetches⟩, last, hlast, hvisited⟩ | ⟨hnone, hvisited⟩ :=
    visited_cases script s job w
  · have hend : Stage.callsOut last = false := by
      simp only [List.mem_cons, List.not_mem_nil, or_false] at hlast
      rcases hlast with rfl | rfl <;> rfl
    have hstoring : Stage.storing ∈ script.stages ++ [last] := by simp [Script.stages]
    simp only [spent_of_fetches hfetches, hvisited]
    refine ⟨fun stage => stageTime_le h, stageTime_storing_le h, ?_, ?_, trivial, ?_⟩
    · rw [lt_stageTime_storing_iff h]
      exact ⟨fun hlate => ⟨⟨markup, hfetches⟩, hlate⟩, fun hlate => hlate.2⟩
    · intro stage hstage
      exact stageTime_of_not_mem fun hmem => hstage (List.mem_append_left _ hmem)
    · rw [List.countP_append, List.countP_singleton, if_neg (by simp [hend]), Nat.add_zero]
      simpa [hstoring] using sum_stageTime_le h
  · simp only [spent_of_not_fetches hnone, hvisited]
    refine ⟨?_, Nat.zero_le _, ?_, ?_, trivial, ?_⟩
    · intro stage _
      split
      · exact stageTime_le h (by simp)
      · exact Nat.zero_le _
    · refine iff_of_false (Nat.not_lt_zero _) ?_
      rintro ⟨⟨markup, hfetches⟩, -⟩
      exact hnone markup hfetches
    · intro stage hstage
      rw [if_neg]
      rintro rfl
      exact hstage (by simp)
    · have hfetch : script.stageTime s .fetching ≤ limit.nanos := stageTime_le h (by simp)
      have hcount : [Stage.leased, .fetching, .errored].countP Stage.callsOut = 1 := rfl
      rw [hcount]
      simpa using hfetch

/-- A page and a record of the posting, each got just within a second, and a store that takes six
tenths of one for an artifact. -/
private def slow : Script where
  pages := [.ok "<p>Rust</p>"]
  posting := some { title := "Dev" }
  fetchDelay := ⟨1000000000⟩
  analyzeDelay := ⟨1000000000⟩
  storeDelay := ⟨600000000⟩

/-- A limit of one second. -/
private def oneSecond : Settings := { stepTimeout := some ⟨1000000000⟩ }

/-- The record and the text are both stored within the limit, one after the other. -/
theorem attempt_within_limits_slow :
    oneSecond.stepTimeout = some ⟨1000000000⟩ ∧
    1000000000 < slow.spent oneSecond default slow.start .storing ∧
    slow.spent oneSecond default slow.start .storing ≤ 2 * 1000000000 ∧
    (slow.attempt oneSecond default slow.start).elapsed.nanos ≤ 4 * 1000000000 := by
  have hfetches : slow.Fetches oneSecond default slow.start "<p>Rust</p>" := ⟨rfl, rfl⟩
  obtain ⟨-, hstoring, hlate, -, -, helapsed⟩ :=
    attempt_within_limits slow oneSecond default slow.start ⟨1000000000⟩ rfl
  exact ⟨rfl, hlate.2 ⟨⟨_, hfetches⟩, rfl, rfl, by decide⟩, hstoring,
    Nat.le_trans helapsed (by decide +kernel)⟩

/-- Storing takes longer than the limit, and the attempt longer than a limit for each stage that calls
on others. -/
theorem storing_beyond_limit :
    1000000000 < slow.spent oneSecond default slow.start .storing ∧
    (slow.attempt oneSecond default slow.start).visited.countP Stage.callsOut * 1000000000
      < (slow.attempt oneSecond default slow.start).elapsed.nanos := by
  decide +kernel

end PageHarvest.Attempt
