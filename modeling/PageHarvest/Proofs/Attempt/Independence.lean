import PageHarvest.Proofs.Attempt.Course

/-!
# Attempts and the record of the posting

Nothing of an attempt depends on the record of the posting but what is stored as that record: not the
stages, not the outcome, not the text that is kept.  `Progress.veiled` is an attempt as it looks to
someone who sees neither these records nor whether they came in time.  Two attempts that look the same
look the same after one more step, whoever makes out their postings (`veiled_advance`), and so do whole
attempts (`veiled_attempt`).  The main statement is `attempt_independent`.
-/

namespace PageHarvest.Attempt

open Log

/-- The script with someone who makes this record of any posting and takes so long for it. -/
def Script.analyzing (script : Script) (posting : Posting) (delay : Time.Span) : Script :=
  { script with posting := some posting, analyzeDelay := delay }

/-! ### The veil -/

/-- An artifact without what it says if it is the record of a posting. -/
def Stored.veiled (a : Stored) : Stored :=
  match a.kind with
  | .analysis => { a with body := "" }
  | .content => a

/-- A step without the record of the posting that is still to be kept. -/
def Step.veiled : Step → Step
  | store text (some _) => .store text (some .empty)
  | step => step

/-- The world without what the records of postings say and without the texts they were made of. -/
def Script.State.veiled (w : Script.State) : Script.State :=
  { w with analyzed := [], puts := w.puts.map Stored.veiled }

/-- The entry tells that the record of a posting did not come in time. -/
def tellsOfAbandonment : Entry → Bool
  | .event e _ => e.message == "analysis abandoned, using empty record"
  | .span _ => false

/-- A log without that. -/
def veiledLog (log : List Entry) : List Entry := log.filter (!tellsOfAbandonment ·)

namespace Progress

/-- The attempt as it looks to someone who sees neither the records of postings nor whether they came
in time. -/
def veiled (p : Progress Script.State) : Progress Script.State where
  step := p.step.veiled
  visited := p.visited
  elapsed := ⟨0⟩
  world := p.world.veiled
  log := veiledLog p.log

end Progress

/-! ### Steps and calls behind the veil -/

variable {script : Script} {s : Settings} {job : Job} {p p' : Progress Script.State}
  {step step' : Step} {w w' : Script.State} {α : Type}

theorem stage_veiled (step : Step) : step.veiled.stage = step.stage := by
  fun_cases Step.veiled step <;> rfl

/-- Steps that look the same differ at most in a record that is still to be kept. -/
theorem eq_or_store_of_veiled (h : step.veiled = step'.veiled) : step = step' ∨
    ∃ text posting posting', step = .store text (some posting) ∧
      step' = .store text (some posting') := by
  unfold Step.veiled at h
  split at h
  · next text posting =>
    split at h
    · next text' posting' =>
      obtain ⟨rfl, -⟩ := Step.store.inj h
      exact .inr ⟨text, posting, posting', rfl, rfl⟩
    · next hother => exact absurd h.symm (hother text .empty)
  · next hother =>
    split at h
    · next text posting => exact absurd h (hother text .empty)
    · exact .inl h

/-- Worlds look the same if they have the same pages, have been asked for the same ones, and keep
artifacts that look the same. -/
theorem veiled_eq_iff : w.veiled = w'.veiled ↔ w.pages = w'.pages ∧ w.fetched = w'.fetched ∧
    w.puts.map Stored.veiled = w'.puts.map Stored.veiled := by
  simp [Script.State.veiled]

/-- Two calls that take the same time and that nobody can tell apart who does not see records of
postings. -/
structure Call.Alike (c c' : Call Script.State α) : Prop where
  delay : c.delay = c'.delay
  run : ∀ w w' : Script.State, w.veiled = w'.veiled → (c.run w).1 = (c'.run w').1 ∧
    (c.run w).2.1.veiled = (c'.run w').2.1.veiled ∧ (c.run w).2.2 = (c'.run w').2.2

/-- Calls that cannot be told apart are given up both or neither. -/
theorem Call.Alike.within {c c' : Call Script.State α} (h : c.Alike c') (limit : Option Time.Span)
    (hw : w.veiled = w'.veiled) : (c.within limit w).1 = (c'.within limit w').1 ∧
      (c.within limit w).2.2.1.veiled = (c'.within limit w').2.2.1.veiled ∧
      (c.within limit w).2.2.2 = (c'.within limit w').2.2.2 := by
  obtain ⟨houtcome, hworld, hlog⟩ := h.run w w' hw
  cases limit with
  | none => exact ⟨congrArg Except.ok houtcome, hworld, hlog⟩
  | some l =>
    simp only [Call.within, h.delay]
    -- The time is the same for both, so that both are late or neither is.
    by_cases hlate : l.nanos < c'.delay.nanos
    · simp only [if_pos hlate]
      exact ⟨trivial, hw, trivial⟩
    · simp only [if_neg hlate]
      exact ⟨congrArg Except.ok houtcome, hworld, hlog⟩

namespace Progress

/-- Going on to steps that look the same leaves attempts that look the same. -/
theorem veiled_goTo (hp : p.veiled = p'.veiled) (hs : step.veiled = step'.veiled) :
    (p.goTo step).veiled = (p'.goTo step').veiled := by
  simp only [veiled, Progress.mk.injEq, true_and] at hp
  obtain ⟨hstep, hvisited, hworld, hlog⟩ := hp
  -- A stage counts once, so that the stages before have to agree as well.
  have hstage : step.stage = step'.stage := by rw [← stage_veiled, hs, stage_veiled]
  have hbefore : p.step.stage = p'.step.stage := by rw [← stage_veiled, hstep, stage_veiled]
  simp only [veiled, goTo, hs, hstage, hbefore, hvisited, hworld, hlog]

/-- So does saying what differs in hidden entries only. -/
theorem veiled_say (hp : p.veiled = p'.veiled) {entries entries' : List Entry}
    (he : veiledLog entries = veiledLog entries') :
    (p.say entries).veiled = (p'.say entries').veiled := by
  simp only [veiled, Progress.mk.injEq, true_and] at hp
  obtain ⟨hstep, hvisited, hworld, hlog⟩ := hp
  rw [veiledLog, veiledLog] at he hlog
  simp only [veiled, say, veiledLog, List.filter_append, hstep, hvisited, hworld, hlog, he]

/-- Hidden entries do not show. -/
theorem veiled_say_of_hidden {entries : List Entry} (h : veiledLog entries = []) :
    (p.say entries).veiled = p.veiled := by
  rw [veiledLog] at h
  simp only [veiled, say, veiledLog, List.filter_append, h, List.append_nil]

theorem call_eq (p : Progress Script.State) (limit : Option Time.Span) (span : Span)
    (c : Call Script.State α) : p.call limit span c = ((c.within limit p.world).1,
      { p with
        elapsed := ⟨p.elapsed.nanos + (c.within limit p.world).2.1.nanos⟩
        world := (c.within limit p.world).2.2.1 }.say
          (spanning span (c.within limit p.world).2.2.2)) := rfl

/-- Calls that cannot be told apart have the same outcome, and look the same afterwards. -/
theorem veiled_call {c c' : Call Script.State α} (hc : c.Alike c') (hp : p.veiled = p'.veiled)
    (limit : Option Time.Span) (span : Span) :
    (p.call limit span c).1 = (p'.call limit span c').1 ∧
      (p.call limit span c).2.veiled = (p'.call limit span c').2.veiled := by
  have hparts := hp
  simp only [veiled, Progress.mk.injEq, true_and] at hparts
  obtain ⟨hstep, hvisited, hworld, hlog⟩ := hparts
  obtain ⟨houtcome, hafter, hsaid⟩ := hc.within limit hworld
  rw [call_eq, call_eq]
  refine ⟨houtcome, veiled_say ?_ ?_⟩
  · simp only [veiled, hstep, hvisited, hafter, hlog]
  · rw [hsaid]

/-! ### One step -/

variable {posting posting' : Posting} {delay delay' : Time.Span}

theorem veiled_fetch (hp : p.veiled = p'.veiled) :
    (p.fetch (script.analyzing posting delay).collaborators s job).veiled
      = (p'.fetch (script.analyzing posting' delay').collaborators s job).veiled := by
  have halike : Call.Alike ((script.analyzing posting delay).collaborators.fetch job.url)
      ((script.analyzing posting' delay').collaborators.fetch job.url) := by
    refine ⟨rfl, ?_⟩
    intro w w' hw
    obtain ⟨hpages, hfetched, hputs⟩ := veiled_eq_iff.1 hw
    simp only [Script.collaborators, Script.fetch, veiled_eq_iff, hpages, hfetched]
    exact ⟨trivial, ⟨trivial, trivial, hputs⟩, trivial⟩
  obtain ⟨houtcome, hcalled⟩ := veiled_call halike hp s.stepTimeout
    (span "fetch_page" [("url", .shown job.url)])
  rw [fetch, fetch]
  rcases hfirst : p.call s.stepTimeout (span "fetch_page" [("url", .shown job.url)])
    ((script.analyzing posting delay).collaborators.fetch job.url) with ⟨outcome, q⟩
  rcases hsecond : p'.call s.stepTimeout (span "fetch_page" [("url", .shown job.url)])
    ((script.analyzing posting' delay').collaborators.fetch job.url) with ⟨outcome', q'⟩
  rw [hfirst, hsecond] at houtcome hcalled
  obtain rfl : outcome = outcome' := houtcome
  -- Given up, failed, or done: the next step is up to the outcome alone.
  rcases outcome with limit | (cause | markup)
  · exact veiled_goTo hcalled rfl
  · exact veiled_goTo hcalled rfl
  · exact veiled_goTo hcalled rfl

theorem veiled_normalize (markup : String) (hp : p.veiled = p'.veiled) :
    (p.normalize (script.analyzing posting delay).collaborators s job markup).veiled
      = (p'.normalize (script.analyzing posting' delay').collaborators s job markup).veiled :=
  veiled_goTo (veiled_say hp rfl) rfl

/-- Whatever becomes of the record of the posting, the attempt goes on to keep one, and looks as if it
were empty. -/
theorem veiled_analyze_eq (text : String) :
    (p.analyze (script.analyzing posting delay).collaborators s job text).veiled
      = ((p.say (spanning (span "analyze" [("text_bytes", size text)]) [])).goTo
          (.store text (some .empty))).veiled := by
  have hanalyze : (script.analyzing posting delay).collaborators.analyze
      = some fun text => ⟨delay, fun w => (posting, { w with analyzed := w.analyzed ++ [text] }, [])⟩ :=
    rfl
  rw [analyze, hanalyze]
  simp only [call_eq]
  cases hlimit : s.stepTimeout with
  | none => rfl
  | some limit =>
    by_cases hlate : limit.nanos < delay.nanos
    · -- The warning is all that shows that the record did not come in time.
      simp only [Call.within, if_pos hlate]
      refine veiled_goTo ?_ rfl
      refine (veiled_say_of_hidden ?_).trans rfl
      simp [veiledLog, event, tellsOfAbandonment]
    · simp only [Call.within, if_neg hlate]
      rfl

theorem veiled_analyze (text : String) (hp : p.veiled = p'.veiled) :
    (p.analyze (script.analyzing posting delay).collaborators s job text).veiled
      = (p'.analyze (script.analyzing posting' delay').collaborators s job text).veiled := by
  rw [veiled_analyze_eq, veiled_analyze_eq]
  exact veiled_goTo (veiled_say hp rfl) rfl

/-- Both attempts keep an artifact, or fail to; what it says may differ where it is veiled. -/
theorem veiled_put {kind : Artifact} {key body body' : String} {next : Step}
    (hp : p.veiled = p'.veiled)
    (hbody : (Stored.mk key kind body).veiled = (Stored.mk key kind body').veiled) :
    (p.put (script.analyzing posting delay).collaborators s kind key body next).veiled
      = (p'.put (script.analyzing posting' delay').collaborators s kind key body' next).veiled := by
  have halike : Call.Alike ((script.analyzing posting delay).collaborators.put kind key body)
      ((script.analyzing posting' delay').collaborators.put kind key body') := by
    refine ⟨rfl, ?_⟩
    intro w w' hw
    have hrefused : (script.analyzing posting delay).isRefused kind
        = (script.analyzing posting' delay').isRefused kind := rfl
    simp only [Script.collaborators, Script.put, hrefused]
    -- The script refuses the kind of artifact to both.
    by_cases h : (script.analyzing posting' delay').isRefused kind = true
    · simp only [if_pos h]
      exact ⟨trivial, hw, trivial⟩
    · simp only [if_neg h]
      obtain ⟨hpages, hfetched, hputs⟩ := veiled_eq_iff.1 hw
      refine ⟨trivial, veiled_eq_iff.2 ⟨hpages, hfetched, ?_⟩, trivial⟩
      rw [List.map_append, List.map_append, hputs, List.map_singleton, List.map_singleton, hbody]
  obtain ⟨houtcome, hcalled⟩ := veiled_call halike hp s.stepTimeout
    (span "store_artifact" [("key", .shown key)])
  rw [put, put]
  rcases hfirst : p.call s.stepTimeout (span "store_artifact" [("key", .shown key)])
    ((script.analyzing posting delay).collaborators.put kind key body) with ⟨outcome, q⟩
  rcases hsecond : p'.call s.stepTimeout (span "store_artifact" [("key", .shown key)])
    ((script.analyzing posting' delay').collaborators.put kind key body') with ⟨outcome', q'⟩
  rw [hfirst, hsecond] at houtcome hcalled
  obtain rfl : outcome = outcome' := houtcome
  rcases outcome with limit | (cause | ⟨⟩)
  · exact veiled_goTo hcalled rfl
  · exact veiled_goTo hcalled rfl
  · exact veiled_goTo hcalled rfl

/-- Attempts that look the same look the same one step later, whoever makes out their postings. -/
theorem veiled_advance (hp : p.veiled = p'.veiled) :
    (p.advance (script.analyzing posting delay).collaborators s job).veiled
      = (p'.advance (script.analyzing posting' delay').collaborators s job).veiled := by
  rcases eq_or_store_of_veiled (congrArg Progress.step hp) with
    hstep | ⟨text, kept, kept', hstep, hstep'⟩
  · rw [advance, advance, ← hstep]
    cases p.step with
    | fetch => exact veiled_fetch hp
    | normalize markup => exact veiled_normalize markup hp
    | analyze text => exact veiled_analyze text hp
    | store text posting =>
      cases posting with
      | some posting => exact veiled_put hp rfl
      | none => exact veiled_put hp rfl
    | done key => exact hp
    | error e => exact hp
  · -- The records to be kept may differ here, and they do not show.
    rw [advance, advance, hstep, hstep']
    exact veiled_put hp rfl

end Progress

/-! ### Whole attempts -/

section Attempt

variable {posting posting' : Posting} {delay delay' : Time.Span}

/-- Attempts in worlds that look the same look the same, whoever makes out their postings. -/
theorem veiled_attempt (hw : w.veiled = w'.veiled) :
    ((script.analyzing posting delay).attempt s job w).veiled
      = ((script.analyzing posting' delay').attempt s job w').veiled := by
  have hstart : (Progress.start w).veiled = (Progress.start w').veiled := by
    simp only [Progress.veiled, Progress.start, hw]
  have hsteps : ∀ n : Nat,
      ((Progress.advance (script.analyzing posting delay).collaborators s job)^[n]
          (Progress.start w)).veiled
        = ((Progress.advance (script.analyzing posting' delay').collaborators s job)^[n]
          (Progress.start w')).veiled := by
    intro n
    -- On the number of steps: the veil is kept by each.
    induction n with
    | zero => exact hstart
    | succ n ih =>
      rw [Function.iterate_succ_apply', Function.iterate_succ_apply']
      exact Progress.veiled_advance ih
  exact hsteps 5

/-- The outcome is read off a step that the veil leaves alone. -/
theorem outcome?_of_veiled (h : step.veiled = step'.veiled) {visited visited' : List Stage}
    {elapsed elapsed' : Time.Span} {log log' : List Entry} :
    (Progress.mk step visited elapsed w log).outcome?
      = (Progress.mk step' visited' elapsed' w' log').outcome? := by
  rcases eq_or_store_of_veiled h with rfl | ⟨text, kept, kept', rfl, rfl⟩
  · rfl
  · rfl

/-- The veil hides nothing of the texts that are kept. -/
theorem filter_content_of_veiled {puts puts' : List Stored}
    (h : puts.map Stored.veiled = puts'.map Stored.veiled) :
    puts.filter (·.kind == .content) = puts'.filter (·.kind == .content) := by
  have hfilter : ∀ puts : List Stored, puts.filter (·.kind == .content)
      = (puts.map Stored.veiled).filter (·.kind == .content) := by
    intro puts
    induction puts with
    | nil => rfl
    | cons a puts ih =>
      obtain ⟨key, kind, body⟩ := a
      -- Records are not kept by the filter, and texts are not veiled.
      cases kind with
      | analysis => exact ih
      | content => exact congrArg (_ :: ·) ih
  rw [hfilter, h, ← hfilter]

/-- **Independence of the record.**  Two attempts at a job in the same world, by the same settings and
by scripts that differ in nothing but the record made of any posting and the time that it takes, go
through the same stages and have the same outcome.  They fetch the same pages, and they keep the same
texts and the same artifacts under the same keys in the same order, except for what the records of the
posting say.  Even their logs differ in nothing but the warning that the record did not come in
time. -/
theorem attempt_independent (script : Script) (s : Settings) (job : Job) (w : Script.State)
    (posting posting' : Posting) (delay delay' : Time.Span) :
    let p := (script.analyzing posting delay).attempt s job w
    let p' := (script.analyzing posting' delay').attempt s job w
    p.visited = p'.visited ∧ p.outcome? = p'.outcome? ∧ p.world.pages = p'.world.pages ∧
      p.world.fetched = p'.world.fetched ∧
      p.world.puts.filter (·.kind == .content) = p'.world.puts.filter (·.kind == .content) ∧
      p.world.puts.map Stored.veiled = p'.world.puts.map Stored.veiled ∧
      p.log.filter (!tellsOfAbandonment ·) = p'.log.filter (!tellsOfAbandonment ·) := by
  intro p p'
  have hveiled : p.veiled = p'.veiled := veiled_attempt rfl
  simp only [Progress.veiled, Progress.mk.injEq, true_and] at hveiled
  obtain ⟨hstep, hvisited, hworld, hlog⟩ := hveiled
  obtain ⟨hpages, hfetched, hputs⟩ := veiled_eq_iff.1 hworld
  exact ⟨hvisited, outcome?_of_veiled hstep, hpages, hfetched, filter_content_of_veiled hputs, hputs,
    hlog⟩

end Attempt

end PageHarvest.Attempt
