import PageHarvest.Attempt.Script

/-!
# Steps of an attempt

`Moves` lists all that one step of an attempt can come to when its collaborators act by a script, and
`advanced_advance` says that nothing is missing from the list.  What is shared by all steps is
`call_spec`: a call has its effect if it is within the limit, and otherwise it is given up and leaves
the world as it was.
-/

namespace PageHarvest.Attempt

open Log

/-- A call that takes so long is not given up. -/
def Settings.allows (s : Settings) (delay : Time.Span) : Bool :=
  s.stepTimeout.all fun limit => decide (delay.nanos ≤ limit.nanos)

/-- The text made of a page. -/
def Settings.text (s : Settings) (markup : String) : String :=
  String.ofList (Page.normalize s.page markup.toList)

/-- The stage in which something went wrong. -/
def Error.stage : Error → Stage
  | fetch _ => .fetching
  | store _ _ => .storing
  | timeout stage _ => stage

/-- The artifact that is to be kept next: the record of the posting if there is one, and then the
text. -/
def nextKind (posting : Option Posting) : Artifact :=
  if posting.isSome then .analysis else .content

/-- An artifact of a job. -/
def artifact (job : Job) (kind : Artifact) (body : String) : Stored :=
  ⟨Progress.key job kind, kind, body⟩

namespace Script

/-- An artifact of this kind is kept: it is not refused, and that does not take too long. -/
def keeps (script : Script) (s : Settings) (kind : Artifact) : Bool :=
  s.allows script.storeDelay && !script.isRefused kind

/-- The world with one more artifact. -/
def State.keep (w : State) (stored : Stored) : State := { w with puts := w.puts ++ [stored] }

end Script

/-- What one step of an attempt can come to: the step after it and the world after it. -/
inductive Moves (script : Script) (s : Settings) (job : Job) (w : Script.State) :
    Step → Step → Script.State → Prop
  | fetched {markup : String} (intime : s.allows script.fetchDelay = true)
    (page : (Script.fetch job.url w).1 = .ok markup) :
    Moves script s job w .fetch (.normalize markup) (Script.fetch job.url w).2.1
  | unfetched {cause : Failure} (intime : s.allows script.fetchDelay = true)
    (page : (Script.fetch job.url w).1 = .error cause) :
    Moves script s job w .fetch (.error (.fetch cause)) (Script.fetch job.url w).2.1
  | fetchLate {limit : Time.Span} (late : s.allows script.fetchDelay = false) :
    Moves script s job w .fetch (.error (.timeout .fetching limit)) w
  | normalized {markup : String} (analyzes : script.posting.isSome = true) :
    Moves script s job w (.normalize markup) (.analyze (s.text markup)) w
  | unanalyzed {markup : String} (missing : script.posting = none) :
    Moves script s job w (.normalize markup) (.store (s.text markup) none) w
  | analyzed {text : String} {posting : Posting} (given : script.posting = some posting)
    (intime : s.allows script.analyzeDelay = true) :
    Moves script s job w (.analyze text) (.store text (some posting))
      { w with analyzed := w.analyzed ++ [text] }
  | analysisLate {text : String} (late : s.allows script.analyzeDelay = false) :
    Moves script s job w (.analyze text) (.store text (some .empty)) w
  | analysisMissing {text : String} (missing : script.posting = none) :
    Moves script s job w (.analyze text) (.store text (some .empty)) w
  | keptRecord {text : String} {posting : Posting} (keeps : script.keeps s .analysis = true) :
    Moves script s job w (.store text (some posting)) (.store text none)
      (w.keep (artifact job .analysis (String.ofList posting.toText)))
  | keptText {text : String} (keeps : script.keeps s .content = true) :
    Moves script s job w (.store text none) (.done (Progress.key job .content))
      (w.keep (artifact job .content text))
  | refused {text : String} {posting : Option Posting}
    (refused : script.keeps s (nextKind posting) = false) :
    Moves script s job w (.store text posting)
      (.error (.store (Progress.key job (nextKind posting)) Script.unavailable)) w
  | storeLate {text : String} {posting : Option Posting} {limit : Time.Span}
    (late : script.keeps s (nextKind posting) = false) :
    Moves script s job w (.store text posting) (.error (.timeout .storing limit)) w
  | done {key : String} : Moves script s job w (.done key) (.done key) w
  | error {e : Error} : Moves script s job w (.error e) (.error e) w

/-- What is stored stays, whatever step is taken. -/
theorem Moves.puts_sublist {script : Script} {s : Settings} {job : Job} {w w' : Script.State}
    {step step' : Step} (h : Moves script s job w step step' w') : w.puts.Sublist w'.puts := by
  cases h with
  | keptRecord keeps => exact List.sublist_append_left ..
  | keptText keeps => exact List.sublist_append_left ..
  | _ => exact List.Sublist.refl _

namespace Progress

variable {σ α : Type}

/-- What a call comes to. -/
theorem call_spec (s : Settings) (span : Span) (c : Call σ α) (p : Progress σ) :
    (s.allows c.delay = true ∧ ∃ p', p.call s.stepTimeout span c = (.ok (c.run p.world).1, p') ∧
      p'.step = p.step ∧ p'.visited = p.visited ∧ p'.world = (c.run p.world).2.1) ∨
    (s.allows c.delay = false ∧ ∃ limit p', p.call s.stepTimeout span c = (.error limit, p') ∧
      p'.step = p.step ∧ p'.visited = p.visited ∧ p'.world = p.world) := by
  rw [Settings.allows, call]
  cases s.stepTimeout with
  | none => exact .inl ⟨rfl, _, rfl, rfl, rfl, rfl⟩
  | some limit =>
    by_cases h : limit.nanos < c.delay.nanos
    · have hlate : (some limit).all (fun limit => decide (c.delay.nanos ≤ limit.nanos)) = false := by
        simpa using h
      simp only [Call.within, if_pos h]
      exact .inr ⟨hlate, limit, _, rfl, rfl, rfl, rfl⟩
    · have hintime : (some limit).all (fun limit => decide (c.delay.nanos ≤ limit.nanos)) = true := by
        simpa using h
      simp only [Call.within, if_neg h]
      exact .inl ⟨hintime, _, rfl, rfl, rfl, rfl⟩

variable {script : Script} {s : Settings} {job : Job} {p p' : Progress Script.State} {step : Step}

/-- An attempt one step later. -/
structure Advanced (script : Script) (s : Settings) (job : Job) (p p' : Progress Script.State) :
    Prop where
  moves : Moves script s job p.world p.step p'.step p'.world
  visited : p'.visited
    = if p'.step.stage = p.step.stage then p.visited else p.visited ++ [p'.step.stage]

/-- Going on to another step after a call, which leaves the step and the stages as they are. -/
theorem advanced_goTo (hstep : p'.step = p.step) (hvisited : p'.visited = p.visited)
    (hmoves : Moves script s job p.world p.step step p'.world) :
    Advanced script s job p (p'.goTo step) where
  moves := hmoves
  visited := by rw [goTo, hstep, hvisited]

private theorem advanced_fetch (hp : p.step = .fetch) :
    Advanced script s job p (p.fetch script.collaborators s job) := by
  rcases call_spec s (span "fetch_page" [("url", .shown job.url)])
      (script.collaborators.fetch job.url) p with
    ⟨hintime, p', hcall, hstep, hvisited, hworld⟩ | ⟨hlate, limit, p', hcall, hstep, hvisited, hworld⟩
  · have hrun : (script.collaborators.fetch job.url).run = Script.fetch job.url := rfl
    rw [hrun] at hcall hworld
    rw [fetch, hcall]
    cases hpage : (Script.fetch job.url p.world).1 with
    | ok markup =>
      refine advanced_goTo hstep hvisited ?_
      rw [hp, hworld]
      exact .fetched hintime hpage
    | error cause =>
      refine advanced_goTo hstep hvisited ?_
      rw [hp, hworld]
      exact .unfetched hintime hpage
  · rw [fetch, hcall]
    refine advanced_goTo hstep hvisited ?_
    rw [hp, hworld]
    exact .fetchLate hlate

private theorem advanced_normalize {markup : String} (hp : p.step = .normalize markup) :
    Advanced script s job p (p.normalize script.collaborators s job markup) := by
  have hanalyze : script.collaborators.analyze.isSome = script.posting.isSome := by
    simp [Script.collaborators]
  rw [normalize, hanalyze]
  refine advanced_goTo rfl rfl ?_
  rw [hp]
  cases hposting : script.posting with
  | none => exact .unanalyzed hposting
  | some posting => exact .normalized (by rw [hposting]; rfl)

private theorem advanced_analyze {text : String} (hp : p.step = .analyze text) :
    Advanced script s job p (p.analyze script.collaborators s job text) := by
  cases hposting : script.posting with
  | none =>
    have hnone : script.collaborators.analyze = none := by simp [Script.collaborators, hposting]
    rw [analyze, hnone]
    refine advanced_goTo rfl rfl ?_
    rw [hp]
    exact .analysisMissing hposting
  | some posting =>
    -- The analyzer of the script gives the same posting for any text.
    let analyzer : String → Call Script.State Posting := fun text =>
      ⟨script.analyzeDelay, fun w => (posting, { w with analyzed := w.analyzed ++ [text] }, [])⟩
    have hsome : script.collaborators.analyze = some analyzer := by
      simp [Script.collaborators, hposting, analyzer]
    rw [analyze, hsome]
    rcases call_spec s (span "analyze" [("text_bytes", size text)]) (analyzer text) p with
      ⟨hintime, p', hcall, hstep, hvisited, hworld⟩ | ⟨hlate, limit, p', hcall, hstep, hvisited, hworld⟩
    · simp only [hcall]
      refine advanced_goTo hstep hvisited ?_
      rw [hp, hworld]
      exact .analyzed hposting hintime
    · simp only [hcall]
      refine advanced_goTo (show (p'.say _).step = p.step from hstep) hvisited ?_
      show Moves script s job p.world p.step _ p'.world
      rw [hp, hworld]
      exact .analysisLate hlate

/-- Keeping an artifact: the next step is reached exactly if the artifact is kept. -/
private theorem advanced_put {kind : Artifact} {body : String}
    (hkept : script.keeps s kind = true →
      Moves script s job p.world p.step step (p.world.keep (artifact job kind body)))
    (hrefused : script.keeps s kind = false →
      Moves script s job p.world p.step (.error (.store (key job kind) Script.unavailable)) p.world)
    (hlate : ∀ limit, script.keeps s kind = false →
      Moves script s job p.world p.step (.error (.timeout .storing limit)) p.world) :
    Advanced script s job p (p.put script.collaborators s kind (key job kind) body step) := by
  rcases call_spec s (span "store_artifact" [("key", .shown (key job kind))])
      (script.collaborators.put kind (key job kind) body) p with
    ⟨hintime, p', hcall, hstep, hvisited, hworld⟩ | ⟨hout, limit, p', hcall, hstep, hvisited, hworld⟩
  · have hrun : (script.collaborators.put kind (key job kind) body).run
        = Script.put script kind (key job kind) body := rfl
    have hdelay : s.allows script.storeDelay = true := hintime
    rw [hrun] at hcall hworld
    rw [put, hcall]
    by_cases hr : script.isRefused kind = true
    · have hput : Script.put script kind (key job kind) body p.world
          = (.error Script.unavailable, p.world, []) := by rw [Script.put, if_pos hr]
      rw [hput] at hworld ⊢
      refine advanced_goTo hstep hvisited ?_
      rw [hworld]
      exact hrefused (by rw [Script.keeps, hr, hdelay]; rfl)
    · have hput : Script.put script kind (key job kind) body p.world
          = (.ok (), p.world.keep (artifact job kind body), []) := by
        rw [Script.put, if_neg hr]
        rfl
      rw [hput] at hworld ⊢
      refine advanced_goTo hstep hvisited ?_
      rw [hworld]
      exact hkept (by simp [Script.keeps, hr, hdelay])
  · have hdelay : s.allows script.storeDelay = false := hout
    rw [put, hcall]
    refine advanced_goTo hstep hvisited ?_
    rw [hworld]
    exact hlate limit (by simp [Script.keeps, hdelay])

/-- **All that a step can come to.** -/
theorem advanced_advance (script : Script) (s : Settings) (job : Job)
    (p : Progress Script.State) :
    Advanced script s job p (p.advance script.collaborators s job) := by
  have hsame : ∀ step, p.step = step → Moves script s job p.world step step p.world →
      Advanced script s job p p := by
    intro step hp hmoves
    exact ⟨by rw [hp]; exact hmoves, by rw [if_pos rfl]⟩
  rw [advance]
  cases hp : p.step with
  | fetch => exact advanced_fetch hp
  | normalize markup => exact advanced_normalize hp
  | analyze text => exact advanced_analyze hp
  | store text posting =>
    -- Whatever is kept next, not keeping it ends the attempt in the same two ways.
    have hunkept : script.keeps s (nextKind posting) = false →
        Moves script s job p.world p.step
          (.error (.store (key job (nextKind posting)) Script.unavailable)) p.world ∧
        ∀ limit, Moves script s job p.world p.step (.error (.timeout .storing limit)) p.world := by
      intro hnot
      rw [hp]
      exact ⟨.refused hnot, fun limit => .storeLate hnot⟩
    cases posting with
    | some posting =>
      refine advanced_put ?_ (fun hnot => (hunkept hnot).1) fun limit hnot => (hunkept hnot).2 limit
      intro hkept
      rw [hp]
      exact .keptRecord hkept
    | none =>
      refine advanced_put ?_ (fun hnot => (hunkept hnot).1) fun limit hnot => (hunkept hnot).2 limit
      intro hkept
      rw [hp]
      exact .keptText hkept
  | done key => exact hsame _ hp .done
  | error e => exact hsame _ hp .error

end Progress

theorem step_of_outcome? {σ : Type} {p : Progress σ} {key : String}
    (h : p.outcome? = some (.ok key)) : p.step = .done key := by
  rw [Progress.outcome?] at h
  cases hp : p.step with
  | done key' =>
    rw [hp] at h
    exact congrArg Step.done (Except.ok.inj (Option.some.inj h))
  | _ =>
    rw [hp] at h
    exact absurd h (by simp)

end PageHarvest.Attempt
