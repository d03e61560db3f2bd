import PageHarvest.Proofs.Attempt.Moves
import Mathlib.Logic.Function.Iterate

/-!
# The course of an attempt

What an attempt shows from outside, how it ends and what it leaves in the store are tied together by
`Course`: for each step that it can have come to, the stages so far and the world by then.  One step
carries the course on (`Course.moves`) and brings the end nearer (`left_of_moves`), so that after five
steps the attempt has ended in one of three ways (`Course.ended`).  The main statement is
`attempt_spec`.
-/

namespace PageHarvest.Attempt

namespace Script

/-- The page is fetched in time, and this is its markup. -/
def Fetches (script : Script) (s : Settings) (job : Job) (w : State) (markup : String) : Prop :=
  s.allows script.fetchDelay = true ∧ (fetch job.url w).1 = .ok markup

/-- The stages of an attempt that gets its page, up to the last one. -/
def stages (script : Script) : List Stage :=
  [.leased, .fetching, .normalizing] ++ (if script.posting.isSome then [.analyzing] else []) ++
    [.storing]

/-- The artifacts that an attempt is to keep. -/
def kinds (script : Script) : List Artifact :=
  if script.posting.isSome then [.analysis, .content] else [.content]

/-- The record of the posting that is kept: an empty one if it is not made out in time. -/
def record (script : Script) (s : Settings) : Option Posting :=
  script.posting.map fun posting => if s.allows script.analyzeDelay then posting else .empty

/-- The record of the posting as an artifact, if there is one. -/
def recordPuts (script : Script) (s : Settings) (job : Job) : List Stored :=
  ((script.record s).map fun posting =>
    artifact job .analysis (String.ofList posting.toText)).toList

/-- An attempt with those who act by the script. -/
def attempt (script : Script) (s : Settings) (job : Job) (w : State) : Progress State :=
  Progress.run script.collaborators s job w

end Script

variable {script : Script} {s : Settings} {job : Job} {st w w' : Script.State} {step step' : Step}
  {visited : List Stage} {markup : String}

/-! ### One step -/

/-- The course of an attempt that began in the world `st`: the step it has come to, the stages so far
and the world by then. -/
inductive Course (script : Script) (s : Settings) (job : Job) (st : Script.State) :
    Step → List Stage → Script.State → Prop
  | fetching : Course script s job st .fetch [.leased, .fetching] st
  | normalizing {markup : String} {w : Script.State} (fetches : script.Fetches s job st markup)
    (analyzed : w.analyzed = st.analyzed) (puts : w.puts = st.puts) :
    Course script s job st (.normalize markup) [.leased, .fetching, .normalizing] w
  | analyzing {markup : String} {w : Script.State} (fetches : script.Fetches s job st markup)
    (analyzes : script.posting.isSome = true) (puts : w.puts = st.puts) :
    Course script s job st (.analyze (s.text markup)) [.leased, .fetching, .normalizing, .analyzing] w
  | storingRecord {markup : String} {posting : Posting} {w : Script.State}
    (fetches : script.Fetches s job st markup) (record : script.record s = some posting)
    (puts : w.puts = st.puts) :
    Course script s job st (.store (s.text markup) (some posting)) script.stages w
  | storingText {markup : String} {w : Script.State} (fetches : script.Fetches s job st markup)
    (kept : script.posting.isSome = true → script.keeps s .analysis = true)
    (puts : w.puts = st.puts ++ script.recordPuts s job) :
    Course script s job st (.store (s.text markup) none) script.stages w
  | done {markup : String} {w : Script.State} (fetches : script.Fetches s job st markup)
    (kept : script.kinds.all (script.keeps s) = true)
    (puts : w.puts
      = st.puts ++ (script.recordPuts s job ++ [artifact job .content (s.text markup)])) :
    Course script s job st (.done (Progress.key job .content)) (script.stages ++ [.done]) w
  | unfetched {e : Error} {w : Script.State} (stage : e.stage = .fetching)
    (unfetched : ∀ markup, ¬script.Fetches s job st markup) (analyzed : w.analyzed = st.analyzed)
    (puts : w.puts = st.puts) : Course script s job st (.error e) [.leased, .fetching, .errored] w
  | unkept {markup : String} {e : Error} {w : Script.State} (stage : e.stage = .storing)
    (fetches : script.Fetches s job st markup) (unkept : script.kinds.all (script.keeps s) = false)
    (puts : w.puts = st.puts ∨ w.puts = st.puts ++ script.recordPuts s job) :
    Course script s job st (.error e) (script.stages ++ [.errored]) w

theorem stages_of_isSome (h : script.posting.isSome = true) :
    script.stages = [.leased, .fetching, .normalizing, .analyzing] ++ [.storing] := by
  rw [Script.stages, if_pos h]
  rfl

theorem stages_of_none (h : script.posting = none) :
    script.stages = [.leased, .fetching, .normalizing] ++ [.storing] := by
  rw [Script.stages, h]
  rfl

/-- All artifacts are kept exactly if the text is, and the record of the posting if there is one. -/
theorem all_keeps_iff : script.kinds.all (script.keeps s) = true ↔
    (script.posting.isSome = true → script.keeps s .analysis = true) ∧
      script.keeps s .content = true := by
  rw [Script.kinds]
  by_cases h : script.posting.isSome = true
  · simp [h]
  · simp [h]

theorem content_mem_kinds : Artifact.content ∈ script.kinds := by
  rw [Script.kinds]
  split <;> simp

theorem analysis_mem_kinds {posting : Posting} (h : script.record s = some posting) :
    Artifact.analysis ∈ script.kinds := by
  rw [Script.record, Option.map_eq_some_iff] at h
  obtain ⟨given, hgiven, -⟩ := h
  simp [Script.kinds, hgiven]

/-- One artifact that is not kept is enough. -/
theorem all_keeps_eq_false {kind : Artifact} (hkind : kind ∈ script.kinds)
    (h : script.keeps s kind = false) : script.kinds.all (script.keeps s) = false :=
  List.all_eq_false.2 ⟨kind, hkind, by simp [h]⟩

theorem recordPuts_of_none (h : script.posting = none) : script.recordPuts s job = [] := by
  rw [Script.recordPuts, Script.record, h]
  rfl

/-- Once the posting has been made out, or given up, what is kept is the record of the script. -/
theorem Course.recording (fetches : script.Fetches s job st markup)
    (analyzes : script.posting.isSome = true) {posting : Posting}
    (record : script.record s = some posting) (puts : w.puts = st.puts) :
    Course script s job st (.store (s.text markup) (some posting))
      ([.leased, .fetching, .normalizing, .analyzing] ++ [.storing]) w := by
  rw [← stages_of_isSome analyzes]
  exact .storingRecord fetches record puts

/-- A step carries the course on. -/
theorem Course.moves (h : Course script s job st step visited w)
    (hmoves : Moves script s job w step step' w') :
    Course script s job st step'
      (if step'.stage = step.stage then visited else visited ++ [step'.stage]) w' := by
  cases h with
  | fetching =>
    cases hmoves with
    | fetched intime page => exact .normalizing ⟨intime, page⟩ rfl rfl
    | unfetched intime page =>
      refine .unfetched rfl ?_ rfl rfl
      rintro markup ⟨-, hpage⟩
      rw [page] at hpage
      exact absurd hpage (by simp)
    | fetchLate late =>
      refine .unfetched rfl ?_ rfl rfl
      rintro markup ⟨hintime, -⟩
      rw [late] at hintime
      exact absurd hintime (by simp)
  | @normalizing markup _ fetches analyzed puts =>
    cases hmoves with
    | normalized analyzes => exact .analyzing fetches analyzes puts
    | unanalyzed missing =>
      have hcourse : Course script s job st (.store (s.text markup) none) script.stages w :=
        .storingText fetches (by simp [missing]) (by rw [puts, recordPuts_of_none missing, List.append_nil])
      rw [stages_of_none missing] at hcourse
      exact hcourse
  | @analyzing markup _ fetches analyzes puts =>
    cases hmoves with
    | analyzed given intime =>
      refine .recording fetches analyzes ?_ puts
      rw [Script.record, given, Option.map_some, if_pos intime]
    | analysisLate late =>
      obtain ⟨posting, hposting⟩ := Option.isSome_iff_exists.1 analyzes
      refine .recording fetches analyzes ?_ puts
      rw [Script.record, hposting, Option.map_some, if_neg (by simp [late])]
    | analysisMissing missing =>
      rw [missing] at analyzes
      exact absurd analyzes (by simp)
  | storingRecord fetches record puts =>
    have hunkept : script.keeps s .analysis = false → script.kinds.all (script.keeps s) = false :=
      all_keeps_eq_false (analysis_mem_kinds record)
    cases hmoves with
    | keptRecord keeps =>
      refine .storingText fetches (fun _ => keeps) ?_
      rw [Script.recordPuts, record, Script.State.keep, puts]
      rfl
    | refused refused => exact .unkept rfl fetches (hunkept refused) (.inl puts)
    | storeLate late => exact .unkept rfl fetches (hunkept late) (.inl puts)
  | storingText fetches kept puts =>
    have hunkept : script.keeps s .content = false → script.kinds.all (script.keeps s) = false :=
      all_keeps_eq_false content_mem_kinds
    cases hmoves with
    | keptText keeps =>
      refine .done fetches (all_keeps_iff.2 ⟨kept, keeps⟩) ?_
      rw [Script.State.keep, puts, List.append_assoc]
    | refused refused => exact .unkept rfl fetches (hunkept refused) (.inr puts)
    | storeLate late => exact .unkept rfl fetches (hunkept late) (.inr puts)
  | done fetches kept puts =>
    cases hmoves
    rw [if_pos rfl]
    exact .done fetches kept puts
  | unfetched stage unfetched analyzed puts =>
    cases hmoves
    rw [if_pos rfl]
    exact .unfetched stage unfetched analyzed puts
  | unkept stage fetches unkept puts =>
    cases hmoves
    rw [if_pos rfl]
    exact .unkept stage fetches unkept puts

/-! ### The whole attempt -/

/-- The number of steps that are left at most. -/
def Step.left : Step → Nat
  | fetch => 5
  | normalize _ => 4
  | analyze _ => 3
  | store _ (some _) => 2
  | store _ none => 1
  | done _ | error _ => 0

theorem left_of_moves (hmoves : Moves script s job w step step' w') : step'.left ≤ step.left - 1 := by
  cases hmoves <;> simp [Step.left]

/-- After any number of steps the attempt is on its course, and has that many fewer left. -/
theorem course_iterate (script : Script) (s : Settings) (job : Job) (st : Script.State) (n : Nat) :
    ∃ p, (Progress.advance script.collaborators s job)^[n] (Progress.start st) = p ∧
      Course script s job st p.step p.visited p.world ∧ p.step.left ≤ 5 - n := by
  induction n with
  | zero => exact ⟨_, rfl, .fetching, Nat.le_refl _⟩
  | succ n ih =>
    obtain ⟨p, hp, hcourse, hleft⟩ := ih
    obtain ⟨hmoves, hvisited⟩ := Progress.advanced_advance script s job p
    have hnext := left_of_moves hmoves
    refine ⟨_, rfl, ?_, ?_⟩
    · rw [Function.iterate_succ_apply', hp, hvisited]
      exact hcourse.moves hmoves
    · rw [Function.iterate_succ_apply', hp]
      omega

/-- An attempt that has no steps left has kept all its artifacts, or has not got its page, or has not
kept one of the artifacts. -/
theorem Course.ended (h : Course script s job st step visited w) (hleft : step.left = 0) :
    (∃ markup, step = .done (Progress.key job .content) ∧ visited = script.stages ++ [.done] ∧
      script.Fetches s job st markup ∧ script.kinds.all (script.keeps s) = true ∧
      w.puts = st.puts ++ (script.recordPuts s job ++ [artifact job .content (s.text markup)])) ∨
    (∃ e, step = .error e ∧ visited = [.leased, .fetching, .errored] ∧ e.stage = .fetching ∧
      (∀ markup, ¬script.Fetches s job st markup) ∧ w.analyzed = st.analyzed ∧ w.puts = st.puts) ∨
    (∃ markup e, step = .error e ∧ visited = script.stages ++ [.errored] ∧ e.stage = .storing ∧
      script.Fetches s job st markup ∧ script.kinds.all (script.keeps s) = false ∧
      (w.puts = st.puts ∨ w.puts = st.puts ++ script.recordPuts s job)) := by
  cases h with
  | done fetches kept puts => exact .inl ⟨_, rfl, rfl, fetches, kept, puts⟩
  | unfetched stage unfetched analyzed puts =>
    exact .inr (.inl ⟨_, rfl, rfl, stage, unfetched, analyzed, puts⟩)
  | unkept stage fetches unkept puts =>
    exact .inr (.inr ⟨_, _, rfl, rfl, stage, fetches, unkept, puts⟩)
  | _ => exact absurd hleft (by simp [Step.left])

theorem current_append (visited : List Stage) (stage : Stage) :
    Stage.current (visited ++ [stage]) = stage := by
  simp [Stage.current]

/-- The record of the posting is no text. -/
theorem kind_of_mem_recordPuts {stored : Stored} (h : stored ∈ script.recordPuts s job) :
    stored.kind ≠ .content := by
  rw [Script.recordPuts, Option.mem_toList, Option.map_eq_some_iff] at h
  obtain ⟨posting, -, rfl⟩ := h
  simp [artifact]

/-- The outcome of an attempt that ended with an error: what is said of success does not apply, and
what is said of errors is to be shown for this one. -/
theorem exists_outcome_of_error {p : Progress Script.State} {e : Error} {done : Prop}
    {spec : Error → Prop} (hstep : p.step = .error e)
    (hcurrent : Stage.current p.visited = .errored) (he : spec e) (result : String) :
    ∃ outcome, p.outcome? = some outcome ∧
      (∀ key, outcome = .ok key ↔ key = result ∧ Stage.current p.visited = .done) ∧
      (Stage.current p.visited = .done → done) ∧ ∀ e, outcome = .error e → spec e := by
  refine ⟨.error e, ?_, ?_, ?_, ?_⟩
  · rw [Progress.outcome?, hstep]
  · intro key
    rw [hcurrent]
    simp
  · intro hdone
    rw [hcurrent] at hdone
    exact absurd hdone (by simp)
  · intro e' he'
    obtain rfl := Except.error.inj he'
    exact he

/-- **The course of an attempt.**  An attempt that gets its page goes through all stages, analyzing if
postings are made out, and is done exactly if all artifacts are kept; one that does not get it stops
there.  Every attempt has an outcome: it is the key of the text exactly if the attempt ends as done,
and then the store has got the record of the posting, if postings are made out, and after it the text
of the page.  Otherwise it is an error of fetching, which is the case exactly if the page was not got,
and then nothing was analyzed or stored, or else one of storing; a text was not stored. -/
theorem attempt_spec (script : Script) (s : Settings) (job : Job) (w : Script.State) :
    (∀ markup, script.Fetches s job w markup → (script.attempt s job w).visited
      = script.stages ++ [if script.kinds.all (script.keeps s) then .done else .errored]) ∧
    ((∀ markup, ¬script.Fetches s job w markup) →
      (script.attempt s job w).visited = [.leased, .fetching, .errored]) ∧
    ∃ outcome, (script.attempt s job w).outcome? = some outcome ∧
      (∀ key, outcome = .ok key ↔ key = Progress.key job .content ∧
        Stage.current (script.attempt s job w).visited = .done) ∧
      (Stage.current (script.attempt s job w).visited = .done →
        ∃ markup, script.Fetches s job w markup ∧ (script.attempt s job w).world.puts
          = w.puts ++ (script.recordPuts s job ++ [artifact job .content (s.text markup)])) ∧
      (∀ e, outcome = .error e →
        (e.stage = .fetching ∨ e.stage = .storing) ∧
        (e.stage = .fetching ↔ ∀ markup, ¬script.Fetches s job w markup) ∧
        (e.stage = .fetching → (script.attempt s job w).world.analyzed = w.analyzed ∧
          (script.attempt s job w).world.puts = w.puts) ∧
        ∃ added, (script.attempt s job w).world.puts = w.puts ++ added ∧
          ∀ stored ∈ added, stored.kind ≠ .content) := by
  obtain ⟨p, hp, hcourse, hleft⟩ := course_iterate script s job w 5
  have hattempt : script.attempt s job w = p := hp
  rw [hattempt]
  rcases hcourse.ended (by omega) with
    ⟨markup, hstep, hvisited, hfetches, hkept, hputs⟩ |
    ⟨e, hstep, hvisited, hstage, hnot, hanalyzed, hputs⟩ |
    ⟨markup, e, hstep, hvisited, hstage, hfetches, hnot, hputs⟩
  · have hcurrent : Stage.current p.visited = .done := by rw [hvisited, current_append]
    refine ⟨?_, ?_, .ok (Progress.key job .content), ?_, ?_, ?_, ?_⟩
    · intro markup' _
      rw [hvisited, if_pos hkept]
    · intro hnone
      exact absurd hfetches (hnone markup)
    · rw [Progress.outcome?, hstep]
    · intro key
      rw [hcurrent]
      simp [eq_comm]
    · intro _
      exact ⟨markup, hfetches, hputs⟩
    · intro e he
      exact absurd he (by simp)
  · have hcurrent : Stage.current p.visited = .errored := by rw [hvisited]; rfl
    refine ⟨?_, fun _ => hvisited, exists_outcome_of_error hstep hcurrent ?_ _⟩
    · intro markup hfetches
      exact absurd hfetches (hnot markup)
    · refine ⟨.inl hstage, ⟨fun _ => hnot, fun _ => hstage⟩, fun _ => ⟨hanalyzed, hputs⟩, [], ?_,
        by simp⟩
      rw [hputs, List.append_nil]
  · have hcurrent : Stage.current p.visited = .errored := by rw [hvisited, current_append]
    have hstoring : e.stage ≠ .fetching := by
      rw [hstage]
      decide
    refine ⟨?_, ?_, exists_outcome_of_error hstep hcurrent ?_ _⟩
    · intro markup' _
      rw [hvisited, if_neg (by simp [hnot])]
    · intro hnone
      exact absurd hfetches (hnone markup)
    · refine ⟨.inr hstage, ?_, fun hfetching => absurd hfetching hstoring, ?_⟩
      · exact ⟨fun hfetching => absurd hfetching hstoring,
          fun hnone => absurd hfetches (hnone markup)⟩
      · rcases hputs with hputs | hputs
        · exact ⟨[], by rw [hputs, List.append_nil], by simp⟩
        · exact ⟨_, hputs, fun stored => kind_of_mem_recordPuts⟩

/-- A page is there and the posting is made out, but the store takes no texts. -/
private def textless : Script where
  pages := [.ok "<p>Rust</p>"]
  posting := some .empty
  refuses := some "text/html"

/-- The record of the posting is stored, the text is refused, and the attempt ends with an error of
storing. -/
theorem attempt_spec_textless :
    (textless.attempt {} default textless.start).visited
      = [.leased, .fetching, .normalizing, .analyzing, .storing, .errored] ∧
    ∃ e, (textless.attempt {} default textless.start).outcome? = some (.error e) ∧
      e.stage = .storing := by
  have hfetches : textless.Fetches {} default textless.start "<p>Rust</p>" := ⟨rfl, rfl⟩
  obtain ⟨hvisited, -, outcome, houtcome, hkey, -, herror⟩ :=
    attempt_spec textless {} default textless.start
  have hstages := hvisited _ hfetches
  refine ⟨hstages, ?_⟩
  cases outcome with
  | ok key =>
    have hdone := ((hkey key).1 rfl).2
    rw [hstages] at hdone
    exact absurd hdone (by decide +kernel)
  | error e =>
    obtain ⟨hstage | hstage, hnot, -⟩ := herror e rfl
    · exact absurd hfetches (hnot.1 hstage _)
    · exact ⟨e, houtcome, hstage⟩

end PageHarvest.Attempt
