import PageHarvest.Proofs.Attempt.Moves
import PageHarvest.Proofs.Blob.Keys
import PageHarvest.Proofs.Web.Following
import PageHarvest.Proofs.Worker.Draining
import PageHarvest.Service

/-!
# Error pages

A worker that keeps artifacts in memory and asks no chat stores something for a job just when the web
offers a page at its address, and then completes it; every other job fails.  `handler_spec` says what
comes of one job, whatever was done before, and `drained_pages` of a whole queue.
-/

namespace PageHarvest.Service

open Attempt

variable {web : Web} {c : Config} {job : Job} {p : Progress World} {markup text : String}
  {puts : List Stored} {requests : List Web.Request}

/-- What is done for a job alone. -/
def made (web : Web) (c : Config) (job : Job) : World := (handler web c job {}).world

/-- The artifact that goes before the text of the page, if there is one. -/
def records (c : Config) (job : Job) : List Stored :=
  if c.analyzer = .fake then [artifact job .analysis (String.ofList Posting.fixed.toText)] else []

/-- The artifacts of a job, if this is its page. -/
def artifacts (c : Config) (job : Job) : Except Failure String → List Stored
  | .ok markup => records c job ++ [artifact job .content ((settings c).text markup)]
  | .error _ => []

/-- The outcome of a job, if this is its page. -/
def outcome (job : Job) : Except Failure String → Except Failure String
  | .ok _ => .ok (Progress.key job .content)
  | .error cause => .error ⟨(Error.fetch cause).message, []⟩

/-! ### Steps of an attempt -/

/-- An attempt has come to this step, and this was stored and asked for. -/
structure At (p : Progress World) (step : Step) (puts : List Stored)
    (requests : List Web.Request) : Prop where
  step : p.step = step
  puts : p.world.puts = puts
  requests : p.world.requests = requests

theorem At.of_step {step step' : Step} (h : At p step puts requests) (hstep : step = step') :
    At p step' puts requests := hstep ▸ h

/-- The step that an attempt ends with, if this is its page. -/
def lastStep (job : Job) : Except Failure String → Step
  | .ok _ => .done (Progress.key job .content)
  | .error cause => .error (.fetch cause)

/-- The step after the page was fetched. -/
def afterFetch : Except Failure String → Step
  | .ok markup => .normalize markup
  | .error cause => .error (.fetch cause)

/-- The step after text was made of the page. -/
def afterText (c : Config) (text : String) : Step :=
  if c.analyzer = .fake then .analyze text else .store text none

/-- A call that takes no time has its effect, whatever the limit. -/
theorem call_of_prompt {α : Type} (s : Attempt.Settings) (span : Log.Span) (call : Call World α)
    (h : call.delay = ⟨0⟩) (p : Progress World) :
    ∃ p', p.call s.stepTimeout span call = (.ok (call.run p.world).1, p') ∧
      p'.world = (call.run p.world).2.1 := by
  have hprompt : s.allows call.delay = true := by
    rw [Settings.allows, h]
    cases s.stepTimeout <;> simp
  obtain ⟨-, p', hcall, -, -, hworld⟩ | ⟨hlate, -⟩ := Progress.call_spec s span call p
  · exact ⟨p', hcall, hworld⟩
  · exact absurd (hprompt.symm.trans hlate) (by decide)

/-- The page is fetched, with the requests that this takes. -/
theorem At.fetch (h : At p .fetch puts requests) :
    At (p.advance (collaborators web c) (settings c) job) (afterFetch (web.page job.url).1) puts
      (requests ++ web.pageRequests job.url) := by
  obtain ⟨p', hcall, hworld⟩ := call_of_prompt (settings c)
    (Progress.span "fetch_page" [("url", .shown job.url)]) ((collaborators web c).fetch job.url) rfl p
  have hputs : p'.world.puts = puts := by
    rw [hworld]
    exact h.puts
  have hrequests : p'.world.requests = requests ++ web.pageRequests job.url := by
    rw [hworld, ← h.requests]
    rfl
  rw [Progress.advance, h.step]
  simp only [Progress.fetch, hcall]
  have hrun : (((collaborators web c).fetch job.url).run p.world).1 = (web.page job.url).1 := rfl
  -- The page is the same whatever the world was like before.
  rw [hrun]
  cases (web.page job.url).1 with
  | ok markup => exact ⟨rfl, hputs, hrequests⟩
  | error cause => exact ⟨rfl, hputs, hrequests⟩

/-- Without a chat, a posting is made out only where a fixed one stands in for it. -/
theorem isSome_analyze (ha : c.analyzer = .disabled ∨ c.analyzer = .fake) :
    (collaborators web c).analyze.isSome = decide (c.analyzer = .fake) := by
  obtain ha | ha := ha
  · simp [collaborators, Service.analyze, ha]
  · simp [collaborators, Service.analyze, ha]

theorem At.normalize (ha : c.analyzer = .disabled ∨ c.analyzer = .fake)
    (h : At p (.normalize markup) puts requests) :
    At (p.advance (collaborators web c) (settings c) job)
      (afterText c ((settings c).text markup)) puts requests := by
  rw [Progress.advance, h.step]
  simp only [Progress.normalize, isSome_analyze ha, decide_eq_true_eq]
  exact ⟨rfl, h.puts, h.requests⟩

/-- The posting that stands in is made out of any text. -/
theorem At.analyze (ha : c.analyzer = .fake) (h : At p (.analyze text) puts requests) :
    At (p.advance (collaborators web c) (settings c) job) (.store text (some .fixed)) puts
      requests := by
  have hanalyze : (collaborators web c).analyze = some fun _ => ⟨⟨0⟩, fun w => (.fixed, w, [])⟩ := by
    simp [collaborators, Service.analyze, ha]
  obtain ⟨p', hcall, hworld⟩ := call_of_prompt (settings c)
    (Progress.span "analyze" [("text_bytes", Progress.size text)])
    ⟨⟨0⟩, fun w => (Posting.fixed, w, [])⟩ rfl p
  rw [Progress.advance, h.step]
  simp only [Progress.analyze, hanalyze, hcall]
  exact ⟨rfl, by rw [← h.puts]; exact congrArg World.puts hworld,
    by rw [← h.requests]; exact congrArg World.requests hworld⟩

/-- Memory takes every artifact, since the key of an artifact is sound. -/
theorem run_put (web : Web) (hs : c.storage = .memory) (job : Job) (kind : Artifact) (body : String)
    (w : World) :
    ∃ w' log, ((collaborators web c).put kind (Progress.key job kind) body).run w
      = (.ok (), w', log) ∧ w'.puts = w.puts ++ [artifact job kind body] ∧
      w'.requests = w.requests := by
  obtain ⟨objects, hobjects⟩ : ∃ objects, w.objects.put (Progress.key job kind) _ = .ok objects :=
    kind.exists_put w.objects job.owner job.position (Text.Utf8.encode body.toList)
  simp only [collaborators, Service.put, hs, putObject, hobjects]
  exact ⟨_, _, rfl, rfl, rfl⟩

theorem At.put (hs : c.storage = .memory) {kind : Artifact} {body : String} {step next : Step}
    (h : At p step puts requests) :
    At (p.put (collaborators web c) (settings c) kind (Progress.key job kind) body next) next
      (puts ++ [artifact job kind body]) requests := by
  obtain ⟨p', hcall, hworld⟩ := call_of_prompt (settings c)
    (Progress.span "store_artifact" [("key", .shown (Progress.key job kind))])
    ((collaborators web c).put kind (Progress.key job kind) body) rfl p
  obtain ⟨w', log, hrun, hputs, hrequests⟩ := run_put web hs job kind body p.world
  rw [hrun] at hcall hworld
  simp only [Progress.put, hcall]
  refine ⟨rfl, ?_, ?_⟩
  · rw [← h.puts, ← hputs]
    exact congrArg World.puts hworld
  · rw [← h.requests, ← hrequests]
    exact congrArg World.requests hworld

theorem At.store (hs : c.storage = .memory) {posting : Posting}
    (h : At p (.store text (some posting)) puts requests) :
    At (p.advance (collaborators web c) (settings c) job) (.store text none)
      (puts ++ [artifact job .analysis (String.ofList posting.toText)]) requests := by
  rw [Progress.advance, h.step]
  exact At.put hs h

theorem At.finish (hs : c.storage = .memory) (h : At p (.store text none) puts requests) :
    At (p.advance (collaborators web c) (settings c) job) (.done (Progress.key job .content))
      (puts ++ [artifact job .content text]) requests := by
  rw [Progress.advance, h.step]
  exact At.put hs h

theorem At.done {key : String} (h : At p (.done key) puts requests) :
    At (p.advance (collaborators web c) (settings c) job) (.done key) puts requests := by
  rw [Progress.advance, h.step]
  exact h

theorem At.error {e : Error} (h : At p (.error e) puts requests) :
    At (p.advance (collaborators web c) (settings c) job) (.error e) puts requests := by
  rw [Progress.advance, h.step]
  exact h

/-- The five steps of an attempt, or the fewer ones that it takes. -/
theorem at_run (web : Web) (hs : c.storage = .memory)
    (ha : c.analyzer = .disabled ∨ c.analyzer = .fake) (job : Job) (w : World) :
    At (Progress.run (collaborators web c) (settings c) job w) (lastStep job (web.page job.url).1)
      (w.puts ++ artifacts c job (web.page job.url).1)
      (w.requests ++ web.pageRequests job.url) := by
  have hfetched : At ((Progress.start w).advance (collaborators web c) (settings c) job)
      (afterFetch (web.page job.url).1) w.puts (w.requests ++ web.pageRequests job.url) :=
    At.fetch ⟨rfl, rfl, rfl⟩
  cases hpage : (web.page job.url).1 with
  | error cause =>
    rw [artifacts, List.append_nil]
    -- The attempt has ended, and the steps that are left do nothing.
    have herror : afterFetch (web.page job.url).1 = .error (.fetch cause) := by rw [hpage]; rfl
    exact .error (.error (.error (.error (.of_step hfetched herror))))
  | ok markup =>
    have htext : afterFetch (web.page job.url).1 = .normalize markup := by rw [hpage]; rfl
    by_cases hfake : c.analyzer = .fake
    · rw [artifacts, records, if_pos hfake, ← List.append_assoc]
      have hanalyze : afterText c ((settings c).text markup) = .analyze _ := if_pos hfake
      exact .finish hs (.store hs (.analyze hfake
        (.of_step (.normalize ha (.of_step hfetched htext)) hanalyze)))
    · rw [artifacts, records, if_neg hfake, List.nil_append]
      have hstore : afterText c ((settings c).text markup) = .store _ none := if_neg hfake
      -- An attempt without a record is done two steps early.
      exact .done (.done (.finish hs
        (.of_step (.normalize ha (.of_step hfetched htext)) hstore)))

/-! ### Jobs -/

/-- **What comes of a job**, whatever was done before it. -/
theorem handler_spec (web : Web) (hs : c.storage = .memory)
    (ha : c.analyzer = .disabled ∨ c.analyzer = .fake) (job : Job) (w : World) :
    (handler web c job w).outcome = outcome job (web.page job.url).1 ∧
    (handler web c job w).world.puts = w.puts ++ artifacts c job (web.page job.url).1 ∧
    (handler web c job w).world.requests = w.requests ++ web.pageRequests job.url := by
  have hrun := at_run web hs ha job w
  refine ⟨?_, hrun.puts, hrun.requests⟩
  -- The outcome is read off the last step.
  change Handler.failureOf (Progress.outcome? _) = _
  rw [Progress.outcome?, hrun.step]
  cases (web.page job.url).1 with
  | ok markup => rfl
  | error cause => rfl

/-- What is done for a job that comes first. -/
theorem made_spec (web : Web) (hs : c.storage = .memory)
    (ha : c.analyzer = .disabled ∨ c.analyzer = .fake) (job : Job) :
    (made web c job).puts = artifacts c job (web.page job.url).1 ∧
      (made web c job).requests = web.pageRequests job.url := by
  obtain ⟨-, hputs, hrequests⟩ := handler_spec web hs ha job {}
  exact ⟨hputs, hrequests⟩

/-- What is done for jobs one after the other is what is done for each of them alone. -/
theorem foldl_handler (web : Web) (hs : c.storage = .memory)
    (ha : c.analyzer = .disabled ∨ c.analyzer = .fake) (now : Time.Instant) (jobs : List Job)
    (w : World) :
    (jobs.foldl (fun w j => (handler web c (j.leasedAt now) w).world) w).puts
      = w.puts ++ jobs.flatMap (made web c · |>.puts) ∧
    (jobs.foldl (fun w j => (handler web c (j.leasedAt now) w).world) w).requests
      = w.requests ++ jobs.flatMap (made web c · |>.requests) := by
  induction jobs generalizing w with
  | nil => simp
  | cons j jobs ih =>
    obtain ⟨-, hputs, hrequests⟩ := handler_spec web hs ha (j.leasedAt now) w
    obtain ⟨hmade, hasked⟩ := made_spec web hs ha j
    obtain ⟨ihputs, ihrequests⟩ := ih (handler web c (j.leasedAt now) w).world
    rw [List.foldl_cons, ihputs, ihrequests, hputs, hrequests, List.flatMap_cons, List.flatMap_cons,
      hmade, hasked]
    exact ⟨List.append_assoc .., List.append_assoc ..⟩

/-! ### Queues -/

/-- A configured worker that asks for a job at most so many times. -/
def polling (web : Web) (c : Config) (name : String) (now : Time.Instant) (q : Queue) (n : Nat) :
    List Worker.Polled × Worker.Site Queue World :=
  (worker c name).drain Queue.leasing (handler web c) now n
    { queue := q, world := {}, log := readyEntries c }

/-- Draining is polling once more than there are jobs. -/
theorem drain_eq_polling (web : Web) (c : Config) (name : String) (now : Time.Instant) (q : Queue) :
    drain web c name now q = polling web c name now q (q.rows.length + 1) := rfl

/-- Polling takes the pending jobs in their order, as handlers whose outcomes are up to the web
alone do. -/
theorem drained_polling (web : Web) (hs : c.storage = .memory)
    (ha : c.analyzer = .disabled ∨ c.analyzer = .fake) (name : String) (now : Time.Instant)
    {q : Queue} (hq : q.Distinct) (hr : q.refusesReports = false) (n : Nat) :
    Worker.Drained (handler web c) (fun job => outcome job (web.page job.url).1) now n
      { queue := q, world := {}, log := readyEntries c } (polling web c name now q n) :=
  Worker.drain_spec _ (fun job w => (handler_spec web hs ha job w).1) n hq hr

/-- A record is no text of a page. -/
theorem filter_content_records (c : Config) (job : Job) :
    (records c job).filter (·.kind == .content) = [] := by
  rw [records]
  split <;> rfl

/-- What is stored for a job whose page has this markup. -/
theorem filter_content_made (web : Web) (hs : c.storage = .memory)
    (ha : c.analyzer = .disabled ∨ c.analyzer = .fake) (hoffers : web.Offers job.url markup) :
    (made web c job).puts.filter (·.kind == .content)
      = [artifact job .content ((settings c).text markup)] := by
  rw [(made_spec web hs ha job).1, Web.page_eq_ok_iff.2 hoffers, artifacts, List.filter_append,
    filter_content_records]
  rfl

/-- **An error page is never stored.**  A configured worker that keeps artifacts in memory and asks no
chat polls a queue of distinct jobs.  Asking for a job again and again gives the outages, the pending
jobs in their order, and then nothing, so that polling ends.  However often it has asked, what was
stored and requested is what each of the jobs so far came to by itself.  In the end each job that was
pending is completed, and has stored one text, if at most five references lead from its address to a
response that grants the request and arrives whole; otherwise it has failed, and nothing was stored for
it.  No job takes more than six requests. -/
theorem drained_pages (web : Web) (c : Config) (hs : c.storage = .memory)
    (ha : c.analyzer = .disabled ∨ c.analyzer = .fake) (name : String) (now : Time.Instant)
    (q : Queue) (hq : q.Distinct) (hr : q.refusesReports = false) (n : Nat) :
    (polling web c name now q n).1 = (Worker.answers q).take n ∧
    (polling web c name now q n).2.world.puts
      = (Worker.turns q n).flatMap (made web c · |>.puts) ∧
    (polling web c name now q n).2.world.requests
      = (Worker.turns q n).flatMap (made web c · |>.requests) ∧
    (q.outages + q.pending.length < n → (polling web c name now q n).1.getLast? = some .idle ∧
      Worker.turns q n = q.pending ∧
      ∀ j ∈ q.pending, ∃ k, (polling web c name now q n).2.queue.job? j.id = some k ∧
        (∀ markup, web.Offers j.url markup → k.status = .completed ∧
          (made web c j).puts.filter (·.kind == .content)
            = [artifact j .content ((settings c).text markup)]) ∧
        ((¬∃ markup, web.Offers j.url markup) → k.status = .failed ∧ (made web c j).puts = []) ∧
        (made web c j).requests.length ≤ 6) := by
  have hdrained := drained_polling web hs ha name now hq hr n
  obtain ⟨hputs, hrequests⟩ := foldl_handler web hs ha now (Worker.turns q n) {}
  refine ⟨hdrained.polled, ?_, ?_, ?_⟩
  · rw [hdrained.world]
    exact hputs
  · rw [hdrained.world]
    exact hrequests
  · intro hn
    have hturns := Worker.turns_of_lt hn
    refine ⟨?_, hturns, ?_⟩
    · rw [hdrained.polled, Worker.take_answers_of_lt hn, Worker.answers]
      simp
    · intro j hj
      have hjob : q.job? j.id = some j := (Queue.job?_eq_some hq).2 ⟨List.mem_of_mem_filter hj, rfl⟩
      refine ⟨Worker.settled now (fun job => outcome job (web.page job.url).1) j, ?_, ?_, ?_, ?_⟩
      · rw [hdrained.jobs, hjob, hturns, Option.map_some, if_pos hj]
      · intro markup hoffers
        refine ⟨?_, filter_content_made web hs ha hoffers⟩
        have hpage : (web.page (j.leasedAt now).url).1 = .ok markup := Web.page_eq_ok_iff.2 hoffers
        rw [Worker.settled, hpage]
        rfl
      · intro hnone
        cases hpage : (web.page j.url).1 with
        | ok markup => exact absurd ⟨markup, Web.page_eq_ok_iff.1 hpage⟩ hnone
        | error cause =>
          have hleased : (web.page (j.leasedAt now).url).1 = .error cause := hpage
          refine ⟨?_, by rw [(made_spec web hs ha j).1, hpage]; rfl⟩
          rw [Worker.settled, hleased]
          rfl
      · rw [(made_spec web hs ha j).2]
        exact Web.length_pageRequests web j.url

/-- An address that refers to a page, one that refers to itself, and one with a page that is cut
short. -/
private def crossroads : Web := .serving
  [("http://h/old", .answer { status := ⟨301⟩, headers := [("location", "/new")] }),
    ("http://h/new", .answer { status := ⟨200⟩, body := Text.Utf8.encode "Hello".toList }),
    ("http://h/loop", .answer { status := ⟨302⟩, headers := [("location", "/loop")] }),
    ("http://h/cut", .cutShort { status := ⟨200⟩, body := Text.Utf8.encode "Hel".toList })]

private def rambler : Config where
  databaseUrl := ""
  maxConnections := 1
  runMigrations := false
  workerId := none
  pollInterval := .ofSeconds 1
  errorBackoff := .ofSeconds 5
  stepTimeout := some (.ofSeconds 1)
  maxPhrase := 20
  fetchTimeout := .ofSeconds 30
  storage := .memory
  analyzer := .fake
  observability := ⟨false, "", ""⟩

private def trip (n : Nat) (address : String) : Job :=
  { (default : Job) with
    id := .ofRandom fun _ => Text.Hex.lastValue n
    url := "http://h/" ++ address }

/-- Three jobs, which are not handed out at once. -/
private def itinerary : Queue where
  rows := [trip 1 "old", trip 2 "loop", trip 3 "cut"]
  outages := 1

/-- The three jobs done, after the outage. -/
private def journey : List Worker.Polled × Worker.Site Queue World :=
  polling crossroads rambler "w" default itinerary 5

/-- The first job is completed, and the other two fail without a trace in the store. -/
theorem drained_pages_crossroads :
    journey.1.getLast? = some .idle ∧
    (∃ k, journey.2.queue.job? (trip 1 "old").id = some k ∧ k.status = .completed) ∧
    (∃ k, journey.2.queue.job? (trip 2 "loop").id = some k ∧ k.status = .failed ∧
      (made crossroads rambler (trip 2 "loop")).puts = []) ∧
    ∃ k, journey.2.queue.job? (trip 3 "cut").id = some k ∧ k.status = .failed ∧
      (made crossroads rambler (trip 3 "cut")).puts = [] := by
  obtain ⟨-, -, -, hend⟩ := drained_pages crossroads rambler rfl (.inr rfl) "w" default itinerary
    (by decide +kernel) rfl 5
  obtain ⟨hidle, -, hjobs⟩ := hend (by decide)
  have hlost : ∀ address, (crossroads.page address).1.isOk = false →
      ¬∃ markup, crossroads.Offers address markup := by
    rintro address hpage ⟨markup, hoffers⟩
    rw [Web.page_eq_ok_iff.2 hoffers] at hpage
    exact Bool.noConfusion hpage
  refine ⟨hidle, ?_, ?_, ?_⟩
  · obtain ⟨k, hk, hoffered, -⟩ := hjobs (trip 1 "old") (by decide +kernel)
    exact ⟨k, hk, (hoffered "Hello" (Web.page_eq_ok_iff.1 (by decide +kernel))).1⟩
  · obtain ⟨k, hk, -, hfailed, -⟩ := hjobs (trip 2 "loop") (by decide +kernel)
    exact ⟨k, hk, hfailed (hlost _ (by decide +kernel))⟩
  · obtain ⟨k, hk, -, hfailed, -⟩ := hjobs (trip 3 "cut") (by decide +kernel)
    exact ⟨k, hk, hfailed (hlost _ (by decide +kernel))⟩

end PageHarvest.Service
