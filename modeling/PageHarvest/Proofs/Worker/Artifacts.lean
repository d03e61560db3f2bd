import PageHarvest.Proofs.Queue.Lifecycle
import PageHarvest.Proofs.Worker.Harvest

/-!
# Artifacts of completed jobs

An attempt is at the step `done` only when it has kept its artifacts, and at its last put only when it
has kept the record of the posting (`Outfit.Backs`); what is stored stays, so that whatever others do
in between does not matter.  A job is completed by the report of a worker whose attempt was done
(`Queue.completed_on`), and this carries the artifacts over to the rows of the queue
(`Outfit.Accounts`).  `Harvest.Backed` puts the two together, for one step and for a run.  The main
statement is `artifacts_of_completed`.
-/

namespace PageHarvest

open Attempt
open Queue (Call)

variable {ι : Type} {o : Outfit ι} {q : Queue} {now : Time.Instant} {job : Job}

/-! ### What is stored for a job -/

namespace Outfit

variable {p : Queue} {c : Call} {r : Job} {puts puts' : List Stored} {step : Step}

/-- The artifacts of a job are stored: its text and, if postings are made out, the record of the
posting before it. -/
def Kept (o : Outfit ι) (job : Job) (puts : List Stored) : Prop :=
  ∃ text, artifact job .content text ∈ puts ∧ (o.posting.isSome = true →
    ∃ record, [artifact job .analysis record, artifact job .content text].Sublist puts)

/-- What is stored backs the step that an attempt at the job has come to. -/
def Backs (o : Outfit ι) (job : Job) (puts : List Stored) : Step → Prop
  | .store _ none => o.posting.isSome = true → ∃ record, artifact job .analysis record ∈ puts
  | .done key => key = Progress.key job .content ∧ o.Kept job puts
  | _ => True

/-- Each job that has been completed since the queue was `q` has a result, and the artifacts under its
key are stored. -/
def Accounts (o : Outfit ι) (q p : Queue) (puts : List Stored) : Prop :=
  ∀ (i : Nat) (j k : Job), q.rows[i]? = some j → p.rows[i]? = some k → j.status ≠ .completed →
    k.status = .completed →
    ∃ r ∈ q.rows, r.id = k.id ∧ k.resultKey = some (Progress.key r .content) ∧ o.Kept r puts

theorem Kept.mono (h : o.Kept job puts) (hs : puts.Sublist puts') : o.Kept job puts' := by
  obtain ⟨text, htext, hrecord⟩ := h
  refine ⟨text, hs.subset htext, ?_⟩
  intro hsome
  obtain ⟨record, hbefore⟩ := hrecord hsome
  exact ⟨record, hbefore.trans hs⟩

theorem Backs.mono (h : o.Backs job puts step) (hs : puts.Sublist puts') :
    o.Backs job puts' step := by
  cases step with
  | store text posting =>
    cases posting with
    | some posting => trivial
    | none =>
      intro hsome
      obtain ⟨record, hrecord⟩ := h hsome
      exact ⟨record, hs.subset hrecord⟩
  | done key => exact ⟨h.1, h.2.mono hs⟩
  | _ => trivial

/-- Whose artifacts are stored follows from what a job asks for. -/
theorem Backs.of_request (h : o.Backs job puts step) (hr : r.request = job.request) :
    o.Backs r puts step := by
  have hkey : Progress.key r = Progress.key job := by
    simp only [Job.request, Prod.mk.injEq] at hr
    obtain ⟨-, -, howner, hposition, -⟩ := hr
    funext kind
    rw [Progress.key, Progress.key, howner, hposition]
  have hartifact : artifact r = artifact job := by
    funext kind body
    rw [artifact, artifact, hkey]
  cases step with
  | store text posting =>
    cases posting with
    | some posting => trivial
    | none =>
      intro hsome
      rw [hartifact]
      exact h hsome
  | done key =>
    obtain ⟨rfl, hkept⟩ := h
    refine ⟨by rw [hkey], ?_⟩
    rw [Kept, hartifact]
    exact hkept
  | _ => trivial

theorem Accounts.mono (h : o.Accounts q p puts) (hs : puts.Sublist puts') :
    o.Accounts q p puts' := by
  intro i j k hj hk hopen hcompleted
  obtain ⟨r, hr, hid, hkey, hkept⟩ := h i j k hj hk hopen hcompleted
  exact ⟨r, hr, hid, hkey, hkept.mono hs⟩

/-- A call keeps the account if a success that it reports is backed. -/
theorem Accounts.on (h : o.Accounts q p puts)
    (hc : ∀ id key, c = .complete id key → ∃ r ∈ q.rows, r.id = id ∧ o.Backs r puts (.done key)) :
    o.Accounts q (c.on now p) puts := by
  intro i j k hj hk hopen hcompleted
  rcases Queue.completed_on hk hcompleted with ⟨k', hk', hbefore, hid, hkey⟩ | ⟨key, rfl, hkey⟩
  · obtain ⟨r, hr, hrid, hrkey, hkept⟩ := h i j k' hj hk' hopen hbefore
    exact ⟨r, hr, hrid.trans hid, hkey ▸ hrkey, hkept⟩
  · obtain ⟨r, hr, hrid, rfl, hkept⟩ := hc k.id key rfl
    exact ⟨r, hr, hrid, hkey, hkept⟩

end Outfit

/-! ### One step of an attempt -/

/-- An attempt keeps its artifacts in order: the step that it comes to is backed if the one that it
leaves is. -/
theorem Outfit.Backs.of_moves {took : Time.Span} {s : Attempt.Settings} {st st' : Script.State}
    {step step' : Step} (hb : o.Backs job st.puts step)
    (h : Moves (o.script took) s job st step step' st') : o.Backs job st'.puts step' := by
  cases h with
  | @unanalyzed markup missing =>
    intro hsome
    have hmissing : o.posting = none := missing
    rw [hmissing] at hsome
    exact absurd hsome (by simp)
  | @keptRecord text posting keeps =>
    intro _
    exact ⟨String.ofList posting.toText, List.mem_append_right _ List.mem_cons_self⟩
  | @keptText text keeps =>
    refine ⟨rfl, text, List.mem_append_right _ List.mem_cons_self, ?_⟩
    -- The record of the posting was stored before, and the text comes last.
    intro hsome
    obtain ⟨record, hrecord⟩ := hb hsome
    have hfirst : [artifact job .analysis record].Sublist st.puts :=
      List.singleton_sublist.2 hrecord
    exact ⟨record, hfirst.append (List.Sublist.refl _)⟩
  | done => exact hb
  | _ => trivial

/-! ### Runs -/

namespace Harvest

/-- What holds at every point of a run that began with the queue `q` and in which only workers report
on jobs. -/
structure Backed (o : Outfit ι) (q : Queue) (h : Harvest ι) : Prop where
  request : h.crew.queue.rows.map Job.request = q.rows.map Job.request
  leased : ∀ {w job lease}, (h.crew.posts w).lease? = some (job, lease) →
    job.request ∈ q.rows.map Job.request
  busy : ∀ {w job lease}, h.crew.posts w = .busy job lease →
    o.Backs job h.world.puts (h.attempts w).step
  done : ∀ {w job lease key}, h.crew.posts w = .done job lease (.ok key) →
    o.Backs job h.world.puts (.done key)
  accounts : o.Accounts q h.crew.queue h.world.puts

namespace Backed

variable {h h' : Harvest ι} {e : Event ι} {c : Call} {w : ι} {lease : Nat}

theorem start (o : Outfit ι) (q : Queue) : Backed o q (.start q) where
  request := rfl
  leased := by simp [Harvest.start, Crew.start, Post.lease?]
  busy := by simp [Harvest.start, Crew.start]
  done := by simp [Harvest.start, Crew.start]
  accounts := by
    intro i j k hj hk hopen hcompleted
    obtain rfl := Option.some.inj (hj.symm.trans hk)
    exact absurd hcompleted hopen

/-- A call by which no success is reported that is not backed. -/
theorem call (hb : Backed o q h)
    (hc : ∀ id key, c = .complete id key →
      ∃ r ∈ q.rows, r.id = id ∧ o.Backs r h.world.puts (.done key)) :
    Backed o q { h with crew := h.crew.call now c } where
  request := by
    rw [Crew.queue_call, Queue.map_request_on, hb.request]
  leased := hb.leased
  busy := hb.busy
  done := hb.done
  accounts := hb.accounts.on hc

/-- The job of a worker is one of those that were in the queue at first. -/
theorem exists_request (hb : Backed o q h) (hw : (h.crew.posts w).lease? = some (job, lease)) :
    ∃ r ∈ q.rows, r.request = job.request :=
  List.mem_map.1 (hb.leased hw)

variable [DecidableEq ι]

/-- A worker that is not busy can begin with an attempt, which does not count yet. -/
theorem begin (hb : Backed o q h) (hw : ∀ job lease, h.crew.posts w ≠ .busy job lease)
    (attempt : Progress Script.State) :
    Backed o q { h with attempts := Function.update h.attempts w attempt } where
  request := hb.request
  leased := hb.leased
  busy := by
    intro v job lease hv
    have hne : v ≠ w := by
      rintro rfl
      exact hw job lease hv
    show o.Backs job h.world.puts (Function.update h.attempts w attempt v).step
    rw [Function.update_of_ne hne]
    exact hb.busy hv
  done := hb.done
  accounts := hb.accounts

/-- A worker put to something else, which is backed. -/
theorem put (hb : Backed o q h) {post : Post}
    (hleased : ∀ job lease, post.lease? = some (job, lease) → job.request ∈ q.rows.map Job.request)
    (hbusy : ∀ job lease, post = .busy job lease →
      o.Backs job h.world.puts (h.attempts w).step)
    (hdone : ∀ job lease key, post = .done job lease (.ok key) →
      o.Backs job h.world.puts (.done key)) :
    Backed o q { h with crew := h.crew.put w post } where
  request := hb.request
  leased := by
    intro v job lease hv
    rw [Crew.lease?_put] at hv
    split at hv
    · exact hleased job lease hv
    · exact hb.leased hv
  busy := by
    intro v job lease hv
    rcases Crew.posts_of_put hv with ⟨rfl, hpost⟩ | ⟨-, hv⟩
    · exact hbusy job lease hpost
    · exact hb.busy hv
  done := by
    intro v job lease key hv
    rcases Crew.posts_of_put hv with ⟨-, hpost⟩ | ⟨-, hv⟩
    · exact hdone job lease key hpost
    · exact hb.done hv
  accounts := hb.accounts

/-- A step of an attempt backs the attempt that takes it, and takes nothing from the others. -/
theorem advance (hb : Backed o q h) (hw : h.crew.posts w = .busy job lease) (took : Time.Span) :
    Backed o q (h.advance o w job took) := by
  have hmoves := (Progress.advanced_advance (o.script took) (o.settings w) job
    { h.attempts w with world := h.world }).moves
  have hsub := hmoves.puts_sublist
  refine ⟨hb.request, hb.leased, ?_, ?_, hb.accounts.mono hsub⟩
  · intro v job' lease' hv
    by_cases hvw : v = w
    · subst hvw
      obtain ⟨rfl, -⟩ := Post.busy.inj (hw.symm.trans hv)
      have hstep := (hb.busy hw).of_moves hmoves
      simp only [Harvest.advance, Function.update_self]
      exact hstep
    · simp only [Harvest.advance, Function.update_of_ne hvw]
      exact (hb.busy hv).mono hsub
  · intro v job' lease' key hv
    exact (hb.done hv).mono hsub

/-- A request for a job, with which a new attempt begins. -/
theorem acquires {crew : Crew ι} (hb : Backed o q h)
    (hs : Crew.Steps now h.crew (.acquire w) crew) :
    Backed o q { h with crew, attempts := Function.update h.attempts w (.start h.world) } := by
  have hfree : h.crew.posts w = .free := by
    cases hs with
    | asks free none => exact free
    | leases free leased => exact free
  have hasked : Backed o q { h with
      crew := h.crew.call now .acquire
      attempts := Function.update h.attempts w (.start h.world) } := by
    refine (hb.begin ?_ _).call ?_
    · intro job lease hw
      rw [hfree] at hw
      exact absurd hw (by simp)
    · intro id key hc
      exact absurd hc (by simp)
  cases hs with
  | asks free none => exact hasked
  | leases free leased =>
    refine hasked.put ?_ ?_ ?_
    · intro job' lease hpost
      obtain ⟨rfl, -⟩ := Prod.mk.inj (Option.some.inj hpost)
      obtain ⟨j, hj, rfl⟩ := Queue.exists_of_leased? leased
      rw [← hb.request]
      exact List.mem_map.2 ⟨j, hj, rfl⟩
    · intro job' lease hpost
      show o.Backs job' h.world.puts (Function.update h.attempts w (.start h.world) w).step
      rw [Function.update_self]
      trivial
    · intro job' lease key hpost
      exact absurd hpost (by simp)

/-- A job done, by an attempt that has ended. -/
theorem handles {crew : Crew ι} {outcome : Except Error String} (hb : Backed o q h)
    (ended : (h.attempts w).outcome? = some outcome)
    (hs : Crew.Steps now h.crew (.handle w (Handler.failureOf (some outcome))) crew) :
    Backed o q { h with crew } := by
  cases hs with
  | @handles _ job lease _ busy =>
    have hput : Backed o q
        { h with crew := h.crew.put w (.done job lease (Handler.failureOf (some outcome))) } := by
      refine hb.put ?_ ?_ ?_
      · intro job' lease' hpost
        obtain ⟨rfl, -⟩ := Prod.mk.inj (Option.some.inj hpost)
        exact hb.leased (w := w) (by rw [busy]; rfl)
      · intro job' lease' hpost
        exact absurd hpost (by simp)
      · intro job' lease' key hpost
        obtain ⟨rfl, -, houtcome⟩ := Post.done.inj hpost
        have hbacks := hb.busy busy
        cases outcome with
        | ok key' =>
          obtain rfl := Except.ok.inj houtcome
          rw [step_of_outcome? ended] at hbacks
          exact hbacks
        | error e => exact absurd houtcome (by simp [Handler.failureOf])
    exact ⟨hput.request, hput.leased, hput.busy, hput.done, hput.accounts⟩

/-- A report: if it is one of success, the attempt was done. -/
theorem reports {crew : Crew ι} (hb : Backed o q h)
    (hs : Crew.Steps now h.crew (.report w) crew) : Backed o q { h with crew } := by
  cases hs with
  | @reports _ job lease outcome done =>
    have hreported : Backed o q
        { h with crew := h.crew.call now (.ofOutcome job.id outcome) } := by
      refine hb.call ?_
      intro id key hc
      cases outcome with
      | ok key' =>
        obtain ⟨rfl, rfl⟩ := Call.complete.inj hc
        obtain ⟨r, hr, hrequest⟩ := hb.exists_request (w := w) (by rw [done]; rfl)
        exact ⟨r, hr, Job.id_of_request hrequest,
          (hb.done done).of_request hrequest⟩
      | error failure => exact absurd hc (by simp [Call.ofOutcome])
    refine hreported.put ?_ ?_ ?_
    · intro job' lease' hpost
      exact absurd hpost (by simp [Post.lease?])
    · intro job' lease' hpost
      exact absurd hpost (by simp)
    · intro job' lease' key hpost
      exact absurd hpost (by simp)

/-- Every step keeps completed jobs backed. -/
theorem of_steps (hb : Backed o q h) (he : e.within (fun c => !c.isReport) = true)
    (hs : Steps o now h e h') : Backed o q h' := by
  cases hs with
  | acquires step => exact hb.acquires step
  | advances busy => exact hb.advance busy _
  | handles ended step => exact hb.handles ended step
  | reports step => exact hb.reports step
  | calls =>
    refine hb.call ?_
    rintro id key rfl
    exact absurd he (by simp [Event.within, Call.isReport])
  | publishes => exact ⟨hb.request, hb.leased, hb.busy, hb.done, hb.accounts⟩

end Backed

variable [DecidableEq ι]

/-- **Completed jobs have their artifacts.**  The workers of a crew do their jobs by attempts, with one
store for all of them and with or without someone who makes out postings; their steps come in any
order, each call of an attempt takes any time, the pages are any, and others call in between, so that
leases are taken back, requests for jobs fail and reports are refused.  If only workers report on jobs,
then a job that was not completed at first and is completed now has as its result the key of the text
of a job of its identifier, which is the job itself if no two jobs share an identifier; that text is
stored under this key, and if postings are made out, the record of the posting is stored before it
under the key that the same job has for it. -/
theorem artifacts_of_completed (o : Outfit ι) (q : Queue) (events : List (Time.Instant × Event ι))
    (h : Harvest ι) (hrun : (start q).run o events = some h)
    (hkind : ∀ e ∈ events, e.2.within (fun c => !c.isReport) = true) :
    ∀ (i : Nat) (j k : Job), q.rows[i]? = some j → h.crew.queue.rows[i]? = some k →
      j.status ≠ .completed → k.status = .completed →
      ∃ r ∈ h.crew.queue.rows, r.id = k.id ∧ (q.Distinct → r = k) ∧
        k.resultKey = some (Progress.key r .content) ∧
        ∃ text, artifact r .content text ∈ h.world.puts ∧ (o.posting.isSome = true →
          ∃ record, [artifact r .analysis record, artifact r .content text].Sublist
            h.world.puts) := by
  have hb : h.Backed o q := holds_of_run Backed.of_steps hrun hkind (.start o q)
  intro i j k hj hk hopen hcompleted
  obtain ⟨r₀, hr₀, hid, hkey, hkept⟩ := hb.accounts i j k hj hk hopen hcompleted
  -- The job that was done is still there and asks for the same.
  have hrequest : r₀.request ∈ h.crew.queue.rows.map Job.request := by
    rw [hb.request]
    exact List.mem_map_of_mem hr₀
  obtain ⟨r, hr, hrr⟩ := List.mem_map.1 hrequest
  have hrid : r.id = k.id := (Job.id_of_request hrr).trans hid
  have hbacks : o.Backs r₀ h.world.puts (.done (Progress.key r₀ .content)) := ⟨rfl, hkept⟩
  obtain ⟨hrkey, hrkept⟩ := hbacks.of_request hrr
  refine ⟨r, hr, hrid, ?_, hkey.trans (congrArg some hrkey), hrkept⟩
  intro hdistinct
  have hnodup : h.crew.queue.Distinct := by
    rw [Queue.Distinct, Queue.ids_of_requests hb.request]
    exact hdistinct
  exact List.inj_on_of_nodup_map hnodup hr (List.mem_of_getElem? hk) hrid

/-- One pending job. -/
private def offer : Queue where
  rows := [{ (default : Job) with id := .nil }]

/-- The job is leased and done in five steps, and reported on, while its lease is taken back and
another worker asks for a job. -/
private def shifts : List (Time.Instant × Event Bool) :=
  [(default, .publish [.ok "<p>Rust</p>"]), (default, .acquire true), (default, .advance true ⟨0⟩),
    (default, .advance true ⟨0⟩), (default, .call (.backdateLease .nil (.ofSeconds 7200))),
    (default, .call (.requeueStale (.ofSeconds 3600))), (default, .acquire false),
    (default, .advance true ⟨0⟩), (default, .advance true ⟨0⟩), (default, .advance true ⟨0⟩),
    (default, .handle true), (default, .report true)]

/-- The job is completed, and the record of its posting and its text are stored in this order. -/
theorem artifacts_of_completed_offer :
    ∃ h k, (start offer).run { posting := some .empty } shifts = some h ∧
      h.crew.queue.rows[0]? = some k ∧ k.resultKey = some (Progress.key k .content) ∧
      ∃ text record, [artifact k .analysis record, artifact k .content text].Sublist
        h.world.puts := by
  refine ⟨_, _, rfl, rfl, ?_⟩
  obtain ⟨r, hr, hid, hsame, hkey, text, htext, hrecord⟩ := artifacts_of_completed
    { posting := some .empty } offer shifts _ rfl (by decide) 0 _ _ rfl rfl (by decide) rfl
  obtain rfl := hsame (by decide)
  obtain ⟨record, hbefore⟩ := hrecord rfl
  exact ⟨hkey, text, record, hbefore⟩

/-- Two jobs with one identifier and different owners: the first is being processed, by none of the
workers, and the other one is pending. -/
private def namesakes : Queue where
  rows := [{ (default : Job) with id := .nil, status := .processing },
    { (default : Job) with id := .nil, owner := .ofRandom fun _ => Text.Hex.lastValue 0 }]

/-- A worker leases the pending job, does it and reports on it. -/
private def shortShift : List (Time.Instant × Event Unit) :=
  [(default, .acquire ()), (default, .advance () ⟨0⟩), (default, .advance () ⟨0⟩),
    (default, .advance () ⟨0⟩), (default, .handle ()), (default, .report ())]

/-- The first of two jobs with one identifier is completed by the report on the other one: its result is
not the key of its own text, and nothing is stored under that key. -/
theorem namesake_of_completed :
    ∃ h j k, (start namesakes).run {} shortShift = some h ∧ namesakes.rows[0]? = some j ∧
      h.crew.queue.rows[0]? = some k ∧ j.status ≠ .completed ∧ k.status = .completed ∧
      k.resultKey ≠ some (Progress.key k .content) ∧
      ∀ stored ∈ h.world.puts, stored.key ≠ Progress.key k .content := by
  refine ⟨_, _, _, rfl, rfl, rfl, by decide, rfl, ?_, ?_⟩
  · decide +kernel
  · decide +kernel

end Harvest

end PageHarvest
