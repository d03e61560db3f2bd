import PageHarvest.Attempt.Script
import PageHarvest.Worker.Crew
import PageHarvest.Worker.Handler

/-!
# Harvests

A harvest is a crew whose workers do their jobs by attempts and keep all artifacts in one store.  An
attempt goes on one step at a time, and in between anything can happen to the queue and to the store;
how long a call takes is told with the step that makes it, so that calls can be late at any point.
-/

namespace PageHarvest

open Attempt

/-- What the workers of a harvest have to work with.  They share those who make out postings and the
store, and each goes by settings of its own. -/
structure Outfit (ι : Type) where
  /-- The record that is made of any text, if postings are made out. -/
  posting : Option Posting := none
  /-- What the store refuses, as in `Script.refuses`. -/
  refuses : Option String := none
  settings : ι → Attempt.Settings := fun _ => {}

/-- The collaborators of a step, if its call takes so long. -/
def Outfit.script {ι : Type} (o : Outfit ι) (took : Time.Span) : Script where
  posting := o.posting
  refuses := o.refuses
  fetchDelay := took
  analyzeDelay := took
  storeDelay := took

/-- A crew with the attempts of its workers. -/
structure Harvest (ι : Type) where
  crew : Crew ι
  /-- The latest attempt of each worker.  It counts while the worker is busy. -/
  attempts : ι → Progress Script.State
  /-- The pages to come and the store. -/
  world : Script.State

namespace Harvest

variable {ι : Type}

/-- What can happen next. -/
inductive Event (ι : Type)
  | acquire (w : ι)
  /-- One step of the attempt of a worker, in which a call takes so long. -/
  | advance (w : ι) (took : Time.Span)
  | handle (w : ι)
  | report (w : ι)
  | call (c : Queue.Call)
  /-- Other pages are there to be fetched. -/
  | publish (pages : List (Except String String))

/-- The event is no call, or a call of this kind. -/
def Event.within (kind : Queue.Call → Bool) : Event ι → Bool
  | call c => kind c
  | _ => true

/-- The harvest before anything has happened: nothing is stored. -/
def start (q : Queue) : Harvest ι where
  crew := .start q
  attempts _ := .start { pages := [] }
  world := { pages := [] }

variable [DecidableEq ι]

/-- The attempt of a worker at a job, one step later. -/
def advance (o : Outfit ι) (w : ι) (job : Job) (took : Time.Span) (h : Harvest ι) : Harvest ι :=
  let p := Progress.advance (o.script took).collaborators (o.settings w) job
    { h.attempts w with world := h.world }
  { h with attempts := Function.update h.attempts w p, world := p.world }

/-- One step, if the event can happen: a worker begins an attempt when it asks for a job, and has done
the job when the attempt has ended. -/
def step (o : Outfit ι) (now : Time.Instant) (h : Harvest ι) : Event ι → Option (Harvest ι)
  | .acquire w => (h.crew.step now (.acquire w)).map fun crew =>
      { h with crew, attempts := Function.update h.attempts w (.start h.world) }
  | .advance w took =>
    match h.crew.posts w with
    | .busy job _ => some (h.advance o w job took)
    | _ => none
  | .handle w =>
    match (h.attempts w).outcome? with
    | some outcome =>
      (h.crew.step now (.handle w (Handler.failureOf (some outcome)))).map fun crew => { h with crew }
    | none => none
  | .report w => (h.crew.step now (.report w)).map fun crew => { h with crew }
  | .call c => (h.crew.step now (.call c)).map fun crew => { h with crew }
  | .publish pages => some { h with world := { h.world with pages } }

/-- The harvest after these events, if they can happen. -/
def run (o : Outfit ι) (h : Harvest ι) : List (Time.Instant × Event ι) → Option (Harvest ι)
  | [] => some h
  | (now, e) :: events => (h.step o now e).bind (run o · events)

end Harvest

end PageHarvest
