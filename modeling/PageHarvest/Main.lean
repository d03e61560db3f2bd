import PageHarvest.Command.Requeue
import PageHarvest.Command.Work
import PageHarvest.Config.EnvFile
import PageHarvest.Database.Opening

/-!
# The command line

`requeue_stale` as the first argument takes back stale leases; without it, jobs are done until the
program is told to stop.  Variables come from the environment and from the file `.env`.
-/

namespace PageHarvest

/-- The variables that the programs look at. -/
def readEnvironment : IO Config.EnvFile.Bindings := do
  let names := "RUST_LOG" :: Config.variableNames
  let env ← names.filterMapM fun name => do
    pure ((← IO.getEnv name).map (name, ·))
  try
    pure (Config.EnvFile.load env (← IO.FS.readFile ".env").toList)
  catch _ => pure env

/-- An identifier that nobody else has. -/
def randomUuid : IO Uuid := do
  let digits ← (List.range 32).mapM fun _ => IO.rand 0 15
  pure (Uuid.ofRandom fun i => Text.Hex.lastValue (digits.getD i 0))

/-- What a program leaves behind, written to the console. -/
def Command.Outcome.print (o : Outcome) : IO UInt32 := do
  for line in o.log do
    IO.println (line.write o.format)
  for line in o.stdout do
    IO.println line
  for line in o.stderr do
    IO.eprintln line
  pure (UInt32.ofNat o.exitCode)

end PageHarvest

open PageHarvest in
/-- The program that the arguments name. -/
def main (arguments : List String) : IO UInt32 := do
  let env ← readEnvironment
  match arguments with
  | "requeue_stale" :: options =>
    let connect := Database.connect .unreachable
    (Command.requeue connect Database.upkeep default (env.lookup ·) options).1.print
  | _ =>
    let place : Command.Workplace Database.Session :=
      { connect := Database.connect .unreachable, migrate := Database.migrate
        leasing := Database.leasing, pending := Database.Session.pending
        web := .unreachable, now := default, stop := ⟨1⟩ }
    let generated := "scraper-" ++ String.ofList (← randomUuid).toText
    (Command.work place generated (env.lookup ·)).1.print
