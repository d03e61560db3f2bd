import PageHarvest.Artifact
import PageHarvest.Attempt.Script
import PageHarvest.Blob.Store
import PageHarvest.Command.Requeue
import PageHarvest.Command.Work
import PageHarvest.Config.EnvFile
import PageHarvest.Config.Reader
import PageHarvest.Database.Opening
import PageHarvest.Job.Record
import PageHarvest.Main
import PageHarvest.Page.Text
import PageHarvest.Posting
import PageHarvest.Proofs.Page.RunningText
import PageHarvest.Proofs.Page.Vocabulary
import PageHarvest.Proofs.Worker.ExactlyOnce
import PageHarvest.Proofs.Worker.Revocation
import PageHarvest.Queue.Call
import PageHarvest.Service
import PageHarvest.TraceParent
import PageHarvest.Worker.Basic
import PageHarvest.Proofs.Worker.Shutdown
import PageHarvest.Proofs.Queue.Lifecycle
import PageHarvest.Proofs.Attempt.Independence
import PageHarvest.Proofs.Worker.Rounds
import PageHarvest.Proofs.Worker.Harvest
import PageHarvest.Proofs.Worker.Artifacts
import PageHarvest.Proofs.Queue.Coherence
import PageHarvest.Proofs.Record.Job
import PageHarvest.Proofs.Record.Posting
import PageHarvest.Proofs.Service.Pages
import PageHarvest.Proofs.Blob.Path
import PageHarvest.Proofs.Blob.Store
import PageHarvest.Proofs.Phrase.Scan
import PageHarvest.Proofs.Phrase.Copies
import PageHarvest.Proofs.Page.Phrases
import PageHarvest.Proofs.Page.Repeats
import PageHarvest.Proofs.Page.Hidden
import PageHarvest.Proofs.Queue.Outages
import PageHarvest.Proofs.Queue.Staleness
import PageHarvest.Proofs.Attempt.Timing
import PageHarvest.Proofs.Queue.Leftovers
import PageHarvest.Proofs.Record.Identifier
import PageHarvest.Proofs.Blob.Keys
import PageHarvest.Proofs.Service.Objects
import PageHarvest.Json.Gaps
import PageHarvest.Proofs.Json.Accepting
import PageHarvest.Proofs.Json.Shapes
import PageHarvest.Proofs.Chat.Replies
import PageHarvest.Proofs.Chat.Requests
