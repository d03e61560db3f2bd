import PageHarvest.Job.Basic
import PageHarvest.Json.Record
import PageHarvest.Number.Bits
import PageHarvest.Time.Rfc3339

/-!
# Jobs as records

`Job.toJson` writes a job as a record of its fields in a fixed order, and `Job.ofJson?` reads one.
Fields that hold nothing are written as null and may be missing.
-/

namespace PageHarvest

open Json Text

namespace Job

/-- The names of the fields in their order. -/
def fieldNames : List String :=
  ["id", "url", "owner_id", "position_id", "trace_context", "status", "attempt_count",
   "result_key", "error_message", "created_at", "started_at", "updated_at"]

/-- A text in a record. -/
def readText? (v : Value) : Option String := v.asText?.map String.ofList

/-- An identifier in a record. -/
def readUuid? (v : Value) : Option Uuid := v.asText?.bind Uuid.ofText?

/-- An instant in a record. -/
def readInstant? (v : Value) : Option Time.Instant := v.asText?.bind Time.Instant.ofText?

/-- A number of attempts in a record: an integer of 32 bits. -/
def readAttempts? (v : Value) : Option Int :=
  v.asInt?.filter fun n => Number.wrap32 n == n

/-- A status in a record: its name, alone or with nothing in it. -/
def readStatus? : Value → Option Status
  | .string s => (Symbol.text? s).bind Status.ofName?
  | .object [(s, .null)] => (Symbol.text? s).bind Status.ofName?
  | _ => none

/-- The job that a JSON value denotes. -/
def ofJson? (v : Value) : Option Job :=
  match v.fields? fieldNames fieldNames.length with
  | some [id, url, owner, position, traceContext, status, attempts, resultKey, errorMessage,
      createdAt, startedAt, updatedAt] => do
    some {
      id := ← needed? readUuid? id
      url := ← needed? readText? url
      owner := ← needed? readUuid? owner
      position := ← needed? readUuid? position
      traceContext := ← optional? readText? traceContext
      status := ← needed? readStatus? status
      attempts := ← needed? readAttempts? attempts
      resultKey := ← optional? readText? resultKey
      errorMessage := ← optional? readText? errorMessage
      createdAt := ← needed? readInstant? createdAt
      startedAt := ← optional? readInstant? startedAt
      updatedAt := ← needed? readInstant? updatedAt }
  | _ => none

/-- The job as a JSON value. -/
def toJson (j : Job) : Value :=
  .record
    [("id", .text j.id.toText),
     ("url", .text j.url.toList),
     ("owner_id", .text j.owner.toText),
     ("position_id", .text j.position.toText),
     ("trace_context", .text? (j.traceContext.map String.toList)),
     ("status", .text j.status.name.toList),
     ("attempt_count", .int j.attempts),
     ("result_key", .text? (j.resultKey.map String.toList)),
     ("error_message", .text? (j.errorMessage.map String.toList)),
     ("created_at", .text j.createdAt.toText),
     ("started_at", .text? (j.startedAt.map Time.Instant.toText)),
     ("updated_at", .text j.updatedAt.toText)]

/-- The job that a text denotes. -/
def ofText? (s : List Char) : Option Job := (Value.ofText? s).bind ofJson?

/-- The job as text. -/
def toText (j : Job) : List Char := j.toJson.write

end Job

end PageHarvest
