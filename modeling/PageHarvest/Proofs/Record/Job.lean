import PageHarvest.Job.Record
import PageHarvest.Proofs.Json.Fields
import PageHarvest.Proofs.Json.Integers
import PageHarvest.Proofs.Time.Rfc3339

/-!
# Records of jobs

A job that was read from a text is read again from its own text (`ofText?_toText_of_ofText?`).  Not
every job is: its number of attempts has to have 32 bits, and its instants have to have texts of their
own (`IsWritable`), which is so of whatever is read.
-/

namespace PageHarvest.Job

open Json Text

variable {j : Job}

/-- What the record of a job can hold. -/
structure IsWritable (j : Job) : Prop where
  attempts : Number.wrap32 j.attempts = j.attempts
  createdAt : j.createdAt.IsWritable
  startedAt : ∀ t ∈ j.startedAt, t.IsWritable
  updatedAt : j.updatedAt.IsWritable

/-- The fields and their values. -/
def fields (j : Job) : List (String × Value) :=
  [("id", .text j.id.toText),
   ("url", .text j.url.toList),
   ("owner_id", .text j.owner.toText),
   ("position_id", .text j.position.toText),
   ("trace_context", .text? (j.traceContext.map String.toList)),
   ("status", .text j.status.name.toList),
   ("attempt_count", .int j.attempts),
   ("result_key", .text? (j.resultKey.map String.toList)),
   ("error_message", .text? (j.errorMessage.map String.toList)),
   ("created_at", .text j.createdAt.toText),
   ("started_at", .text? (j.startedAt.map Time.Instant.toText)),
   ("updated_at", .text j.updatedAt.toText)]

theorem toJson_eq (j : Job) : j.toJson = .record j.fields := rfl

theorem isSound_text? (s : Option (List Char)) : (Value.text? s).IsSound := by
  cases s with
  | none => exact .null
  | some s => exact .string _

theorem isSound_toJson (j : Job) : j.toJson.IsSound := by
  refine Value.isSound_record ?_
  simp only [List.forall_mem_cons]
  exact ⟨.string _, .string _, .string _, .string _, isSound_text? _, .string _, Value.isSound_int _,
    isSound_text? _, isSound_text? _, .string _, isSound_text? _, .string _, by simp⟩

/-! ### Single fields -/

theorem readText?_text (s : String) : readText? (.text s.toList) = some s := by
  rw [readText?, asText?_text]
  simp

/-- An identifier is written in one of the forms that are read. -/
theorem readUuid?_text (u : Uuid) : readUuid? (.text u.toText) = some u := by
  rw [readUuid?, asText?_text, Option.bind_some, Uuid.ofText?_toText]

theorem readStatus?_text (s : Status) : readStatus? (.text s.name.toList) = some s := by
  rw [Value.text, readStatus?, Symbol.text?_ofText, Option.bind_some, Status.ofName?_name]

/-- An instant is read back, if it has a text of its own. -/
theorem readInstant?_text {t : Time.Instant} (h : t.IsWritable) :
    readInstant? (.text t.toText) = some t := by
  rw [readInstant?, asText?_text, Option.bind_some, Time.Instant.ofText?_toText h]

/-- A number of attempts is read back, if it has 32 bits. -/
theorem readAttempts?_int {n : Int} (h : Number.wrap32 n = n) :
    readAttempts? (.int n) = some n := by
  rw [readAttempts?, Value.asInt?_int, Option.filter_some, if_pos (by simpa using h)]

/-- Whatever instant is read has a text of its own. -/
theorem isWritable_of_readInstant? {v : Value} {t : Time.Instant} (h : readInstant? v = some t) :
    t.IsWritable := by
  obtain ⟨s, -, hs⟩ := Option.bind_eq_some_iff.1 h
  exact Time.Instant.isWritable_of_ofText? hs

/-- Whatever number of attempts is read has 32 bits. -/
theorem wrap32_of_readAttempts? {v : Value} {n : Int} (h : readAttempts? v = some n) :
    Number.wrap32 n = n := by
  simpa using (Option.filter_eq_some_iff.1 h).2

theorem optional?_readText? (s : Option String) :
    optional? readText? (some (.text? (s.map String.toList))) = some s :=
  optional?_text? fun s _ => readText?_text s

theorem optional?_readInstant? {t : Option Time.Instant} (h : ∀ u ∈ t, u.IsWritable) :
    optional? readInstant? (some (.text? (t.map Time.Instant.toText))) = some t :=
  optional?_text? fun u hu => readInstant?_text (h u hu)

/-! ### Records -/

/-- The fields stand in the order in which they are looked for. -/
theorem keys_fields (j : Job) : j.fields.map Prod.fst = fieldNames := rfl

theorem ofJson?_toJson (h : j.IsWritable) : ofJson? j.toJson = some j := by
  rw [ofJson?, toJson_eq, fields?_record_self j.keys_fields (by decide)]
  simp only [fields, List.map_cons, List.map_nil, needed?, Option.bind_some, readUuid?_text,
    readText?_text, readStatus?_text, readAttempts?_int h.attempts, optional?_readText?,
    readInstant?_text h.createdAt, readInstant?_text h.updatedAt,
    optional?_readInstant? h.startedAt]
  rfl

/-- Only what can be written is read. -/
theorem isWritable_of_ofJson? {v : Value} (h : ofJson? v = some j) : j.IsWritable := by
  rw [ofJson?] at h
  split at h
  -- The other fields put no condition on the job; of the instants and the number of attempts, the
  -- readers say enough.
  · iterate 6 obtain ⟨_, -, h⟩ := Option.bind_eq_some_iff.1 h
    obtain ⟨attempts, hattempts, h⟩ := Option.bind_eq_some_iff.1 h
    iterate 2 obtain ⟨_, -, h⟩ := Option.bind_eq_some_iff.1 h
    obtain ⟨created, hcreated, h⟩ := Option.bind_eq_some_iff.1 h
    obtain ⟨started, hstarted, h⟩ := Option.bind_eq_some_iff.1 h
    obtain ⟨updated, hupdated, h⟩ := Option.bind_eq_some_iff.1 h
    obtain rfl := Option.some.inj h
    obtain ⟨v, -, hattempts⟩ := Option.bind_eq_some_iff.1 hattempts
    obtain ⟨w, -, hcreated⟩ := Option.bind_eq_some_iff.1 hcreated
    obtain ⟨x, -, hupdated⟩ := Option.bind_eq_some_iff.1 hupdated
    refine ⟨wrap32_of_readAttempts? hattempts, isWritable_of_readInstant? hcreated, ?_,
      isWritable_of_readInstant? hupdated⟩
    rintro t rfl
    obtain ⟨u, hu⟩ := exists_of_optional? hstarted
    exact isWritable_of_readInstant? hu
  · exact absurd h (by simp)

/-- **What can be written is read back.** -/
theorem ofText?_toText (h : j.IsWritable) : ofText? j.toText = some j := by
  rw [ofText?, toText, ofText?_write j.isSound_toJson, Option.bind_some, ofJson?_toJson h]

/-- **A record that was read is read again.**  What is read from a text, in whatever form this gives
it, is read from its own text as well, and so is written the same again. -/
theorem ofText?_toText_of_ofText? {s : List Char} (h : ofText? s = some j) :
    ofText? j.toText = some j ∧ (ofText? j.toText).map toText = some j.toText := by
  obtain ⟨v, -, hv⟩ := Option.bind_eq_some_iff.1 h
  have hread := ofText?_toText (isWritable_of_ofJson? hv)
  exact ⟨hread, congrArg (Option.map toText) hread⟩

/-- Identifiers in three forms, an escape, a leap second before midnight at a place behind universal
time, and a year with a sign. -/
theorem ofText?_toText_of_ofText?_forms :
    ∃ j, ofText? (
        "\x7b\"id\":\"urn:uuid:0190A0B1-C2D3-7000-8000-00000000000F\",\"url\":\"\\u00e9\",".toList ++
        "\"owner_id\":\"\x7b0190a0b1-c2d3-7000-8000-00000000000f\x7d\", ".toList ++
        "\"position_id\":\"0190a0b1c2d37000800000000000000f\",\"status\":\"FAILED\",".toList ++
        "\"attempt_count\":-1,\"created_at\":\"1999-12-31T23:59:60.1234567899-01:30\",".toList ++
        "\"updated_at\":\"-0001-1-1 0:0:0.5Z\"\x7d".toList) = some j ∧
      j.createdAt.toText = "2000-01-01T01:29:60.123456789Z".toList ∧
      ofText? j.toText = some j := by
  -- The reading is done once, for the instant, and the rest follows from it.
  have hread : ∀ s time, (ofText? s).map (·.createdAt.toText) = some time →
      ∃ j, ofText? s = some j ∧ j.createdAt.toText = time ∧ ofText? j.toText = some j := by
    intro s time h
    obtain ⟨j, hj, htime⟩ := Option.map_eq_some_iff.1 h
    exact ⟨j, hj, htime, (ofText?_toText_of_ofText? hj).1⟩
  exact hread _ _ (by decide +kernel)

end PageHarvest.Job
