import PageHarvest.Chat.Analyzer
import PageHarvest.Proofs.Chat.Prompt
import PageHarvest.Proofs.Json.Accepting
import PageHarvest.Proofs.Json.Writing
import PageHarvest.Proofs.Text.Utf8
import PageHarvest.Proofs.Web.Bodies

/-!
# What a chat is asked about a text

A `question` is what a model is asked with a prompt, as a JSON value written out.  The body of a
request gives the question and no other value, also where the chat has moved (`of_mem_requests`), and
nothing but the body depends on the text (`map_bare_requests`).  The main statement is
`text_in_prompt_only`: the text stands in the prompt, in the places of the template that are cut out,
and whatever it holds, it changes nothing else.
-/

namespace PageHarvest

open Json Text

/-- The bytes of a value that is written give this value and no other. -/
theorem Json.isGivenBy_encode_write_iff {v w : Value} (h : v.IsSound) :
    w.IsGivenBy (Utf8.decode (Utf8.encode v.write)) ↔ w = v := by
  have hread : Value.read? (Symbol.ofText v.write) = some v := ofText?_write h
  rw [Utf8.decode_encode, ← read?_eq_some_iff, hread, Option.some.injEq, eq_comm]

namespace Chat

/-! ### Questions -/

/-- A message as a JSON value. -/
def said (role : String) (content : List Char) : Value :=
  .record [("role", .text role.toList), ("content", .text content)]

/-- What a model is asked with a prompt, as a JSON value: the instruction is said first, then the
prompt. -/
def question (model : String) (prompt : List Char) : Value :=
  .record
    [("model", .text model.toList),
     ("messages", .array [said "system" instruction.toList, said "user" prompt]),
     ("response_format", .record [("type", .text "json_object".toList)]),
     ("temperature", .number "0.0".toList)]

theorem isSound_said (role : String) (content : List Char) : (said role content).IsSound := by
  refine Value.isSound_record fun f hf => ?_
  simp only [List.mem_cons, List.not_mem_nil, or_false] at hf
  rcases hf with rfl | rfl
  · exact .string _
  · exact .string _

theorem isSound_question (model : String) (prompt : List Char) :
    (question model prompt).IsSound := by
  have hzero : IsNumber ([] ++ (['0'] ++ (['.', '0'] ++ []))) :=
    .parts (.inl rfl) .zero (.digits ⟨by simp, by simp⟩) .absent
  refine Value.isSound_record fun f hf => ?_
  simp only [List.mem_cons, List.not_mem_nil, or_false] at hf
  rcases hf with rfl | rfl | rfl | rfl
  · exact .string _
  · refine .array fun v hv => ?_
    simp only [List.mem_cons, List.not_mem_nil, or_false] at hv
    rcases hv with rfl | rfl
    · exact isSound_said _ _
    · exact isSound_said _ _
  · refine Value.isSound_record fun f hf => ?_
    obtain rfl := List.mem_singleton.1 hf
    exact .string _
  · exact .number hzero

theorem toJson_about (model : String) (template text : List Char) :
    (Request.about model template text).toJson = question model (fill template text) := by
  simp only [Request.about, Request.toJson, question, said, Message.toJson, List.map_cons,
    List.map_nil]

/-! ### Requests -/

namespace Analyzer

variable {a : Analyzer} {web : Web} {text : String}

/-- The requests made about a text. -/
def requests (a : Analyzer) (web : Web) (text : String) : List Web.Request :=
  (a.analyze web text).2.1

/-- The request is a post whose body is the question about this prompt, and nothing else. -/
def Poses (a : Analyzer) (r : Web.Request) (prompt : List Char) : Prop :=
  r.method = .post ∧ ∀ v : Value, v.IsGivenBy (Utf8.decode r.body) ↔ v = question a.model prompt

/-- A request can be made up: the address can be read, and the key may stand in a header. -/
def IsReady (a : Analyzer) : Prop :=
  (∃ url, Web.Url.ofText? (a.baseUrl ++ "/chat/completions".toList) = .ok url) ∧
    a.apiKey.toList.all isHeaderChar = true

/-- The body of the request about a text. -/
def body (a : Analyzer) (text : String) : List UInt8 :=
  Utf8.encode (question a.model (fill a.template.toList text.toList)).write

/-- The requests about all texts are the same but for their bodies. -/
theorem exists_request (h : a.IsReady) :
    ∃ r : Web.Request, r.method = .post ∧
      ∀ text, a.request text = .ok { r with body := a.body text } := by
  obtain ⟨⟨url, hurl⟩, hkey⟩ := h
  refine ⟨{ method := .post, url, headers := [("authorization", "Bearer " ++ a.apiKey),
    ("content-type", "application/json")] }, rfl, fun text => ?_⟩
  unfold request
  rw [hurl]
  dsimp only
  rw [if_pos hkey, Request.toText, toJson_about, body]

theorem exists_error (h : ¬a.IsReady) (text : String) : ∃ e, a.request text = .error e := by
  unfold request
  cases hurl : Web.Url.ofText? (a.baseUrl ++ "/chat/completions".toList) with
  | error e => exact ⟨_, rfl⟩
  | ok url =>
    dsimp only
    -- The address is sound, so that it is the key that cannot stand in a header.
    rw [if_neg fun hkey => h ⟨⟨url, hurl⟩, hkey⟩]
    exact ⟨_, rfl⟩

theorem requests_of_error {e : Web.Error} (h : a.request text = .error e) :
    a.requests web text = [] := by
  rw [requests, analyze, ask, h]

theorem requests_of_ok {r : Web.Request} (h : a.request text = .ok r) :
    a.requests web text = (web.send redirects r).2 := by
  rw [requests, analyze, ask, h]
  dsimp only
  -- What the requests lead to is looked at only after they were made.
  rcases web.send redirects r with ⟨failure | received, asked⟩
  · rfl
  · dsimp only
    cases content received with
    | error e => rfl
    | ok content =>
      dsimp only
      cases record content with
      | error e => rfl
      | ok posting => rfl

/-- If a request can be made up, it is the same for all texts but for its body, and goes where
references lead.  Otherwise none is made. -/
theorem requests_cases (a : Analyzer) :
    (¬a.IsReady ∧ ∀ web text, a.requests web text = []) ∨
    a.IsReady ∧ ∃ first : Web.Request, first.method = .post ∧ ∀ web text,
      a.requests web text = (web.send redirects { first with body := a.body text }).2 := by
  by_cases hready : a.IsReady
  · obtain ⟨first, hpost, hfirst⟩ := exists_request hready
    exact .inr ⟨hready, first, hpost, fun web text => requests_of_ok (hfirst text)⟩
  · refine .inl ⟨hready, fun web text => ?_⟩
    obtain ⟨e, he⟩ := exists_error hready text
    exact requests_of_error he

/-- The body of the request about a text is read as the question about the prompt. -/
theorem poses_of_body {r : Web.Request} (hmethod : r.method = .post)
    (hbody : r.body = a.body text) : a.Poses r (fill a.template.toList text.toList) := by
  refine ⟨hmethod, fun v => ?_⟩
  rw [hbody, body]
  exact isGivenBy_encode_write_iff (isSound_question _ _)

/-- A request that is made asks for a page, which a response refers to, or poses the question. -/
theorem of_mem_requests {r : Web.Request} (h : r ∈ a.requests web text) :
    r.method = .get ∧ r.body = [] ∨ a.Poses r (fill a.template.toList text.toList) := by
  obtain ⟨-, hnone⟩ | ⟨-, first, hpost, hsent⟩ := a.requests_cases
  · rw [hnone] at h
    exact absurd h List.not_mem_nil
  · rw [hsent] at h
    rcases (Web.leads_of_mem_requests h).body with hpage | ⟨hmethod, hbody⟩
    · exact .inl hpage
    · exact .inr (poses_of_body (hmethod.trans hpost) hbody)

/-- The question is posed, in the first request, just if it can be. -/
theorem isReady_iff (a : Analyzer) (web : Web) (text : String) :
    a.IsReady ∧ web ≠ .unreachable ↔
      ∃ r ∈ (a.requests web text).head?, a.Poses r (fill a.template.toList text.toList) := by
  obtain ⟨hready, hnone⟩ | ⟨hready, first, hpost, hsent⟩ := a.requests_cases
  · rw [hnone]
    exact iff_of_false (fun h => hready h.1) (by simp)
  · rw [hsent]
    constructor
    · rintro ⟨-, hweb⟩
      exact ⟨_, Web.head?_requests_send hweb, poses_of_body hpost rfl⟩
    · rintro ⟨r, hr, -⟩
      refine ⟨hready, ?_⟩
      rintro rfl
      rw [Web.requests_send_unreachable] at hr
      exact absurd hr (by simp)

/-- But for their bodies, the same requests are made about any two texts. -/
theorem map_bare_requests (a : Analyzer) (web : Web) (text text' : String) :
    (a.requests web text).map Web.Request.bare = (a.requests web text').map Web.Request.bare := by
  obtain ⟨-, hnone⟩ | ⟨-, first, -, hsent⟩ := a.requests_cases
  · rw [hnone, hnone]
  · -- Without their bodies they are what the first request leads to without its own.
    have hbare : ∀ text, (a.requests web text).map Web.Request.bare
        = (web.send redirects first.bare).2 := by
      intro text
      have hsend := Web.send_bare web redirects { first with body := a.body text }
      rw [hsent]
      exact (congrArg Prod.snd hsend).symm
    rw [hbare text, hbare text']

/-- **The text of a page stands in the prompt and nowhere else.**  The template is cut at its
placeholders in one way, whatever the text is.  Each request that is made about a text either asks
for a page, without a body, or poses the question about the parts of the template with the text
between them; the question is posed, in the first request, just if a request can be made up and there
is a way to any server.  The requests about two texts are the same but for their bodies. -/
theorem text_in_prompt_only (a : Analyzer) (web : Web) :
    ∃ ps, (∀ qs, IsCutAt placeholder a.template.toList qs ↔ qs = ps) ∧
      (∀ text, ∀ r ∈ a.requests web text, r.method = .get ∧ r.body = [] ∨
        a.Poses r (List.intercalate text.toList ps)) ∧
      (∀ text, a.IsReady ∧ web ≠ .unreachable ↔
        ∃ r ∈ (a.requests web text).head?, a.Poses r (List.intercalate text.toList ps)) ∧
      ∀ text text', (a.requests web text).map Web.Request.bare
        = (a.requests web text').map Web.Request.bare := by
  have hmark : placeholder ≠ [] := by simp [placeholder]
  exact ⟨parts a.template.toList, fun _ => isCutAt_iff hmark, fun _ _ => of_mem_requests,
    isReady_iff a web, map_bare_requests a web⟩

/-- A chat whose template has two placeholders, with a brace in front of the second one. -/
private def wordy : Analyzer := ⟨"key", "http://h".toList, "m", "<\x7btext\x7d\x7b\x7btext\x7d>"⟩

/-- A web where the chat has moved. -/
private def moving : Web := .serving
  [("http://h/chat/completions", .answer { status := ⟨308⟩, headers := [("location", "/v2")] }),
   ("http://h/v2", .hangUp)]

/-- A text that holds the placeholder itself, quotes and a line break, and is asked about twice. -/
theorem text_in_prompt_only_moved :
    ∃ r ∈ wordy.requests moving "\"\x7btext\x7d\"\n", r.url.toText = "http://h/v2".toList ∧
      wordy.Poses r "<\"\x7btext\x7d\"\n\x7b\"\x7btext\x7d\"\n>".toList := by
  obtain ⟨ps, hcut, hposes, -⟩ := text_in_prompt_only wordy moving
  have htemplate : IsCutAt placeholder wordy.template.toList [['<'], ['\x7b'], ['>']] := by
    change IsCutAt placeholder (['<'] ++ (placeholder ++ (['\x7b'] ++ (placeholder ++ ['>'])))) _
    exact .next (by decide) (.next (by decide) (.whole (by decide)))
  have hmade : ∃ r ∈ wordy.requests moving "\"\x7btext\x7d\"\n",
      r.url.toText = "http://h/v2".toList ∧ r.method = .post := by
    decide +kernel
  obtain ⟨r, hr, hurl, hpost⟩ := hmade
  refine ⟨r, hr, hurl, ?_⟩
  rcases hposes _ r hr with ⟨hget, -⟩ | hr
  · rw [hpost] at hget
    exact absurd hget (by simp)
  · rwa [← (hcut _).1 htemplate] at hr

end Analyzer

end Chat

end PageHarvest
