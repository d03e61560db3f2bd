import PageHarvest.Chat.Analyzer
import PageHarvest.Proofs.Json.Shapes
import PageHarvest.Proofs.Web.Following

/-!
# Postings that a chat makes out

A chat makes out a posting (`MakesOut`) if references lead from the request to a response that grants it
and arrives whole, its body gives a reply in the shape of one, the first choice has a content, and this
is a way of writing a record of the posting.  Nothing here is read; each of the readers on the way
accepts just what is said (`ofJson?_eq_some_iff`, `ask_eq_ok_iff`, `record_eq_ok_iff`).  The main
statement is `analyze_eq_iff`: the record that is made out is returned, and if there is none, the empty
one.
-/

namespace PageHarvest

open Json Text

variable {v : Value}

/-! ### Records of postings -/

namespace Posting

/-- The value is this text. -/
def IsString (v : Value) (s : String) : Prop := v.IsText s.toList

/-- The field says this: `nothing` if it is missing or null, and otherwise what its value says. -/
def Says {α : Type} (is : Value → α → Prop) (nothing : α) (field : Option Value) (a : α) : Prop :=
  ∃ given, IsOptional is field given ∧ a = given.getD nothing

/-- The value is a record of the posting.  An array may leave out the last fields. -/
def IsRecordedIn (p : Posting) (v : Value) : Prop :=
  ∃ title publishedAt requirements summary stack salary,
    HasFields fieldNames 0 v [title, publishedAt, requirements, summary, stack, salary] ∧
    Says IsString "" title p.title ∧ Says IsString "" publishedAt p.publishedAt ∧
    Says (IsListOf IsString) [] requirements p.requirements ∧ Says IsString "" summary p.summary ∧
    Says (IsListOf IsString) [] stack p.stack ∧ Says IsString "" salary p.salary

theorem readText?_eq_some_iff {s : String} : readText? v = some s ↔ IsString v s := by
  rw [readText?, Option.map_eq_some_iff, IsString, ← asText?_eq_some_iff]
  constructor
  · rintro ⟨t, ht, rfl⟩
    rw [ht, String.toList_ofList]
  · intro h
    exact ⟨s.toList, h, String.ofList_toList⟩

theorem lenient?_eq_some_iff {α : Type} {read : Value → Option α} {is : Value → α → Prop}
    (h : ∀ v a, read v = some a ↔ is v a) (hnull : ∀ a, ¬is .null a) {nothing a : α}
    {field : Option Value} : lenient? read nothing field = some a ↔ Says is nothing field a := by
  rw [lenient?, Option.map_eq_some_iff, Says]
  simp only [optional?_eq_some_iff h hnull, eq_comm]

theorem textField?_eq_some_iff {field : Option Value} {s : String} :
    textField? field = some s ↔ Says IsString "" field s := by
  have hread : ∀ v s, readText? v = some s ↔ IsString v s := fun _ _ => readText?_eq_some_iff
  have hnull : ∀ s, ¬IsString .null s := fun s => not_isText_null s.toList
  exact lenient?_eq_some_iff hread hnull

theorem listField?_eq_some_iff {field : Option Value} {ss : List String} :
    listField? field = some ss ↔ Says (IsListOf IsString) [] field ss :=
  lenient?_eq_some_iff (fun _ _ => asList?_eq_some_iff fun _ _ => readText?_eq_some_iff)
    (not_isListOf_null IsString)

/-- **A value is read as a posting exactly if it is a record of it.** -/
theorem ofJson?_eq_some_iff {p : Posting} : ofJson? v = some p ↔ p.IsRecordedIn v := by
  constructor
  · intro h
    rw [ofJson?] at h
    split at h
    · next title publishedAt requirements summary stack salary hfields =>
      simp only [Option.bind_eq_bind, Option.bind_eq_some_iff, Option.some.injEq] at h
      obtain ⟨t, ht, pa, hpa, rs, hrs, su, hsu, st, hst, sa, hsa, rfl⟩ := h
      exact ⟨title, publishedAt, requirements, summary, stack, salary,
        fields?_eq_some_iff.1 hfields, textField?_eq_some_iff.1 ht, textField?_eq_some_iff.1 hpa,
        listField?_eq_some_iff.1 hrs, textField?_eq_some_iff.1 hsu, listField?_eq_some_iff.1 hst,
        textField?_eq_some_iff.1 hsa⟩
    · exact absurd h (by simp)
  · rintro ⟨title, publishedAt, requirements, summary, stack, salary, hfields, ht, hpa, hrs, hsu, hst,
      hsa⟩
    simp only [ofJson?, fields?_eq_some_iff.2 hfields, textField?_eq_some_iff.2 ht,
      textField?_eq_some_iff.2 hpa, listField?_eq_some_iff.2 hrs, textField?_eq_some_iff.2 hsu,
      listField?_eq_some_iff.2 hst, textField?_eq_some_iff.2 hsa, Option.bind_eq_bind,
      Option.bind_some]

end Posting

/-! ### Replies -/

namespace Chat.Reply

/-- The value is a message with this content, if it has any. -/
def IsMessage (v : Value) (content : Option (List Char)) : Prop :=
  ∃ field, HasFields ["content"] 1 v [field] ∧ IsOptional Value.IsText field content

/-- The value is a choice whose message has this content. -/
def IsChoice (v : Value) (content : Option (List Char)) : Prop :=
  ∃ message, HasFields ["message"] 1 v [some message] ∧ IsMessage message content

/-- The value is a reply with choices that have these contents. -/
def IsReply (v : Value) (contents : List (Option (List Char))) : Prop :=
  ∃ choices, HasFields ["choices"] 1 v [some choices] ∧ IsListOf IsChoice choices contents

theorem only?_eq_some_iff {α : Type} {name : String} {read : Option Value → Option α} {a : α} :
    only? name read v = some a ↔ ∃ field, HasFields [name] 1 v [field] ∧ read field = some a := by
  rw [only?, Option.bind_eq_some_iff]
  constructor
  · rintro ⟨fields, hfields, hread⟩
    rw [fields?_eq_some_iff] at hfields
    -- One name, and so one entry.
    obtain ⟨field, rfl⟩ := List.length_eq_one_iff.1 hfields.length_eq
    exact ⟨field, hfields, hread⟩
  · rintro ⟨field, hfields, hread⟩
    exact ⟨[field], fields?_eq_some_iff.2 hfields, hread⟩

/-- A field that has to be there is. -/
theorem only?_needed?_eq_some_iff {α : Type} {name : String} {read : Value → Option α}
    {is : Value → α → Prop} (h : ∀ v a, read v = some a ↔ is v a) {a : α} :
    only? name (needed? read) v = some a ↔ ∃ w, HasFields [name] 1 v [some w] ∧ is w a := by
  rw [only?_eq_some_iff]
  simp only [needed?_eq_some_iff h]
  constructor
  · rintro ⟨_, hfields, w, rfl, hw⟩
    exact ⟨w, hfields, hw⟩
  · rintro ⟨w, hfields, hw⟩
    exact ⟨some w, hfields, w, rfl, hw⟩

theorem readMessage?_eq_some_iff {content : Option (List Char)} :
    readMessage? v = some content ↔ IsMessage v content := by
  rw [readMessage?, only?_eq_some_iff, IsMessage]
  have htext : ∀ v s, Value.asText? v = some s ↔ v.IsText s := fun _ _ => asText?_eq_some_iff
  simp only [optional?_eq_some_iff htext not_isText_null]

theorem readChoice?_eq_some_iff {content : Option (List Char)} :
    readChoice? v = some content ↔ IsChoice v content :=
  only?_needed?_eq_some_iff fun _ _ => readMessage?_eq_some_iff

/-- **A value is read as a reply exactly if it is one.** -/
theorem ofJson?_eq_some_iff {r : Reply} : ofJson? v = some r ↔ IsReply v r.contents := by
  rw [ofJson?, Option.map_eq_some_iff, IsReply,
    ← only?_needed?_eq_some_iff fun _ _ => asList?_eq_some_iff fun _ _ => readChoice?_eq_some_iff]
  constructor
  · rintro ⟨contents, h, rfl⟩
    exact h
  · intro h
    exact ⟨r.contents, h, rfl⟩

end Chat.Reply

/-! ### What is made out -/

namespace Chat.Analyzer

variable {a : Analyzer} {web : Web} {text : String} {content : List Char} {posting : Posting}
  {received : Web.Received}

/-- The response grants the request and has arrived whole, and its body is a reply of which the first
choice has this content. -/
def Conveys (received : Web.Received) (content : List Char) : Prop :=
  received.response.status.isSuccess = true ∧ received.whole = true ∧
    ∃ body contents, body.IsGivenBy (Utf8.decode received.response.body) ∧
      Reply.IsReply body contents ∧ contents.head? = some (some content)

/-- References lead from the request about the text to a response that conveys this content. -/
def Replies (a : Analyzer) (web : Web) (text : String) (content : List Char) : Prop :=
  ∃ request last received, a.request text = .ok request ∧ web.Leads redirects request last ∧
    (web.ask last).1 = .ok received ∧ Conveys received content

/-- The chat replies with a way of writing a record of the posting. -/
def MakesOut (a : Analyzer) (web : Web) (text : String) (posting : Posting) : Prop :=
  ∃ content v, a.Replies web text content ∧ v.IsWrittenAs content ∧ posting.IsRecordedIn v

theorem ofBytes?_eq_some_iff {bs : List UInt8} {r : Reply} :
    Reply.ofBytes? bs = some r ↔
      ∃ body : Value, body.IsGivenBy (Utf8.decode bs) ∧ Reply.IsReply body r.contents := by
  simp only [Reply.ofBytes?, Option.bind_eq_some_iff, read?_eq_some_iff, Reply.ofJson?_eq_some_iff]

theorem content_eq_ok_iff :
    Analyzer.content received = .ok content ↔ Conveys received content := by
  rw [Analyzer.content, Conveys, Web.Received.body?]
  cases received.response.status.isSuccess with
  | false => simp
  | true =>
    cases received.whole with
    | false => simp
    | true =>
      simp only [if_true, Option.bind_some, true_and]
      constructor
      · intro h
        cases hreply : Reply.ofBytes? received.response.body with
        | none =>
          rw [hreply] at h
          exact absurd h (by simp)
        | some reply =>
          obtain ⟨body, hbody, isreply⟩ := ofBytes?_eq_some_iff.1 hreply
          refine ⟨body, reply.contents, hbody, isreply, ?_⟩
          rw [hreply] at h
          dsimp only at h
          rw [Reply.content?] at h
          rcases hhead : reply.contents.head? with _ | _ | first
          · rw [hhead] at h
            exact absurd h (by simp)
          · rw [hhead] at h
            exact absurd h (by simp)
          · rw [hhead] at h
            rw [Except.ok.inj h]
      · rintro ⟨body, contents, hbody, isreply, hhead⟩
        have hreply : Reply.ofBytes? received.response.body = some ⟨contents⟩ :=
          ofBytes?_eq_some_iff.2 ⟨body, hbody, isreply⟩
        simp only [hreply, Reply.content?, hhead]
        rfl

/-- **The content that comes back is the one that the chat replies with.** -/
theorem ask_eq_ok_iff : (a.ask web text).1 = .ok content ↔ a.Replies web text content := by
  constructor
  · intro h
    rw [ask] at h
    cases hrequest : a.request text with
    | error e =>
      rw [hrequest] at h
      exact absurd h (by simp)
    | ok request =>
      rw [hrequest] at h
      dsimp only at h
      rcases hsend : web.send redirects request with ⟨failure | received, asked⟩
      · rw [hsend] at h
        exact absurd h (by simp)
      · obtain ⟨last, hleads, hlast⟩ := Web.exists_leads_of_send (congrArg Prod.fst hsend)
        rw [hsend] at h
        exact ⟨request, last, received, hrequest, hleads, hlast, content_eq_ok_iff.1 h⟩
  · rintro ⟨request, last, received, hrequest, hleads, hlast, hconveys⟩
    have hsend := Web.send_of_leads hleads hlast (Web.next?_of_isSuccess hconveys.1)
    rw [ask, hrequest]
    dsimp only
    rcases h : web.send redirects request with ⟨outcome, asked⟩
    rw [h] at hsend
    subst hsend
    exact content_eq_ok_iff.2 hconveys

/-- **The record of a content is the one that it is a way of writing.** -/
theorem record_eq_ok_iff : record content = .ok posting ↔
    ∃ v : Value, v.IsWrittenAs content ∧ posting.IsRecordedIn v := by
  simp only [← Posting.ofJson?_eq_some_iff, ← ofText?_eq_some_iff]
  rw [record, Posting.ofText?, ← Option.bind_eq_some_iff]
  cases (Value.ofText? content).bind Posting.ofJson? with
  | none => simp
  | some p => simp

/-- What is returned and said, if a record is made out. -/
theorem analyze_of_makesOut (h : a.MakesOut web text posting) :
    (a.analyze web text).1 = posting ∧ (a.analyze web text).2.2 = [a.repliedEvent] := by
  obtain ⟨content, v, hreplies, hwritten, hrecorded⟩ := h
  have hask := ask_eq_ok_iff.2 hreplies
  have hrecord := record_eq_ok_iff.2 ⟨v, hwritten, hrecorded⟩
  rw [analyze]
  rcases h : a.ask web text with ⟨outcome, asked⟩
  rw [h] at hask
  subst hask
  simp only [hrecord]
  exact ⟨trivial, trivial⟩

/-- What is returned and said, if no record is made out. -/
theorem analyze_of_not_makesOut (h : ∀ posting, ¬a.MakesOut web text posting) :
    (a.analyze web text).1 = .empty ∧ ∃ e, a.failedEvent e ∈ (a.analyze web text).2.2 := by
  rw [analyze]
  rcases hask : a.ask web text with ⟨e | content, asked⟩
  · exact ⟨rfl, e, List.mem_singleton_self _⟩
  · cases hrecord : record content with
    | error e =>
      simp only [hrecord]
      exact ⟨trivial, e, by simp⟩
    | ok posting =>
      obtain ⟨v, hwritten, hrecorded⟩ := record_eq_ok_iff.1 hrecord
      exact absurd ⟨content, v, ask_eq_ok_iff.1 (by rw [hask]), hwritten, hrecorded⟩ (h posting)

/-- **What is returned is what the chat makes out.**  For any analyzer, web and text, the record that is
returned is the one that the chat makes out, or the empty one if it makes out none.  That it makes out
none is said just then, so that an empty record can be told from the lack of one. -/
theorem analyze_eq_iff (a : Analyzer) (web : Web) (text : String) :
    (∀ posting, (a.analyze web text).1 = posting ↔
      a.MakesOut web text posting ∨ (∀ p, ¬a.MakesOut web text p) ∧ posting = .empty) ∧
    ((∃ e, a.failedEvent e ∈ (a.analyze web text).2.2) ↔ ∀ p, ¬a.MakesOut web text p) := by
  by_cases hmade : ∃ posting, a.MakesOut web text posting
  · obtain ⟨posting, hposting⟩ := hmade
    obtain ⟨hreturned, hsaid⟩ := analyze_of_makesOut hposting
    constructor
    · intro p
      constructor
      · rintro rfl
        exact .inl (hreturned ▸ hposting)
      · rintro (hp | ⟨hnone, -⟩)
        · exact (analyze_of_makesOut hp).1
        · exact absurd hposting (hnone posting)
    · rw [hsaid]
      refine iff_of_false ?_ fun hnone => hnone posting hposting
      rintro ⟨e, he⟩
      -- The levels of the two entries are different.
      exact absurd (List.mem_singleton.1 he) (by simp [failedEvent, repliedEvent])
  · have hnone : ∀ p, ¬a.MakesOut web text p := fun p hp => hmade ⟨p, hp⟩
    obtain ⟨hreturned, hsaid⟩ := analyze_of_not_makesOut hnone
    constructor
    · intro p
      constructor
      · rintro rfl
        exact .inr ⟨hnone, hreturned⟩
      · rintro (hp | ⟨-, rfl⟩)
        · exact absurd hp (hnone p)
        · exact hreturned
    · exact iff_of_true hsaid hnone

/-- A chat with choices in both forms, of which only the first one counts. -/
private def terse : Web := .serving
  [("http://h/chat/completions", .answer {
    status := ⟨200⟩
    body := Utf8.encode ("\x7b\"id\":1,\"choices\":[[[\"\x7b\\\"title\\\":\\\"Dev\\\"\x7d\"]],".toList ++
      "\x7b\"message\":\x7b\x7d\x7d]\x7d".toList) })]

example : (analyze ⟨"key", "http://h".toList, "m", "\x7btext\x7d"⟩ terse "Rust").1 = { title := "Dev" } := by
  decide +kernel

end Chat.Analyzer

end PageHarvest
