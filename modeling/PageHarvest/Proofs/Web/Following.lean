import PageHarvest.Web.Page

/-!
# Pages that can be reached

`Offers` says that an address offers a page in terms of single requests: references lead from it to a
response that grants the request.  Fetching gets the page exactly then (`page_eq_ok_iff`), with no
more requests than there are references to follow and one (`length_pageRequests`).  Where the
references go round, they lead to no such response.
-/

namespace PageHarvest.Web

variable {web : Web} {n : Nat} {r next last : Request} {received : Received}
  {address markup : String}

/-- The response to a request refers to another one. -/
def Refers (web : Web) (r next : Request) : Prop :=
  ∃ received, (web.ask r).1 = .ok received ∧ r.next? received.response = some (.ok next)

/-- At most so many references lead from one request to another. -/
inductive Leads (web : Web) : Nat → Request → Request → Prop
  | stays {n : Nat} {r : Request} : Leads web n r r
  | follows {n : Nat} {r next last : Request} (refers : web.Refers r next)
    (rest : Leads web n next last) : Leads web (n + 1) r last

/-- The request for the page at an address. -/
def pageRequest (url : Url) : Request := { method := .get, url, headers := browserHeaders }

/-- At most five references lead from the address to a response that grants the request, and its body
arrives whole with this text. -/
def Offers (web : Web) (address markup : String) : Prop :=
  ∃ url last received, Url.ofText? address.toList = .ok url ∧ web.Leads 5 (pageRequest url) last ∧
    (web.ask last).1 = .ok received ∧ received.response.status.isSuccess = true ∧
    received.whole = true ∧ received.response.text = markup

/-- The requests made for the page at an address. -/
def pageRequests (web : Web) (address : String) : List Request := (web.page address).2

/-! ### Following references -/

theorem length_requests_ask (web : Web) (r : Request) : (web.ask r).2.length ≤ 1 := by
  cases web with
  | unreachable => exact Nat.zero_le 1
  | serving reactions => exact Nat.le_refl 1

/-- A response that grants the request refers to no other. -/
theorem next?_of_isSuccess {response : Response} (h : response.status.isSuccess = true) :
    r.next? response = none := by
  have hcode : 200 ≤ response.status.code ∧ response.status.code < 300 := by
    simpa [Status.isSuccess] using h
  have hreferral : response.status.isReferral = false := by
    simp only [Status.isReferral, Bool.or_eq_false_iff, beq_eq_false_iff_ne]
    omega
  have hrelocation : response.status.isRelocation = false := by
    simp only [Status.isRelocation, Bool.or_eq_false_iff, beq_eq_false_iff_ne]
    omega
  rw [Request.next?, hreferral, hrelocation]
  rfl

/-- A response that refers nowhere is the one that is received. -/
theorem send_of_answer (h : (web.ask r).1 = .ok received)
    (hnone : r.next? received.response = none) : (web.send n r).1 = .ok received := by
  unfold send
  rcases hask : web.ask r with ⟨outcome, asked⟩
  rw [hask] at h
  subst h
  simp only [hnone]

/-- A reference is followed if there is one left to follow. -/
theorem send_of_refers (h : web.Refers r next) :
    (web.send (n + 1) r).1 = (web.send n next).1 := by
  obtain ⟨received, hreceived, hnext⟩ := h
  rw [send]
  rcases hask : web.ask r with ⟨outcome, asked⟩
  rw [hask] at hreceived
  subst hreceived
  simp only [hnext]

/-- The response at the end of the references is the one that is received. -/
theorem send_of_leads (h : web.Leads n r last) (hask : (web.ask last).1 = .ok received)
    (hnone : last.next? received.response = none) : (web.send n r).1 = .ok received := by
  -- Along the references, each of which is followed.
  induction h with
  | stays => exact send_of_answer hask hnone
  | follows refers rest ih => rw [send_of_refers refers, ih hask hnone]

/-- What sending a request comes to: it ends with the first response or failure, or goes on to where
that response refers to. -/
theorem send_cases (web : Web) (n : Nat) (r : Request) :
    ((∀ received, (web.send n r).1 = .ok received → (web.ask r).1 = .ok received) ∧
      (web.send n r).2 = (web.ask r).2) ∨
    ∃ m next, n = m + 1 ∧ web.Refers r next ∧ (web.send n r).1 = (web.send m next).1 ∧
      (web.send n r).2 = (web.ask r).2 ++ (web.send m next).2 := by
  -- A failure, a response that refers nowhere, one whose reference is malformed, and one to be
  -- followed.
  rw [send.eq_def]
  rcases hask : web.ask r with ⟨failure | answer, asked⟩
  · exact .inl ⟨fun received h => absurd h (by simp [hask]), by simp [hask]⟩
  · rcases hnext : r.next? answer.response with _ | failure | next
    · exact .inl ⟨fun received h => by simpa [hask, hnext] using h, by simp [hask, hnext]⟩
    · exact .inl ⟨fun received h => absurd h (by simp [hask, hnext]), by simp [hask, hnext]⟩
    · cases n with
      | zero =>
        exact .inl ⟨fun received h => absurd h (by simp [hask, hnext]), by simp [hask, hnext]⟩
      | succ m =>
        exact .inr ⟨m, next, rfl, ⟨answer, by rw [hask], hnext⟩, by simp [hask, hnext],
          by simp [hask, hnext]⟩

/-- A response that is received comes from where references lead. -/
theorem exists_leads_of_send (h : (web.send n r).1 = .ok received) :
    ∃ last, web.Leads n r last ∧ (web.ask last).1 = .ok received := by
  -- On the references that are left, of which each step takes one.
  induction n using Nat.strongRecOn generalizing r with
  | ind n ih =>
    obtain ⟨hends, -⟩ | ⟨m, next, rfl, hrefers, hsend, -⟩ := send_cases web n r
    · exact ⟨r, .stays, hends received h⟩
    · obtain ⟨last, hleads, hlast⟩ := ih m m.lt_succ_self (hsend ▸ h)
      exact ⟨last, .follows hrefers hleads, hlast⟩

/-- Each reference that is followed takes one more request. -/
theorem length_requests_send (web : Web) (n : Nat) (r : Request) :
    (web.send n r).2.length ≤ n + 1 := by
  have hone := length_requests_ask web r
  induction n using Nat.strongRecOn generalizing r with
  | ind n ih =>
    obtain ⟨-, hasked⟩ | ⟨m, next, rfl, -, -, hasked⟩ := send_cases web n r
    · rw [hasked]
      omega
    · have hrest := ih m m.lt_succ_self next (length_requests_ask web next)
      rw [hasked, List.length_append]
      omega

/-! ### Pages -/

/-- The page of a response, if it grants the request and arrives whole. -/
theorem received_page_eq_ok_iff : received.page address = .ok markup ↔
    received.response.status.isSuccess = true ∧ received.whole = true ∧
      received.response.text = markup := by
  rw [Received.page, Received.text?]
  cases received.response.status.isSuccess with
  | false => simp
  | true =>
    cases received.whole with
    | false => simp
    | true => simp

theorem page_of_badUrl {e : UrlError} (h : Url.ofText? address.toList = .error e) :
    web.page address = (.error ((Error.badUrl e).failure.during ("HTTP request failed for " ++
      address)), []) := by
  simp only [page, h]

/-- An address that can be read is asked for its page, with five references to follow at most. -/
theorem page_of_url {url : Url} (h : Url.ofText? address.toList = .ok url) :
    web.page address = match web.send 5 (pageRequest url) with
      | (.error e, asked) =>
        (.error (e.failure.during ("HTTP request failed for " ++ address)), asked)
      | (.ok received, asked) => (received.page address, asked) := by
  simp only [page, h]
  rfl

/-- **The page that is fetched is the one that is offered.** -/
theorem page_eq_ok_iff : (web.page address).1 = .ok markup ↔ web.Offers address markup := by
  constructor
  · intro h
    cases hurl : Url.ofText? address.toList with
    | error e =>
      rw [page_of_badUrl hurl] at h
      exact absurd h (by simp)
    | ok url =>
      rw [page_of_url hurl] at h
      rcases hsend : web.send 5 (pageRequest url) with ⟨failure | received, asked⟩
      · exact absurd h (by simp [hsend])
      · obtain ⟨last, hleads, hlast⟩ := exists_leads_of_send (congrArg Prod.fst hsend)
        have hpage : received.page address = .ok markup := by simpa only [hsend] using h
        exact ⟨url, last, received, hurl, hleads, hlast, received_page_eq_ok_iff.1 hpage⟩
  · rintro ⟨url, last, received, hurl, hleads, hlast, hpage⟩
    have hsend := send_of_leads hleads hlast (next?_of_isSuccess hpage.1)
    rw [page_of_url hurl]
    rcases h : web.send 5 (pageRequest url) with ⟨outcome, asked⟩
    rw [h] at hsend
    subst hsend
    exact received_page_eq_ok_iff.2 hpage

/-- A page takes six requests at most. -/
theorem length_pageRequests (web : Web) (address : String) :
    (web.pageRequests address).length ≤ 6 := by
  rw [pageRequests]
  cases hurl : Url.ofText? address.toList with
  | error e =>
    rw [page_of_badUrl hurl]
    exact Nat.zero_le 6
  | ok url =>
    have hlen := length_requests_send web 5 (pageRequest url)
    rw [page_of_url hurl]
    rcases h : web.send 5 (pageRequest url) with ⟨failure | received, asked⟩
    · simpa only [h] using hlen
    · simpa only [h] using hlen

end PageHarvest.Web
