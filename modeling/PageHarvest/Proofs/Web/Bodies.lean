import PageHarvest.Proofs.Web.Following

/-!
# Bodies of requests

On the way that references lead, a body is carried on as it is or is dropped (`Leads.body`), and
where they lead does not depend on it (`send_bare`).
-/

namespace PageHarvest.Web

variable {web : Web} {n : Nat} {r next last : Request} {response : Response}

/-- The request without its body. -/
def Request.bare (r : Request) : Request := { r with body := [] }

theorem Request.bare_moved (r : Request) (status : Status) (url : Url) :
    (r.moved status url).bare = r.bare.moved status url := by
  unfold Request.moved
  cases status.isReferral with
  | true => rfl
  | false => rfl

/-- A request that is made elsewhere asks for a page, or carries the same body. -/
theorem Request.body_moved (r : Request) (status : Status) (url : Url) :
    (r.moved status url).method = .get ∧ (r.moved status url).body = [] ∨
      (r.moved status url).method = r.method ∧ (r.moved status url).body = r.body := by
  unfold Request.moved
  cases status.isReferral with
  | true => exact .inl ⟨rfl, rfl⟩
  | false => exact .inr ⟨rfl, rfl⟩

theorem Request.exists_moved_of_next? (h : r.next? response = some (.ok next)) :
    ∃ url, next = r.moved response.status url := by
  obtain ⟨-, hnext⟩ := Option.ite_none_right_eq_some.1 h
  obtain ⟨location, -, hjoin⟩ := Option.bind_eq_some_iff.1 hnext
  cases hurl : r.url.join? location.toList with
  | ok url =>
    rw [hurl] at hjoin
    exact ⟨url, (Except.ok.inj (Option.some.inj hjoin)).symm⟩
  | error e =>
    rw [hurl] at hjoin
    exact absurd hjoin (by simp)

/-- Where a response refers to does not depend on the body. -/
theorem Request.next?_bare (r : Request) (response : Response) :
    r.bare.next? response = (r.next? response).map (Except.map Request.bare) := by
  unfold Request.next?
  split
  · cases response.headers.get? "location" with
    | none => rfl
    | some location =>
      have hurl : r.bare.url.join? location.toList = r.url.join? location.toList := rfl
      rw [Option.bind_some, Option.bind_some, hurl]
      cases r.url.join? location.toList with
      | ok url => simp only [Option.map_some, Except.map, Request.bare_moved]
      | error e =>
        dsimp only
        cases e.address? with
        | none => rfl
        | some address => rfl
  · rfl

theorem ask_bare (web : Web) (r : Request) :
    web.ask r.bare = ((web.ask r).1, (web.ask r).2.map Request.bare) := by
  cases web with
  | unreachable => rfl
  | serving reactions => rfl

/-- **The body makes no difference to where the references lead.** -/
theorem send_bare (web : Web) (n : Nat) (r : Request) :
    web.send n r.bare = ((web.send n r).1, (web.send n r).2.map Request.bare) := by
  -- On the references that are left: no step looks at the body to find the next one.
  induction n using Nat.strongRecOn generalizing r with
  | ind n ih =>
    unfold send
    dsimp only
    rw [ask_bare]
    rcases web.ask r with ⟨failure | received, asked⟩
    · rfl
    · simp only [Request.next?_bare]
      rcases r.next? received.response with _ | failure | next
      · rfl
      · rfl
      · cases n with
        | zero => rfl
        | succ n => simp only [Option.map_some, Except.map, ih n n.lt_succ_self, List.map_append]

theorem eq_of_mem_requests_ask {q : Request} (h : q ∈ (web.ask r).2) : q = r := by
  cases web with
  | unreachable => exact absurd h List.not_mem_nil
  | serving reactions => exact List.mem_singleton.1 h

theorem requests_send_unreachable (n : Nat) (r : Request) : (unreachable.send n r).2 = [] := by
  unfold send
  rfl

/-- The first request is made if there is a way to any server. -/
theorem head?_requests_send (h : web ≠ .unreachable) : (web.send n r).2.head? = some r := by
  have hask : (web.ask r).2 = [r] := by
    cases web with
    | unreachable => exact absurd rfl h
    | serving reactions => rfl
  obtain ⟨-, hasked⟩ | ⟨m, next, -, -, -, hasked⟩ := send_cases web n r
  · rw [hasked, hask, List.head?_cons]
  · rw [hasked, hask, List.cons_append, List.head?_cons]

/-- References lead to each request that is made. -/
theorem leads_of_mem_requests {q : Request} (h : q ∈ (web.send n r).2) : web.Leads n r q := by
  induction n using Nat.strongRecOn generalizing r with
  | ind n ih =>
    obtain ⟨-, hasked⟩ | ⟨m, next, rfl, hrefers, -, hasked⟩ := send_cases web n r
    · rw [hasked] at h
      rw [eq_of_mem_requests_ask h]
      exact .stays
    · rw [hasked, List.mem_append] at h
      rcases h with hfirst | hlater
      · rw [eq_of_mem_requests_ask hfirst]
        exact .stays
      · exact .follows hrefers (ih m m.lt_succ_self hlater)

/-- What references lead to asks for a page, or carries the body of the first request. -/
theorem Leads.body (h : web.Leads n r last) :
    last.method = .get ∧ last.body = [] ∨ last.method = r.method ∧ last.body = r.body := by
  induction h with
  | stays => exact .inr ⟨rfl, rfl⟩
  | @follows n r next last refers rest ih =>
    obtain ⟨received, -, hnext⟩ := refers
    obtain ⟨url, rfl⟩ := Request.exists_moved_of_next? hnext
    -- A reference that asks for a page drops the body for good.
    rcases ih with hpage | ⟨hmethod, hbody⟩
    · exact .inl hpage
    · rw [hmethod, hbody]
      exact r.body_moved received.response.status url

end PageHarvest.Web
