import PageHarvest.Proofs.Attempt.Moves
import PageHarvest.Proofs.Blob.Keys
import PageHarvest.Proofs.Record.Identifier
import PageHarvest.Service

/-!
# Where artifacts are

An attempt that is done gives the key that it kept its text under last (`Deposited`), whoever keeps it.
A configured worker keeps it in memory under this key, or has sent it to the address that ends with the
key (`isKept_of_put`).  The main statement is `artifacts_apart`.
-/

namespace PageHarvest

open Text Attempt

/-! ### The last put of an attempt -/

namespace Attempt.Progress

variable {σ : Type} {c : Collaborators σ} {s : Settings} {job : Job} {p : Progress σ} {step : Step}

/-- If the attempt is done, then it gives the key of its text, and the last thing that it did was to
keep a text under this key. -/
def Deposited (c : Collaborators σ) (job : Job) (p : Progress σ) : Prop :=
  ∀ key, p.step = .done key → key = Progress.key job .content ∧
    ∃ text w log, (c.put .content key text).run w = (.ok (), p.world, log)

theorem deposited_of_ne (h : ∀ key, p.step ≠ .done key) : Deposited c job p :=
  fun key hkey => absurd hkey (h key)

theorem fetch_ne_done (key : String) : (p.fetch c s job).step ≠ .done key := by
  rw [fetch]
  rcases p.call s.stepTimeout _ (c.fetch job.url) with ⟨_ | _ | _, p'⟩
  · exact Step.noConfusion
  · exact Step.noConfusion
  · exact Step.noConfusion

theorem normalize_ne_done (markup key : String) : (p.normalize c s job markup).step ≠ .done key := by
  rw [normalize]
  cases c.analyze.isSome with
  | true => exact Step.noConfusion
  | false => exact Step.noConfusion

theorem analyze_ne_done (text key : String) : (p.analyze c s job text).step ≠ .done key := by
  unfold analyze
  cases c.analyze with
  | none => exact Step.noConfusion
  | some analyze =>
    dsimp only
    rcases p.call s.stepTimeout _ (analyze text) with ⟨_ | _, p'⟩
    · exact Step.noConfusion
    · exact Step.noConfusion

/-- An attempt that goes on after a put has made it. -/
theorem put_cases (kind : Artifact) (key body : String) (next : Step) :
    (∃ e, (p.put c s kind key body next).step = .error e) ∨
    (p.put c s kind key body next).step = next ∧
      ∃ log, (c.put kind key body).run p.world
        = (.ok (), (p.put c s kind key body next).world, log) := by
  unfold put
  obtain ⟨-, p', hcall, -, -, hworld⟩ | ⟨-, limit, p', hcall, -⟩ :=
    call_spec s (span "store_artifact" [("key", .shown key)]) (c.put kind key body) p
  · rw [hcall]
    rcases hrun : (c.put kind key body).run p.world with ⟨_ | ⟨⟨⟩⟩, w, log⟩
    · exact .inl ⟨_, rfl⟩
    · rw [hrun] at hworld
      exact .inr ⟨rfl, log, by rw [← show p'.world = w from hworld]; rfl⟩
  · rw [hcall]
    exact .inl ⟨_, rfl⟩

theorem Deposited.advance (h : Deposited c job p) : Deposited c job (p.advance c s job) := by
  rw [Progress.advance.eq_def]
  cases hstep : p.step with
  | fetch => exact deposited_of_ne fetch_ne_done
  | normalize markup => exact deposited_of_ne (normalize_ne_done markup)
  | analyze text => exact deposited_of_ne (analyze_ne_done text)
  | store text posting =>
    cases posting with
    | some posting =>
      -- After the record of the posting, the text is still to be kept.
      obtain ⟨e, herror⟩ | ⟨hnext, -⟩ := put_cases (c := c) (s := s) (p := p) .analysis
        (Progress.key job .analysis) (String.ofList posting.toText) (.store text none)
      · exact deposited_of_ne fun key => herror ▸ Step.noConfusion
      · exact deposited_of_ne fun key => hnext ▸ Step.noConfusion
    | none =>
      obtain ⟨e, herror⟩ | ⟨hnext, log, hrun⟩ := put_cases (c := c) (s := s) (p := p) .content
        (Progress.key job .content) text (.done (Progress.key job .content))
      · exact deposited_of_ne fun key => herror ▸ Step.noConfusion
      · intro key hkey
        obtain rfl := Step.done.inj (hnext.symm.trans hkey)
        exact ⟨rfl, text, p.world, log, hrun⟩
  | done key => exact h
  | error e => exact h

theorem deposited_run (c : Collaborators σ) (s : Settings) (job : Job) (w : σ) :
    Deposited c job (run c s job w) := by
  have hstart : Deposited c job (start w) := deposited_of_ne fun key => Step.noConfusion
  exact hstart.advance.advance.advance.advance.advance

end Attempt.Progress

/-! ### Artifacts of a configured worker -/

namespace Service

variable {web : Web} {c : Config} {job : Job} {kind : Artifact} {key body : String} {w w' : World}
  {log : List Log.Entry}

/-- The address of an object in a bucket. -/
def objectAddress (bucket region : String) (endpoint : Option String) (key : List Char) :
    List Char :=
  ((Blob.Bucket.ofSettings bucket region endpoint).endpoint.toList.reverse.dropWhile
    (· == '/')).reverse ++ '/' :: bucket.toList ++ '/' :: key

/-- The object is where the artifacts of a configuration are kept: in memory under its key, or sent to
the address in the bucket that ends with its key. -/
def IsKept (c : Config) (w : World) (key : List Char) (body : List UInt8) : Prop :=
  match c.storage with
  | .memory => w.objects.get (String.ofList key) = .ok body
  | .s3 bucket region endpoint .. => ∃ request ∈ w.requests, request.method = .put ∧
      Web.Url.ofText? (objectAddress bucket region endpoint key) = .ok request.url ∧
      request.body = body

/-- What was answered was asked. -/
theorem mem_asked {r : Web.Request} {received : Web.Received} {asked : List Web.Request}
    (h : web.ask r = (.ok received, asked)) : r ∈ asked := by
  cases web with
  | unreachable => exact absurd (congrArg Prod.fst h) (by simp [Web.ask])
  | serving reactions =>
    obtain rfl : [r] = asked := congrArg Prod.snd h
    exact List.mem_singleton_self r

/-- An object that a bucket has taken was sent to its address. -/
theorem exists_request_of_put {b : Blob.Bucket} {path : Blob.Path} {type : String}
    {bytes : List UInt8} {asked : List Web.Request}
    (h : b.put web path type bytes = (.ok (), asked)) : ∃ request ∈ asked, request.method = .put ∧
      Web.Url.ofText? (b.address path) = .ok request.url ∧ request.body = bytes := by
  rw [Blob.Bucket.put] at h
  cases hrequest : b.request path type bytes with
  | error e =>
    rw [hrequest] at h
    exact absurd (congrArg Prod.fst h) (by simp)
  | ok r =>
    rw [hrequest] at h
    dsimp only at h
    rcases hask : web.ask r with ⟨e | received, asked'⟩
    · rw [hask] at h
      exact absurd (congrArg Prod.fst h) (by simp)
    · rw [hask] at h
      dsimp only at h
      split at h
      · obtain rfl : asked' = asked := congrArg Prod.snd h
        refine ⟨r, mem_asked hask, ?_⟩
        rw [Blob.Bucket.request] at hrequest
        cases hurl : Web.Url.ofText? (b.address path) with
        | error e =>
          rw [hurl] at hrequest
          exact absurd hrequest (by simp [Except.map])
        | ok url =>
          rw [hurl] at hrequest
          rw [← Except.ok.inj hrequest]
          exact ⟨rfl, rfl, rfl⟩
      · exact absurd (congrArg Prod.fst h) (by simp)

/-- An object that was put is kept. -/
theorem isKept_of_putObject {type : String} {bytes : List UInt8}
    (h : putObject web c.storage type (Progress.key job kind) bytes w = (.ok (), w')) :
    IsKept c w' (kind.key job.owner job.position) bytes ∧ w'.puts = w.puts := by
  unfold IsKept
  cases hs : c.storage with
  | memory =>
    obtain ⟨objects, hobjects⟩ := kind.exists_put w.objects job.owner job.position bytes
    have hput : w.objects.put (Progress.key job kind) bytes = .ok objects := hobjects
    simp only [hs, putObject, hput] at h
    obtain rfl : { w with objects } = w' := congrArg Prod.snd h
    refine ⟨?_, rfl⟩
    dsimp only
    rw [Artifact.get_of_put hobjects, if_pos rfl]
  | s3 bucket region endpoint accessKeyId secretAccessKey allowHttp =>
    have hpath := Artifact.toText_ofKey?_key job.owner job.position kind
    obtain ⟨path, hpath, htext⟩ := Option.map_eq_some_iff.1 hpath
    have hkey : Blob.Path.ofKey? (Progress.key job kind).toList = some path := by
      rw [Progress.key, String.toList_ofList, hpath]
    rcases hput : (Blob.Bucket.ofSettings bucket region endpoint).put web path type bytes with
      ⟨_ | ⟨⟨⟩⟩, asked⟩
    · simp only [hs, putObject, hkey, hput] at h
      exact absurd (congrArg Prod.fst h) (by simp [Except.mapError])
    · simp only [hs, putObject, hkey, hput] at h
      obtain rfl : w.asking asked = w' := congrArg Prod.snd h
      obtain ⟨request, hasked, hmethod, hurl, hbody⟩ := exists_request_of_put hput
      rw [Artifact.address_key _ htext] at hurl
      exact ⟨⟨request, List.mem_append_right _ hasked, hmethod, hurl, hbody⟩, rfl⟩

/-- An artifact whose put succeeds is kept, and noted last. -/
theorem isKept_of_put (h : ((collaborators web c).put kind (Progress.key job kind) body).run w
      = (.ok (), w', log)) :
    IsKept c w' (kind.key job.owner job.position) (Utf8.encode body.toList) ∧
      w'.puts.getLast? = some (artifact job kind body) := by
  rcases hput : putObject web c.storage kind.contentType (Progress.key job kind)
    (Utf8.encode body.toList) w with ⟨_ | ⟨⟨⟩⟩, w₁⟩
  · simp only [collaborators, Service.put, hput] at h
    exact absurd (congrArg Prod.fst h) (by simp)
  · simp only [collaborators, Service.put, hput] at h
    obtain rfl : _ = w' := congrArg (·.2.1) h
    obtain ⟨hkept, hputs⟩ := isKept_of_putObject hput
    refine ⟨?_, ?_⟩
    · unfold IsKept at hkept ⊢
      exact hkept
    · dsimp only
      rw [List.getLast?_concat]
      rfl

/-- **Artifacts are kept apart, up to the objects.**  A text denotes an identifier exactly if it is one
of its forms, in letters of either case.  Whichever spellings of owners and positions are given, the
keys of two artifacts are the same exactly if they have the same owner, the same position and the same
kind.  The path of an artifact is its key, unchanged, so that in a store every artifact can be put and
is then found under its key, while nothing changes for any other.  The key that an attempt of a
configured worker ends with is that of its text, and this text, which it stored last, is where the
key says. -/
theorem artifacts_apart :
    (∀ (s : List Char) (u : Uuid), Uuid.ofText? s = some u ↔ s.map Char.toLower ∈ u.forms) ∧
    (∀ (owner owner' position position' : List Char) (o o' p p' : Uuid) (k k' : Artifact),
      Uuid.ofText? owner = some o → Uuid.ofText? owner' = some o' →
      Uuid.ofText? position = some p → Uuid.ofText? position' = some p' →
      (Artifact.key o p k = Artifact.key o' p' k' ↔ Uuid.ofText? owner = Uuid.ofText? owner' ∧
        Uuid.ofText? position = Uuid.ofText? position' ∧ k = k')) ∧
    (∀ (o p : Uuid) (k : Artifact),
      (Blob.Path.ofKey? (Artifact.key o p k)).map Blob.Path.toText = some (Artifact.key o p k)) ∧
    (∀ (store : Blob.Store) (o p : Uuid) (k : Artifact) (bytes : List UInt8), ∃ store',
      store.put (String.ofList (Artifact.key o p k)) bytes = .ok store' ∧
      store'.get (String.ofList (Artifact.key o p k)) = .ok bytes ∧
      ∀ (o' p' : Uuid) (k' : Artifact), (o', p', k') ≠ (o, p, k) →
        store'.get (String.ofList (Artifact.key o' p' k'))
          = store.get (String.ofList (Artifact.key o' p' k'))) ∧
    ∀ (web : Web) (c : Config) (job : Job) (w : World) (key : String),
      (Progress.run (collaborators web c) (settings c) job w).outcome? = some (.ok key) →
      key.toList = Artifact.key job.owner job.position .content ∧
      ∃ text, (Progress.run (collaborators web c) (settings c) job w).world.puts.getLast?
          = some ⟨key, .content, text⟩ ∧
        IsKept c (Progress.run (collaborators web c) (settings c) job w).world key.toList
          (Utf8.encode text.toList) := by
  refine ⟨fun s u => Uuid.ofText?_eq_some_iff, ?_, Artifact.toText_ofKey?_key, ?_, ?_⟩
  · intro owner owner' position position' o o' p p' k k' ho ho' hp hp'
    rw [Artifact.key_eq_iff, ho, ho', hp, hp', Option.some_inj, Option.some_inj]
  · intro store o p k bytes
    obtain ⟨store', hput⟩ := k.exists_put store o p bytes
    refine ⟨store', hput, by rw [Artifact.get_of_put hput, if_pos rfl], ?_⟩
    intro o' p' k' hne
    rw [Artifact.get_of_put hput, if_neg]
    intro hkey
    obtain ⟨rfl, rfl, rfl⟩ := Artifact.key_eq_iff.1 hkey
    exact hne rfl
  · intro web c job w key houtcome
    obtain ⟨rfl, text, w₀, log, hrun⟩ := Progress.deposited_run (collaborators web c) (settings c) job w
      key (step_of_outcome? houtcome)
    obtain ⟨hkept, hlast⟩ := isKept_of_put hrun
    have hkey : (Progress.key job .content).toList
        = Artifact.key job.owner job.position .content := by
      rw [Progress.key, String.toList_ofList]
    rw [hkey]
    exact ⟨rfl, text, hlast, hkept⟩

/-- An identifier with as many letters as there can be, spelled in two ways. -/
private def lettered : Uuid := .ofRandom fun _ => Hex.lastValue 10

private def inCapitals : List Char := "URN:UUID:AAAAAAAA-AAAA-4AAA-AAAA-AAAAAAAAAAAA".toList

private def bare : List Char := "aaaaAAAAaaaa4AAAaaaaAAAAaaaaAAAA".toList

private def onePage : Web := .serving
  [("http://h/", .answer { status := ⟨200⟩, body := Utf8.encode "Hi".toList })]

private def pageKeeper : Config where
  databaseUrl := ""
  maxConnections := 1
  runMigrations := false
  workerId := none
  pollInterval := .ofSeconds 1
  errorBackoff := .ofSeconds 5
  stepTimeout := none
  maxPhrase := 20
  fetchTimeout := .ofSeconds 30
  storage := .memory
  analyzer := .disabled
  observability := ⟨false, "", ""⟩

private def oneJob : Job := { (default : Job) with url := "http://h/", owner := lettered }

/-- The two spellings lead to one key, but not with another kind or for a position that is another
identifier, and the page of a job is kept under its key. -/
theorem artifacts_apart_spellings :
    inCapitals.map Char.toLower ∈ lettered.forms ∧
    Artifact.key lettered lettered .content ≠ Artifact.key lettered lettered .analysis ∧
    Artifact.key lettered lettered .content ≠ Artifact.key lettered .nil .content ∧
    ∃ text, IsKept pageKeeper
      (Progress.run (collaborators onePage pageKeeper) (settings pageKeeper) oneJob {}).world
      (Progress.key oneJob .content).toList (Utf8.encode text) := by
  obtain ⟨hforms, hkeys, -, -, hrun⟩ := artifacts_apart
  have hcapitals : Uuid.ofText? inCapitals = some lettered := by decide +kernel
  have hbare : Uuid.ofText? bare = some lettered := by decide +kernel
  have hnil : Uuid.ofText? Uuid.nil.toText = some .nil := Uuid.ofText?_toText .nil
  refine ⟨(hforms inCapitals lettered).1 hcapitals, ?_, ?_, ?_⟩
  · intro hkey
    obtain ⟨-, -, hkind⟩ := (hkeys inCapitals bare bare inCapitals lettered lettered lettered lettered
      .content .analysis hcapitals hbare hbare hcapitals).1 hkey
    exact absurd hkind (by decide)
  · intro hkey
    obtain ⟨-, hposition, -⟩ := (hkeys inCapitals bare bare Uuid.nil.toText lettered lettered lettered
      .nil .content .content hcapitals hbare hbare hnil).1 hkey
    rw [hbare, hnil] at hposition
    exact absurd hposition (by decide +kernel)
  · obtain ⟨-, text, -, hkept⟩ := hrun onePage pageKeeper oneJob {} (Progress.key oneJob .content)
      (by decide +kernel)
    exact ⟨text.toList, hkept⟩

end Service

end PageHarvest
