import MetricRelay.Cluster.Client
import MetricRelay.Proofs.Store.Deeds

-- A cluster as the one who answers requests, each of which is given up when its time is over. A
-- bulk request is one question to one node, and what is heard of it decides the answer.

namespace MetricRelay.Cluster

-- What is heard of a question before its time is over, if anything.
abbrev Hearing := Option (Except TransportFault Reply)

-- A request that is given up leaves the client as one that failed would.
def abandoned {α : Type} : Exchange (α × Client) → Client
  | .done (_, client) => client
  | .send _ next => abandoned (next (.error .timedOut))

-- Carries a request out on a network, with all that is heard on the way.
def within {σ α : Type} (network : σ → Question → Hearing × σ) (name : String) (s : σ) :
    Exchange (Except Error α × Client) → Except Error α × List Hearing × Client × σ
  | .done (answer, client) => (answer, [], client, s)
  | .send q next =>
    match network s q with
    | (none, s) => (.error (.timeout name), [none], abandoned (next (.error .timedOut)), s)
    | (some reply, s) =>
      let (answer, heard, place) := within network name s (next reply)
      (answer, some reply :: heard, place)

-- Whoever asks sets a limit to every request, so one of which nothing is heard has failed.
def peer {σ : Type} (network : σ → Question → Hearing × σ) (wall : σ → Int64) :
    Store.Peer (Client × σ) (List Hearing) where
  answer place c :=
    within network c.request.name place.2 ((Talk.answer c.request).run place.1)
  wall place := wall place.2

-- What a bulk request comes to.
def Hearing.outcomes (documents : Nat) : Hearing → Except Error (List Store.Outcome)
  | none => .error (.timeout "bulk")
  | some (.error fault) => .error (.transport fault)
  | some (.ok reply) => reply.check.bind (bulkOutcomes documents)

theorem Exchange.andThen_assoc {α β γ : Type} (e : Exchange α) (f : α → Exchange β)
    (g : β → Exchange γ) : (e.andThen f).andThen g = e.andThen fun a => (f a).andThen g := by
  induction e with
  | done a => rfl
  | send q next ih =>
    show Exchange.send q _ = Exchange.send q _
    congr 1
    funext heard
    exact ih heard

namespace Talk

variable {α β γ : Type}

theorem run_bind (x : Talk α) (f : α → Talk β) (client : Client) :
    (x >>= f).run client = (x.run client).andThen fun r =>
      match r.1 with
      | .ok a => (f a).run r.2
      | .error e => .done (.error e, r.2) := by
  show Exchange.andThen _ _ = _
  congr 1
  funext r
  obtain ⟨answer, left⟩ := r
  cases answer <;> rfl

theorem run_bind_assoc (x : Talk α) (f : α → Talk β) (g : β → Talk γ) (client : Client) :
    ((x >>= f) >>= g).run client = (x >>= fun a => f a >>= g).run client := by
  rw [run_bind, run_bind, run_bind, Exchange.andThen_assoc]
  congr 1
  funext r
  obtain ⟨answer, left⟩ := r
  cases answer with
  | ok a => exact (run_bind (f a) g left).symm
  | error e => rfl

theorem run_get (client : Client) :
    (get : Talk Client).run client = .done (.ok client, client) := rfl

theorem run_set (client left : Client) :
    (set left : Talk PUnit).run client = .done (.ok ⟨⟩, left) := rfl

theorem run_check (r : Reply) (client : Client) :
    (check r).run client = .done (r.check, client) := rfl

-- A node is chosen without asking anybody.
theorem locate_run (path : String) (client : Client) :
    ∃ place left, (locate path).run client = .done (place, left) := by
  unfold locate
  rw [run_bind, run_get]
  dsimp only [Exchange.andThen]
  cases client.nodes[client.chosen % client.nodes.length]? with
  | none => exact ⟨_, _, rfl⟩
  | some node =>
    dsimp only
    rw [run_bind, run_set]
    dsimp only [Exchange.andThen]
    cases node.join path with
    | ok url => exact ⟨_, _, rfl⟩
    | error fault => exact ⟨_, _, rfl⟩

-- Whether the node whose turn it is can be asked for a path.
def Reaches (client : Client) (path : String) : Prop :=
  ∃ url left, (locate path).run client = .done (.ok url, left) ∧ isReachable url = true

theorem send_run {q : Question} (h : isReachable q.url = true) (client : Client) :
    (send q).run client = .send q fun heard => .done (heard.mapError .transport, client) := by
  rw [send, if_pos h, ExceptT.run_mk]
  show Exchange.send _ _ = _
  congr 1
  funext heard
  cases heard <;> rfl

section

variable {path : String} {question : Url → Question} {client : Client} {k : Reply → Talk α}

-- One question, and what is made of the reply to it.
theorem ask_run {url : Url} {left : Client}
    (hplace : (locate path).run client = .done (.ok url, left))
    (hurl : isReachable (question url).url = true) :
    (locate path >>= fun url => send (question url) >>= k).run client =
      .send (question url) fun heard =>
        match heard with
        | .ok reply => (k reply).run left
        | .error fault => .done (.error (.transport fault), left) := by
  rw [run_bind, hplace]
  show (send (question url) >>= k).run left = _
  rw [run_bind, send_run hurl]
  show Exchange.send _ _ = _
  congr 1
  funext heard
  cases heard <;> rfl

theorem ask_fails (h : ¬Reaches client path) (hquestion : ∀ url, (question url).url = url) :
    ∃ e left, (locate path >>= fun url => send (question url) >>= k).run client =
      .done (.error e, left) := by
  obtain ⟨place, left, hplace⟩ := locate_run path client
  rw [run_bind, hplace]
  cases place with
  | error e => exact ⟨e, left, rfl⟩
  | ok url =>
    have hurl : ¬isReachable (question url).url = true := by
      rw [hquestion]
      exact fun hreached => h ⟨url, left, hplace, hreached⟩
    refine ⟨.transport .unsupportedScheme, left, ?_⟩
    show (send (question url) >>= k).run left = _
    rw [run_bind, send, if_neg hurl]
    rfl

end

-- A client that finds no node to ask says so at once; else it asks one, once.
theorem bulk_run (target : String) (docs : List Document) (client : Client) :
    (¬Reaches client "_bulk" ∧ ∃ e left, (bulk target docs).run client = .done (.error e, left)) ∨
    ∃ url left, (bulk target docs).run client =
      .send ⟨.post, url, some "application/x-ndjson", bulkBody target docs⟩ fun heard =>
        .done (Hearing.outcomes docs.length (some heard), left) := by
  unfold bulk
  by_cases hreaches : Reaches client "_bulk"
  · obtain ⟨url, left, hplace, hurl⟩ := hreaches
    refine .inr ⟨url, left, (ask_run hplace hurl).trans ?_⟩
    congr 1
    funext heard
    cases heard with
    | error fault => rfl
    | ok reply =>
      dsimp only
      rw [run_bind, run_check]
      dsimp only [Exchange.andThen, Hearing.outcomes]
      cases reply.check <;> rfl
  · exact .inl ⟨hreaches, ask_fails hreaches fun url => rfl⟩

end Talk

-- A client of one node.
def lone : Client :=
  ⟨[⟨"http", "", "", some (.domain "node"), none, .segments [""], none, none⟩], 0⟩

-- What is heard of a bulk request, if a node was asked at all, decides the answer.
theorem answer_bulk {σ : Type} (network : σ → Question → Hearing × σ) (wall : σ → Int64)
    (place : Client × σ) (target : String) (docs : List Document) (limit : Option Duration) :
    let answered := (peer network wall).answer place ⟨.bulk target docs, limit⟩
    answered.2.1 = [] ∨
      ∃ heard, answered.2.1 = [heard] ∧ answered.1 = Hearing.outcomes docs.length heard := by
  intro answered
  have hanswered : answered =
      within network "bulk" place.2 ((Talk.bulk target docs).run place.1) := rfl
  rcases Talk.bulk_run target docs place.1 with ⟨-, e, left, hrun⟩ | ⟨url, left, hrun⟩
  · left
    rw [hanswered, hrun]
    rfl
  · right
    rw [hanswered, hrun]
    unfold within
    rcases hnetwork : network place.2 _ with ⟨heard, rest⟩
    cases heard with
    | none => exact ⟨none, rfl, rfl⟩
    | some reply => exact ⟨some reply, rfl, rfl⟩

end MetricRelay.Cluster
