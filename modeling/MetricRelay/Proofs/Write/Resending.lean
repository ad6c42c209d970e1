import MetricRelay.Proofs.Cluster.Peer
import MetricRelay.Proofs.Write.Delivery

-- When a delivery sends a batch again. A bulk request that failed as a whole is repeated as long as
-- attempts are left and the failure is one that passes; any other failure ends the delivery at
-- once.

namespace MetricRelay

open Store (Call Deed Peer Routine)

namespace Write.Delivery

variable {σ ρ : Type} {peer : Peer σ ρ} {config : Config} {target : String}

-- The request an attempt makes.
abbrev request (config : Config) (target : String) (docs : List Document) : Call :=
  ⟨.bulk target docs, some config.requestTimeout⟩

-- How a delivery goes on after an answer; the attempt is counted already.
def followUp (again : List Document → Delivery → String → Routine Note Delivery)
    (docs : List Document) (soFar : Delivery) (answer : Except Error (List Store.Outcome)) :
    Routine Note Delivery :=
  match checkLength docs answer with
  | .ok outcomes =>
    let retry := retryable docs outcomes
    let refused := refusals outcomes
    let written := countAccepted outcomes
    let soFar := { soFar with written := soFar.written + written,
                              dropped := soFar.dropped + refused.length }
    .note (.settled written refused.length refused.head? retry.length)
      (if retry.isEmpty then .done soFar
       else again retry soFar (toString retry.length ++ " documents rejected as retryable"))
  | .error e => if e.isTransient then again docs soFar e.message else giveUp docs soFar e.message

def attempted (d : Delivery) : Delivery := { d with attempts := d.attempts + 1 }

theorem deeds_attemptOnce (again : List Document → Delivery → String → Routine Note Delivery)
    (docs : List Document) (soFar : Delivery) (s : σ) :
    (attemptOnce config target again docs soFar).deeds peer s =
      let answered := peer.answer s (request config target docs)
      .asked (request config target docs) answered.1 answered.2.1 ::
        (followUp again docs soFar.attempted answered.1).deeds peer answered.2.2 := rfl

-- The last attempt is followed by no other.
theorem requests_followUp_giveUp (docs : List Document) (soFar : Delivery)
    (answer : Except Error (List Store.Outcome)) (s : σ) :
    Deed.requests ((followUp giveUp docs soFar answer).deeds peer s) = 0 := by
  unfold followUp
  cases checkLength docs answer with
  | ok outcomes =>
    dsimp only [Routine.deeds]
    rw [Deed.requests_noted]
    split
    · rfl
    · simp [giveUp, Routine.deeds]
  | error e =>
    dsimp only
    split <;> simp [giveUp, Routine.deeds]

-- What an attempt goes on with if another is allowed.
def sendAgain (config : Config) (target : String) (left : Nat) :
    List Document → Delivery → String → Routine Note Delivery :=
  fun docs soFar _ =>
    .note .retrying
      (.pause (config.backoff.delay soFar.attempts) (attemptUpTo config target left docs soFar))

-- A request that follows an attempt belongs to the next one.
theorem of_followUp_sendAgain {left : Nat} {docs : List Document} {soFar : Delivery}
    {answer : Except Error (List Store.Outcome)} {s : σ} {before after : List (Deed Note ρ)}
    {c : Call} {later : Except Error c.request.Answer} {remark : ρ}
    (h : (followUp (sendAgain config target left) docs soFar answer).deeds peer s =
      before ++ .asked c later remark :: after) :
    ∃ others soFar' rest, Deed.requests before = Deed.requests rest ∧
      soFar'.attempts = soFar.attempts ∧
      (attemptUpTo config target left others soFar').deeds peer s =
        rest ++ .asked c later remark :: after := by
  unfold followUp at h
  cases hlength : checkLength docs answer with
  | ok outcomes =>
    simp only [hlength, Routine.deeds] at h
    obtain ⟨settled, rfl, hleft⟩ := Deed.of_cons_of_not_isRequest rfl h
    by_cases hdone : (retryable docs outcomes).isEmpty = true
    · simp [hdone, Routine.deeds] at hleft
    · rw [if_neg hdone] at hleft
      obtain ⟨noted, rfl, hpaused⟩ := Deed.of_cons_of_not_isRequest rfl hleft
      obtain ⟨paused, rfl, hnext⟩ := Deed.of_cons_of_not_isRequest rfl hpaused
      refine ⟨_, _, paused, by simp, ?_, hnext⟩
      rfl
  | error e =>
    simp only [hlength] at h
    by_cases hpasses : e.isTransient = true
    · rw [if_pos hpasses] at h
      obtain ⟨noted, rfl, hpaused⟩ := Deed.of_cons_of_not_isRequest rfl h
      obtain ⟨paused, rfl, hnext⟩ := Deed.of_cons_of_not_isRequest rfl hpaused
      exact ⟨_, _, paused, by simp, rfl, hnext⟩
    · rw [if_neg hpasses] at h
      obtain ⟨noted, rfl, hleft⟩ := Deed.of_cons_of_not_isRequest rfl h
      simp [Routine.deeds] at hleft

-- What follows a request that failed as a whole, of a delivery that may still make `left`
-- attempts after its first one.
structure Repeats (config : Config) (target : String) (left made : Nat) (docs : List Document)
    (e : Error) (after : List (Deed Note ρ)) : Prop where
  again : e.isTransient = true → 0 < left → ∃ answer remark rest,
    after = .noted .retrying :: .paused (config.backoff.delay made) ::
      .asked (request config target docs) answer remark :: rest
  ended : e.isTransient = false ∨ left = 0 →
    after = [.noted (.failed docs.length made e.message)]

-- An attempt that failed is the last one if `giveUp` comes after it.
theorem repeats_giveUp {docs : List Document} {soFar : Delivery}
    {answer : Except Error (List Store.Outcome)} {s : σ} {e : Error}
    (he : checkLength docs answer = .error e) :
    Repeats config target 0 soFar.attempts docs e
      ((followUp giveUp docs soFar answer).deeds peer s) := by
  refine ⟨fun _ hleft => absurd hleft (by omega), fun _ => ?_⟩
  unfold followUp
  rw [he]
  dsimp only
  split <;> rfl

theorem repeats_sendAgain {left : Nat} {docs : List Document} {soFar : Delivery}
    {answer : Except Error (List Store.Outcome)} {s : σ} {e : Error}
    (he : checkLength docs answer = .error e) :
    Repeats config target (left + 1) soFar.attempts docs e
      ((followUp (sendAgain config target left) docs soFar answer).deeds peer s) := by
  unfold followUp
  rw [he]
  dsimp only
  by_cases hpasses : e.isTransient = true
  · rw [if_pos hpasses]
    refine ⟨fun _ _ => ?_, fun hend => ?_⟩
    · cases left <;> exact ⟨_, _, _, rfl⟩
    · simp [hpasses] at hend
  · rw [if_neg hpasses]
    exact ⟨fun hagain => absurd hagain hpasses, fun _ => rfl⟩

-- By induction on the attempts left. A request of the run is the first one or belongs to the
-- attempts after it.
theorem repeats_of_attemptUpTo {left : Nat} {docs sent : List Document} {soFar : Delivery} {s : σ}
    {before after : List (Deed Note ρ)} {answer : Except Error (List Store.Outcome)} {remark : ρ}
    (h : (attemptUpTo config target left docs soFar).deeds peer s =
      before ++ .asked (request config target sent) answer remark :: after) :
    Deed.requests before ≤ left ∧ ∀ e, checkLength sent answer = .error e →
      Repeats config target (left - Deed.requests before)
        (soFar.attempts + Deed.requests before + 1) sent e after := by
  induction left generalizing docs soFar s before with
  | zero =>
    change (attemptOnce config target giveUp docs soFar).deeds peer s = _ at h
    rw [deeds_attemptOnce] at h
    cases List.cons_eq_append_iff.mp h with
    | inl hfirst =>
      obtain ⟨rfl, hfirst⟩ := hfirst
      cases hfirst
      refine ⟨by simp, fun e he => ?_⟩
      rw [Deed.requests_nil, Nat.sub_zero, Nat.add_zero]
      exact (repeats_giveUp he : Repeats config target 0 soFar.attempted.attempts sent e _)
    | inr hlater =>
      obtain ⟨rest, _, hrest⟩ := hlater
      have hnone := congrArg Deed.requests hrest
      rw [requests_followUp_giveUp, Deed.requests_append, Deed.requests_asked] at hnone
      omega
  | succ left ih =>
    change (attemptOnce config target (sendAgain config target left) docs soFar).deeds peer s = _
      at h
    rw [deeds_attemptOnce] at h
    cases List.cons_eq_append_iff.mp h with
    | inl hfirst =>
      obtain ⟨rfl, hfirst⟩ := hfirst
      cases hfirst
      refine ⟨by simp, fun e he => ?_⟩
      rw [Deed.requests_nil, Nat.sub_zero, Nat.add_zero]
      exact (repeats_sendAgain he :
        Repeats config target (left + 1) soFar.attempted.attempts sent e _)
    | inr hlater =>
      obtain ⟨rest, rfl, hrest⟩ := hlater
      obtain ⟨others, soFar', next, hnext, hattempts, hdeeds⟩ := of_followUp_sendAgain hrest
      obtain ⟨hle, hrepeats⟩ := ih hdeeds
      have hmade : soFar'.attempts = soFar.attempts + 1 := hattempts
      rw [Deed.requests_asked, hnext]
      refine ⟨by omega, fun e he => ?_⟩
      have hrepeat := hrepeats e he
      rw [hmade] at hrepeat
      have hleft : left + 1 - (Deed.requests next + 1) = left - Deed.requests next := by omega
      have hcount : soFar.attempts + (Deed.requests next + 1) + 1 =
          soFar.attempts + 1 + Deed.requests next + 1 := by omega
      rw [hleft, hcount]
      exact hrepeat

end Write.Delivery

namespace Cluster

-- A bulk request that the transport or the node could not carry out: its time is over, or the node
-- is overloaded or broken.
def Hearing.Interrupted : Hearing → Prop
  | none => True
  | some (.error fault) => fault = .timedOut
  | some (.ok reply) => reply.status = 429 ∨ 500 ≤ reply.status ∧ reply.status < 600

-- Whether what was heard asks to come back later.
def Hearing.passes : Hearing → Bool
  | none => true
  | some (.error fault) => fault.isPassing
  | some (.ok reply) => isRetryableStatus reply.status

theorem Hearing.outcomes_of_interrupted {heard : Hearing} (h : heard.Interrupted) (n : Nat) :
    ∃ e, heard.outcomes n = .error e ∧ e.isTransient = heard.passes := by
  match heard, h with
  | none, _ => exact ⟨_, rfl, rfl⟩
  | some (.error fault), h =>
    have hfault : fault = .timedOut := h
    subst hfault
    exact ⟨_, rfl, rfl⟩
  | some (.ok reply), h =>
    have hstatus : reply.status = 429 ∨ 500 ≤ reply.status ∧ reply.status < 600 := h
    have hrefused : reply.isSuccess = false := by
      simp only [Reply.isSuccess, Bool.and_eq_false_iff, decide_eq_false_iff_not]
      omega
    by_cases hretry : isRetryableStatus reply.status = true
    · refine ⟨.unavailable (toString reply.status ++ ": " ++ reason reply.content), ?_, ?_⟩
      · simp [outcomes, Reply.check, hrefused, hretry, Except.bind]
      · simp [passes, hretry, Error.isTransient, Error.kind]
    · refine ⟨.store reply.status (reason reply.content), ?_, ?_⟩
      · simp [outcomes, Reply.check, hrefused, hretry, Except.bind]
      · simp [passes, hretry, Error.isTransient, Error.kind]

-- Of the interruptions those do not pass that are a node's failure other than a bad gateway, an
-- outage or a gateway's timeout.
theorem Hearing.passes_eq_false_iff {heard : Hearing} (h : heard.Interrupted) :
    heard.passes = false ↔
      ∃ reply, heard = some (.ok reply) ∧ reply.status ∉ [429, 502, 503, 504] := by
  match heard, h with
  | none, _ => simp [passes]
  | some (.error fault), h =>
    have hfault : fault = .timedOut := h
    subst hfault
    simp [passes, TransportFault.isPassing]
  | some (.ok reply), h =>
    have hstatus : reply.status = 429 ∨ 500 ≤ reply.status ∧ reply.status < 600 := h
    have hmissing : reply.status ≠ 408 := by omega
    simp [passes, isRetryableStatus, hmissing, and_assoc]

end Cluster

namespace Write.Delivery

open Cluster (Client Hearing Question)

-- What a delivery does that asks the nodes of a cluster.
def deedsOn (network : σ → Question → Hearing × σ) (wall : σ → Int64) (place : Client × σ)
    (config : Config) (target : String) (batch : Batch) : List (Deed Note (List Hearing)) :=
  (routine config target batch).deeds (Cluster.peer network wall) place

-- An interrupted request is sent again, with the same documents, as long as there are attempts
-- left and the interruption passes; otherwise the batch is reported as failed at once. Statuses
-- from 500 on do not pass, but for three of them.
theorem interruption_repeated {network : σ → Question → Hearing × σ} {wall : σ → Int64}
    {place : Client × σ} {batch : Batch} {docs : List Document}
    {before after : List (Deed Note (List Hearing))}
    {answer : Except Error (List Store.Outcome)} {heard : Hearing}
    (h : deedsOn network wall place config target batch =
      before ++ .asked (request config target docs) answer [heard] :: after)
    (hheard : heard.Interrupted) :
    let attempt := Deed.requests before + 1
    attempt ≤ config.maxRetries + 1 ∧
    (heard.passes = true → attempt ≤ config.maxRetries → ∃ answer remark rest,
      after = .noted .retrying :: .paused (config.backoff.delay attempt) ::
        .asked (request config target docs) answer remark :: rest) ∧
    (heard.passes = false ∨ attempt = config.maxRetries + 1 →
      ∃ message, after = [.noted (.failed docs.length attempt message)]) ∧
    (heard.passes = false ↔
      ∃ reply, heard = some (.ok reply) ∧ reply.status ∉ [429, 502, 503, 504]) := by
  intro attempt
  have hattempt : attempt = Deed.requests before + 1 := rfl
  obtain ⟨hle, hrepeats⟩ := repeats_of_attemptUpTo h
  -- the answer is the one that what was heard stands for
  have hanswer : answer = heard.outcomes docs.length := by
    obtain ⟨t, hanswer, hremark⟩ := Routine.answer_of_mem_deeds
      (h ▸ List.mem_append_right before List.mem_cons_self)
    rcases Cluster.answer_bulk network wall t target docs (some config.requestTimeout) with
      hnone | ⟨other, hother, houtcomes⟩
    · rw [hremark] at hnone
      cases hnone
    · rw [hremark] at hother
      cases hother
      rw [← hanswer, houtcomes]
  obtain ⟨e, he, htransient⟩ := Hearing.outcomes_of_interrupted hheard docs.length
  have hcheck : checkLength docs answer = .error e := by
    rw [hanswer, he]
    rfl
  obtain ⟨hagain, hended⟩ := hrepeats e hcheck
  have hmade : none.attempts + Deed.requests before + 1 = attempt := by
    show 0 + Deed.requests before + 1 = attempt
    omega
  rw [hmade, htransient] at hagain hended
  refine ⟨by omega, fun hpasses hleft => hagain hpasses (by omega), fun hlast => ⟨_, hended ?_⟩,
    Hearing.passes_eq_false_iff hheard⟩
  exact hlast.imp id fun hequal => by omega

-- A node that answers as laid down, and then no more.
def scripted : List Hearing → Question → Hearing × List Hearing
  | [], _ => (Option.none, [])
  | heard :: rest, _ => (heard, rest)

-- A delivery of one sample to such a node.
def deedsOnNode (heard : List Hearing) : List (Deed Note (List Hearing)) :=
  deedsOn scripted (fun _ => 0)
    (⟨[⟨"http", "", "", some (.domain "node"), Option.none, .segments [""], Option.none,
      Option.none⟩], 0⟩, heard)
    default "m" ⟨[⟨"up", ∅, 5, .zero false, by decide⟩], 0, 0⟩

def lone : List Document := [⟨Keyed.ofList [("__name__", "up")], 5, .zero false⟩]

-- After an internal error of the node three more attempts are allowed, and none is made.
theorem internal_error_not_repeated :
    deedsOnNode [some (.ok ⟨500, ""⟩)] =
      [.asked (request default "m" lone) (.error (.store 500 "")) [some (.ok ⟨500, ""⟩)],
        .noted (.failed 1 1 "Store rejected request (500): ")] ∧
    Hearing.Interrupted (some (.ok ⟨500, ""⟩)) ∧ 1 ≤ (default : Config).maxRetries := by
  refine ⟨by rfl, .inr (by decide), by decide⟩

-- An outage is waited out.
theorem outage_repeated :
    ∃ answer remark rest, deedsOnNode [some (.ok ⟨503, ""⟩), Option.none] =
      .asked (request default "m" lone) (.error (.unavailable "503: ")) [some (.ok ⟨503, ""⟩)] ::
        .noted .retrying :: .paused ((default : Config).backoff.delay 1) ::
          .asked (request default "m" lone) answer remark :: rest := by
  have hfirst : ∃ after, deedsOnNode [some (.ok ⟨503, ""⟩), Option.none] =
      [] ++ .asked (request default "m" lone) (.error (.unavailable "503: "))
        [some (.ok ⟨503, ""⟩)] :: after := ⟨_, rfl⟩
  obtain ⟨after, hfirst⟩ := hfirst
  obtain ⟨_, hagain, _⟩ := interruption_repeated hfirst (.inr (by decide))
  obtain ⟨answer, remark, rest, hafter⟩ := hagain (by decide) (by decide)
  exact ⟨answer, remark, rest, by rw [hfirst, hafter]; rfl⟩

end Write.Delivery

end MetricRelay
