import MetricRelay.Proofs.Keyed
import MetricRelay.Store.Link

-- Routines step by step, so that others may come in between any two requests. A request is served
-- at one moment, however late, or it is lost and the store never hears of it.

namespace MetricRelay.Store

-- What becomes of a request; its sender takes a lost one to have failed.
inductive Fate
  | served
  | lost (e : Error)

namespace Routine

variable {ε α β : Type}

def advance (s : Store) (now : Int64) (fate : Fate) : Routine ε α → Routine ε α × Store
  | .done a => (.done a, s)
  | .note _ rest => (rest, s)
  | .clock next => (next now, s)
  | .call c next =>
    match fate with
    | .served => (next (s.answer now c.request).1, (s.answer now c.request).2)
    | .lost e => (next (.error e), s)
  | .pause _ next => (next, s)

-- Every request satisfies `good` at the moment it is served and the result satisfies `P`,
-- though others may bring the store from `s` to any `t` with `later s t` before each request.
def Meets (later : Store → Store → Prop) (good : Store → Request → Prop)
    (P : Store → α → Prop) : Routine ε α → Store → Prop
  | .done a, s => P s a
  | .note _ rest, s => rest.Meets later good P s
  | .clock next, s => ∀ now, (next now).Meets later good P s
  | .call c next, s => ∀ t, later s t → good t c.request ∧
      (∀ e, (next (.error e)).Meets later good P t) ∧
      ∀ now, (next (t.answer now c.request).1).Meets later good P (t.answer now c.request).2
  | .pause _ next, s => next.Meets later good P s

variable {later : Store → Store → Prop} {good : Store → Request → Prop}
  {P : Store → α → Prop} {Q : Store → β → Prop}

theorem Meets.mono {r : Routine ε α} {s t : Store}
    (htrans : ∀ {a b c}, later a b → later b c → later a c)
    (hP : ∀ {a b x}, later a b → P a x → P b x)
    (h : r.Meets later good P s) (hl : later s t) : r.Meets later good P t := by
  induction r with
  | done a => exact hP hl h
  | note _ rest ih => exact ih h
  | clock next ih => exact fun now => ih now (h now)
  | call c next _ => exact fun u hu => h u (htrans hl hu)
  | pause _ next ih => exact ih h

theorem Meets.andThen {r : Routine ε α} {f : α → Routine ε β} {s : Store}
    (h : r.Meets later good P s)
    (hf : ∀ t a, P t a → (f a).Meets later good Q t) :
    (r.andThen f).Meets later good Q s := by
  induction r generalizing s with
  | done a => exact hf s a h
  | note _ rest ih => exact ih h
  | clock next ih => exact fun now => ih now (h now)
  | call c next ih =>
    intro t ht
    obtain ⟨hgood, herror, hanswer⟩ := h t ht
    exact ⟨hgood, fun e => ih _ (herror e), fun now => ih _ (hanswer now)⟩
  | pause _ next ih => exact ih h

theorem Meets.bind {r : Routine ε α} {f : α → Routine ε β} {s : Store}
    (h : r.Meets later good P s)
    (hf : ∀ t a, P t a → (f a).Meets later good Q t) :
    (r >>= f).Meets later good Q s :=
  h.andThen hf

-- The request a step serves, if any, was a good one, and what is left goes on as promised.
theorem Meets.advance {r : Routine ε α} {s : Store} (hrefl : ∀ a, later a a)
    (h : r.Meets later good P s) (now : Int64) (fate : Fate) :
    (r.advance s now fate).1.Meets later good P (r.advance s now fate).2 := by
  cases r with
  | done a => exact h
  | note _ rest => exact h
  | clock next => exact h now
  | call c next =>
    obtain ⟨_, herror, hanswer⟩ := h s (hrefl s)
    cases fate with
    | served => exact hanswer now
    | lost e => exact herror e
  | pause _ next => exact h

-- A step leaves the store as it is or has it answer one good request.
theorem Meets.advance_store {r : Routine ε α} {s : Store} (hrefl : ∀ a, later a a)
    (h : r.Meets later good P s) (now : Int64) (fate : Fate) :
    (r.advance s now fate).2 = s ∨
      ∃ request, good s request ∧ (r.advance s now fate).2 = (s.answer now request).2 := by
  cases r with
  | done a => exact .inl rfl
  | note _ rest => exact .inl rfl
  | clock next => exact .inl rfl
  | call c next =>
    cases fate with
    | served => exact .inr ⟨c.request, (h s (hrefl s)).1, rfl⟩
    | lost e => exact .inl rfl
  | pause _ next => exact .inl rfl

-- The request a routine makes next, if that is what it does.
def request? : Routine ε α → Option Request
  | .call c _ => some c.request
  | _ => none

theorem advance_store (r : Routine ε α) (s : Store) (now : Int64) (fate : Fate) :
    (r.advance s now fate).2 = s ∨
      ∃ q, r.request? = some q ∧ (r.advance s now fate).2 = (s.answer now q).2 := by
  cases r with
  | call c next =>
    cases fate with
    | served => exact .inr ⟨c.request, rfl, rfl⟩
    | lost e => exact .inl rfl
  | _ => exact .inl rfl

theorem Meets.request {r : Routine ε α} {s : Store} {q : Request} (hrefl : ∀ a, later a a)
    (h : r.Meets later good P s) (hq : r.request? = some q) : good s q := by
  cases r with
  | call c next =>
    cases hq
    exact (h s (hrefl s)).1
  | _ => cases hq

-- Every request satisfies `good`, whatever the answers to those before it.
def Asks (good : Request → Prop) : Routine ε α → Prop
  | .done _ => True
  | .note _ rest => rest.Asks good
  | .clock next => ∀ now, (next now).Asks good
  | .call c next => good c.request ∧ ∀ answer, (next answer).Asks good
  | .pause _ next => next.Asks good

section

variable {good : Request → Prop}

theorem Asks.bind {r : Routine ε α} {f : α → Routine ε β} (h : r.Asks good)
    (hf : ∀ a, (f a).Asks good) : (r >>= f).Asks good := by
  change (r.andThen f).Asks good
  induction r with
  | done a => exact hf a
  | note _ rest ih => exact ih h
  | clock next ih => exact fun now => ih now (h now)
  | call c next ih => exact And.intro h.1 fun answer => ih answer (h.2 answer)
  | pause _ next ih => exact ih h

theorem asks_askWithin {limit : Duration} {q : Request} (h : good q) :
    (askWithin limit q : Routine ε _).Asks good :=
  And.intro h fun _ => trivial

theorem Asks.advance {r : Routine ε α} (h : r.Asks good) (s : Store) (now : Int64)
    (fate : Fate) : (r.advance s now fate).1.Asks good := by
  cases r with
  | done a => exact h
  | note _ rest => exact h
  | clock next => exact h now
  | call c next =>
    cases fate with
    | served => exact h.2 _
    | lost e => exact h.2 _
  | pause _ next => exact h

theorem Asks.request {r : Routine ε α} {q : Request} (h : r.Asks good)
    (hq : r.request? = some q) : good q := by
  cases r with
  | call c next =>
    cases hq
    exact h.1
  | _ => cases hq

end

end Routine

-- What a suspended routine has still to do; its request, if any, counts as not yet made.
def Suspended.rest {ε α : Type} : Suspended ε α → Routine ε α
  | .onCall c _ next => .call c next
  | .onTimer _ next => next

def Reached.rest {ε α : Type} : Reached ε α → Routine ε α
  | .finished a => .done a
  | .suspended w => w.rest

-- Routines on a link go step by step.

inductive Steps {ε α : Type} : Routine ε α → Store → Routine ε α → Store → Prop
  | refl (r : Routine ε α) (s : Store) : Steps r s r s
  | step {r r' : Routine ε α} {s s' : Store} (now : Int64) (fate : Fate)
      (h : Steps (r.advance s now fate).1 (r.advance s now fate).2 r' s') : Steps r s r' s'

-- A reply that was laid down is a failure.
def Reply.IsFailure : Option Reply → Prop
  | some (.outcomes _) => False
  | _ => True

def Leg.Genuine : Leg → Prop
  | .travelling reply => Reply.IsFailure reply
  | .lingering => True

def Suspended.Genuine {ε α : Type} : Suspended ε α → Prop
  | .onCall _ p _ => p.leg.Genuine
  | .onTimer _ _ => True

namespace Link

-- No outcomes are made up for bulk requests.
def Genuine (l : Link) : Prop :=
  ∀ name more, l.rehearsals.find? name = some more → ∀ r ∈ more, Reply.IsFailure r.reply

-- What became of a request: the store answered it at one moment, or it failed on its way.
def Settled {r : Request} (s : Store) (a : Except Error r.Answer) (t : Store) : Prop :=
  (∃ now, a = (s.answer now r).1 ∧ t = (s.answer now r).2) ∨ ∃ e, a = .error e ∧ t = s

-- How far a request has come from the link `l`.
def Progressed {r : Request} (l : Link) (progress : Progress r × Link) : Prop :=
  progress.2.Genuine ∧
    match progress.1 with
    | .answered a => Settled l.store a progress.2.store
    | .pending leg _ => leg.Genuine ∧ progress.2.store = l.store

def Turned {c : Call} (l : Link) (turn : Turn c × Link) : Prop :=
  turn.2.Genuine ∧
    match turn.1 with
    | .answered a => Settled l.store a turn.2.store
    | .waiting p => p.leg.Genuine ∧ turn.2.store = l.store

section

variable {l l' : Link}

theorem atStore_progressed (hl : l.Genuine) (r : Request) : Progressed l (l.atStore r) :=
  ⟨hl, .inl ⟨l.wallTime, rfl, rfl⟩⟩

theorem arrive_progressed (hl : l.Genuine) (r : Request) {reply : Option Reply}
    (hr : Reply.IsFailure reply) : Progressed l (l.arrive r reply) := by
  unfold arrive
  split
  · rename_i reply
    cases reply with
    | fail e =>
      have hfail : l.replyTo r (.fail e) = (.answered (.error e), l) := by
        cases r <;> rfl
      rw [hfail]
      exact ⟨hl, .inr ⟨e, rfl, rfl⟩⟩
    | outcomes outcomes => cases hr
  · split
    · exact atStore_progressed hl _
    · exact ⟨hl, trivial, rfl⟩
  · exact atStore_progressed hl _

theorem takeRehearsal_genuine (hl : l.Genuine) (name : String) :
    (l.takeRehearsal name).2.Genuine ∧ (l.takeRehearsal name).2.store = l.store ∧
      ∀ r, (l.takeRehearsal name).1 = some r → Reply.IsFailure r.reply := by
  unfold takeRehearsal
  split
  · rename_i first rest hfind
    have hfirst := hl name _ hfind
    refine ⟨fun other more hm r hr => ?_, rfl, fun r hr => ?_⟩
    · rw [Keyed.find?_insert] at hm
      split at hm
      · cases hm
        exact hfirst r (List.mem_cons_of_mem _ hr)
      · exact hl other more hm r hr
    · cases hr
      exact hfirst first List.mem_cons_self
  · exact ⟨hl, rfl, fun _ h => by cases h⟩

theorem Progressed.congr {r : Request} {progress : Progress r × Link}
    (h : Progressed l' progress) (hs : l'.store = l.store) : Progressed l progress := by
  unfold Progressed at h ⊢
  rw [← hs]
  exact h

theorem depart_progressed (hl : l.Genuine) (r : Request) : Progressed l (l.depart r) := by
  unfold depart
  dsimp only
  generalize hlogged : ({ l with log := _ } : Link) = logged
  have hgenuine : logged.Genuine := hlogged ▸ hl
  have hstore : logged.store = l.store := hlogged ▸ rfl
  obtain ⟨htaken, hsame, hreply⟩ := takeRehearsal_genuine hgenuine r.name
  split
  · rename_i next hnext
    rw [hnext] at htaken hsame
    have hnone : Reply.IsFailure none := trivial
    exact (arrive_progressed htaken r hnone).congr (hsame.trans hstore)
  · rename_i rehearsal next hnext
    rw [hnext] at htaken hsame hreply
    have hfailure := hreply rehearsal rfl
    split
    · exact (arrive_progressed htaken r hfailure).congr (hsame.trans hstore)
    · exact ⟨htaken, hfailure, hsame.trans hstore⟩

theorem within_turned {c : Call} {deadline : Option Timer}
    {progress : Progress c.request × Link} (h : Progressed l progress) :
    Turned l (progress.2.within c deadline progress.1, progress.2) := by
  obtain ⟨state, l'⟩ := progress
  obtain ⟨hgenuine, hstate⟩ := h
  refine ⟨hgenuine, ?_⟩
  cases state with
  | answered a => exact hstate
  | pending leg arrival =>
    unfold within
    dsimp only
    by_cases hover : deadline.any (·.due ≤ l'.now) = true
    · rw [if_pos hover]
      exact .inr ⟨_, rfl, hstate.2⟩
    · rw [if_neg hover]
      exact hstate

theorem start_turned (hl : l.Genuine) (c : Call) : Turned l (l.start c) := by
  have hdepart := depart_progressed hl c.request
  unfold start
  split
  · rename_i a l' _ hanswered
    rw [hanswered] at hdepart
    exact hdepart
  · rename_i leg arrival l' hpending _
    rw [hpending] at hdepart
    exact within_turned hdepart
  · rename_i leg arrival l' limit hpending _
    rw [hpending] at hdepart
    have hlater : Progressed l (r := c.request)
        (.pending leg arrival, (l'.setTimer (l'.now + limit.wholeMillis)).2) := hdepart
    exact within_turned hlater

theorem resume_turned (hl : l.Genuine) (c : Call) {p : Pending} (hp : p.leg.Genuine) :
    Turned l (l.resume c p) := by
  unfold resume
  split
  · cases hleg : p.leg with
    | travelling reply =>
      rw [hleg] at hp
      exact within_turned (arrive_progressed hl c.request hp)
    | lingering => exact within_turned (atStore_progressed hl c.request)
  · have hstays : Progressed l (r := c.request) (.pending p.leg p.arrival, l) := ⟨hl, hp, rfl⟩
    exact within_turned hstays

end

end Link

section

variable {ε α σ : Type} {l : Link}

-- Where a run from `l` leaves a routine: some steps further, and able to go on.
structure Further (r : Routine ε α) (l : Link) (run : Reached ε α × Link × σ) : Prop where
  steps : Steps r l.store run.1.rest run.2.1.store
  genuine : run.2.1.Genuine
  suspended : ∀ w, run.1 = .suspended w → w.Genuine

-- A turn of a request, and what comes after it.
theorem Further.turned {c : Call} {next : Except Error c.request.Answer → Routine ε α}
    {turn : Link.Turn c × Link} (h : Link.Turned l turn) {run : Reached ε α × Link × σ}
    (hanswered : ∀ a, turn.1 = .answered a → Further (next a) turn.2 run)
    (hwaiting : ∀ p, turn.1 = .waiting p →
      run.1 = .suspended (.onCall c p next) ∧ run.2.1 = turn.2) :
    Further (.call c next) l run := by
  obtain ⟨state, l'⟩ := turn
  obtain ⟨hgenuine, hstate⟩ := h
  cases state with
  | answered a =>
    obtain ⟨hsteps, hrun, hsuspended⟩ := hanswered a rfl
    refine ⟨?_, hrun, hsuspended⟩
    rcases hstate with ⟨now, rfl, hstore⟩ | ⟨e, rfl, hstore⟩
    · dsimp only at hstore hsteps
      rw [hstore] at hsteps
      exact .step now .served hsteps
    · dsimp only at hstore hsteps
      rw [hstore] at hsteps
      exact .step 0 (.lost e) hsteps
  | waiting p =>
    obtain ⟨hrun, hlink⟩ := hwaiting p rfl
    obtain ⟨hp, hstore⟩ := hstate
    refine ⟨?_, hlink ▸ hgenuine, fun w hw => ?_⟩
    · rw [hrun, hlink]
      dsimp only at hstore ⊢
      rw [hstore]
      exact .refl _ _
    · rw [hrun] at hw
      cases hw
      exact hp

theorem run_further (add : σ → ε → σ) (r : Routine ε α) (hl : l.Genuine) (state : σ) :
    Further r l (r.run add l state) := by
  induction r generalizing l state with
  | done a => exact ⟨.refl _ _, hl, fun _ h => by cases h⟩
  | note e rest ih =>
    obtain ⟨hsteps, hgenuine, hsuspended⟩ := ih hl (add state e)
    exact ⟨.step 0 .served hsteps, hgenuine, hsuspended⟩
  | clock next ih =>
    obtain ⟨hsteps, hgenuine, hsuspended⟩ := ih l.wallTime hl state
    exact ⟨.step l.wallTime .served hsteps, hgenuine, hsuspended⟩
  | pause span next ih =>
    unfold Routine.run
    dsimp only
    split
    · obtain ⟨hsteps, hgenuine, hsuspended⟩ := ih hl state
      exact ⟨.step 0 .served hsteps, hgenuine, hsuspended⟩
    · refine ⟨.step 0 .served (.refl _ _), hl, fun w hw => ?_⟩
      cases hw
      trivial
  | call c next ih =>
    have hturned := Link.start_turned hl c
    refine Further.turned hturned (fun a ha => ?_) fun p hp => ?_
    · have hgenuine := hturned.1
      unfold Routine.run
      generalize l.start c = turn at ha hgenuine ⊢
      obtain ⟨_, l'⟩ := turn
      cases ha
      exact ih a hgenuine state
    · unfold Routine.run
      generalize l.start c = turn at hp ⊢
      obtain ⟨_, l'⟩ := turn
      cases hp
      exact ⟨rfl, rfl⟩

-- However late, the answer comes to a routine that waits as in one of its steps.
theorem resume_further (add : σ → ε → σ) {w : Suspended ε α} (hl : l.Genuine)
    (hw : w.Genuine) (state : σ) : Further w.rest l (w.resume add l state) := by
  cases w with
  | onTimer timer next =>
    unfold Suspended.resume
    dsimp only
    split
    · exact run_further add next hl state
    · refine ⟨.refl _ _, hl, fun w hw => ?_⟩
      cases hw
      trivial
  | onCall c p next =>
    have hturned := Link.resume_turned hl c hw
    refine Further.turned hturned (fun a ha => ?_) fun p hp => ?_
    · have hgenuine := hturned.1
      unfold Suspended.resume
      dsimp only
      generalize l.resume c p = turn at ha hgenuine ⊢
      obtain ⟨_, l'⟩ := turn
      cases ha
      exact run_further add (next a) hgenuine state
    · unfold Suspended.resume
      dsimp only
      generalize l.resume c _ = turn at hp ⊢
      obtain ⟨_, l'⟩ := turn
      cases hp
      exact ⟨rfl, rfl⟩

end

end MetricRelay.Store
