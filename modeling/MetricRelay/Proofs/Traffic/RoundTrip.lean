import MetricRelay.Proofs.Read.Service
import MetricRelay.Proofs.Write.Faultless
import MetricRelay.Remote.Body

-- From a remote write to a remote read. A pipeline writes the samples of the bodies that come in to
-- a store that was empty at first, while the alias moves from index to index. When nothing was lost
-- on the way, a query finds what was written.

namespace MetricRelay

open Store (Link Routine Fate)
open Write (Course)

-- What a start makes of an empty store. It asks for three things, one after the other.
theorem Lifecycle.provision_run (config : Config) {l : Link} (hstore : l.store = .empty)
    (hcalm : l.rehearsals = ∅) :
    ∃ index l', (∀ (ε σ : Type) (add : σ → ε → σ) (s : σ),
        (provision config).run add l s = (.finished (.ok index), l', s)) ∧
      l'.Clear ∧ Traffic.Provided config.aliasName l'.store ∧
      l'.store.reachable config.aliasName = [] := by
  have hl : l.Clear := ⟨hcalm, by rw [hstore]; rfl⟩
  have hfirst := firstIndex_first config
  have hlinks : ∃ l₁ l₂, l₁ = l.served (.putTemplate config.template) ∧
      l₂ = l₁.served (.writeIndex config.aliasName) ∧ l₁.Clear ∧ l₂.Clear ∧
      l₂.store = l₁.store ∧ l₁.store.indices = ∅ ∧ l₁.store.aliases = ∅ := by
    refine ⟨_, _, rfl, rfl, hl.served _, (hl.served _).served _, rfl, ?_, ?_⟩
    · change (l.store.putTemplate config.template).2.indices = ∅
      rw [hstore]
      rfl
    · change (l.store.putTemplate config.template).2.aliases = ∅
      rw [hstore]
      rfl
  obtain ⟨l₁, l₂, hl₁, hl₂, hclear₁, hclear₂, hsame, hindices, haliases⟩ := hlinks
  rw [← hsame] at hindices haliases
  obtain ⟨hcreated, hprovided, hreachable⟩ := Traffic.provided_of_bare hindices haliases
    hclear₂.faults (hfirst l₂.wallTime) l₂.wallTime config.settings
  have hnone : l₁.store.writeIndex? config.aliasName = none := by
    unfold Store.writeIndex?
    rw [← hsame, haliases]
    rfl
  refine ⟨firstIndex config l₂.wallTime, l₂.served (.createIndex (firstIndex config l₂.wallTime)
    (some config.settings) (some config.aliasName)), fun ε σ add s => ?_, hclear₂.served _,
    hprovided, hreachable⟩
  change Routine.run add l s (.call ⟨.putTemplate config.template, some config.requestTimeout⟩ _) = _
  rw [Store.run_call_of_clear hl, ← hl₁]
  change Routine.run add l₁ s (.call ⟨.writeIndex config.aliasName, some config.requestTimeout⟩ _) = _
  rw [Store.run_call_of_clear hclear₁, ← hl₂]
  dsimp only [Store.answer]
  rw [hnone]
  change Routine.run add l₂ s (.call ⟨.createIndex (firstIndex config l₂.wallTime)
    (some config.settings) (some config.aliasName), some config.requestTimeout⟩ _) = _
  rw [Store.run_call_of_clear hclear₂]
  dsimp only [Store.answer]
  rw [hcreated]
  rfl

-- A pipeline, and the looks at its alias that are under way.
structure Relay where
  course : Course
  cycles : List Lifecycle.Cycle

namespace Relay

open Lifecycle (Later Orderly)
open Write.Pipeline (Settled)

inductive Event
  -- the body of a remote write comes in
  | post (body : Bytes)
  | turn (id : Nat)
  | shutDown
  -- time passes, or the clock is set
  | pass (now : Nat) (clock : Clock)
  -- somebody begins to look after the alias
  | look (config : Lifecycle.Config)
  | advance (cycle : Nat) (fate : Fate)

-- The samples that come in.
def Event.samples : Event → List Sample
  | .post body =>
    match Remote.decodeWrite body with
    | .ok samples => samples
    | .error _ => []
  | _ => []

def step (aliasName : String) (r : Relay) : Event → Relay
  | .post body =>
    match Remote.decodeWrite body with
    | .ok samples => { r with course := r.course.step (.write samples) }
    | .error _ => r
  | .turn id => { r with course := r.course.step (.turn id) }
  | .shutDown => { r with course := r.course.step .shutDown }
  | .pass now clock =>
    { r with course := r.course.step (.world { r.course.link with now := now, clock := clock }) }
  | .look config =>
    { r with cycles := r.cycles ++ [Lifecycle.cycle { config with aliasName := aliasName }] }
  | .advance n fate =>
    match r.cycles[n]? with
    | none => r
    | some cycle =>
      let (cycle, store) := cycle.advance r.course.link.store r.course.link.wallTime fate
      { course := r.course.step (.world { r.course.link with store := store })
        cycles := r.cycles.set n cycle }

def after (aliasName : String) (c : Course) (events : List Event) : Relay :=
  events.foldl (step aliasName) ⟨c, []⟩

-- What holds at every moment when so many samples have come in.
structure Sound (aliasName : String) (handedIn : List Sample) (r : Relay) : Prop where
  course : r.course.Sound
  settled : Settled aliasName r.course.link.store (handedIn.map .ofSample) r.course.pipeline
    r.course.link
  cycles : ∀ cycle ∈ r.cycles,
    cycle.Meets (Later aliasName) (Orderly aliasName) (fun _ _ => True) r.course.link.store

section

variable {aliasName : String} {handedIn : List Sample} {r : Relay}

-- The pipeline goes on, and those who look after the alias find what they rely on.
theorem Sound.goesOn {more : List Sample} {c : Course} (h : Sound aliasName handedIn r)
    (hc : c.Sound) (hs : Settled aliasName r.course.link.store
      ((handedIn ++ more).map .ofSample) c.pipeline c.link) :
    Sound aliasName (handedIn ++ more) { r with course := c } :=
  ⟨hc, Course.settled_anew hs, fun cycle hm =>
    Routine.Meets.mono Later.trans (fun _ _ => trivial) (h.cycles cycle hm) hs.ledger.later⟩

theorem Sound.world {l : Link} (h : Sound aliasName handedIn r) (hl : l.Clear)
    (hchanges : Traffic.Changes aliasName r.course.link.store l.store []) :
    Sound aliasName handedIn { r with course := r.course.step (.world l) } := by
  have hs : Settled aliasName r.course.link.store (handedIn.map .ofSample)
      (r.course.step (.world l)).pipeline (r.course.step (.world l)).link :=
    ⟨h.settled.ledger.elsewhere hl hchanges, h.settled.target, h.settled.idle⟩
  rw [← List.append_nil handedIn] at hs ⊢
  exact h.goesOn (Course.step_sound h.course (.world l)) hs

-- A step of somebody who looks after the alias.
theorem Sound.advance {cycle : Lifecycle.Cycle} (h : Sound aliasName handedIn r)
    (hcycle : cycle ∈ r.cycles) (n : Nat) (fate : Fate) :
    let advanced := cycle.advance r.course.link.store r.course.link.wallTime fate
    Sound aliasName handedIn
      { course := r.course.step (.world { r.course.link with store := advanced.2 })
        cycles := r.cycles.set n advanced.1 } := by
  have hmeets := h.cycles cycle hcycle
  have hchanges := Traffic.meets_changes hmeets r.course.link.wallTime fate
  have hadvanced := hmeets.advance (Later.refl aliasName) r.course.link.wallTime fate
  rw [Traffic.meets_receipts hmeets] at hchanges
  have hclear : Link.Clear { r.course.link with
      store := (cycle.advance r.course.link.store r.course.link.wallTime fate).2 } := by
    refine ⟨h.settled.ledger.clear.rehearsals, ?_⟩
    change (cycle.advance r.course.link.store r.course.link.wallTime fate).2.faults = .none
    rcases cycle.advance_store r.course.link.store r.course.link.wallTime fate with
      hs | ⟨request, _, hs⟩
    · rw [hs]
      exact h.settled.ledger.clear.faults
    · rw [hs]
      exact Store.faults_answer h.settled.ledger.clear.faults _ request
  have hworld := h.world hclear hchanges
  refine ⟨hworld.course, hworld.settled, fun other ho => ?_⟩
  rcases List.mem_or_eq_of_mem_set ho with ho | rfl
  · exact hworld.cycles other ho
  · exact hadvanced

theorem step_sound (h : Sound aliasName handedIn r) (e : Event) :
    Sound aliasName (handedIn ++ e.samples) (step aliasName r e) := by
  have hgoes : ∀ e' : Course.Event, Settled aliasName r.course.link.store (handedIn.map .ofSample)
      (r.course.step e').pipeline (r.course.step e').link →
      Sound aliasName (handedIn ++ []) { r with course := r.course.step e' } := by
    intro e' hs
    refine h.goesOn (Course.step_sound h.course e') ?_
    rw [List.append_nil]
    exact hs
  cases e with
  | post body =>
    unfold step Event.samples
    dsimp only
    split
    · rename_i samples _
      refine h.goesOn (Course.step_sound h.course (.write samples)) ?_
      rw [List.map_append]
      exact Course.write_settled h.course h.settled samples
    · rw [List.append_nil]
      exact h
  | turn id => exact hgoes (.turn id) (Course.turn_settled h.course h.settled id)
  | shutDown => exact hgoes .shutDown (Course.shutDown_settled h.course h.settled)
  | pass now clock =>
    have hclear := h.settled.ledger.clear
    change Sound aliasName (handedIn ++ []) _
    rw [List.append_nil]
    exact h.world ⟨hclear.rehearsals, hclear.faults⟩ .rest
  | look config =>
    change Sound aliasName (handedIn ++ []) _
    rw [List.append_nil]
    refine ⟨h.course, h.settled, fun cycle hm => ?_⟩
    rcases List.mem_append.mp hm with hm | hm
    · exact h.cycles cycle hm
    · rw [List.mem_singleton.mp hm]
      exact Lifecycle.cycle_meets { config with aliasName := aliasName } _
  | advance n fate =>
    change Sound aliasName (handedIn ++ []) _
    rw [List.append_nil]
    unfold step
    dsimp only
    split
    · exact h
    · rename_i cycle hcycle
      exact h.advance (List.mem_of_getElem? hcycle) n fate

theorem after_sound {c : Course} (h : Sound aliasName [] ⟨c, []⟩) (events : List Event) :
    Sound aliasName (events.flatMap Event.samples) (after aliasName c events) := by
  induction events using List.reverseRecOn with
  | nil => exact h
  | append_singleton events e ih =>
    unfold after at ih ⊢
    rw [List.foldl_append, List.flatMap_append, List.flatMap_cons, List.flatMap_nil,
      List.append_nil]
    exact step_sound ih e

end

-- Everything that came in was taken, the shutdown has returned, and nothing was lost.
structure Drained (handedIn : List Sample) (r : Relay) : Prop where
  ended : r.course.ending = .returned (.ok .shutDown)
  idle : ∀ e ∈ r.course.pipeline.activities, e.2.role ≠ .client
  complete : r.course.pipeline.record.stats.accepted = handedIn.length
  lossless : r.course.pipeline.record.stats.lost = 0

-- Documents that a test divides are told apart by it.
theorem split_perm {kept left whole : List Document} {test : Document → Bool}
    (h : (kept ++ left).Perm whole) (hkept : ∀ d ∈ kept, test d = true)
    (hleft : ∀ d ∈ left, test d = false) :
    kept.Perm (whole.filter test) ∧ left.Perm (whole.filter fun d => !test d) := by
  have hnone : left.filter test = [] :=
    List.filter_eq_nil_iff.mpr fun d hd => by simp [hleft d hd]
  have hnone' : kept.filter (fun d => !test d) = [] :=
    List.filter_eq_nil_iff.mpr fun d hd => by simp [hkept d hd]
  have hyes := h.filter test
  have hno := h.filter fun d => !test d
  rw [List.filter_append, List.filter_eq_self.mpr hkept, hnone, List.append_nil] at hyes
  rw [List.filter_append, hnone', List.nil_append,
    List.filter_eq_self.mpr fun d hd => by simp [hleft d hd]] at hno
  exact ⟨hyes, hno⟩

-- What is stored then are the samples with finite values. All others were dropped.
theorem Drained.stored {aliasName : String} {handedIn : List Sample} {r : Relay}
    (h : Drained handedIn r) (hr : Sound aliasName handedIn r) :
    (r.course.link.store.reachable aliasName).Perm
        ((handedIn.filter fun s => s.value.isFinite).map .ofSample) ∧
      r.course.pipeline.record.stats.dropped =
        (handedIn.filter fun s => !s.value.isFinite).length := by
  have hover : r.course.ending.isOver = true := by
    rw [h.ended]
    rfl
  have hnobody : r.course.pipeline.activities = [] := by
    refine List.eq_nil_iff_forall_not_mem.mpr fun e he => ?_
    exact h.idle e he (Course.clients_of_over (Course.over_of_isOver hr.course hover) e he)
  have hwaiting : r.course.pipeline.waiting = 0 := by
    unfold Write.Pipeline.waiting
    rw [hnobody]
    rfl
  have hbalance := Course.balance_of_isOver hr.course hover
  obtain ⟨dropped, hinfinite, hdropped, hsub⟩ := hr.settled.ledger.whole
  have hwritten := hr.settled.ledger.written
  have hfailed := hr.settled.ledger.failed
  have hfinite := hr.settled.ledger.finite
  have hcomplete := h.complete
  have hlossless := h.lossless
  unfold Write.Stats.settled at hbalance
  generalize r.course.link.store.reachable aliasName = stored at *
  -- there is room for nothing else
  have hall : (stored ++ dropped).Perm (handedIn.map .ofSample) := by
    rw [List.append_assoc] at hsub
    refine ((List.sublist_append_right _ _).subperm.trans hsub).perm_of_length_le ?_
    rw [List.length_map, List.length_append]
    omega
  obtain ⟨hkept, hleft⟩ := split_perm hall hfinite hinfinite
  rw [List.filter_map] at hkept hleft
  refine ⟨hkept, ?_⟩
  rw [hdropped, hleft.length_eq, List.length_map]
  rfl

-- A query returns what was written and belongs to it, in one series for each label set, as long
-- as that is not more than a query may return.
theorem read_returns_written (service : Lifecycle.Config) (writer : Write.Config)
    (hv : writer.validate = .ok ()) (reader : Read.Config)
    (halias : reader.aliasName = service.aliasName) (l : Link) (hstore : l.store = .empty)
    (hcalm : l.rehearsals = ∅) (first : Nat) :
    ∃ index l' c, (∀ (ε σ : Type) (add : σ → ε → σ) (s : σ),
        (Lifecycle.provision service).run add l s = (.finished (.ok index), l', s)) ∧
      Course.begin writer service.aliasName l' first = .ok c ∧
      ∀ events,
        let r := after service.aliasName c events
        let handedIn := events.flatMap Event.samples
        Drained handedIn r →
          r.course.pipeline.record.stats.dropped =
            (handedIn.filter fun s => !s.value.isFinite).length ∧
          ∀ q : Read.Query, q.start ≤ q.stop → (∀ m ∈ q.matchers, m.Valid) →
            (handedIn.filter q.selects).length ≤ reader.maxDocs →
            ∃ series l'', (∀ (ε σ : Type) (add : σ → ε → σ) (s : σ),
                (Read.read reader q).run add r.course.link s =
                  (.finished (.ok series), l'', s)) ∧
              Series.Partition (handedIn.filter q.selects) series := by
  obtain ⟨index, l', hrun, hclear, hprovided, hnone⟩ := Lifecycle.provision_run service hstore hcalm
  obtain ⟨c, hbegin, hc, hsettled⟩ := Course.begin_settled hv hclear hprovided hnone first
  have hsound : Sound service.aliasName [] ⟨c, []⟩ :=
    ⟨hc, Course.settled_anew hsettled, fun cycle hm => absurd hm List.not_mem_nil⟩
  refine ⟨index, l', c, hrun, hbegin, fun events => ?_⟩
  have hafter := after_sound hsound events
  dsimp only
  generalize after service.aliasName c events = r at hafter ⊢
  generalize events.flatMap Event.samples = handedIn at hafter ⊢
  intro hdrained
  obtain ⟨hstored, hdropped⟩ := hdrained.stored hafter
  refine ⟨hdropped, fun q hrange hvalid hfew => ?_⟩
  have hselects : (handedIn.filter fun s => s.value.isFinite).filter q.selects =
      handedIn.filter q.selects := by
    rw [List.filter_filter]
    refine List.filter_congr fun s _ => ?_
    unfold Read.Query.selects
    cases s.value.isFinite <;> simp
  rw [← hselects] at hfew ⊢
  rw [← halias] at hstored
  exact Read.read_of_stored hafter.settled.ledger.clear hrange hvalid hstored
    (fun s hs => (List.mem_filter.mp hs).2) hfew

private def unprovided : Link := ⟨.empty, .manual 0, 0, ∅, [], 0, 0⟩

-- One series with two values, of which one is no number.
private def upAndNot : Bytes :=
  Snappy.encode (Remote.writeRequestBytes [⟨[("__name__", "up"), ("job", "api")],
    [⟨1000, ⟨0x3ff0000000000000⟩⟩, ⟨2000, ⟨0x7ff8000000000000⟩⟩]⟩])

private def toTheEnd : List Event :=
  [.look default, .post upAndNot, .advance 0 .served, .shutDown, .turn 1, .turn 3, .turn 0, .turn 3]

private def provided : Link :=
  ((Lifecycle.provision default : Routine Empty _).run (fun s _ => s) unprovided ()).2.1

private def fromApi : Read.Query := ⟨0, 10000, [⟨"job", .equal, "api"⟩]⟩

private theorem toTheEnd_drained : ∃ c, Course.begin default "prom-metrics" provided 0 = .ok c ∧
    Drained (toTheEnd.flatMap Event.samples) (after "prom-metrics" c toTheEnd) := by
  refine ⟨_, rfl, ?_⟩
  generalize hc : Course.mk _ _ _ _ = c
  generalize hr : after "prom-metrics" c (toTheEnd.take 6) = r
  have hafter : after "prom-metrics" c toTheEnd =
      step "prom-metrics" (step "prom-metrics" r (.turn 0)) (.turn 3) := by
    rw [← hr]
    rfl
  generalize hbatch : r.course.pipeline.intake.batches.getD 0 (.empty 0) = batch
  generalize hrun : r.course.pipeline.deliverBatch r.course.link batch = run
  obtain ⟨hnew, hdismissed, hnobody, hline, hwaiting, hbatches, hsenders, hfinished⟩ :
      r.course.pipeline.isNew 0 = true ∧ r.course.pipeline.dismissed = false ∧
      r.course.pipeline.receiver = none ∧ r.course.pipeline.line = [] ∧
      r.course.pipeline.intake.line = [] ∧ r.course.pipeline.intake.batches = [batch] ∧
      r.course.pipeline.senders = 0 ∧
      (match run.1 with
        | .finished _ => true
        | .suspended _ => false) = true := by
    subst hrun hbatch hr hc
    decide +kernel
  have hreached : ∃ d, run.1 = .finished d := by
    cases h : run.1 with
    | finished d => exact ⟨d, rfl⟩
    | suspended _ => simp [h] at hfinished
  obtain ⟨d, hd⟩ := hreached
  -- the worker's recursion is opened by hand, everything else is evaluated
  have hturn : step "prom-metrics" r (.turn 0) = { r with course := { r.course with
      pipeline := ({ r.course.pipeline with
        intake := { r.course.pipeline.intake with
          batches := [], free := r.course.pipeline.intake.free + 1 }
        record := run.2.2.1 } : Write.Pipeline).finish 0
      link := run.2.1
      ending := r.course.ending.after 0 (some (.ok .workerStopped)) } } := by
    unfold step Course.step
    dsimp only
    rw [Write.Pipeline.turn_of_last hnew hdismissed hnobody hline hwaiting hbatches hsenders
      (hrun.trans (Prod.ext hd rfl))]
  rw [hafter, hturn]
  clear hafter hturn hd
  subst hrun hbatch hr hc
  exact ⟨by decide +kernel, by decide +kernel, by decide +kernel, by decide +kernel⟩

theorem up_read_back :
    ∃ index l' c, (∀ (ε σ : Type) (add : σ → ε → σ) (s : σ),
        (Lifecycle.provision default).run add unprovided s = (.finished (.ok index), l', s)) ∧
      Course.begin default "prom-metrics" l' 0 = .ok c ∧
      let r := after "prom-metrics" c toTheEnd
      let handedIn := toTheEnd.flatMap Event.samples
      Drained handedIn r ∧ r.course.pipeline.record.stats.dropped = 1 ∧
      (handedIn.filter fromApi.selects).length = 1 ∧
      ∃ series l'', (∀ (ε σ : Type) (add : σ → ε → σ) (s : σ),
          (Read.read default fromApi).run add r.course.link s =
            (.finished (.ok series), l'', s)) ∧
        Series.Partition (handedIn.filter fromApi.selects) series := by
  obtain ⟨index, l', c, hrun, hbegin, hreads⟩ :=
    read_returns_written default default rfl default rfl unprovided rfl rfl 0
  have hlink : l' = provided := by
    unfold provided
    rw [hrun Empty Unit (fun s _ => s) ()]
  subst hlink
  obtain ⟨c', hbegin', hdrained⟩ := toTheEnd_drained
  have hsame : c' = c := Except.ok.inj (hbegin'.symm.trans hbegin)
  subst hsame
  obtain ⟨hdropped, hquery⟩ := hreads toTheEnd hdrained
  have hone : ((toTheEnd.flatMap Event.samples).filter fromApi.selects).length = 1 := by
    decide +kernel
  have hnot : ((toTheEnd.flatMap Event.samples).filter fun s => !s.value.isFinite).length = 1 := by
    decide +kernel
  have hvalid : ∀ m ∈ fromApi.matchers, m.Valid := by
    intro m hm
    rw [List.mem_singleton.mp hm]
    exact ⟨by decide, by decide⟩
  have hread := hquery fromApi (by decide) hvalid (by rw [hone]; decide)
  have hname : (default : Lifecycle.Config).aliasName = "prom-metrics" := rfl
  rw [hname] at hdropped hread
  refine ⟨index, provided, c', hrun, hbegin, ?_⟩
  generalize after "prom-metrics" c' toTheEnd = r at hdrained hdropped hread ⊢
  generalize toTheEnd.flatMap Event.samples = handedIn at *
  exact ⟨hdrained, hdropped.trans hnot, hone, hread⟩

end Relay

end MetricRelay
