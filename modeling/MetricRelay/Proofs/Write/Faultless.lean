import MetricRelay.Proofs.Store.Clear
import MetricRelay.Proofs.Traffic.Documents
import MetricRelay.Proofs.Write.Cargo
import MetricRelay.Proofs.Write.Reporting

-- Writing to a store without faults. A delivery is over as soon as it has begun: documents with
-- finite values are stored, all others are dropped.

namespace MetricRelay

open Traffic (Provided)

namespace Store

-- What a store without faults takes of some documents, and what it does not.

def storable (docs : List Document) : List Document := docs.filter fun d => d.value.isFinite

def unstorable (docs : List Document) : List Document := docs.filter fun d => !d.value.isFinite

def verdicts (docs : List Document) : List Outcome := docs.map fun d => (judge .none d).1

theorem count_storable_add (docs : List Document) (d : Document) :
    (storable docs).count d + (unstorable docs).count d = docs.count d := by
  have hperm := List.filter_append_perm (fun d : Document => d.value.isFinite) docs
  rw [← hperm.count_eq d, List.count_append]
  rfl

theorem accepted_verdicts (docs : List Document) :
    accepted docs (verdicts docs) = storable docs := by
  unfold verdicts storable
  induction docs with
  | nil => rfl
  | cons d rest ih =>
    rw [List.map_cons, accepted_cons, ih, judge_none, List.filter_cons]
    cases d.value.isFinite <;> simp

theorem retryable_verdicts (docs : List Document) :
    Write.Delivery.retryable docs (verdicts docs) = [] := by
  unfold verdicts
  induction docs with
  | nil => rfl
  | cons d rest ih =>
    rw [List.map_cons, Write.Delivery.retryable_cons, ih, judge_none]
    cases d.value.isFinite <;> rfl

theorem length_refusals_verdicts (docs : List Document) :
    (Write.Delivery.refusals (verdicts docs)).length = (unstorable docs).length := by
  have hlen : (verdicts docs).length = docs.length := List.length_map _
  have houtcomes := Write.Delivery.length_outcomes docs (verdicts docs) hlen
  have hsplit := (List.filter_append_perm (fun d : Document => d.value.isFinite) docs).length_eq
  rw [← Write.Delivery.length_accepted docs _ hlen, accepted_verdicts, retryable_verdicts,
    ← hsplit, List.length_append, List.length_nil] at houtcomes
  exact Nat.add_left_cancel houtcomes

section

variable {aliasName : String} {s : Store}

theorem bulk_of_provided (hs : Provided aliasName s) (hf : s.faults = .none)
    (docs : List Document) : (s.bulk aliasName docs).1 = .ok (verdicts docs) := by
  obtain ⟨index, hw⟩ := hs.writer
  obtain ⟨members, hm, hsole⟩ := (writeIndex?_eq_some_iff hs.aliases aliasName index).mp hw
  obtain ⟨data, hdata⟩ := (Keyed.contains_iff _ _).mp
    ((hs.aliases aliasName members hm).exist index hsole.contains)
  have htarget : s.writeTarget aliasName = .ok index := by
    unfold writeTarget
    rw [hs.noIndex, if_neg Bool.false_ne_true, if_pos (Keyed.contains_of_find? hm), hw]
  have htarget' : Store.writeTarget { s with bulkRequests := s.bulkRequests + 1 } aliasName =
      .ok index := htarget
  have hcalm : ¬0 < s.faults.bulk := by
    rw [hf]
    exact Nat.lt_irrefl 0
  unfold bulk
  dsimp only
  rw [if_neg hcalm, htarget']
  dsimp only
  rw [hdata, hf, judgeAll_none]
  rfl

theorem taken_of_provided (hs : Provided aliasName s) (hf : s.faults = .none)
    (docs : List Document) : s.taken aliasName docs = storable docs := by
  unfold taken
  rw [bulk_of_provided hs hf]
  exact accepted_verdicts docs

end

end Store

namespace Write

open Store (Link Routine storable unstorable)

namespace Delivery

theorem stats_takeDown_settled (target : String) (record : Record) (owed written dropped left : Nat)
    (reason : Option String) :
    (takeDown target (record, owed) (.settled written dropped reason left)).1.stats =
      { record.stats with written := record.stats.written + written,
                          dropped := record.stats.dropped + dropped } := by
  simp only [takeDown]
  split
  · rename_i hnone
    rw [hnone]
    rfl
  · rfl

theorem attemptOnce_run (config : Config) {target : String}
    (again : List Document → Delivery → String → Routine Note Delivery) (docs : List Document)
    (soFar : Delivery) {l : Link} (hl : l.Clear) (hs : Provided target l.store) (record : Record)
    (owed : Nat) : ∃ d reason,
    (attemptOnce config target again docs soFar).run (takeDown target) l (record, owed) =
      (.finished d, l.served (.bulk target docs), takeDown target (record, owed)
        (.settled (storable docs).length (unstorable docs).length reason 0)) := by
  have hlen : (Store.verdicts docs).length = docs.length := List.length_map _
  have hwritten : countAccepted (Store.verdicts docs) = (storable docs).length := by
    rw [← length_accepted docs _ hlen, Store.accepted_verdicts]
  have hdropped := Store.length_refusals_verdicts docs
  have hanswer : (l.store.answer l.wallTime (.bulk target docs)).1 =
      .ok (Store.verdicts docs) := Store.bulk_of_provided hs hl.faults docs
  unfold attemptOnce
  dsimp only
  rw [Store.run_call_of_clear hl]
  dsimp only
  rw [hanswer, checkLength_ok, if_pos hlen]
  dsimp only
  rw [Store.retryable_verdicts, hwritten, hdropped]
  exact ⟨_, _, rfl⟩

theorem routine_run (config : Config) {target : String} (batch : Batch) {l : Link} (hl : l.Clear)
    (hs : Provided target l.store) (record : Record) (owed : Nat) : ∃ d reason,
    (routine config target batch).run (takeDown target) l (record, owed) =
      (.finished d, l.served (.bulk target batch.documents), takeDown target (record, owed)
        (.settled (storable batch.documents).length (unstorable batch.documents).length
          reason 0)) := by
  unfold routine
  cases config.maxRetries with
  | zero => exact attemptOnce_run config _ batch.documents none hl hs record owed
  | succ left => exact attemptOnce_run config _ batch.documents none hl hs record owed

end Delivery

-- What was handed in is on its way, stored or dropped, or lost. `inside` is on its way, and
-- `before` is what the store was some time ago.
structure Ledger (aliasName : String) (before : Store) (handedIn : List Document) (l : Link)
    (r : Record) (inside : List Document) : Prop where
  clear : l.Clear
  later : Lifecycle.Later aliasName before l.store
  provided : Provided aliasName l.store
  finite : ∀ d ∈ l.store.reachable aliasName, d.value.isFinite = true
  written : r.stats.written = (l.store.reachable aliasName).length
  failed : r.stats.failed = 0
  whole : ∃ dropped, (∀ d ∈ dropped, d.value.isFinite = false) ∧
    r.stats.dropped = dropped.length ∧
    (inside ++ l.store.reachable aliasName ++ dropped).Subperm handedIn

section

variable {aliasName : String} {before : Store} {handedIn inside : List Document} {l : Link}
  {r : Record}

-- On its way some of it may be lost.
theorem Ledger.within {left : List Document} {r' : Record}
    (h : Ledger aliasName before handedIn l r inside) (hleft : left.Subperm inside)
    (hwritten : r'.stats.written = r.stats.written)
    (hdropped : r'.stats.dropped = r.stats.dropped) (hfailed : r'.stats.failed = r.stats.failed) :
    Ledger aliasName before handedIn l r' left := by
  obtain ⟨dropped, hinfinite, hlength, hsub⟩ := h.whole
  refine ⟨h.clear, h.later, h.provided, h.finite, hwritten.trans h.written, hfailed.trans h.failed,
    dropped, hinfinite, hdropped.trans hlength, ?_⟩
  rw [List.append_assoc] at hsub ⊢
  exact ((List.subperm_append_right _).mpr hleft).trans hsub

theorem Ledger.handIn (h : Ledger aliasName before handedIn l r inside) (more : List Document) :
    Ledger aliasName before (handedIn ++ more) l r (inside ++ more) := by
  obtain ⟨dropped, hinfinite, hlength, hsub⟩ := h.whole
  refine ⟨h.clear, h.later, h.provided, h.finite, h.written, h.failed, dropped, hinfinite, hlength,
    subperm_of_count fun d => ?_⟩
  have hcount := hsub.count_le d
  simp only [List.count_append] at hcount ⊢
  omega

-- Somebody else changes the store and moves no document.
theorem Ledger.elsewhere {l' : Link} (h : Ledger aliasName before handedIn l r inside)
    (hclear : l'.Clear) (hchanges : Traffic.Changes aliasName l.store l'.store []) :
    Ledger aliasName before handedIn l' r inside := by
  have hreachable := hchanges.reachable h.provided
  rw [List.append_nil] at hreachable
  obtain ⟨dropped, hinfinite, hlength, hsub⟩ := h.whole
  refine ⟨hclear, h.later.trans hchanges.later, hchanges.provided h.provided,
    fun d hd => h.finite d (hreachable.mem_iff.mp hd), h.written.trans hreachable.length_eq.symm,
    h.failed, dropped, hinfinite, hlength, ?_⟩
  exact (((hreachable.append_left inside).append_right dropped).subperm).trans hsub

theorem Ledger.spares {l' : Link} (h : Ledger aliasName before handedIn l r inside)
    (hl : l.Spares l') : Ledger aliasName before handedIn l' r inside := by
  refine h.elsewhere ⟨hl.rehearsals.trans h.clear.rehearsals, ?_⟩ ?_
  · rw [hl.store]
    exact h.clear.faults
  · rw [hl.store]
    exact .rest

-- A batch is delivered.
theorem Ledger.delivered {docs : List Document}
    (h : Ledger aliasName before handedIn l r (inside ++ docs)) (owed : Nat)
    (reason : Option String) :
    Ledger aliasName before handedIn (l.served (.bulk aliasName docs))
      (Delivery.takeDown aliasName (r, owed)
        (.settled (storable docs).length (unstorable docs).length reason 0)).1 inside := by
  have hchanges : Traffic.Changes aliasName l.store (l.served (.bulk aliasName docs)).store
      (storable docs) := by
    rw [← Store.taken_of_provided h.provided h.clear.faults]
    exact .bulk docs
  have hreachable := hchanges.reachable h.provided
  have hstats := Delivery.stats_takeDown_settled aliasName r owed (storable docs).length
    (unstorable docs).length 0 reason
  obtain ⟨dropped, hinfinite, hlength, hsub⟩ := h.whole
  refine ⟨h.clear.served _, h.later.trans hchanges.later, hchanges.provided h.provided,
    fun d hd => ?_, ?_, ?_, dropped ++ unstorable docs, fun d hd => ?_, ?_,
    subperm_of_count fun d => ?_⟩
  · rcases List.mem_append.mp (hreachable.mem_iff.mp hd) with hold | hnew
    · exact h.finite d hold
    · exact (List.mem_filter.mp hnew).2
  · rw [hstats, hreachable.length_eq, List.length_append]
    exact congrArg (· + _) h.written
  · rw [hstats]
    exact h.failed
  · rcases List.mem_append.mp hd with hold | hnew
    · exact hinfinite d hold
    · simpa using (List.mem_filter.mp hnew).2
  · rw [hstats, List.length_append]
    exact congrArg (· + _) hlength
  · have hcount := hsub.count_le d
    have hsplit := Store.count_storable_add docs d
    have hstored := hreachable.count_eq d
    simp only [List.count_append] at hcount hstored ⊢
    omega

end

namespace Pipeline

-- What holds between turns.
structure Settled (aliasName : String) (before : Store) (handedIn : List Document) (p : Pipeline)
    (l : Link) : Prop where
  ledger : Ledger aliasName before handedIn l p.record p.cargo
  target : p.target = aliasName
  idle : ∀ e ∈ p.activities, e.2.delivers = false

-- The same while a worker has its turn, which has nothing in hand.
structure Settling (aliasName : String) (before : Store) (handedIn : List Document) (id : Nat)
    (p : Pipeline) (l : Link) : Prop where
  ledger : Ledger aliasName before handedIn l p.record (p.cargoBut id)
  target : p.target = aliasName
  distinct : p.Distinct
  idle : ∀ e ∈ p.others id, e.2.delivers = false

section

variable {aliasName : String} {before : Store} {handedIn : List Document} {id : Nat}
  {p q : Pipeline} {l : Link}

theorem Settled.settling (h : Settled aliasName before handedIn p l) (hd : p.Distinct) (id : Nat) :
    Settling aliasName before handedIn id p l := by
  refine ⟨h.ledger.within (subperm_of_count fun d => ?_) rfl rfl rfl, h.target, hd,
    fun e he => h.idle e (mem_others_iff.mp he).1⟩
  have hcount := count_cargo p id d
  omega

theorem Settling.shifts (h : Settling aliasName before handedIn id p l) (hs : Shifts id p q) :
    Settling aliasName before handedIn id q l := by
  refine ⟨?_, hs.target.trans h.target, hs.distinct h.distinct, ?_⟩
  · rw [hs.record, hs.cargoBut]
    exact h.ledger
  · rw [hs.others]
    exact h.idle

theorem idle_of_parts (id : Nat) (hown : ∀ e ∈ p.own id, e.2.delivers = false)
    (hothers : ∀ e ∈ p.others id, e.2.delivers = false) :
    ∀ e ∈ p.activities, e.2.delivers = false := by
  intro e he
  by_cases hid : e.1 = id
  · exact hown e (mem_own_iff.mpr ⟨he, hid⟩)
  · exact hothers e (mem_others_iff.mpr ⟨he, hid⟩)

-- The worker ends.
theorem Settling.gone (h : Settling aliasName before handedIn id p l) (hown : p.own id = []) :
    Settled aliasName before handedIn p l := by
  refine ⟨h.ledger.within (subperm_of_count fun d => ?_) rfl rfl rfl, h.target,
    idle_of_parts id ?_ h.idle⟩
  · rw [cargo_of_own_nil hown]
  · rw [hown]
    exact fun e he => absurd he List.not_mem_nil

-- The worker waits for something.
theorem Settling.set (h : Settling aliasName before handedIn id p l) (stage : WorkerStage)
    (hidle : (Activity.working stage).delivers = false) :
    Settled aliasName before handedIn (p.set id (.working stage)) l := by
  have hset := h.shifts (shifts_set id p (.working stage))
  have hown := own_set h.distinct id (.working stage)
  refine ⟨hset.ledger.within (subperm_of_count fun d => ?_) rfl rfl rfl, hset.target,
    idle_of_parts id ?_ hset.idle⟩
  · rw [cargo_of_own hown]
    exact Nat.le_refl _
  · rw [hown]
    exact List.forall_mem_singleton.mpr hidle

-- Workers.

theorem Settling.deliverBatch {batch : Batch} (ht : p.target = aliasName) (hd : p.Distinct)
    (hidle : ∀ e ∈ p.others id, e.2.delivers = false)
    (h : Ledger aliasName before handedIn l p.record (p.cargoBut id ++ batch.documents)) :
    ∃ d l' record, p.deliverBatch l batch = (.finished d, l', record, 0) ∧
      Settling aliasName before handedIn id { p with record := record } l' := by
  subst ht
  obtain ⟨d, reason, hrun⟩ :=
    Delivery.routine_run p.config batch h.clear h.provided p.record batch.size
  exact ⟨d, _, _, hrun, h.delivered batch.size reason, rfl, hd, hidle⟩

theorem stop_settled (h : Settling aliasName before handedIn id p l) :
    Settled aliasName before handedIn (p.releaseReceiver.finish id) l :=
  ((h.shifts (shifts_releaseReceiver id p)).shifts (shifts_finish id _)).gone (own_finish _ id)

theorem receive_settled {fuel : Nat}
    (hwork : ∀ (p : Pipeline) (l : Link), Settling aliasName before handedIn id p l →
      Settled aliasName before handedIn (work id fuel p l).2.1 (work id fuel p l).2.2)
    (h : Settling aliasName before handedIn id p l) :
    Settled aliasName before handedIn (receive id fuel p l).2.1 (receive id fuel p l).2.2 := by
  unfold receive
  split
  · exact stop_settled h
  · split
    · split
      · exact stop_settled h
      · exact h.set .receiving rfl
    · rename_i batch told intake hpop
      obtain ⟨hbatches, _⟩ := Intake.pop?_eq_some hpop
      have hshifts : Shifts id { p with intake := intake }
          ({ p with intake := intake }.wake told.toList).releaseReceiver :=
        (shifts_wake id _ _).trans (shifts_releaseReceiver id _)
      dsimp only
      generalize ({ p with intake := intake }.wake told.toList).releaseReceiver = q at hshifts ⊢
      have hledger : Ledger aliasName before handedIn l q.record
          (q.cargoBut id ++ batch.documents) := by
        rw [hshifts.record, hshifts.cargoBut]
        refine h.ledger.within (subperm_of_count fun d => ?_) rfl rfl rfl
        rw [List.count_append, count_cargoBut, count_cargoBut, hbatches, List.flatMap_cons,
          List.count_append]
        exact Nat.le_of_eq (by simp only [others]; omega)
      have hidle : ∀ e ∈ q.others id, e.2.delivers = false := by
        rw [hshifts.others]
        exact h.idle
      obtain ⟨d, l', record, hdelivered, hsettling⟩ := Settling.deliverBatch
        (hshifts.target.trans h.target) (hshifts.distinct h.distinct) hidle hledger
      rw [hdelivered]
      exact hwork _ _ hsettling

theorem work_settled (fuel : Nat) (h : Settling aliasName before handedIn id p l) :
    Settled aliasName before handedIn (work id fuel p l).2.1 (work id fuel p l).2.2 := by
  induction fuel generalizing p l with
  | zero =>
    unfold work
    exact h.set .new rfl
  | succ fuel ih =>
    unfold work
    have htaken := shifts_takeReceiver id p
    split
    · rename_i q htake
      rw [htake] at htaken
      exact (h.shifts htaken).set .queued rfl
    · rename_i q htake
      rw [htake] at htaken
      exact receive_settled (fun p l hs => ih hs) (h.shifts htaken)

theorem workOn_settled {stage : WorkerStage} (h : Settled aliasName before handedIn p l)
    (hd : p.Distinct) (hown : p.own id = [(id, .working stage)]) :
    Settled aliasName before handedIn (p.workOn l id stage).2.1 (p.workOn l id stage).2.2 := by
  have hsettling := h.settling hd id
  have hmem : (id, .working stage) ∈ p.own id := by simp [hown]
  have hidle : (Activity.working stage).delivers = false := h.idle _ (mem_own_iff.mp hmem).1
  unfold workOn
  split
  · exact work_settled _ hsettling
  · split
    · exact receive_settled (fun p l hs => work_settled _ hs) hsettling
    · exact h
  · exact receive_settled (fun p l hs => work_settled _ hs) hsettling
  · cases hidle

-- Everybody else.

theorem Turned.settled {hand : Hand} {samples : List Sample} {l' : Link}
    (h : Turned id p hand samples q) (hl : l.Spares l') (ht : p.target = aliasName)
    (hidle : ∀ e ∈ p.others id, e.2.delivers = false)
    (hledger : Ledger aliasName before handedIn l p.record
      (p.cargoBut id ++ hand.documents ++ samples.map .ofSample)) :
    Settled aliasName before handedIn q l' := by
  have hsilent := h.silent
  have hcount := h.count
  obtain ⟨taken, left, last, _, htrace, hlands⟩ := h
  refine ⟨(hledger.spares hl).within (subperm_of_count fun d => ?_) hsilent.written
    hsilent.dropped hsilent.failed, htrace.apart.target.trans ht, idle_of_parts id ?_ ?_⟩
  · rw [List.count_append, List.count_append]
    exact hcount d
  · cases hlands with
    | gone hown hhand =>
      rw [hown]
      exact fun e he => absurd he List.not_mem_nil
    | stays a hown hhand hrest hdelivers =>
      rw [hown]
      exact List.forall_mem_singleton.mpr hdelivers
  · rw [htrace.apart.others]
    exact hidle

theorem Heads.settled {hand : Hand} {result : Option Result} {l' : Link}
    (h : Heads id p hand result q) (hl : l.Spares l') (ht : p.target = aliasName)
    (hidle : ∀ e ∈ p.others id, e.2.delivers = false)
    (hledger : Ledger aliasName before handedIn l p.record (p.cargoBut id ++ hand.documents)) :
    Settled aliasName before handedIn q l' := by
  have hcargo := h.cargo
  cases h with
  | goesOn h =>
    refine h.settled hl ht hidle ?_
    rw [List.map_nil, List.append_nil]
    exact hledger
  | @collects q report h =>
    have hsilent := h.silent
    obtain ⟨loss, hrecord⟩ := collect_record q id report
    obtain ⟨hactivities, htarget, _⟩ := collect_leaves q id report
    have hreckon : (q.record.reckon loss).stats.written = q.record.stats.written ∧
        (q.record.reckon loss).stats.dropped = q.record.stats.dropped ∧
        (q.record.reckon loss).stats.failed = q.record.stats.failed := by
      unfold Record.reckon
      split <;> exact ⟨rfl, rfl, rfl⟩
    obtain ⟨hwritten, hdropped, hfailed⟩ := hreckon
    refine ⟨(hledger.spares hl).within (subperm_of_count fun d => ?_) ?_ ?_ ?_,
      htarget.trans (h.apart.target.trans ht), fun e he => ?_⟩
    · rw [List.count_append]
      exact hcargo d
    · rw [hrecord, hwritten, hsilent.written]
    · rw [hrecord, hdropped, hsilent.dropped]
    · rw [hrecord, hfailed, hsilent.failed]
    · rw [hactivities, h.apart.others] at he
      exact hidle e he

end

end Pipeline

namespace Course

open Pipeline

section

variable {aliasName : String} {before : Store} {handedIn : List Document} {c : Course}

theorem begin_settled {config : Config} {l : Link} (hv : config.validate = .ok ()) (hl : l.Clear)
    (hs : Provided aliasName l.store) (hnone : l.store.reachable aliasName = []) (first : Nat) :
    ∃ c, begin config aliasName l first = .ok c ∧ c.Sound ∧
      Settled aliasName l.store [] c.pipeline c.link := by
  obtain ⟨c, hbegin, hc⟩ := begin_sound hv aliasName l first
  refine ⟨c, hbegin, hc, ?_⟩
  unfold begin Pipeline.start at hbegin
  rw [hv] at hbegin
  cases hbegin
  have hworkers : ∀ e ∈ ((List.range config.workers).map (first + ·)).map
      (fun id => (id, Activity.working .new)) ++
        [(first + config.workers, .starting config.ageCheckInterval)],
      e.2.load = [] ∧ e.2.delivers = false := by
    intro e he
    rcases List.mem_append.mp he with he | he
    · obtain ⟨id, _, rfl⟩ := List.mem_map.mp he
      exact ⟨rfl, rfl⟩
    · rw [List.mem_singleton.mp he]
      exact ⟨rfl, rfl⟩
  refine ⟨⟨hl, .refl aliasName l.store, hs, ?_, ?_, rfl, [], ?_, rfl, ?_⟩, rfl,
    fun e he => (hworkers e he).2⟩
  · rw [hnone]
    exact fun d hd => absurd hd List.not_mem_nil
  · rw [hnone]
    rfl
  · exact fun d hd => absurd hd List.not_mem_nil
  · rw [hnone, List.append_nil, List.append_nil, List.subperm_nil]
    exact List.flatMap_eq_nil_iff.mpr fun e he => (hworkers e he).1

-- What happens from now on is compared with the store as it is now.
theorem settled_anew (h : Settled aliasName before handedIn c.pipeline c.link) :
    Settled aliasName c.link.store handedIn c.pipeline c.link :=
  ⟨{ h.ledger with later := .refl aliasName c.link.store }, h.target, h.idle⟩

theorem write_settled (hc : c.Sound) (h : Settled aliasName before handedIn c.pipeline c.link)
    (samples : List Sample) :
    Settled aliasName before (handedIn ++ samples.map .ofSample) (c.step (.write samples)).pipeline
      (c.step (.write samples)).link := by
  have hnew := own_next hc
  have hsettling := h.settling hc.distinct c.next
  refine (write_turned c.link.now samples.length samples hc.distinct hnew).settled ⟨rfl, rfl⟩
    h.target hsettling.idle ?_
  have hnothing : Hand.empty.documents = [] := rfl
  rw [hnothing, List.append_nil]
  exact hsettling.ledger.handIn _

theorem turn_settled (hc : c.Sound) (h : Settled aliasName before handedIn c.pipeline c.link)
    (id : Nat) :
    Settled aliasName before handedIn (c.step (.turn id)).pipeline (c.step (.turn id)).link := by
  have hsettling := h.settling hc.distinct id
  have htakes := turn_takes hc id
  unfold step
  dsimp only
  generalize c.pipeline.turn c.link id = turn at htakes ⊢
  obtain ⟨result, q, l⟩ := turn
  cases htakes with
  | nobody => exact h
  | @carries a result q l hown hturned hl hending =>
    refine hturned.settled hl h.target hsettling.idle
      (h.ledger.within (subperm_of_count fun d => ?_) rfl rfl rfl)
    rw [cargo_of_own hown, Activity.load]
    simp only [List.count_append]
    omega
  | @shutsDown stage result q l hending hat hheads hl =>
    refine hheads.settled hl h.target hsettling.idle
      (h.ledger.within (subperm_of_count fun d => ?_) rfl rfl rfl)
    rw [cargo_of_own hat.here, Activity.load]
    simp only [List.count_append]
    omega
  | works hown hending => exact workOn_settled h hc.distinct hown

theorem shutDown_settled (hc : c.Sound) (h : Settled aliasName before handedIn c.pipeline c.link) :
    Settled aliasName before handedIn (c.step .shutDown).pipeline (c.step .shutDown).link := by
  have hsettling := h.settling hc.distinct c.next
  unfold step
  dsimp only
  split
  · rename_i hending
    have hduring := hc.during
    rw [hending] at hduring
    refine (shutDown_heads c.link hc.distinct hduring.1).settled
      (shutDown_spares c.pipeline c.link c.next) h.target hsettling.idle ?_
    have hnothing : Hand.empty.documents = [] := rfl
    rw [hnothing, List.append_nil]
    exact hsettling.ledger
  · exact h

end

end Course

end Write

end MetricRelay
