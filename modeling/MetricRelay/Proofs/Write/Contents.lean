import MetricRelay.Proofs.Write.Answers
import MetricRelay.Proofs.Write.Cargo

-- What is in the batches. The samples that were taken in stand in the closed batches, in the order
-- in which these were closed, and in the open one; and no batch that was closed changes on its way.

namespace MetricRelay.Write

open Store (Link)

-- The batch that an activity wants to queue or has on its way to the store.
def Activity.batch? : Activity → Option Batch
  | .working (.delivering batch _ _) => some batch
  | a => a.held?

theorem Activity.batch?_of_role {a : Activity} (h : a.role = .client ∨ a.role = .timer) :
    a.batch? = a.held? := by
  cases a with
  | working stage => simp [role] at h
  | _ => rfl

theorem Activity.batch?_eq_held? {a : Activity} (h : a.delivers = false) : a.batch? = a.held? := by
  unfold batch?
  split
  · cases h
  · rfl

-- While samples are taken in, the open batch becomes another and some closed ones join those that
-- were around. What was in the open batch and what is taken in stand in the closed ones, in their
-- order, and then in the new open batch. Each closed batch is still around or is gone.
def Fills (b : Batch) (around : List Batch) (taken : List Sample) (b' : Batch)
    (around' : List Batch) : Prop :=
  ∃ closed gone, b.samples ++ taken = closed.flatMap Batch.samples ++ b'.samples ∧
    (around ++ closed).Perm (around' ++ gone)

namespace Fills

variable {b b' b'' : Batch} {around around' around'' others : List Batch}
  {taken more : List Sample}

-- It does not matter in which order one looks at the closed batches.
theorem of_perm (b : Batch) (h : around.Perm around') : Fills b around [] b around' :=
  ⟨[], [], List.append_nil _, h.append_right []⟩

theorem trans (h : Fills b around taken b' around') (h' : Fills b' around' more b'' around'') :
    Fills b around (taken ++ more) b'' around'' := by
  obtain ⟨closed, gone, horder, hplaces⟩ := h
  obtain ⟨closed', gone', horder', hplaces'⟩ := h'
  refine ⟨closed ++ closed', gone ++ gone', ?_, List.perm_iff_count.mpr fun x => ?_⟩
  · calc b.samples ++ (taken ++ more)
        = closed.flatMap Batch.samples ++ (b'.samples ++ more) := by
          rw [← List.append_assoc, horder, List.append_assoc]
      _ = (closed ++ closed').flatMap Batch.samples ++ b''.samples := by
          rw [horder', List.flatMap_append, List.append_assoc]
  · have hx := hplaces.count_eq x
    have hx' := hplaces'.count_eq x
    simp only [List.count_append] at hx hx' ⊢
    omega

theorem perm (h : Fills b around taken b' around') (hp : others.Perm around)
    (hq : around'.Perm around'') : Fills b others taken b' around'' := by
  obtain ⟨closed, gone, horder, hplaces⟩ := h
  exact ⟨closed, gone, horder,
    ((hp.append_right closed).trans hplaces).trans (hq.append_right gone)⟩

-- Some of the batches go.
theorem drop (b : Batch) (around gone : List Batch) : Fills b (around ++ gone) [] b around :=
  ⟨[], gone, List.append_nil _, by rw [List.append_nil]⟩

-- The open batch is closed when this has come in.
theorem close (taken : List Sample) (around : List Batch) (now : Nat)
    (h : b'.samples = b.samples ++ taken) : Fills b around taken (.empty now) (around ++ [b']) := by
  refine ⟨[b'], [], ?_, by rw [List.append_nil]⟩
  rw [List.flatMap_singleton, h]
  exact (List.append_nil _).symm

-- The samples that came in stand in the open batch.
theorem keep (taken : List Sample) (around : List Batch) (h : b'.samples = b.samples ++ taken) :
    Fills b around taken b' around :=
  ⟨[], [], h.symm, .refl _⟩

end Fills

namespace Pipeline

def carried (activities : List (Nat × Activity)) : List Batch :=
  activities.filterMap fun e => e.2.batch?

-- The closed batches that are still around: in the queue, in somebody's hands or on their way to
-- the store.
def around (p : Pipeline) : List Batch := p.intake.batches ++ carried p.activities

-- The same without what one activity has.
def aroundBut (p : Pipeline) (id : Nat) : List Batch :=
  p.intake.batches ++ carried (p.others id)

section

variable {id now : Nat} {p q r : Pipeline} {hand last : Hand} {taken samples : List Sample}
  {batch : Batch} {offer : Offer}

theorem around_perm (p : Pipeline) (id : Nat) :
    p.around.Perm (p.aroundBut id ++ carried (p.own id)) := by
  have hsplit : (p.others id ++ p.own id).Perm p.activities := by
    have hboth := List.filter_append_perm (fun e : Nat × Activity => e.1 != id) p.activities
    simpa only [others, own, bne, Bool.not_not] using hboth
  have hcarried := (hsplit.filterMap fun e => e.2.batch?).append_left p.intake.batches
  rw [List.filterMap_append, ← List.append_assoc] at hcarried
  exact hcarried.symm

theorem around_of_gone (hown : p.own id = []) : p.around.Perm (p.aroundBut id) := by
  have hperm := around_perm p id
  rw [hown] at hperm
  exact hperm.trans (.of_eq (List.append_nil _))

theorem around_of_own {a : Activity} (hown : p.own id = [(id, a)]) :
    p.around.Perm (p.aroundBut id ++ a.batch?.toList) := by
  have hperm := around_perm p id
  rw [hown] at hperm
  refine hperm.trans (.of_eq (congrArg (p.aroundBut id ++ ·) ?_))
  unfold carried
  cases h : a.batch? <;> simp [h]

-- One step of a trace.

theorem append_fills (id : Nat) {s : Sample} {closed : Option (Trigger × Batch)}
    (h : p.append now s = (closed, q)) :
    Fills p.batch (p.aroundBut id) [s] q.batch
      (q.aroundBut id ++ (Hand.taking closed).batch.toList) := by
  unfold append at h
  dsimp only at h
  split at h
  · cases h
    exact .close [s] _ now rfl
  · cases h
    exact (Fills.keep [s] _ rfl).perm (.refl _) (.of_eq (List.append_nil _).symm)

theorem expire_fills (id : Nat) {closed : Option (Trigger × Batch)}
    (h : p.expire now = (closed, q)) :
    Fills p.batch (p.aroundBut id) [] q.batch
      (q.aroundBut id ++ (Hand.taking closed).batch.toList) := by
  have hstays : Fills p.batch (p.aroundBut id) [] p.batch (p.aroundBut id ++ []) :=
    .of_perm p.batch (.of_eq (List.append_nil _).symm)
  unfold expire at h
  split at h
  · cases h
    exact hstays
  · split at h
    · cases h
      exact .close [] _ now (List.append_nil _).symm
    · cases h
      exact hstays

-- What is refused is gone.
theorem settleOffer_fills (id : Nat) {intake : Intake} (h : p.intake.Answers batch offer intake) :
    Fills p.batch (p.aroundBut id ++ [batch]) []
      ({ p with intake := intake }.settleOffer batch offer).batch
      (({ p with intake := intake }.settleOffer batch offer).aroundBut id ++
        (Hand.after batch offer).batch.toList) := by
  have hbatches := h.batches
  cases offer with
  | sent =>
    rw [if_pos rfl] at hbatches
    refine .of_perm p.batch ?_
    change (p.intake.batches ++ carried (p.others id) ++ [batch]).Perm
      (intake.batches ++ carried (p.others id) ++ [])
    rw [hbatches, List.append_nil, List.append_assoc, List.append_assoc]
    exact List.perm_append_comm.append_left _
  | refused =>
    rw [if_neg (by simp)] at hbatches
    refine (Fills.drop p.batch _ [batch]).perm (.refl _) ?_
    change (p.intake.batches ++ carried (p.others id)).Perm
      (intake.batches ++ carried (p.others id) ++ [])
    rw [hbatches, List.append_nil]
  | mustWait =>
    rw [if_neg (by simp)] at hbatches
    refine .of_perm p.batch ?_
    change (p.intake.batches ++ carried (p.others id) ++ [batch]).Perm
      (intake.batches ++ carried (p.others id) ++ [batch])
    rw [hbatches]

theorem Shifts.aroundBut (h : Shifts id p q) : q.aroundBut id = p.aroundBut id := by
  unfold Pipeline.aroundBut
  rw [h.batches, h.others]

theorem endIntake_fills (id : Nat) {left : Option Batch} (hsender : p.hasSender = true)
    (h : p.endIntake now = (left, q)) :
    Fills p.batch (p.aroundBut id) [] q.batch (q.aroundBut id ++ left.toList) := by
  unfold endIntake at h
  cases hempty : p.batch.isEmpty with
  | true =>
    simp only [hempty, Bool.not_true, Bool.and_false] at h
    cases h
    generalize hshut : { p with hasSender := false, closed := true, batch := p.batch } = shut
    have hgone := shifts_senderGone id shut
    have hstays : Fills p.batch (p.aroundBut id) [] shut.senderGone.batch
        (shut.senderGone.aroundBut id) := by
      rw [hgone.batch, hgone.aroundBut]
      subst hshut
      exact .of_perm p.batch (.refl _)
    subst hshut
    exact hstays.perm (.refl _) (.of_eq (List.append_nil _).symm)
  | false =>
    simp only [hsender, hempty, Bool.not_false, Bool.and_true, if_true, Option.isNone_some,
      Bool.false_eq_true, if_false] at h
    cases h
    exact .close [] _ now (List.append_nil _).symm

theorem Trace.fills (h : Trace id p hand taken q last) :
    Fills p.batch (p.aroundBut id ++ hand.batch.toList) taken q.batch
      (q.aroundBut id ++ last.batch.toList) := by
  induction h with
  | stop p hand => exact .of_perm p.batch (.refl _)
  | shift h _ ih => rwa [h.batch, h.aroundBut] at ih
  | count _ _ ih => exact ih
  | @append p q r now s closed last taken _ h _ ih =>
    have hfilled := (append_fills id h).trans ih
    exact hfilled.perm (.of_eq (List.append_nil _)) (.refl _)
  | expire h _ ih =>
    have hfilled := (expire_fills id h).trans ih
    exact hfilled.perm (.of_eq (List.append_nil _)) (.refl _)
  | offer h _ _ ih => exact (settleOffer_fills id h).trans ih
  | endIntake hsender h _ ih =>
    have hfilled := (endIntake_fills id hsender h).trans ih
    exact hfilled.perm (.of_eq (List.append_nil _)) (.refl _)
  | @giveUp p r batch last taken _ ih =>
    have hgone := Fills.drop p.batch (p.aroundBut id) [batch]
    have hleft : (p.aroundBut id ++ (Hand.mk none ⟨1, batch.size⟩).batch.toList) =
      p.aroundBut id := List.append_nil _
    rw [hleft] at ih
    exact hgone.trans ih

-- Whole turns.

-- A turn takes in the first samples of those it has to add, as many as it counts.
theorem Turned.fills (h : Turned id p hand samples q) (hfirst : taken <+: samples)
    (hcount : q.record.stats.accepted = p.record.stats.accepted + taken.length) :
    Fills p.batch (p.aroundBut id ++ hand.batch.toList) taken q.batch q.around := by
  obtain ⟨added, left, last, rfl, htrace, hlands⟩ := h
  have hlength : taken.length = added.length := by
    have hadded := htrace.accepted
    omega
  obtain rfl : taken = added :=
    (List.prefix_of_prefix_length_le hfirst (List.prefix_append added left)
      (Nat.le_of_eq hlength)).eq_of_length hlength
  refine htrace.fills.perm (.refl _) ?_
  cases hlands with
  | gone hown hhand =>
    subst hhand
    exact (List.Perm.of_eq (List.append_nil _)).trans (around_of_gone hown).symm
  | stays a hown hhand hrest hdelivers =>
    subst hhand
    have hperm := around_of_own hown
    rw [Activity.batch?_eq_held? hdelivers] at hperm
    exact hperm.symm

theorem Heads.fills {result : Option Result} (h : Heads id p hand result q) :
    Fills p.batch (p.aroundBut id ++ hand.batch.toList) [] q.batch q.around := by
  cases h with
  | goesOn h => exact h.fills (List.prefix_refl _) h.accepted
  | @collects q report h =>
    -- what is still queued is gone
    obtain ⟨hactivities, _, hbatch, hbatches⟩ := collect_leaves q id report
    have hdropped := Fills.drop q.batch (carried (q.others id)) q.intake.batches
    unfold around
    rw [hactivities, hbatch, hbatches, List.nil_append]
    refine h.fills.trans (hdropped.perm ?_ (.refl _))
    exact (List.Perm.of_eq (List.append_nil _)).trans List.perm_append_comm

-- A turn of a call of `write` adds the first samples of those that it has still to add.
theorem resumed_first {a : Activity} (l : Link) (hd : p.Distinct) (hfind : p.find? id = some a) :
    p.resumed l.now id <+: a.rest := by
  by_cases hwrites : ∃ batch rest total, a = .writing batch rest total
  · obtain ⟨batch, rest, total, rfl⟩ := hwrites
    exact (turn_progress l hd (own_eq_of_find? hd hfind)).isPrefix
  · rw [resumed_eq_nil hfind fun batch rest total heq => hwrites ⟨batch, rest, total, heq⟩]
    exact List.nil_prefix

-- Workers take nothing in and leave the open batch alone. The batch that one has taken from the
-- queue is on its way to the store or gone.
def Serves (id : Nat) (p : Pipeline) (inHand : List Batch) (q : Pipeline) : Prop :=
  Fills p.batch (p.aroundBut id ++ inHand) [] q.batch q.around

theorem Shifts.serves {inHand : List Batch} (h : Shifts id p q) (h' : Serves id q inHand r) :
    Serves id p inHand r := by
  unfold Serves at h' ⊢
  rwa [h.batch, h.aroundBut] at h'

theorem Shifts.ended (h : Shifts id p q) (hown : q.own id = []) : Serves id p [] q := by
  refine h.serves (.of_perm q.batch ?_)
  exact (List.Perm.of_eq (List.append_nil _)).trans (around_of_gone hown).symm

theorem serves_set (a : Activity) (hd : p.Distinct) :
    Serves id p a.batch?.toList (p.set id a) := by
  refine (shifts_set id p a).serves (.of_perm (p.set id a).batch ?_)
  exact (around_of_own (own_set hd id a)).symm

-- A batch that was delivered is gone.
theorem Serves.delivered (h : Serves id p [] q) (batch : Batch) : Serves id p [batch] q := by
  have hgone := Fills.drop p.batch (p.aroundBut id) [batch]
  exact hgone.trans (h.perm (.of_eq (List.append_nil _).symm) (.refl _))

theorem stop_serves (p : Pipeline) (id : Nat) : Serves id p [] (p.releaseReceiver.finish id) :=
  ((shifts_releaseReceiver id p).trans (shifts_finish id _)).ended (own_finish _ id)

-- The first batch in the queue is in hand.
theorem pop?_serves {intake : Intake} {told : Option Nat}
    (hpop : p.intake.pop? = some (batch, told, intake))
    (h : Serves id { p with intake := intake } [batch] r) : Serves id p [] r := by
  refine Fills.perm h ?_ (.refl _)
  change (p.intake.batches ++ carried (p.others id) ++ []).Perm
    (intake.batches ++ carried (p.others id) ++ [batch])
  rw [(Intake.pop?_eq_some hpop).1, List.append_nil, List.cons_append]
  exact (List.perm_append_singleton batch _).symm

-- A worker that goes from batch to batch, by induction on how often it may.
theorem receive_serves {fuel : Nat}
    (hwork : ∀ (p : Pipeline) (l : Link), p.Distinct → Serves id p [] (work id fuel p l).2.1)
    (l : Link) (hd : p.Distinct) : Serves id p [] (receive id fuel p l).2.1 := by
  unfold receive
  split
  · exact stop_serves p id
  · split
    · split
      · exact stop_serves p id
      · exact serves_set (.working .receiving) hd
    · rename_i batch told intake hpop
      have htaken := (shifts_wake id { p with intake := intake } told.toList).trans
        (shifts_releaseReceiver id _)
      have hpopped : ∀ r, Serves id { p with intake := intake } [batch] r → Serves id p [] r :=
        fun r => pop?_serves hpop
      dsimp only
      generalize (({ p with intake := intake }.wake told.toList).releaseReceiver) = q at htaken ⊢
      have hdq : q.Distinct := htaken.distinct hd
      split
      · rename_i l' record _ _
        have hrest : Serves id q [] (work id fuel { q with record := record } l').2.1 :=
          hwork { q with record := record } l' hdq
        exact hpopped _ (htaken.serves (hrest.delivered batch))
      · rename_i s _ record owed _
        have hset : Serves id q [batch]
            ({ q with record := record }.set id (.working (.delivering batch owed s))) :=
          serves_set (p := { q with record := record }) (.working (.delivering batch owed s)) hdq
        exact hpopped _ (htaken.serves hset)

theorem work_serves (fuel : Nat) (l : Link) (hd : p.Distinct) :
    Serves id p [] (work id fuel p l).2.1 := by
  induction fuel generalizing p l with
  | zero =>
    unfold work
    exact serves_set (.working .new) hd
  | succ fuel ih =>
    unfold work
    have htaken := shifts_takeReceiver id p
    split
    · rename_i q htake
      rw [htake] at htaken
      exact htaken.serves (serves_set (.working .queued) (htaken.distinct hd))
    · rename_i q htake
      rw [htake] at htaken
      exact htaken.serves (receive_serves (fun p l hd => ih l hd) l (htaken.distinct hd))

theorem serves_stay {a : Activity} (hown : p.own id = [(id, a)]) : Serves id p a.batch?.toList p :=
  .of_perm p.batch (around_of_own hown).symm

theorem workOn_serves {stage : WorkerStage} (l : Link) (hd : p.Distinct)
    (hown : p.own id = [(id, .working stage)]) :
    Serves id p (Activity.working stage).batch?.toList (p.workOn l id stage).2.1 := by
  unfold workOn
  split
  · exact work_serves _ l hd
  · split
    · exact receive_serves (fun p l hd => work_serves _ l hd) l hd
    · exact serves_stay hown
  · exact receive_serves (fun p l hd => work_serves _ l hd) l hd
  · rename_i batch owed s
    split
    · have hfinish : ∀ q : Pipeline, Serves id q [] (q.finish id) := fun q =>
        (shifts_finish id q).ended (own_finish q id)
      have hended : Serves id p []
          ((if owed = 0 then p else p.addLost owed).finish id) := by
        split
        · exact hfinish p
        · exact hfinish (p.addLost owed)
      exact hended.delivered batch
    · split
      · rename_i l' record _ _
        have hrest : Serves id p [] (work id p.workFuel { p with record := record } l').2.1 :=
          work_serves (p := { p with record := record }) _ l' hd
        exact hrest.delivered batch
      · rename_i s' _ record left _
        exact serves_set (p := { p with record := record })
          (.working (.delivering batch left s')) hd

end

end Pipeline

namespace Course

open Pipeline

section

variable {c : Course} {id : Nat}

theorem prefix_of_ite (taken : Bool) (s : Sample) : (if taken then [s] else []) <+: [s] := by
  cases taken with
  | false => exact List.nil_prefix
  | true => exact List.prefix_refl [s]

theorem turn_fills (hc : c.Sound) (id : Nat) :
    Fills c.pipeline.batch c.pipeline.around (c.pipeline.resumed c.link.now id)
      (c.pipeline.turn c.link id).2.1.batch (c.pipeline.turn c.link id).2.1.around := by
  have hd := hc.distinct
  cases hfind : c.pipeline.find? id with
  | none =>
    have hnothing : c.pipeline.resumed c.link.now id = [] := by
      unfold resumed
      rw [hfind]
    rw [turn_of_none c.link hfind, hnothing]
    exact .of_perm _ (.refl _)
  | some a =>
    have hown := own_eq_of_find? hd hfind
    have haround := around_of_own hown
    have hcarries : a.role = .client ∨ a.role = .timer →
        Fills c.pipeline.batch c.pipeline.around (c.pipeline.resumed c.link.now id)
          (c.pipeline.turn c.link id).2.1.batch (c.pipeline.turn c.link id).2.1.around := by
      intro hr
      rw [Activity.batch?_of_role hr] at haround
      exact ((turn_turned c.link hd hfind hr).fills (resumed_first c.link hd hfind)
        (turn_accepted hc id)).perm haround (.refl _)
    cases hrole : a.role with
    | client => exact hcarries (.inl hrole)
    | timer => exact hcarries (.inr hrole)
    | shutdown =>
      obtain ⟨_, stage, rfl, hat⟩ := ending_of_role hc (mem_of_find? hfind) hrole
      rw [resumed_eq_nil hfind (by simp), turn_of_ending c.link hfind]
      exact (endOn_heads c.link hd hat).fills.perm haround (.refl _)
    | worker =>
      cases a with
      | working stage =>
        rw [resumed_eq_nil hfind (by simp), turn_of_working c.link hfind]
        exact Fills.perm (workOn_serves c.link hd hown) haround (.refl _)
      | _ => cases hrole

theorem step_fills (hc : c.Sound) (e : Event) :
    Fills c.pipeline.batch c.pipeline.around (c.additions e) (c.step e).pipeline.batch
      (c.step e).pipeline.around := by
  have hd := hc.distinct
  have hnew := own_next hc
  have hcall : ∀ {samples taken : List Sample} {q : Pipeline},
      Turned c.next c.pipeline .empty samples q → taken <+: samples →
      q.record.stats.accepted = c.pipeline.record.stats.accepted + taken.length →
      Fills c.pipeline.batch c.pipeline.around taken q.batch q.around := by
    intro samples taken q hturned hfirst hcount
    refine (hturned.fills hfirst hcount).perm ?_ (.refl _)
    exact (around_of_gone hnew).trans (.of_eq (List.append_nil _).symm)
  have hcount := step_accepted hc e
  unfold admitted at hcount
  rw [List.length_map] at hcount
  cases e with
  | add s =>
    refine hcall (add_turned _ s hd hnew) ?_ hcount
    exact prefix_of_ite c.pipeline.accepts s
  | write samples =>
    exact hcall (write_turned _ _ samples hd hnew)
      (write_progress _ samples.length samples hd hnew).isPrefix hcount
  | tryAdd s =>
    refine hcall (tryAdd_turned _ s hnew) ?_ hcount
    exact prefix_of_ite (c.pipeline.tryAdd c.link.now c.next s).1.isOk s
  | flushExpired => exact hcall (flushExpired_turned _ hd hnew) (List.prefix_refl _) hcount
  | turn id => exact turn_fills hc id
  | shutDown =>
    unfold step
    dsimp only
    split
    · rename_i hending
      have hduring := hc.during
      rw [hending] at hduring
      refine (shutDown_heads c.link hd hduring.1).fills.perm ?_ (.refl _)
      exact (around_of_gone hnew).trans (.of_eq (List.append_nil _).symm)
    · exact .of_perm _ (.refl _)
  | world l => exact .of_perm _ (.refl _)

theorem after_fills (hc : c.Sound) (events : List Event) :
    Fills c.pipeline.batch c.pipeline.around ((c.throughout admitted events).map Prod.snd)
      (c.after events).pipeline.batch (c.after events).pipeline.around := by
  induction events generalizing c with
  | nil => exact .of_perm _ (.refl _)
  | cons e rest ih =>
    rw [throughout, List.map_append]
    have hadditions : (c.admitted e).map Prod.snd = c.additions e := by
      unfold admitted
      rw [List.map_map]
      exact List.map_id _
    rw [hadditions]
    exact (step_fills hc e).trans (ih (step_sound hc e))

-- What has been taken in by calls that have not begun yet: nothing.
theorem addressed_later {id : Nat} {e : Event} (hc : c.Sound) (hid : (c.step e).next ≤ id) :
    addressed id (c.admitted e) = [] := by
  by_cases hact : c.actor e = id
  · have hnothing : c.additions e = [] := by
      cases e with
      | turn other =>
        obtain rfl : other = id := hact
        have hgone : c.pipeline.own other = [] := by
          refine List.filter_eq_nil_iff.mpr fun a ha hother => ?_
          have hlt := hc.fresh a ha
          have heq := beq_iff_eq.mp hother
          have hle : c.next ≤ other := hid
          omega
        exact (turn_gone c.link hgone).2
      | flushExpired | shutDown | world l => rfl
      | _ => exact absurd hact (Nat.ne_of_lt hid)
    unfold admitted
    rw [hnothing]
    rfl
  · exact addressed_others hact _

theorem next_after (c : Course) (events : List Event) : c.next ≤ (c.after events).next :=
  List.foldlRecOn (motive := fun d => c.next ≤ d.next) events step (Nat.le_refl _)
    fun d hd e _ => Nat.le_trans hd (next_step d e)

theorem throughout_later {id : Nat} (hc : c.Sound) (events : List Event)
    (hid : (c.after events).next ≤ id) : addressed id (c.throughout admitted events) = [] := by
  induction events generalizing c with
  | nil => rfl
  | cons e rest ih =>
    have hstep := step_sound hc e
    have hnext : (c.step e).next ≤ id := Nat.le_trans (next_after (c.step e) rest) hid
    rw [throughout, addressed_append, addressed_later hc hnext, ih hstep hid]
    rfl

theorem throughout_append {α : Type} (f : Course → Event → List α) (c : Course)
    (events more : List Event) :
    c.throughout f (events ++ more) =
      c.throughout f events ++ (c.after events).throughout f more := by
  induction events generalizing c with
  | nil => rfl
  | cons e rest ih =>
    rw [List.cons_append, throughout, throughout, ih (c.step e), List.append_assoc]
    rfl

-- In a course that has just begun there is nothing yet.
theorem begin_empty {config : Config} {target : String} {l : Link} {first : Nat}
    (h : begin config target l first = .ok c) :
    c.pipeline.batch.samples = [] ∧ c.pipeline.around = [] := by
  unfold begin Pipeline.start at h
  cases hv : config.validate with
  | error e =>
    rw [hv] at h
    cases h
  | ok _ =>
    rw [hv] at h
    cases h
    refine ⟨rfl, List.filterMap_eq_nil_iff.mpr fun e he => ?_⟩
    rcases List.mem_append.mp he with he | he
    · obtain ⟨id, _, rfl⟩ := List.mem_map.mp he
      rfl
    · rw [List.mem_singleton.mp he]
      rfl

-- All that was taken in, one sample after the other, stands in the batches.
theorem begin_contents {config : Config} {target : String} {l : Link} {first : Nat}
    (h : begin config target l first = .ok c) (hc : c.Sound) (events : List Event) :
    ∃ closed gone : List Batch,
      closed.flatMap Batch.samples ++ (c.after events).pipeline.batch.samples =
        (c.throughout admitted events).map Prod.snd ∧
      closed.Perm ((c.after events).pipeline.around ++ gone) := by
  obtain ⟨hbatch, haround⟩ := begin_empty h
  obtain ⟨closed, gone, horder, hplaces⟩ := after_fills hc events
  rw [hbatch, List.nil_append] at horder
  rw [haround, List.nil_append] at hplaces
  exact ⟨closed, gone, horder.symm, hplaces⟩

end

end Course

end MetricRelay.Write
