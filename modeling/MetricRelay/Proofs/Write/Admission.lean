import MetricRelay.Proofs.Write.Deadline
import MetricRelay.Proofs.Write.Reporting

-- Whose samples are taken in, and who is told what. A call of `write` adds its samples one after
-- the other; when it is answered all of them have been added, or the shutdown has begun and those
-- that have been added come before those that have not.

namespace MetricRelay.Write

open Store (Link)

-- What stands under one number.
def addressed {α : Type} (id : Nat) (entries : List (Nat × α)) : List α :=
  (entries.filter fun e => e.1 == id).map Prod.snd

section

variable {α : Type} {id other : Nat}

@[simp] theorem addressed_nil : addressed id ([] : List (Nat × α)) = [] := rfl

@[simp] theorem addressed_append (xs ys : List (Nat × α)) :
    addressed id (xs ++ ys) = addressed id xs ++ addressed id ys := by
  unfold addressed
  rw [List.filter_append, List.map_append]

@[simp] theorem addressed_self (xs : List α) : addressed id (xs.map fun x => (id, x)) = xs := by
  unfold addressed
  rw [List.filter_eq_self.mpr (by simp), List.map_map]
  exact List.map_id xs

theorem addressed_others (hne : other ≠ id) (xs : List α) :
    addressed id (xs.map fun x => (other, x)) = [] := by
  unfold addressed
  rw [List.filter_eq_nil_iff.mpr (by simpa using fun _ _ => hne)]
  rfl

end

namespace Pipeline

-- The samples that a call of `write` appends before it waits or returns.
def appended (now id : Nat) : List Sample → Pipeline → List Sample
  | [], _ => []
  | s :: rest, p =>
    if !p.accepts then []
    else
      match p.append now s with
      | (none, p) => s :: appended now id rest p
      | (some (trigger, batch), p) =>
        match p.flush id batch (some trigger) with
        | (.sent, p) => s :: appended now id rest p
        | _ => [s]

-- Those that a turn appends of what its call has still to add.
def resumed (p : Pipeline) (now id : Nat) : List Sample :=
  match p.find? id with
  | some (.writing batch rest _) =>
    match p.redeem id batch with
    | (.sent, p) => appended now id rest (p.remove id).senderGone
    | _ => []
  | _ => []

-- Where a call of `write` stands that has added these samples and was given these answers. It
-- fails only if `shut` holds.
inductive Progress (id : Nat) (samples : List Sample) (shut : Prop) (p : Pipeline) :
    List Sample → List Result → Prop
  | waits {taken rest : List Sample} {batch : Batch} {total : Nat}
      (hown : p.own id = [(id, .writing batch rest total)]) (hall : taken ++ rest = samples) :
      Progress id samples shut p taken []
  | ends {total : Nat} (hown : p.own id = []) :
      Progress id samples shut p samples [.ok (.wrote total)]
  | fails {taken : List Sample} (hown : p.own id = []) (hfirst : taken <+: samples)
      (hshut : shut) : Progress id samples shut p taken [.error .shuttingDown]

-- Nothing more gets into the queue, by way of the open batch or at all.
def Barred (p : Pipeline) : Prop := p.accepts = false ∨ p.intake.closed = true

section

variable {id now : Nat} {p q : Pipeline} {samples taken more : List Sample}
  {answers : List Result} {shut shut' : Prop} {hand last : Hand} {offer : Offer} {batch : Batch}

theorem Progress.append (h : Progress id samples shut p more answers) (taken : List Sample) :
    Progress id (taken ++ samples) shut p (taken ++ more) answers := by
  cases h with
  | waits hown hall => exact .waits hown (by rw [List.append_assoc, hall])
  | ends hown => exact .ends hown
  | fails hown hfirst hshut =>
    exact .fails hown ((List.prefix_append_right_inj taken).mpr hfirst) hshut

theorem Progress.isPrefix (h : Progress id samples shut p taken answers) : taken <+: samples := by
  cases h with
  | waits hown hall => exact ⟨_, hall⟩
  | ends hown => exact List.prefix_refl samples
  | fails hown hfirst hshut => exact hfirst

theorem Progress.mono (h : Progress id samples shut p taken answers)
    (hown : q.own id = p.own id) (hshut : shut → shut') :
    Progress id samples shut' q taken answers := by
  cases h with
  | waits hhere hall => exact .waits (hown.trans hhere) hall
  | ends hgone => exact .ends (hown.trans hgone)
  | fails hgone hfirst h => exact .fails (hown.trans hgone) hfirst (hshut h)

theorem closed_of_flush {trigger : Option Trigger}
    (h : p.flush id batch trigger = (.refused, q)) : q.intake.closed = true := by
  rw [(trace_flush h).silent.queue]
  simp only [flush, Prod.mk.injEq] at h
  exact Intake.closed_of_offer h.1

theorem closed_of_redeem (h : p.redeem id batch = (.refused, q)) : q.intake.closed = true := by
  rw [(trace_redeem h).silent.queue]
  simp only [redeem, Prod.mk.injEq] at h
  exact Intake.closed_of_redeem h.1

-- One call, by induction on the samples.
theorem write_progress (now total : Nat) (samples : List Sample) (hd : p.Distinct)
    (hnew : p.own id = []) :
    Progress id samples (write now id total samples p).2.Barred (write now id total samples p).2
      (appended now id samples p) (write now id total samples p).1.toList := by
  induction samples generalizing p with
  | nil => exact .ends hnew
  | cons s rest ih =>
    unfold write appended
    by_cases ha : p.accepts = true
    · rw [ha, Bool.not_true, if_neg Bool.false_ne_true, if_neg Bool.false_ne_true]
      cases happend : p.append now s with
      | mk closed q =>
        have hdq := (append_carries id ha happend).distinct hd
        have hown : q.own id = [] := (own_congr (activities_append happend)).trans hnew
        cases closed with
        | none => exact (ih hdq hown).append [s]
        | some closed =>
          obtain ⟨trigger, batch⟩ := closed
          dsimp only
          cases hflush : q.flush id batch (some trigger) with
          | mk offer r =>
            have hdr := (flush_carries hflush).distinct hdq
            have hgone : r.own id = [] := (own_congr (activities_flush hflush)).trans hown
            cases offer with
            | sent => exact (ih hdr hgone).append [s]
            | refused =>
              exact .fails hgone (List.prefix_append [s] rest) (.inr (closed_of_flush hflush))
            | mustWait => exact .waits (own_set hdr id _) rfl
    · rw [Bool.not_eq_true] at ha
      rw [ha, Bool.not_false, if_pos rfl, if_pos rfl]
      exact .fails hnew List.nil_prefix (.inl ha)

-- A turn of a call that waits.
theorem turn_progress (l : Link) {rest : List Sample} {total : Nat} (hd : p.Distinct)
    (hown : p.own id = [(id, .writing batch rest total)]) :
    Progress id rest (p.turn l id).2.1.Barred (p.turn l id).2.1 (p.resumed l.now id)
      (p.turn l id).1.toList := by
  have hmem : (id, .writing batch rest total) ∈ p.own id := by simp [hown]
  have hfind := find?_of_mem hd (mem_own_iff.mp hmem).1
  unfold turn resumed
  rw [hfind]
  dsimp only
  cases hredeem : p.redeem id batch with
  | mk offer q =>
    have hdq := (trace_redeem hredeem).distinct hd
    cases offer with
    | sent =>
      have hgone := (shifts_remove id q).trans (shifts_senderGone id _)
      exact write_progress l.now total rest (hgone.distinct hdq)
        ((own_senderGone _ id).trans (own_remove q id))
    | refused =>
      have hgone := (shifts_finish id q).trans (shifts_senderGone id _)
      exact .fails ((own_senderGone _ id).trans (own_finish q id)) List.nil_prefix
        (.inr (hgone.queue.trans (closed_of_redeem hredeem)))
    | mustWait =>
      rw [redeem_mustWait hredeem]
      exact .waits hown (List.nil_append rest)

-- What has no activity has no turn.
theorem turn_gone (l : Link) (hgone : p.own id = []) :
    p.turn l id = (none, p, l) ∧ p.resumed l.now id = [] := by
  have hfind : p.find? id = none :=
    Option.map_eq_none_iff.mpr (List.find?_eq_none.mpr (List.filter_eq_nil_iff.mp hgone))
  refine ⟨turn_of_none l hfind, ?_⟩
  unfold resumed
  rw [hfind]

-- What is counted.

theorem accepted_append {s : Sample} {closed : Option (Trigger × Batch)}
    (h : p.append now s = (closed, q)) :
    q.record.stats.accepted = p.record.stats.accepted + 1 := by
  unfold append at h
  dsimp only at h
  split at h <;> cases h <;> rfl

theorem record_endIntake {last : Option Batch} (h : p.endIntake now = (last, q)) :
    q.record = p.record := by
  unfold endIntake at h
  cases h
  generalize Option.isNone _ = gone
  cases gone with
  | true => exact (shifts_senderGone 0 _).record
  | false => rfl

theorem Trace.accepted (h : Trace id p hand taken q last) :
    q.record.stats.accepted = p.record.stats.accepted + taken.length := by
  induction h with
  | stop => rfl
  | shift h _ ih => rw [ih, h.record]
  | count h _ ih =>
    rw [ih]
    exact congrArg (· + _) h.accepted
  | append _ h _ ih =>
    rw [ih, accepted_append h, List.length_cons]
    omega
  | expire h _ ih => rw [ih, record_expire h]
  | @offer p r batch offer intake last taken h hrefused _ ih =>
    rw [ih]
    cases offer <;> rfl
  | endIntake _ h _ ih => rw [ih, record_endIntake h]
  | giveUp _ ih => exact ih

theorem Turned.accepted (h : Turned id p hand [] q) :
    q.record.stats.accepted = p.record.stats.accepted := by
  obtain ⟨taken, left, last, hnone, htrace, _⟩ := h
  rw [htrace.accepted, (List.append_eq_nil_iff.mp hnone).1]
  rfl

theorem accepted_flush {trigger : Option Trigger} (h : p.flush id batch trigger = (offer, q)) :
    q.record.stats.accepted = p.record.stats.accepted :=
  (trace_flush h).accepted

-- What a call of `write` appends is what goes into the open batch, in that order.
theorem write_trace (now id total : Nat) (samples : List Sample) (p : Pipeline) :
    ∃ last, Trace id p .empty (appended now id samples p) (write now id total samples p).2 last := by
  induction samples generalizing p with
  | nil => exact ⟨.empty, .stop _ _⟩
  | cons s rest ih =>
    unfold write appended
    by_cases ha : p.accepts = true
    · rw [ha, Bool.not_true, if_neg Bool.false_ne_true, if_neg Bool.false_ne_true]
      cases happend : p.append now s with
      | mk closed q =>
        have happended := trace_append id ha happend
        cases closed with
        | none =>
          obtain ⟨last, hrest⟩ := ih q
          exact ⟨last, happended.trans hrest⟩
        | some closed =>
          obtain ⟨trigger, batch⟩ := closed
          dsimp only
          cases hflush : q.flush id batch (some trigger) with
          | mk offer r =>
            have hflushed := happended.trans (trace_flush hflush)
            cases offer with
            | sent =>
              obtain ⟨last, hrest⟩ := ih r
              exact ⟨last, hflushed.trans hrest⟩
            | refused => exact ⟨_, hflushed⟩
            | mustWait => exact ⟨_, hflushed.trans ((shifts_set id r _).trace _)⟩
    · rw [Bool.not_eq_true] at ha
      rw [ha, Bool.not_false, if_pos rfl, if_pos rfl]
      exact ⟨.empty, .stop _ _⟩

theorem write_accepted (now id total : Nat) (samples : List Sample) (p : Pipeline) :
    (write now id total samples p).2.record.stats.accepted =
      p.record.stats.accepted + (appended now id samples p).length := by
  obtain ⟨_, htrace⟩ := write_trace now id total samples p
  exact htrace.accepted

theorem add_accepted (now id : Nat) (s : Sample) (p : Pipeline) :
    (p.add now id s).2.record.stats.accepted =
      p.record.stats.accepted + if p.accepts then 1 else 0 := by
  unfold add
  by_cases ha : p.accepts = true
  · rw [ha, Bool.not_true, if_neg Bool.false_ne_true, if_pos rfl]
    cases happend : p.append now s with
    | mk closed q =>
      have hcount := accepted_append happend
      cases closed with
      | none => exact hcount
      | some closed =>
        obtain ⟨trigger, batch⟩ := closed
        dsimp only
        cases hflush : q.flush id batch (some trigger) with
        | mk offer r =>
          have hsame := accepted_flush hflush
          cases offer with
          | sent => exact hsame.trans hcount
          | refused => exact hsame.trans hcount
          | mustWait =>
            dsimp only
            rw [(shifts_set id r _).record]
            exact hsame.trans hcount
  · rw [Bool.not_eq_true] at ha
    rw [ha, Bool.not_false, if_pos rfl, if_neg Bool.false_ne_true]
    rfl

theorem tryAdd_accepted (now id : Nat) (s : Sample) (p : Pipeline) :
    (p.tryAdd now id s).2.record.stats.accepted =
      p.record.stats.accepted + if (p.tryAdd now id s).1.isOk then 1 else 0 := by
  unfold tryAdd
  split
  · rfl
  · split
    · rfl
    · split
      · rfl
      · split
        · rfl
        · split
          · rename_i happend
            exact accepted_append happend
          · rename_i q happend
            exact (accepted_flush rfl).trans (accepted_append happend)

-- Nobody but who is in the middle of a call of `write` has anything left to add.

theorem resumed_eq_nil {a : Activity} (hfind : p.find? id = some a)
    (ha : ∀ batch rest total, a ≠ .writing batch rest total) : p.resumed now id = [] := by
  unfold resumed
  rw [hfind]
  cases a with
  | writing batch rest total => exact absurd rfl (ha batch rest total)
  | _ => rfl

theorem rest_eq_nil {a : Activity} (ha : ∀ batch rest total, a ≠ .writing batch rest total) :
    a.rest = [] := by
  cases a with
  | writing batch rest total => exact absurd rfl (ha batch rest total)
  | _ => rfl

theorem writing_accepted {rest : List Sample} {total : Nat} (l : Link)
    (hfind : p.find? id = some (.writing batch rest total)) :
    (p.turn l id).2.1.record.stats.accepted =
      p.record.stats.accepted + (p.resumed l.now id).length := by
  unfold turn resumed
  rw [hfind]
  dsimp only
  cases hredeem : p.redeem id batch with
  | mk offer q =>
    have hsame := (trace_redeem hredeem).accepted
    cases offer with
    | sent =>
      have hgone := (shifts_remove id q).trans (shifts_senderGone id _)
      dsimp only
      rw [write_accepted, hgone.record]
      exact congrArg (· + _) hsame
    | refused =>
      have hgone := (shifts_finish id q).trans (shifts_senderGone id _)
      dsimp only
      rw [hgone.record]
      exact hsame
    | mustWait => exact hsame

-- Workers and the shutdown take nothing in.

theorem accepted_noted :
    Record.Noted fun r r' => r'.stats.accepted = r.stats.accepted where
  refl _ := rfl
  trans h h' := h'.trans h
  takeDown target r owed note := by
    cases note with
    | settled written dropped reason left =>
      unfold Delivery.takeDown
      dsimp only
      split <;> rfl
    | retrying => rfl
    | failed samples attempts error => rfl

theorem Heads.accepted {result : Option Result} (h : Heads id p hand result q) :
    q.record.stats.accepted = p.record.stats.accepted := by
  cases h with
  | goesOn h => exact h.accepted
  | @collects q report h =>
    obtain ⟨loss, hrecord⟩ := collect_record q id report
    rw [hrecord]
    refine Eq.trans ?_ h.accepted
    unfold Record.reckon
    split <;> rfl

end

end Pipeline

namespace Course

open Pipeline

-- Whose step it is.
def actor (c : Course) : Event → Nat
  | .turn id => id
  | _ => c.next

-- The samples that a step adds.
def additions (c : Course) : Event → List Sample
  | .add s => if c.pipeline.accepts then [s] else []
  | .write samples => appended c.link.now c.next samples c.pipeline
  | .tryAdd s => if (c.pipeline.tryAdd c.link.now c.next s).1.isOk then [s] else []
  | .turn id => c.pipeline.resumed c.link.now id
  | .flushExpired | .shutDown | .world _ => []

-- What the call is answered whose step it is.
def reply (c : Course) : Event → Option Result
  | .add s => (c.pipeline.add c.link.now c.next s).1
  | .write samples => (Pipeline.write c.link.now c.next samples.length samples c.pipeline).1
  | .tryAdd s => some (c.pipeline.tryAdd c.link.now c.next s).1
  | .flushExpired => (c.pipeline.flushExpired c.link.now c.next).1
  | .turn id => (c.pipeline.turn c.link id).1
  | .shutDown =>
    match c.ending with
    | .notBegun => (c.pipeline.shutDown c.link c.next).1
    | _ => none
  | .world _ => none

def admitted (c : Course) (e : Event) : List (Nat × Sample) :=
  (c.additions e).map fun s => (c.actor e, s)

def answers (c : Course) (e : Event) : List (Nat × Result) :=
  (c.reply e).toList.map fun r => (c.actor e, r)

theorem addressed_admitted (c : Course) (e : Event) :
    addressed (c.actor e) (c.admitted e) = c.additions e :=
  addressed_self _

theorem addressed_answers (c : Course) (e : Event) :
    addressed (c.actor e) (c.answers e) = (c.reply e).toList :=
  addressed_self _

-- What the steps of a run have to show, one after the other.
def throughout {α : Type} (f : Course → Event → List α) (c : Course) : List Event → List α
  | [] => []
  | e :: rest => f c e ++ (c.step e).throughout f rest

section

variable {c : Course} {id : Nat} {e : Event} {samples taken : List Sample}
  {given : List Result} {a : Activity}

theorem turn_accepted (hc : c.Sound) (id : Nat) :
    (c.pipeline.turn c.link id).2.1.record.stats.accepted =
      c.pipeline.record.stats.accepted + (c.pipeline.resumed c.link.now id).length := by
  cases hfind : c.pipeline.find? id with
  | none =>
    rw [turn_of_none c.link hfind]
    unfold resumed
    rw [hfind]
    rfl
  | some a =>
    have hd := hc.distinct
    by_cases hwrites : ∃ batch rest total, a = .writing batch rest total
    · obtain ⟨batch, rest, total, rfl⟩ := hwrites
      exact writing_accepted c.link hfind
    · have ha : ∀ batch rest total, a ≠ .writing batch rest total :=
        fun batch rest total heq => hwrites ⟨batch, rest, total, heq⟩
      rw [resumed_eq_nil hfind ha]
      have hcarries : a.role = .client ∨ a.role = .timer →
          (c.pipeline.turn c.link id).2.1.record.stats.accepted =
            c.pipeline.record.stats.accepted := by
        intro hr
        have hturned := turn_turned c.link hd hfind hr
        rw [rest_eq_nil ha] at hturned
        exact hturned.accepted
      cases hrole : a.role with
      | client => exact hcarries (.inl hrole)
      | timer => exact hcarries (.inr hrole)
      | shutdown =>
        obtain ⟨_, stage, rfl, hat⟩ := ending_of_role hc (mem_of_find? hfind) hrole
        rw [turn_of_ending c.link hfind]
        exact (endOn_heads c.link hd hat).accepted
      | worker =>
        cases a with
        | working stage =>
          rw [turn_of_working c.link hfind]
          exact (workOn_works accepted_noted c.link stage).record
        | _ => cases hrole

-- Every sample that is counted as accepted was added by some call, and the other way round.
theorem step_accepted (hc : c.Sound) (e : Event) :
    (c.step e).pipeline.record.stats.accepted =
      c.pipeline.record.stats.accepted + (c.admitted e).length := by
  unfold admitted
  rw [List.length_map]
  cases e with
  | add s =>
    refine (add_accepted _ _ s c.pipeline).trans (congrArg _ ?_)
    unfold additions
    dsimp only
    split <;> rfl
  | write samples => exact write_accepted _ _ _ samples c.pipeline
  | tryAdd s =>
    refine (tryAdd_accepted _ _ s c.pipeline).trans (congrArg _ ?_)
    unfold additions
    dsimp only
    split <;> rfl
  | flushExpired => exact (flushExpired_turned _ hc.distinct (own_next hc)).accepted
  | turn id => exact turn_accepted hc id
  | shutDown =>
    unfold step
    dsimp only
    split
    · rename_i hending
      have hduring := hc.during
      rw [hending] at hduring
      exact (shutDown_heads c.link hc.distinct hduring.1).accepted
    · rfl
  | world l => rfl

theorem after_accepted (hc : c.Sound) (events : List Event) :
    (c.after events).pipeline.record.stats.accepted =
      c.pipeline.record.stats.accepted + (c.throughout admitted events).length := by
  induction events generalizing c with
  | nil => rfl
  | cons e rest ih =>
    have hrest := ih (step_sound hc e)
    rw [step_accepted hc e] at hrest
    refine hrest.trans ?_
    rw [throughout, List.length_append, Nat.add_assoc]

end

end Course

end MetricRelay.Write
