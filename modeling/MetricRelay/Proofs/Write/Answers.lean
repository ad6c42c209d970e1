import MetricRelay.Proofs.Write.Admission

-- What becomes of one call of `write` in a run, whatever everybody else does meanwhile. Nobody else
-- adds anything under its number, and as long as no shutdown has begun it cannot fail.

namespace MetricRelay.Write.Course

open Store (Link)
open Pipeline

-- The shutdown closes the accumulator and the queue, and nobody else does.
structure Welcoming (c : Course) : Prop where
  closed : c.ending = .notBegun → c.pipeline.closed = false
  queue : c.ending.isOver = false → c.pipeline.intake.closed = false

section

variable {c : Course} {id : Nat} {e : Event} {samples taken : List Sample} {given : List Result}

theorem notBegun_of_after {ending : Ending} {other : Nat} {result : Option Result}
    (h : ending.after other result = .notBegun) : ending = .notBegun := by
  cases ending with
  | notBegun => rfl
  | underWay shutdown =>
    exact absurd h (begun_after fun hending => by cases hending)
  | returned r => exact absurd h (begun_after fun hending => by cases hending)

-- With no shutdown begun, a step leaves the accumulator as open as it is.
theorem frame_of_notBegun (hc : c.Sound) (h : (c.step e).ending = .notBegun) :
    Frame c.pipeline (c.step e).pipeline := by
  have hd := hc.distinct
  have hnew := own_next hc
  cases e with
  | add s => exact (add_turns _ s hd hnew).toFrame
  | write samples => exact (write_turns _ _ samples hd hnew).toFrame
  | tryAdd s => exact (tryAdd_turns _ s hnew).toFrame
  | flushExpired => exact (flushExpired_turns _ hd hnew).toFrame
  | shutDown => exact absurd h (begun_of_shutDown c)
  | world l => exact .refl _
  | turn id =>
    have hbefore := notBegun_of_after h
    change Frame c.pipeline (c.pipeline.turn c.link id).2.1
    cases hfind : c.pipeline.find? id with
    | none =>
      rw [turn_of_none c.link hfind]
      exact .refl _
    | some a =>
      have ha := mem_of_find? hfind
      refine (turn_turns c.link hd hfind (hc.sound _ ha) fun hr => ?_).toFrame
      rw [(ending_of_role hc ha hr).1] at hbefore
      cases hbefore

theorem step_welcoming (hc : c.Sound) (h : c.Welcoming) (e : Event) : (c.step e).Welcoming := by
  refine ⟨fun hending => ?_, fun hover => ?_⟩
  · have hbefore : c.ending = .notBegun := by
      by_contra hbegun
      exact begun_of_step hbegun hending
    rw [(frame_of_notBegun hc hending).closed]
    exact h.closed hbefore
  · cases step_goes hc e with
    | silent hsame hsilent => rw [hsilent.queue, h.queue (hsame ▸ hover)]
    | works hnot _ hreports => rw [hreports.queue, h.queue hnot]
    | returns _ hreturned => rw [hreturned] at hover; cases hover

theorem after_welcoming (hc : c.Sound) (h : c.Welcoming) (events : List Event) :
    (c.after events).Sound ∧ (c.after events).Welcoming :=
  after_keeps (fun _ e hd hopen => step_welcoming hd hopen e) hc h events

-- What keeps samples out is the shutdown.
theorem begun_of_barred (hc : c.Sound) (h : c.Welcoming) (hbarred : c.pipeline.Barred) :
    c.ending ≠ .notBegun := by
  intro hending
  have hduring := hc.during
  rw [hending] at hduring
  cases hbarred with
  | inl hshut =>
    unfold accepts at hshut
    rw [hduring.1, h.closed hending] at hshut
    cases hshut
  | inr hclosed =>
    rw [h.queue (by rw [hending]; rfl)] at hclosed
    cases hclosed

-- A turn leaves everybody else's activities alone.
theorem others_turn (hc : c.Sound) (other : Nat) :
    (c.pipeline.turn c.link other).2.1.others other = c.pipeline.others other := by
  cases hfind : c.pipeline.find? other with
  | none => rw [turn_of_none c.link hfind]
  | some a =>
    have ha := mem_of_find? hfind
    by_cases hr : a.role = .shutdown
    · obtain ⟨_, stage, rfl, hat⟩ := ending_of_role hc ha hr
      rw [turn_of_ending c.link hfind]
      exact (endOn_ends c.link hc.distinct hat hc.plain).others
    · exact (turn_turns c.link hc.distinct hfind (hc.sound _ ha) hr).moves.others

theorem others_step (hc : c.Sound) (e : Event) :
    (c.step e).pipeline.others (c.actor e) = c.pipeline.others (c.actor e) := by
  have hd := hc.distinct
  have hnew := own_next hc
  cases e with
  | add s => exact (add_turns _ s hd hnew).moves.others
  | write samples => exact (write_turns _ _ samples hd hnew).moves.others
  | tryAdd s => exact (tryAdd_turns _ s hnew).moves.others
  | flushExpired => exact (flushExpired_turns _ hd hnew).moves.others
  | turn id => exact others_turn hc id
  | shutDown =>
    unfold step
    dsimp only
    split
    · rename_i hending
      have hduring := hc.during
      rw [hending] at hduring
      exact (shutDown_ends c.link hd hduring.1 hduring.2 hc.plain).others
    · rfl
  | world l => rfl

-- One step, whoever takes it.
theorem step_progress (hc : c.Sound) (hopen : c.Welcoming) (hid : id < c.next)
    (h : Progress id samples (c.ending ≠ .notBegun) c.pipeline taken given) (e : Event) :
    Progress id samples ((c.step e).ending ≠ .notBegun) (c.step e).pipeline
      (taken ++ addressed id (c.admitted e)) (given ++ addressed id (c.answers e)) := by
  have hbegun : (c.step e).pipeline.Barred → (c.step e).ending ≠ .notBegun :=
    begun_of_barred (step_sound hc e) (step_welcoming hc hopen e)
  by_cases hact : c.actor e = id
  · cases e with
    | turn other =>
      obtain rfl : id = other := hact.symm
      have hadmitted : addressed id (c.admitted (.turn id)) = _ :=
        addressed_admitted c (.turn id)
      have hanswers : addressed id (c.answers (.turn id)) = _ :=
        addressed_answers c (.turn id)
      rw [hadmitted, hanswers]
      by_cases hgone : c.pipeline.own id = []
      · -- it has had its answer
        obtain ⟨hturn, hnothing⟩ := turn_gone c.link hgone
        simp only [additions, reply, hnothing, hturn, Option.toList_none, List.append_nil]
        have hsame : (c.step (.turn id)).pipeline = c.pipeline := congrArg (·.2.1) hturn
        exact h.mono (by rw [hsame]) begun_of_step
      · cases h with
        | @waits _ rest batch total hown hall =>
          have hturn := turn_progress c.link hc.distinct hown
          subst hall
          exact (hturn.mono rfl hbegun).append taken
        | ends hown => exact absurd hown hgone
        | fails hown => exact absurd hown hgone
    | _ => exact absurd hact (Nat.ne_of_gt hid)
  · unfold admitted answers
    rw [addressed_others hact, addressed_others hact, List.append_nil, List.append_nil]
    exact h.mono (own_eq_of_others (others_step hc e) (Ne.symm hact)) begun_of_step

theorem next_step (c : Course) (e : Event) : c.next ≤ (c.step e).next := by
  cases e with
  | shutDown =>
    unfold step
    dsimp only
    split
    · exact Nat.le_succ _
    · exact Nat.le_refl _
  | turn id => exact Nat.le_refl _
  | world l => exact Nat.le_refl _
  | _ => exact Nat.le_succ _

theorem after_progress (hc : c.Sound) (hopen : c.Welcoming) (hid : id < c.next)
    (h : Progress id samples (c.ending ≠ .notBegun) c.pipeline taken given)
    (events : List Event) :
    Progress id samples ((c.after events).ending ≠ .notBegun) (c.after events).pipeline
      (taken ++ addressed id (c.throughout admitted events))
      (given ++ addressed id (c.throughout answers events)) := by
  induction events generalizing c taken given with
  | nil =>
    simp only [throughout, addressed_nil, List.append_nil]
    exact h
  | cons e rest ih =>
    have hstep := ih (step_sound hc e) (step_welcoming hc hopen e)
      (Nat.lt_of_lt_of_le hid (next_step c e)) (step_progress hc hopen hid h e)
    rw [throughout, throughout, addressed_append, addressed_append, ← List.append_assoc,
      ← List.append_assoc]
    exact hstep

-- A call from its first step on.
theorem write_progress_after (hc : c.Sound) (hopen : c.Welcoming) (samples : List Sample)
    (more : List Event) :
    let events := Event.write samples :: more
    Progress c.next samples ((c.after events).ending ≠ .notBegun) (c.after events).pipeline
      (addressed c.next (c.throughout admitted events))
      (addressed c.next (c.throughout answers events)) := by
  intro events
  have hfirst := write_progress c.link.now samples.length samples hc.distinct (own_next hc)
  have hsound := step_sound hc (.write samples)
  have hopen' := step_welcoming hc hopen (.write samples)
  have hstep := after_progress hsound hopen' (Nat.lt_succ_self c.next)
    (hfirst.mono rfl (begun_of_barred hsound hopen')) more
  have hadmitted : addressed c.next (c.admitted (.write samples)) = _ :=
    addressed_admitted c (.write samples)
  have hanswers : addressed c.next (c.answers (.write samples)) = _ :=
    addressed_answers c (.write samples)
  rw [throughout, throughout, addressed_append, addressed_append, hadmitted, hanswers]
  exact hstep

end

-- A course that begins has taken nothing in yet, and is open.
theorem begin_welcoming {config : Config} (hv : config.validate = .ok ()) (target : String)
    (l : Link) (first : Nat) : ∃ c, begin config target l first = .ok c ∧ c.Sound ∧
      c.Welcoming ∧ c.pipeline.record.stats.accepted = 0 := by
  obtain ⟨c, hbegin, hc⟩ := begin_sound hv target l first
  refine ⟨c, hbegin, hc, ?_⟩
  unfold begin Pipeline.start at hbegin
  rw [hv] at hbegin
  cases hbegin
  exact ⟨⟨fun _ => rfl, fun _ => rfl⟩, rfl⟩

end MetricRelay.Write.Course
