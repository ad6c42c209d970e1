import MetricRelay.Proofs.Write.Trace

-- Whose turn it is, and what becomes of it. Only workers ask the store for anything; everybody else
-- sets timers at most.

namespace MetricRelay

-- The store has been asked for nothing.
structure Store.Link.Spares (l l' : Store.Link) : Prop where
  store : l'.store = l.store
  rehearsals : l'.rehearsals = l.rehearsals

theorem Store.Link.Spares.trans {l l' l'' : Store.Link} (h : l.Spares l') (h' : l'.Spares l'') :
    l.Spares l'' :=
  ⟨h'.store.trans h.store, h'.rehearsals.trans h.rehearsals⟩

namespace Write

open Store (Link)

namespace Pipeline

theorem tick_spares (id : Nat) (period : Duration) (fuel overtime due : Nat) (p : Pipeline)
    (l : Link) : l.Spares (tick id period fuel overtime due p l).2.2 := by
  induction fuel generalizing overtime due p with
  | zero => exact ⟨rfl, rfl⟩
  | succ fuel ih =>
    unfold tick
    split
    · exact ⟨rfl, rfl⟩
    · split
      · exact ⟨rfl, rfl⟩
      · dsimp only
        split
        · exact ih _ _ _
        · split
          · exact ⟨rfl, rfl⟩
          · exact ih _ _ _

theorem beginCollect_spares (p : Pipeline) (l : Link) (id : Nat) (report : Loss) :
    l.Spares (p.beginCollect l id report).2.2 := by
  unfold beginCollect
  split <;> exact ⟨rfl, rfl⟩

theorem beginDismiss_spares (p : Pipeline) (l : Link) (id : Nat) (workers : List Nat)
    (report : Loss) : l.Spares (p.beginDismiss l id workers report).2.2 := by
  unfold beginDismiss
  dsimp only
  split
  · exact ⟨rfl, rfl⟩
  · exact beginCollect_spares _ l id report

theorem drain_spares (p : Pipeline) (l : Link) (id deadline : Nat) (report : Loss) :
    l.Spares (p.drain l id deadline report).2.2 := by
  have hset : l.Spares (l.setTimer deadline).2 := ⟨rfl, rfl⟩
  unfold drain
  dsimp only
  split
  · exact beginCollect_spares _ l id report
  · split
    · exact hset.trans (beginDismiss_spares _ _ id p.workers report)
    · exact hset

theorem close_spares (p : Pipeline) (l : Link) (id deadline : Nat) :
    l.Spares (p.close l id deadline).2.2 := by
  unfold close
  split
  · exact ⟨rfl, rfl⟩
  · split
    · exact ⟨rfl, rfl⟩
    · exact ⟨rfl, rfl⟩
    · dsimp only
      split <;> exact ⟨rfl, rfl⟩

theorem beginClose_spares (p : Pipeline) (l : Link) (id deadline : Nat) :
    l.Spares (p.beginClose l id deadline).2.2 := by
  have hclosed := close_spares p l id deadline
  unfold beginClose
  split
  · rename_i hclose
    rw [hclose] at hclosed
    exact hclosed.trans (drain_spares _ _ id deadline _)
  · rename_i hclose
    rw [hclose] at hclosed
    exact hclosed.trans (drain_spares _ _ id deadline _)
  · rename_i hclose
    rw [hclose] at hclosed
    split <;> exact hclosed

theorem shutDown_spares (p : Pipeline) (l : Link) (id : Nat) :
    l.Spares (p.shutDown l id).2.2 := by
  unfold shutDown
  dsimp only
  split
  · exact beginClose_spares _ l id _
  · split
    · exact ⟨rfl, rfl⟩
    · exact beginClose_spares _ l id _

theorem endOn_spares (p : Pipeline) (l : Link) (id : Nat) (stage : ShutdownStage) :
    l.Spares (p.endOn l id stage).2.2 := by
  unfold endOn
  cases stage with
  | awaitingTimer deadline timer =>
    dsimp only
    split
    · exact ⟨rfl, rfl⟩
    · exact beginClose_spares p l id deadline
  | closing deadline batch limit =>
    dsimp only
    split
    · exact drain_spares _ l id deadline _
    · exact drain_spares _ l id deadline _
    · split
      · exact drain_spares _ l id deadline _
      · exact ⟨rfl, rfl⟩
  | joining workers report limit =>
    dsimp only
    split
    · exact beginCollect_spares p l id report
    · split
      · exact beginDismiss_spares p l id workers report
      · exact ⟨rfl, rfl⟩
  | dismissing workers report =>
    dsimp only
    split
    · exact beginCollect_spares p l id report
    · exact ⟨rfl, rfl⟩
  | collecting report =>
    dsimp only
    split <;> exact ⟨rfl, rfl⟩

theorem turn_spares {p : Pipeline} {id : Nat} {a : Activity} (l : Link)
    (h : p.find? id = some a) (hr : a.role ≠ .worker) : l.Spares (p.turn l id).2.2 := by
  unfold turn
  rw [h]
  cases a with
  | adding batch trigger | flushing batch trigger | writing batch rest total =>
    dsimp only
    split <;> exact ⟨rfl, rfl⟩
  | starting period => exact tick_spares id period _ _ _ p l
  | ticking period due next =>
    dsimp only
    split
    · exact ⟨rfl, rfl⟩
    · exact tick_spares id period _ _ _ p l
  | tickFlushing period due batch =>
    dsimp only
    split
    · exact ⟨rfl, rfl⟩
    · exact tick_spares id period _ _ _ _ l
  | closing batch limit =>
    dsimp only
    split
    · exact ⟨rfl, rfl⟩
    · exact ⟨rfl, rfl⟩
    · split <;> exact ⟨rfl, rfl⟩
  | ending stage => exact endOn_spares p l id stage
  | working stage => exact absurd rfl hr

end Pipeline

namespace Course

open Pipeline

-- A turn of somebody who may be a client, the age timer, the shutdown or a worker.
inductive Takes (c : Course) (id : Nat) : Option Result → Pipeline → Link → Prop
  | nobody : Takes c id none c.pipeline c.link
  | carries {a : Activity} {result : Option Result} {q : Pipeline} {l : Link}
      (hown : c.pipeline.own id = [(id, a)]) (h : Turned id c.pipeline a.hand a.rest q)
      (hl : c.link.Spares l) (hending : c.ending.after id result = c.ending) :
      Takes c id result q l
  | shutsDown {stage : ShutdownStage} {result : Option Result} {q : Pipeline} {l : Link}
      (hending : c.ending = .underWay id) (hat : c.pipeline.AtStage id stage)
      (h : Heads id c.pipeline (Activity.ending stage).hand result q) (hl : c.link.Spares l) :
      Takes c id result q l
  | works {stage : WorkerStage} (hown : c.pipeline.own id = [(id, .working stage)])
      (hending : c.ending.after id (c.pipeline.workOn c.link id stage).1 = c.ending) :
      Takes c id (c.pipeline.workOn c.link id stage).1 (c.pipeline.workOn c.link id stage).2.1
        (c.pipeline.workOn c.link id stage).2.2

section

variable {c : Course} {id : Nat}

-- The turn of anybody but the shutdown does not end it.
theorem ending_of_turn {a : Activity} (hc : c.Sound) (hfind : c.pipeline.find? id = some a)
    (hr : a.role ≠ .shutdown) (result : Option Result) : c.ending.after id result = c.ending := by
  cases hending : c.ending with
  | notBegun => rfl
  | returned r => rfl
  | underWay shutdown =>
    cases result with
    | none => rfl
    | some r =>
      refine if_neg ?_
      rintro rfl
      have hduring := hc.during
      rw [hending] at hduring
      obtain ⟨stage, hat⟩ := hduring
      have hown := own_eq_of_find? hc.distinct hfind
      rw [hat.here] at hown
      cases hown
      exact hr rfl

theorem turn_takes (hc : c.Sound) (id : Nat) :
    Takes c id (c.pipeline.turn c.link id).1 (c.pipeline.turn c.link id).2.1
      (c.pipeline.turn c.link id).2.2 := by
  cases hfind : c.pipeline.find? id with
  | none =>
    rw [turn_of_none c.link hfind]
    exact .nobody
  | some a =>
    have hown := own_eq_of_find? hc.distinct hfind
    have hcarries : a.role = .client ∨ a.role = .timer → Takes c id
        (c.pipeline.turn c.link id).1 (c.pipeline.turn c.link id).2.1
        (c.pipeline.turn c.link id).2.2 := by
      intro hr
      refine .carries hown (turn_turned c.link hc.distinct hfind hr)
        (turn_spares c.link hfind ?_) (ending_of_turn hc hfind ?_ _)
      · rcases hr with hr | hr <;> simp [hr]
      · rcases hr with hr | hr <;> simp [hr]
    cases hrole : a.role with
    | client => exact hcarries (.inl hrole)
    | timer => exact hcarries (.inr hrole)
    | shutdown =>
      obtain ⟨hending, stage, rfl, hat⟩ := ending_of_role hc (mem_of_find? hfind) hrole
      rw [turn_of_ending c.link hfind]
      exact .shutsDown hending hat (endOn_heads c.link hc.distinct hat)
        (endOn_spares c.pipeline c.link id stage)
    | worker =>
      cases a with
      | working stage =>
        rw [turn_of_working c.link hfind]
        exact .works hown (ending_of_turn hc hfind (by rw [hrole]; simp) _)
      | _ => cases hrole

end

end Course

end Write

end MetricRelay
