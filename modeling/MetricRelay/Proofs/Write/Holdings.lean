import Mathlib.Algebra.Ring.Nat
import MetricRelay.Proofs.Write.Delivery
import MetricRelay.Write.Pipeline

-- Where the samples of a pipeline are, and how they move while one activity has its turn: what it
-- has in its hands comes from somewhere and goes somewhere, and nobody else's samples are touched.

namespace MetricRelay.Write

-- No batches, no samples.
def Loss.Plain (l : Loss) : Prop := l.batches = 0 → l.samples = 0

inductive Role
  | client
  | timer
  | shutdown
  | worker
deriving DecidableEq

namespace Activity

def role : Activity → Role
  | .adding _ _ => .client
  | .writing _ _ _ => .client
  | .flushing _ _ => .client
  | .starting _ => .timer
  | .ticking _ _ _ => .timer
  | .tickFlushing _ _ _ => .timer
  | .closing _ _ => .shutdown
  | .ending _ => .shutdown
  | .working _ => .worker

-- Samples of a closed batch that waits for room in the queue.
def waiting (a : Activity) : Nat := (a.held?.map Batch.size).getD 0

-- Samples of a batch on its way to the store that are not settled yet.
def unsettled : Activity → Nat
  | .working (.delivering _ n _) => n
  | _ => 0

-- What a shutdown will report as lost, as far as it knows.
def report : Activity → Loss
  | .ending (.joining _ report _) => report
  | .ending (.dismissing _ report) => report
  | .ending (.collecting report) => report
  | _ => .none

def samples (a : Activity) : Nat := a.waiting + a.unsettled + a.report.samples

-- Nobody has samples in hand in two ways.

theorem samples_of_held {a : Activity} {batch : Batch} (h : a.held? = some batch) :
    a.samples = batch.size := by
  unfold held? at h
  split at h <;> cases h <;> rfl

theorem samples_delivering (batch : Batch) (owed : Nat)
    (s : Store.Suspended Delivery.Note Delivery) :
    (Activity.working (.delivering batch owed s)).samples = owed := by
  simp [samples, waiting, held?, unsettled, report, Loss.none]

theorem samples_of_report {a : Activity} (hw : a.waiting = 0) (hu : a.unsettled = 0) :
    a.samples = a.report.samples := by
  unfold samples
  omega

-- What a delivery has left to do is what its count of unsettled samples says.
def Sound (target : String) : Activity → Prop
  | .working (.delivering _ n s) => ∃ docs soFar, Delivery.Settles target n docs soFar s.rest
  | _ => True

end Activity

namespace Pipeline

def held (activities : List (Nat × Activity)) : Nat := (activities.map fun e => e.2.samples).sum

def others (p : Pipeline) (id : Nat) : List (Nat × Activity) :=
  p.activities.filter fun e => e.1 != id

def own (p : Pipeline) (id : Nat) : List (Nat × Activity) :=
  p.activities.filter fun e => e.1 == id

def queued (p : Pipeline) : Nat := (p.intake.batches.map Batch.size).sum

-- Samples that are in nobody's hands.
def placed (p : Pipeline) : Nat := p.pending + p.queued + p.record.stats.settled

def Distinct (p : Pipeline) : Prop := (p.activities.map Prod.fst).Nodup

theorem held_own_add_held_others (p : Pipeline) (id : Nat) :
    held (p.own id) + held (p.others id) = held p.activities := by
  unfold held own others
  induction p.activities with
  | nil => rfl
  | cons e rest ih =>
    rw [List.filter_cons, List.filter_cons]
    by_cases he : e.1 = id <;> simp [he] at ih ⊢ <;> omega

theorem mem_own_iff {p : Pipeline} {id : Nat} {e : Nat × Activity} :
    e ∈ p.own id ↔ e ∈ p.activities ∧ e.1 = id := by
  simp [own]

theorem mem_others_iff {p : Pipeline} {id : Nat} {e : Nat × Activity} :
    e ∈ p.others id ↔ e ∈ p.activities ∧ e.1 ≠ id := by
  simp [others]

-- An activity that has a number has it for itself.
theorem own_eq_of_find? {p : Pipeline} {id : Nat} {a : Activity} (hd : p.Distinct)
    (h : p.find? id = some a) : p.own id = [(id, a)] := by
  unfold Distinct at hd
  unfold find? at h
  unfold own
  generalize p.activities = l at hd h ⊢
  induction l with
  | nil => cases h
  | cons e rest ih =>
    obtain ⟨hfresh, hrest⟩ := List.nodup_cons.mp hd
    by_cases he : e.1 = id
    · have hnone : rest.filter (fun e => e.1 == id) = [] := by
        refine List.filter_eq_nil_iff.mpr fun other ho hid => hfresh ?_
        rw [he, ← beq_iff_eq.mp hid]
        exact List.mem_map_of_mem ho
      rw [List.find?_cons_of_pos (by simpa using he)] at h
      rw [List.filter_cons_of_pos (by simpa using he), hnone]
      cases h
      rw [← he]
    · rw [List.find?_cons_of_neg (by simpa using he)] at h
      rw [List.filter_cons_of_neg (by simpa using he)]
      exact ih hrest h

theorem mem_of_find? {p : Pipeline} {id : Nat} {a : Activity} (h : p.find? id = some a) :
    (id, a) ∈ p.activities := by
  obtain ⟨e, he, rfl⟩ := Option.map_eq_some_iff.mp h
  have hid := List.find?_some he
  rw [← beq_iff_eq.mp hid]
  exact List.mem_of_find?_eq_some he

-- Setting, removing and finishing an activity.

theorem find?_of_mem {p : Pipeline} {id : Nat} {a : Activity} (hd : p.Distinct)
    (h : (id, a) ∈ p.activities) : p.find? id = some a := by
  cases hfind : p.find? id with
  | none =>
    have hnone := Option.map_eq_none_iff.mp hfind
    have hne := List.find?_eq_none.mp hnone (id, a) h
    simp at hne
  | some b =>
    have hown := own_eq_of_find? hd hfind
    have hmem := mem_own_iff.mpr ⟨h, rfl⟩
    rw [hown, List.mem_singleton] at hmem
    cases hmem
    rfl

private theorem others_replace (id : Nat) (a : Activity) (l : List (Nat × Activity)) :
    (l.map fun e => if e.1 = id then (id, a) else e).filter (fun e => e.1 != id) =
      l.filter fun e => e.1 != id := by
  induction l with
  | nil => rfl
  | cons e rest ih =>
    rw [List.map_cons]
    by_cases he : e.1 = id <;> simp [he, ih]

private theorem keys_replace (id : Nat) (a : Activity) (l : List (Nat × Activity)) :
    (l.map fun e => if e.1 = id then (id, a) else e).map Prod.fst = l.map Prod.fst := by
  rw [List.map_map]
  refine List.map_congr_left fun e _ => ?_
  by_cases he : e.1 = id <;> simp [he]

theorem others_set (p : Pipeline) (id : Nat) (a : Activity) :
    (p.set id a).others id = p.others id := by
  unfold set others
  split
  · exact others_replace id a p.activities
  · simp

theorem distinct_set {p : Pipeline} (hd : p.Distinct) (id : Nat) (a : Activity) :
    (p.set id a).Distinct := by
  unfold set Distinct
  split
  · rw [keys_replace]
    exact hd
  · rename_i hnew
    rw [List.map_append, List.nodup_append]
    refine ⟨hd, by simp, fun x hx y hy => ?_⟩
    obtain ⟨e, he, rfl⟩ := List.mem_map.mp hx
    rw [List.mem_singleton.mp hy]
    intro heq
    exact hnew (List.any_eq_true.mpr ⟨e, he, by simpa using heq⟩)

theorem find?_set (p : Pipeline) (id : Nat) (a : Activity) : (p.set id a).find? id = some a := by
  unfold set find?
  split
  · rename_i hactive
    unfold isActive at hactive
    generalize p.activities = l at hactive ⊢
    induction l with
    | nil => cases hactive
    | cons e rest ih =>
      rw [List.map_cons]
      by_cases he : e.1 = id
      · simp [he]
      · simp only [he, if_false]
        rw [List.find?_cons_of_neg (by simpa using he)]
        rw [List.any_cons, Bool.or_eq_true] at hactive
        exact ih (hactive.resolve_left (by simpa using he))
  · rename_i hnew
    have hnone : p.activities.find? (fun e => e.1 == id) = none := by
      refine List.find?_eq_none.mpr fun e he hid => hnew ?_
      exact List.any_eq_true.mpr ⟨e, he, hid⟩
    simp [List.find?_append, hnone]

theorem own_set {p : Pipeline} (hd : p.Distinct) (id : Nat) (a : Activity) :
    (p.set id a).own id = [(id, a)] :=
  own_eq_of_find? (distinct_set hd id a) (find?_set p id a)

theorem set_same {p : Pipeline} {id : Nat} {a : Activity} (hd : p.Distinct)
    (hfind : p.find? id = some a) : p.set id a = p := by
  have ha := mem_of_find? hfind
  have hactive : p.isActive id = true := List.any_eq_true.mpr ⟨_, ha, by simp⟩
  have hsame : p.activities.map (fun e => if e.1 = id then (id, a) else e) = p.activities := by
    refine (List.map_congr_left fun e he => ?_).trans (List.map_id p.activities)
    by_cases hid : e.1 = id
    · have hmem := mem_own_iff.mpr ⟨he, hid⟩
      rw [own_eq_of_find? hd hfind, List.mem_singleton] at hmem
      rw [if_pos hid, hmem]
      rfl
    · rw [if_neg hid]
      rfl
  unfold set
  rw [if_pos hactive, hsame]

theorem others_remove (p : Pipeline) (id : Nat) : (p.remove id).others id = p.others id := by
  unfold remove others
  rw [List.filter_filter]
  simp

theorem own_remove (p : Pipeline) (id : Nat) : (p.remove id).own id = [] := by
  unfold remove own
  rw [List.filter_filter]
  exact List.filter_eq_nil_iff.mpr fun e _ => by simp

theorem distinct_remove {p : Pipeline} (hd : p.Distinct) (id : Nat) : (p.remove id).Distinct :=
  hd.sublist (List.filter_sublist.map Prod.fst)

-- Moving samples.

-- Going from `p` with `n` samples in the hands of an activity to `q` with `m`, none are lost, and
-- nothing happens to the other activities.
structure Moves (id : Nat) (p : Pipeline) (n : Nat) (q : Pipeline) (m : Nat) : Prop where
  balance : q.placed + m + p.record.stats.accepted = p.placed + n + q.record.stats.accepted
  others : q.others id = p.others id
  distinct : p.Distinct → q.Distinct
  target : q.target = p.target

theorem Moves.refl (id : Nat) (p : Pipeline) (n : Nat) : Moves id p n p n :=
  ⟨rfl, rfl, fun hd => hd, rfl⟩

theorem Moves.trans {id : Nat} {p q r : Pipeline} {n m k : Nat} (h : Moves id p n q m)
    (h' : Moves id q m r k) : Moves id p n r k := by
  refine ⟨?_, h'.others.trans h.others, fun hd => h'.distinct (h.distinct hd),
    h'.target.trans h.target⟩
  have hb := h.balance
  have hb' := h'.balance
  omega

-- What nobody but a shutdown changes. A closed pipeline takes nothing in, and a closed queue
-- that is empty stays so.
structure Frame (p q : Pipeline) : Prop where
  closed : q.closed = p.closed
  hasSender : q.hasSender = p.hasSender
  timer : q.timer = p.timer
  workers : q.workers = p.workers
  batch : p.closed = true → q.batch = p.batch
  intake : p.intake.closed = true → p.intake.batches = [] →
    q.intake.closed = true ∧ q.intake.batches = []

theorem Frame.refl (p : Pipeline) : Frame p p :=
  ⟨rfl, rfl, rfl, rfl, fun _ => rfl, fun hc hb => ⟨hc, hb⟩⟩

theorem Frame.trans {p q r : Pipeline} (h : Frame p q) (h' : Frame q r) : Frame p r where
  closed := h'.closed.trans h.closed
  hasSender := h'.hasSender.trans h.hasSender
  timer := h'.timer.trans h.timer
  workers := h'.workers.trans h.workers
  batch hc := (h'.batch (h.closed.trans hc)).trans (h.batch hc)
  intake hc hb := h'.intake (h.intake hc hb).1 (h.intake hc hb).2

-- What clients, the timer and workers do between taking samples up and putting them down.
structure Carries (id : Nat) (p : Pipeline) (n : Nat) (q : Pipeline) (m : Nat) : Prop
    extends Moves id p n q m, Frame p q where
  lost : q.lost = p.lost

section

variable {id : Nat} {p q r : Pipeline} {n m k : Nat}

theorem Carries.refl (id : Nat) (p : Pipeline) (n : Nat) : Carries id p n p n :=
  ⟨.refl id p n, .refl p, rfl⟩

theorem Carries.trans (h : Carries id p n q m) (h' : Carries id q m r k) : Carries id p n r k :=
  ⟨h.toMoves.trans h'.toMoves, h.toFrame.trans h'.toFrame, h'.lost.trans h.lost⟩

variable (id p n)

-- Who is woken, told to stop or at the queue's end makes no difference to samples.
theorem carries_signals (receiver : Option Nat) (line woken : List Nat)
    (timerStopped dismissed : Bool) :
    Carries id p n { p with receiver := receiver
                            line := line
                            woken := woken
                            timerStopped := timerStopped
                            dismissed := dismissed } n :=
  ⟨⟨rfl, rfl, fun hd => hd, rfl⟩, ⟨rfl, rfl, rfl, rfl, fun _ => rfl, fun hc hb => ⟨hc, hb⟩⟩, rfl⟩

theorem carries_wake (ids : List Nat) : Carries id p n (p.wake ids) n :=
  carries_signals id p n _ _ _ _ _

theorem carries_receiver (receiver : Option Nat) (line : List Nat) :
    Carries id p n { p with receiver := receiver, line := line } n :=
  carries_signals id p n _ _ _ _ _

theorem carries_activities {activities : List (Nat × Activity)}
    (ho : ({ p with activities := activities } : Pipeline).others id = p.others id)
    (hd : p.Distinct → ({ p with activities := activities } : Pipeline).Distinct) :
    Carries id p n { p with activities := activities } n :=
  ⟨⟨rfl, ho, hd, rfl⟩, ⟨rfl, rfl, rfl, rfl, fun _ => rfl, fun hc hb => ⟨hc, hb⟩⟩, rfl⟩

theorem carries_set (a : Activity) : Carries id p n (p.set id a) n := by
  have hrest : ∃ activities, p.set id a = { p with activities := activities } := by
    unfold set
    split <;> exact ⟨_, rfl⟩
  obtain ⟨activities, hset⟩ := hrest
  have ho := others_set p id a
  have hd := fun hd : p.Distinct => distinct_set hd id a
  rw [hset] at ho hd ⊢
  exact carries_activities id p n ho hd

theorem carries_remove : Carries id p n (p.remove id) n :=
  carries_activities id p n (others_remove p id) fun hd => distinct_remove hd id

theorem carries_finish : Carries id p n (p.finish id) n :=
  (carries_remove id p n).trans (carries_wake id _ n _)

theorem carries_wakeReceiver : Carries id p n p.wakeReceiver n := carries_wake id p n _

theorem carries_senderGone : Carries id p n p.senderGone n := by
  unfold senderGone
  split
  · exact carries_wakeReceiver id p n
  · exact .refl id p n

theorem carries_releaseReceiver : Carries id p n p.releaseReceiver n := by
  unfold releaseReceiver
  split
  · exact carries_receiver id p n _ _
  · exact (carries_receiver id p n _ _).trans (carries_wake id _ n _)

theorem carries_takeReceiver : Carries id p n (p.takeReceiver id).2 n := by
  unfold takeReceiver
  split <;> exact carries_receiver id p n _ _

variable {id p n}

-- The counters may take samples over.
theorem carries_record {record : Record}
    (hsettled : record.stats.settled + m = p.record.stats.settled + n)
    (haccepted : record.stats.accepted = p.record.stats.accepted) :
    Carries id p n { p with record := record } m := by
  refine ⟨⟨?_, rfl, fun hd => hd, rfl⟩,
    ⟨rfl, rfl, rfl, rfl, fun _ => rfl, fun hc hb => ⟨hc, hb⟩⟩, rfl⟩
  simp only [placed, pending, queued]
  omega

-- The queue may take them over, or give some back.
theorem carries_intake {intake : Intake}
    (hbatches : (intake.batches.map Batch.size).sum + m = p.queued + n)
    (hclosed : p.intake.closed = true → intake.closed = true ∧
      (p.intake.batches = [] → intake.batches = [])) :
    Carries id p n { p with intake := intake } m := by
  refine ⟨⟨?_, rfl, fun hd => hd, rfl⟩,
    ⟨rfl, rfl, rfl, rfl, fun _ => rfl, fun hc hb => ⟨(hclosed hc).1, (hclosed hc).2 hb⟩⟩, rfl⟩
  simp only [placed, pending, queued] at hbatches ⊢
  omega

end

end Pipeline

end MetricRelay.Write
