import MetricRelay.Proofs.Trigger
import MetricRelay.Proofs.Write.Admission
import Mathlib.Algebra.Order.BigOperators.Group.List
import Mathlib.Algebra.Order.Group.Nat

-- One client at the open batch. Samples stay in the order in which they were accepted, whichever
-- call closes the batch; no closed batch is empty; and only the last sample of a closed batch may
-- have brought it to a limit.

namespace MetricRelay

namespace Write

open Store (Link)

def weight (samples : List Sample) : Nat := (samples.map Sample.estimatedBytes).sum

-- Short of the limits on count and size, where these are on.
structure Below (t : Thresholds) (samples : List Sample) : Prop where
  count : ∀ limit, t.maxCount = some limit → samples.length < limit
  size : ∀ limit, t.maxSize = some limit → weight samples < limit

theorem below_nil {t : Thresholds} {what : String} (h : t.validate what = .ok ()) :
    Below t [] := by
  obtain ⟨hsize, hcount⟩ := Thresholds.pos_of_validate h
  exact ⟨hcount, hsize⟩

theorem weight_dropLast_le (samples : List Sample) : weight samples.dropLast ≤ weight samples :=
  ((List.dropLast_sublist samples).map Sample.estimatedBytes).sum_le_sum fun _ _ => Nat.zero_le _

theorem Below.dropLast {t : Thresholds} {samples : List Sample} (h : Below t samples) :
    Below t samples.dropLast := by
  have hlength := (List.dropLast_sublist samples).length_le
  have hweight := weight_dropLast_le samples
  exact ⟨fun limit hlimit => hlength.trans_lt (h.count limit hlimit),
    fun limit hlimit => hweight.trans_lt (h.size limit hlimit)⟩

namespace Batch

-- Its estimated size is that of its samples.
def Weighed (b : Batch) : Prop := b.bytes = weight b.samples

theorem weighed_empty (now : Nat) : (empty now).Weighed := rfl

theorem Weighed.push {b : Batch} (h : b.Weighed) (s : Sample) : (b.push s).Weighed := by
  unfold Weighed at h
  simp [Weighed, Batch.push, weight, h]

theorem measure_push (b : Batch) (s : Sample) (now : Nat) :
    (b.push s).measure now = b.measureWith s now := by
  rw [measure, measureWith, Pipeline.size_push]
  rfl

theorem below_push {t : Thresholds} {b : Batch} {s : Sample} {now : Nat} {order : Precedence}
    (hb : b.Weighed) (h : t.evaluate ((b.push s).measure now) order = none) :
    Below t (b.push s).samples := by
  have hsome : ((b.push s).measure now).count ≠ 0 := by
    rw [measure_push]
    exact Nat.succ_ne_zero _
  have hnone := Thresholds.not_reached_of_evaluate hsome h
  refine ⟨fun limit hlimit => Nat.lt_of_not_le fun hle => hnone .count ⟨limit, hlimit, hle⟩,
    fun limit hlimit => ?_⟩
  exact hb.push s ▸ Nat.lt_of_not_le fun hle => hnone .size ⟨limit, hlimit, hle⟩

end Batch

-- What a call does to the open batch: samples that go in, a batch that is closed, and the open
-- batch after it.
inductive Turnover (t : Thresholds) (b : Batch) : List Sample → Option Batch → Batch → Prop
  | keeps : Turnover t b [] none b
  | grows {s : Sample} {now : Nat} {order : Precedence}
      (hfits : t.evaluate ((b.push s).measure now) order = none) : Turnover t b [s] none (b.push s)
  | fills (s : Sample) (now : Nat) : Turnover t b [s] (some (b.push s)) (.empty now)
  | ends (hsome : b.samples ≠ []) (now : Nat) : Turnover t b [] (some b) (.empty now)

theorem Turnover.filled {t : Thresholds} {b b' c : Batch} {s : Sample}
    (h : Turnover t b [s] (some c) b') : c = b.push s := by
  cases h
  rfl

-- The batches closed so far and the open one hold what was accepted.
structure Accumulated (t : Thresholds) (accepted : List Sample) (closed : List Batch)
    (b : Batch) : Prop where
  inOrder : closed.flatMap Batch.samples ++ b.samples = accepted
  closed : ∀ c ∈ closed, c.samples ≠ [] ∧ Below t c.samples.dropLast ∧ c.Weighed
  below : Below t b.samples
  weighed : b.Weighed

theorem Turnover.accumulated {t : Thresholds} {accepted more : List Sample} {closed : List Batch}
    {b b' : Batch} {filled : Option Batch} (h : Turnover t b more filled b') (ht : Below t [])
    (ha : Accumulated t accepted closed b) :
    Accumulated t (accepted ++ more) (closed ++ filled.toList) b' := by
  obtain ⟨horder, hclosed, hbelow, hweighed⟩ := ha
  have hmore : ∀ c : Batch, c.samples ≠ [] → Below t c.samples.dropLast → c.Weighed →
      ∀ d ∈ closed ++ [c], d.samples ≠ [] ∧ Below t d.samples.dropLast ∧ d.Weighed := by
    intro c hsome hlimits hc d hd
    cases List.mem_append.mp hd with
    | inl hbefore => exact hclosed d hbefore
    | inr hlast => exact List.mem_singleton.mp hlast ▸ ⟨hsome, hlimits, hc⟩
  cases h with
  | keeps => exact ⟨by simpa using horder, by simpa using hclosed, hbelow, hweighed⟩
  | @grows s now order hfits =>
    refine ⟨?_, by simpa using hclosed, Batch.below_push hweighed hfits, hweighed.push s⟩
    simp [Batch.push, ← horder]
  | fills s now =>
    refine ⟨?_, hmore _ (by simp [Batch.push]) ?_ (hweighed.push s), ht, Batch.weighed_empty now⟩
    · simp [Batch.push, Batch.empty, ← horder]
    · rw [Batch.push, List.dropLast_concat]
      exact hbelow
  | ends hsome now =>
    refine ⟨?_, hmore b hsome hbelow.dropLast hweighed, ht, Batch.weighed_empty now⟩
    simp [Batch.empty, ← horder]

-- What an answer says was given up.
def Result.loss? : Result → Option Loss
  | .error (.shutdownLoss batches samples) => some ⟨batches, samples⟩
  | _ => none

-- The number of the one client.
def client : Nat := 0

namespace Pipeline

-- Closed batches on their way through the queue, those that wait to get in last.
def enqueued (p : Pipeline) : List Batch :=
  p.intake.batches ++ p.activities.filterMap fun e => e.2.held?

-- What the client is busy with: nothing, or one call that waits for room in the queue.
inductive Lone (closed : Bool) : List (Nat × Activity) → Prop
  | idle : Lone closed []
  | adding (batch : Batch) (trigger : Trigger) : Lone closed [(client, .adding batch trigger)]
  | flushing (batch : Batch) (trigger : Trigger) : Lone closed [(client, .flushing batch trigger)]
  | closing (batch : Batch) (limit : Timer) (h : closed = true) :
      Lone closed [(client, .closing batch limit)]

theorem Lone.shut {closed : Bool} {activities : List (Nat × Activity)}
    (h : Lone closed activities) : Lone true activities := by
  cases h with
  | idle => exact .idle
  | adding batch trigger => exact .adding batch trigger
  | flushing batch trigger => exact .flushing batch trigger
  | closing batch limit h => exact .closing batch limit rfl

-- What holds as long as there is but one client and the receiving end stays.
structure Attended (config : Config) (p : Pipeline) : Prop where
  config : p.config = config
  queue : p.intake.closed = false
  sender : p.hasSender = !p.closed
  drained : p.closed = true → p.batch.samples = []
  lone : Lone p.closed p.activities

-- Nothing changes but the queue, who is busy with what, and the counters.
structure Besides (p q : Pipeline) : Prop where
  config : q.config = p.config
  batch : q.batch = p.batch
  hasSender : q.hasSender = p.hasSender
  closed : q.closed = p.closed
  queue : q.intake.closed = p.intake.closed

section

variable {config : Config} {p q r : Pipeline} {id now : Nat} {batch : Batch} {offer : Offer}

theorem Besides.refl (p : Pipeline) : Besides p p := ⟨rfl, rfl, rfl, rfl, rfl⟩

theorem Besides.trans (h : Besides p q) (h' : Besides q r) : Besides p r where
  config := h'.config.trans h.config
  batch := h'.batch.trans h.batch
  hasSender := h'.hasSender.trans h.hasSender
  closed := h'.closed.trans h.closed
  queue := h'.queue.trans h.queue

theorem besides_settleOffer (p : Pipeline) (batch : Batch) (offer : Offer) :
    Besides p (p.settleOffer batch offer) := by
  cases offer <;> exact ⟨rfl, rfl, rfl, rfl, rfl⟩

theorem besides_senderGone (p : Pipeline) : Besides p p.senderGone := by
  unfold senderGone
  split <;> exact ⟨rfl, rfl, rfl, rfl, rfl⟩

theorem besides_finish (p : Pipeline) (id : Nat) : Besides p (p.finish id) :=
  ⟨rfl, rfl, rfl, rfl, rfl⟩

theorem besides_set (p : Pipeline) (id : Nat) (a : Activity) : Besides p (p.set id a) := by
  unfold set
  split <;> exact ⟨rfl, rfl, rfl, rfl, rfl⟩

theorem besides_withdraw (p : Pipeline) (id : Nat) : Besides p (p.withdraw id) :=
  ⟨rfl, rfl, rfl, rfl, Intake.closed_withdraw p.intake id⟩

theorem Attended.besides (hp : Attended config p) (h : Besides p q)
    (hlone : Lone p.closed q.activities) : Attended config q where
  config := h.config.trans hp.config
  queue := h.queue.trans hp.queue
  sender := by rw [h.hasSender, h.closed, hp.sender]
  drained hc := h.batch ▸ hp.drained (h.closed ▸ hc)
  lone := h.closed.symm ▸ hlone

@[simp] theorem batches_senderGone (p : Pipeline) :
    p.senderGone.intake.batches = p.intake.batches := by
  unfold senderGone
  split <;> rfl

theorem activities_set_idle (hidle : p.activities = []) (a : Activity) :
    (p.set id a).activities = [(id, a)] := by
  simp [set, isActive, hidle]

theorem intake_set (p : Pipeline) (id : Nat) (a : Activity) :
    (p.set id a).intake = p.intake := by
  unfold set
  split <;> rfl

theorem enqueued_idle (hidle : p.activities = []) : p.enqueued = p.intake.batches := by
  simp [enqueued, hidle]

-- An open queue takes a batch, or lets it wait.
structure Offered (p : Pipeline) (batch : Batch) (offer : Offer) (q : Pipeline) : Prop where
  besides : Besides p q
  activities : q.activities = p.activities
  batches : q.intake.batches =
    if offer = .sent then p.intake.batches ++ [batch] else p.intake.batches
  notRefused : offer ≠ .refused

theorem offered_settleOffer {intake : Intake} (h : p.intake.Answers batch offer intake)
    (hrefused : offer ≠ .refused) :
    Offered p batch offer ({ p with intake := intake }.settleOffer batch offer) := by
  have hbesides := besides_settleOffer { p with intake := intake } batch offer
  refine ⟨⟨hbesides.config, hbesides.batch, hbesides.hasSender, hbesides.closed, ?_⟩,
    activities_settleOffer _ batch offer, ?_, hrefused⟩
  · exact hbesides.queue.trans h.closed
  · refine Eq.trans ?_ h.batches
    cases offer <;> rfl

theorem offered_flush {trigger : Option Trigger} (h : p.flush id batch trigger = (offer, q))
    (hopen : p.intake.closed = false) : Offered p batch offer q := by
  have hrefused : offer ≠ .refused := by
    rintro rfl
    have hclosed := closed_of_flush h
    rw [(trace_flush h).silent.queue, hopen] at hclosed
    cases hclosed
  cases h
  have hoffered := offered_settleOffer (p := p.update fun s => s.addFlush trigger)
    (Intake.offer_answers p.intake id batch) hrefused
  exact ⟨⟨hoffered.besides.config, hoffered.besides.batch, hoffered.besides.hasSender,
    hoffered.besides.closed, hoffered.besides.queue⟩, hoffered.activities, hoffered.batches,
    hrefused⟩

theorem offered_redeem (h : p.redeem id batch = (offer, q)) (hopen : p.intake.closed = false) :
    Offered p batch offer q := by
  have hrefused : offer ≠ .refused := by
    rintro rfl
    have hclosed := closed_of_redeem h
    rw [(trace_redeem h).silent.queue, hopen] at hclosed
    cases hclosed
  cases h
  exact offered_settleOffer (Intake.redeem_answers p.intake id batch) hrefused

-- Nothing changes but the open batch and the counters.
structure Refilled (p q : Pipeline) : Prop where
  config : q.config = p.config
  hasSender : q.hasSender = p.hasSender
  closed : q.closed = p.closed
  intake : q.intake = p.intake
  activities : q.activities = p.activities

theorem append_refilled {s : Sample} {taken : Option (Trigger × Batch)}
    (h : p.append now s = (taken, q)) :
    Refilled p q ∧ Turnover p.config.batch p.batch [s] (taken.map Prod.snd) q.batch := by
  unfold append at h
  dsimp only at h
  split at h
  · cases h
    exact ⟨⟨rfl, rfl, rfl, rfl, rfl⟩, .fills s now⟩
  · rename_i hfits
    cases h
    exact ⟨⟨rfl, rfl, rfl, rfl, rfl⟩, .grows hfits⟩

theorem expire_refilled {taken : Option (Trigger × Batch)} (h : p.expire now = (taken, q)) :
    Refilled p q ∧ Turnover p.config.batch p.batch [] (taken.map Prod.snd) q.batch := by
  unfold expire at h
  split at h
  · cases h
    exact ⟨⟨rfl, rfl, rfl, rfl, rfl⟩, .keeps⟩
  · split at h
    · rename_i trigger hdue
      cases h
      refine ⟨⟨rfl, rfl, rfl, rfl, rfl⟩, .ends (fun hnil => ?_) now⟩
      -- an empty batch is past no limit
      have hcount : (p.batch.measure now).count = 0 := by
        rw [Batch.measure, Batch.size, hnil]
        rfl
      rw [Thresholds.evaluateOnly, if_pos hcount] at hdue
      cases hdue
    · cases h
      exact ⟨⟨rfl, rfl, rfl, rfl, rfl⟩, .keeps⟩

-- What a call of a client does that has no other under way. Once the intake is closed it does
-- nothing. The batch that it closes is on its way afterwards, unless this was at the end of the
-- intake and the time was over, and then the answer says so.
structure Called (config : Config) (p : Pipeline) (more : List Sample) (filled : Option Batch)
    (answer : Option Result) (q : Pipeline) : Prop where
  attended : Attended config q
  turnover : Turnover config.batch p.batch more filled q.batch
  closed : p.closed = true →
    filled = none ∧ answer.bind Result.loss? = none ∧ q.closed = true ∧ q.activities = []
  passed : (q.enqueued = p.enqueued ++ filled.toList ∧ answer.bind Result.loss? = none) ∨
    q.closed = true ∧ q.activities = [] ∧ q.enqueued = p.enqueued ∧
      ∃ b, filled = some b ∧ answer.bind Result.loss? = some ⟨1, b.size⟩

theorem Attended.still {answer : Option Result} (hp : Attended config p)
    (hidle : p.activities = []) (h : Besides p q) (hactivities : q.activities = p.activities)
    (hbatches : q.intake.batches = p.intake.batches)
    (hanswer : answer.bind Result.loss? = none) : Called config p [] none answer q where
  attended := hp.besides h (hactivities ▸ hp.lone)
  turnover := h.batch ▸ .keeps
  closed hc := ⟨rfl, hanswer, h.closed.trans hc, hactivities.trans hidle⟩
  passed := .inl ⟨by rw [enqueued, hactivities, hbatches]; simp [enqueued], hanswer⟩

theorem Attended.refilled (hp : Attended config p) (h : Refilled p q) (hopen : p.closed = false) :
    Attended config q where
  config := h.config.trans hp.config
  queue := h.intake ▸ hp.queue
  sender := by rw [h.hasSender, h.closed, hp.sender]
  drained hc := by rw [h.closed, hopen] at hc; cases hc
  lone := by rw [h.closed, h.activities]; exact hp.lone

theorem Refilled.enqueued (h : Refilled p q) : q.enqueued = p.enqueued := by
  rw [Pipeline.enqueued, h.intake, h.activities]
  rfl

-- A batch that was closed has been handed over, or waits in the client's hand.
structure HandedOver (config : Config) (p : Pipeline) (batch : Batch) (q : Pipeline) : Prop where
  attended : Attended config q
  same : q.batch = p.batch
  enqueued : q.enqueued = p.enqueued ++ [batch]

theorem Attended.sent (hp : Attended config p) (hidle : p.activities = [])
    {trigger : Option Trigger} (h : p.flush id batch trigger = (.sent, q)) :
    HandedOver config p batch q := by
  have hoffered := offered_flush h hp.queue
  have hactivities := hoffered.activities.trans hidle
  refine ⟨hp.besides hoffered.besides (hactivities ▸ .idle), hoffered.besides.batch, ?_⟩
  rw [enqueued_idle hactivities, enqueued_idle hidle]
  exact hoffered.batches

theorem Attended.waits (hp : Attended config p) (hidle : p.activities = [])
    {trigger : Option Trigger} (h : p.flush client batch trigger = (.mustWait, q)) {a : Activity}
    (hheld : a.held? = some batch) (hlone : Lone p.closed [(client, a)]) :
    HandedOver config p batch (q.set client a) := by
  have hoffered := offered_flush h hp.queue
  have hbesides := hoffered.besides.trans (besides_set q client a)
  have hactivities : (q.set client a).activities = [(client, a)] :=
    activities_set_idle (hoffered.activities.trans hidle) a
  refine ⟨hp.besides hbesides (hactivities ▸ hlone), hbesides.batch, ?_⟩
  rw [enqueued_idle hidle, enqueued, hactivities, intake_set]
  simp [hoffered.batches, hheld]

-- An open queue takes a batch, or lets it wait in the client's hand.
theorem Attended.flush_cases (hp : Attended config p) (hidle : p.activities = [])
    (batch : Batch) (trigger : Option Trigger) :
    (∃ q, p.flush client batch trigger = (.sent, q) ∧ HandedOver config p batch q) ∨
      ∃ q, p.flush client batch trigger = (.mustWait, q) ∧ ∀ a : Activity,
        a.held? = some batch → Lone p.closed [(client, a)] →
          HandedOver config p batch (q.set client a) := by
  cases h : p.flush client batch trigger with
  | mk offer q =>
    cases offer with
    | sent => exact .inl ⟨q, rfl, hp.sent hidle h⟩
    | refused => exact ((offered_flush h hp.queue).notRefused rfl).elim
    | mustWait => exact .inr ⟨q, rfl, fun _ hheld hlone => hp.waits hidle h hheld hlone⟩

theorem HandedOver.senderGone (h : HandedOver config p batch q) :
    HandedOver config p batch q.senderGone where
  attended := h.attended.besides (besides_senderGone q)
    (by rw [activities_senderGone]; exact h.attended.lone)
  same := (besides_senderGone q).batch.trans h.same
  enqueued := by
    rw [← h.enqueued, Pipeline.enqueued, activities_senderGone, batches_senderGone]
    rfl

theorem HandedOver.called {more : List Sample} {answer : Option Result}
    (h : HandedOver config q batch r) (hopen : p.closed = false)
    (henqueued : q.enqueued = p.enqueued)
    (hturnover : Turnover config.batch p.batch more (some batch) q.batch)
    (hanswer : answer.bind Result.loss? = none) :
    Called config p more (some batch) answer r where
  attended := h.attended
  turnover := h.same ▸ hturnover
  closed hc := by rw [hopen] at hc; cases hc
  passed := .inl ⟨henqueued ▸ h.enqueued, hanswer⟩

theorem Attended.noneClosed {more : List Sample} {answer : Option Result}
    (hp : Attended config p) (hopen : p.closed = false) (h : Refilled p q)
    (hturnover : Turnover config.batch p.batch more none q.batch)
    (hanswer : answer.bind Result.loss? = none) : Called config p more none answer q where
  attended := hp.refilled h hopen
  turnover := hturnover
  closed hc := by rw [hopen] at hc; cases hc
  passed := .inl ⟨h.enqueued.trans (List.append_nil _).symm, hanswer⟩

-- The sample that a call adds, unless it fails.
def added (result : Option Result) (s : Sample) : List Sample :=
  match result with
  | some (.error _) => []
  | _ => [s]

theorem open_of_accepts (hp : Attended config p) : p.accepts = !p.closed := by
  rw [accepts, hp.sender, Bool.and_self]

theorem add_called (now : Nat) (s : Sample) (hp : Attended config p) (hidle : p.activities = []) :
    Called config p (added (p.add now client s).1 s)
      (if p.accepts then (p.append now s).1.map Prod.snd else none) (p.add now client s).1
      (p.add now client s).2 := by
  have haccepts := open_of_accepts hp
  unfold add
  by_cases hopen : p.closed = true
  · rw [haccepts, hopen]
    exact hp.still hidle (.refl p) rfl rfl rfl
  · rw [Bool.not_eq_true] at hopen
    rw [haccepts, hopen]
    simp only [Bool.not_false, Bool.not_true, Bool.false_eq_true, if_false]
    split
    · rename_i q happend
      obtain ⟨hrefilled, hturnover⟩ := append_refilled happend
      rw [happend]
      exact hp.noneClosed hopen hrefilled (hp.config ▸ hturnover) rfl
    · rename_i trigger batch q happend
      obtain ⟨hrefilled, hturnover⟩ := append_refilled happend
      rw [hp.config] at hturnover
      have hq := hp.refilled hrefilled hopen
      rw [happend]
      rcases hq.flush_cases (hrefilled.activities.trans hidle) batch (some trigger) with
        ⟨r, hflush, hsent⟩ | ⟨r, hflush, hwaits⟩
      · rw [hflush]
        exact hsent.called hopen hrefilled.enqueued hturnover rfl
      · rw [hflush]
        exact (hwaits _ rfl (.adding batch trigger)).called hopen hrefilled.enqueued hturnover rfl

theorem flushExpired_called (now : Nat) (hp : Attended config p) (hidle : p.activities = []) :
    Called config p [] ((p.expire now).1.map Prod.snd) (p.flushExpired now client).1
      (p.flushExpired now client).2 := by
  unfold flushExpired
  by_cases hopen : p.closed = true
  · have hnone : p.expire now = (none, p) := by
      rw [expire, open_of_accepts hp, hopen]
      rfl
    rw [hnone]
    exact hp.still hidle (.refl p) rfl rfl rfl
  rw [Bool.not_eq_true] at hopen
  split
  · rename_i q hexpire
    obtain ⟨hrefilled, hturnover⟩ := expire_refilled hexpire
    rw [hexpire]
    exact hp.noneClosed hopen hrefilled (hp.config ▸ hturnover) rfl
  · rename_i trigger batch q hexpire
    obtain ⟨hrefilled, hturnover⟩ := expire_refilled hexpire
    rw [hp.config] at hturnover
    have hq := hp.refilled hrefilled hopen
    rw [hexpire]
    rcases hq.flush_cases (hrefilled.activities.trans hidle) batch (some trigger) with
      ⟨r, hflush, hsent⟩ | ⟨r, hflush, hwaits⟩
    · rw [hflush]
      exact hsent.called hopen hrefilled.enqueued hturnover rfl
    · rw [hflush]
      exact (hwaits _ rfl (.flushing batch trigger)).called hopen hrefilled.enqueued hturnover rfl

-- The batch that a call which does not wait closes.
def filledBy (p : Pipeline) (s : Sample) (result : Result) : Option Batch :=
  match result with
  | .ok (.added (some _)) => some (p.batch.push s)
  | _ => none

theorem tryAdd_called (now : Nat) (s : Sample) (hp : Attended config p)
    (hidle : p.activities = []) :
    Called config p (added (some (p.tryAdd now client s).1) s)
      (p.filledBy s (p.tryAdd now client s).1) (some (p.tryAdd now client s).1)
      (p.tryAdd now client s).2 := by
  unfold tryAdd
  by_cases hopen : p.closed = true
  · rw [open_of_accepts hp, hopen]
    exact hp.still hidle (.refl p) rfl rfl rfl
  rw [Bool.not_eq_true] at hopen
  rw [open_of_accepts hp, hopen, hp.queue]
  simp only [Bool.not_false, Bool.not_true, Bool.false_eq_true, if_false]
  split
  · rename_i hfits
    have hfits : p.evaluate ((p.batch.push s).measure now) = none := by
      rw [Batch.measure_push]
      exact Option.isNone_iff_eq_none.mp hfits
    exact hp.noneClosed hopen ⟨rfl, rfl, rfl, rfl, rfl⟩ (hp.config ▸ .grows hfits) rfl
  · split
    · exact hp.still hidle ⟨rfl, rfl, rfl, rfl, rfl⟩ rfl rfl rfl
    · rename_i hfree
      split
      · rename_i q happend
        obtain ⟨hrefilled, hturnover⟩ := append_refilled happend
        exact hp.noneClosed hopen hrefilled (hp.config ▸ hturnover) rfl
      · rename_i trigger batch q happend
        obtain ⟨hrefilled, hturnover⟩ := append_refilled happend
        rw [hp.config] at hturnover
        have hq := hp.refilled hrefilled hopen
        have hroom : 0 < q.intake.free := hrefilled.intake ▸ Nat.pos_of_ne_zero hfree
        have hflush : q.flush client batch (some trigger) =
            (.sent, (q.flush client batch (some trigger)).2) :=
          Prod.ext (sent_of_flush rfl hq.queue hroom) rfl
        have hfilled : batch = p.batch.push s := hturnover.filled
        have hsent := hq.sent (hrefilled.activities.trans hidle) hflush
        have hcalled : Called config p [s] (some batch) (some (.ok (.added (some trigger)))) _ :=
          hsent.called hopen hrefilled.enqueued hturnover rfl
        rw [hfilled] at hcalled ⊢
        exact hcalled

-- The end of the intake closes the open batch, if there is anything in it.
structure Ended (config : Config) (p : Pipeline) (last : Option Batch) (q : Pipeline) : Prop where
  attended : Attended config q
  closed : q.closed = true
  batches : q.intake.batches = p.intake.batches
  activities : q.activities = p.activities
  turnover : Turnover config.batch p.batch [] last q.batch
  again : p.closed = true → last = none

theorem endIntake_ended {last : Option Batch} (hp : Attended config p)
    (h : p.endIntake now = (last, q)) : Ended config p last q := by
  unfold endIntake at h
  cases h
  by_cases hempty : p.batch.isEmpty = true
  · have hnil : p.batch.samples = [] := List.isEmpty_iff.mp hempty
    simp only [hempty, Bool.not_true, Bool.and_false, Bool.false_eq_true, if_false, if_true,
      Option.isNone_none]
    have hgone := besides_senderGone { p with hasSender := false, closed := true }
    have hshut : Attended config { p with hasSender := false, closed := true } :=
      ⟨hp.config, hp.queue, rfl, fun _ => hnil, hp.lone.shut⟩
    refine ⟨hshut.besides hgone ?_, hgone.closed, batches_senderGone _, activities_senderGone _,
      ?_, fun _ => rfl⟩
    · rw [activities_senderGone]
      exact hshut.lone
    · rw [hgone.batch]
      exact .keeps
  · have hsome : p.batch.samples ≠ [] := fun hnil => hempty (List.isEmpty_iff.mpr hnil)
    have hopen : p.closed = false := Bool.eq_false_iff.mpr fun hc => hsome (hp.drained hc)
    have hsender : p.hasSender = true := by rw [hp.sender, hopen]; rfl
    simp only [hsender, hempty, Bool.not_false, Bool.and_self, if_true,
      Option.isNone_some, Bool.false_eq_true, if_false]
    exact ⟨⟨hp.config, hp.queue, rfl, fun _ => rfl, hp.lone.shut⟩, rfl, rfl, rfl, .ends hsome now,
      fun hc => absurd (hp.drained hc) hsome⟩

theorem close_called (l : Link) (deadline : Nat) (hp : Attended config p)
    (hidle : p.activities = []) :
    Called config p [] (p.endIntake l.now).1 (p.close l client deadline).1
      (p.close l client deadline).2.1 := by
  unfold close
  split
  · rename_i q hend
    obtain ⟨hq, hclosed, hbatches, hactivities, hturnover, -⟩ := endIntake_ended hp hend
    rw [hend]
    refine ⟨hq, hturnover, fun _ => ⟨rfl, rfl, hclosed, hactivities.trans hidle⟩,
      .inl ⟨?_, rfl⟩⟩
    rw [enqueued, hbatches, hactivities]
    simp [enqueued]
  · rename_i batch q hend
    obtain ⟨hq, hclosed, hbatches, hactivities, hturnover, hagain⟩ := endIntake_ended hp hend
    have hopen : p.closed = false := Bool.eq_false_iff.mpr fun hc => by cases hagain hc
    have hnobody := hactivities.trans hidle
    have henqueued : q.enqueued = p.enqueued := by
      rw [enqueued_idle hnobody, enqueued_idle hidle, hbatches]
    rw [hend]
    rcases hq.flush_cases hnobody batch none with ⟨r, hflush, hsent⟩ | ⟨r, hflush, hwaits⟩
    · rw [hflush]
      exact hsent.senderGone.called hopen henqueued hturnover rfl
    · rw [hflush]
      dsimp only [Link.setTimer]
      split
      · -- too late: the batch is given up
        have hoffered := offered_flush hflush hq.queue
        have hgone := (besides_withdraw r client).trans (besides_senderGone _)
        have hall := hoffered.besides.trans hgone
        have hidle' : (r.withdraw client).senderGone.activities = [] :=
          (activities_senderGone _).trans (hoffered.activities.trans hnobody)
        have hstays : (r.withdraw client).senderGone.intake.batches = p.intake.batches := by
          rw [batches_senderGone]
          exact (Intake.batches_withdraw r.intake client).trans (hoffered.batches.trans hbatches)
        refine ⟨hq.besides hall (hidle' ▸ .idle), hall.batch ▸ hturnover,
          fun hc => (by rw [hopen] at hc; cases hc),
          .inr ⟨hall.closed.trans hclosed, hidle', ?_, batch, rfl, rfl⟩⟩
        rw [enqueued_idle hidle', enqueued_idle hidle, hstays]
      · exact (hwaits _ rfl (.closing batch _ hclosed)).called hopen henqueued hturnover rfl

-- What a turn of the client's call does. A batch that waits gets in, or goes on waiting, unless the
-- intake is to end and the time is over, and then the answer says so.
structure Proceeded (config : Config) (p : Pipeline) (answer : Option Result) (q : Pipeline) :
    Prop where
  attended : Attended config q
  batch : q.batch = p.batch
  closed : q.closed = p.closed
  passed : (q.enqueued = p.enqueued ∧ answer.bind Result.loss? = none ∧
      (p.activities = [] → q.activities = [])) ∨
    p.closed = true ∧ p.activities ≠ [] ∧ q.activities = [] ∧
      ∃ b, p.enqueued = q.enqueued ++ [b] ∧ answer.bind Result.loss? = some ⟨1, b.size⟩

theorem Attended.proceeded (hp : Attended config p) : Proceeded config p none p :=
  ⟨hp, rfl, rfl, .inl ⟨rfl, rfl, id⟩⟩

theorem activities_finish_own {a : Activity} (h : p.activities = [(id, a)]) :
    (p.finish id).senderGone.activities = [] := by
  rw [activities_senderGone]
  change p.activities.filter _ = []
  simp [h]

theorem Attended.redeemed (hp : Attended config p) {a : Activity} {done : Done}
    (hown : p.activities = [(client, a)]) (hheld : a.held? = some batch)
    (h : p.redeem client batch = (.sent, q)) :
    Proceeded config p (some (.ok done)) (q.finish client).senderGone := by
  have hoffered := offered_redeem h hp.queue
  have hall := hoffered.besides.trans
    ((besides_finish q client).trans (besides_senderGone (q.finish client)))
  have hidle := activities_finish_own (hoffered.activities.trans hown)
  refine ⟨hp.besides hall (hidle ▸ .idle), hall.batch, hall.closed,
    .inl ⟨?_, rfl, fun _ => hidle⟩⟩
  rw [enqueued_idle hidle, batches_senderGone, enqueued, hown]
  exact hoffered.batches.trans (by simp [hheld])

theorem Attended.redeem_cases (hp : Attended config p) {a : Activity}
    (hown : p.activities = [(client, a)]) (hheld : a.held? = some batch) :
    (∃ q, p.redeem client batch = (.sent, q) ∧ ∀ done,
      Proceeded config p (some (.ok done)) (q.finish client).senderGone) ∨
      p.redeem client batch = (.mustWait, p) := by
  cases h : p.redeem client batch with
  | mk offer q =>
    cases offer with
    | sent => exact .inl ⟨q, rfl, fun _ => hp.redeemed hown hheld h⟩
    | refused => exact ((offered_redeem h hp.queue).notRefused rfl).elim
    | mustWait =>
      rw [redeem_mustWait h]
      exact .inr rfl

theorem find?_own {a : Activity} (h : p.activities = [(id, a)]) : p.find? id = some a := by
  simp [find?, h]

theorem turn_proceeded (l : Link) (hp : Attended config p) :
    Proceeded config p (p.turn l client).1 (p.turn l client).2.1 := by
  have hlone := hp.lone
  generalize hown : p.activities = activities at hlone
  unfold turn
  cases hlone with
  | idle =>
    have hnone : p.find? client = none := by simp [find?, hown]
    rw [hnone]
    exact hp.proceeded
  | adding batch trigger =>
    rw [find?_own hown]
    dsimp only
    rcases hp.redeem_cases hown rfl with ⟨q, hredeem, hsent⟩ | hredeem <;> rw [hredeem]
    · exact hsent _
    · exact hp.proceeded
  | flushing batch trigger =>
    rw [find?_own hown]
    dsimp only
    rcases hp.redeem_cases hown rfl with ⟨q, hredeem, hsent⟩ | hredeem <;> rw [hredeem]
    · exact hsent _
    · exact hp.proceeded
  | closing batch limit hclosed =>
    rw [find?_own hown]
    dsimp only
    rcases hp.redeem_cases hown rfl with ⟨q, hredeem, hsent⟩ | hredeem <;> rw [hredeem]
    · exact hsent _
    · dsimp only
      split
      · -- too late: the batch is given up
        have hall := (besides_withdraw p client).trans
          ((besides_finish (p.withdraw client) client).trans (besides_senderGone _))
        have hidle := activities_finish_own (p := p.withdraw client) hown
        have hsome : p.activities ≠ [] := by simp [hown]
        refine ⟨hp.besides hall (hidle ▸ .idle), hall.batch, hall.closed,
          .inr ⟨hclosed, hsome, hidle, batch, ?_, rfl⟩⟩
        have hstays := Intake.batches_withdraw p.intake client
        rw [enqueued_idle hidle, batches_senderGone, enqueued, hown, ← hstays]
        rfl
      · exact hp.proceeded

theorem take_batch (hp : Attended config p) (h : p.take = (.batch batch, q)) :
    Attended config q ∧ q.batch = p.batch ∧ q.closed = p.closed ∧ q.activities = p.activities ∧
      p.enqueued = batch :: q.enqueued := by
  unfold take at h
  split at h
  · rename_i first told intake hpop
    obtain ⟨hbatches, hclosed⟩ := Intake.pop?_eq_some hpop
    cases h
    refine ⟨⟨hp.config, hclosed.trans hp.queue, hp.sender, hp.drained, hp.lone⟩, rfl, rfl, rfl, ?_⟩
    rw [enqueued, hbatches]
    rfl
  · simp only [Prod.mk.injEq] at h
    obtain ⟨htaken, -⟩ := h
    split at htaken <;> cases htaken

theorem take_nothing {taken : Taken} (h : p.take = (taken, q)) (hnone : ∀ b, taken ≠ .batch b) :
    q = p := by
  unfold take at h
  split at h
  · cases h
    exact absurd rfl (hnone _)
  · cases h
    rfl

end

end Pipeline

-- What one client asks of the accumulator.
inductive Session.Call
  | add (s : Sample)
  | tryAdd (s : Sample)
  | flushExpired
  | close (deadline : Nat)

-- One client at an accumulator, and somebody who takes batches from the queue.
structure Session where
  pipeline : Pipeline
  -- samples that were accepted, in that order
  accepted : List Sample
  -- batches that were closed, in that order
  closed : List Batch
  -- batches that came out of the queue
  taken : List Batch
  -- what the client was told
  answers : List Result

namespace Session

inductive Move
  | call (c : Call)
  -- the call that is under way goes on
  | proceed
  | take

namespace Call

def run (p : Pipeline) (l : Link) : Call → Option Result × Pipeline
  | .add s => p.add l.now client s
  | .tryAdd s =>
    let (result, p) := p.tryAdd l.now client s
    (some result, p)
  | .flushExpired => p.flushExpired l.now client
  | .close deadline =>
    let (result, p, _) := p.close l client deadline
    (result, p)

-- The sample that a call gets accepted.
def accepts (p : Pipeline) (l : Link) (c : Call) : List Sample :=
  match c with
  | .add s => Pipeline.added (c.run p l).1 s
  | .tryAdd s => Pipeline.added (c.run p l).1 s
  | _ => []

-- The batch that a call closes.
def closes (p : Pipeline) (l : Link) : Call → Option Batch
  | .add s => if p.accepts then (p.append l.now s).1.map Prod.snd else none
  | .tryAdd s => p.filledBy s (p.tryAdd l.now client s).1
  | .flushExpired => (p.expire l.now).1.map Prod.snd
  | .close _ => (p.endIntake l.now).1

end Call

-- While a call is under way, the client makes no other.
def step (s : Session) (l : Link) : Move → Session
  | .call c =>
    if s.pipeline.isActive client then s
    else
      { s with pipeline := (c.run s.pipeline l).2
               accepted := s.accepted ++ c.accepts s.pipeline l
               closed := s.closed ++ (c.closes s.pipeline l).toList
               answers := s.answers ++ (c.run s.pipeline l).1.toList }
  | .proceed =>
    { s with pipeline := (s.pipeline.turn l client).2.1
             answers := s.answers ++ (s.pipeline.turn l client).1.toList }
  | .take =>
    match s.pipeline.take with
    | (.batch b, p) => { s with pipeline := p, taken := s.taken ++ [b] }
    | (_, p) => { s with pipeline := p }

-- Each move finds the time and the world as they are by then.
def after (s : Session) (moves : List (Link × Move)) : Session :=
  moves.foldl (fun s m => s.step m.1 m.2) s

def begin (config : Config) (target : String) (now : Nat) : Session :=
  ⟨.idle config target now, [], [], [], []⟩

-- What the client was told was given up.
def losses (answers : List Result) : List Loss := answers.filterMap Result.loss?

-- The batches closed are those that came out of the queue and those on their way, with at most one
-- more that was given up at the end of the intake, of which the client was told.
def Passed (closed taken : List Batch) (answers : List Result) (p : Pipeline) : Prop :=
  (closed = taken ++ p.enqueued ∧ losses answers = []) ∨
    p.closed = true ∧ p.activities = [] ∧
      ∃ b, closed = taken ++ p.enqueued ++ [b] ∧ losses answers = [⟨1, b.size⟩]

structure Sound (config : Config) (s : Session) : Prop where
  attended : Pipeline.Attended config s.pipeline
  accumulated : Accumulated config.batch s.accepted s.closed s.pipeline.batch
  passed : Passed s.closed s.taken s.answers s.pipeline

section

variable {config : Config} {s : Session}

theorem called (l : Link) (c : Call) (hp : s.pipeline.Attended config)
    (hidle : s.pipeline.activities = []) :
    Pipeline.Called config s.pipeline (c.accepts s.pipeline l) (c.closes s.pipeline l)
      (c.run s.pipeline l).1 (c.run s.pipeline l).2 := by
  cases c with
  | add sample => exact Pipeline.add_called l.now sample hp hidle
  | tryAdd sample => exact Pipeline.tryAdd_called l.now sample hp hidle
  | flushExpired => exact Pipeline.flushExpired_called l.now hp hidle
  | close deadline => exact Pipeline.close_called l deadline hp hidle

theorem idle_of_not_isActive {p : Pipeline} (hp : p.Attended config)
    (h : ¬p.isActive client = true) : p.activities = [] := by
  have hlone := hp.lone
  generalize hactivities : p.activities = activities at hlone
  cases hlone with
  | idle => rfl
  | _ => simp [Pipeline.isActive, hactivities] at h

theorem losses_append (answers : List Result) (answer : Option Result) :
    losses (answers ++ answer.toList) = losses answers ++ (answer.bind Result.loss?).toList := by
  unfold losses
  rw [List.filterMap_append]
  cases answer with
  | none => rfl
  | some result =>
    rw [Option.toList_some, List.filterMap_cons, List.filterMap_nil, Option.bind_some]
    cases result.loss? <;> rfl

theorem Passed.called {closed taken : List Batch} {answers : List Result} {p q : Pipeline}
    {more : List Sample} {filled : Option Batch} {answer : Option Result}
    (h : Passed closed taken answers p)
    (hcalled : Pipeline.Called config p more filled answer q) :
    Passed (closed ++ filled.toList) taken (answers ++ answer.toList) q := by
  unfold Passed
  rw [losses_append]
  cases h with
  | inl hall =>
    obtain ⟨hall, htold⟩ := hall
    cases hcalled.passed with
    | inl honItsWay =>
      exact .inl ⟨by rw [hall, honItsWay.1, List.append_assoc], by rw [htold, honItsWay.2]; rfl⟩
    | inr hlate =>
      obtain ⟨hclosed, hidle, hsame, b, rfl, hloss⟩ := hlate
      exact .inr ⟨hclosed, hidle, b, by rw [hall, hsame]; rfl, by rw [htold, hloss]; rfl⟩
  | inr hended =>
    obtain ⟨hclosed, -, b, hall, htold⟩ := hended
    obtain ⟨rfl, hquiet, hqclosed, hidle⟩ := hcalled.closed hclosed
    have hsame : q.enqueued = p.enqueued := by
      cases hcalled.passed with
      | inl honItsWay => exact honItsWay.1.trans (List.append_nil _)
      | inr hlate => exact hlate.2.2.1
    refine .inr ⟨hqclosed, hidle, b, ?_, by rw [htold, hquiet]; rfl⟩
    rw [hsame, hall]
    exact List.append_nil _

theorem Passed.proceeded {closed taken : List Batch} {answers : List Result} {p q : Pipeline}
    {answer : Option Result} (h : Passed closed taken answers p)
    (hproceeded : Pipeline.Proceeded config p answer q) :
    Passed closed taken (answers ++ answer.toList) q := by
  unfold Passed
  rw [losses_append]
  cases hproceeded.passed with
  | inl hsame =>
    obtain ⟨hsame, hquiet, hidle⟩ := hsame
    rw [hsame, hquiet, Option.toList_none, List.append_nil]
    cases h with
    | inl hall => exact .inl hall
    | inr hended =>
      obtain ⟨hclosed, hnobody, hgiven⟩ := hended
      exact .inr ⟨hproceeded.closed.trans hclosed, hidle hnobody, hgiven⟩
  | inr hlate =>
    obtain ⟨hclosed, hbusy, hidle, b, hgiven, hloss⟩ := hlate
    cases h with
    | inl hall =>
      refine .inr ⟨hproceeded.closed.trans hclosed, hidle, b, ?_, by rw [hall.2, hloss]; rfl⟩
      rw [hall.1, hgiven, List.append_assoc]
    | inr hended => exact absurd hended.2.1 hbusy

theorem step_sound (ht : Below config.batch []) (hs : s.Sound config) (l : Link) (m : Move) :
    (s.step l m).Sound config := by
  obtain ⟨hp, haccumulated, hpassed⟩ := hs
  cases m with
  | call c =>
    unfold step
    dsimp only
    split
    · exact ⟨hp, haccumulated, hpassed⟩
    · rename_i hidle
      have hcalled := called l c hp (idle_of_not_isActive hp hidle)
      exact ⟨hcalled.attended, hcalled.turnover.accumulated ht haccumulated,
        hpassed.called hcalled⟩
  | proceed =>
    have hproceeded := Pipeline.turn_proceeded l hp
    exact ⟨hproceeded.attended, hproceeded.batch.symm ▸ haccumulated,
      hpassed.proceeded hproceeded⟩
  | take =>
    unfold step
    dsimp only
    split
    · rename_i b q htake
      obtain ⟨hq, hbatch, hclosed, hactivities, henqueued⟩ := Pipeline.take_batch hp htake
      refine ⟨hq, hbatch.symm ▸ haccumulated, ?_⟩
      unfold Passed at hpassed ⊢
      rw [henqueued] at hpassed
      simpa [hclosed, hactivities] using hpassed
    · rename_i taken q hnone htake
      rw [Pipeline.take_nothing htake fun b hb => hnone b hb]
      exact ⟨hp, haccumulated, hpassed⟩

theorem after_sound (ht : Below config.batch []) (hs : s.Sound config)
    (moves : List (Link × Move)) : (s.after moves).Sound config := by
  induction moves generalizing s with
  | nil => exact hs
  | cons m rest ih => exact ih (step_sound ht hs m.1 m.2)

theorem begin_sound (ht : Below config.batch []) (target : String) (now : Nat) :
    (begin config target now).Sound config where
  attended := ⟨rfl, rfl, rfl, fun _ => rfl, .idle⟩
  accumulated := ⟨rfl, fun _ hc => (by cases hc), ht, Batch.weighed_empty now⟩
  passed := .inl ⟨rfl, rfl⟩

-- Whatever one client asks and whenever, however the queue is emptied: the batches closed, and the
-- open one behind them, hold the accepted samples in order; none is empty or over a limit before
-- its last sample; the open one is short of the limits; sizes are those of the samples; and the
-- closed batches pass the queue in that order, but for one that the end of the intake may give up.
-- That happens exactly when the client is told of a loss, which is that batch.
theorem keeps_order_and_limits (config : Config) (target : String) (now : Nat) {what : String}
    (hvalid : config.batch.validate what = .ok ()) (moves : List (Link × Move)) :
    let s := (begin config target now).after moves
    let opened := s.pipeline.batch
    s.closed.flatMap Batch.samples ++ opened.samples = s.accepted ∧
    (∀ b ∈ s.closed, b.samples ≠ [] ∧ Below config.batch b.samples.dropLast ∧
      b.bytes = weight b.samples) ∧
    Below config.batch opened.samples ∧ opened.bytes = weight opened.samples ∧
    ∃ late, s.closed = s.taken ++ s.pipeline.enqueued ++ late ∧
      (late = [] ∨ s.pipeline.closed = true ∧ late.length = 1) ∧
      losses s.answers = late.map fun b => ⟨1, b.size⟩ := by
  intro s opened
  have ht := below_nil hvalid
  obtain ⟨-, haccumulated, hpassed⟩ := after_sound ht (begin_sound ht target now) moves
  refine ⟨haccumulated.inOrder, haccumulated.closed, haccumulated.below, haccumulated.weighed, ?_⟩
  cases hpassed with
  | inl hall => exact ⟨[], hall.1.trans (List.append_nil _).symm, .inl rfl, hall.2⟩
  | inr hended =>
    obtain ⟨hclosed, -, b, hall, htold⟩ := hended
    exact ⟨[b], hall, .inr ⟨hclosed, rfl⟩, htold⟩

private def steady : Link := ⟨.empty, .manual 0, 0, ∅, [], 0, 0⟩

private def reading (timestamp : Int64) : Sample :=
  ⟨"level", ∅, timestamp, .zero false, by decide⟩

-- Two samples to a batch, and room for one batch.
private def cramped : Config :=
  { (default : Config) with batch := ⟨some 4096, some 2, some (.ofSeconds 10)⟩, queueCapacity := 1 }

-- The second batch waits for the first one to be taken.
private def five : List Move :=
  [.call (.add (reading 1)), .call (.tryAdd (reading 2)), .call (.add (reading 3)),
    .call (.add (reading 4)), .call (.add (reading 9)), .take, .proceed, .call (.add (reading 5))]

private def fiveAndThen (moves : List Move) : List (Link × Move) :=
  (five ++ moves).map fun m => (steady, m)

-- The last batch finds no room in time.
private def jammed : Session := (begin cramped "m" 0).after (fiveAndThen [.call (.close 0)])

-- It finds room before the time is over.
private def cleared : Session :=
  (begin cramped "m" 0).after (fiveAndThen [.call (.close 1000), .take, .proceed])

theorem jammed_in_order :
    cramped.batch.validate "batch" = .ok () ∧
    jammed.closed.flatMap Batch.samples ++ jammed.pipeline.batch.samples =
      [reading 1, reading 2, reading 3, reading 4, reading 5] ∧
    jammed.closed.map Batch.size = [2, 2, 1] ∧
    jammed.answers.getLast? = some (.error (.shutdownLoss 1 1)) ∧
    (∃ b, jammed.closed = jammed.taken ++ jammed.pipeline.enqueued ++ [b] ∧ b.size = 1) ∧
    cleared.closed.map Batch.size = [2, 2, 1] ∧
    cleared.answers.getLast? = some (.ok .closed) ∧
    cleared.closed = cleared.taken ++ cleared.pipeline.enqueued := by
  have hvalid : cramped.batch.validate "batch" = .ok () := by rfl
  have haccepted : jammed.accepted = [reading 1, reading 2, reading 3, reading 4, reading 5] := by
    rfl
  obtain ⟨horder, -, -, -, late, hlate, -, htold⟩ := keeps_order_and_limits cramped "m" 0 hvalid
    (fiveAndThen [.call (.close 0)])
  obtain ⟨-, -, -, -, none, hnone, -, hquiet⟩ := keeps_order_and_limits cramped "m" 0 hvalid
    (fiveAndThen [.call (.close 1000), .take, .proceed])
  have hgiven : late.map (fun b => (⟨1, b.size⟩ : Loss)) = [⟨1, 1⟩] := htold.symm
  obtain ⟨b, rfl, hb⟩ := List.map_eq_singleton_iff.mp hgiven
  have hkept : none = [] := List.map_eq_nil_iff.mp hquiet.symm
  rw [hkept, List.append_nil] at hnone
  exact ⟨hvalid, horder.trans haccepted, by rfl, by rfl, ⟨b, hlate, congrArg Loss.samples hb⟩,
    by rfl, by rfl, hnone⟩

end

end Session

end Write

end MetricRelay
