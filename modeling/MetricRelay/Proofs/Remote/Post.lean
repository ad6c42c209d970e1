import MetricRelay.Proofs.Remote.Body
import MetricRelay.Proofs.Write.Contents
import MetricRelay.Remote.Router

-- Remote writes among everything else that a pipeline is asked for. A sender drops what is answered
-- with 400 and sends again what is answered with 503, so the answer has to say what was taken in.

namespace MetricRelay.Remote

open Write (Course addressed addressed_append)
open Write.Pipeline (Progress)
open Write.Course (admitted answers)

-- Whatever is wrong with a body, the sender is told not to send it again.

theorem status_of_refused {pairs : List (String × String)} {e : Error} (h : Refused pairs e) :
    e.httpStatus = 400 := by
  cases h <;> rfl

theorem TimeSeries.status_of_error {s : TimeSeries} {e : Error} (h : s.toSamples = .error e) :
    e.httpStatus = 400 := by
  by_cases hsound : s.Sound
  · obtain ⟨samples, hsamples, _⟩ := s.toSamples_of_sound hsound
    rw [hsamples] at h
    cases h
  · obtain ⟨hsome, hill⟩ := Classical.not_imp.mp hsound
    obtain ⟨reason, hreason⟩ := exists_refused hill
    rw [toSamples_of_refused hsome hreason] at h
    cases h
    exact status_of_refused hreason

theorem exists_error_of_mapM {α β ε : Type} {f : α → Except ε β} {xs : List α} {e : ε}
    (h : xs.mapM f = .error e) : ∃ x ∈ xs, f x = .error e := by
  induction xs with
  | nil => cases h
  | cons x rest ih =>
    rw [List.mapM_cons] at h
    cases hx : f x with
    | error reason =>
      rw [hx] at h
      cases h
      exact ⟨x, List.mem_cons_self, hx⟩
    | ok y =>
      cases hrest : rest.mapM f with
      | error reason =>
        rw [hx, hrest] at h
        cases h
        obtain ⟨other, hother, herror⟩ := ih hrest
        exact ⟨other, List.mem_cons_of_mem x hother, herror⟩
      | ok ys =>
        rw [hx, hrest] at h
        cases h

theorem status_of_decodeWrite {body : Bytes} {e : Error} (h : decodeWrite body = .error e) :
    e.httpStatus = 400 := by
  unfold decodeWrite at h
  split at h
  · cases h
    rfl
  · rename_i request _
    cases hsamples : request.mapM TimeSeries.toSamples with
    | error reason =>
      rw [hsamples] at h
      cases h
      obtain ⟨s, _, hs⟩ := exists_error_of_mapM hsamples
      exact s.status_of_error hs
    | ok samples =>
      rw [hsamples] at h
      cases h

theorem checkBody_of_short {body : Bytes} (h : body.length ≤ bodyLimit) :
    checkBody body = .ok body :=
  if_neg (Nat.not_lt.mpr h)

-- A body that can be read is a call of `write`.
theorem postWrite_of_ok {body : Bytes} {samples : List Sample} (p : Write.Pipeline) (now id : Nat)
    (hshort : body.length ≤ bodyLimit) (h : decodeWrite body = .ok samples) :
    postWrite p now id body =
      ((Write.Pipeline.write now id samples.length samples p).1.map writeResponse,
        (Write.Pipeline.write now id samples.length samples p).2) := by
  unfold postWrite
  rw [checkBody_of_short hshort]
  dsimp only
  rw [h]

theorem postWrite_of_error {body : Bytes} {e : Error} (p : Write.Pipeline) (now id : Nat)
    (hshort : body.length ≤ bodyLimit) (h : decodeWrite body = .error e) :
    postWrite p now id body = (some (.ofError e), p) := by
  unfold postWrite
  rw [checkBody_of_short hshort]
  dsimp only
  rw [h]

theorem status_of_progress {id : Nat} {samples taken : List Sample} {shut : Prop}
    {p : Write.Pipeline} {given : List Write.Result}
    (h : Progress id samples shut p taken given) :
    (given.map writeResponse).length ≤ 1 ∧
      ∀ r ∈ given.map writeResponse, r.status = 204 ∧ taken = samples ∨ r.status = 503 ∧ shut := by
  cases h with
  | waits hown hall => exact ⟨Nat.zero_le 1, fun r hr => absurd hr List.not_mem_nil⟩
  | ends hown =>
    refine ⟨Nat.le_refl 1, fun r hr => .inl ⟨?_, rfl⟩⟩
    rw [List.mem_singleton.mp hr]
    rfl
  | fails hown hfirst hshut =>
    refine ⟨Nat.le_refl 1, fun r hr => .inr ⟨?_, hshut⟩⟩
    rw [List.mem_singleton.mp hr]
    rfl

-- A body that cannot be read is answered with 400 and changes nothing. Any other is a call that
-- may have to wait while the run goes on; `more` may stop with its answer. That is 204 if all its
-- samples have been added in their order, each once, and else 503, with a shutdown begun and the
-- first so many samples added. `log` is what everybody added, this call under its number. All of it
-- stands in the closed batches and the open one, in that order; each closed batch is in the queue,
-- in somebody's hands or on its way to the store as it was closed, or it is gone; and the counters
-- say how much of it is where.
theorem postWrite_answered (config : Write.Config) (hv : config.validate = .ok ())
    (target : String) (l : Store.Link) (first : Nat) :
    ∃ c, Course.begin config target l first = .ok c ∧
      ∀ before body, body.length ≤ bodyLimit →
        let d := c.after before
        let post := postWrite d.pipeline d.link.now d.next body
        (∀ e, decodeWrite body = .error e →
          post = (some (.ofError e), d.pipeline) ∧ (Response.ofError e).status = 400) ∧
        ∀ samples, decodeWrite body = .ok samples →
          post.1.toList = (addressed d.next (d.answers (.write samples))).map writeResponse ∧
          post.2 = (d.step (.write samples)).pipeline ∧
          ∀ more,
            let events := Course.Event.write samples :: more
            let ending := (d.after events).ending
            let p := (d.after events).pipeline
            let stats := p.record.stats
            let log := c.throughout admitted (before ++ events)
            let taken := addressed d.next log
            let responses := (addressed d.next (d.throughout answers events)).map writeResponse
            responses.length ≤ 1 ∧ taken <+: samples ∧
            (∀ r ∈ responses, r.status = 204 ∧ taken = samples ∨
              r.status = 503 ∧ ending ≠ .notBegun) ∧
            (∃ closed gone : List Write.Batch,
              closed.flatMap Write.Batch.samples ++ p.batch.samples = log.map Prod.snd ∧
              closed.Perm (p.around ++ gone)) ∧
            log.length = stats.accepted ∧
            stats.accepted = p.pending + p.waiting + p.queued + p.inFlight +
              stats.written + stats.dropped + stats.failed +
              (stats.lost + p.reported + p.unreported ending) := by
  obtain ⟨c, hbegin, hc, hopen, hnothing⟩ := Course.begin_welcoming hv target l first
  refine ⟨c, hbegin, fun before body hshort => ?_⟩
  have hlog := Course.after_accepted hc
  rw [hnothing] at hlog
  obtain ⟨hsound, hwelcoming⟩ := Course.after_welcoming hc hopen before
  intro d post
  have hd : d.Sound := hsound
  refine ⟨fun e he => ⟨postWrite_of_error _ _ _ hshort he, status_of_decodeWrite he⟩,
    fun samples hsamples => ?_⟩
  have hpost : post = _ := postWrite_of_ok d.pipeline d.link.now d.next hshort hsamples
  have hanswers : addressed d.next (d.answers (.write samples)) = _ :=
    Course.addressed_answers d (.write samples)
  refine ⟨?_, congrArg Prod.snd hpost, fun more => ?_⟩
  · rw [hanswers, hpost]
    exact Option.toList_map
  · intro events ending p stats log taken responses
    -- nobody had this number before
    have htaken : taken = addressed d.next (d.throughout admitted events) := by
      have hearlier := Course.throughout_later hc before (Nat.le_refl d.next)
      have hsplit : log = _ := Course.throughout_append admitted c before events
      change addressed d.next log = _
      rw [hsplit, addressed_append, hearlier]
      rfl
    have hprogress : Progress d.next samples (ending ≠ .notBegun) p taken
        (addressed d.next (d.throughout answers events)) := by
      rw [htaken]
      exact Course.write_progress_after hd hwelcoming samples more
    obtain ⟨hone, hstatus⟩ := status_of_progress hprogress
    have hrun : c.after (before ++ events) = d.after events := Course.after_append c before events
    have hcontents := Course.begin_contents hbegin hc (before ++ events)
    have hcounted := hlog (before ++ events)
    rw [hrun] at hcontents
    rw [hrun, Nat.zero_add] at hcounted
    exact ⟨hone, hprogress.isPrefix, hstatus, hcontents, hcounted.symm,
      (Course.after_sound hd events).accounted⟩

private def unused : Store.Link := ⟨.empty, .manual 0, 0, ∅, [], 0, 0⟩

private def uploaded : Bytes := Snappy.encode (writeRequestBytes measured)

private theorem uploaded_read :
    ∃ samples, decodeWrite uploaded = .ok samples ∧ samples.length = 2 := by
  have hread : (decodeWrite uploaded).map List.length = .ok 2 := by decide +kernel
  cases hdecoded : decodeWrite uploaded with
  | error e =>
    rw [hdecoded] at hread
    cases hread
  | ok samples =>
    rw [hdecoded] at hread
    exact ⟨samples, rfl, Except.ok.inj hread⟩

-- The shutdown stops the age timer and closes the intake.
private def closing : List Course.Event := [.shutDown, .turn 1, .turn 2]

-- The open batch when the body has come in as the first one, and the closed ones.
private theorem uploaded_kept {c : Course} {samples : List Sample}
    (hbegin : Course.begin default "metrics" unused 0 = .ok c)
    (hsamples : decodeWrite uploaded = .ok samples) :
    (c.step (.write samples)).pipeline.batch.samples = samples ∧
      (c.step (.write samples)).pipeline.around = [] := by
  have hkept : (decodeWrite uploaded).map (fun samples =>
      decide ((c.step (.write samples)).pipeline.batch.samples = samples ∧
        (c.step (.write samples)).pipeline.around = [])) = .ok true := by
    cases hbegin
    decide +kernel
  rw [hsamples] at hkept
  exact of_decide_eq_true (Except.ok.inj hkept)

-- The same two samples are taken in at first and turned away after that; what is no message at all
-- is refused either way.
theorem measured_answered :
    (default : Write.Config).validate = .ok () ∧
    ∃ c samples, Course.begin default "metrics" unused 0 = .ok c ∧
      decodeWrite uploaded = .ok samples ∧ samples.length = 2 ∧
      (postWrite c.pipeline c.link.now c.next uploaded).1.map Response.status = some 204 ∧
      addressed c.next (c.throughout admitted [.write samples]) = samples ∧
      (c.step (.write samples)).pipeline.batch.samples = samples ∧
      (c.step (.write samples)).pipeline.around = [] ∧
      let d := c.after closing
      (postWrite d.pipeline d.link.now d.next uploaded).1.map Response.status = some 503 ∧
      d.ending ≠ .notBegun ∧
      postWrite d.pipeline d.link.now d.next [] = (some (.ofError decodeError), d.pipeline) := by
  have hv : (default : Write.Config).validate = .ok () := by rfl
  obtain ⟨c, hbegin, hall⟩ := postWrite_answered default hv "metrics" unused 0
  obtain ⟨samples, hsamples, htwo⟩ := uploaded_read
  have hshort : uploaded.length ≤ bodyLimit := by decide +kernel
  have hat : ∀ before r, (postWrite (c.after before).pipeline (c.after before).link.now
      (c.after before).next uploaded).1 = some r →
      r.status = 204 ∧ addressed (c.after before).next
          (c.throughout admitted (before ++ [.write samples])) = samples ∨
        r.status = 503 ∧ (c.after before).ending ≠ .notBegun := by
    intro before r hr
    obtain ⟨hanswer, _, hruns⟩ := (hall before uploaded hshort).2 samples hsamples
    obtain ⟨_, _, hstatus, _⟩ := hruns []
    refine hstatus r ?_
    rw [Course.throughout, Course.throughout, List.append_nil, ← hanswer, hr]
    exact List.mem_singleton.mpr rfl
  have hfirst : (postWrite c.pipeline c.link.now c.next uploaded).1.map Response.status =
      some 204 := by
    cases hbegin
    decide +kernel
  have hlater : (postWrite (c.after closing).pipeline (c.after closing).link.now
      (c.after closing).next uploaded).1.map Response.status = some 503 := by
    cases hbegin
    decide +kernel
  obtain ⟨hkept, hnone⟩ := uploaded_kept hbegin hsamples
  obtain ⟨r, hr, htaken⟩ := Option.map_eq_some_iff.mp hfirst
  obtain ⟨r', hr', hturned⟩ := Option.map_eq_some_iff.mp hlater
  refine ⟨hv, c, samples, hbegin, hsamples, htwo, hfirst, ?_, hkept, hnone, hlater, ?_, ?_⟩
  · rcases hat [] r hr with ⟨_, hadded⟩ | ⟨hother, _⟩
    · exact hadded
    · rw [htaken] at hother
      cases hother
  · rcases hat closing r' hr' with ⟨hother, _⟩ | ⟨_, hbegun⟩
    · rw [hturned] at hother
      cases hother
    · exact hbegun
  · exact ((hall closing [] (by decide)).1 decodeError (by decide +kernel)).1

end MetricRelay.Remote
