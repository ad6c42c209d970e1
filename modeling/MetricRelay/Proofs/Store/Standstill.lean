import MetricRelay.Store.Link

-- Time stands still while something runs. A request that sets out or goes on, and a routine that
-- runs until it has to wait, leave the time of the link as it was.

namespace MetricRelay.Store

namespace Link

theorem now_takeRehearsal (l : Link) (name : String) : (l.takeRehearsal name).2.now = l.now := by
  unfold takeRehearsal
  split <;> rfl

theorem now_atStore (l : Link) (r : Request) : (l.atStore r).2.now = l.now := by
  unfold atStore
  generalize l.store.answer l.wallTime r = answered
  rfl

theorem now_replyTo (l : Link) (r : Request) (reply : Reply) :
    (l.replyTo r reply).2.now = l.now := by
  unfold replyTo
  split
  · rfl
  · rfl
  · exact now_atStore l _

theorem now_arrive (l : Link) (r : Request) (reply : Option Reply) :
    (l.arrive r reply).2.now = l.now := by
  unfold arrive
  split
  · exact now_replyTo l r _
  · split
    · exact now_atStore l _
    · rfl
  · exact now_atStore l r

theorem now_depart (l : Link) (r : Request) : (l.depart r).2.now = l.now := by
  unfold depart
  dsimp only
  generalize hlogged : ({ l with log := _ } : Link) = logged
  have hnow : logged.now = l.now := by
    subst hlogged
    rfl
  have htaken := now_takeRehearsal logged r.name
  split
  · rename_i l' htake
    rw [htake] at htaken
    exact (now_arrive l' r none).trans (htaken.trans hnow)
  · rename_i rehearsal l' htake
    rw [htake] at htaken
    split
    · exact (now_arrive l' r rehearsal.reply).trans (htaken.trans hnow)
    · exact htaken.trans hnow

theorem now_start (l : Link) (c : Call) : (l.start c).2.now = l.now := by
  have hdeparted := now_depart l c.request
  unfold start
  split
  · rename_i hdepart
    rw [hdepart] at hdeparted
    exact hdeparted
  · rename_i hdepart _
    rw [hdepart] at hdeparted
    exact hdeparted
  · rename_i hdepart _
    rw [hdepart] at hdeparted
    exact hdeparted

theorem now_advance (l : Link) (r : Request) (leg : Leg) : (l.advance r leg).2.now = l.now := by
  cases leg with
  | travelling reply => exact now_arrive l r reply
  | lingering => exact now_atStore l r

theorem now_resume (l : Link) (c : Call) (p : Pending) : (l.resume c p).2.now = l.now := by
  unfold resume
  split
  · exact now_advance l c.request p.leg
  · rfl

end Link

section

variable {ε α σ : Type}

theorem now_run (add : σ → ε → σ) (l : Link) (s : σ) (r : Routine ε α) :
    (r.run add l s).2.1.now = l.now := by
  induction r generalizing l s with
  | done a => rfl
  | note e rest ih =>
    rw [Routine.run]
    exact ih l (add s e)
  | clock next ih =>
    rw [Routine.run]
    exact ih l.wallTime l s
  | call c next ih =>
    have hstarted := Link.now_start l c
    unfold Routine.run
    split
    · rename_i a l' hstart
      rw [hstart] at hstarted
      exact (ih a l' s).trans hstarted
    · rename_i p l' hstart
      rw [hstart] at hstarted
      exact hstarted
  | pause span next ih =>
    rw [Routine.run]
    generalize span.wholeMillis = ms
    dsimp only
    split
    · exact ih l s
    · rfl

theorem now_suspended_resume (add : σ → ε → σ) (l : Link) (s : σ) (w : Suspended ε α) :
    (w.resume add l s).2.1.now = l.now := by
  cases w with
  | onCall c p next =>
    have hresumed := Link.now_resume l c p
    unfold Suspended.resume
    dsimp only
    split
    · rename_i a l' hresume
      rw [hresume] at hresumed
      exact (now_run add l' s (next a)).trans hresumed
    · rename_i p l' hresume
      rw [hresume] at hresumed
      exact hresumed
  | onTimer timer next =>
    unfold Suspended.resume
    dsimp only
    split
    · exact now_run add l s next
    · rfl

end

end MetricRelay.Store
