import MetricRelay.Store.Routine

-- Everything a routine does, in order, when somebody answers its requests. Who answers is left
-- open: a peer may answer as it likes, and remember what it was asked.

namespace MetricRelay.Store

-- Answers requests, with a remark on how each answer came about.
structure Peer (σ ρ : Type) where
  answer : σ → (c : Call) → Except Error c.request.Answer × ρ × σ
  wall : σ → Int64

-- What a routine is seen to do.
inductive Deed (ε ρ : Type)
  | asked (c : Call) (answer : Except Error c.request.Answer) (remark : ρ)
  | noted (e : ε)
  | paused (span : Duration)

namespace Deed

variable {ε ρ : Type}

def isRequest : Deed ε ρ → Bool
  | .asked _ _ _ => true
  | _ => false

-- How many requests there are among some deeds.
def requests (deeds : List (Deed ε ρ)) : Nat := deeds.countP isRequest

@[simp] theorem requests_nil : requests ([] : List (Deed ε ρ)) = 0 := rfl

@[simp] theorem requests_asked (c : Call) (answer : Except Error c.request.Answer) (remark : ρ)
    (deeds : List (Deed ε ρ)) :
    requests (.asked c answer remark :: deeds) = requests deeds + 1 :=
  List.countP_cons_of_pos rfl

@[simp] theorem requests_noted (e : ε) (deeds : List (Deed ε ρ)) :
    requests (.noted e :: deeds) = requests deeds := by
  simp [requests, isRequest]

@[simp] theorem requests_paused (span : Duration) (deeds : List (Deed ε ρ)) :
    requests (.paused span :: deeds) = requests deeds := by
  simp [requests, isRequest]

@[simp] theorem requests_append (deeds more : List (Deed ε ρ)) :
    requests (deeds ++ more) = requests deeds + requests more :=
  List.countP_append

@[simp] theorem requests_map_noted (es : List ε) :
    requests (es.map .noted : List (Deed ε ρ)) = 0 := by
  induction es with
  | nil => rfl
  | cons e rest ih => rw [List.map_cons, requests_noted, ih]

-- The notes among some deeds.
def notes (deeds : List (Deed ε ρ)) : List ε :=
  deeds.filterMap fun deed =>
    match deed with
    | .noted e => some e
    | _ => none

@[simp] theorem notes_nil : notes ([] : List (Deed ε ρ)) = [] := rfl

@[simp] theorem notes_asked (c : Call) (answer : Except Error c.request.Answer) (remark : ρ)
    (deeds : List (Deed ε ρ)) : notes (.asked c answer remark :: deeds) = notes deeds := rfl

@[simp] theorem notes_noted (e : ε) (deeds : List (Deed ε ρ)) :
    notes (.noted e :: deeds) = e :: notes deeds := rfl

@[simp] theorem notes_paused (span : Duration) (deeds : List (Deed ε ρ)) :
    notes (.paused span :: deeds) = notes deeds := rfl

@[simp] theorem notes_append (deeds more : List (Deed ε ρ)) :
    notes (deeds ++ more) = notes deeds ++ notes more :=
  List.filterMap_append

@[simp] theorem notes_map_noted (es : List ε) :
    notes (es.map .noted : List (Deed ε ρ)) = es := by
  induction es with
  | nil => rfl
  | cons e rest ih => rw [List.map_cons, notes_noted, ih]

-- A request is found behind a deed that is none.
theorem of_cons_of_not_isRequest {d : Deed ε ρ} {deeds before after : List (Deed ε ρ)} {c : Call}
    {answer : Except Error c.request.Answer} {remark : ρ} (hd : d.isRequest = false)
    (h : d :: deeds = before ++ .asked c answer remark :: after) :
    ∃ rest, before = d :: rest ∧ deeds = rest ++ .asked c answer remark :: after := by
  cases List.cons_eq_append_iff.mp h with
  | inl hfirst =>
    obtain ⟨_, hcons⟩ := hfirst
    cases hcons
    cases hd
  | inr hlater => exact hlater

end Deed

namespace Routine

variable {ε ρ σ α : Type}

-- The deeds of a routine from its beginning to its end.
def deeds (peer : Peer σ ρ) (s : σ) : Routine ε α → List (Deed ε ρ)
  | .done _ => []
  | .note e rest => .noted e :: rest.deeds peer s
  | .clock next => (next (peer.wall s)).deeds peer s
  | .call c next =>
    let (answer, remark, s) := peer.answer s c
    .asked c answer remark :: (next answer).deeds peer s
  | .pause span next => .paused span :: next.deeds peer s

-- How it ends, and where that leaves the peer.
def conclude (peer : Peer σ ρ) (s : σ) : Routine ε α → α × σ
  | .done a => (a, s)
  | .note _ rest => rest.conclude peer s
  | .clock next => (next (peer.wall s)).conclude peer s
  | .call c next =>
    let (answer, _, s) := peer.answer s c
    (next answer).conclude peer s
  | .pause _ next => next.conclude peer s

-- Every answer is the peer's.
theorem answer_of_mem_deeds {peer : Peer σ ρ} {s : σ} {r : Routine ε α} {c : Call}
    {answer : Except Error c.request.Answer} {remark : ρ}
    (h : .asked c answer remark ∈ r.deeds peer s) :
    ∃ t, (peer.answer t c).1 = answer ∧ (peer.answer t c).2.1 = remark := by
  induction r generalizing s with
  | done a => simp [deeds] at h
  | note e rest ih => exact ih (by simpa [deeds] using h)
  | clock next ih => exact ih _ h
  | call asked next ih =>
    cases List.mem_cons.mp h with
    | inl he =>
      cases he
      exact ⟨s, rfl, rfl⟩
    | inr hr => exact ih _ hr
  | pause span next ih => exact ih (by simpa [deeds] using h)

-- A routine that does these deeds, ends like this and leaves the peer so.
structure Does (peer : Peer σ ρ) (s : σ) (r : Routine ε α) (deeds : List (Deed ε ρ)) (a : α)
    (s' : σ) : Prop where
  deeds : r.deeds peer s = deeds
  conclude : r.conclude peer s = (a, s')

section

variable {β : Type} {peer : Peer σ ρ} {s s' s'' : σ}

theorem deeds_bind (r : Routine ε α) (f : α → Routine ε β) :
    (r >>= f).deeds peer s =
      r.deeds peer s ++ (f (r.conclude peer s).1).deeds peer (r.conclude peer s).2 := by
  change (r.andThen f).deeds peer s = _
  induction r generalizing s with
  | done a => rfl
  | note e rest ih => exact congrArg _ ih
  | clock next ih => exact ih _
  | call c next ih => exact congrArg _ (ih _)
  | pause span next ih => exact congrArg _ ih

theorem conclude_bind (r : Routine ε α) (f : α → Routine ε β) :
    (r >>= f).conclude peer s =
      (f (r.conclude peer s).1).conclude peer (r.conclude peer s).2 := by
  change (r.andThen f).conclude peer s = _
  induction r generalizing s with
  | done a => rfl
  | note e rest ih => exact ih
  | clock next ih => exact ih _
  | call c next ih => exact ih _
  | pause span next ih => exact ih

theorem Does.bind {r : Routine ε α} {f : α → Routine ε β} {deeds more : List (Deed ε ρ)} {a : α}
    {b : β} (h : Does peer s r deeds a s') (h' : Does peer s' (f a) more b s'') :
    Does peer s (r >>= f) (deeds ++ more) b s'' := by
  refine ⟨?_, ?_⟩
  · rw [deeds_bind, h.conclude, h.deeds, h'.deeds]
  · rw [conclude_bind, h.conclude, h'.conclude]

theorem does_pure (a : α) : Does peer s (pure a : Routine ε α) [] a s := ⟨rfl, rfl⟩

theorem does_tell (e : ε) : Does peer s (tell e) [.noted e] () s := ⟨rfl, rfl⟩

-- What follows on a note does not depend on it.
theorem Does.noting {r : Routine ε α} {deeds : List (Deed ε ρ)} {a : α} (e : ε)
    (h : Does peer s r deeds a s') :
    Does peer s (tell e >>= fun _ => r) (.noted e :: deeds) a s' :=
  (does_tell e).bind (f := fun _ => r) h

theorem does_now : Does peer s (now : Routine ε Int64) [] (peer.wall s) s := ⟨rfl, rfl⟩

theorem does_askWithin (limit : Duration) (r : Request) :
    Does peer s (askWithin limit r : Routine ε _)
      [.asked ⟨r, some limit⟩ (peer.answer s ⟨r, some limit⟩).1
        (peer.answer s ⟨r, some limit⟩).2.1]
      (peer.answer s ⟨r, some limit⟩).1 (peer.answer s ⟨r, some limit⟩).2.2 :=
  ⟨rfl, rfl⟩

end

end Routine

end MetricRelay.Store
