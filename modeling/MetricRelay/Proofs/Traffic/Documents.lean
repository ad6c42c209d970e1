import MetricRelay.Proofs.Traffic.Basic

-- Nothing is lost or stored twice while the writes move from index to index: what the store accepts
-- is in the index that took the writes at that moment, and stays there within reach of the alias.

namespace MetricRelay

open Store (Routine Fate)

-- Documents of a party's batch that the store has accepted.
def Party.stored : Party → List Document
  | .delivering _ stored _ => stored
  | _ => []

namespace Traffic

open Lifecycle (IsMember StrangersEmpty)

-- A store in which an alias has an index to write to, and in which no other index is in its way.
structure Provided (aliasName : String) (s : Store) : Prop where
  aliases : s.AliasesSound
  writer : ∃ index, s.writeIndex? aliasName = some index
  noIndex : s.indices.contains aliasName = false
  strangers : StrangersEmpty s aliasName

-- What was accepted since the alias was at `s`.
structure Kept (aliasName : String) (s : Store) (t : Traffic) : Prop where
  -- it is in the index that took the writes then, once, and nothing else is in any index
  documents : ∀ index, t.store.documents index = s.documents index ++
    (t.accepted.filter fun a => a.1 == some index).map Prod.snd
  members : ∀ a ∈ t.accepted, ∃ index, a.1 = some index ∧ IsMember t.store aliasName index
  reachable : (t.store.reachable aliasName).Perm
    (s.reachable aliasName ++ t.accepted.map Prod.snd)
  -- it is what the deliveries got accepted, each at most what it was to deliver
  deliveries : (t.accepted.map Prod.snd).Perm (t.parties.flatMap Party.stored)
  batches : ∀ batch stored r, Party.delivering batch stored r ∈ t.parties →
    stored.Subperm batch.documents ∧ ∀ d, r = .done d → d.written = stored.length

-- One step changes no index but the one that takes the writes, and none at all if nothing is
-- accepted.
structure Steady (aliasName : String) (t u : Traffic) : Prop where
  accepted : ∃ more : List Document, u.accepted =
    t.accepted ++ more.map fun d => (t.store.writeIndex? aliasName, d)
  others : ∀ index, t.store.writeIndex? aliasName ≠ some index →
    u.store.documents index = t.store.documents index
  nothing : u.accepted = t.accepted →
    ∀ index, u.store.documents index = t.store.documents index

section

variable {aliasName : String} {s : Store} {t u : Traffic} {more : List Document}

theorem Proceeds.steady (h : Proceeds aliasName t more u) (ht : Sound aliasName t) :
    Steady aliasName t u := by
  have hdocuments := h.store.documents ht.noIndex
  refine ⟨⟨more, h.accepted⟩, fun index hne => ?_, fun hsame index => ?_⟩
  · rw [hdocuments, if_neg hne, List.append_nil]
  · have hnone : more = [] := by
      rw [h.accepted] at hsame
      simpa using hsame
    rw [hdocuments, hnone]
    simp

-- Documents by the index they went to.
theorem filter_landed (writer : Option String) (more : List Document) (index : String) :
    ((more.map fun d => (writer, d)).filter fun a => a.1 == some index).map Prod.snd =
      if writer = some index then more else [] := by
  induction more with
  | nil => simp
  | cons d rest ih =>
    rw [List.map_cons, List.filter_cons]
    by_cases hw : writer = some index
    · simp only [hw, beq_self_eq_true, if_true, List.map_cons] at ih ⊢
      rw [ih]
    · simp [hw]

theorem Changes.strangers {t : Store} (h : Changes aliasName s t more)
    (hno : s.indices.contains aliasName = false) (hstrangers : StrangersEmpty s aliasName) :
    StrangersEmpty t aliasName := by
  intro index hn hi
  have hold : ¬ IsMember s aliasName index := fun hm => hi (h.later index hm)
  rw [h.documents hno, hstrangers index hn hold, if_neg]
  · rfl
  · exact fun hw => hold (Lifecycle.isMember_of_writeIndex? hw)

theorem Changes.reachable {t : Store} (h : Changes aliasName s t more)
    (hs : Provided aliasName s) :
    (t.reachable aliasName).Perm (s.reachable aliasName ++ more) := by
  cases h with
  | rest => simp
  | faults faults =>
    rw [List.append_nil]
    exact .refl _
  | orderly h now =>
    rw [List.append_nil]
    exact Lifecycle.orderly_reachable hs.noIndex hs.strangers h now
  | bulk docs =>
    obtain ⟨index, hw⟩ := hs.writer
    exact Store.reachable_bulk hs.aliases hs.noIndex hw docs

theorem Changes.provided {t : Store} (h : Changes aliasName s t more)
    (hs : Provided aliasName s) : Provided aliasName t := by
  refine ⟨h.sound hs.aliases, ?_, h.noIndex hs.noIndex,
    h.strangers hs.noIndex hs.strangers⟩
  obtain ⟨index, hw⟩ := hs.writer
  rcases h.writeIndex? hs.aliases with hsame | ⟨hnone, _⟩ | ⟨_, next, _, _, hnext⟩
  · exact ⟨index, hsame.trans hw⟩
  · rw [hnone] at hw
    cases hw
  · exact ⟨next, hnext⟩

-- Who stored what.

theorem stepParty_stored {party : Party} (h : Promises aliasName s party) (now : Int64)
    (fate : Fate) :
    (stepParty s now fate party).1.stored = party.stored ++ (stepParty s now fate party).2.2 := by
  cases party with
  | starting r => exact (meets_receipts h fate).symm
  | cycling r => exact (meets_receipts h fate).symm
  | delivering batch stored r => rfl

theorem flatMap_set_perm {parties : List Party} {n : Nat} {before after : Party}
    (h : parties[n]? = some before) (hstored : after.stored = before.stored ++ more) :
    ((parties.set n after).flatMap Party.stored).Perm (parties.flatMap Party.stored ++ more) := by
  induction parties generalizing n with
  | nil => simp at h
  | cons first rest ih =>
    cases n with
    | zero =>
      cases h
      simp only [List.set_cons_zero, List.flatMap_cons, hstored, List.append_assoc]
      exact List.perm_append_comm.append_left _
    | succ n =>
      simp only [List.set_cons_succ, List.flatMap_cons, List.append_assoc]
      exact (ih (by simpa using h)).append_left _

theorem step_stored (ht : Sound aliasName t) (e : Event)
    (h : (t.accepted.map Prod.snd).Perm (t.parties.flatMap Party.stored)) :
    ((step aliasName t e).accepted.map Prod.snd).Perm
      ((step aliasName t e).parties.flatMap Party.stored) := by
  cases e with
  | start config => simpa [step, join, Party.stored] using h
  | look config => simpa [step, join, Party.stored] using h
  | deliver config batch => simpa [step, join, Party.stored] using h
  | inject faults => exact h
  | advance n now fate =>
    unfold step
    dsimp only
    split
    · exact h
    · rename_i party hparty
      have hp := ht.promises party (List.mem_of_getElem? hparty)
      have hmap : ∀ more : List Document,
          (more.map fun d => (t.store.writeIndex? aliasName, d)).map Prod.snd = more := by
        intro more
        simp
      dsimp only
      rw [List.map_append, hmap]
      exact (h.append_right _).trans (flatMap_set_perm hparty (stepParty_stored hp now fate)).symm

theorem Proceeds.kept (h : Proceeds aliasName t more u) (ht : Provided aliasName t.store)
    (hstored : (u.accepted.map Prod.snd).Perm (u.parties.flatMap Party.stored))
    (hk : Kept aliasName s t) : Kept aliasName s u where
  documents index := by
    rw [h.store.documents ht.noIndex, hk.documents, h.accepted, List.filter_append,
      List.map_append, filter_landed, List.append_assoc]
  members a ha := by
    rw [h.accepted] at ha
    rcases List.mem_append.mp ha with ha | ha
    · obtain ⟨index, hw, hm⟩ := hk.members a ha
      exact ⟨index, hw, h.store.later index hm⟩
    · obtain ⟨d, _, rfl⟩ := List.mem_map.mp ha
      obtain ⟨index, hw⟩ := ht.writer
      exact ⟨index, hw, h.store.later index (Lifecycle.isMember_of_writeIndex? hw)⟩
  reachable := by
    refine (h.store.reachable ht).trans ((hk.reachable.append_right more).trans (.of_eq ?_))
    rw [h.accepted]
    simp
  deliveries := hstored
  batches batch stored r hm := by
    obtain ⟨owed, docs, soFar, hsettles, hsub, hwritten⟩ := h.sound.promises _ hm
    refine ⟨(List.sublist_append_left stored docs).subperm.trans hsub, ?_⟩
    rintro d rfl
    cases hsettles
    exact hwritten

theorem begin_kept (aliasName : String) (s : Store) : Kept aliasName s (begin aliasName s) :=
  ⟨fun index => by simp [begin], fun _ h => (by cases h), by simp [begin], .refl _,
    fun _ _ _ h => (by cases h)⟩

theorem after_kept (hs : Provided aliasName s) (events : List Event) :
    Kept aliasName s (after aliasName s events) ∧
      Provided aliasName (after aliasName s events).store ∧
      Sound aliasName (after aliasName s events) := by
  refine List.foldlRecOn (motive := fun t => Kept aliasName s t ∧ Provided aliasName t.store ∧
    Sound aliasName t) events (step aliasName)
    ⟨begin_kept aliasName s, hs, begin_sound hs.aliases hs.noIndex⟩ ?_
  rintro t ⟨hk, hp, ht⟩ e _
  obtain ⟨more, h⟩ := step_proceeds ht e
  exact ⟨h.kept hp (step_stored ht e hk.deliveries) hk, h.store.provided hp, h.sound⟩

end

-- A request that got lost leaves no trace.
theorem store_of_lost (t : Traffic) (aliasName : String) (n : Nat) (now : Int64) (e : Error) :
    (step aliasName t (.advance n now (.lost e))).store = t.store := by
  have hadvance : ∀ {ε α : Type} (r : Routine ε α),
      (r.advance t.store now (.lost e)).2 = t.store := by
    intro ε α r
    cases r <;> rfl
  unfold step
  dsimp only
  split
  · rfl
  · rename_i party _
    cases party <;> exact hadvance _

theorem accepted_kept {aliasName : String} {s : Store} (hs : Provided aliasName s)
    (events : List Event) :
    let t := after aliasName s events
    Kept aliasName s t ∧
    (∀ e, Steady aliasName t (step aliasName t e)) ∧
    (∀ n now e, (step aliasName t (.advance n now (.lost e))).store = t.store) ∧
    ∀ docs e, (t.store.bulk aliasName docs).1 = .error e →
      ∀ index, (t.store.bulk aliasName docs).2.documents index = t.store.documents index := by
  obtain ⟨hk, hp, ht⟩ := after_kept hs events
  refine ⟨hk, fun e => ?_, fun n now e => ?_, fun docs e he index => ?_⟩
  · obtain ⟨more, h⟩ := step_proceeds ht e
    exact h.steady ht
  · exact store_of_lost _ aliasName n now e
  · rw [Store.documents_bulk hp.noIndex, Store.taken, he]
    simp

-- A store without indices, as it is after a first start.
theorem provided_of_bare {aliasName index : String} {s : Store} (hindices : s.indices = ∅)
    (haliases : s.aliases = ∅) (hfaults : s.faults = .none) (h : Lifecycle.First aliasName index)
    (now : Int64) (settings : Index.Settings) :
    let created := s.createIndex now index (some settings) (some aliasName)
    created.1 = .ok .created ∧ Provided aliasName created.2 ∧
      created.2.reachable aliasName = [] := by
  obtain ⟨indices, aliases, templates, revision, faults, requests⟩ := s
  dsimp only at hindices haliases hfaults
  subst hindices haliases hfaults
  dsimp only
  have hsound : Store.AliasesSound ⟨∅, ∅, templates, revision, .none, requests⟩ := by
    intro other members hm
    cases hm
  have hempty : ∀ other, (Store.createIndex ⟨∅, ∅, templates, revision, .none, requests⟩ now index
      (some settings) (some aliasName)).2.documents other = [] := by
    intro other
    rw [Store.documents_createIndex]
    rfl
  refine ⟨rfl, ⟨Store.createIndex_sound hsound now index (some settings) (some aliasName),
    ⟨index, ?_⟩, ?_, fun other _ _ => hempty other⟩, ?_⟩
  · refine (Store.writeIndex?_eq_some_iff (Store.createIndex_sound hsound now index
      (some settings) (some aliasName)) aliasName index).mpr
      ⟨(∅ : Store.Members).insert index true, ?_, Store.soleWriter_insert_empty index⟩
    exact Keyed.find?_insert_self _ _ _
  · rw [Keyed.not_contains_iff]
    exact Keyed.find?_insert_of_ne _ _ h.ne_aliasName.symm
  · unfold Store.reachable
    exact List.flatMap_eq_nil_iff.mpr fun other _ => hempty other

theorem provided_createIndex {aliasName index : String} (h : Lifecycle.First aliasName index)
    (now : Int64) (settings : Index.Settings) :
    Provided aliasName
      (Store.empty.createIndex now index (some settings) (some aliasName)).2 :=
  (provided_of_bare rfl rfl rfl h now settings).2.1

theorem accepted_kept_from_first_start :
    let s := (Store.empty.createIndex 0 "metrics-000001" (some default) (some "metrics")).2
    Provided "metrics" s ∧ ∀ events,
      let t := after "metrics" s events
      Kept "metrics" s t ∧
      (∀ e, Steady "metrics" t (step "metrics" t e)) ∧
      (∀ n now e, (step "metrics" t (.advance n now (.lost e))).store = t.store) ∧
      ∀ docs e, (t.store.bulk "metrics" docs).1 = .error e →
        ∀ index, (t.store.bulk "metrics" docs).2.documents index = t.store.documents index :=
  have hs := provided_createIndex (.inl (by decide)) 0 default
  ⟨hs, fun events => accepted_kept hs events⟩

end Traffic

end MetricRelay
