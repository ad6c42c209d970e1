import MetricRelay.Proofs.Traffic.Documents

-- The parties at an alias on a link, where requests are late, run out of time or fail on their way.
-- Whatever a party does between two waits is some of its steps, so a run on a link is traffic.

namespace MetricRelay

open Store (Link Reached Routine Steps Fate)

-- A party that has run on a link as far as it got.
inductive Task
  | starting (r : Reached Empty (Except Error String))
  | cycling (r : Reached Lifecycle.Note (Except Error (Option Lifecycle.Rollover)))
  | delivering (batch : Write.Batch) (r : Reached Write.Delivery.Note Write.Delivery)

-- What it waits for, if anything, makes up no outcomes of a bulk request.
def Store.Reached.Genuine {ε α : Type} (r : Reached ε α) : Prop :=
  ∀ w, r = .suspended w → w.Genuine

def Task.Genuine : Task → Prop
  | .starting r => r.Genuine
  | .cycling r => r.Genuine
  | .delivering _ r => r.Genuine

structure LinkedTraffic where
  link : Link
  tasks : List Task

namespace LinkedTraffic

-- Nobody takes down the notes.
def run {ε α : Type} (l : Link) (r : Routine ε α) : Reached ε α × Link :=
  let (reached, l, _) := r.run (fun (_ : Unit) _ => ()) l ()
  (reached, l)

def goOn {ε α : Type} (l : Link) : Reached ε α → Reached ε α × Link
  | .finished a => (.finished a, l)
  | .suspended w =>
    let (reached, l, _) := w.resume (fun (_ : Unit) _ => ()) l ()
    (reached, l)

def goOnTask (l : Link) : Task → Task × Link
  | .starting r => let (r, l) := goOn l r; (.starting r, l)
  | .cycling r => let (r, l) := goOn l r; (.cycling r, l)
  | .delivering batch r => let (r, l) := goOn l r; (.delivering batch r, l)

inductive Event
  | start (config : Lifecycle.Config)
  | look (config : Lifecycle.Config)
  | deliver (config : Write.Config) (batch : Write.Batch)
  | goOn (task : Nat)
  -- time passes, or requests to come are to go another way: all is as on this link, but for what
  -- the store holds
  | world (l : Link)

def step (aliasName : String) (t : LinkedTraffic) : Event → LinkedTraffic
  | .start config =>
    let (r, link) := run t.link (Lifecycle.provision { config with aliasName := aliasName })
    ⟨link, t.tasks ++ [.starting r]⟩
  | .look config =>
    let (r, link) := run t.link (Lifecycle.cycle { config with aliasName := aliasName })
    ⟨link, t.tasks ++ [.cycling r]⟩
  | .deliver config batch =>
    let (r, link) := run t.link (Write.Delivery.routine config aliasName batch)
    ⟨link, t.tasks ++ [.delivering batch r]⟩
  | .goOn n =>
    match t.tasks[n]? with
    | none => t
    | some task =>
      let (task, link) := goOnTask t.link task
      ⟨link, t.tasks.set n task⟩
  | .world l =>
    { t with link := { l with store := { t.link.store with faults := l.store.faults } } }

def after (aliasName : String) (l : Link) (events : List Event) : LinkedTraffic :=
  events.foldl (step aliasName) ⟨l, []⟩

def Event.Genuine : Event → Prop
  | .world l => l.Genuine
  | _ => True

-- The same party without the link: a wait is over whenever it takes its next step.
inductive Mirrors : Task → Party → Prop
  | starting (r : Reached Empty (Except Error String)) : Mirrors (.starting r) (.starting r.rest)
  | cycling (r : Reached Lifecycle.Note (Except Error (Option Lifecycle.Rollover))) :
      Mirrors (.cycling r) (.cycling r.rest)
  | delivering (batch : Write.Batch) (r : Reached Write.Delivery.Note Write.Delivery)
      (stored : List Document) : Mirrors (.delivering batch r) (.delivering batch stored r.rest)

end LinkedTraffic

namespace Traffic

-- What a party does is what a routine does.
structure Tracks {ε α : Type} (isAt : Routine ε α → Party → Prop) : Prop where
  advance : ∀ {r party}, isAt r party → ∀ s now fate,
    isAt (r.advance s now fate).1 (stepParty s now fate party).1 ∧
      (stepParty s now fate party).2.1 = (r.advance s now fate).2

section

variable {ε α : Type} {isAt : Routine ε α → Party → Prop}

-- Steps of one party's routine are events.
theorem exists_events_of_steps (aliasName : String) (htracks : Tracks isAt)
    {r r' : Routine ε α} {s s' : Store} (h : Steps r s r' s') {t : Traffic} {n : Nat}
    {party : Party} (hs : t.store = s) (hparty : t.parties[n]? = some party) (hr : isAt r party) :
    ∃ (events : List Event) (last : Party), isAt r' last ∧
      (events.foldl (step aliasName) t).store = s' ∧
      (events.foldl (step aliasName) t).parties = t.parties.set n last := by
  induction h generalizing t party with
  | refl r s =>
    obtain ⟨hn, rfl⟩ := List.getElem?_eq_some_iff.mp hparty
    exact ⟨[], _, hr, hs, (List.set_getElem_self hn).symm⟩
  | @step r r' s s' now fate _ ih =>
    subst hs
    obtain ⟨hadvance, hstore⟩ := htracks.advance hr t.store now fate
    have hnext : (step aliasName t (.advance n now fate)).store = (r.advance t.store now fate).2 ∧
        (step aliasName t (.advance n now fate)).parties =
          t.parties.set n (stepParty t.store now fate party).1 := by
      unfold step
      dsimp only
      rw [hparty]
      exact ⟨hstore, rfl⟩
    have hset : (step aliasName t (.advance n now fate)).parties[n]? =
        some (stepParty t.store now fate party).1 := by
      have hn := (List.getElem?_eq_some_iff.mp hparty).1
      rw [hnext.2, List.getElem?_set_self hn]
    obtain ⟨events, last, hlast, hend, hparties⟩ := ih hnext.1 hset hadvance
    refine ⟨.advance n now fate :: events, last, hlast, hend, ?_⟩
    rw [List.foldl_cons, hparties, hnext.2, List.set_set]

end

theorem tracks_starting : Tracks fun r party => party = .starting r where
  advance := by
    rintro r _ rfl s now fate
    exact ⟨rfl, rfl⟩

theorem tracks_cycling : Tracks fun r party => party = .cycling r where
  advance := by
    rintro r _ rfl s now fate
    exact ⟨rfl, rfl⟩

theorem tracks_delivering (batch : Write.Batch) :
    Tracks fun r party => ∃ stored, party = .delivering batch stored r where
  advance := by
    rintro r _ ⟨stored, rfl⟩ s now fate
    exact ⟨⟨_, rfl⟩, rfl⟩

end Traffic

namespace LinkedTraffic

open Store (Further)

section

variable {ε α : Type} {l : Link}

theorem run_further (hl : l.Genuine) (r : Routine ε α) :
    Further r l ((run l r).1, (run l r).2, ()) :=
  Store.run_further _ r hl ()

theorem goOn_further (hl : l.Genuine) {r : Reached ε α} (hr : r.Genuine) :
    Further r.rest l ((goOn l r).1, (goOn l r).2, ()) := by
  cases r with
  | finished a => exact ⟨.refl _ _, hl, hr⟩
  | suspended w => exact Store.resume_further _ hl (hr w rfl) ()

end

-- The traffic that a run on a link is.
structure Alike (u : LinkedTraffic) (t : Traffic) : Prop where
  store : t.store = u.link.store
  parties : List.Forall₂ Mirrors u.tasks t.parties
  link : u.link.Genuine
  tasks : ∀ task ∈ u.tasks, task.Genuine

section

variable {aliasName : String} {u : LinkedTraffic} {t : Traffic} {ε α : Type}
  {isAt : Routine ε α → Party → Prop} {r : Routine ε α} {reached : Reached ε α} {link : Link}
  {task task' : Task}

theorem forall₂_set {xs : List Task} {ys : List Party} (h : List.Forall₂ Mirrors xs ys)
    {party : Party} (hxy : Mirrors task party) (n : Nat) :
    List.Forall₂ Mirrors (xs.set n task) (ys.set n party) := by
  induction h generalizing n with
  | nil => exact .nil
  | cons hhead htail ih =>
    cases n with
    | zero => exact .cons hxy htail
    | succ n => exact .cons hhead (ih n)

theorem exists_party {xs : List Task} {ys : List Party} (h : List.Forall₂ Mirrors xs ys) {n : Nat}
    (hn : xs[n]? = some task) : ∃ party, ys[n]? = some party ∧ Mirrors task party := by
  induction h generalizing n with
  | nil => cases hn
  | cons hhead htail ih =>
    cases n with
    | zero =>
      cases hn
      exact ⟨_, rfl, hhead⟩
    | succ n => exact ih hn

-- A party goes on.
theorem Alike.goesOn (h : Alike u t) {n : Nat} (hn : u.tasks[n]? = some task)
    (hfurther : Further r u.link (reached, link, ())) (htracks : Traffic.Tracks isAt)
    (hat : ∀ party, Mirrors task party → isAt r party)
    (hmirrors : ∀ party, isAt reached.rest party → Mirrors task' party)
    (hsound : task'.Genuine) :
    ∃ events : List Traffic.Event, Alike ⟨link, u.tasks.set n task'⟩
      (events.foldl (Traffic.step aliasName) t) := by
  obtain ⟨party, hparty, hmirror⟩ := exists_party h.parties hn
  obtain ⟨events, last, hlast, hstore, hparties⟩ := Traffic.exists_events_of_steps
    aliasName htracks hfurther.steps h.store hparty (hat party hmirror)
  refine ⟨events, hstore, ?_, hfurther.genuine, fun other hother => ?_⟩
  · rw [hparties]
    exact forall₂_set h.parties (hmirrors last hlast) n
  · rcases List.mem_or_eq_of_mem_set hother with hother | rfl
    · exact h.tasks other hother
    · exact hsound

-- A party joins and goes as far as it gets.
theorem Alike.joins (h : Alike u t) {e : Traffic.Event} {party : Party}
    (he : Traffic.step aliasName t e = t.join party) (hat : isAt r party)
    (hfurther : Further r u.link (reached, link, ())) (htracks : Traffic.Tracks isAt)
    (hmirrors : ∀ party, isAt reached.rest party → Mirrors task party)
    (hsound : task.Genuine) :
    ∃ events : List Traffic.Event, Alike ⟨link, u.tasks ++ [task]⟩
      (events.foldl (Traffic.step aliasName) t) := by
  have hparty : (t.join party).parties[t.parties.length]? = some party :=
    List.getElem?_concat_length
  obtain ⟨events, last, hlast, hstore, hparties⟩ := Traffic.exists_events_of_steps
    aliasName htracks hfurther.steps (t := t.join party) h.store hparty hat
  refine ⟨e :: events, ?_, ?_, hfurther.genuine, fun other hother => ?_⟩
  · rw [List.foldl_cons, he]
    exact hstore
  · have hset : (t.join party).parties.set t.parties.length last = t.parties ++ [last] := by
      simp [Traffic.join]
    rw [List.foldl_cons, he, hparties, hset]
    exact List.rel_append h.parties (.cons (hmirrors last hlast) .nil)
  · rcases List.mem_append.mp hother with hother | hother
    · exact h.tasks other hother
    · rw [List.mem_singleton.mp hother]
      exact hsound

theorem goOnTask_alike (h : Alike u t) {n : Nat} (hn : u.tasks[n]? = some task) :
    ∃ events : List Traffic.Event,
      Alike ⟨(goOnTask u.link task).2, u.tasks.set n (goOnTask u.link task).1⟩
        (events.foldl (Traffic.step aliasName) t) := by
  have hgenuine := h.tasks task (List.mem_of_getElem? hn)
  cases task with
  | starting r =>
    have hfurther := goOn_further h.link (r := r) hgenuine
    refine h.goesOn hn hfurther Traffic.tracks_starting ?_ ?_ hfurther.suspended
    · rintro _ ⟨⟩
      rfl
    · rintro _ rfl
      exact .starting _
  | cycling r =>
    have hfurther := goOn_further h.link (r := r) hgenuine
    refine h.goesOn hn hfurther Traffic.tracks_cycling ?_ ?_ hfurther.suspended
    · rintro _ ⟨⟩
      rfl
    · rintro _ rfl
      exact .cycling _
  | delivering batch r =>
    have hfurther := goOn_further h.link (r := r) hgenuine
    refine h.goesOn hn hfurther (Traffic.tracks_delivering batch) ?_ ?_ hfurther.suspended
    · rintro _ ⟨⟩
      exact ⟨_, rfl⟩
    · rintro _ ⟨stored, rfl⟩
      exact .delivering batch _ stored

theorem step_alike (h : Alike u t) {e : Event} (he : e.Genuine) :
    ∃ events : List Traffic.Event,
      Alike (step aliasName u e) (events.foldl (Traffic.step aliasName) t) := by
  cases e with
  | start config =>
    have hfurther := run_further h.link
      (Lifecycle.provision { config with aliasName := aliasName } : Routine Empty _)
    refine h.joins (e := .start config) rfl rfl hfurther Traffic.tracks_starting ?_
      hfurther.suspended
    rintro _ rfl
    exact .starting _
  | look config =>
    have hfurther := run_further h.link (Lifecycle.cycle { config with aliasName := aliasName })
    refine h.joins (e := .look config) rfl rfl hfurther Traffic.tracks_cycling ?_
      hfurther.suspended
    rintro _ rfl
    exact .cycling _
  | deliver config batch =>
    have hfurther := run_further h.link (Write.Delivery.routine config aliasName batch)
    refine h.joins (e := .deliver config batch) rfl ⟨[], rfl⟩ hfurther
      (Traffic.tracks_delivering batch) ?_ hfurther.suspended
    rintro _ ⟨stored, rfl⟩
    exact .delivering batch _ stored
  | goOn n =>
    unfold step
    dsimp only
    split
    · exact ⟨[], h⟩
    · rename_i hn
      exact goOnTask_alike h hn
  | world l =>
    refine ⟨[.inject l.store.faults], ?_, h.parties, he, h.tasks⟩
    change ({ t.store with faults := l.store.faults } : Store) = _
    rw [h.store]
    rfl

theorem after_alike {l : Link} (hl : l.Genuine) {events : List Event}
    (hevents : ∀ e ∈ events, e.Genuine) :
    ∃ traffic : List Traffic.Event,
      Alike (after aliasName l events) (Traffic.after aliasName l.store traffic) := by
  refine List.foldlRecOn (motive := fun u => ∃ traffic, Alike u
    (Traffic.after aliasName l.store traffic)) events (step aliasName)
    ⟨[], rfl, .nil, hl, fun _ h => by cases h⟩ ?_
  rintro u ⟨traffic, hu⟩ e he
  obtain ⟨more, hmore⟩ := step_alike hu (hevents e he)
  refine ⟨traffic ++ more, ?_⟩
  rw [Traffic.after, List.foldl_append]
  exact hmore

end

-- Whatever is late, runs out of time or fails on its way, what the store accepted is kept: the run
-- is that of some traffic in which it is.
theorem accepted_kept_on_link {aliasName : String} {l : Link}
    (hs : Traffic.Provided aliasName l.store) (hl : l.Genuine) {events : List Event}
    (hevents : ∀ e ∈ events, e.Genuine) :
    let u := after aliasName l events
    ∃ t : Traffic, t.store = u.link.store ∧ List.Forall₂ Mirrors u.tasks t.parties ∧
      Traffic.Kept aliasName l.store t := by
  obtain ⟨traffic, halike⟩ := after_alike hl hevents
  exact ⟨_, halike.store, halike.parties, (Traffic.after_kept hs traffic).1⟩

end LinkedTraffic

end MetricRelay
