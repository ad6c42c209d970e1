import MetricRelay.Store.Link

-- A store that is reached without delay and has no faults to come. Every request is answered at
-- once, and by the store itself.

namespace MetricRelay.Store

-- No request makes faults.

theorem judgeAll_none (docs : List Document) :
    judgeAll .none docs = (docs.map fun d => (judge .none d).1, .none) := by
  have hjudge : ∀ d, (judge .none d).2 = .none := by
    intro d
    unfold judge
    rw [if_neg (by simp [Faults.none])]
    split
    · rfl
    · rfl
  induction docs with
  | nil => rfl
  | cons d rest ih => simp only [judgeAll, hjudge, ih, List.map_cons]

theorem judge_none (d : Document) :
    (judge .none d).1 = if d.value.isFinite then .accepted
      else .permanent "mapper_parsing_exception: [value] supports only finite values" := by
  unfold judge
  rw [if_neg (by simp [Faults.none])]
  cases d.value.isFinite <;> rfl

section

variable {s : Store}

theorem faults_bulk (h : s.faults = .none) (target : String) (docs : List Document) :
    (s.bulk target docs).2.faults = .none := by
  unfold bulk
  dsimp only
  split
  · rename_i hbulk
    rw [h] at hbulk
    cases hbulk
  · split
    · exact h
    · split
      · exact h
      · rw [h, judgeAll_none]

theorem faults_createIndex (h : s.faults = .none) (now : Int64) (index : String)
    (asked : Option Index.Settings) (writeAlias : Option String) :
    (s.createIndex now index asked writeAlias).2.faults = .none := by
  unfold createIndex
  dsimp only
  split
  · rename_i hcreations
    rw [h] at hcreations
    cases hcreations
  · split
    · split <;> exact h
    · split
      · exact h
      · split <;> exact h

theorem faults_updateAliases (h : s.faults = .none) (actions : List AliasAction) :
    (s.updateAliases actions).2.faults = .none := by
  unfold updateAliases
  split
  · rename_i hupdates
    rw [h] at hupdates
    cases hupdates
  · dsimp only
    split <;> exact h

theorem faults_answer (h : s.faults = .none) (now : Int64) (r : Request) :
    (s.answer now r).2.faults = .none := by
  cases r with
  | bulk target docs => exact faults_bulk h target docs
  | createIndex index settings writeAlias => exact faults_createIndex h now index settings writeAlias
  | updateAliases actions => exact faults_updateAliases h actions
  | putTemplate template =>
    change (s.putTemplate template).2.faults = .none
    unfold putTemplate
    split <;> exact h
  | writeIndex aliasName => exact h
  | indexStats index => exact h
  | search query => exact h
  | ping => exact h

end

namespace Link

variable {l : Link}

structure Clear (l : Link) : Prop where
  rehearsals : l.rehearsals = ∅
  faults : l.store.faults = .none

-- The link after a request that the store answered.
def served (l : Link) (r : Request) : Link :=
  { l with
    store := (l.store.answer l.wallTime r).2
    log := ⟨l.now, r.name, r.target, r.size⟩ :: l.log }

theorem Clear.served (h : l.Clear) (r : Request) : (l.served r).Clear :=
  ⟨h.rehearsals, faults_answer h.faults l.wallTime r⟩

theorem arrive_of_clear (h : l.Clear) (r : Request) : l.arrive r none = l.atStore r := by
  cases r with
  | bulk target docs =>
    unfold arrive
    rw [h.faults]
    rfl
  | _ => rfl

-- The link once a request has set out.
def logged (l : Link) (r : Request) : Link :=
  { l with log := ⟨l.now, r.name, r.target, r.size⟩ :: l.log }

theorem depart_of_unrehearsed (h : l.rehearsals = ∅) (r : Request) :
    l.depart r = (l.logged r).arrive r none := by
  have hnone : l.rehearsals.find? r.name = none := by
    rw [h]
    rfl
  unfold depart takeRehearsal
  dsimp only
  rw [hnone]
  rfl

theorem depart_of_clear (h : l.Clear) (r : Request) :
    l.depart r = (.answered (l.store.answer l.wallTime r).1, l.served r) := by
  have hlogged : (l.logged r).Clear := ⟨h.rehearsals, h.faults⟩
  rw [depart_of_unrehearsed h.rehearsals, arrive_of_clear hlogged]
  rfl

theorem start_of_clear (h : l.Clear) (c : Call) :
    l.start c = (.answered (l.store.answer l.wallTime c.request).1, l.served c.request) := by
  unfold start
  rw [depart_of_clear h]

end Link

-- A routine's next request is answered, and it goes on.
theorem run_call_of_clear {ε α σ : Type} {l : Link} (h : l.Clear) (add : σ → ε → σ) (s : σ)
    (c : Call) (next : Except Error c.request.Answer → Routine ε α) :
    Routine.run add l s (.call c next) =
      (next (l.store.answer l.wallTime c.request).1).run add (l.served c.request) s := by
  rw [Routine.run, Link.start_of_clear h]

end MetricRelay.Store
