import MetricRelay.Proofs.Cluster.Framing
import MetricRelay.Proofs.Cluster.Peer
import Mathlib.Data.List.Forall2

-- The reply to a bulk request: a list of items, each of which says by a status what became of one
-- document. The outcomes go by these statuses, each by its own and all in the order of the items,
-- and there are none at all unless there is an item for each document.

namespace MetricRelay

theorem mapM_eq_some_iff {α β : Type} {f : α → Option β} {xs : List α} {ys : List β} :
    xs.mapM f = some ys ↔ List.Forall₂ (fun x y => f x = some y) xs ys := by
  induction xs generalizing ys with
  | nil =>
    rw [List.mapM_nil, List.forall₂_nil_left_iff]
    exact ⟨fun h => (Option.some.inj h).symm, fun h => h ▸ rfl⟩
  | cons x xs ih =>
    rw [List.mapM_cons, List.forall₂_cons_left_iff]
    constructor
    · intro h
      obtain ⟨y, hy, h⟩ := Option.bind_eq_some_iff.mp h
      obtain ⟨more, hmore, h⟩ := Option.bind_eq_some_iff.mp h
      exact ⟨y, more, hy, ih.mp hmore, (Option.some.inj h).symm⟩
    · rintro ⟨y, more, hy, hmore, rfl⟩
      rw [hy, ih.mpr hmore]
      rfl

namespace Json

abbrev Member := Option (List Char) × Spelling

-- The values that the members of an object have under a name.
def given (name : String) (members : List Member) : List Spelling :=
  (members.filter fun m => m.1 = some name.toList).map Prod.snd

theorem given_append (name : String) (members more : List Member) :
    given name (members ++ more) = given name members ++ given name more := by
  simp [given]

theorem given_self (name : String) (item : Spelling) :
    given name [(some name.toList, item)] = [item] := by
  simp [given]

theorem given_of_ne {name : String} {m : Member} (h : m.1 ≠ some name.toList) :
    given name [m] = [] := by
  simp [given, h]

-- A field that may be given once: what there is of it before and after some values.
inductive Taken {α : Type} (read : Spelling → Option α) (before : Option α) :
    List Spelling → Option α → Prop
  | absent : Taken read before [] before
  | once {value : Spelling} {a : α} (missing : before = none) (readable : read value = some a) :
      Taken read before [value] (some a)

section

variable {α : Type} {read : Spelling → Option α} {before after : Option α}

theorem taken_nil : Taken read before [] after ↔ before = after := by
  constructor
  · intro h
    cases h
    rfl
  · rintro rfl
    exact .absent

theorem taken_singleton {value : Spelling} : Taken read before [value] after ↔
    before = none ∧ ∃ a, read value = some a ∧ after = some a := by
  constructor
  · intro h
    cases h with
    | once missing readable => exact ⟨missing, _, readable, rfl⟩
  · rintro ⟨missing, a, readable, rfl⟩
    exact .once missing readable

theorem taken_append {values more : List Spelling} : Taken read before (values ++ more) after ↔
    ∃ mid, Taken read before values mid ∧ Taken read mid more after := by
  constructor
  · intro h
    match values with
    | [] => exact ⟨before, .absent, h⟩
    | value :: values =>
      generalize hall : value :: values ++ more = all at h
      cases h with
      | absent => cases hall
      | once missing readable =>
        obtain ⟨rfl, hnil⟩ := List.cons.inj hall
        obtain ⟨rfl, rfl⟩ := List.append_eq_nil_iff.mp hnil
        exact ⟨_, .once missing readable, .absent⟩
  · rintro ⟨mid, hvalues, hmore⟩
    cases hvalues with
    | absent => exact hmore
    | once missing readable =>
      cases hmore with
      | absent => exact .once missing readable
      | once taken => cases taken

end

end Json

namespace Cluster

open Json (Spelling Member given Taken)

def Legible (members : List Member) : Prop := ∀ m ∈ members, m.1 ≠ none

theorem legible_cons {m : Member} {members : List Member} :
    Legible (m :: members) ↔ m.1 ≠ none ∧ Legible members := by
  simp only [Legible, List.forall_mem_cons]

-- What an entry tells: a status, and an error if there is one.
inductive Tells : Spelling → BulkItem → Prop
  | fields {members : List Member} {status : Nat} {error : Option (Option Json)}
      (legible : Legible members)
      (once : Taken BulkItem.status? none (given "status" members) (some status))
      (mention : Taken BulkItem.error? none (given "error" members) error) :
      Tells (.object members) ⟨status, error.getD none⟩
  | alone {s : Spelling} {status : Nat} (first : BulkItem.status? s = some status) :
      Tells (.array [s]) ⟨status, none⟩
  | pair {s e : Spelling} {status : Nat} {error : Option Json}
      (first : BulkItem.status? s = some status) (second : BulkItem.error? e = some error) :
      Tells (.array [s, e]) ⟨status, error⟩

open Json (given_append given_self given_of_ne taken_nil taken_singleton taken_append)

theorem member?_status (p : BulkItem.Partial) (item : Spelling) :
    p.member? (some "status".toList) item =
      if p.status.isSome then none
      else (BulkItem.status? item).map fun status => { p with status := some status } := by
  rw [BulkItem.Partial.member?, Option.bind_eq_bind, Option.bind_some, if_pos rfl]
  congr 1
  cases BulkItem.status? item <;> rfl

theorem member?_error (p : BulkItem.Partial) (item : Spelling) :
    p.member? (some "error".toList) item =
      if p.error.isSome then none
      else (BulkItem.error? item).map fun error => { p with error := some error } := by
  rw [BulkItem.Partial.member?, Option.bind_eq_bind, Option.bind_some, if_neg (by decide),
    if_pos rfl]
  congr 1
  cases BulkItem.error? item <;> rfl

theorem member?_other {key : List Char} (hstatus : key ≠ "status".toList)
    (herror : key ≠ "error".toList) (p : BulkItem.Partial) (item : Spelling) :
    p.member? (some key) item = some p := by
  rw [BulkItem.Partial.member?, Option.bind_eq_bind, Option.bind_some, if_neg hstatus,
    if_neg herror]

-- Each member is passed over or is the one value of a field.
theorem member?_iff {p q : BulkItem.Partial} {m : Member} :
    p.member? m.1 m.2 = some q ↔ m.1 ≠ none ∧
      Taken BulkItem.status? p.status (given "status" [m]) q.status ∧
      Taken BulkItem.error? p.error (given "error" [m]) q.error := by
  obtain ⟨key, item⟩ := m
  obtain ⟨status, error⟩ := p
  obtain ⟨status', error'⟩ := q
  cases key with
  | none =>
    constructor
    · intro h
      cases h
    · rintro ⟨h, -⟩
      exact absurd rfl h
  | some key =>
    have hne : "status".toList ≠ "error".toList := by decide
    by_cases hstatus : key = "status".toList
    · subst hstatus
      rw [member?_status, given_self, given_of_ne fun h => hne (Option.some.inj h),
        taken_singleton, taken_nil]
      cases status <;> cases BulkItem.status? item <;> simp [eq_comm]
    · by_cases herror : key = "error".toList
      · subst herror
        rw [member?_error, given_self, given_of_ne fun h => hne.symm (Option.some.inj h),
          taken_singleton, taken_nil]
        cases error <;> cases BulkItem.error? item <;> simp [eq_comm]
      · rw [member?_other hstatus herror, given_of_ne (fun h => hstatus (Option.some.inj h)),
          given_of_ne (fun h => herror (Option.some.inj h)), taken_nil, taken_nil]
        simp

theorem foldlM_member?_iff {members : List Member} {p q : BulkItem.Partial} :
    members.foldlM (fun (p : BulkItem.Partial) m => p.member? m.1 m.2) p = some q ↔
      Legible members ∧ Taken BulkItem.status? p.status (given "status" members) q.status ∧
        Taken BulkItem.error? p.error (given "error" members) q.error := by
  induction members generalizing p with
  | nil =>
    obtain ⟨status, error⟩ := p
    obtain ⟨status', error'⟩ := q
    simp [Legible, given, taken_nil]
  | cons m members ih =>
    rw [List.foldlM_cons, legible_cons, ← List.singleton_append, given_append, given_append,
      taken_append, taken_append]
    constructor
    · intro h
      obtain ⟨mid, hm, h⟩ := Option.bind_eq_some_iff.mp h
      obtain ⟨hkey, hstatus, herror⟩ := member?_iff.mp hm
      obtain ⟨hlegible, hstatuses, herrors⟩ := ih.mp h
      exact ⟨⟨hkey, hlegible⟩, ⟨mid.status, hstatus, hstatuses⟩, ⟨mid.error, herror, herrors⟩⟩
    · rintro ⟨⟨hkey, hlegible⟩, ⟨status, hstatus, hstatuses⟩, ⟨error, herror, herrors⟩⟩
      apply Option.bind_eq_some_iff.mpr
      exact ⟨⟨status, error⟩, member?_iff.mpr ⟨hkey, hstatus, herror⟩,
        ih.mpr ⟨hlegible, hstatuses, herrors⟩⟩

theorem ofSpelling?_iff {s : Spelling} {item : BulkItem} :
    BulkItem.ofSpelling? s = some item ↔ Tells s item := by
  constructor
  · intro h
    unfold BulkItem.ofSpelling? at h
    split at h
    · obtain ⟨p, hp, h⟩ := Option.bind_eq_some_iff.mp h
      obtain ⟨status, hstatus, h⟩ := Option.bind_eq_some_iff.mp h
      obtain ⟨hlegible, honce, hmention⟩ := foldlM_member?_iff.mp hp
      cases h
      rw [hstatus] at honce
      exact .fields hlegible honce hmention
    · obtain ⟨status, hstatus, h⟩ := Option.bind_eq_some_iff.mp h
      cases h
      exact .alone hstatus
    · obtain ⟨status, hstatus, h⟩ := Option.bind_eq_some_iff.mp h
      obtain ⟨error, herror, h⟩ := Option.bind_eq_some_iff.mp h
      cases h
      exact .pair hstatus herror
    · cases h
  · intro h
    cases h with
    | @fields members status error legible once mention =>
      have hfold : members.foldlM (fun (p : BulkItem.Partial) m => p.member? m.1 m.2) ⟨none, none⟩ =
          some ⟨some status, error⟩ := foldlM_member?_iff.mpr ⟨legible, once, mention⟩
      show (members.foldlM (fun (p : BulkItem.Partial) m => p.member? m.1 m.2) _).bind _ = _
      rw [hfold]
      rfl
    | alone first =>
      show (BulkItem.status? _).bind _ = _
      rw [first]
      rfl
    | pair first second =>
      show (BulkItem.status? _).bind _ = _
      rw [first]
      show (BulkItem.error? _).bind _ = _
      rw [second]
      rfl

-- Items.

-- An item that is an object with an entry for the action.
def HasEntry (item : Spelling) : Prop :=
  ∃ members, item = .object members ∧ given "index" members ≠ []

-- The status of an item, which its entry tells; of several entries it is the last. The others have
-- to tell something as well.
inductive Answered : Spelling → Nat → Prop
  | mk {members : List Member} {entry : Spelling} {told : BulkItem} (legible : Legible members)
      (others : ∀ m ∈ members, ∃ told, Tells m.2 told)
      (last : (given "index" members).getLast? = some entry) (tells : Tells entry told) :
      Answered (.object members) told.status

theorem actionAnswers?_append (members : List Member) (m : Member) :
    actionAnswers? (.object (members ++ [m])) =
      (actionAnswers? (.object members)).bind fun answers =>
        m.1.bind fun key => (BulkItem.ofSpelling? m.2).map fun told =>
          answers.insert (String.ofList key) told := by
  obtain ⟨key, item⟩ := m
  simp only [actionAnswers?, List.foldlM_append, List.foldlM_cons, List.foldlM_nil]
  congr 1
  funext answers
  cases key <;> cases BulkItem.ofSpelling? item <;> rfl

theorem actionAnswers?_object {members : List Member} {answers : Keyed BulkItem}
    (h : actionAnswers? (.object members) = some answers) :
    Legible members ∧ (∀ m ∈ members, ∃ told, Tells m.2 told) ∧
      answers.find? "index" = (given "index" members).getLast?.bind BulkItem.ofSpelling? := by
  induction members using List.reverseRecOn generalizing answers with
  | nil =>
    cases h
    exact ⟨by simp [Legible], by simp, rfl⟩
  | append_singleton members m ih =>
    obtain ⟨key, item⟩ := m
    rw [actionAnswers?_append] at h
    obtain ⟨before, hbefore, h⟩ := Option.bind_eq_some_iff.mp h
    obtain ⟨k, rfl, h⟩ := Option.bind_eq_some_iff.mp h
    obtain ⟨told, htold, rfl⟩ := Option.map_eq_some_iff.mp h
    obtain ⟨hlegible, htells, hfind⟩ := ih hbefore
    refine ⟨?_, ?_, ?_⟩
    · intro m hm
      rcases List.mem_append.mp hm with hm | hm
      · exact hlegible m hm
      · rw [List.mem_singleton.mp hm]
        exact Option.some_ne_none k
    · intro m hm
      rcases List.mem_append.mp hm with hm | hm
      · exact htells m hm
      · rw [List.mem_singleton.mp hm]
        exact ⟨told, ofSpelling?_iff.mp htold⟩
    · rw [given_append]
      by_cases hk : k = "index".toList
      · subst hk
        rw [given_self, List.getLast?_append, String.ofList_toList, Keyed.find?_insert_self]
        exact htold.symm
      · have hne : "index" ≠ String.ofList k := by
          intro he
          rw [he, String.toList_ofList] at hk
          exact hk rfl
        rw [given_of_ne fun h => hk (Option.some.inj h), List.append_nil,
          Keyed.find?_insert_of_ne _ _ hne, hfind]

theorem exists_actionAnswers? {members : List Member} (hlegible : Legible members)
    (htells : ∀ m ∈ members, ∃ told, Tells m.2 told) :
    ∃ answers, actionAnswers? (.object members) = some answers := by
  induction members using List.reverseRecOn with
  | nil => exact ⟨_, rfl⟩
  | append_singleton members m ih =>
    obtain ⟨before, hbefore⟩ := ih (fun n hn => hlegible n (List.mem_append_left _ hn))
      fun n hn => htells n (List.mem_append_left _ hn)
    obtain ⟨key, hkey⟩ := Option.ne_none_iff_exists'.mp (hlegible m (by simp))
    obtain ⟨told, htold⟩ := htells m (by simp)
    rw [actionAnswers?_append, hbefore, Option.bind_some, hkey, Option.bind_some,
      ofSpelling?_iff.mpr htold]
    exact ⟨_, rfl⟩

theorem answered_iff {members : List Member} {status : Nat} :
    Answered (.object members) status ↔ ∃ answers told,
      actionAnswers? (.object members) = some answers ∧ answers.find? "index" = some told ∧
        told.status = status := by
  constructor
  · intro hanswered
    cases hanswered with
    | mk legible others last tells =>
      obtain ⟨answers, hanswers⟩ := exists_actionAnswers? legible others
      obtain ⟨-, -, hfind⟩ := actionAnswers?_object hanswers
      rw [last, Option.bind_some, ofSpelling?_iff.mpr tells] at hfind
      exact ⟨answers, _, hanswers, hfind, rfl⟩
  · rintro ⟨answers, told, hanswers, hfind, rfl⟩
    obtain ⟨hlegible, htells, hlast⟩ := actionAnswers?_object hanswers
    rw [hfind] at hlast
    obtain ⟨entry, hentry, htold⟩ := Option.bind_eq_some_iff.mp hlast.symm
    exact .mk hlegible htells hentry (ofSpelling?_iff.mp htold)

-- An item with an entry that can be read at all says a status.
theorem answered_of_actionAnswers? {item : Spelling} {answers : Keyed BulkItem}
    (hentry : HasEntry item) (h : actionAnswers? item = some answers) :
    ∃ status, Answered item status := by
  obtain ⟨members, rfl, hgiven⟩ := hentry
  obtain ⟨-, htells, hfind⟩ := actionAnswers?_object h
  obtain ⟨entry, hlast⟩ := List.getLast?_isSome.mpr hgiven |> Option.isSome_iff_exists.mp
  obtain ⟨m, hm, rfl⟩ := List.mem_map.mp (List.mem_of_getLast? hlast)
  obtain ⟨told, htold⟩ := htells m (List.mem_of_mem_filter hm)
  rw [hlast, Option.bind_some, ofSpelling?_iff.mpr htold] at hfind
  exact ⟨told.status, answered_iff.mpr ⟨answers, told, h, hfind, rfl⟩⟩

-- What an outcome amounts to, without its reason.
inductive Verdict
  | accepted
  | retryable
  | permanent
deriving DecidableEq

def verdict : Store.Outcome → Verdict
  | .accepted => .accepted
  | .retryable _ => .retryable
  | .permanent _ => .permanent

def verdictOf (status : Nat) : Verdict :=
  if 200 ≤ status ∧ status < 300 then .accepted
  else if status ∈ [408, 429, 502, 503, 504] then .retryable
  else .permanent

theorem verdict_outcome (item : BulkItem) : verdict item.outcome = verdictOf item.status := by
  unfold BulkItem.outcome verdictOf
  by_cases hsuccess : 200 ≤ item.status ∧ item.status < 300
  · rw [if_pos hsuccess, if_pos hsuccess]
    rfl
  · rw [if_neg hsuccess, if_neg hsuccess]
    have hretry : isRetryableStatus item.status = true ↔
        item.status ∈ [408, 429, 502, 503, 504] := by
      simp [isRetryableStatus, or_assoc]
    by_cases hmem : item.status ∈ [408, 429, 502, 503, 504]
    · rw [if_pos hmem, if_pos (hretry.mpr hmem)]
      rfl
    · rw [if_neg hmem, if_neg fun h => hmem (hretry.mp h)]
      rfl

theorem verdict_outcomeOf {answers : Keyed BulkItem} {told : BulkItem}
    (h : answers.find? "index" = some told) :
    verdict (outcomeOf answers) = verdictOf told.status := by
  rw [outcomeOf, h]
  exact verdict_outcome told

-- Replies.

-- The items that a reply lists.
inductive Lists : Spelling → List Spelling → Prop
  | field {members : List Member} {items : List Spelling} (legible : Legible members)
      (once : given "items" members = [.array items]) : Lists (.object members) items
  | missing {members : List Member} (legible : Legible members)
      (none : given "items" members = []) : Lists (.object members) []
  | alone {items : List Spelling} : Lists (.array [.array items]) items
  | empty : Lists (.array []) []

theorem lists_functional {tree : Spelling} {items others : List Spelling} (h : Lists tree items)
    (hothers : Lists tree others) : items = others := by
  cases h with
  | field legible once =>
    cases hothers with
    | field _ again =>
      rw [once] at again
      cases again
      rfl
    | missing _ none =>
      rw [once] at none
      cases none
  | missing legible none =>
    cases hothers with
    | field _ once =>
      rw [none] at once
      cases once
    | missing => rfl
  | alone =>
    cases hothers
    rfl
  | empty =>
    cases hothers
    rfl

theorem answerLists?_iff {s : Spelling} {answers : List (Keyed BulkItem)} :
    answerLists? s = some answers ↔ ∃ items, s = .array items ∧
      List.Forall₂ (fun item a => actionAnswers? item = some a) items answers := by
  cases s with
  | array items => simp [answerLists?, mapM_eq_some_iff]
  | _ => simp [answerLists?]

theorem bulkMember?_iff {found after : Option (List (Keyed BulkItem))} {m : Member} :
    bulkMember? found m.1 m.2 = some after ↔
      m.1 ≠ none ∧ Taken answerLists? found (given "items" [m]) after := by
  obtain ⟨key, item⟩ := m
  cases key with
  | none =>
    constructor
    · intro h
      cases h
    · rintro ⟨h, -⟩
      exact absurd rfl h
  | some key =>
    rw [bulkMember?, Option.bind_eq_bind, Option.bind_some]
    by_cases hitems : key = "items".toList
    · subst hitems
      rw [if_pos rfl, given_self, taken_singleton]
      cases found <;> cases answerLists? item <;> simp [eq_comm]
    · rw [if_neg hitems, given_of_ne fun h => hitems (Option.some.inj h), taken_nil]
      simp

theorem foldlM_bulkMember?_iff {members : List Member}
    {found after : Option (List (Keyed BulkItem))} :
    members.foldlM (fun found m => bulkMember? found m.1 m.2) found = some after ↔
      Legible members ∧ Taken answerLists? found (given "items" members) after := by
  induction members generalizing found with
  | nil => simp [Legible, given, taken_nil]
  | cons m members ih =>
    rw [List.foldlM_cons, legible_cons, ← List.singleton_append, given_append, taken_append]
    constructor
    · intro h
      obtain ⟨mid, hm, h⟩ := Option.bind_eq_some_iff.mp h
      obtain ⟨hkey, hfirst⟩ := bulkMember?_iff.mp hm
      obtain ⟨hlegible, hothers⟩ := ih.mp h
      exact ⟨⟨hkey, hlegible⟩, mid, hfirst, hothers⟩
    · rintro ⟨⟨hkey, hlegible⟩, mid, hfirst, hothers⟩
      exact Option.bind_eq_some_iff.mpr
        ⟨mid, bulkMember?_iff.mpr ⟨hkey, hfirst⟩, ih.mpr ⟨hlegible, hothers⟩⟩

theorem bulkAnswers?_iff {tree : Spelling} {answers : List (Keyed BulkItem)} :
    bulkAnswers? tree = some answers ↔ ∃ items, Lists tree items ∧
      List.Forall₂ (fun item a => actionAnswers? item = some a) items answers := by
  constructor
  · intro h
    unfold bulkAnswers? at h
    split at h
    · obtain ⟨found, hfound, h⟩ := Option.bind_eq_some_iff.mp h
      obtain ⟨hlegible, htaken⟩ := foldlM_bulkMember?_iff.mp hfound
      cases h
      generalize hvalues : given "items" _ = values at htaken
      cases htaken with
      | absent => exact ⟨[], .missing hlegible hvalues, .nil⟩
      | once _ readable =>
        obtain ⟨items, rfl, hitems⟩ := answerLists?_iff.mp readable
        exact ⟨items, .field hlegible hvalues, hitems⟩
    · cases h
      exact ⟨[], .empty, .nil⟩
    · obtain ⟨items, rfl, hitems⟩ := answerLists?_iff.mp h
      exact ⟨items, .alone, hitems⟩
    · cases h
  · rintro ⟨items, hlists, hitems⟩
    have hread : answerLists? (.array items) = some answers := answerLists?_iff.mpr ⟨_, rfl, hitems⟩
    cases hlists with
    | @field members _ legible once =>
      have hfold : members.foldlM (fun found m => bulkMember? found m.1 m.2) none =
          some (some answers) :=
        foldlM_bulkMember?_iff.mpr ⟨legible, once ▸ .once rfl hread⟩
      show (members.foldlM (fun found m => bulkMember? found m.1 m.2) none).bind _ = _
      rw [hfold]
      rfl
    | @missing members legible none =>
      have hfold : members.foldlM (fun found m => bulkMember? found m.1 m.2) Option.none =
          some Option.none :=
        foldlM_bulkMember?_iff.mpr ⟨legible, none ▸ .absent⟩
      cases hitems
      show (members.foldlM (fun found m => bulkMember? found m.1 m.2) Option.none).bind _ = _
      rw [hfold]
      rfl
    | alone => exact hread
    | empty =>
      cases hitems
      rfl

-- How the answer to a bulk request for so many documents stands to the reply.
structure Paired (documents : Nat) (reply : Reply) (answer : Except Error (List Store.Outcome)) :
    Prop where
  -- With an item for each document, the outcomes go by the statuses, one by one.
  answered : ∀ tree items statuses, Json.spelling? reply.content.toList = some tree →
    Lists tree items → items.length = documents → List.Forall₂ Answered items statuses →
    ∃ outcomes, answer = .ok outcomes ∧ outcomes.map verdict = statuses.map verdictOf
  -- An entry that says no status spoils the whole reply.
  garbled : ∀ tree items, Json.spelling? reply.content.toList = some tree → Lists tree items →
    (∀ item ∈ items, HasEntry item) → (∃ item ∈ items, ∀ status, ¬Answered item status) →
    answer = .error (.transport .undecodable)
  -- Any other number of items is an error, and so is a reply that lists none at all.
  miscounted : ∀ tree items, Json.spelling? reply.content.toList = some tree → Lists tree items →
    items.length ≠ documents → ∃ e, answer = .error e
  counted : ∀ outcomes, answer = .ok outcomes → outcomes.length = documents ∧
    ∃ tree items, Json.spelling? reply.content.toList = some tree ∧ Lists tree items ∧
      items.length = documents

theorem forall₂_verdict {items : List Spelling} {statuses : List Nat}
    (h : List.Forall₂ Answered items statuses) : ∃ answers,
    List.Forall₂ (fun item a => actionAnswers? item = some a) items answers ∧
      (answers.map outcomeOf).map verdict = statuses.map verdictOf := by
  induction h with
  | nil => exact ⟨[], .nil, rfl⟩
  | @cons item status items statuses hitem _ ih =>
    obtain ⟨answers, hanswers, hverdicts⟩ := ih
    obtain ⟨members, rfl⟩ : ∃ members, item = .object members := by
      cases hitem
      exact ⟨_, rfl⟩
    obtain ⟨a, told, ha, hfind, rfl⟩ := answered_iff.mp hitem
    refine ⟨a :: answers, .cons ha hanswers, ?_⟩
    simp only [List.map_cons, verdict_outcomeOf hfind, hverdicts]

theorem bulkOutcomes_of_readBulk? {documents : Nat} {reply : Reply}
    {answers : List (Keyed BulkItem)} (h : readBulk? reply.content = some answers) :
    bulkOutcomes documents reply =
      if answers.length = documents then .ok (answers.map outcomeOf)
      else .error (.internal ("bulk response has " ++ toString answers.length ++ " items for " ++
        toString documents ++ " documents")) := by
  rw [bulkOutcomes, h]

theorem paired_bulkOutcomes (documents : Nat) (reply : Reply) :
    Paired documents reply (bulkOutcomes documents reply) where
  answered := by
    intro tree items statuses htree hlists hlength hanswered
    obtain ⟨answers, hanswers, hverdicts⟩ := forall₂_verdict hanswered
    have hread : readBulk? reply.content = some answers := by
      rw [readBulk?, htree]
      exact bulkAnswers?_iff.mpr ⟨items, hlists, hanswers⟩
    refine ⟨answers.map outcomeOf, ?_, hverdicts⟩
    rw [bulkOutcomes_of_readBulk? hread, if_pos (hanswers.length_eq ▸ hlength)]
  garbled := by
    rintro tree items htree hlists hentries ⟨item, hitem, hunanswered⟩
    have hread : readBulk? reply.content = none := by
      rw [readBulk?, htree, Option.bind_some]
      cases hanswers : bulkAnswers? tree with
      | none => rfl
      | some answers =>
        obtain ⟨others, hothers, hread⟩ := bulkAnswers?_iff.mp hanswers
        rw [lists_functional hothers hlists] at hread
        obtain ⟨i, hi, rfl⟩ := List.getElem_of_mem hitem
        have hlt : i < answers.length := hread.length_eq ▸ hi
        obtain ⟨status, hstatus⟩ := answered_of_actionAnswers? (hentries _ hitem) (hread.get hi hlt)
        exact absurd hstatus (hunanswered status)
    rw [bulkOutcomes, hread]
  miscounted := by
    intro tree items htree hlists hlength
    cases hread : readBulk? reply.content with
    | none => exact ⟨.transport .undecodable, by rw [bulkOutcomes, hread]⟩
    | some answers =>
      have hanswers := hread
      rw [readBulk?, htree, Option.bind_some] at hanswers
      obtain ⟨others, hothers, hitems⟩ := bulkAnswers?_iff.mp hanswers
      rw [lists_functional hothers hlists] at hitems
      rw [bulkOutcomes_of_readBulk? hread, if_neg (hitems.length_eq ▸ hlength)]
      exact ⟨_, rfl⟩
  counted := by
    intro outcomes h
    cases hread : readBulk? reply.content with
    | none =>
      rw [bulkOutcomes, hread] at h
      cases h
    | some answers =>
      rw [bulkOutcomes_of_readBulk? hread] at h
      split at h
      · rename_i hlength
        cases h
        obtain ⟨tree, htree, hanswers⟩ := Option.bind_eq_some_iff.mp hread
        obtain ⟨items, hlists, hitems⟩ := bulkAnswers?_iff.mp hanswers
        exact ⟨by rw [List.length_map, hlength], tree, items, htree, hlists,
          hitems.length_eq.trans hlength⟩
      · cases h

theorem bulk_framed_and_paired (target : String) (docs : List Document) (client : Client) :
    (¬Talk.Reaches client "_bulk" ∧
      ∃ e left, (Talk.bulk target docs).run client = .done (.error e, left)) ∨
    ∃ url body next, (Talk.bulk target docs).run client =
        .send ⟨.post, url, some "application/x-ndjson", body⟩ next ∧
      Framed target docs body ∧
      ∀ reply, reply.isSuccess = true → ∃ answer left,
        next (.ok reply) = .done (answer, left) ∧ Paired docs.length reply answer := by
  rcases Talk.bulk_run target docs client with hlost | ⟨url, left, hrun⟩
  · exact .inl hlost
  · refine .inr ⟨url, _, _, hrun, framed_bulkBody target docs, fun reply hsuccess => ?_⟩
    refine ⟨_, left, rfl, ?_⟩
    have hcheck : reply.check = .ok reply := if_pos hsuccess
    rw [Hearing.outcomes, hcheck]
    exact paired_bulkOutcomes docs.length reply

theorem reaches_lone : Talk.Reaches lone "_bulk" :=
  ⟨⟨"http", "", "", some (.domain "node"), none, .segments ["_bulk"], none, none⟩, _, rfl,
    by decide +kernel⟩

-- One document stored, the other to be sent again.
def halfStored : Json :=
  .obj [("took", .int 3), ("errors", .bool true), ("items", .arr
    [.obj [("index", .obj [("status", .int 201)])],
      .obj [("index", .obj [("_id", .null), ("status", .int 429),
        ("error", .obj [("type", .str "es_rejected_execution_exception")])])]])]

theorem half_stored_paired : ∃ url body next outcomes left,
    (Talk.bulk "m\n\"" [.escaped, .escaped]).run lone =
      .send ⟨.post, url, some "application/x-ndjson", body⟩ next ∧
    Text.newlineBytes body = 4 ∧
    next (.ok ⟨200, halfStored.render⟩) = .done (.ok outcomes, left) ∧
    outcomes.map verdict = [.accepted, .retryable] := by
  rcases bulk_framed_and_paired "m\n\"" [.escaped, .escaped] lone with
    ⟨hlost, -⟩ | ⟨url, body, next, hrun, hframed, hnext⟩
  · exact absurd reaches_lone hlost
  · obtain ⟨answer, left, hanswer, hpaired⟩ := hnext ⟨200, halfStored.render⟩ rfl
    have htree : Json.spelling? halfStored.render.toList = some (Json.spelled halfStored) := by
      rw [Json.render, String.toList_ofList, Json.spelling?_chars]
    obtain ⟨outcomes, rfl, hverdicts⟩ := hpaired.answered _ _ [201, 429] htree
      (.field (by simp [Legible, Json.spelledMembers]) rfl) rfl
      (.cons (answered_iff.mpr ⟨_, _, rfl, rfl, rfl⟩)
        (.cons (answered_iff.mpr ⟨_, _, rfl, rfl, rfl⟩) .nil))
    exact ⟨url, body, next, outcomes, left, hrun, hframed.newlines, hanswer, hverdicts⟩

end Cluster

end MetricRelay
