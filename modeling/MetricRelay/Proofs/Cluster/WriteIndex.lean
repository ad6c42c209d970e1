import MetricRelay.Lifecycle.Policy
import MetricRelay.Proofs.Cluster.Peer
import MetricRelay.Proofs.Json.Spelling

-- Which member of an alias a cluster is taken to write to. The flag of a member is found by a
-- pointer that has the alias for a step, as long as the alias has neither a slash nor an escape;
-- and a member that is the only one is taken whatever its flag says.

namespace MetricRelay

namespace Json

-- Pointers.

theorem length_unescapeStep_le (cs : List Char) : (unescapeStep cs).length ≤ cs.length := by
  fun_induction unescapeStep cs with
  | case1 rest ih => simp only [List.length_cons]; omega
  | case2 rest ih => simp only [List.length_cons]; omega
  | case3 c rest _ _ ih => simp only [List.length_cons]; omega
  | case4 => exact Nat.le_refl _

-- Only a text that stands for itself keeps its length.
theorem length_unescapeStep_lt {cs : List Char} (h : unescapeStep cs ≠ cs) :
    (unescapeStep cs).length < cs.length := by
  fun_induction unescapeStep cs with
  | case1 rest ih =>
    have hle := length_unescapeStep_le rest
    simp only [List.length_cons]
    omega
  | case2 rest ih =>
    have hle := length_unescapeStep_le rest
    simp only [List.length_cons]
    omega
  | case3 c rest _ _ ih =>
    have hlt := ih fun he => h (by rw [he])
    simp only [List.length_cons]
    omega
  | case4 => exact absurd rfl h

-- A name is no place in a list, unless it is a number.
theorem step?_name {j : Json} {name : String}
    (h : ∀ items, j = .arr items → position? name.toList = none) :
    j.step? name.toList = j.get? name := by
  cases j with
  | obj members => simp [step?]
  | arr items => simp [step?, get?, h items rfl]
  | _ => rfl

end Json

namespace Cluster

-- The flag of an alias in what is said of one of its members, if there is one.
def flag? (aliasName : String) (about : Json) : Option Json :=
  ((about.get? "aliases").bind (·.get? aliasName)).bind (·.get? "is_write_index")

-- The member that takes the writes: the one with the flag, or an only one without any.
inductive TakesWrites (aliasName : String) (members : List (String × Json)) : Option String → Prop
  | flagged {m : String × Json} (member : m ∈ members)
      (flag : flag? aliasName m.2 = some (.bool true)) : TakesWrites aliasName members (some m.1)
  | only {m : String × Json} (sole : members = [m]) (unflagged : flag? aliasName m.2 = none) :
      TakesWrites aliasName members (some m.1)
  | nobody (unflagged : ∀ m ∈ members, flag? aliasName m.2 ≠ some (.bool true))
      (several : ∀ m, members = [m] → flag? aliasName m.2 ≠ none) :
      TakesWrites aliasName members none

-- A name that is a step of a pointer as it stands.
def Plain (name : String) : Prop :=
  '/' ∉ name.toList ∧ Json.unescapeStep name.toList = name.toList

def flagPointer (aliasName : String) : String := "/aliases/" ++ aliasName ++ "/is_write_index"

def isFlagged (aliasName : String) (about : Json) : Bool :=
  ((about.pointer? (flagPointer aliasName)).bind Json.bool?).getD false

theorem toList_flagPointer (aliasName : String) : (flagPointer aliasName).toList =
    [] ++ '/' :: ("aliases".toList ++
      '/' :: (aliasName.toList ++ '/' :: "is_write_index".toList)) := by
  simp [flagPointer]

section

variable {aliasName : String} {about : Json}

theorem pointer?_of_plain (h : Plain aliasName) :
    about.pointer? (flagPointer aliasName) = ((about.step? "aliases".toList).bind
      (·.step? aliasName.toList)).bind (·.step? "is_write_index".toList) := by
  have hfirst : Json.unescapeStep "aliases".toList = "aliases".toList := by decide
  have hlast : Json.unescapeStep "is_write_index".toList = "is_write_index".toList := by decide
  rw [Json.pointer?, toList_flagPointer, Text.splitAt_append (by simp),
    Text.splitAt_append (by decide), Text.splitAt_append h.1, Text.splitAt_of_not_mem (by decide)]
  simp only [List.foldlM_cons, List.foldlM_nil, hfirst, h.2, hlast, Option.bind_eq_bind,
    Option.pure_def, Option.bind_assoc, Option.bind_fun_some]

-- The pointer leads to the flag, unless the alias counts places of a list.
theorem isFlagged_of_plain (h : Plain aliasName)
    (hlist : ∀ items, about.get? "aliases" = some (.arr items) →
      Json.position? aliasName.toList = none) :
    isFlagged aliasName about = true ↔ flag? aliasName about = some (.bool true) := by
  have hreached : about.pointer? (flagPointer aliasName) = flag? aliasName about := by
    rw [pointer?_of_plain h, Json.step?_name fun _ _ => by decide, flag?]
    cases haliases : about.get? "aliases" with
    | none => rfl
    | some aliases =>
      have hitems : ∀ items, aliases = .arr items → Json.position? aliasName.toList = none :=
        fun items hi => hlist items (hi ▸ haliases)
      simp only [Option.bind_some, Json.step?_name hitems]
      congr 1
      funext entry
      exact Json.step?_name fun _ _ => by decide
  rw [isFlagged, hreached]
  cases flag? aliasName about with
  | none => simp
  | some value => cases value <;> simp [Json.bool?]

-- Any other alias is taken apart, and no part of it is the alias.
theorem not_isFlagged_of_not_plain (h : ¬Plain aliasName) {value : Json}
    (hsole : about.get? "aliases" = some (.obj [(aliasName, value)])) :
    isFlagged aliasName about = false := by
  obtain ⟨step, more, hsplit, hshort⟩ : ∃ step more,
      Text.splitAt '/' (aliasName.toList ++ '/' :: "is_write_index".toList) = step :: more ∧
      (Json.unescapeStep step).length < aliasName.toList.length := by
    by_cases hslash : '/' ∈ aliasName.toList
    · obtain ⟨before, after, hparts, hbefore⟩ := List.eq_append_cons_of_mem hslash
      have hle := Json.length_unescapeStep_le before
      rw [hparts, List.append_assoc, List.cons_append, Text.splitAt_append hbefore]
      refine ⟨_, _, rfl, ?_⟩
      simp only [List.length_append, List.length_cons]
      omega
    · rw [Text.splitAt_append hslash]
      exact ⟨_, _, rfl, Json.length_unescapeStep_lt fun he => h ⟨hslash, he⟩⟩
  have hne : aliasName ≠ String.ofList (Json.unescapeStep step) := by
    intro he
    rw [he, String.toList_ofList] at hshort
    omega
  have hfirst : Json.unescapeStep "aliases".toList = "aliases".toList := by decide
  have hmissed : about.pointer? (flagPointer aliasName) = none := by
    rw [Json.pointer?, toList_flagPointer, Text.splitAt_append (by simp),
      Text.splitAt_append (by decide), hsplit]
    simp only [List.foldlM_cons, hfirst]
    rw [Json.step?_name fun _ _ => by decide, hsole]
    simp [Json.step?, Json.get?, hne]
  rw [isFlagged, hmissed]
  rfl

end

-- Members.

section

variable {aliasName : String} {members : List (String × Json)}

theorem writeMember?_flagged {m : String × Json}
    (h : members.find? (fun m => isFlagged aliasName m.2) = some m) :
    writeMember? aliasName (.obj members) = some m.1 := by
  obtain ⟨name, about⟩ := m
  unfold isFlagged flagPointer at h
  simp [writeMember?, Json.members?, h]

theorem writeMember?_several (h : members.find? (fun m => isFlagged aliasName m.2) = none)
    (hseveral : ∀ m, members ≠ [m]) : writeMember? aliasName (.obj members) = none := by
  unfold isFlagged flagPointer at h
  simp only [writeMember?, Json.members?, Option.bind_eq_bind, Option.bind_some, h]
  cases members with
  | nil => rfl
  | cons m rest =>
    cases rest with
    | nil => exact absurd rfl (hseveral m)
    | cons n more => rfl

-- Whatever its flag says.
theorem writeMember?_sole (aliasName : String) (m : String × Json) :
    writeMember? aliasName (.obj [m]) = some m.1 := by
  cases hfind : [m].find? fun m => isFlagged aliasName m.2 with
  | some n =>
    rw [writeMember?_flagged hfind, List.mem_singleton.mp (List.mem_of_find?_eq_some hfind)]
  | none =>
    unfold isFlagged flagPointer at hfind
    simp only [writeMember?, Json.members?, Option.bind_eq_bind, Option.bind_some, hfind]

theorem takesWrites_writeMember?
    (hread : ∀ m ∈ members,
      isFlagged aliasName m.2 = true ↔ flag? aliasName m.2 = some (.bool true)) :
    TakesWrites aliasName members (writeMember? aliasName (.obj members)) ↔
      ∀ m value, members = [m] → flag? aliasName m.2 = some value → value = .bool true := by
  by_cases hsole : ∃ m, members = [m]
  · obtain ⟨m, rfl⟩ := hsole
    rw [writeMember?_sole]
    constructor
    · intro h n value hn hvalue
      cases hn
      generalize hfound : some m.1 = found at h
      cases h with
      | flagged member flag =>
        rw [List.mem_singleton.mp member, hvalue] at flag
        exact Option.some.inj flag
      | only sole unflagged =>
        cases sole
        rw [hvalue] at unflagged
        cases unflagged
      | nobody => cases hfound
    · intro h
      cases hflag : flag? aliasName m.2 with
      | none => exact .only rfl hflag
      | some value => exact .flagged List.mem_cons_self (by rw [hflag, h m value rfl hflag])
  · have hseveral : ∀ m, members ≠ [m] := fun m hm => hsole ⟨m, hm⟩
    refine iff_of_true ?_ fun m _ hm => absurd hm (hseveral m)
    cases hfind : members.find? fun m => isFlagged aliasName m.2 with
    | some m =>
      have hmem := List.mem_of_find?_eq_some hfind
      have hflag : isFlagged aliasName m.2 = true := by
        simpa using List.find?_some hfind
      rw [writeMember?_flagged hfind]
      exact .flagged hmem ((hread m hmem).mp hflag)
    | none =>
      rw [writeMember?_several hfind hseveral]
      refine .nobody (fun m hm hflag => ?_) fun m hm => absurd hm (hseveral m)
      exact List.find?_eq_none.mp hfind m hm ((hread m hm).mpr hflag)

end

-- What comes of a reply.
def writeIndexHeard (aliasName : String) (reply : Reply) : Except Error (Option String) :=
  if reply.status = 404 then .ok none
  else reply.check.bind fun r => r.json.map (writeMember? aliasName)

namespace Talk

def hearWriter (aliasName : String) (reply : Reply) : Talk (Option String) := do
  if reply.status = 404 then return none
  else return writeMember? aliasName (← lift (← check reply).json)

theorem writeIndex_run_eq (aliasName : String) (client : Client) :
    (writeIndex aliasName).run client = (locate ("_alias/" ++ aliasName) >>= fun url =>
      send ⟨.get, url, none, ""⟩ >>= hearWriter aliasName).run client :=
  run_bind_assoc _ _ _ _

theorem hearWriter_run (aliasName : String) (reply : Reply) (client : Client) :
    (hearWriter aliasName reply).run client = .done (writeIndexHeard aliasName reply, client) := by
  unfold hearWriter writeIndexHeard
  by_cases hmissing : reply.status = 404
  · rw [if_pos hmissing, if_pos hmissing]
    rfl
  · rw [if_neg hmissing, if_neg hmissing, run_bind, run_check]
    dsimp only [Exchange.andThen]
    cases reply.check with
    | error e => rfl
    | ok checked =>
      dsimp only [Except.bind]
      rw [run_bind]
      cases checked.json <;> rfl

end Talk

theorem writeIndexHeard_of_members {aliasName : String} {reply : Reply}
    {members : List (String × Json)} (hstatus : reply.status = 200)
    (hbody : reply.json = .ok (.obj members)) :
    writeIndexHeard aliasName reply = .ok (writeMember? aliasName (.obj members)) := by
  have hcheck : reply.check = .ok reply := by
    simp [Reply.check, Reply.isSuccess, hstatus]
  rw [writeIndexHeard, hcheck, if_neg (by omega)]
  dsimp only [Except.bind]
  rw [hbody]
  rfl

theorem Reply.json_of_read {reply : Reply} {j : Json} (hstatus : reply.status = 200)
    (hbody : Json.read? reply.body = some j) : reply.json = .ok j := by
  have hcontent : reply.content = reply.body := if_neg (by omega)
  rw [Reply.json, hcontent, hbody]

-- How the index that is found stands to the rule.
structure Resolved (aliasName : String) (members : List (String × Json)) (found : Option String) :
    Prop where
  -- An only member is found, whatever its flag says.
  sole : ∀ m, members = [m] → found = some m.1
  -- With flags that can be reached, the rule fails of nothing but an only member that declines.
  reached : Plain aliasName →
    (∀ m ∈ members, ∀ items, m.2.get? "aliases" = some (.arr items) →
      Json.position? aliasName.toList = none) →
    (TakesWrites aliasName members found ↔
      ∀ m value, members = [m] → flag? aliasName m.2 = some value → value = .bool true)
  -- With flags that cannot, none of several members is found.
  missed : ¬Plain aliasName →
    (∀ m ∈ members, ∃ value, m.2.get? "aliases" = some (.obj [(aliasName, value)])) →
    (∀ m, members ≠ [m]) → found = none

theorem resolved_writeMember? (aliasName : String) (members : List (String × Json)) :
    Resolved aliasName members (writeMember? aliasName (.obj members)) where
  sole := by
    rintro m rfl
    exact writeMember?_sole aliasName m
  reached := by
    intro hplain hlist
    exact takesWrites_writeMember? fun m hm => isFlagged_of_plain hplain (hlist m hm)
  missed := by
    intro hplain haliases hseveral
    apply writeMember?_several _ hseveral
    rw [List.find?_eq_none]
    intro m hm
    obtain ⟨value, hvalue⟩ := haliases m hm
    simp [not_isFlagged_of_not_plain hplain hvalue]

theorem writeIndex_resolved (aliasName : String) (client : Client) :
    (¬Talk.Reaches client ("_alias/" ++ aliasName) ∧
      ∃ e left, (Talk.writeIndex aliasName).run client = .done (.error e, left)) ∨
    ∃ url next, (Talk.writeIndex aliasName).run client = .send ⟨.get, url, none, ""⟩ next ∧
      ∀ reply members, reply.status = 200 → reply.json = .ok (.obj members) →
        ∃ found left, next (.ok reply) = .done (.ok found, left) ∧
          Resolved aliasName members found := by
  rw [Talk.writeIndex_run_eq]
  by_cases hreaches : Talk.Reaches client ("_alias/" ++ aliasName)
  · obtain ⟨url, left, hplace, hurl⟩ := hreaches
    refine .inr ⟨url, _, Talk.ask_run hplace hurl, fun reply members hstatus hbody => ?_⟩
    refine ⟨_, left, ?_, resolved_writeMember? aliasName members⟩
    dsimp only
    rw [Talk.hearWriter_run, writeIndexHeard_of_members hstatus hbody]
  · exact .inl ⟨hreaches, Talk.ask_fails hreaches fun url => rfl⟩

def aliasOfLone : Url :=
  ⟨"http", "", "", some (.domain "node"), none, .segments ["_alias", "m"], none, none⟩

theorem locate_run_lone : (Talk.locate ("_alias/" ++ "m")).run lone =
    .done (.ok aliasOfLone, ⟨lone.nodes, 1⟩) := rfl

theorem isReachable_aliasOfLone : Talk.isReachable aliasOfLone = true := by decide +kernel

def membership (isWriter : Bool) : Json :=
  .obj [("aliases", .obj [("m", .obj [("is_write_index", .bool isWriter)])])]

def rotated : List (String × Json) :=
  [("m-000001", membership false), ("m-000002", membership true)]

theorem rotated_resolved : ∃ url next left,
    (Talk.writeIndex "m").run lone = .send ⟨.get, url, none, ""⟩ next ∧
    next (.ok ⟨200, (Json.obj rotated).render⟩) = .done (.ok (some "m-000002"), left) := by
  rcases writeIndex_resolved "m" lone with ⟨hlost, -⟩ | ⟨url, next, hrun, hnext⟩
  · exact absurd ⟨_, _, locate_run_lone, isReachable_aliasOfLone⟩ hlost
  · obtain ⟨found, left, hfound, hresolved⟩ := hnext ⟨200, (Json.obj rotated).render⟩ rotated rfl
      (Reply.json_of_read rfl (by decide +kernel))
    have hseveral : ∀ m, rotated ≠ [m] := by simp [rotated]
    have htakes : TakesWrites "m" rotated found :=
      (hresolved.reached ⟨by decide, by decide⟩ (fun _ _ _ _ => by decide)).mpr
        fun m _ hm => absurd hm (hseveral m)
    have hflag : flag? "m" (membership false) ≠ some (.bool true) := by decide
    refine ⟨url, next, left, hrun, ?_⟩
    rw [hfound]
    cases htakes with
    | flagged member flag =>
      obtain rfl | rfl : _ ∨ _ := by simpa [rotated] using member
      · exact absurd flag hflag
      · rfl
    | only sole => exact absurd sole (hseveral _)
    | nobody unflagged =>
      exact absurd (by decide) (unflagged ("m-000002", membership true) (by simp [rotated]))

def declining : List (String × Json) := [("m-000001", membership false)]

-- By the rule nobody takes the writes of a member that declines, but the client names it.
theorem declining_taken :
    Lifecycle.Config.validate { (default : Lifecycle.Config) with aliasName := "m" } = .ok () ∧
    Reply.json ⟨200, (Json.obj declining).render⟩ = .ok (.obj declining) ∧
    (∀ found, TakesWrites "m" declining found → found = none) ∧
    ((Talk.writeIndex "m").run lone).run
      (fun _ _ => (.ok ⟨200, (Json.obj declining).render⟩, ())) () =
      ((.ok (some "m-000001"), ⟨lone.nodes, 1⟩), ()) := by
  have hread : Reply.json ⟨200, (Json.obj declining).render⟩ = .ok (.obj declining) :=
    Reply.json_of_read rfl (by decide +kernel)
  have hflag : flag? "m" (membership false) = some (.bool false) := by decide
  refine ⟨rfl, hread, ?_, ?_⟩
  · intro found h
    cases h with
    | flagged member flag =>
      rw [List.mem_singleton.mp member, hflag] at flag
      cases flag
    | only sole unflagged =>
      cases sole
      rw [hflag] at unflagged
      cases unflagged
    | nobody => rfl
  · rw [Talk.writeIndex_run_eq, Talk.ask_run locate_run_lone isReachable_aliasOfLone]
    dsimp only [Exchange.run]
    rw [Talk.hearWriter_run, writeIndexHeard_of_members rfl hread, declining, writeMember?_sole]
    rfl

end Cluster

end MetricRelay
