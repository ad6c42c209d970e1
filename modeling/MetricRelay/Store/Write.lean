import MetricRelay.Store.Basic

-- The operations that change a store. Each answers and gives the store after it; one that fails
-- changes nothing but the faults still to come and the count of bulk requests.

namespace MetricRelay.Store

-- What became of one document of a bulk request.
inductive Outcome
  | accepted
  -- to be sent again
  | retryable (reason : String)
  -- sending it again cannot help
  | permanent (reason : String)
deriving DecidableEq, Repr

-- What is said of one document, and the faults left after it.
def judge (f : Faults) (d : Document) : Outcome × Faults :=
  if 0 < f.documents then
    (.retryable "es_rejected_execution_exception: injected",
      { f with documents := f.documents - 1 })
  else if d.value.isFinite = false then
    (.permanent "mapper_parsing_exception: [value] supports only finite values", f)
  else
    match f.rejects d with
    | some reason => (.permanent reason, f)
    | none => (.accepted, f)

def judgeAll (f : Faults) : List Document → List Outcome × Faults
  | [] => ([], f)
  | d :: rest =>
    let (outcome, f) := judge f d
    let (outcomes, f) := judgeAll f rest
    (outcome :: outcomes, f)

def accepted (docs : List Document) (outcomes : List Outcome) : List Document :=
  ((docs.zip outcomes).filter fun (_, outcome) => outcome == .accepted).map Prod.fst

def IndexData.append (data : IndexData) (docs : List Document) : IndexData :=
  { data with documents := data.documents ++ docs
              bytes := data.bytes + docs.foldl (fun n d => n + d.textBytes) 0 }

-- One outcome for each document, in order. The target is looked up when the request is applied.
def bulk (s : Store) (target : String) (docs : List Document) :
    Except Error (List Outcome) × Store :=
  let s := { s with bulkRequests := s.bulkRequests + 1 }
  if 0 < s.faults.bulk then
    (.error (.unavailable "injected bulk failure"),
      { s with faults := { s.faults with bulk := s.faults.bulk - 1 } })
  else
    match s.writeTarget target with
    | .error e => (.error e, s)
    | .ok index =>
      match s.indices.find? index with
      | none => (.error (.internal ("alias points at missing index " ++ index)), s)
      | some data =>
        let (outcomes, faults) := judgeAll s.faults docs
        (.ok outcomes,
          { s with faults := faults,
                   indices := s.indices.insert index (data.append (accepted docs outcomes)) })

-- Whether an index had to be made.
inductive Creation
  | created
  | alreadyExists
deriving DecidableEq, Repr

def attach (aliases : Keyed Members) (aliasName index : String) (isWriter : Bool) : Keyed Members :=
  aliases.insert aliasName (((aliases.find? aliasName).getD ∅).insert index isWriter)

-- Making an index that is there with the same settings succeeds and does nothing. An alias that
-- is given becomes an alias of the new index, which takes its writes.
def createIndex (s : Store) (now : Int64) (index : String) (asked : Option Index.Settings)
    (writeAlias : Option String) : Except Error Creation × Store :=
  if 0 < s.faults.creations then
    (.error (.unavailable ("injected create failure for " ++ index)),
      { s with faults := { s.faults with creations := s.faults.creations - 1 } })
  else
    let settings := s.settingsFor index asked
    match s.indices.find? index with
    | some data =>
      if data.settings = settings then (.ok .alreadyExists, s)
      else (.error (.indexConflict index), s)
    | none =>
      match writeAlias with
      | none => (.ok .created, { s with indices := s.indices.insert index ⟨settings, now, [], 0⟩ })
      | some aliasName =>
        match s.writeIndex? aliasName with
        | some current =>
          (.error (.store 400
            ("alias [" ++ aliasName ++ "] already has write index [" ++ current ++ "]")), s)
        | none =>
          (.ok .created, { s with indices := s.indices.insert index ⟨settings, now, [], 0⟩,
                                  aliases := attach s.aliases aliasName index true })

inductive AliasAction
  | add (index aliasName : String) (isWriter : Bool)
  | remove (index aliasName : String)
deriving DecidableEq, Repr

def AliasAction.aliasName : AliasAction → String
  | .add _ aliasName _ => aliasName
  | .remove _ aliasName => aliasName

def AliasAction.apply (indices : Keyed IndexData) (aliases : Keyed Members) (a : AliasAction) :
    Except Error (Keyed Members) :=
  match a with
  | .add index aliasName isWriter =>
    if indices.contains index then .ok (attach aliases aliasName index isWriter)
    else .error (noSuchIndex index)
  | .remove index aliasName =>
    let missing : Error :=
      .store 404 ("aliases [" ++ aliasName ++ "] missing on index [" ++ index ++ "]")
    match aliases.find? aliasName with
    | none => .error missing
    | some members =>
      if members.contains index then .ok (aliases.insert aliasName (members.erase index))
      else .error missing

-- An alias without members goes away; any other needs exactly one that takes the writes.
def settleAlias (aliases : Keyed Members) (aliasName : String) : Except Error (Keyed Members) :=
  match aliases.find? aliasName with
  | none => .ok aliases
  | some members =>
    if members.isEmpty then .ok (aliases.erase aliasName)
    else
      let n := (writers members).length
      if n = 1 then .ok aliases
      else .error (.store 400 ("alias [" ++ aliasName ++
        "] must have exactly one write index, update would leave " ++ toString n))

-- All actions or none of them.
def updateAliases (s : Store) (actions : List AliasAction) : Except Error Unit × Store :=
  if 0 < s.faults.aliasUpdates then
    (.error (.unavailable "injected alias update failure"),
      { s with faults := { s.faults with aliasUpdates := s.faults.aliasUpdates - 1 } })
  else
    let updated := do
      let aliases ← actions.foldlM (AliasAction.apply s.indices) s.aliases
      (actions.map AliasAction.aliasName).foldlM settleAlias aliases
    match updated with
    | .ok aliases => (.ok (), { s with aliases := aliases })
    | .error e => (.error e, s)

-- Whether an installed template differs from the one before.
inductive Installation
  | applied
  | unchanged
deriving DecidableEq, Repr

def putTemplate (s : Store) (t : Index.Template) : Installation × Store :=
  if s.templates.find? t.name = some t then (.unchanged, s)
  else (.applied, { s with templates := s.templates.insert t.name t,
                           templateRevision := s.templateRevision + 1 })

end MetricRelay.Store
