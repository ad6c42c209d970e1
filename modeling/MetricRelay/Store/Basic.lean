import MetricRelay.Index.Template
import MetricRelay.Search.Basic

-- An in-memory document store: indices, aliases of them, and templates. Of the indices behind an
-- alias one takes the writes. Faults can be injected to see how a caller copes.

namespace MetricRelay

namespace Store

structure IndexData where
  settings : Index.Settings
  created : Int64
  -- oldest first
  documents : List Document
  -- total length of the documents' texts
  bytes : Nat
deriving DecidableEq

-- Which of an alias's members takes the writes.
abbrev Members := Keyed Bool

-- Failures still to come.
structure Faults where
  -- whole bulk requests
  bulk : Nat
  -- single documents, to be sent again
  documents : Nat
  creations : Nat
  aliasUpdates : Nat
  -- milliseconds before a bulk request is looked at
  latency : Nat
  -- why a document is refused for its content
  rejects : Document → Option String

def Faults.none : Faults := ⟨0, 0, 0, 0, 0, fun _ => Option.none⟩

end Store

structure Store where
  indices : Keyed Store.IndexData
  aliases : Keyed Store.Members
  templates : Keyed Index.Template
  -- how often a template was installed or replaced
  templateRevision : Nat
  faults : Store.Faults
  bulkRequests : Nat

namespace Store

def empty : Store := ⟨∅, ∅, ∅, 0, .none, 0⟩

instance : Inhabited Store := ⟨empty⟩

def writers (members : Members) : List String :=
  (members.toList.filter Prod.snd).map Prod.fst

def writeIndex? (s : Store) (aliasName : String) : Option String :=
  (s.aliases.find? aliasName).bind fun members => (writers members).head?

def writeTargets (s : Store) (aliasName : String) : List String :=
  match s.aliases.find? aliasName with
  | some members => writers members
  | none => []

-- The indices a search of an alias or an index looks into.
def readTargets (s : Store) (target : String) : List String :=
  match s.aliases.find? target with
  | some members => members.keys
  | none => if s.indices.contains target then [target] else []

def noSuchIndex (index : String) : Error :=
  .store 404 ("index_not_found_exception: no such index [" ++ index ++ "]")

-- The index into which a write to an index or an alias goes.
def writeTarget (s : Store) (target : String) : Except Error String :=
  if s.indices.contains target then .ok target
  else if s.aliases.contains target then
    match s.writeIndex? target with
    | some index => .ok index
    | none => .error (.store 400 ("no write index is defined for alias [" ++ target ++ "]"))
  else .error (noSuchIndex target)

def documents (s : Store) (index : String) : List Document :=
  match s.indices.find? index with
  | some data => data.documents
  | none => []

-- Settings of a new index: those asked for, else those of the first template that covers it.
def settingsFor (s : Store) (index : String) (asked : Option Index.Settings) : Index.Settings :=
  match asked with
  | some settings => settings
  | none =>
    match s.templates.values.find? (·.covers index) with
    | some t => t.settings
    | none => default

-- Size and age of an index.
structure IndexStats where
  index : String
  documents : Nat
  bytes : Nat
  created : Int64
deriving DecidableEq, Repr

def indexStats (s : Store) (index : String) : Except Error IndexStats :=
  match s.indices.find? index with
  | some data => .ok ⟨index, data.documents.length, data.bytes, data.created⟩
  | none => .error (noSuchIndex index)

-- The earliest matches, at most as many as asked for; those of one instant stay in index order.
def search (s : Store) (query : Search) : Except Error (List Document) := do
  let compiled ← query.compile
  let hits := ((s.readTargets query.target).flatMap s.documents).filter compiled.holds
  return (hits.mergeSort fun a b => decide (a.timestamp ≤ b.timestamp)).take query.size

end Store

end MetricRelay
