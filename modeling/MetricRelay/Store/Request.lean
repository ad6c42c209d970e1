import MetricRelay.Store.Write

namespace MetricRelay.Store

inductive Request
  | bulk (target : String) (docs : List Document)
  | createIndex (index : String) (settings : Option Index.Settings) (writeAlias : Option String)
  | updateAliases (actions : List AliasAction)
  | putTemplate (template : Index.Template)
  | writeIndex (aliasName : String)
  | indexStats (index : String)
  | search (query : Search)
  | ping

namespace Request

abbrev Answer : Request → Type
  | .bulk _ _ => List Outcome
  | .createIndex _ _ _ => Creation
  | .updateAliases _ => Unit
  | .putTemplate _ => Installation
  | .writeIndex _ => Option String
  | .indexStats _ => IndexStats
  | .search _ => List Document
  | .ping => Unit

def name : Request → String
  | .bulk _ _ => "bulk"
  | .createIndex _ _ _ => "create_index"
  | .updateAliases _ => "update_aliases"
  | .putTemplate _ => "put_index_template"
  | .writeIndex _ => "write_index"
  | .indexStats _ => "index_stats"
  | .search _ => "search"
  | .ping => "ping"

-- The index, alias or template a request is about.
def target : Request → String
  | .bulk target _ => target
  | .createIndex index _ _ => index
  | .updateAliases _ => ""
  | .putTemplate template => template.name
  | .writeIndex aliasName => aliasName
  | .indexStats index => index
  | .search query => query.target
  | .ping => ""

-- How many documents or actions it carries.
def size : Request → Nat
  | .bulk _ docs => docs.length
  | .updateAliases actions => actions.length
  | _ => 0

end Request

-- The answer and the store after it.
def answer (s : Store) (now : Int64) : (r : Request) → Except Error r.Answer × Store
  | .bulk target docs => s.bulk target docs
  | .createIndex index settings writeAlias => s.createIndex now index settings writeAlias
  | .updateAliases actions => s.updateAliases actions
  | .putTemplate template =>
    let (installed, s) := s.putTemplate template
    (.ok installed, s)
  | .writeIndex aliasName => (.ok (s.writeIndex? aliasName), s)
  | .indexStats index => (s.indexStats index, s)
  | .search query => (s.search query, s)
  | .ping => (.ok (), s)

end MetricRelay.Store
