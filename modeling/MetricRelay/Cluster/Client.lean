import MetricRelay.Cluster.Reply
import MetricRelay.Json.Printer
import MetricRelay.Search.Clause
import MetricRelay.Store.Access
import MetricRelay.Store.Request
import MetricRelay.Url.Reader

-- A store behind HTTP. Requests go to the nodes in turn.

namespace MetricRelay.Cluster

structure Client where
  nodes : List Url
  -- how often a node was chosen
  chosen : Nat
deriving DecidableEq, Repr

-- Questions and answers of one client. The count of choices survives an error.
abbrev Talk := ExceptT Error (StateT Client Exchange)

namespace Talk

-- The place of a path at the node whose turn it is.
def locate (path : String) : Talk Url := do
  let client ← get
  match client.nodes[client.chosen % client.nodes.length]? with
  | none => throw (.config "no store nodes configured")
  | some node =>
    set { client with chosen := client.chosen + 1 }
    match node.join path with
    | .ok url => return url
    | .error fault => throw (.config ("invalid store path " ++ path ++ ": " ++ fault.message))

def isReachable (u : Url) : Bool := u.host.isSome && (u.scheme == "http" || u.scheme == "https")

def send (q : Question) : Talk Reply :=
  if isReachable q.url then
    ExceptT.mk fun client =>
      .send q fun r => .done (match r with
        | .ok reply => (.ok reply, client)
        | .error fault => (.error (.transport fault), client))
  else throw (.transport .unsupportedScheme)

def fetch (path : String) : Talk Reply := do send ⟨.get, ← locate path, none, ""⟩

def submit (verb : Verb) (path : String) (body : Json) : Talk Reply := do
  send ⟨verb, ← locate path, some "application/json", body.render⟩

def check (r : Reply) : Talk Reply := ExceptT.mk (pure r.check)

def lift {α : Type} (r : Except Error α) : Talk α := ExceptT.mk (pure r)

-- The value in the body of a reply that is no refusal.
def fetchJson (path : String) : Talk Json := do lift (← check (← fetch path)).json

def indexSettings (index : String) : Talk (Index.Settings × Int64) := do
  lift (Cluster.indexSettings index (← fetchJson (index ++ "/_settings")))

-- Lines of the body of a bulk request: what to do with a document, and the document.
def bulkLines (target : String) (docs : List Document) : List String :=
  let action := (Json.obj [("index", .obj [("_index", .str target)])]).render
  docs.flatMap fun d => [action, d.render]

def bulkBody (target : String) (docs : List Document) : String :=
  String.join ((bulkLines target docs).map (· ++ "\n"))

def bulk (target : String) (docs : List Document) : Talk (List Store.Outcome) := do
  let reply ← send ⟨.post, ← locate "_bulk", some "application/x-ndjson", bulkBody target docs⟩
  lift (bulkOutcomes docs.length (← check reply))

def settingsJson (s : Index.Settings) : Json :=
  .obj [("number_of_shards", .int s.shards), ("number_of_replicas", .int s.replicas)]

def creationBody (settings : Option Index.Settings) (writeAlias : Option String) : Json :=
  .obj ((writeAlias.map fun aliasName =>
      ("aliases", Json.obj [(aliasName, .obj [("is_write_index", .bool true)])])).toList ++
    (settings.map fun s => ("settings", settingsJson s)).toList)

-- An index that exists counts as made, unless other settings were asked for.
def createIndex (index : String) (settings : Option Index.Settings) (writeAlias : Option String) :
    Talk Store.Creation := do
  let reply ← submit .put index (creationBody settings writeAlias)
  if reply.status = 400 then
    if errorType? reply.content = some "resource_already_exists_exception" then
      match settings with
      | none => return .alreadyExists
      | some wanted =>
        let (actual, _) ← indexSettings index
        if actual = wanted then return .alreadyExists else throw (.indexConflict index)
    else throw (.store 400 (reason reply.content))
  else
    let _ ← check reply
    return .created

def actionJson : Store.AliasAction → Json
  | .add index aliasName isWriter =>
    .obj [("add", .obj [("index", .str index), ("alias", .str aliasName),
      ("is_write_index", .bool isWriter)])]
  | .remove index aliasName =>
    .obj [("remove", .obj [("index", .str index), ("alias", .str aliasName)])]

def updateAliases (actions : List Store.AliasAction) : Talk Unit := do
  let _ ← check (← submit .post "_aliases" (.obj [("actions", .arr (actions.map actionJson))]))

def templateBody (t : Index.Template) : Json :=
  .obj [("index_patterns", .arr (t.patterns.map .str)), ("settings", settingsJson t.settings),
    ("mappings", t.mappings)]

-- A template is only sent if the cluster has another one, or none.
def putTemplate (t : Index.Template) : Talk Store.Installation := do
  let path := "_template/" ++ t.name
  let existing ← fetch path
  let installed ←
    if existing.isSuccess then pure (isInstalled t (← lift existing.json)) else pure false
  if installed then return .unchanged
  else
    let _ ← check (← submit .put path (templateBody t))
    return .applied

def writeIndex (aliasName : String) : Talk (Option String) := do
  let reply ← fetch ("_alias/" ++ aliasName)
  if reply.status = 404 then return none
  else return writeMember? aliasName (← lift (← check reply).json)

def indexStats (index : String) : Talk Store.IndexStats := do
  let (documents, bytes) ← lift (indexSizes index (← fetchJson (index ++ "/_stats/docs,store")))
  let (_, created) ← indexSettings index
  return ⟨index, documents, bytes, created⟩

def search (query : Search) : Talk (List Document) := do
  let reply ← submit .post (query.target ++ "/_search") query.body
  lift (hits (← lift (← check reply).json))

def ping : Talk Unit := do let _ ← check (← fetch "")

def answer : (r : Store.Request) → Talk r.Answer
  | .bulk target docs => bulk target docs
  | .createIndex index settings writeAlias => createIndex index settings writeAlias
  | .updateAliases actions => updateAliases actions
  | .putTemplate t => putTemplate t
  | .writeIndex aliasName => writeIndex aliasName
  | .indexStats index => indexStats index
  | .search query => search query
  | .ping => ping

-- Goes on with the nodes that the cluster publishes, if it does; how many there are now.
def sniff : Talk Nat := do
  let seed ← locate "_nodes/http"
  let body ← lift (← check (← send ⟨.get, seed, none, ""⟩)).json
  let nodes := (publishedAddresses body).filterMap fun address =>
    (Url.parse (seed.scheme ++ "://" ++ address ++ "/")).toOption
  let client ← get
  if nodes.isEmpty then return client.nodes.length
  else
    set { client with nodes := nodes }
    return nodes.length

end Talk

-- A client that knows one node, as its URL says.
def Client.ofUrl (url : String) : Except Error Client :=
  match Url.parse url with
  | .ok u => .ok ⟨[u.asDirectory], 0⟩
  | .error fault => .error (.config ("invalid store URL " ++ url ++ ": " ++ fault.message))

-- Asks for the other nodes if so configured.
def connect (access : Store.Access) : Exchange (Except Error Client) :=
  match Client.ofUrl access.url with
  | .error e => .done (.error e)
  | .ok client =>
    if access.sniff then do
      match ← Talk.sniff.run client with
      | (.error e, _) => return .error e
      | (.ok _, client) => return .ok client
    else .done (.ok client)

end MetricRelay.Cluster
