import StatsBoard.Json.Decoder
import StatsBoard.Log
import StatsBoard.Registry

/-!
# Answers to requests for histories

An answer is a bare list of samples, a list under the only key `info`, or an object with samples
per key. Each list it holds is a share that goes to one entity.
-/

namespace StatsBoard

/-- An answer. -/
inductive StatsResponse where
  /-- Samples of the requested entity. -/
  | samples (values : List Json)
  /-- Samples of the requested entity, as the only member of an object. -/
  | info (values : List Json)
  /-- Samples per key, in the order of the server. -/
  | keyed (members : Members Json)
deriving DecidableEq

namespace StatsResponse

/-- The field of an answer whose only member is a list. -/
def infoField : Field (List Json) :=
  .mandatory "info" (.list Json.decoder) fun _ values => values

/-- The shapes of answers in the order in which they are tried. -/
def shapes : List (Decoder StatsResponse) :=
  [fun room draft => (Decoder.list Json.decoder room draft).map samples,
    fun room draft => (Decoder.closedRecord [infoField] [] room draft).map info,
    fun room draft => (Decoder.map some Json.decoder [] Members.put room draft).map keyed]

/-- An answer of whatever shape. -/
def decoder : Decoder StatsResponse :=
  .untagged shapes

/-- The answer of a text. -/
def decode (text : String) : Except JsonError StatsResponse :=
  Json.read decoder text

end StatsResponse

/-- A part of an answer. -/
inductive Share where
  /-- Samples for an entity, which is registered if need be. -/
  | samples (id : String) (kind : EntityKind) (values : List Json)
  /-- A key without a list of samples. -/
  | skipped (key : String)
deriving DecidableEq

namespace Share

/-- The part of an answer under one key. The aggregate's own name stands for the aggregate, any
other for a child. -/
def ofMember (entity : String) : String × Json → Share
  | (key, .array values) =>
    if key = entity then samples entity (.ofAggregate entity) values
    else samples (childId entity key) (.ofChild entity key) values
  | (key, _) => skipped key

end Share

/-- The parts of an answer to a request for an aggregate, in their order. -/
def StatsResponse.shares (entity : String) : StatsResponse → List Share
  | samples values | info values => [.samples entity (.ofAggregate entity) values]
  | keyed members => members.map (Share.ofMember entity)

/-- The usable samples of a metric among values, clamped, in order. -/
def Ranges.samples (ranges : Ranges) (metric : Metric) (values : List Json) : List Binary64 :=
  values.filterMap (ranges.sample? metric)

namespace Registry

/-- Register an entity if need be, and mark its samples as asked for. -/
def enlist (registry : Registry) (id : String) (kind : EntityKind) : Registry :=
  (registry.ensure id kind).modify id (·.markSubscribed)

/-- What is reported when an entity is registered if need be. -/
def ensureLog (registry : Registry) (id : String) (kind : EntityKind) : List LogEvent :=
  if registry.contains id then [] else [.registered id kind]

/-- The entity has a series for the metric. -/
def tracks (registry : Registry) (id : String) (metric : Metric) : Bool :=
  ((registry.get? id).map (·.tracks metric)).getD false

/-- Store a part of an answer for a metric. -/
def receive (ranges : Ranges) (metric : Metric) (registry : Registry) : Share → Registry
  | .samples id kind values =>
    (registry.enlist id kind).modify id fun record =>
      record.modifySeries metric (·.extend (ranges.samples metric values))
  | .skipped _ => registry

/-- What is reported of a part of an answer. -/
def receiveLog (entity : String) (registry : Registry) : Share → List LogEvent
  | .samples id kind _ => registry.ensureLog id kind
  | .skipped key => [.keySkipped entity key]

/-- The entity whose series a part of an answer reaches. -/
def reached? (metric : Metric) (registry : Registry) : Share → Option String
  | .samples id kind _ => if (registry.ensure id kind).tracks id metric then some id else none
  | .skipped _ => none

end Registry

/-- What storing an answer leaves: the registry, the entities whose series it reached in order, and
what is reported. -/
structure Received where
  registry : Registry
  touched : List String
  log : List LogEvent
deriving DecidableEq

/-- Store the parts of an answer in order. -/
def Registry.receiveAll (ranges : Ranges) (entity : String) (metric : Metric)
    (registry : Registry) (shares : List Share) : Received :=
  shares.foldl (fun received share =>
      { registry := received.registry.receive ranges metric share
        touched := received.touched ++ (received.registry.reached? metric share).toList
        log := received.log ++ received.registry.receiveLog entity share })
    ⟨registry, [], []⟩

end StatsBoard
