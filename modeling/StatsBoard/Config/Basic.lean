import StatsBoard.Json.Printer
import StatsBoard.Json.Decoder
import StatsBoard.Screen.Color
import StatsBoard.Settings
import StatsBoard.Url.Edit

/-!
# Configuration

What can be configured, how it is written and read, which configurations can be used, and the
settings and addresses that follow from one. A configuration is an object in which every member may
be missing.
-/

namespace StatsBoard

/-- Why a configuration cannot be used, or profiles cannot be read or written. -/
inductive ConfigError where
  | capacity
  | cadence
  | range (metric : Metric)
  | color (metric : Metric) (color : String)
  | tail (start stop : Int)
  | noMetrics (family : Family)
  | endpoint (endpoint reason : String)
  | file (path reason : String)
  | profiles (path reason : String)
deriving DecidableEq, Repr

namespace ConfigError

/-- What is said of a problem. -/
def message : ConfigError → String
  | .capacity => "capacity must be at least 1"
  | .cadence => "cadence must be at least 1 ms"
  | .range metric => "range for " ++ metric.name ++ " has min greater than max"
  | .color metric text => "color '" ++ text ++ "' for " ++ metric.name ++ " is not a valid color"
  | .tail start stop =>
    "tail range start " ++ Text.intNumeral start ++ " is after end " ++ Text.intNumeral stop
  | .noMetrics family => family.name ++ " entities must track at least one metric"
  | .endpoint text reason => "invalid endpoint '" ++ text ++ "': " ++ reason
  | .file path reason => "failed to read or write " ++ path ++ ": " ++ reason
  | .profiles path reason => "malformed profiles file " ++ path ++ ": " ++ reason

end ConfigError

namespace SampleRange

/-- The fields of a range; both may be missing. -/
def fields : List (Field SampleRange) :=
  [.optional "min" (.option .real) fun range bound => { range with min := bound },
    .optional "max" (.option .real) fun range bound => { range with max := bound }]

/-- A range as it is read. -/
def decoder : Decoder SampleRange :=
  .record fields { }

/-- A bound of a range as a member. -/
def boundMember (name : String) (bound : Option Binary64) : List (String × Json) :=
  (bound.map fun value => (name, .number (.real value))).toList

/-- A range as JSON; missing bounds are left out. -/
def toJson (range : SampleRange) : Json :=
  .object (boundMember "min" range.min ++ boundMember "max" range.max)

end SampleRange

namespace Metric

/-- A metric as it is read. -/
def decoder : Decoder Metric :=
  .variant ofName?

end Metric

namespace PerMetric

variable {α : Type}

/-- Values for some of the metrics as they are read. -/
def decoder (decode : Decoder α) : Decoder (PerMetric α) :=
  .map Metric.ofName? decode empty put

/-- Values for some of the metrics as JSON, in the order of the metrics. -/
def toJson (encode : α → Json) (values : PerMetric α) : Json :=
  .object (values.toList.map fun (metric, value) => (metric.name, encode value))

end PerMetric

/-- A configuration. -/
structure Config where
  endpoint : String := "http://127.0.0.1:8080"
  /-- The address of the stream, if it does not follow from the endpoint. -/
  streamUrl : Option String := none
  /-- The file of trusted certificates. -/
  tlsCa : Option String := none
  mode : IngestMode := .push
  watchers : List String := []
  watchersWithPids : List String := []
  capacity : Nat := Series.defaultCapacity
  /-- Whether new series are full of zeros; unless given, they are if samples are streamed. -/
  prefill : Option Bool := none
  cadence : Nat := 1000
  tail : TailRange := { }
  fetchTimeout : Nat := 10000
  width : Nat := 48
  height : Nat := 7
  colors : Palette := .standard
  ranges : Ranges := { }
  watcherMetrics : List Metric := [.cpu, .mem]
  socketMetrics : List Metric := [.reads]
deriving DecidableEq, Repr

namespace Config

/-- The fields of a configuration, in their order. All of them may be missing. -/
def fields : List (Field Config) :=
  [.optional "endpoint" .string fun config value => { config with endpoint := value },
    .optional "stream_url" (.option .string) fun config value => { config with streamUrl := value },
    .optional "tls_ca" (.option .string) fun config value => { config with tlsCa := value },
    .optional "mode" (.variant IngestMode.ofName?) fun config value =>
      { config with mode := value },
    .optional "watchers" (.list .string) fun config value => { config with watchers := value },
    .optional "watchers_with_pids" (.list .string) fun config value =>
      { config with watchersWithPids := value },
    .optional "capacity" (.natural UInt64.size)
      fun config value => { config with capacity := value },
    .optional "prefill" (.option .bool) fun config value => { config with prefill := value },
    .optional "cadence_ms" (.natural UInt64.size)
      fun config value => { config with cadence := value },
    .optional "tail" TailRange.decoder fun config value => { config with tail := value },
    .optional "fetch_timeout_ms" (.natural UInt64.size) fun config value =>
      { config with fetchTimeout := value },
    .optional "width" (.natural UInt16.size) fun config value => { config with width := value },
    .optional "height" (.natural UInt16.size) fun config value => { config with height := value },
    .optional "colors" (PerMetric.decoder .string) fun config value =>
      { config with colors := value },
    .optional "ranges" (PerMetric.decoder SampleRange.decoder) fun config value =>
      { config with ranges := value },
    .optional "watcher_metrics" (.list Metric.decoder) fun config value =>
      { config with watcherMetrics := value },
    .optional "socket_metrics" (.list Metric.decoder) fun config value =>
      { config with socketMetrics := value }]

/-- A configuration as it is read. -/
def decoder : Decoder Config :=
  .record fields { }

/-- The configuration of a text. -/
def parse (text : String) : Except JsonError Config :=
  Json.read decoder text

/-- A member that may be missing. -/
def optionalMember (name : String) (value : Option Json) : List (String × Json) :=
  (value.map (name, ·)).toList

/-- A list of metrics as JSON. -/
def metricsJson (metrics : List Metric) : Json :=
  .ofStrings (metrics.map (·.name))

/-- A configuration as JSON; values that are not given are left out. -/
def toJson (config : Config) : Json :=
  .object ([("endpoint", .string config.endpoint)]
    ++ optionalMember "stream_url" (config.streamUrl.map .string)
    ++ optionalMember "tls_ca" (config.tlsCa.map .string)
    ++ [("mode", .string config.mode.name), ("watchers", .ofStrings config.watchers),
      ("watchers_with_pids", .ofStrings config.watchersWithPids),
      ("capacity", .ofNat config.capacity)]
    ++ optionalMember "prefill" (config.prefill.map .bool)
    ++ [("cadence_ms", .ofNat config.cadence), ("tail", config.tail.toJson),
      ("fetch_timeout_ms", .ofNat config.fetchTimeout), ("width", .ofNat config.width),
      ("height", .ofNat config.height), ("colors", config.colors.toJson .string),
      ("ranges", config.ranges.toJson SampleRange.toJson),
      ("watcher_metrics", metricsJson config.watcherMetrics),
      ("socket_metrics", metricsJson config.socketMetrics)])

/-- The first metric whose range cannot be used. -/
def badRange? (config : Config) : Option ConfigError :=
  (config.ranges.toList.find? fun (_, range) => !range.isValid).map fun (metric, _) =>
    .range metric

/-- The first metric whose color cannot be used. -/
def badColor? (config : Config) : Option ConfigError :=
  (config.colors.toList.find? fun (_, color) => (Color.parse? color).isNone).map
    fun (metric, color) => .color metric color

/-- What is wrong with the endpoint. -/
def badEndpoint? (config : Config) : Option ConfigError :=
  match Url.parse config.endpoint with
  | .error error => some (.endpoint config.endpoint error.message)
  | .ok url =>
    if url.scheme = "http" ∨ url.scheme = "https" then none
    else some (.endpoint config.endpoint "expected http:// or https://")

/-- The first thing for which a configuration cannot be used. -/
def problem? (config : Config) : Option ConfigError :=
  if config.capacity = 0 then some .capacity
  else if config.cadence = 0 then some .cadence
  else
    config.badRange?.or <| config.badColor?.or <|
      if config.tail.stop < config.tail.start then some (.tail config.tail.start config.tail.stop)
      else if config.watcherMetrics = [] then some (.noMetrics .watcher)
      else if config.socketMetrics = [] then some (.noMetrics .socket)
      else config.badEndpoint?

/-- The configuration can be used. -/
def validate (config : Config) : Except ConfigError Unit :=
  match config.problem? with
  | none => .ok ()
  | some error => .error error

/-- New series are full of zeros. -/
def prefills (config : Config) : Bool :=
  config.prefill.getD (config.mode == .push)

/-- How series are made. -/
def layout (config : Config) : SeriesLayout where
  capacity := config.capacity
  prefill := config.prefills
  watcherMetrics := config.watcherMetrics
  socketMetrics := config.socketMetrics

/-- The settings of a session; metrics without a color keep their standard one. -/
def settings (config : Config) : Settings where
  mode := config.mode
  watchers := config.watchers
  watchersWithPids := config.watchersWithPids
  cadence := config.cadence
  tail := config.tail
  layout := config.layout
  ranges := config.ranges
  palette := config.colors.orElse Palette.standard

/-- The address of the stream: the one that is given, or else the endpoint under the scheme of
streams with one more segment. -/
def stream (config : Config) : Except ConfigError String :=
  match config.streamUrl with
  | some url => .ok url
  | none =>
    match Url.parse config.endpoint with
    | .error error => .error (.endpoint config.endpoint error.message)
    | .ok url =>
      let scheme := if url.scheme = "https" then "wss" else "ws"
      match url.withScheme? scheme with
      | none => .error (.endpoint config.endpoint ("cannot switch scheme to " ++ scheme))
      | some url => .ok (url.appendSegments ["ws"]).text

end Config

end StatsBoard
