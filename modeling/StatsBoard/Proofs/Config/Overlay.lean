import StatsBoard.Proofs.Config.Reading
import StatsBoard.Proofs.Json.Records
import StatsBoard.Proofs.Metric

/-!
# Partial configurations

A configuration is written as an object with any of its members, in any order and among members of
other names (`Config.Given.WrittenIn`). What is read is the standard configuration in which exactly
the given values are replaced. Colors that are given replace all others in the configuration, but in
its settings each metric without a color has its standard one: `Config.partial_overlays_standard`.
-/

namespace StatsBoard

open Decoder

/-! ## The forms of values -/

theorem Metric.of_name_eq_some_iff {name : String} {metric : Metric} :
    ofName? name = some metric ↔ name = metric.name := by
  constructor
  · intro h
    have hfind : all.find? (fun other => other.name == name) = some metric := h
    have hname := List.find?_some hfind
    exact (eq_of_beq hname).symm
  · rintro rfl
    exact metric.of_name_name

namespace PerMetric

variable {α : Type} {decode : Decoder α} {form : Form α} {depth : Nat}

/-- An object whose members are named after metrics. Of several values for one metric the last
counts. -/
def written (form : Form α) : Form (PerMetric α) := fun draft values =>
  ∃ (members : Members Draft) (entries : List (Metric × α)), draft = .ofMembers members ∧
    List.Forall₂ (fun member entry => member.1 = entry.1.name ∧ form member.2 entry.2)
      members entries ∧
    ∀ metric, values.get? metric = (entries.reverse.find? (·.1 == metric)).map (·.2)

/-- Values for metrics are told apart by the value of some metric. -/
theorem ext_get {values others : PerMetric α}
    (h : ∀ metric, values.get? metric = others.get? metric) : values = others := by
  obtain ⟨cpu, mem, reads, age⟩ := values
  obtain rfl : cpu = _ := h .cpu
  obtain rfl : mem = _ := h .mem
  obtain rfl : reads = _ := h .reads
  obtain rfl : age = _ := h .age
  rfl

/-- Of the values that are put for one metric the last stays. -/
theorem get_foldl_put (entries : List (Metric × α)) (metric : Metric) :
    (entries.foldl (fun values entry => put values entry.1 entry.2) empty).get? metric =
      (entries.reverse.find? (·.1 == metric)).map (·.2) := by
  induction entries using List.reverseRecOn with
  | nil => cases metric <;> rfl
  | append_singleton entries last ih =>
      rw [List.foldl_concat, get_put, ih, List.reverse_concat, List.find?_cons]
      by_cases hmetric : last.1 = metric
      · rw [if_pos hmetric, beq_iff_eq.mpr hmetric, Option.map_some]
      · rw [if_neg hmetric, beq_eq_false_iff_ne.mpr hmetric]

theorem exact_decoder (h : decode.Exact depth form) :
    (decoder decode).Exact (depth + 1) (written form) := by
  intro room hroom draft values
  rw [decoder, exact_map h room hroom, Form.map, written]
  refine exists_congr fun members => exists_congr fun entries => ?_
  simp only [Metric.of_name_eq_some_iff]
  refine and_congr_right fun _ => and_congr_right fun _ => ?_
  constructor
  · rintro rfl metric
    exact get_foldl_put entries metric
  · intro hvalues
    exact ext_get fun metric => (hvalues metric).trans (get_foldl_put entries metric).symm

end PerMetric

namespace SampleRange

/-- A record with the bounds that there are; a bound may also be `null`. -/
def written : Form SampleRange := fun draft range =>
  ∃ members low high, Form.record ["min", "max"] draft members ∧
    members.Gives "min" Form.real.option low ∧ members.Gives "max" Form.real.option high ∧
    range = ⟨low.getD none, high.getD none⟩

theorem exact_decoder : decoder.Exact 1 written := by
  refine exact_of_succ fun room _ draft range => ?_
  have hcommutes : fields.Pairwise Field.Commutes :=
    List.pairwise_pair.mpr (Field.commutes_of_set rfl rfl fun _ _ _ => rfl)
  have hbound : (option real).Exact 0 Form.real.option := exact_option exact_real nofun
  rw [decoder, record_eq_ok_iff (by decide) hcommutes]
  constructor
  · rintro ⟨members, hrecord, -, hplace⟩
    have hfits := hrecord.fits (by decide)
    obtain ⟨low, hlow, hplace⟩ := (Field.place_optional_iff hfits (by decide) hbound
      (Nat.zero_le room) SampleRange.min fun _ => rfl).mp hplace
    obtain ⟨high, hhigh, hplace⟩ := (Field.place_optional_iff hfits (by decide) hbound
      (Nat.zero_le room) SampleRange.max fun _ => rfl).mp hplace
    cases hplace
    exact ⟨members, low, high, hrecord, hlow, hhigh, rfl⟩
  · rintro ⟨members, low, high, hrecord, hlow, hhigh, rfl⟩
    have hfits := hrecord.fits (by decide)
    refine ⟨members, hrecord, by simp [fields, Field.optional], ?_⟩
    refine (Field.place_optional_iff hfits (by decide) hbound (Nat.zero_le room) SampleRange.min
      fun _ => rfl).mpr ⟨low, hlow, ?_⟩
    exact (Field.place_optional_iff hfits (by decide) hbound (Nat.zero_le room) SampleRange.max
      fun _ => rfl).mpr ⟨high, hhigh, rfl⟩

end SampleRange

namespace TailRange

/-- The form of an end of a slice. -/
def endWritten : Form Int := .integer Int64.minValue.toInt Int64.maxValue.toInt

/-- A record with both ends. -/
def written : Form TailRange := fun draft range =>
  ∃ members, Form.record ["start", "end"] draft members ∧
    members.Gives "start" endWritten (some range.start) ∧
    members.Gives "end" endWritten (some range.stop)

theorem exact_decoder : decoder.Exact 1 written := by
  refine exact_of_succ fun room _ draft range => ?_
  have hcommutes : fields.Pairwise Field.Commutes :=
    List.pairwise_pair.mpr (Field.commutes_of_set rfl rfl fun _ _ _ => rfl)
  have hend : (integer Int64.minValue.toInt Int64.maxValue.toInt).Exact 0 endWritten :=
    exact_integer _ _
  rw [decoder, record_eq_ok_iff (by decide) hcommutes]
  constructor
  · rintro ⟨members, hrecord, hrequired, hplace⟩
    have hfits := hrecord.fits (by decide)
    simp only [fields, List.forall_mem_cons] at hrequired
    obtain ⟨start, hstart, hplace⟩ := (Field.place_mandatory_iff hfits (by decide) hend
      (Nat.zero_le room) (hrequired.1 rfl)).mp hplace
    obtain ⟨stop, hstop, hplace⟩ := (Field.place_mandatory_iff hfits (by decide) hend
      (Nat.zero_le room) (hrequired.2.1 rfl)).mp hplace
    cases hplace
    exact ⟨members, hrecord, hstart, hstop⟩
  · rintro ⟨members, hrecord, hstart, hstop⟩
    have hfits := hrecord.fits (by decide)
    refine ⟨members, hrecord, ?_, ?_⟩
    · simp only [fields, List.forall_mem_cons]
      exact ⟨fun _ => hstart.mem, fun _ => hstop.mem, List.forall_mem_nil _⟩
    · refine (Field.place_mandatory_iff hfits (by decide) hend (Nat.zero_le room) hstart.mem).mpr
        ⟨range.start, hstart, ?_⟩
      exact (Field.place_mandatory_iff hfits (by decide) hend (Nat.zero_le room) hstop.mem).mpr
        ⟨range.stop, hstop, rfl⟩

end TailRange

namespace Config

/-! ## What is given -/

/-- The values that are given for some of the fields of a configuration. -/
structure Given where
  endpoint : Option String := none
  streamUrl : Option (Option String) := none
  tlsCa : Option (Option String) := none
  mode : Option IngestMode := none
  watchers : Option (List String) := none
  watchersWithPids : Option (List String) := none
  capacity : Option Nat := none
  prefill : Option (Option Bool) := none
  cadence : Option Nat := none
  tail : Option TailRange := none
  fetchTimeout : Option Nat := none
  width : Option Nat := none
  height : Option Nat := none
  colors : Option Palette := none
  ranges : Option Ranges := none
  watcherMetrics : Option (List Metric) := none
  socketMetrics : Option (List Metric) := none

namespace Given

/-- Replace the given values of a configuration. -/
def overlay (given : Given) (config : Config) : Config where
  endpoint := given.endpoint.getD config.endpoint
  streamUrl := given.streamUrl.getD config.streamUrl
  tlsCa := given.tlsCa.getD config.tlsCa
  mode := given.mode.getD config.mode
  watchers := given.watchers.getD config.watchers
  watchersWithPids := given.watchersWithPids.getD config.watchersWithPids
  capacity := given.capacity.getD config.capacity
  prefill := given.prefill.getD config.prefill
  cadence := given.cadence.getD config.cadence
  tail := given.tail.getD config.tail
  fetchTimeout := given.fetchTimeout.getD config.fetchTimeout
  width := given.width.getD config.width
  height := given.height.getD config.height
  colors := given.colors.getD config.colors
  ranges := given.ranges.getD config.ranges
  watcherMetrics := given.watcherMetrics.getD config.watcherMetrics
  socketMetrics := given.socketMetrics.getD config.socketMetrics

/-- The members of an object give these values and no others. Besides them there may be members of
unknown names, whose values only need to be JSON. -/
structure WrittenIn (given : Given) (members : Members Draft) : Prop where
  fits : members.Fits (fields.map (·.name))
  endpoint : members.Gives "endpoint" .string given.endpoint
  streamUrl : members.Gives "stream_url" Form.string.option given.streamUrl
  tlsCa : members.Gives "tls_ca" Form.string.option given.tlsCa
  mode : members.Gives "mode" (.variant IngestMode.ofName?) given.mode
  watchers : members.Gives "watchers" Form.string.list given.watchers
  watchersWithPids : members.Gives "watchers_with_pids" Form.string.list given.watchersWithPids
  capacity : members.Gives "capacity" (.natural UInt64.size) given.capacity
  prefill : members.Gives "prefill" Form.bool.option given.prefill
  cadence : members.Gives "cadence_ms" (.natural UInt64.size) given.cadence
  tail : members.Gives "tail" TailRange.written given.tail
  fetchTimeout : members.Gives "fetch_timeout_ms" (.natural UInt64.size) given.fetchTimeout
  width : members.Gives "width" (.natural UInt16.size) given.width
  height : members.Gives "height" (.natural UInt16.size) given.height
  colors : members.Gives "colors" (PerMetric.written .string) given.colors
  ranges : members.Gives "ranges" (PerMetric.written SampleRange.written) given.ranges
  watcherMetrics : members.Gives "watcher_metrics" (Form.variant Metric.ofName?).list
    given.watcherMetrics
  socketMetrics : members.Gives "socket_metrics" (Form.variant Metric.ofName?).list
    given.socketMetrics

end Given

/-! ## What is read -/

/-- The fields of a configuration change different parts of it. -/
theorem fields_commute : fields.Pairwise Field.Commutes := by
  simp only [fields, List.pairwise_cons, List.forall_mem_cons]
  repeat' apply And.intro
  all_goals first
    | exact List.forall_mem_nil _
    | exact .nil
    | exact Field.commutes_of_set rfl rfl fun _ _ _ => rfl

section Fields

variable {α : Type} {members : Members Draft} {config last : Config} {room : Nat}

theorem exact_text : string.Exact 2 .string :=
  exact_string.mono (by decide)

theorem exact_optional_text : (option string).Exact 2 Form.string.option :=
  exact_option exact_text nofun

theorem exact_texts : (list string).Exact 2 Form.string.list :=
  exact_list (exact_string.mono (by decide))

theorem exact_mode : (variant IngestMode.ofName?).Exact 2 (.variant IngestMode.ofName?) :=
  (exact_variant _).mono (by decide)

theorem exact_count (bound : Nat) : (natural bound).Exact 2 (.natural bound) :=
  (exact_natural bound).mono (by decide)

theorem exact_optional_flag : (option bool).Exact 2 Form.bool.option :=
  exact_option (exact_bool.mono (by decide)) nofun

theorem exact_tail : TailRange.decoder.Exact 2 TailRange.written :=
  TailRange.exact_decoder.mono (by decide)

theorem exact_colors : (PerMetric.decoder string).Exact 2 (PerMetric.written .string) :=
  PerMetric.exact_decoder (exact_string.mono (by decide))

theorem exact_ranges :
    (PerMetric.decoder SampleRange.decoder).Exact 2 (PerMetric.written SampleRange.written) :=
  PerMetric.exact_decoder SampleRange.exact_decoder

theorem exact_metrics : (list Metric.decoder).Exact 2 (Form.variant Metric.ofName?).list :=
  exact_list (exact_variant _)

/-- The first of some fields takes the value that is given for it. -/
theorem takes_iff (hfits : members.Fits (fields.map (·.name))) (hroom : 2 ≤ room)
    {decode : Decoder α} {form : Form α} (hdecode : decode.Exact 2 form) {name : String}
    (hname : name ∈ fields.map (·.name)) {set : Config → α → Config} (get : Config → α)
    (hget : ∀ config, set config (get config) = config) {rest : List (Field Config)} :
    Field.place room members.get? (.optional name decode set :: rest) config = .ok last ↔
      ∃ value, members.Gives name form value ∧
        Field.place room members.get? rest (set config (value.getD (get config))) = .ok last :=
  Field.place_optional_iff hfits hname hdecode hroom get hget

/-- If the values of the fields can be placed, then they are given. -/
theorem exists_given_of_place (hfits : members.Fits (fields.map (·.name))) (hroom : 2 ≤ room)
    (hplace : Field.place room members.get? fields config = .ok last) :
    ∃ given : Given, given.WrittenIn members ∧ last = given.overlay config := by
  obtain ⟨endpoint, hendpoint, hplace⟩ :=
    (takes_iff hfits hroom exact_text (by decide) Config.endpoint fun _ => rfl).mp hplace
  obtain ⟨streamUrl, hstreamUrl, hplace⟩ :=
    (takes_iff hfits hroom exact_optional_text (by decide) Config.streamUrl fun _ => rfl).mp hplace
  obtain ⟨tlsCa, htlsCa, hplace⟩ :=
    (takes_iff hfits hroom exact_optional_text (by decide) Config.tlsCa fun _ => rfl).mp hplace
  obtain ⟨mode, hmode, hplace⟩ :=
    (takes_iff hfits hroom exact_mode (by decide) Config.mode fun _ => rfl).mp hplace
  obtain ⟨watchers, hwatchers, hplace⟩ :=
    (takes_iff hfits hroom exact_texts (by decide) Config.watchers fun _ => rfl).mp hplace
  obtain ⟨watchersWithPids, hwatchersWithPids, hplace⟩ :=
    (takes_iff hfits hroom exact_texts (by decide) Config.watchersWithPids fun _ => rfl).mp hplace
  obtain ⟨capacity, hcapacity, hplace⟩ :=
    (takes_iff hfits hroom (exact_count _) (by decide) Config.capacity fun _ => rfl).mp hplace
  obtain ⟨prefill, hprefill, hplace⟩ :=
    (takes_iff hfits hroom exact_optional_flag (by decide) Config.prefill fun _ => rfl).mp hplace
  obtain ⟨cadence, hcadence, hplace⟩ :=
    (takes_iff hfits hroom (exact_count _) (by decide) Config.cadence fun _ => rfl).mp hplace
  obtain ⟨tail, htail, hplace⟩ :=
    (takes_iff hfits hroom exact_tail (by decide) Config.tail fun _ => rfl).mp hplace
  obtain ⟨fetchTimeout, hfetchTimeout, hplace⟩ :=
    (takes_iff hfits hroom (exact_count _) (by decide) Config.fetchTimeout fun _ => rfl).mp hplace
  obtain ⟨width, hwidth, hplace⟩ :=
    (takes_iff hfits hroom (exact_count _) (by decide) Config.width fun _ => rfl).mp hplace
  obtain ⟨height, hheight, hplace⟩ :=
    (takes_iff hfits hroom (exact_count _) (by decide) Config.height fun _ => rfl).mp hplace
  obtain ⟨colors, hcolors, hplace⟩ :=
    (takes_iff hfits hroom exact_colors (by decide) Config.colors fun _ => rfl).mp hplace
  obtain ⟨ranges, hranges, hplace⟩ :=
    (takes_iff hfits hroom exact_ranges (by decide) Config.ranges fun _ => rfl).mp hplace
  obtain ⟨watcherMetrics, hwatcherMetrics, hplace⟩ :=
    (takes_iff hfits hroom exact_metrics (by decide) Config.watcherMetrics fun _ => rfl).mp hplace
  obtain ⟨socketMetrics, hsocketMetrics, hplace⟩ :=
    (takes_iff hfits hroom exact_metrics (by decide) Config.socketMetrics fun _ => rfl).mp hplace
  cases hplace
  exact ⟨⟨endpoint, streamUrl, tlsCa, mode, watchers, watchersWithPids, capacity, prefill, cadence,
    tail, fetchTimeout, width, height, colors, ranges, watcherMetrics, socketMetrics⟩,
    ⟨hfits, hendpoint, hstreamUrl, htlsCa, hmode, hwatchers, hwatchersWithPids, hcapacity, hprefill,
    hcadence, htail, hfetchTimeout, hwidth, hheight, hcolors, hranges, hwatcherMetrics,
    hsocketMetrics⟩, rfl⟩

/-- Values that are given can be placed. -/
theorem Given.WrittenIn.place {given : Given} (h : given.WrittenIn members) (hroom : 2 ≤ room) :
    Field.place room members.get? fields config = .ok (given.overlay config) := by
  refine (takes_iff h.fits hroom exact_text (by decide) Config.endpoint fun _ => rfl).mpr
    ⟨_, h.endpoint, ?_⟩
  refine (takes_iff h.fits hroom exact_optional_text (by decide) Config.streamUrl fun _ => rfl).mpr
    ⟨_, h.streamUrl, ?_⟩
  refine (takes_iff h.fits hroom exact_optional_text (by decide) Config.tlsCa fun _ => rfl).mpr
    ⟨_, h.tlsCa, ?_⟩
  refine (takes_iff h.fits hroom exact_mode (by decide) Config.mode fun _ => rfl).mpr
    ⟨_, h.mode, ?_⟩
  refine (takes_iff h.fits hroom exact_texts (by decide) Config.watchers fun _ => rfl).mpr
    ⟨_, h.watchers, ?_⟩
  refine (takes_iff h.fits hroom exact_texts (by decide) Config.watchersWithPids fun _ => rfl).mpr
    ⟨_, h.watchersWithPids, ?_⟩
  refine (takes_iff h.fits hroom (exact_count _) (by decide) Config.capacity fun _ => rfl).mpr
    ⟨_, h.capacity, ?_⟩
  refine (takes_iff h.fits hroom exact_optional_flag (by decide) Config.prefill fun _ => rfl).mpr
    ⟨_, h.prefill, ?_⟩
  refine (takes_iff h.fits hroom (exact_count _) (by decide) Config.cadence fun _ => rfl).mpr
    ⟨_, h.cadence, ?_⟩
  refine (takes_iff h.fits hroom exact_tail (by decide) Config.tail fun _ => rfl).mpr
    ⟨_, h.tail, ?_⟩
  refine (takes_iff h.fits hroom (exact_count _) (by decide) Config.fetchTimeout fun _ => rfl).mpr
    ⟨_, h.fetchTimeout, ?_⟩
  refine (takes_iff h.fits hroom (exact_count _) (by decide) Config.width fun _ => rfl).mpr
    ⟨_, h.width, ?_⟩
  refine (takes_iff h.fits hroom (exact_count _) (by decide) Config.height fun _ => rfl).mpr
    ⟨_, h.height, ?_⟩
  refine (takes_iff h.fits hroom exact_colors (by decide) Config.colors fun _ => rfl).mpr
    ⟨_, h.colors, ?_⟩
  refine (takes_iff h.fits hroom exact_ranges (by decide) Config.ranges fun _ => rfl).mpr
    ⟨_, h.ranges, ?_⟩
  refine (takes_iff h.fits hroom exact_metrics (by decide) Config.watcherMetrics fun _ => rfl).mpr
    ⟨_, h.watcherMetrics, ?_⟩
  refine (takes_iff h.fits hroom exact_metrics (by decide) Config.socketMetrics fun _ => rfl).mpr
    ⟨_, h.socketMetrics, ?_⟩
  rfl

/-- An object is read as a configuration exactly if its members give values for some of the fields,
and then as the standard configuration in which these values are replaced. -/
theorem decode_members_iff :
    decoder maxDepth (.ofMembers members) = .ok config ↔
      ∃ given : Given, given.WrittenIn members ∧ config = given.overlay { } := by
  have hrequired : ∀ field ∈ fields, field.required → field.name ∈ members.map (·.1) := by
    simp [fields, Field.optional]
  rw [decoder, maxDepth, record_eq_ok_iff (by decide) fields_commute]
  constructor
  · rintro ⟨others, hrecord, -, hplace⟩
    obtain ⟨rfl, hfits⟩ := Form.record_of_members_iff.mp hrecord
    exact exists_given_of_place hfits (by decide) hplace
  · rintro ⟨given, h, rfl⟩
    exact ⟨members, Form.record_of_members_iff.mpr ⟨rfl, h.fits⟩, hrequired, h.place (by decide)⟩

end Fields

/-! ## What follows for a session -/

/-- Each metric has a color in the settings: the configured one, or else its standard one. -/
theorem get_settings_palette (config : Config) (metric : Metric) :
    config.settings.palette.get? metric =
      some ((config.colors.get? metric).getD (Palette.standard.color metric)) := by
  have horElse : config.settings.palette.get? metric =
      (config.colors.get? metric).or (Palette.standard.get? metric) := by
    cases metric <;> rfl
  have hstandard : Palette.standard.get? metric = some (Palette.standard.color metric) := by
    cases metric <;> rfl
  rw [horElse, hstandard]
  cases config.colors.get? metric <;> rfl

/-- A text that is an object is read as a configuration exactly if its members give values for some
of the fields, each once at most, in any order and among any others of unknown names; what is read
is the standard configuration in which exactly these values are replaced. Texts that differ in the
order of the members are read alike. In the settings each metric has the color that is given for it,
or else its standard one, and new series are full of zeros as is given, or else if samples are
streamed. -/
theorem partial_overlays_standard {text : String} {members : Members Draft}
    (htext : Json.draft text = ⟨.ofMembers members, false⟩) :
    (∀ config, parse text = .ok config ↔
      ∃ given : Given, given.WrittenIn members ∧ config = given.overlay { }) ∧
    (∀ reordered others, others.Perm members → Json.draft reordered = ⟨.ofMembers others, false⟩ →
      ∀ config, parse reordered = .ok config ↔ parse text = .ok config) ∧
    ∀ given : Given, given.WrittenIn members →
      (∀ metric, (given.overlay { }).settings.palette.get? metric =
        some ((given.colors.bind (·.get? metric)).getD (Palette.standard.color metric))) ∧
      (given.overlay { }).settings.layout.prefill =
        given.prefill.join.getD ((given.overlay { }).mode == .push) := by
  refine ⟨?values, ?order, ?settings⟩
  case values =>
    intro config
    rw [parse, Json.read_of_draft htext, decode_members_iff]
  case order =>
    intro reordered others hperm hreordered config
    rw [parse, parse, Json.read_of_draft hreordered, Json.read_of_draft htext]
    have hnames : (fields.map (·.name)).Nodup := by decide
    exact ⟨record_of_perm hnames fields_commute hperm,
      record_of_perm hnames fields_commute hperm.symm⟩
  case settings =>
    intro given _
    refine ⟨fun metric => ?_, ?_⟩
    · rw [get_settings_palette]
      show some (((given.colors.getD Palette.standard).get? metric).getD _) = _
      cases given.colors with
      | none => cases metric <;> rfl
      | some colors => rfl
    · show (given.prefill.getD none).getD _ = _
      cases given.prefill <;> rfl

/-- Members of a configuration among two others of one name. The first of those holds a number
beyond every finite one and half of a surrogate pair. -/
def amongOthers : Members Draft :=
  [("x", .array [.unreadable, .unreadable] none),
    ("colors", .ofMembers [("cpu", .string "red"), ("cpu", .string "blue")]),
    ("width", .number (.integer 60)), ("prefill", .null), ("mode", .ofMembers [("pull", .null)]),
    ("x", .ofMembers [])]

/-- What these members give. -/
def givenAmongOthers : Given where
  mode := some .pull
  prefill := some none
  width := some 60
  colors := some { cpu := some "blue" }

theorem written_among_others : givenAmongOthers.WrittenIn amongOthers := by
  have hmissing {α : Type} {name : String} {form : Form α}
      (hname : name ∉ amongOthers.map (·.1)) : amongOthers.Gives name form none :=
    Members.gives_none_iff.mpr hname
  have hfits : amongOthers.Fits (fields.map (·.name)) := by
    refine ⟨by simp [amongOthers, fields, Field.optional], ?_⟩
    simp only [amongOthers, List.forall_mem_cons]
    have hempty : Draft.Whole (.ofMembers []) :=
      .object (List.forall_mem_nil _) (List.forall_mem_nil _)
    refine ⟨fun _ => .array ?_, ?_, ?_, ?_, ?_, fun _ => hempty, List.forall_mem_nil _⟩
    · simp [Draft.Whole.unreadable]
    all_goals exact fun hname => absurd (by decide) hname
  have hcolors : PerMetric.written .string
      (.ofMembers [("cpu", .string "red"), ("cpu", .string "blue")]) { cpu := some "blue" } := by
    refine ⟨_, [(.cpu, "red"), (.cpu, "blue")], rfl, ?_, fun metric => ?_⟩
    · exact .cons ⟨rfl, rfl⟩ (.cons ⟨rfl, rfl⟩ .nil)
    · cases metric <;> rfl
  exact {
    fits := hfits
    endpoint := hmissing (by decide)
    streamUrl := hmissing (by decide)
    tlsCa := hmissing (by decide)
    mode := ⟨_, by simp [amongOthers], "pull", rfl, .inr rfl⟩
    watchers := hmissing (by decide)
    watchersWithPids := hmissing (by decide)
    capacity := hmissing (by decide)
    prefill := ⟨.null, by simp [amongOthers], .inl ⟨rfl, rfl⟩⟩
    cadence := hmissing (by decide)
    tail := hmissing (by decide)
    fetchTimeout := hmissing (by decide)
    width := ⟨.number (.integer 60), by simp [amongOthers], rfl, by decide⟩
    height := hmissing (by decide)
    colors := ⟨_, by simp [amongOthers], hcolors⟩
    ranges := hmissing (by decide)
    watcherMetrics := hmissing (by decide)
    socketMetrics := hmissing (by decide) }

/-- A text of these members. -/
def textAmongOthers : String :=
  "\x7b\"x\": [1e999, \"\\ud800\"], \"colors\": \x7b\"cpu\": \"red\", \"cpu\": \"blue\"\x7d, " ++
    "\"width\": 60, \"prefill\": null, \"mode\": \x7b\"pull\": null\x7d, \"x\": \x7b\x7d\x7d"

/-- A text of these members in the opposite order. -/
def reversedAmongOthers : String :=
  "\x7b\"x\": \x7b\x7d, \"mode\": \x7b\"pull\": null\x7d, \"prefill\": null, \"width\": 60, " ++
    "\"colors\": \x7b\"cpu\": \"red\", \"cpu\": \"blue\"\x7d, \"x\": [1e999, \"\\ud800\"]\x7d"

set_option maxRecDepth 2000 in
/-- Both texts are read as the standard configuration with another mode, width and colors. In its
settings the other metrics keep their colors, and new series are empty: `null` leaves that to the
mode. -/
theorem partial_overlays_standard_among_others :
    Json.draft textAmongOthers = ⟨.ofMembers amongOthers, false⟩ ∧
    Json.draft reversedAmongOthers = ⟨.ofMembers amongOthers.reverse, false⟩ ∧
    ∃ config : Config, config = { mode := .pull, width := 60, colors := { cpu := some "blue" } } ∧
      parse textAmongOthers = .ok config ∧ parse reversedAmongOthers = .ok config ∧
      config.settings.palette.get? .cpu = some "blue" ∧
      config.settings.palette.get? .mem = some "#5DAACC" ∧
      config.settings.layout.prefill = false := by
  have htext : Json.draft textAmongOthers = ⟨.ofMembers amongOthers, false⟩ := rfl
  have hreversed : Json.draft reversedAmongOthers = ⟨.ofMembers amongOthers.reverse, false⟩ := rfl
  obtain ⟨hparse, horder, hsettings⟩ := partial_overlays_standard htext
  obtain ⟨hcolors, hprefill⟩ := hsettings _ written_among_others
  have hconfig : parse textAmongOthers = .ok (givenAmongOthers.overlay { }) :=
    (hparse _).mpr ⟨_, written_among_others, rfl⟩
  have hsame := horder _ _ (List.reverse_perm _) hreversed (givenAmongOthers.overlay { })
  exact ⟨htext, hreversed, _, rfl, hconfig, hsame.mpr hconfig, hcolors .cpu, hcolors .mem, hprefill⟩

end Config

end StatsBoard
