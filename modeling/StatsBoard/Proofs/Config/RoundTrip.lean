import StatsBoard.Proofs.Config.Reading
import StatsBoard.Proofs.Json.Decoding
import StatsBoard.Proofs.Metric

/-!
# Configurations and profiles are read back

What is printed of a configuration, or of profiles, is read as that configuration or those profiles
(`Config.round_trips`), as long as the bounds of the ranges are finite numbers that are read back.
The members that are printed follow the fields that are read, and a value that is left out is the
one that its field has when it is missing.
-/

namespace StatsBoard

open Json Decoder

variable {room : Nat}

/-! ## Values and their drafts -/

theorem IngestMode.of_name_name (mode : IngestMode) : ofName? mode.name = some mode := by
  cases mode <;> rfl

/-- A range is read back. -/
theorem SampleRange.reads_to_json (range : SampleRange) :
    decoder.Reads (room + 1) range.toJson range := by
  have hbound : ∀ (bound : Option Binary64), ∀ x ∈ bound,
      Json.number (.real x) ≠ .null ∧ real.Reads room (.number (.real x)) x :=
    fun _ x _ => ⟨nofun, reads_real x⟩
  have hfills : Fills room fields { }
      (boundMember "min" range.min ++ (boundMember "max" range.max ++ [])) range :=
    .perhaps (hbound range.min) rfl (.perhaps (hbound range.max) rfl (.nil range))
  rw [List.append_nil] at hfills
  exact reads_record (by decide) hfills

theorem SampleRange.numbers_to_json (range : SampleRange) :
    range.toJson.numbers = range.bounds.map .real := by
  obtain ⟨_ | _, _ | _⟩ := range <;> rfl

/-- A slice is read back. -/
theorem TailRange.Fits.reads_to_json {range : TailRange} (h : range.Fits) :
    decoder.Reads (room + 1) range.toJson range :=
  reads_record (by decide)
    (.mandatory (reads_integer h.start) (.mandatory (reads_integer h.stop) (.nil range)))

namespace PerMetric

variable {α : Type}

/-- Putting the values of some metrics one by one gives those values. -/
theorem put_to_list (values : PerMetric α) :
    values.toList.foldl (fun kept member => kept.put member.1 member.2) empty = values := by
  obtain ⟨_ | _, _ | _, _ | _, _ | _⟩ := values <;> rfl

/-- Values for some of the metrics are read back if each of them is. -/
theorem reads_to_json {decode : Decoder α} {encode : α → Json} (values : PerMetric α)
    (h : ∀ a, decode.Reads room (encode a) a) :
    (decoder decode).Reads (room + 1) (values.toJson encode) values := by
  have hmap : (decoder decode).Reads (room + 1) (values.toJson encode)
      (values.toList.foldl (fun kept member => kept.put member.1 member.2) empty) :=
    reads_map (fun member _ => member.1.of_name_name) (fun member _ => h member.2)
  rwa [put_to_list] at hmap

end PerMetric

namespace Config

/-- The other numbers of a configuration. -/
def integers (config : Config) : List Int :=
  [config.capacity, config.cadence, config.tail.start, config.tail.stop, config.fetchTimeout,
    config.width, config.height]

theorem Fits.in_range {config : Config} (h : config.Fits) :
    ∀ i ∈ config.integers, Number.inRange i := by
  obtain ⟨hcapacity, hcadence, ⟨hstart, hstop⟩, hfetch, hwidth, hheight⟩ := h
  have hlow : Int64.minValue.toInt = -2 ^ 63 := rfl
  have hhigh : Int64.maxValue.toInt = 2 ^ 63 - 1 := rfl
  have hsmall : UInt16.size = 2 ^ 16 := rfl
  have hlarge : UInt64.size = 2 ^ 64 := rfl
  simp only [integers, List.forall_mem_cons, Number.inRange, Bool.and_eq_true, decide_eq_true_eq]
  refine ⟨?_, ?_, ?_, ?_, ?_, ?_, ?_, List.forall_mem_nil _⟩ <;> omega

theorem numbers_optional_member {name : String} {value : Option Json}
    (h : ∀ json ∈ value, json.numbers = []) :
    memberNumbers (optionalMember name value) = [] := by
  cases value with
  | none => rfl
  | some json => simpa [optionalMember, memberNumbers] using h json rfl

/-- The numbers that are printed of a configuration. -/
theorem numbers_to_json (config : Config) :
    config.toJson.numbers = config.integers.map .integer ++ config.bounds.map .real := by
  have hcolors : (config.colors.toJson .string).numbers = [] := by
    rw [PerMetric.toJson, numbers, member_numbers_eq_flat_map, List.flatMap_map]
    exact List.flatMap_eq_nil_iff.mpr fun _ _ => rfl
  have hranges : (config.ranges.toJson SampleRange.toJson).numbers = config.bounds.map .real := by
    rw [PerMetric.toJson, numbers, member_numbers_eq_flat_map, List.flatMap_map, bounds,
      List.map_flatMap]
    exact List.flatMap_congr fun entry _ => entry.2.numbers_to_json
  have hstring : ∀ text : Option String, ∀ json ∈ text.map Json.string, json.numbers = [] := by
    intro text json hjson
    obtain ⟨s, -, rfl⟩ := Option.mem_map.mp hjson
    rfl
  have hbool : ∀ json ∈ config.prefill.map Json.bool, json.numbers = [] := by
    intro json hjson
    obtain ⟨b, -, rfl⟩ := Option.mem_map.mp hjson
    rfl
  simp [toJson, numbers, member_numbers_append, memberNumbers, numbers_optional_member (hstring _),
    numbers_optional_member hbool, numbers_of_strings, hcolors, hranges, metricsJson, integers,
    Json.ofNat, TailRange.toJson]

/-- The numbers that are printed of a configuration are read back if its bounds are. -/
theorem Fits.numbers_read_back {config : Config} (h : config.Fits)
    (hbounds : ∀ x ∈ config.bounds, ReadsBack (.real x)) :
    ∀ n ∈ config.toJson.numbers, ReadsBack n := by
  rw [config.numbers_to_json, List.forall_mem_append, List.forall_mem_map, List.forall_mem_map]
  exact ⟨fun i hi => reads_back_integer (h.in_range i hi), hbounds⟩

/-- Lists of metrics are read back. -/
theorem reads_metrics (metrics : List Metric) :
    (list Metric.decoder).Reads (room + 1) (metricsJson metrics) metrics := by
  have hlist : (list Metric.decoder).Reads (room + 1)
      (.array (metrics.map fun metric => .string metric.name)) metrics :=
    reads_list fun metric _ => reads_variant metric.of_name_name
  rwa [metricsJson, Json.ofStrings, List.map_map]

/-- A configuration is read back. -/
theorem Fits.reads_to_json {config : Config} (h : config.Fits) :
    decoder.Reads (room + 3) config.toJson config := by
  have hstring : ∀ (text : Option String), ∀ s ∈ text,
      Json.string s ≠ .null ∧ string.Reads (room + 2) (.string s) s :=
    fun _ s _ => ⟨nofun, reads_string s⟩
  have hbool : ∀ b ∈ config.prefill,
      Json.bool b ≠ .null ∧ bool.Reads (room + 2) (.bool b) b :=
    fun b _ => ⟨nofun, reads_bool b⟩
  refine reads_record (by decide) ?_
  simp only [List.append_assoc, List.cons_append, List.nil_append, optionalMember, Option.map_map]
  refine .given (reads_string config.endpoint) <|
    .perhaps (hstring config.streamUrl) rfl <|
    .perhaps (hstring config.tlsCa) rfl <|
    .given (reads_variant config.mode.of_name_name) <|
    .given (reads_strings config.watchers) <|
    .given (reads_strings config.watchersWithPids) <|
    .given (reads_natural h.capacity) <|
    .perhaps hbool rfl <|
    .given (reads_natural h.cadence) <|
    .given h.tail.reads_to_json <|
    .given (reads_natural h.fetchTimeout) <|
    .given (reads_natural h.width) <|
    .given (reads_natural h.height) <|
    .given (config.colors.reads_to_json reads_string) <|
    .given (config.ranges.reads_to_json SampleRange.reads_to_json) <|
    .given (reads_metrics config.watcherMetrics) <|
    .given (reads_metrics config.socketMetrics) <|
    .nil config

end Config

namespace Profiles

variable {name other : String} {config : Config} {kept : List (String × Config)}

/-- A name above all others is put at the end. -/
theorem insert_rising_of_lt (h : ∀ entry ∈ kept, entry.1 < name) :
    insertRising name config kept = kept ++ [(name, config)] := by
  induction kept with
  | nil => rfl
  | cons entry kept ih =>
      obtain ⟨hentry, hkept⟩ := List.forall_mem_cons.mp h
      rw [insertRising, if_neg (ne_of_gt hentry), if_neg (lt_asymm hentry), ih hkept,
        List.cons_append]

/-- Putting the entries of a rising list one by one gives that list. -/
theorem insert_rising_list {done : List (String × Config)} (h : Rising (done ++ kept)) :
    kept.foldl (fun kept entry => insertRising entry.1 entry.2 kept) done = done ++ kept := by
  induction kept generalizing done with
  | nil => rw [List.foldl_nil, List.append_nil]
  | cons entry kept ih =>
      have hlast : ∀ before ∈ done, before.1 < entry.1 := fun before hbefore =>
        (List.pairwise_append.mp h).2.2 before hbefore entry List.mem_cons_self
      rw [List.append_cons] at h
      rw [List.foldl_cons, insert_rising_of_lt hlast, ih h, ← List.append_cons]

/-- Profiles are read back. -/
theorem Fits.reads_to_json {profiles : Profiles} (h : profiles.Fits) :
    decoder.Reads (room + 5) profiles.toJson profiles := by
  have hlist : profiles.profiles.foldl
      (fun kept entry => insertRising entry.1 entry.2 kept) [] = profiles.profiles :=
    @insert_rising_list profiles.profiles [] h.rising
  have hconfigs : (map some Config.decoder [] fun kept name config =>
      insertRising name config kept).Reads (room + 4)
        (.object (profiles.profiles.map fun entry => (entry.1, entry.2.toJson)))
        (profiles.profiles.foldl (fun kept entry => insertRising entry.1 entry.2 kept) []) :=
    @reads_map _ _ _ _ _ _ _ _ id _ _ (fun _ _ => rfl)
      fun entry hentry => (h.configs entry hentry).reads_to_json
  rw [hlist] at hconfigs
  exact reads_record (by decide)
    (.given hconfigs (.given (reads_natural h.version) (.nil profiles)))

/-- The numbers that are printed of profiles are read back if their bounds are. -/
theorem Fits.numbers_read_back {profiles : Profiles} (h : profiles.Fits)
    (hbounds : ∀ x ∈ profiles.bounds, ReadsBack (.real x)) :
    ∀ n ∈ profiles.toJson.numbers, ReadsBack n := by
  have hconfigs : ∀ entry ∈ profiles.profiles, ∀ n ∈ entry.2.toJson.numbers, ReadsBack n :=
    fun entry hentry => (h.configs entry hentry).numbers_read_back fun x hx =>
      hbounds x (List.mem_flatMap.mpr ⟨entry, hentry, hx⟩)
  have hversion : ReadsBack (.integer profiles.version) :=
    reads_back_integer (in_range_of_lt (Nat.lt_trans h.version (by decide)))
  intro n hn
  simp only [toJson, numbers, memberNumbers, member_numbers_eq_flat_map, List.flatMap_map,
    Json.ofNat, List.append_nil, List.mem_append, List.mem_flatMap, List.mem_singleton] at hn
  rcases hn with ⟨entry, hentry, hn⟩ | rfl
  · exact hconfigs entry hentry n hn
  · exact hversion

end Profiles

/-! ## Reading back -/

/-- Of these numbers, the finite ones are read as what is printed of them. -/
def Json.FiniteReadBack (bounds : List Binary64) : Prop :=
  ∀ x ∈ bounds, x.isFinite → ReadsBack (.real x)

/-- A configuration is read back from its compact text and from its indented one. -/
theorem Config.Fits.parse_to_json {config : Config} (h : config.Fits)
    (hfinite : ∀ x ∈ config.bounds, x.isFinite) (hread : FiniteReadBack config.bounds) :
    parse config.toJson.compact = .ok config ∧ parse config.toJson.pretty = .ok config := by
  have hnumbers := h.numbers_read_back fun x hx => hread x hx (hfinite x hx)
  have hreads : decoder.Reads (124 + 3) config.toJson config := h.reads_to_json
  exact ⟨read_compact hreads hnumbers, read_pretty hreads hnumbers⟩

/-- Profiles are read back from their text. -/
theorem Profiles.Fits.parse_text {profiles : Profiles} (h : profiles.Fits)
    (hfinite : ∀ x ∈ profiles.bounds, x.isFinite) (hread : FiniteReadBack profiles.bounds) :
    parse profiles.text = .ok profiles := by
  have hnumbers := h.numbers_read_back fun x hx => hread x hx (hfinite x hx)
  have hreads : decoder.Reads (122 + 5) profiles.toJson profiles := h.reads_to_json
  exact read_pretty hreads hnumbers

/-- Configurations and profiles with numbers of their types and finite bounds are read back from
what is printed of them, compact or indented; so a configuration that was read of any text is read
again from what is printed of it. -/
theorem Config.round_trips :
    (∀ profiles : Profiles, profiles.Fits → (∀ x ∈ profiles.bounds, x.isFinite) →
      FiniteReadBack profiles.bounds → Profiles.parse profiles.text = .ok profiles) ∧
    (∀ config : Config, config.Fits → (∀ x ∈ config.bounds, x.isFinite) →
      FiniteReadBack config.bounds →
        parse config.toJson.compact = .ok config ∧ parse config.toJson.pretty = .ok config) ∧
    ∀ text config, parse text = .ok config → FiniteReadBack config.bounds →
      parse config.toJson.compact = .ok config ∧ parse config.toJson.pretty = .ok config := by
  refine ⟨fun profiles h => h.parse_text, fun config h => h.parse_to_json, ?_⟩
  intro text config htext hread
  obtain ⟨hfits, hfinite⟩ := yields_decoder.read htext
  exact hfits.parse_to_json hfinite hread

/-- A configuration with a range from one tenth upwards. -/
def Config.oneSided : Config where
  watchers := ["größe \"a\""]
  prefill := some false
  colors := { mem := some "#00ff00" }
  ranges := { cpu := some ⟨some ⟨0x3fb999999999999a⟩, none⟩ }

/-- Profiles with that configuration and the standard one. -/
def Profiles.twoNamed : Profiles where
  profiles := [("a", .oneSided), ("b", { })]
  version := 1

/-- The one-sided configuration is read back alone, among profiles, and from a text in which its
bound is written in another way. -/
theorem Config.round_trips_one_sided :
    Profiles.parse Profiles.twoNamed.text = .ok Profiles.twoNamed ∧
      (parse oneSided.toJson.compact = .ok oneSided ∧
        parse oneSided.toJson.pretty = .ok oneSided) ∧
      ∃ config, parse "\x7b\"ranges\":\x7b\"cpu\":[1e-1]\x7d\x7d" = .ok config ∧
        config.ranges = oneSided.ranges ∧ parse config.toJson.compact = .ok config := by
  obtain ⟨hprofiles, hconfig, htext⟩ := round_trips
  have hfits : oneSided.Fits :=
    ⟨by decide, by decide, ⟨by decide, by decide⟩, by decide, by decide, by decide⟩
  have htwo : Profiles.twoNamed.Fits :=
    ⟨List.pairwise_pair.mpr (by decide), by simp [Profiles.twoNamed, hfits, fits_standard],
      by decide⟩
  have hfinite : ∀ x ∈ oneSided.bounds, x.isFinite := by decide +kernel
  have hread : FiniteReadBack oneSided.bounds := by
    unfold FiniteReadBack
    decide +kernel
  have hparse : parse "\x7b\"ranges\":\x7b\"cpu\":[1e-1]\x7d\x7d" =
      .ok { ranges := oneSided.ranges } := by
    decide +kernel
  exact ⟨hprofiles _ htwo hfinite hread, hconfig _ hfits hfinite hread, _, hparse, rfl,
    (htext _ _ hparse hread).1⟩

end StatsBoard
