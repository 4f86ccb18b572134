import StatsBoard.Proofs.Stream.Announcements

/-!
# Names of streams and of populations

A frame is told from its name: that of a population, or else that of a stream. An entity listens to
a stream under its own name, and samples that come on it are stored in its record; but if the
stream has the name of a population, then no frame brings samples on it
(`reached_unless_named_like_population`, `watcher_named_like_population_not_reached`).
-/

namespace StatsBoard

/-! ## Beginnings and ends of names -/

namespace StreamEvent

variable {s rest name watcher : String} {payload : Members Json}

/-- A beginning is taken off exactly where it stands. -/
theorem after?_eq_some_iff {beginning : String} :
    after? beginning s = some rest ↔ s = beginning ++ rest := by
  rw [after?]
  constructor
  · intro h
    split at h
    next hbegins =>
      obtain rfl := Option.some.inj h
      rw [List.isPrefixOf_iff_prefix] at hbegins
      apply String.toList_inj.mp
      rw [String.toList_append, String.toList_ofList, ← String.length_toList]
      exact (List.prefix_iff_eq_append.mp hbegins).symm
    next => cases h
  · rintro rfl
    rw [String.toList_append, List.isPrefixOf_iff_prefix.mpr (List.prefix_append ..), if_pos rfl,
      ← String.length_toList, List.drop_left, String.ofList_toList]

/-- An end is taken off exactly where it stands. -/
theorem before?_eq_some_iff {ending : String} :
    before? ending s = some rest ↔ s = rest ++ ending := by
  rw [before?]
  constructor
  · intro h
    split at h
    next hends =>
      obtain rfl := Option.some.inj h
      rw [List.isSuffixOf_iff_suffix] at hends
      apply String.toList_inj.mp
      rw [String.toList_append, String.toList_ofList, ← String.length_toList,
        ← String.length_toList]
      exact (List.suffix_iff_eq_append.mp hends).symm
    next => cases h
  · rintro rfl
    rw [String.toList_append, List.isSuffixOf_iff_suffix.mpr (List.suffix_append ..), if_pos rfl,
      String.length_append, Nat.add_sub_cancel, ← String.length_toList, List.take_left,
      String.ofList_toList]

/-- A name announces the processes of the watcher that stands between its beginning and its end. -/
theorem announced_watcher?_eq_some_iff : announcedWatcher? name = some watcher ↔
    watcher ≠ "" ∧ name = watcherPrefix ++ (watcher ++ processesSuffix) := by
  simp only [announcedWatcher?, Option.filter_eq_some_iff, Option.bind_eq_some_iff,
    after?_eq_some_iff, before?_eq_some_iff, exists_eq_right, bne_iff_ne]
  exact And.comm

/-! ## Names that announce populations -/

/-- The name of a frame is one that announces a population: the sockets, or the processes of a
watcher. -/
def NamesPopulation (name : String) : Prop :=
  name = socketsName ∨
    ∃ watcher, watcher ≠ "" ∧ name = watcherPrefix ++ (watcher ++ processesSuffix)

/-- A frame under the name of a population announces one, whatever its arguments are. -/
theorem of_frame?_of_population (h : NamesPopulation name) (args : Json) :
    ∃ population, ofFrame? ⟨name, args⟩ = some (.discovery population) := by
  rw [ofFrame?]
  split
  next => exact ⟨_, rfl⟩
  next hsockets =>
    obtain ⟨watcher, hwatcher⟩ := h.resolve_left hsockets
    rw [announced_watcher?_eq_some_iff.mpr hwatcher]
    exact ⟨_, rfl⟩

/-- A frame under the name of a stream that is no population brings the samples of its payload. -/
theorem of_frame?_of_stream (hstream : isStream name) (h : ¬ NamesPopulation name) (args : Json) :
    ofFrame? ⟨name, args⟩ = (payload? args).map (.sample name) := by
  obtain ⟨hsockets, hprocesses⟩ := not_or.mp h
  have hnone : announcedWatcher? name = none :=
    Option.eq_none_iff_forall_ne_some.mpr fun watcher hwatcher =>
      hprocesses ⟨watcher, announced_watcher?_eq_some_iff.mp hwatcher⟩
  simp only [ofFrame?, if_neg hsockets, hnone, if_pos hstream]

/-- A frame with samples under the name of a stream brings them exactly if that is not the name of a
population. -/
theorem of_frame?_eq_sample_iff (hstream : isStream name) :
    ofFrame? ⟨name, .object payload⟩ = some (.sample name payload) ↔ ¬ NamesPopulation name := by
  constructor
  · intro hsample hpopulation
    obtain ⟨population, hdiscovery⟩ := of_frame?_of_population hpopulation (.object payload)
    rw [hsample] at hdiscovery
    cases hdiscovery
  · intro h
    exact of_frame?_of_stream hstream h (.object payload)

end StreamEvent

/-! ## Entities with the stream of a population -/

namespace EntityKind

variable {kind : EntityKind} {id : String}

open StreamEvent

/-- The stream of an entity has the name of a population: that of a socket which is called like the
list of sockets, or that of a watcher or process whose identifier ends like the names of lists of
processes. -/
def NamedLikePopulation (kind : EntityKind) (id : String) : Prop :=
  match kind with
  | .aggregate .socket => False
  | .concrete _ subId .socket => subId = "fds"
  | .aggregate .watcher | .concrete _ _ .watcher =>
    processesSuffix.toList <:+ id.toList ∧ id ≠ processesSuffix

/-- `NamedLikePopulation` compares two texts. -/
instance (kind : EntityKind) (id : String) : Decidable (kind.NamedLikePopulation id) :=
  match kind with
  | .aggregate .socket => inferInstanceAs (Decidable False)
  | .concrete _ _ .socket => inferInstanceAs (Decidable (_ = _))
  | .aggregate .watcher | .concrete _ _ .watcher => inferInstanceAs (Decidable (_ <:+ _ ∧ _ ≠ _))

/-- An identifier ends like the names of lists of processes exactly if something stands before that
end. -/
theorem ends_like_processes_iff : processesSuffix.toList <:+ id.toList ∧ id ≠ processesSuffix ↔
    ∃ watcher, watcher ≠ "" ∧ id = watcher ++ processesSuffix := by
  constructor
  · rintro ⟨⟨before, hbefore⟩, hid⟩
    have hwhole : id = String.ofList before ++ processesSuffix := by
      apply String.toList_inj.mp
      rw [String.toList_append, String.toList_ofList, hbefore]
    refine ⟨String.ofList before, ?_, hwhole⟩
    intro hempty
    exact hid (by rw [hwhole, hempty, String.empty_append])
  · rintro ⟨watcher, hwatcher, rfl⟩
    rw [String.toList_append]
    exact ⟨List.suffix_append .., fun hid => hwatcher (by simpa using hid)⟩

/-- The stream of an entity has the name of a population exactly if the entity is named so. -/
theorem names_population_stream_iff :
    NamesPopulation (kind.stream id) ↔ kind.NamedLikePopulation id := by
  -- A name behind the beginning of the one kind of streams is no population of the other kind.
  have hsockets (rest : String) : NamesPopulation (socketStream ++ rest) ↔ rest = "-fds" := by
    have hname : socketsName = socketStream ++ "-fds" := by decide
    rw [NamesPopulation, hname, String.append_right_inj, or_iff_left]
    rintro ⟨watcher, -, hwatcher⟩
    refine socket_stream_not_watcher rest ?_
    rw [hwatcher, String.toList_append]
    exact List.prefix_append ..
  have hwatcher (id : String) : NamesPopulation (watcherPrefix ++ id) ↔
      processesSuffix.toList <:+ id.toList ∧ id ≠ processesSuffix := by
    rw [ends_like_processes_iff, NamesPopulation, or_iff_right]
    · simp only [String.append_right_inj]
    · intro hname
      have hprefix : watcherPrefix.toList <+: socketsName.toList := by
        rw [← hname, String.toList_append]
        exact List.prefix_append ..
      exact absurd hprefix (by decide)
  match kind with
  | .aggregate .socket => exact (hsockets "").trans (iff_of_false (by decide) not_false)
  | .concrete _ subId .socket =>
      have hrest : "-fds" = "-" ++ "fds" := by decide
      rw [stream, String.append_assoc, hsockets, hrest, String.append_right_inj]
      rfl
  | .aggregate .watcher | .concrete _ _ .watcher => exact hwatcher id

/-- The stream of an entity has the name of a stream of samples, unless its identifier is empty. -/
theorem is_stream_stream (hid : id ≠ "") : isStream (kind.stream id) := by
  have hwatcher : isStream (watcherPrefix ++ id) := by
    rw [isStream, after?_eq_some_iff.mpr rfl]
    simpa using hid
  -- The beginning of watcher streams is looked for first, and no stream of sockets has it.
  have hnone (rest : String) : after? watcherPrefix (socketStream ++ rest) = none := by
    rw [Option.eq_none_iff_forall_ne_some]
    intro more hmore
    rw [after?_eq_some_iff] at hmore
    refine socket_stream_not_watcher rest ?_
    rw [hmore, String.toList_append]
    exact List.prefix_append ..
  match kind with
  | .aggregate .socket =>
      have hsockets : isStream socketStream := by decide
      exact hsockets
  | .concrete _ subId .socket =>
      have hsocket : after? (socketStream ++ "-") (socketStream ++ "-" ++ subId) = some subId :=
        after?_eq_some_iff.mpr rfl
      have hnone := hnone ("-" ++ subId)
      rw [← String.append_assoc] at hnone
      rw [stream, isStream, hnone, hsocket]
      exact Bool.or_true _
  | .aggregate .watcher | .concrete _ _ .watcher => exact hwatcher

end EntityKind

namespace Engine

variable {settings : Settings} {engine : Engine} {id : String} {record : EntityRecord}
  {events : List StreamEvent}

/-! ## Which entities samples reach -/

/-- No entity has the empty identifier, unless one is configured so. -/
theorem id_ne_empty_of_events (hmode : settings.mode = .push)
    (hnames : ∀ name ∈ configured settings, name ≠ "")
    (hevents : ∀ event ∈ events, event.Decoded)
    (hid : id ∈ ((Engine.new settings).start.handleAll events).registry.ids) : id ≠ "" := by
  rw [ids_of_events hmode hevents, List.mem_eraseDups, List.mem_append, List.mem_flatMap] at hid
  rcases hid with hname | ⟨event, -, hannounced⟩
  · exact hnames id hname
  · -- The identifiers of children have a hyphen.
    cases event with
    | sample => exact absurd hannounced List.not_mem_nil
    | discovery population =>
        rw [StreamEvent.announcedIds] at hannounced
        split at hannounced
        next =>
          obtain ⟨subId, -, rfl⟩ := List.mem_map.mp hannounced
          rw [ne_eq, ← String.toList_inj, to_list_child_id]
          simp
        next => exact absurd hannounced List.not_mem_nil

/-- Samples on the stream of a registered entity are stored in its record. -/
theorem Routed.get?_own_sample (h : engine.Routed settings)
    (hrecord : record ∈ engine.registry.records) (payload : Members Json) :
    (engine.handleEvent (.sample (record.kind.stream record.id) payload)).registry.get? record.id =
      some (record.ingest settings.ranges payload record.metrics) := by
  rw [handleEvent, h.listening.get?_handle_sample, Registry.get?_of_mem h.nodup hrecord,
    Option.map_some, EntityRecord.hear, if_pos rfl]

/-- Samples on the stream of a registered entity leave the other records as they are. -/
theorem Routed.get?_other_sample (h : engine.Routed settings)
    (hrecord : record ∈ engine.registry.records) (payload : Members Json) (hid : id ≠ record.id) :
    (engine.handleEvent (.sample (record.kind.stream record.id) payload)).registry.get? id =
      engine.registry.get? id := by
  rw [handleEvent, h.listening.get?_handle_sample]
  cases hother : engine.registry.get? id with
  | none => rfl
  | some other =>
      have hstream : record.kind.stream record.id ≠ other.kind.stream other.id := by
        intro hsame
        -- Entities that listen to one stream are one entity.
        rw [h.stream_inj hrecord (Registry.mem_of_get? hother) hsame] at hid
        exact hid (Registry.id_of_get? hother).symm
      rw [Option.map_some, EntityRecord.hear, if_neg hstream]

/-- At every moment of a session that listens, if no configured aggregate has the empty name: frames
with samples under the name of the stream of a registered entity are told as such and bring the
samples to its record and to no other, unless the stream has the name of a population; if it has,
then no frame under its name brings samples. -/
theorem reached_unless_named_like_population (hmode : settings.mode = .push)
    (hnames : ∀ name ∈ configured settings, name ≠ "")
    (hevents : ∀ event ∈ events, event.Decoded)
    (hengine : engine = (Engine.new settings).start.handleAll events)
    (hrecord : record ∈ engine.registry.records) :
    (¬ record.kind.NamedLikePopulation record.id → ∀ payload,
      StreamEvent.ofFrame? ⟨record.kind.stream record.id, .object payload⟩ =
        some (.sample (record.kind.stream record.id) payload)) ∧
    (record.kind.NamedLikePopulation record.id → ∀ args, ∃ population,
      StreamEvent.ofFrame? ⟨record.kind.stream record.id, args⟩ = some (.discovery population)) ∧
    ∀ payload,
      (engine.handleEvent (.sample (record.kind.stream record.id) payload)).registry.get?
          record.id = some (record.ingest settings.ranges payload record.metrics) ∧
      ∀ id ≠ record.id,
        (engine.handleEvent (.sample (record.kind.stream record.id) payload)).registry.get? id =
          engine.registry.get? id := by
  have h : engine.Routed settings := hengine ▸ (Routed.start hmode).handle_all hevents
  refine ⟨?told, ?population, ?stored⟩
  case told =>
    intro hnamed payload
    have hid : record.id ≠ "" :=
      id_ne_empty_of_events hmode hnames hevents (hengine ▸ List.mem_map_of_mem hrecord)
    exact (StreamEvent.of_frame?_eq_sample_iff (EntityKind.is_stream_stream hid)).mpr
      (mt EntityKind.names_population_stream_iff.mp hnamed)
  case population =>
    intro hnamed
    exact StreamEvent.of_frame?_of_population (EntityKind.names_population_stream_iff.mpr hnamed)
  case stored =>
    intro payload
    refine ⟨h.get?_own_sample hrecord payload, ?_⟩
    intro id hid
    exact h.get?_other_sample hrecord payload hid

/-- A socket that is called like the streams of watchers is reached by its samples. -/
theorem reached_unless_named_like_population_socket :
    ∃ engine record, engine = (Engine.new socketsAndWatcher).start.handleAll announcements ∧
      record = wiredRecord socketsAndWatcher "sockets-stats" (.concrete "sockets" "stats" .socket) ∧
      StreamEvent.ofFrame? ⟨"socket-stats-stats", .object [("reads", .number (.integer 3))]⟩ =
        some (.sample "socket-stats-stats" [("reads", .number (.integer 3))]) ∧
      (engine.handleEvent
          (.sample "socket-stats-stats" [("reads", .number (.integer 3))])).registry.get?
            "sockets-stats" =
        some (record.ingest socketsAndWatcher.ranges [("reads", .number (.integer 3))]
          record.metrics) := by
  have hmode : socketsAndWatcher.mode = .push := rfl
  have hnames : ∀ name ∈ configured socketsAndWatcher, name ≠ "" := by decide
  have hrecord :
      wiredRecord socketsAndWatcher "sockets-stats" (.concrete "sockets" "stats" .socket) ∈
        ((Engine.new socketsAndWatcher).start.handleAll announcements).registry.records := by
    decide +kernel
  obtain ⟨htold, -, hstored⟩ := reached_unless_named_like_population hmode hnames
    decoded_of_mem_announcements rfl hrecord
  exact ⟨_, _, rfl, rfl, htold (by decide) _, (hstored _).1⟩

/-- A watcher whose name ends like those of lists of processes. -/
def watcherLikeProcesses : Settings :=
  { watchers := ["web-pids"] }

/-- That watcher listens to its stream, but a frame with samples under the name of the stream is
taken for one that announces the processes of another watcher, and the samples are lost. -/
theorem watcher_named_like_population_not_reached :
    watcherLikeProcesses.mode = .push ∧ (∀ name ∈ configured watcherLikeProcesses, name ≠ "") ∧
    ∃ engine, engine = (Engine.new watcherLikeProcesses).start ∧
      wiredRecord watcherLikeProcesses "web-pids" (.aggregate .watcher) ∈
        engine.registry.records ∧
      (EntityKind.aggregate .watcher).stream "web-pids" = "stats-web-pids" ∧
      engine.subscriptions.route? "stats-web-pids" = some "web-pids" ∧
      StreamEvent.ofFrame? ⟨"stats-web-pids", .object [("cpu", .number (.integer 5))]⟩ =
        some (.discovery ⟨.watcher, "web", []⟩) ∧
      (engine.handleEvent (.discovery ⟨.watcher, "web", []⟩)).registry = engine.registry := by
  refine ⟨rfl, by decide, _, rfl, ?_, by decide, by decide, ?_, ?_⟩
  <;> decide +kernel

end Engine

end StatsBoard
