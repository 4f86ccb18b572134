import StatsBoard.Proofs.Stream.Names
import StatsBoard.Proofs.Text

/-!
# The grammar of events

What a frame says is told from its name, from the object among its arguments and, for a population,
from a list in that object. `Denotes` says so frame by frame and without regard to the order in
which names are compared. A frame is taken for an event exactly if the grammar has it denote that
event (`frames_read_by_grammar`).
-/

namespace StatsBoard

namespace StreamEvent

/-! ## What frames denote -/

/-- The arguments of a frame carry a payload: an object, alone or as the first item of an array. -/
inductive Carries : Json → Members Json → Prop where
  | alone (payload : Members Json) : Carries (.object payload) payload
  | first (payload : Members Json) (others : List Json) :
      Carries (.array (.object payload :: others)) payload

/-- An item of a list names a child: a number by its numeral, and a text that is not blank by what
stands between the blanks at its ends. -/
inductive NamesChild : Json → String → Prop where
  | number (n : Number) : NamesChild (.number n) (Json.number n).compact
  | text (s : String) (h : ∃ c ∈ s.toList, ¬ Text.isBlank c) : NamesChild (.string s) (Text.trim s)

/-- The children that the items of a list name, in order; other items are passed over. -/
inductive NamesChildren : List Json → List String → Prop where
  | nil : NamesChildren [] []
  | named {item : Json} {items : List Json} {child : String} {children : List String}
      (h : NamesChild item child) (hrest : NamesChildren items children) :
      NamesChildren (item :: items) (child :: children)
  | passed {item : Json} {items : List Json} {children : List String}
      (h : ∀ child, ¬ NamesChild item child) (hrest : NamesChildren items children) :
      NamesChildren (item :: items) children

/-- The children that arguments list under a key of their payload; without a list there are none. -/
inductive Lists (key : String) (args : Json) : List String → Prop where
  | listed {payload : Members Json} {items : List Json} {children : List String}
      (hpayload : Carries args payload) (hitems : payload.get? key = some (.array items))
      (hchildren : NamesChildren items children) : Lists key args children
  | unlisted (h : ∀ payload items, Carries args payload → payload.get? key ≠ some (.array items)) :
      Lists key args []

/-- What a frame denotes: the population of the sockets, that of a watcher with a name, or, under
the name of a stream that is neither, samples. Watchers and their processes have an identifier that
is not empty; any number stands for a socket. -/
inductive Denotes (frame : WireFrame) : StreamEvent → Prop where
  | sockets {children : List String} (hname : frame.name = "socket-stats-fds")
      (hchildren : Lists "fds" frame.args children) :
      Denotes frame (.discovery ⟨.socket, "sockets", children⟩)
  | processes {watcher : String} {children : List String} (hwatcher : watcher ≠ "")
      (hname : frame.name = "stats-" ++ (watcher ++ "-pids"))
      (hchildren : Lists "pids" frame.args children) :
      Denotes frame (.discovery ⟨.watcher, watcher, children⟩)
  | samples {id : String} {kind : EntityKind} {payload : Members Json}
      (hpopulation : ¬ NamesPopulation frame.name) (hname : frame.name = kind.stream id)
      (hid : kind.family = .watcher → id ≠ "") (hpayload : Carries frame.args payload) :
      Denotes frame (.sample frame.name payload)

variable {args : Json} {payload : Members Json} {key name : String} {children : List String}
  {frame : WireFrame} {event : StreamEvent}

/-! ## Arguments -/

/-- The payload of arguments is the one that they carry. -/
theorem payload?_eq_some_iff : payload? args = some payload ↔ Carries args payload := by
  constructor
  · intro h
    unfold payload? at h
    split at h
    · obtain rfl := Option.some.inj h
      exact .alone _
    · obtain rfl := Option.some.inj h
      exact .first _ _
    · cases h
  · rintro (_ | _) <;> rfl

/-- An item is taken for the child that it names. -/
theorem child?_eq_some_iff {item : Json} {child : String} :
    child? item = some child ↔ NamesChild item child := by
  have hblank (s : String) : Text.trim s ≠ "" ↔ ∃ c ∈ s.toList, ¬ Text.isBlank c := by
    rw [ne_eq, Text.trim_eq_empty_iff]
    simp
  constructor
  · intro h
    unfold child? at h
    split at h
    · obtain rfl := Option.some.inj h
      exact .number _
    · split at h
      next => cases h
      next htrim =>
        obtain rfl := Option.some.inj h
        exact .text _ ((hblank _).mp htrim)
    · cases h
  · rintro (_ | ⟨s, h⟩)
    · rfl
    · rw [child?, if_neg ((hblank s).mpr h)]

/-- The children of a list are those that its items name. -/
theorem filter_map_child?_eq_iff {items : List Json} :
    items.filterMap child? = children ↔ NamesChildren items children := by
  constructor
  · rintro rfl
    induction items with
    | nil => exact .nil
    | cons item items ih =>
        cases hchild : child? item with
        | none =>
            rw [List.filterMap_cons_none hchild]
            refine .passed (fun child hnames => ?_) ih
            rw [child?_eq_some_iff.mpr hnames] at hchild
            cases hchild
        | some child =>
            rw [List.filterMap_cons_some hchild]
            exact .named (child?_eq_some_iff.mp hchild) ih
  · intro h
    induction h with
    | nil => rfl
    | named h _ ih => rw [List.filterMap_cons_some (child?_eq_some_iff.mpr h), ih]
    | @passed item _ _ h _ ih =>
        have hnone : child? item = none :=
          Option.eq_none_iff_forall_ne_some.mpr fun child hchild =>
            h child (child?_eq_some_iff.mp hchild)
        rw [List.filterMap_cons_none hnone, ih]

/-- The children under a key are those that the arguments list there. -/
theorem children_eq_iff : StreamEvent.children key args = children ↔ Lists key args children := by
  constructor
  · rintro rfl
    unfold StreamEvent.children
    split
    next items hitems =>
      obtain ⟨payload, hpayload, hget⟩ := Option.bind_eq_some_iff.mp hitems
      exact .listed (payload?_eq_some_iff.mp hpayload) hget (filter_map_child?_eq_iff.mp rfl)
    next hnone =>
      refine .unlisted fun payload items hcarries hget => hnone items ?_
      rw [payload?_eq_some_iff.mpr hcarries, Option.bind_some, hget]
  · rintro (⟨hpayload, hitems, hchildren⟩ | h)
    · rw [StreamEvent.children, payload?_eq_some_iff.mpr hpayload, Option.bind_some, hitems]
      exact filter_map_child?_eq_iff.mpr hchildren
    · unfold StreamEvent.children
      split
      next items hitems =>
        obtain ⟨payload, hpayload, hget⟩ := Option.bind_eq_some_iff.mp hitems
        exact absurd hget (h payload items (payload?_eq_some_iff.mp hpayload))
      next => rfl

/-! ## Names -/

/-- A name is that of a stream exactly if some entity listens to it, if only one with an identifier
that watchers can have. -/
theorem is_stream_iff : isStream name ↔
    ∃ id kind, name = EntityKind.stream kind id ∧ (kind.family = .watcher → id ≠ "") := by
  constructor
  · intro h
    unfold isStream at h
    split at h
    next id hid =>
      exact ⟨id, .aggregate .watcher, after?_eq_some_iff.mp hid, fun _ => by simpa using h⟩
    next =>
      rw [Bool.or_eq_true, beq_iff_eq, Option.isSome_iff_exists] at h
      rcases h with rfl | ⟨subId, hsubId⟩
      · exact ⟨"", .aggregate .socket, rfl, fun hfamily => by cases hfamily⟩
      · refine ⟨"", .concrete Family.sockets subId .socket, after?_eq_some_iff.mp hsubId, ?_⟩
        exact fun hfamily => by cases hfamily
  · rintro ⟨id, kind, rfl, hid⟩
    cases hfamily : kind.family with
    | watcher => exact EntityKind.is_stream_stream (hid hfamily)
    | socket =>
        -- The streams of sockets do not depend on identifiers.
        have hany : kind.stream id = kind.stream Family.sockets := by
          cases kind <;> cases hfamily <;> rfl
        rw [hany]
        exact EntityKind.is_stream_stream (by decide)

/-! ## Frames -/

/-- A frame under the name of a population is taken for the population that it denotes, and a frame
under another name for none. -/
theorem of_frame?_eq_discovery_iff {population : Discovery} :
    ofFrame? frame = some (.discovery population) ↔ Denotes frame (.discovery population) := by
  obtain ⟨name, args⟩ := frame
  constructor
  · intro h
    unfold ofFrame? at h
    split at h
    next hsockets =>
      cases h
      exact .sockets hsockets (children_eq_iff.mp rfl)
    next =>
      split at h
      next watcher hwatcher =>
        cases h
        obtain ⟨hempty, hname⟩ := announced_watcher?_eq_some_iff.mp hwatcher
        exact .processes hempty hname (children_eq_iff.mp rfl)
      next =>
        split at h
        · obtain ⟨_, _, hsample⟩ := Option.map_eq_some_iff.mp h
          cases hsample
        · cases h
  · intro h
    cases h with
    | sockets hname hchildren =>
        obtain rfl := children_eq_iff.mpr hchildren
        exact if_pos hname
    | processes hempty hname hchildren =>
        obtain rfl := children_eq_iff.mpr hchildren
        have hsockets : name ≠ socketsName := by
          rintro rfl
          have hprefix : watcherPrefix.toList <+: socketsName.toList := by
            rw [show socketsName = _ from hname, String.toList_append]
            exact List.prefix_append ..
          exact absurd hprefix (by decide)
        rw [ofFrame?, if_neg hsockets, announced_watcher?_eq_some_iff.mpr ⟨hempty, hname⟩]

/-- A frame under the name of a stream, but of no population, is taken for the samples of its
payload. -/
theorem of_frame?_eq_sample_iff_denotes {stream : String} :
    ofFrame? frame = some (.sample stream payload) ↔ Denotes frame (.sample stream payload) := by
  obtain ⟨name, args⟩ := frame
  constructor
  · intro h
    have hpopulation : ¬ NamesPopulation name := by
      intro hnamed
      obtain ⟨population, hdiscovery⟩ := of_frame?_of_population hnamed args
      rw [h] at hdiscovery
      cases hdiscovery
    by_cases hstream : isStream name
    · rw [of_frame?_of_stream hstream hpopulation] at h
      obtain ⟨_, hpayload, hsample⟩ := Option.map_eq_some_iff.mp h
      cases hsample
      obtain ⟨id, kind, hname, hid⟩ := is_stream_iff.mp hstream
      exact .samples hpopulation hname hid (payload?_eq_some_iff.mp hpayload)
    · obtain ⟨hsockets, hprocesses⟩ := not_or.mp hpopulation
      have hnone : announcedWatcher? name = none :=
        Option.eq_none_iff_forall_ne_some.mpr fun watcher hwatcher =>
          hprocesses ⟨watcher, announced_watcher?_eq_some_iff.mp hwatcher⟩
      simp only [ofFrame?, if_neg hsockets, hnone, if_neg hstream] at h
      cases h
  · intro h
    cases h with
    | samples hpopulation hname hid hpayload =>
        have hstream : isStream name := is_stream_iff.mpr ⟨_, _, hname, hid⟩
        rw [of_frame?_of_stream hstream hpopulation, payload?_eq_some_iff.mpr hpayload]
        rfl

/-- A frame announces a population exactly if its name is that of one, whatever its arguments are;
and a frame is taken for an event exactly if it denotes that event, so that one which denotes
nothing is passed over. -/
theorem frames_read_by_grammar (frame : WireFrame) :
    ((∃ population, ofFrame? frame = some (.discovery population)) ↔
      NamesPopulation frame.name) ∧
    (∀ event, ofFrame? frame = some event ↔ Denotes frame event) ∧
    (ofFrame? frame = none ↔ ∀ event, ¬ Denotes frame event) := by
  have hdenotes : ∀ event, ofFrame? frame = some event ↔ Denotes frame event := by
    intro event
    cases event with
    | sample => exact of_frame?_eq_sample_iff_denotes
    | discovery => exact of_frame?_eq_discovery_iff
  refine ⟨⟨?named, fun hnamed => of_frame?_of_population hnamed frame.args⟩, hdenotes, ?nothing⟩
  case named =>
    rintro ⟨population, hpopulation⟩
    cases (hdenotes _).mp hpopulation with
    | sockets hname => exact .inl hname
    | processes hempty hname => exact .inr ⟨_, hempty, hname⟩
  case nothing => simp only [Option.eq_none_iff_forall_ne_some, ne_eq, hdenotes]

/-- Between the beginning and the end of the names of lists of processes something must stand; with
nothing there, the frame is one with samples of a watcher. -/
example : ofFrame? ⟨"stats--pids", .array [.object [("cpu", .null)], .null]⟩ =
    some (.sample "stats--pids" [("cpu", .null)]) := by
  decide

end StreamEvent

end StatsBoard
