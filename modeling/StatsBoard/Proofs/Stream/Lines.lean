import StatsBoard.Proofs.Layout
import StatsBoard.Proofs.Line
import StatsBoard.Proofs.Operations

/-!
# One line for each update

The text that a session which listens writes has one line for each frame that it draws, beginning
with the name of the entity, as long as no configured name and no announced identifier holds a line
break: `Engine.lines_unless_broken_names`.
-/

namespace StatsBoard.Engine

variable {settings : Settings} {events : List StreamEvent} {engine : Engine}

/-- A session that listens starts and handles its events. -/
theorem reached_by_events (settings : Settings) (events : List StreamEvent) :
    reached settings (.start :: events.map .handleEvent) =
      (new settings).start.handleAll events := by
  rw [reached, List.foldl_cons, List.foldl_map]
  rfl

/-- No label that is drawn holds a line break. -/
theorem unbroken_of_events {frame : EntityFrame}
    (hframe : frame ∈ ((new settings).start.handleAll events).frames) : frame.Unbroken := by
  rw [← reached_by_events] at hframe
  obtain ⟨_, -, record, -, rfl⟩ := drawn_at_some_moment hframe
  exact record.unbroken_frame settings.palette

/-- The entities that are drawn are those that are configured or announced for charting. -/
theorem drawn_iff_named (hmode : settings.mode = .push) (hevents : ∀ event ∈ events, event.Decoded)
    {id : String} :
    id ∈ ((new settings).start.handleAll events).frames.map (·.entity) ↔
      id ∈ configured settings ++ events.flatMap (·.announcedIds settings) := by
  have hpanels := panels_of_events hmode hevents
  rw [panels, ids_of_events hmode hevents] at hpanels
  rw [← List.mem_eraseDups, hpanels, List.mem_eraseDups]

/-- In a session that listens, the text that is written has one line break for each frame that was
drawn, and those of the names in it. There are as many as frames exactly if no line break stands in
a name that is configured or announced for charting; then the text is cut at them into the lines of
the frames, in order, and each line begins with the name of its entity. -/
theorem lines_unless_broken_names (hmode : settings.mode = .push)
    (hevents : ∀ event ∈ events, event.Decoded) (width : Nat)
    (hengine : engine = (new settings).start.handleAll events) :
    let text := (EntityFrame.lines width engine.frames).toList
    let names := configured settings ++ events.flatMap (·.announcedIds settings)
    text.count '\n' = engine.frames.length +
      (engine.frames.flatMap (·.entity.toList)).count '\n' ∧
    (text.count '\n' = engine.frames.length ↔ ∀ name ∈ names, '\n' ∉ name.toList) ∧
    ((∀ name ∈ names, '\n' ∉ name.toList) →
      Text.split (· == '\n') text =
        engine.frames.map (fun frame => (frame.content width).toList) ++ [[]]) ∧
    ∀ frame ∈ engine.frames, frame.entity.toList <+: (frame.content width).toList := by
  intro text names
  have hunbroken : ∀ frame ∈ engine.frames, frame.Unbroken := fun frame hframe =>
    unbroken_of_events (hengine ▸ hframe)
  have hnames : (∀ name ∈ names, '\n' ∉ name.toList) ↔
      ∀ frame ∈ engine.frames, '\n' ∉ frame.entity.toList := by
    have hdrawn (id : String) : id ∈ engine.frames.map (·.entity) ↔ id ∈ names :=
      hengine ▸ drawn_iff_named hmode hevents
    simp only [← hdrawn, List.forall_mem_map]
  have hcount : text.count '\n' = _ := EntityFrame.count_lines hunbroken
  refine ⟨hcount, ?exact, ?pieces, fun frame _ => frame.entity_prefix_content⟩
  case exact =>
    rw [hcount, hnames, Nat.add_eq_left, List.count_eq_zero]
    simp only [List.mem_flatMap, not_exists, not_and]
  case pieces =>
    intro h
    refine EntityFrame.split_lines fun frame hframe hbreak => ?_
    have hname := List.count_eq_zero.mpr (hnames.mp h frame hframe)
    rw [← (hunbroken frame hframe).count_content] at hname
    exact List.count_eq_zero.mp hname hbreak

/-- The load of the processes of `web`, one sample of each. -/
def loadOfWeb : Settings where
  watchersWithPids := ["web"]
  layout := { capacity := 1, prefill := true, watcherMetrics := [.cpu] }

/-- A process of `web` is announced and reports its load. -/
def processReports : List StreamEvent :=
  [.discovery ⟨.watcher, "web", ["12"]⟩, .sample "stats-web-12" [("cpu", .number (.integer 100))]]

theorem decoded_of_mem_process_reports : ∀ event ∈ processReports, event.Decoded := by
  rw [processReports]
  simp only [List.forall_mem_cons]
  refine ⟨⟨"\x7b\"name\":\"stats-web-pids\",\"args\":\x7b\"pids\":[12]\x7d\x7d", ?_⟩,
    ⟨"\x7b\"name\":\"stats-web-12\",\"args\":\x7b\"cpu\":100\x7d\x7d", ?_⟩,
    List.forall_mem_nil _⟩
  <;> decide +kernel

/-- The aggregate, the process and its load are written as three lines. -/
theorem lines_unless_broken_names_three_frames :
    ∃ engine, engine = (new loadOfWeb).start.handleAll processReports ∧
      (EntityFrame.lines 30 engine.frames).toList.count '\n' = 3 ∧
      Text.split (· == '\n') (EntityFrame.lines 30 engine.frames).toList =
        ["web                   cpu   0 %".toList, "web-12                cpu   0 %".toList,
          "web-12                cpu █ 100 %".toList, []] := by
  have hmode : loadOfWeb.mode = .push := rfl
  obtain ⟨-, hcount, hpieces, -⟩ :=
    lines_unless_broken_names hmode decoded_of_mem_process_reports 30 rfl
  have hnames : ∀ name ∈ configured loadOfWeb ++
      processReports.flatMap (·.announcedIds loadOfWeb), '\n' ∉ name.toList := by
    decide +kernel
  exact ⟨_, rfl, (hcount.mpr hnames).trans (by decide +kernel),
    (hpieces hnames).trans (by decide +kernel)⟩

/-- The identifier of a process is announced with a line break inside. -/
def brokenProcess : List StreamEvent :=
  [.discovery ⟨.watcher, "web", ["1\n2"]⟩]

/-- The line of such a process is two, so that two frames are written as three lines. -/
theorem process_over_two_lines :
    (∀ event ∈ brokenProcess, event.Decoded) ∧
    ∃ engine, engine = (new loadOfWeb).start.handleAll brokenProcess ∧
      engine.frames.length = 2 ∧
      (EntityFrame.lines 30 engine.frames).toList.count '\n' = 3 := by
  refine ⟨List.forall_mem_singleton.mpr
    ⟨"\x7b\"name\":\"stats-web-pids\",\"args\":\x7b\"pids\":[\"1\\n2\"]\x7d\x7d", ?_⟩,
    _, rfl, ?_, ?_⟩
  <;> decide +kernel

end StatsBoard.Engine
