import StatsBoard.Engine
import StatsBoard.Proofs.FirstOccurrences
import StatsBoard.Proofs.History.Receive
import StatsBoard.Proofs.Redraw

/-!
# Wiring entities

What wiring an entity changes, and what is there once the configured aggregates are wired: a new
record for each of them, in the order of configuration, and nothing that waits to be drawn.
-/

namespace StatsBoard.Engine

variable {engine : Engine} {id other : String} {kind : EntityKind}

/-- After a flush those entities wait that waited before and were not drawn. -/
theorem mem_pending_flush_where {wanted : EntityRecord → Bool} :
    id ∈ (engine.flushWhere wanted).redraw.pending ↔
      id ∈ engine.redraw.pending ∧
        ∀ record ∈ engine.redraw.due engine.registry wanted, record.id ≠ id := by
  rw [flushWhere, drawn, Redraw.mem_pending_flush_where]

/-- An entity is wired exactly if it has a record that says so. -/
theorem is_wired_iff :
    engine.isWired id ↔ ∃ record, engine.registry.get? id = some record ∧ record.subscribed := by
  rw [isWired]
  cases engine.registry.get? id <;> simp

/-- An entity is wired once. -/
theorem wire_of_wired (h : engine.isWired id) : engine.wire id kind = engine := by
  simp [wire, h]

/-- Wiring an entity enlists it. Beyond that it changes nothing but the subscriptions, the plan and
what was reported. -/
theorem wire_of_not_wired (kind : EntityKind) (h : engine.isWired id = false) :
    ∃ subscriptions plan log, engine.wire id kind =
      { engine.enlist id kind with subscriptions := subscriptions, plan := plan, log := log } := by
  unfold wire
  rw [h, if_neg Bool.false_ne_true]
  cases engine.settings.mode with
  | push => exact ⟨_, _, _, rfl⟩
  | pull => cases kind <;> exact ⟨_, _, _, rfl⟩

/-- In a session that polls, an aggregate is tracked with its metrics once it is enlisted. -/
theorem wire_of_pull (hmode : engine.settings.mode = .pull) (h : engine.isWired id = false) :
    engine.wire id (.ofAggregate id) = (engine.enlist id (.ofAggregate id)).track id := by
  simp [wire, h, hmode, EntityKind.ofAggregate, EntityKind.isAggregate]

/-- In a session that listens, an entity listens to its stream once it is enlisted. -/
theorem wire_of_push (hmode : engine.settings.mode = .push) (h : engine.isWired id = false) :
    engine.wire id kind = (engine.enlist id kind).subscribe id kind := by
  simp [wire, h, hmode]

@[simp] theorem settings_wire : (engine.wire id kind).settings = engine.settings := by
  cases h : engine.isWired id with
  | true => rw [wire_of_wired h]
  | false =>
      obtain ⟨_, _, _, hwire⟩ := wire_of_not_wired kind h
      rw [hwire, enlist]

/-- Wire aggregates in order. -/
def wireAll (engine : Engine) (names : List String) : Engine :=
  names.foldl (fun engine name => engine.wire name (.ofAggregate name)) engine

/-- The last aggregate is wired after the others. -/
theorem wire_all_concat (names : List String) (name : String) :
    engine.wireAll (names ++ [name]) =
      (engine.wireAll names).wire name (.ofAggregate name) := by
  rw [wireAll, List.foldl_concat, ← wireAll]

/-- The state of a session in which aggregates have just been wired: each has a new record, and
waits to be drawn. -/
structure JustWired (settings : Settings) (names : List String) (engine : Engine) : Prop where
  settings_eq : engine.settings = settings
  layout : engine.registry.layout = settings.layout
  lookup : ∀ id, engine.registry.get? id =
    if id ∈ names then some (EntityRecord.fresh settings.layout id (.ofAggregate id)).markSubscribed
    else none
  ids : engine.registry.ids = names.eraseDups
  pending : engine.redraw.pending = names.eraseDups

variable {settings : Settings} {names : List String}

/-- Of aggregates just wired, those and no others are wired. -/
theorem JustWired.is_wired_iff_mem (h : engine.JustWired settings names) (id : String) :
    engine.isWired id ↔ id ∈ names := by
  rw [is_wired_iff, h.lookup]
  split <;> simp [*]

/-- Wiring one more aggregate. -/
theorem JustWired.wire (h : engine.JustWired settings names) (name : String) :
    (engine.wire name (.ofAggregate name)).JustWired settings (names ++ [name]) := by
  have hmem : names.contains name = engine.isWired name := by
    rw [Bool.eq_iff_iff, h.is_wired_iff_mem, List.contains_iff_mem]
  cases hwired : engine.isWired name with
  | true =>
      have hname : name ∈ names := (h.is_wired_iff_mem name).mp hwired
      rw [wire_of_wired hwired]
      refine ⟨h.settings_eq, h.layout, ?_, ?_, ?_⟩
      · intro id
        have hmem : id ∈ names ++ [name] ↔ id ∈ names := by
          simpa using fun hid : id = name => hid ▸ hname
        simp only [h.lookup, hmem]
      · rw [h.ids, erase_dups_concat, hmem, hwired, if_pos rfl]
      · rw [h.pending, erase_dups_concat, hmem, hwired, if_pos rfl]
  | false =>
      have hname : name ∉ names := fun hname => by
        simp [(h.is_wired_iff_mem name).mpr hname] at hwired
      obtain ⟨subscriptions, plan, log, hwire⟩ := wire_of_not_wired (.ofAggregate name) hwired
      rw [hwire]
      refine ⟨h.settings_eq, ?_, ?_, ?_, ?_⟩
      · exact Registry.layout_enlist.trans h.layout
      · intro id
        rw [enlist, Registry.get?_enlist, h.lookup, h.lookup, if_neg hname, h.layout]
        by_cases hid : id = name <;> simp [hid]
      · rw [enlist, Registry.ids_enlist, Registry.contains_eq_is_some, h.lookup, if_neg hname,
          h.ids, erase_dups_concat, hmem, hwired]
        rfl
      · rw [enlist, erase_dups_concat, hmem, hwired, ← h.pending]
        simp [Redraw.mark, h.pending, hname]

/-- Wiring aggregates in a session that has just begun. -/
theorem just_wired_wire_all (settings : Settings) (names : List String) :
    ((new settings).wireAll names).JustWired settings names := by
  induction names using List.reverseRecOn with
  | nil => exact ⟨rfl, rfl, fun _ => rfl, rfl, rfl⟩
  | append_singleton names name ih =>
      rw [wire_all_concat]
      exact ih.wire name

variable (settings)

/-- Once the configured aggregates are wired, each has a new record and there are no others. -/
theorem get?_wire_configured (id : String) :
    (new settings).wireConfigured.registry.get? id =
      if id ∈ configured settings then
        some (EntityRecord.fresh settings.layout id (.ofAggregate id)).markSubscribed
      else none :=
  (just_wired_wire_all settings (configured settings)).lookup id

/-- Once the configured aggregates are wired, they are listed in the order of configuration. -/
theorem ids_wire_configured :
    (new settings).wireConfigured.registry.ids = (configured settings).eraseDups :=
  (just_wired_wire_all settings (configured settings)).ids

theorem layout_wire_configured :
    (new settings).wireConfigured.registry.layout = settings.layout :=
  (just_wired_wire_all settings (configured settings)).layout

theorem settings_wire_configured : (new settings).wireConfigured.settings = settings :=
  (just_wired_wire_all settings (configured settings)).settings_eq

/-- Once the configured aggregates are wired, all are drawn and none waits. -/
theorem pending_wire_configured (id : String) :
    id ∉ (new settings).wireConfigured.redraw.pending := by
  have hwired := just_wired_wire_all settings (configured settings)
  intro (hid : id ∈ ((new settings).wireAll (configured settings)).flush.redraw.pending)
  obtain ⟨hpending, hdue⟩ := mem_pending_flush_where.mp hid
  have hname : id ∈ configured settings := by
    rwa [hwired.pending, List.mem_eraseDups] at hpending
  have hrecord := hwired.lookup id
  rw [if_pos hname] at hrecord
  exact hdue _ (Redraw.mem_due.mpr ⟨Registry.mem_of_get? hrecord, hpending, rfl⟩) rfl

end StatsBoard.Engine
