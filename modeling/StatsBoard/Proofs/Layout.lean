import StatsBoard.Config.Basic
import StatsBoard.Proofs.History.Panels

/-!
# Panels and the order of discovery

A session that listens draws what it discovers at once, so its panels are laid out in the order of
discovery. A session that polls draws the children of an aggregate when no request for it is
outstanding, so only the children of different aggregates can change places:
`laid_out_within_aggregates`.
-/

namespace StatsBoard.Engine

variable {engine : Engine} {settings : Settings} {event : StreamEvent} {events : List StreamEvent}
  {population : Discovery}

/-! ## Sessions that listen -/

/-- An announcement registers those whom it draws, in the same order. -/
theorem Routed.ids_discover (h : engine.Routed settings)
    (hpopulation : ∀ entity ∈ population.entities, Announced entity.1 entity.2) :
    (engine.discover population).registry.ids =
      engine.registry.ids ++ engine.drawnBy (.discovery population) := by
  rw [Registry.ids, h.records_discover hpopulation, List.map_append, map_id_wired_records,
    map_fst_arrivals rfl, ← Registry.ids]
  rfl

/-- If all registered entities have panels in the order of discovery, then also after an event. -/
theorem Settled.panels_handle_event (h : engine.Settled settings) (hevent : event.Decoded)
    (hpanels : engine.panels = engine.registry.ids) :
    (engine.handleEvent event).panels = (engine.handleEvent event).registry.ids := by
  obtain ⟨drawn, hdraws, hdrawn⟩ := h.routed.draws_handle_event h.pending hevent
  have hafter := h.routed.handle_event hevent
  rw [panels_of_drawn hdraws.frames, hdrawn, hpanels]
  cases event with
  | sample stream payload =>
      have hids := h.routed.ids_handle_event hevent
      rw [StreamEvent.announcedIds, List.append_nil, erase_dups_of_nodup h.routed.nodup] at hids
      rw [hids, drawnBy]
      cases hroute : engine.subscriptions.route? stream with
      | none => rw [Option.toList_none, List.append_nil, erase_dups_of_nodup h.routed.nodup]
      | some id =>
          obtain ⟨record, hrecord, -⟩ := (h.routed.listening.routes stream id).mp hroute
          have hknown : engine.registry.ids.contains id := by
            rw [List.contains_iff_mem, ← Registry.contains_iff_mem_ids,
              Registry.contains_eq_is_some, hrecord, Option.isSome_some]
          rw [Option.toList_some, erase_dups_concat, hknown, if_pos rfl,
            erase_dups_of_nodup h.routed.nodup]
  | discovery population =>
      rw [← h.routed.ids_discover hevent.announced_entities]
      exact erase_dups_of_nodup hafter.nodup

/-- In a session that listens all registered entities have panels, in the order of discovery. -/
theorem panels_of_events (hmode : settings.mode = .push)
    (hevents : ∀ event ∈ events, event.Decoded) :
    ((Engine.new settings).start.handleAll events).panels =
      ((Engine.new settings).start.handleAll events).registry.ids := by
  induction events using List.reverseRecOn with
  | nil => exact panels_wire_configured settings
  | append_singleton events event ih =>
      rw [List.forall_mem_append, List.forall_mem_singleton] at hevents
      have hsettled := (Settled.start hmode).handle_all hevents.1
      rw [handleAll, List.foldl_concat, ← handleAll]
      exact hsettled.panels_handle_event hevents.2 (ih hevents.1)

/-! ## Sessions of both kinds -/

/-- What a session can come to, be it one that listens or one that polls. -/
inductive InSession (settings : Settings) : Engine → Prop where
  | listening {events : List StreamEvent} (hmode : settings.mode = .push)
      (hevents : ∀ event ∈ events, event.Decoded) :
      InSession settings ((Engine.new settings).start.handleAll events)
  | polling {calls : List PollCall} {state : PollState} (hmode : settings.mode = .pull)
      (hrun : (PollState.start settings).run? calls = some state) :
      InSession settings state.engine

/-- Registered entities have identifiers of their own, only they have panels, and within each
aggregate the panels are those of the first to be discovered, in their order. -/
theorem InSession.ordered (h : InSession settings engine) :
    engine.registry.ids.Nodup ∧ (∀ id ∈ engine.panels, id ∈ engine.registry.ids) ∧
      ∀ aggregate, engine.panels.filter (engine.registry.idsWithin aggregate).contains <+:
        engine.registry.idsWithin aggregate := by
  cases h with
  | listening hmode hevents =>
      have hpanels := panels_of_events hmode hevents
      have hnodup := ((Routed.start hmode).handle_all hevents).nodup
      exact ⟨hnodup, fun id hid => hpanels ▸ hid, ordered_of_panels_eq hnodup hpanels⟩
  | polling hmode hrun =>
      have hplaced := PollState.placed_of_run hmode hrun
      exact ⟨hplaced.sound.orderly.nodup, hplaced.registered, hplaced.ordered⟩

/-- At every moment of a session that listens or polls, a board that took in all frames lists
registered entities, each once. Among the aggregates and the children of any one of them it lists
the first that were discovered, in the order of discovery, so that only children of different
aggregates can have changed places. In a session that listens it lists all entities in the order of
discovery, and in any session the first ones, if no two aggregates have children. -/
theorem laid_out_within_aggregates {board : Board} (h : InSession settings engine)
    (hboard : board = Board.applyAll {} engine.frames) :
    board.entities.Nodup ∧ (∀ id ∈ board.entities, id ∈ engine.registry.ids) ∧
    (∀ aggregate, board.entities.filter (engine.registry.idsWithin aggregate).contains <+:
      engine.registry.idsWithin aggregate) ∧
    (settings.mode = .push → board.entities = engine.registry.ids) ∧
    ∀ aggregate, (∀ record ∈ engine.registry.records, record.kind.isWithin aggregate) →
      board.entities <+: engine.registry.ids := by
  obtain ⟨hnodup, hregistered, hordered⟩ := h.ordered
  rw [hboard, entities_board]
  refine ⟨nodup_panels, hregistered, hordered, ?listening, ?alone⟩
  case listening =>
    intro hpush
    cases h with
    | listening hmode hevents => exact panels_of_events hmode hevents
    | polling hmode hrun =>
        rw [hpush] at hmode
        cases hmode
  case alone =>
    intro aggregate hall
    have hwithin := hordered aggregate
    rwa [Registry.ids_within_of_all hall, List.filter_eq_self.mpr] at hwithin
    exact fun id hid => List.contains_iff_mem.mpr (hregistered id hid)

/-- The processes of `db` and the sockets are polled one by one. -/
def processesAndSockets : Settings :=
  { mode := .pull, watchersWithPids := ["db", "sockets"] }

/-- The sockets are answered for between the two metrics of `db`. -/
def socketsBetween : List PollCall :=
  [.plan,
    .complete ⟨"db", .cpu, none⟩ (.ok (.keyed [("1", .array [.number (.integer 1)])])),
    .complete ⟨"sockets", .reads, none⟩ (.ok (.keyed [("7", .array [.number (.integer 2)])])),
    .complete ⟨"db", .mem, none⟩ (.ok (.keyed [("2", .array []), ("1", .array [])]))]

/-- The socket goes before the processes, which stay in their order. -/
theorem laid_out_within_aggregates_sockets :
    ∃ state board, (PollState.start processesAndSockets).run? socketsBetween = some state ∧
      InSession processesAndSockets state.engine ∧
      board = Board.applyAll {} state.engine.frames ∧
      state.engine.registry.ids = ["db", "sockets", "db-1", "sockets-7", "db-2"] ∧
      board.entities = ["db", "sockets", "sockets-7", "db-1", "db-2"] ∧
      (board.entities.filter ["db", "sockets", "db-1", "db-2"].contains <+:
        ["db", "sockets", "db-1", "db-2"]) ∧
      board.entities.filter ["db", "sockets", "sockets-7"].contains <+:
        ["db", "sockets", "sockets-7"] := by
  have hrun : (PollState.start processesAndSockets).run? socketsBetween = some _ := rfl
  have hsession : InSession processesAndSockets _ := .polling rfl hrun
  obtain ⟨-, -, hordered, -⟩ := laid_out_within_aggregates hsession rfl
  exact ⟨_, _, hrun, hsession, rfl, by decide, by decide, hordered "db", hordered "sockets"⟩

/-- A configuration with a watcher and the pool of sockets, both polled. -/
def watcherAndSockets : Config :=
  { mode := .pull, watchers := ["a", "sockets"] }

/-- That configuration can be used, but the socket that was discovered after a process has its panel
before it, if the last request for the watcher ends after that for the sockets. -/
theorem children_change_places :
    watcherAndSockets.validate = .ok () ∧
    ∃ state board, (PollState.start watcherAndSockets.settings).run? [.plan,
        .complete ⟨"a", .cpu, none⟩ (.ok (.keyed [("1", .array [.number (.integer 1)])])),
        .complete ⟨"sockets", .reads, none⟩ (.ok (.keyed [("7", .array [.number (.integer 2)])])),
        .complete ⟨"a", .mem, none⟩ (.error .timeout)] = some state ∧
      board = Board.applyAll {} state.engine.frames ∧
      state.engine.registry.ids = ["a", "sockets", "a-1", "sockets-7"] ∧
      board.entities = ["a", "sockets", "sockets-7", "a-1"] ∧
      ¬ board.entities.Sublist state.engine.registry.ids :=
  ⟨by decide +kernel, _, _, rfl, rfl, by decide, by decide, by decide⟩

end StatsBoard.Engine
