import StatsBoard.Dashboard.Board
import StatsBoard.Proofs.Stream.Drawing

/-!
# The order of panels

A board that takes in the frames of a session lists the entities in the order in which they were
first drawn (`Engine.entities_board`). What a step draws comes after what was drawn before, without
the entities that have a panel already (`Engine.panels_of_drawn`).
-/

namespace StatsBoard

namespace Board

/-- A frame of an entity that is not on the board adds the entity at the end. -/
theorem entities_apply (board : Board) (frame : EntityFrame) :
    (board.apply frame).entities =
      if board.entities.contains frame.entity then board.entities
      else board.entities ++ [frame.entity] := by
  have hknown : board.frames.any (·.entity == frame.entity) =
      board.entities.contains frame.entity := by
    rw [Bool.eq_iff_iff]
    simp [entities]
  rw [apply, hknown]
  split
  · -- A frame that is replaced is one of the same entity.
    rw [entities, entities, List.map_map]
    refine List.map_congr_left fun old _ => ?_
    rw [Function.comp_apply]
    split
    next hsame => exact (eq_of_beq hsame).symm
    next => rfl
  · rw [entities, List.map_append, List.map_singleton, ← entities]

/-- A board that takes in frames in order lists the entities in the order of their first frames. -/
theorem entities_apply_all (frames : List EntityFrame) :
    (applyAll {} frames).entities = (frames.map (·.entity)).eraseDups := by
  induction frames using List.reverseRecOn with
  | nil => rfl
  | append_singleton frames frame ih =>
      have hknown : (frames.map (·.entity)).eraseDups.contains frame.entity =
          (frames.map (·.entity)).contains frame.entity := by
        rw [Bool.eq_iff_iff, List.contains_iff_mem, List.contains_iff_mem, List.mem_eraseDups]
      rw [applyAll, List.foldl_concat, ← applyAll, entities_apply, ih, hknown, List.map_append,
        List.map_singleton, erase_dups_concat]

end Board

/-- If the listed items of a list are the first ones of another list, in order, then the others of
that list continue them. -/
theorem filter_append_missing {α : Type} [BEq α] [LawfulBEq α] {present all : List α}
    (hall : all.Nodup) (h : present.filter all.contains <+: all) :
    present.filter all.contains ++ all.filter (!present.contains ·) = all := by
  obtain ⟨rest, hrest⟩ := h
  have hpresent : (present.filter all.contains).filter (!present.contains ·) = [] := by
    rw [List.filter_eq_nil_iff]
    intro item hitem
    simpa using (List.mem_filter.mp hitem).1
  have hmissing : rest.filter (!present.contains ·) = rest := by
    rw [List.filter_eq_self]
    intro item hitem
    rw [← hrest] at hall
    -- An item that is present stands among the first ones, and the rest does not repeat it.
    have hnew := (List.nodup_append.mp hall).2.2
    have hlisted : item ∈ all := hrest ▸ List.mem_append_right _ hitem
    rw [Bool.not_eq_true', Bool.eq_false_iff, ne_eq, List.contains_iff_mem]
    intro hmem
    exact hnew item (List.mem_filter.mpr ⟨hmem, List.contains_iff_mem.mpr hlisted⟩) item hitem rfl
  calc
    present.filter all.contains ++ all.filter (!present.contains ·)
        = present.filter all.contains ++
            (present.filter all.contains ++ rest).filter (!present.contains ·) := by rw [hrest]
    _ = present.filter all.contains ++ rest := by
      rw [List.filter_append, hpresent, hmissing, List.nil_append]
    _ = all := hrest

namespace Engine

variable {engine before after : Engine} {drawn : List EntityRecord} {palette : Palette}
  {id : String}

/-- The entities that were drawn so far, in the order in which they were first drawn. -/
def panels (engine : Engine) : List String :=
  (engine.frames.map (·.entity)).eraseDups

/-- The entities on a board that took in all frames are those with a panel. -/
theorem entities_board : (Board.applyAll {} engine.frames).entities = engine.panels :=
  Board.entities_apply_all engine.frames

/-- No entity has two panels. -/
theorem nodup_panels : engine.panels.Nodup :=
  nodup_erase_dups _

/-- Records that are drawn get panels after the others, unless they have one. -/
theorem panels_of_drawn
    (hframes : after.frames = before.frames ++ drawn.map (·.frame palette)) :
    after.panels = (before.panels ++ drawn.map (·.id)).eraseDups := by
  have hdrawn : (drawn.map (·.frame palette)).map (·.entity) = drawn.map (·.id) := by
    rw [List.map_map]
    rfl
  rw [panels, hframes, List.map_append, hdrawn, panels, erase_dups_append_left]

/-- Of different records that are drawn, those without a panel get one after the others. -/
theorem panels_of_nodup
    (hframes : after.frames = before.frames ++ drawn.map (·.frame palette))
    (hdrawn : (drawn.map (·.id)).Nodup) :
    after.panels =
      before.panels ++ (drawn.map (·.id)).filter (!before.panels.contains ·) := by
  rw [panels_of_drawn hframes, List.eraseDups_append, erase_dups_of_nodup nodup_panels,
    erase_dups_of_nodup]
  · rfl
  · exact hdrawn.filter _

variable (settings : Settings)

/-- Wiring aggregates draws nothing. -/
theorem frames_wire_all (names : List String) : ((new settings).wireAll names).frames = [] := by
  have heach : (new settings).wireAll names =
      (new settings).wireEach (names.map fun name => (name, EntityKind.ofAggregate name)) := by
    rw [wireEach, List.foldl_map, wireAll]
  rw [heach, frames_wire_each, new]

/-- Aggregates that have just been wired are all due. -/
theorem JustWired.due_eq {names : List String} (h : engine.JustWired settings names) :
    engine.redraw.due engine.registry (fun _ => true) = engine.registry.records := by
  rw [Redraw.due, List.filter_eq_self]
  intro record hrecord
  rw [Bool.and_true, List.contains_iff_mem, h.pending, ← h.ids]
  exact List.mem_map_of_mem hrecord

/-- Once the configured aggregates are wired, all registered entities have panels, in the order of
discovery. -/
theorem panels_wire_configured :
    (new settings).wireConfigured.panels = (new settings).wireConfigured.registry.ids := by
  have hwired := just_wired_wire_all settings (configured settings)
  have hframes : (new settings).wireConfigured.frames = (new settings).frames ++
      (new settings).wireConfigured.registry.records.map (·.frame settings.palette) := by
    show (((new settings).wireAll (configured settings)).flushWhere fun _ => true).frames = _
    rw [frames_flush_where, hwired.due_eq, hwired.settings_eq, frames_wire_all]
    rfl
  have hnodup : (new settings).wireConfigured.registry.ids.Nodup := by
    rw [ids_wire_configured]
    exact nodup_erase_dups _
  rw [panels_of_drawn hframes, ← Registry.ids]
  exact erase_dups_of_nodup hnodup

end Engine

end StatsBoard
