import StatsBoard.Engine
import StatsBoard.Proofs.Registry

/-!
# What is on display

The frame drawn last for an entity is what is seen of it. Where every change of a record is followed
by a drawing of it (`Draws`), each entity is seen as it is: `Draws.on_display`.
-/

namespace StatsBoard

/-! ## The frame drawn last -/

/-- The last of the frames of an entity. -/
def lastFrame? (frames : List EntityFrame) (id : String) : Option EntityFrame :=
  (frames.filter (·.entity == id)).getLast?

variable {frames : List EntityFrame} {drawn : List EntityRecord} {palette : Palette} {id : String}

/-- Drawing other entities does not matter to an entity. -/
theorem last_frame_of_not_drawn (h : ∀ record ∈ drawn, record.id ≠ id) :
    lastFrame? (frames ++ drawn.map (·.frame palette)) id = lastFrame? frames id := by
  have hnone : (drawn.map (·.frame palette)).filter (·.entity == id) = [] := by
    rw [List.filter_eq_nil_iff, List.forall_mem_map]
    intro record hrecord
    simpa [EntityRecord.frame] using h record hrecord
  rw [lastFrame?, List.filter_append, hnone, List.append_nil, ← lastFrame?]

/-- Of entities drawn once each, a drawn one was last drawn with its record. -/
theorem last_frame_of_drawn (hnodup : (drawn.map (·.id)).Nodup) {record : EntityRecord}
    (hrecord : record ∈ drawn) :
    lastFrame? (frames ++ drawn.map (·.frame palette)) record.id = some (record.frame palette) := by
  have hmem : record.frame palette ∈
      (drawn.map (·.frame palette)).filter (·.entity == record.id) :=
    List.mem_filter.mpr ⟨List.mem_map_of_mem hrecord, beq_self_eq_true _⟩
  obtain ⟨last, hlast⟩ : ∃ last,
      ((drawn.map (·.frame palette)).filter (·.entity == record.id)).getLast? = some last :=
    ⟨_, List.getLast?_eq_some_getLast (List.ne_nil_of_mem hmem)⟩
  -- No other record is drawn under the identifier.
  obtain ⟨hdrawn, hid⟩ := List.mem_filter.mp (List.mem_of_getLast? hlast)
  obtain ⟨other, hother, rfl⟩ := List.mem_map.mp hdrawn
  obtain rfl := List.inj_on_of_nodup_map hnodup hother hrecord (eq_of_beq hid)
  rw [lastFrame?, List.filter_append, List.getLast?_append, hlast, Option.some_or]

namespace Engine

variable {engine before after : Engine} {wanted : EntityRecord → Bool}

/-! ## Flushes -/

/-- A flush draws the records that are due. -/
theorem frames_flush_where : (engine.flushWhere wanted).frames = engine.frames ++
    (engine.redraw.due engine.registry wanted).map (·.frame engine.settings.palette) := rfl

/-- The records that are due are of different entities. -/
theorem nodup_due (h : engine.registry.ids.Nodup) :
    ((engine.redraw.due engine.registry wanted).map (·.id)).Nodup :=
  h.sublist (List.filter_sublist.map _)

/-! ## Steps that draw what they change -/

/-- The frame of an entity as it is now, if it is registered. -/
def frameOf? (engine : Engine) (id : String) : Option EntityFrame :=
  (engine.registry.get? id).map (·.frame engine.settings.palette)

/-- Each registered entity was last drawn as it is now, and no other was ever drawn. -/
def OnDisplay (engine : Engine) : Prop :=
  ∀ id, lastFrame? engine.frames id = engine.frameOf? id

/-- A session goes on by drawing records, each once: those of the entities that were changed or
added, as they are afterwards. Nothing waits to be drawn then. -/
structure Draws (before after : Engine) (drawn : List EntityRecord) : Prop where
  settings_eq : after.settings = before.settings
  frames : after.frames = before.frames ++ drawn.map (·.frame before.settings.palette)
  nodup : (drawn.map (·.id)).Nodup
  found : ∀ record ∈ drawn, after.registry.get? record.id = some record
  others : ∀ id ∉ drawn.map (·.id), after.registry.get? id = before.registry.get? id
  pending : after.redraw.pending = []

/-- What is reported does not matter to what is drawn. -/
theorem Draws.of_eq {other : Engine} (h : before.Draws after drawn)
    (hsettings : other.settings = after.settings) (hframes : other.frames = after.frames)
    (hregistry : other.registry = after.registry) (hredraw : other.redraw = after.redraw) :
    before.Draws other drawn := by
  constructor
  · exact hsettings.trans h.settings_eq
  · exact hframes.trans h.frames
  · exact h.nodup
  · exact hregistry ▸ h.found
  · exact hregistry ▸ h.others
  · exact hredraw ▸ h.pending

/-- If nothing waits, then a session goes on by drawing nothing when it stays as it is. -/
theorem Draws.refl (hpending : engine.redraw.pending = []) : engine.Draws engine [] where
  settings_eq := rfl
  frames := (List.append_nil _).symm
  nodup := List.nodup_nil
  found := List.forall_mem_nil _
  others _ _ := rfl
  pending := hpending

/-- If nothing waits, then the only record that was changed can be drawn at once. -/
theorem Draws.flush_entity {changed : Engine} {record : EntityRecord}
    (hsettings : changed.settings = before.settings) (hframes : changed.frames = before.frames)
    (hpending : changed.redraw.pending = [])
    (hrecord : changed.registry.get? record.id = some record)
    (hothers : ∀ id ≠ record.id, changed.registry.get? id = before.registry.get? id) :
    before.Draws (changed.flushEntity record.id) [record] where
  settings_eq := hsettings
  frames := by
    rw [flushEntity, Engine.drawn, Redraw.flushEntity, hrecord, hframes, hsettings]
    rfl
  nodup := List.nodup_singleton _
  found := (List.forall_mem_singleton ..).mpr hrecord
  others id hid := hothers id fun hsame => hid (List.mem_singleton.mpr hsame)
  pending := by
    rw [flushEntity, Engine.drawn, Redraw.flushEntity, hpending]
    rfl

/-- If what is changed is drawn, then all goes on being seen as it is. -/
theorem Draws.on_display (h : before.Draws after drawn) (hbefore : before.OnDisplay) :
    after.OnDisplay := by
  intro id
  by_cases hid : id ∈ drawn.map (·.id)
  · obtain ⟨record, hrecord, rfl⟩ := List.mem_map.mp hid
    rw [h.frames, last_frame_of_drawn h.nodup hrecord, frameOf?, h.found record hrecord,
      h.settings_eq, Option.map_some]
  · have hnot : ∀ record ∈ drawn, record.id ≠ id :=
      fun record hrecord hsame => hid (hsame ▸ List.mem_map_of_mem hrecord)
    rw [h.frames, last_frame_of_not_drawn hnot, hbefore id, frameOf?, frameOf?, h.others id hid,
      h.settings_eq]

end Engine

end StatsBoard
