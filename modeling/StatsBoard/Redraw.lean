import StatsBoard.Frame
import StatsBoard.Log

/-!
# Pending redraws

Entities whose samples changed wait to be drawn again. A flush draws those of them that are asked
for, in the order of the registry and once each; the others go on waiting in the order in which
they were marked.
-/

namespace StatsBoard

/-- The entities that wait to be drawn, each once, in the order in which they were marked. -/
structure Redraw where
  pending : List String := []
deriving DecidableEq, Repr

/-- What a flush leaves, draws and reports. -/
structure Flushed where
  redraw : Redraw
  frames : List EntityFrame
  log : List LogEvent
deriving DecidableEq, Repr

namespace Redraw

/-- Let an entity wait to be drawn. -/
def mark (redraw : Redraw) (id : String) : Redraw :=
  if redraw.pending.contains id then redraw else ⟨redraw.pending ++ [id]⟩

/-- Draw one entity, whether it waits or not. -/
def flushEntity (redraw : Redraw) (registry : Registry) (palette : Palette) (id : String) :
    Flushed where
  redraw := ⟨redraw.pending.filter (· != id)⟩
  frames := ((registry.get? id).map (·.frame palette)).toList
  log := []

/-- The records that wait and are asked for, in the order of the registry. -/
def due (redraw : Redraw) (registry : Registry) (wanted : EntityRecord → Bool) :
    List EntityRecord :=
  registry.records.filter fun record => redraw.pending.contains record.id && wanted record

/-- Draw the entities that wait and are asked for. -/
def flushWhere (redraw : Redraw) (registry : Registry) (palette : Palette)
    (wanted : EntityRecord → Bool) : Flushed :=
  let drawn := redraw.due registry wanted
  { redraw := ⟨redraw.pending.filter fun id => !(drawn.any (·.id == id))⟩
    frames := drawn.map (·.frame palette)
    log := if drawn.isEmpty then [] else [.flushed drawn.length] }

/-- Draw all entities that wait. -/
def flush (redraw : Redraw) (registry : Registry) (palette : Palette) : Flushed :=
  redraw.flushWhere registry palette fun _ => true

end Redraw

end StatsBoard
