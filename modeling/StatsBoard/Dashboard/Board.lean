import StatsBoard.Frame

/-!
# The board

The latest frame of each entity, in the order in which the entities first appeared.
-/

namespace StatsBoard

/-- The latest frames. -/
structure Board where
  frames : List EntityFrame := []
deriving DecidableEq, Repr

namespace Board

/-- The latest frame of an entity. -/
def get? (board : Board) (entity : String) : Option EntityFrame :=
  board.frames.find? (·.entity == entity)

/-- Take in a frame: it replaces the last one of its entity, or goes to the end. -/
def apply (board : Board) (frame : EntityFrame) : Board :=
  if board.frames.any (·.entity == frame.entity) then
    ⟨board.frames.map fun old => if old.entity == frame.entity then frame else old⟩
  else ⟨board.frames ++ [frame]⟩

/-- Take in frames in order. -/
def applyAll (board : Board) (frames : List EntityFrame) : Board :=
  frames.foldl apply board

/-- The entities in their order. -/
def entities (board : Board) : List String :=
  board.frames.map (·.entity)

end Board

end StatsBoard
