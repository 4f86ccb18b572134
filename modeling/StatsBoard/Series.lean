import StatsBoard.Binary64.Basic

/-!
# Bounded series

A series is a window onto a stream of samples: it keeps the last `capacity` of them, oldest first.
-/

namespace StatsBoard

/-- The last `count` items of a list. -/
def lastItems {α : Type} (count : Nat) (items : List α) : List α :=
  items.drop (items.length - count)

/-- Add an item at the end and drop items at the front until at most `capacity` are left. -/
def pushCapped {α : Type} (capacity : Nat) (items : List α) (item : α) : List α :=
  lastItems capacity (items ++ [item])

/-- The most recent samples of one metric of one entity, oldest first. -/
structure Series where
  capacity : Nat
  samples : List Binary64
deriving DecidableEq, Repr

namespace Series

/-- The number of samples kept unless configured otherwise. -/
def defaultCapacity : Nat := 25

/-- A series without samples. -/
def empty (capacity : Nat) : Series := ⟨capacity, []⟩

/-- A series full of zeros. -/
def zeroed (capacity : Nat) : Series := ⟨capacity, List.replicate capacity .zero⟩

/-- Add one sample. -/
def append (series : Series) (sample : Binary64) : Series :=
  { series with samples := pushCapped series.capacity series.samples sample }

/-- Add samples in order. -/
def extend (series : Series) (samples : List Binary64) : Series :=
  samples.foldl append series

/-- The most recent sample. -/
def latest? (series : Series) : Option Binary64 :=
  series.samples.getLast?

end Series

end StatsBoard
