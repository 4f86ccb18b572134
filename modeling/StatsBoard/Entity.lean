/-!
# Entities

An entity is what one panel shows: an aggregate known from the configuration, or a process or
socket discovered under one. Socket entities and watcher entities form two families, which differ
in the metrics they report and in the names of their streams.
-/

namespace StatsBoard

/-- The two families of entities. -/
inductive Family where
  | watcher
  | socket
deriving DecidableEq, Repr

namespace Family

/-- The name of the aggregate that owns all sockets. -/
def sockets : String := "sockets"

/-- The family of the aggregate with the given name. -/
def ofAggregate (name : String) : Family :=
  if name = sockets then socket else watcher

/-- The family's name in answers. -/
def name : Family → String
  | watcher => "watcher"
  | socket => "socket"

end Family

/-- What an entity is. -/
inductive EntityKind where
  /-- A configured watcher, or the pool of sockets. -/
  | aggregate (family : Family)
  /-- A process or socket discovered under an aggregate. -/
  | concrete (parent subId : String) (family : Family)
deriving DecidableEq, Repr

namespace EntityKind

/-- The kind of the aggregate with the given name. -/
def ofAggregate (name : String) : EntityKind :=
  aggregate (.ofAggregate name)

/-- The kind of a child of the aggregate with the given name. -/
def ofChild (parent subId : String) : EntityKind :=
  concrete parent subId (.ofAggregate parent)

/-- The family of an entity. -/
def family : EntityKind → Family
  | aggregate family => family
  | concrete _ _ family => family

/-- The aggregate under which an entity was discovered. -/
def parent? : EntityKind → Option String
  | aggregate _ => none
  | concrete parent _ _ => some parent

/-- The entity is an aggregate. -/
def isAggregate : EntityKind → Bool
  | aggregate _ => true
  | concrete .. => false

end EntityKind

/-- The identifier of a child: the names of its aggregate and of itself, joined by a hyphen. -/
def childId (parent subId : String) : String :=
  parent ++ "-" ++ subId

end StatsBoard
