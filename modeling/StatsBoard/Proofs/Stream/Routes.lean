import Mathlib.Data.List.Basic
import StatsBoard.Stream.Subscriptions

/-!
# Which entity a stream belongs to

Different entities of a session that listens have streams of different names
(`Announced.stream_inj`), so that each stream leads to the one entity that listens to it.
-/

namespace StatsBoard

/-! ## Names of streams -/

/-- An identifier and a kind are those of a configured aggregate or of an announced child. Sockets
are announced under the pool of sockets only. -/
inductive Announced : String → EntityKind → Prop where
  | aggregate (name : String) : Announced name (.ofAggregate name)
  | process (parent subId : String) :
      Announced (childId parent subId) (.concrete parent subId .watcher)
  | socket (subId : String) :
      Announced (childId Family.sockets subId) (.concrete Family.sockets subId .socket)

/-- The stream of a watcher or process stands behind the beginning of watcher streams. -/
theorem EntityKind.stream_of_watcher {kind : EntityKind} (h : kind.family = .watcher)
    (id : String) : kind.stream id = StreamEvent.watcherPrefix ++ id := by
  cases kind <;> cases h <;> rfl

/-- The stream of a socket, or of the sockets together, begins like that of the sockets. -/
theorem EntityKind.stream_of_socket {kind : EntityKind} (h : kind.family = .socket)
    (id : String) : ∃ rest, kind.stream id = StreamEvent.socketStream ++ rest := by
  cases kind with
  | aggregate =>
      cases h
      exact ⟨"", String.append_empty.symm⟩
  | concrete parent subId =>
      cases h
      exact ⟨"-" ++ subId, String.append_assoc⟩

/-- The characters of the identifier whose entity listens to a stream. -/
def StreamEvent.owner (stream : String) : List Char :=
  if watcherPrefix.toList <+: stream.toList then stream.toList.drop watcherPrefix.toList.length
  else Family.sockets.toList ++ stream.toList.drop socketStream.toList.length

/-- The stream of an identifier that stands behind the beginning of watcher streams. -/
theorem StreamEvent.owner_watcher (id : String) : owner (watcherPrefix ++ id) = id.toList := by
  rw [owner, String.toList_append, if_pos (List.prefix_append ..), List.drop_left]

/-- No stream of sockets has the beginning of watcher streams. -/
theorem StreamEvent.socket_stream_not_watcher (rest : String) :
    ¬ watcherPrefix.toList <+: (socketStream ++ rest).toList := by
  rw [String.toList_append]
  rintro ⟨more, hmore⟩
  -- The names differ in their second character.
  have hsecond := congrArg (·[1]?) hmore
  rw [List.getElem?_append_left (by decide), List.getElem?_append_left (by decide)] at hsecond
  exact absurd hsecond (by decide)

/-- The stream of the sockets together, or of one of them. -/
theorem StreamEvent.owner_socket (rest : String) :
    owner (socketStream ++ rest) = Family.sockets.toList ++ rest.toList := by
  rw [owner, if_neg (socket_stream_not_watcher rest), String.toList_append, List.drop_left]

namespace Announced

variable {id other : String} {kind otherKind : EntityKind}

/-- The stream of an entity names its identifier. -/
theorem owner_stream (h : Announced id kind) :
    StreamEvent.owner (kind.stream id) = id.toList := by
  cases h with
  | aggregate =>
      by_cases hsockets : id = Family.sockets
      · subst hsockets
        decide
      · simp only [EntityKind.stream, EntityKind.ofAggregate, Family.ofAggregate, if_neg hsockets]
        exact StreamEvent.owner_watcher id
  | process parent subId => exact StreamEvent.owner_watcher _
  | socket subId =>
      rw [EntityKind.stream, String.append_assoc, StreamEvent.owner_socket]
      simp [childId]

/-- Under one identifier, entities of one family and no others have the same stream. -/
theorem stream_eq_iff (h : Announced id kind) (hother : Announced id otherKind) :
    kind.stream id = otherKind.stream id ↔ kind.family = otherKind.family := by
  have hprefix (kind : EntityKind) :
      StreamEvent.watcherPrefix.toList <+: (kind.stream id).toList ↔ kind.family = .watcher := by
    cases hfamily : kind.family with
    | watcher => simp [EntityKind.stream_of_watcher hfamily]
    | socket =>
        obtain ⟨rest, hstream⟩ := EntityKind.stream_of_socket hfamily id
        rw [hstream]
        exact iff_of_false (StreamEvent.socket_stream_not_watcher rest) (by decide)
  constructor
  · intro hstream
    have hwatcher := hprefix kind
    rw [hstream, hprefix otherKind] at hwatcher
    cases hfamily : kind.family <;> cases hotherFamily : otherKind.family <;> simp_all
  · intro hsame
    cases hfamily : kind.family with
    | watcher =>
        rw [EntityKind.stream_of_watcher hfamily,
          EntityKind.stream_of_watcher (hsame.symm.trans hfamily)]
    | socket =>
        obtain ⟨rest, hstream⟩ := EntityKind.stream_of_socket hfamily id
        obtain ⟨more, hmore⟩ := EntityKind.stream_of_socket (hsame.symm.trans hfamily) id
        -- The identifier says what follows after the name of the sockets.
        have howner := h.owner_stream.trans hother.owner_stream.symm
        rw [hstream, hmore, StreamEvent.owner_socket, StreamEvent.owner_socket,
          List.append_cancel_left_eq, String.toList_inj] at howner
        rw [hstream, hmore, howner]

/-- Different entities listen to different streams. -/
theorem stream_inj (h : Announced id kind) (hother : Announced other otherKind)
    (hstream : kind.stream id = otherKind.stream other) : id = other := by
  apply String.toList_inj.mp
  rw [← h.owner_stream, hstream, hother.owner_stream]

end Announced

/-! ## Decoded events -/

namespace StreamEvent

/-- An event is one that the text of some frame says. -/
def Decoded (event : StreamEvent) : Prop :=
  ∃ text, decode text = .ok (some event)

/-- Sockets are announced under the pool of sockets. -/
theorem parent_of_of_frame? {frame : WireFrame} {population : Discovery}
    (h : ofFrame? frame = some (.discovery population)) (hfamily : population.family = .socket) :
    population.parent = Family.sockets := by
  unfold ofFrame? at h
  split at h
  next =>
    obtain rfl := discovery.inj (Option.some.inj h)
    rfl
  next =>
    split at h
    next parent _ =>
      obtain rfl := discovery.inj (Option.some.inj h)
      cases hfamily
    next =>
      split at h
      next =>
        cases hpayload : payload? frame.args <;> simp [hpayload] at h
      next => cases h

/-- The children of a decoded population can be told by their identifiers and kinds. -/
theorem Decoded.announced {population : Discovery} (h : (discovery population).Decoded)
    (subId : String) :
    Announced (childId population.parent subId)
      (.concrete population.parent subId population.family) := by
  obtain ⟨text, htext⟩ := h
  obtain ⟨frame, hframe⟩ : ∃ frame, ofFrame? frame = some (.discovery population) := by
    rw [decode] at htext
    cases hdecoded : WireFrame.decode text with
    | error => simp [hdecoded, Except.map] at htext
    | ok frame => exact ⟨frame, by simpa [hdecoded, Except.map] using htext⟩
  obtain ⟨family, parent, children⟩ := population
  cases family with
  | watcher => exact .process parent subId
  | socket =>
      obtain rfl : parent = Family.sockets := parent_of_of_frame? hframe rfl
      exact .socket subId

end StreamEvent

/-! ## Routes -/

namespace Subscriptions

variable {subscriptions : Subscriptions} {stream id : String} {kind : EntityKind}

/-- A stream leads to an entity exactly if it has a route. -/
theorem contains_eq_is_some :
    subscriptions.contains stream = (subscriptions.route? stream).isSome := by
  rw [contains, route?, Option.isSome_map, List.isSome_find?]

/-- An entity whose stream leads nowhere listens to it from now on. -/
theorem route?_subscribe (h : subscriptions.route? (kind.stream id) = none) :
    (subscriptions.subscribe id kind).route? stream =
      if stream = kind.stream id then some id else subscriptions.route? stream := by
  have hnew : subscriptions.contains (kind.stream id) = false := by
    rw [contains_eq_is_some, h]
    rfl
  rw [subscribe, hnew, if_neg Bool.false_ne_true]
  split
  next hstream =>
    subst hstream
    rw [route?, Option.map_eq_none_iff] at h
    simp [route?, List.find?_append, h]
  next hstream => simp [route?, List.find?_append, Ne.symm hstream]

end Subscriptions

end StatsBoard
