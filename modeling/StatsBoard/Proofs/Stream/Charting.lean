import StatsBoard.Proofs.Entity
import StatsBoard.Proofs.Stream.Announcements

/-!
# Announced children that are charted

Entities are told apart by their identifiers, and their streams also by their families. So an
announced child listens to its stream unless its identifier is that of an entity of the other
family (`Routed.charted_iff`). While nothing but sockets is named like a socket, every announced
child is charted (`charted_unless_namesake`); otherwise one may be passed over
(`namesake_of_socket_not_charted`).
-/

namespace StatsBoard

/-! ## Names like those of sockets -/

/-- An identifier begins like those of sockets: with the name of their pool and a hyphen. -/
def NamedLikeSocket (id : String) : Prop :=
  Family.sockets.toList ++ ['-'] <+: id.toList

/-- `NamedLikeSocket` compares two texts. -/
instance (id : String) : Decidable (NamedLikeSocket id) :=
  inferInstanceAs (Decidable (_ <+: _))

/-- Of the children of an aggregate that is not named like a socket, those of the pool of sockets
and no others are named like sockets. -/
theorem named_like_socket_child_id_iff {parent : String} (hparent : ¬ NamedLikeSocket parent)
    (subId : String) : NamedLikeSocket (childId parent subId) ↔ parent = Family.sockets := by
  constructor
  · rintro ⟨rest, hrest⟩
    rw [to_list_child_id, List.append_assoc, List.singleton_append] at hrest
    rcases append_separator_inj hrest with ⟨hname, _⟩ | hbegins | hbegins
    · exact (String.toList_inj.mp hname).symm
    · exact absurd hbegins hparent
    · -- The name of the pool has no hyphen.
      have hhyphen : '-' ∈ Family.sockets.toList := hbegins.subset (by simp)
      exact absurd hhyphen (by decide)
  · rintro rfl
    exact ⟨subId.toList, by rw [to_list_child_id, List.append_assoc, List.singleton_append]⟩

/-- The identifiers of children are not that of the pool of sockets. -/
theorem child_id_ne_sockets (parent subId : String) : childId parent subId ≠ Family.sockets := by
  intro hid
  have hhyphen : '-' ∈ (childId parent subId).toList := by
    rw [to_list_child_id]
    exact List.mem_append_right _ List.mem_cons_self
  rw [hid] at hhyphen
  exact absurd hhyphen (by decide)

/-- The entities of the family of sockets are their pool and what is named like a socket. -/
theorem Announced.id_of_socket {id : String} {kind : EntityKind} (h : Announced id kind)
    (hfamily : kind.family = .socket) : id = Family.sockets ∨ NamedLikeSocket id := by
  cases h with
  | aggregate =>
      left
      by_contra hname
      simp [EntityKind.ofAggregate, EntityKind.family, Family.ofAggregate, hname] at hfamily
  | process => cases hfamily
  | socket subId => exact Or.inr ((named_like_socket_child_id_iff (by decide) subId).mpr rfl)

/-- Sockets are announced under their pool. -/
theorem Announced.parent_of_socket {id parent subId : String}
    (h : Announced id (.concrete parent subId .socket)) : parent = Family.sockets := by
  cases h
  rfl

namespace Engine

variable {settings : Settings} {engine : Engine} {id subId : String} {population : Discovery}
  {events : List StreamEvent}

/-! ## What an announcement charts -/

/-- The arrivals are children of a population that is charted. -/
theorem of_mem_arrivals {entity : String × EntityKind} (h : entity ∈ engine.arrivals population) :
    population.parent ∈ engine.settings.watchersWithPids ∧ ∃ subId ∈ population.children,
      entity = (childId population.parent subId,
        .concrete population.parent subId population.family) := by
  rw [arrivals] at h
  split at h
  next hcharted =>
    obtain ⟨subId, hsub, rfl⟩ :=
      List.mem_map.mp (List.mem_filter.mp (mem_of_mem_first_of_each h)).1
    exact ⟨List.contains_iff_mem.mp hcharted, subId, hsub, rfl⟩
  next => exact absurd h List.not_mem_nil

/-- After an announcement, a record under an identifier was there before or is that of a child of
the population. -/
theorem Routed.get?_discover (h : engine.Routed settings)
    (hpopulation : (StreamEvent.discovery population).Decoded) {record : EntityRecord}
    (hrecord : (engine.discover population).registry.get? id = some record) :
    engine.registry.get? id = some record ∨ engine.registry.get? id = none ∧
      population.parent ∈ settings.watchersWithPids ∧ ∃ subId ∈ population.children,
        id = childId population.parent subId ∧
          record.kind = .concrete population.parent subId population.family := by
  rw [Registry.get?, h.records_discover hpopulation.announced_entities, List.find?_append,
    ← Registry.get?] at hrecord
  cases hbefore : engine.registry.get? id with
  | some old =>
      rw [hbefore, Option.some_or] at hrecord
      exact Or.inl hrecord
  | none =>
      rw [hbefore, Option.none_or] at hrecord
      have hid : record.id = id := by simpa using List.find?_some hrecord
      rw [wiredRecords] at hrecord
      obtain ⟨entity, hentity, rfl⟩ := List.mem_map.mp (List.mem_of_find?_eq_some hrecord)
      obtain ⟨hcharted, subId, hsub, rfl⟩ := of_mem_arrivals hentity
      rw [h.listening.settings_eq] at hcharted
      exact Or.inr ⟨rfl, hcharted, subId, hsub, hid.symm, rfl⟩

/-- The children of a charted population are registered once they are announced. -/
theorem Routed.contains_discover (h : engine.Routed settings)
    (hpopulation : (StreamEvent.discovery population).Decoded)
    (hcharted : population.parent ∈ settings.watchersWithPids)
    (hsub : subId ∈ population.children) :
    (engine.discover population).registry.contains (childId population.parent subId) := by
  have hids := h.ids_handle_event hpopulation
  rw [handleEvent, StreamEvent.announcedIds, if_pos (List.contains_iff_mem.mpr hcharted)] at hids
  rw [Registry.contains_iff_mem_ids, hids, List.mem_eraseDups]
  exact List.mem_append_right _ (List.mem_map_of_mem hsub)

/-- An announced child is charted exactly if no entity of the other family is registered under its
identifier. -/
theorem Routed.charted_iff (h : engine.Routed settings)
    (hpopulation : (StreamEvent.discovery population).Decoded)
    (hcharted : population.parent ∈ settings.watchersWithPids)
    (hsub : subId ∈ population.children) :
    (engine.discover population).subscriptions.route?
        ((EntityKind.concrete population.parent subId population.family).stream
          (childId population.parent subId)) = some (childId population.parent subId) ↔
      ∀ record, engine.registry.get? (childId population.parent subId) = some record →
        record.kind.family = population.family := by
  have hafter : (engine.discover population).Routed settings := h.handle_event hpopulation
  have hregistered := h.contains_discover hpopulation hcharted hsub
  rw [Registry.contains_eq_is_some] at hregistered
  obtain ⟨found, hfound⟩ := Option.isSome_iff_exists.mp hregistered
  have hroute : (engine.discover population).subscriptions.route?
        ((EntityKind.concrete population.parent subId population.family).stream
          (childId population.parent subId)) = some (childId population.parent subId) ↔
      found.kind.family = population.family := by
    have hstream := (hafter.listening.announced _ found hfound).stream_eq_iff
      (hpopulation.announced subId)
    rw [hafter.listening.routes, hfound]
    exact Iff.trans (by simp) hstream
  rw [hroute]
  rcases h.get?_discover hpopulation hfound with hbefore | ⟨hnone, _, _, _, _, hkind⟩
  · simp [hbefore]
  · rw [hkind]
    exact iff_of_true rfl (by simp [hnone])

/-! ## Sessions in which nothing but sockets is named like one -/

/-- Nothing but sockets is named like a socket: no configured aggregate is, and no processes are
announced under the pool of sockets. -/
structure SocketNamesKept (settings : Settings) (events : List StreamEvent) : Prop where
  configured : ∀ name ∈ configured settings, ¬ NamedLikeSocket name
  processes : ∀ children, StreamEvent.discovery ⟨.watcher, Family.sockets, children⟩ ∉ events

/-- Fewer events announce fewer processes. -/
theorem SocketNamesKept.of_subset {more : List StreamEvent} (h : SocketNamesKept settings more)
    (hevents : events ⊆ more) : SocketNamesKept settings events :=
  ⟨h.configured, fun children hevent => h.processes children (hevents hevent)⟩

/-- Announced children are named like sockets exactly if they are sockets. -/
theorem SocketNamesKept.named_like_socket_iff (h : SocketNamesKept settings events)
    (hmem : .discovery population ∈ events)
    (hpopulation : (StreamEvent.discovery population).Decoded)
    (hcharted : population.parent ∈ settings.watchersWithPids) (subId : String) :
    NamedLikeSocket (childId population.parent subId) ↔ population.family = .socket := by
  have hparent := h.configured population.parent (List.mem_append_right _ hcharted)
  rw [named_like_socket_child_id_iff hparent]
  obtain ⟨family, parent, children⟩ := population
  cases family with
  | socket => exact iff_of_true (hpopulation.announced subId).parent_of_socket rfl
  | watcher =>
      refine iff_of_false ?_ Family.noConfusion
      rintro rfl
      exact h.processes children hmem

/-- What is named like a socket is one. -/
def SocketsOnly (engine : Engine) : Prop :=
  ∀ id record, engine.registry.get? id = some record → NamedLikeSocket id →
    record.kind.family = .socket

/-- Once the configured aggregates are wired, none of them is named like a socket. -/
theorem SocketNamesKept.sockets_only_start (h : SocketNamesKept settings events) :
    (Engine.new settings).start.SocketsOnly := by
  intro id record hrecord hid
  have hlookup : (Engine.new settings).start.registry.get? id = _ :=
    get?_wire_configured settings id
  rw [hlookup] at hrecord
  split at hrecord
  next hname => exact absurd hid (h.configured id hname)
  next => cases hrecord

/-- Events keep the names of sockets for sockets. -/
theorem Routed.sockets_only_handle_all (h : engine.Routed settings) (hengine : engine.SocketsOnly)
    (hevents : ∀ event ∈ events, event.Decoded) (hkept : SocketNamesKept settings events) :
    (engine.handleAll events).SocketsOnly := by
  induction events generalizing engine with
  | nil => exact hengine
  | cons event events ih =>
      rw [List.forall_mem_cons] at hevents
      refine ih (h.handle_event hevents.1) ?_ hevents.2 (hkept.of_subset (List.subset_cons_self ..))
      intro id record hrecord hid
      cases event with
      | sample stream payload =>
          rw [handleEvent, h.listening.get?_handle_sample] at hrecord
          obtain ⟨old, hold, rfl⟩ := Option.map_eq_some_iff.mp hrecord
          rw [(EntityRecord.SameEntity.hear old _).kind]
          exact hengine id old hold hid
      | discovery population =>
          rcases h.get?_discover hevents.1 hrecord with
            hbefore | ⟨_, hcharted, subId, _, rfl, hkind⟩
          · exact hengine id record hbefore hid
          · rw [hkind]
            exact (hkept.named_like_socket_iff List.mem_cons_self hevents.1 hcharted subId).mp hid

/-- At every moment of a session that listens, once children of an aggregate are announced whose
population is charted: each of them listens to its stream exactly if no entity of the other family
is registered under its identifier. If nothing but sockets is named like a socket, then all of them
do. -/
theorem charted_unless_namesake (hmode : settings.mode = .push)
    (hevents : ∀ event ∈ events, event.Decoded)
    (hengine : engine = (Engine.new settings).start.handleAll events)
    (hpopulation : (StreamEvent.discovery population).Decoded)
    (hcharted : population.parent ∈ settings.watchersWithPids) :
    (∀ subId ∈ population.children,
      ((engine.handleEvent (.discovery population)).subscriptions.route?
          ((EntityKind.concrete population.parent subId population.family).stream
            (childId population.parent subId)) = some (childId population.parent subId) ↔
        ∀ record, engine.registry.get? (childId population.parent subId) = some record →
          record.kind.family = population.family)) ∧
    (SocketNamesKept settings (events ++ [.discovery population]) →
      ∀ subId ∈ population.children,
        (engine.handleEvent (.discovery population)).subscriptions.route?
          ((EntityKind.concrete population.parent subId population.family).stream
            (childId population.parent subId)) = some (childId population.parent subId)) := by
  have hstart : (Engine.new settings).start.Routed settings := .start hmode
  have h : engine.Routed settings := hengine ▸ hstart.handle_all hevents
  refine ⟨?charted, ?all⟩
  case charted =>
    intro subId hsub
    exact h.charted_iff hpopulation hcharted hsub
  case all =>
    intro hkept subId hsub
    have hsockets : engine.SocketsOnly := hengine ▸ hstart.sockets_only_handle_all
      hkept.sockets_only_start hevents (hkept.of_subset (List.subset_append_left ..))
    refine (h.charted_iff hpopulation hcharted hsub).mpr ?_
    intro record hrecord
    have hnamed := hkept.named_like_socket_iff (List.mem_append_right _ List.mem_cons_self)
      hpopulation hcharted subId
    cases hfamily : population.family with
    | socket => exact hsockets _ record hrecord (hnamed.mpr hfamily)
    | watcher =>
        -- A socket would be named like one.
        cases hold : record.kind.family with
        | watcher => rfl
        | socket =>
            rcases (h.listening.announced _ record hrecord).id_of_socket hold with hpool | hlike
            · exact absurd hpool (child_id_ne_sockets _ _)
            · rw [hnamed.mp hlike] at hfamily
              cases hfamily

/-- Sockets are charted one by one, and so are the processes of `db`. -/
def socketsAndProcesses : Settings :=
  { watchersWithPids := ["sockets", "db"] }

/-- Process 7 of `db` is announced. -/
def processSeven : StreamEvent :=
  .discovery ⟨.watcher, "db", ["7"]⟩

/-- Socket 7 is charted next to process 7. -/
theorem charted_unless_namesake_same_number :
    ∃ engine, engine = (Engine.new socketsAndProcesses).start.handleAll [processSeven] ∧
      (engine.handleEvent (.discovery ⟨.socket, "sockets", ["7"]⟩)).subscriptions.route?
        "socket-stats-7" = some "sockets-7" := by
  have hmode : socketsAndProcesses.mode = .push := rfl
  have hevents : ∀ event ∈ [processSeven], event.Decoded := by
    rw [List.forall_mem_singleton]
    exact ⟨"\x7b\"name\":\"stats-db-pids\",\"args\":\x7b\"pids\":[7]\x7d\x7d", by decide +kernel⟩
  have hpopulation : (StreamEvent.discovery ⟨.socket, "sockets", ["7"]⟩).Decoded :=
    ⟨"\x7b\"name\":\"socket-stats-fds\",\"args\":\x7b\"fds\":[7]\x7d\x7d", by decide +kernel⟩
  have hkept : SocketNamesKept socketsAndProcesses
      ([processSeven] ++ [.discovery ⟨.socket, "sockets", ["7"]⟩]) :=
    ⟨by decide, fun children => by simp [processSeven, Family.sockets]⟩
  exact ⟨_, rfl, (charted_unless_namesake hmode hevents rfl hpopulation (by decide)).2 hkept "7"
    (by decide)⟩

/-- Of two announced sockets, the one with the identifier of a configured watcher is not charted:
its stream leads nowhere, and its samples are lost. -/
theorem namesake_of_socket_not_charted :
    (StreamEvent.discovery ⟨.socket, "sockets", ["7", "8"]⟩).Decoded ∧
    "sockets" ∈ socketsAndWatcher.watchersWithPids ∧
    ∃ engine, engine = (Engine.new socketsAndWatcher).start.handleEvent
        (.discovery ⟨.socket, "sockets", ["7", "8"]⟩) ∧
      (EntityKind.concrete "sockets" "7" .socket).stream (childId "sockets" "7") =
        "socket-stats-7" ∧
      engine.subscriptions.route? "socket-stats-8" = some "sockets-8" ∧
      engine.subscriptions.route? "socket-stats-7" = none ∧
      (engine.handleEvent (.sample "socket-stats-7" [("reads", .number (.integer 3))])).registry =
        engine.registry := by
  have hdecoded : (StreamEvent.discovery ⟨.socket, "sockets", ["7", "8"]⟩).Decoded :=
    decoded_of_mem_announcements _ List.mem_cons_self
  refine ⟨hdecoded, by decide, _, rfl, by decide, ?_, ?_, ?_⟩
  <;> decide +kernel

end Engine

end StatsBoard
