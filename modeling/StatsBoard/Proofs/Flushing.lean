import Mathlib.Data.List.Induction
import StatsBoard.Proofs.Redraw
import StatsBoard.Proofs.Registry

/-!
# Flushes, one record after the other

A flush can be made in one walk through the registry. A record that waits and is asked for is drawn
in its turn, and its position is taken out of the list of what waits, in which the walk goes on
looking positions up (`Redraw.sweep`). That the walk draws and leaves what `Redraw.flushWhere` says
rests on two lists without repetitions: the identifiers of a registry, however it was made
(`Registry.Made.nodup`), and what waits, whatever was marked and flushed before
(`Redraw.nodup_after`). The main statement is `Redraw.flushes_marked_matches`.
-/

namespace StatsBoard

/-! ## Registries -/

namespace Registry

/-- The ways in which registries are made: they begin without records, entities are registered, and
records are changed, but not their identifiers. -/
inductive Made : Registry → Prop
  | empty (layout : SeriesLayout) : Made (.empty layout)
  | ensure {registry : Registry} (id : String) (kind : EntityKind) :
      Made registry → Made (registry.ensure id kind)
  | modify {registry : Registry} (id : String) {change : EntityRecord → EntityRecord}
      (hid : ∀ record, (change record).id = record.id) :
      Made registry → Made (registry.modify id change)

/-- However a registry was made, no two of its records have the same identifier. -/
theorem Made.nodup {registry : Registry} (h : registry.Made) : registry.ids.Nodup := by
  induction h with
  | empty layout => exact List.nodup_nil
  | ensure id kind _ ih => exact nodup_ensure ih
  | modify id hid _ ih => rwa [ids_modify hid]

end Registry

/-! ## The walk -/

/-- What a walk through the registry has left waiting, the frames that it has drawn, and their
number. -/
structure Sweep where
  pending : List String
  frames : List EntityFrame
  count : Nat
deriving DecidableEq

namespace Sweep

/-- The turn of one record. -/
def visit (palette : Palette) (wanted : EntityRecord → Bool) (sweep : Sweep)
    (record : EntityRecord) : Sweep :=
  match sweep.pending.idxOf? record.id with
  | none => sweep
  | some position =>
    if wanted record then
      { pending := sweep.pending.eraseIdx position
        frames := sweep.frames ++ [record.frame palette]
        count := sweep.count + 1 }
    else sweep

/-- A walk that has drawn records, of which nothing else is known. -/
def ofDrawn (palette : Palette) (pending : List String) (drawn : List EntityRecord) : Sweep where
  pending := pending.filter fun id => !(drawn.any (·.id == id))
  frames := drawn.map (·.frame palette)
  count := drawn.length

variable {palette : Palette} {wanted : EntityRecord → Bool} {pending : List String}
  {record : EntityRecord} {records drawn : List EntityRecord}

/-- A position that is looked up is that of the only occurrence, where there is only one. -/
theorem erase_idx_eq_filter (h : pending.Nodup) {id : String} {position : Nat}
    (hposition : pending.idxOf? id = some position) :
    pending.eraseIdx position = pending.filter (· != id) := by
  rw [← h.erase_eq_filter, List.erase_eq_eraseIdx, hposition]

/-- In its turn a record is drawn if it waited before the walk and is asked for, provided that none
was drawn under its identifier. -/
theorem visit_of_drawn (hpending : pending.Nodup) (hnew : ∀ other ∈ drawn, other.id ≠ record.id) :
    visit palette wanted (ofDrawn palette pending drawn) record =
      if pending.contains record.id && wanted record then
        ofDrawn palette pending (drawn ++ [record])
      else ofDrawn palette pending drawn := by
  have hwaits : record.id ∈ (ofDrawn palette pending drawn).pending ↔ record.id ∈ pending := by
    simpa [ofDrawn] using fun _ => hnew
  have hdistinct : (ofDrawn palette pending drawn).pending.Nodup := hpending.filter _
  unfold visit
  cases hposition : (ofDrawn palette pending drawn).pending.idxOf? record.id with
  | none =>
      have hnot : record.id ∉ pending := by
        rw [← hwaits]
        exact List.idxOf?_eq_none_iff.mp hposition
      simp [hnot]
  | some position =>
      obtain ⟨hlt, hid, -⟩ := List.idxOf?_eq_some_iff.mp hposition
      have hmem : record.id ∈ pending := by
        rw [← hwaits, ← hid]
        exact List.getElem_mem hlt
      have hleft : (ofDrawn palette pending drawn).pending.eraseIdx position =
          (ofDrawn palette pending (drawn ++ [record])).pending := by
        rw [erase_idx_eq_filter hdistinct hposition]
        show (pending.filter _).filter _ = pending.filter _
        rw [List.filter_filter]
        refine List.filter_congr fun id _ => ?_
        rw [List.any_append, Bool.not_or, Bool.and_comm, bne_comm]
        simp [bne]
      dsimp only
      rw [hleft]
      simp [hmem, ofDrawn]

/-- A walk draws the records that waited before it and are asked for, in order. -/
theorem foldl_visit (hpending : pending.Nodup) (hids : (records.map (·.id)).Nodup) :
    records.foldl (visit palette wanted) (ofDrawn palette pending []) =
      ofDrawn palette pending
        (records.filter fun record => pending.contains record.id && wanted record) := by
  induction records using List.reverseRecOn with
  | nil => rfl
  | append_singleton records record ih =>
      rw [List.map_append, List.nodup_append] at hids
      obtain ⟨hrecords, -, hother⟩ := hids
      have hnew : ∀ earlier ∈ records.filter fun record =>
          pending.contains record.id && wanted record, earlier.id ≠ record.id := by
        intro earlier hearlier
        exact hother _ (List.mem_map_of_mem (List.mem_filter.mp hearlier).1) _ (by simp)
      rw [List.foldl_concat, ih hrecords, visit_of_drawn hpending hnew, List.filter_append,
        List.filter_singleton]
      cases pending.contains record.id && wanted record <;> simp

end Sweep

/-! ## Marks and flushes in order -/

/-- What is done with the entities that wait. -/
inductive RedrawCall where
  | mark (id : String)
  | flushEntity (registry : Registry) (id : String)
  | flushWhere (registry : Registry) (wanted : EntityRecord → Bool)

namespace Redraw

variable {redraw : Redraw} {registry : Registry} {palette : Palette}
  {wanted : EntityRecord → Bool} {calls : List RedrawCall} {call : RedrawCall}

/-- Flush in one walk through the registry. -/
def sweep (redraw : Redraw) (registry : Registry) (palette : Palette)
    (wanted : EntityRecord → Bool) : Sweep :=
  registry.records.foldl (Sweep.visit palette wanted) ⟨redraw.pending, [], 0⟩

/-- What waits once something was done. -/
def perform (palette : Palette) (redraw : Redraw) : RedrawCall → Redraw
  | .mark id => redraw.mark id
  | .flushEntity registry id => (redraw.flushEntity registry palette id).redraw
  | .flushWhere registry wanted => (redraw.flushWhere registry palette wanted).redraw

/-- What waits after marks and flushes, if nothing waited before. -/
def after (palette : Palette) (calls : List RedrawCall) : Redraw :=
  calls.foldl (perform palette) { }

/-- No entity waits twice after a mark or a flush. -/
theorem nodup_perform (h : redraw.pending.Nodup) :
    (perform palette redraw call).pending.Nodup := by
  cases call with
  | mark id =>
      show (redraw.mark id).pending.Nodup
      rw [mark]
      split
      next => exact h
      next hnew =>
        refine List.nodup_append.mpr ⟨h, List.nodup_singleton id, ?_⟩
        rintro other hother _ hlast rfl
        rw [List.mem_singleton.mp hlast] at hother
        exact hnew (List.contains_iff_mem.mpr hother)
  | flushEntity registry id => exact h.filter _
  | flushWhere registry wanted => exact h.filter _

/-- No entity ever waits twice. -/
theorem nodup_after (palette : Palette) (calls : List RedrawCall) :
    (after palette calls).pending.Nodup := by
  induction calls using List.reverseRecOn with
  | nil => exact List.nodup_nil
  | append_singleton calls call ih =>
      rw [after, List.foldl_concat]
      exact nodup_perform ih

/-- The walk draws and leaves what a flush does, and counts the frames. -/
theorem sweep_eq (hpending : redraw.pending.Nodup) (hids : registry.ids.Nodup) :
    redraw.sweep registry palette wanted =
      ⟨(redraw.flushWhere registry palette wanted).redraw.pending,
        (redraw.flushWhere registry palette wanted).frames,
        (redraw.due registry wanted).length⟩ := by
  have hstart : Sweep.ofDrawn palette redraw.pending [] = ⟨redraw.pending, [], 0⟩ := by
    simp [Sweep.ofDrawn]
  rw [sweep, ← hstart, Sweep.foldl_visit hpending hids]
  rfl

/-- Right after a flush nothing is left to draw by the same flush. -/
theorem due_flush_where :
    (redraw.flushWhere registry palette wanted).redraw.due registry wanted = [] := by
  rw [due, List.filter_eq_nil_iff]
  intro record hrecord hagain
  obtain ⟨hwaits, hwanted⟩ : record.id ∈ (redraw.flushWhere registry palette wanted).redraw.pending
      ∧ wanted record := by simpa using hagain
  rw [mem_pending_flush_where] at hwaits
  exact hwaits.2 record (mem_due.mpr ⟨hrecord, hwaits.1, hwanted⟩) rfl

/-- A flush that draws nothing leaves waiting what waited. -/
theorem flush_where_of_none_due (h : redraw.due registry wanted = []) :
    redraw.flushWhere registry palette wanted = ⟨redraw, [], []⟩ := by
  simp [flushWhere, h]

/-- After any marks and flushes, and in any registry, a flush draws exactly the records that wait
and are asked for, once each and in the order of the registry, and leaves waiting what it did not
draw, in the order in which it waited. Made as one walk through the registry it draws and leaves the
same, and the walk counts what it draws. A flush of all that waits asks for every record. The same
flush made again draws nothing and changes nothing. -/
theorem flushes_marked_matches (palette : Palette) (calls : List RedrawCall)
    (wanted : EntityRecord → Bool) (hregistry : registry.Made)
    (hredraw : redraw = after palette calls) :
    redraw.pending.Nodup ∧
    (∃ drawn : List EntityRecord, drawn.Sublist registry.records ∧ (drawn.map (·.id)).Nodup ∧
      (∀ record, record ∈ drawn ↔
        record ∈ registry.records ∧ record.id ∈ redraw.pending ∧ wanted record) ∧
      (redraw.flushWhere registry palette wanted).frames = drawn.map (·.frame palette) ∧
      (redraw.flushWhere registry palette wanted).redraw.pending =
        redraw.pending.filter (!(drawn.map (·.id)).contains ·) ∧
      redraw.sweep registry palette wanted =
        ⟨(redraw.flushWhere registry palette wanted).redraw.pending,
          (redraw.flushWhere registry palette wanted).frames, drawn.length⟩) ∧
    redraw.flush registry palette = redraw.flushWhere registry palette (fun _ => true) ∧
    (redraw.flushWhere registry palette wanted).redraw.flushWhere registry palette wanted =
      ⟨(redraw.flushWhere registry palette wanted).redraw, [], []⟩ := by
  have hpending : redraw.pending.Nodup := hredraw ▸ nodup_after palette calls
  have hids := hregistry.nodup
  refine ⟨hpending, ⟨redraw.due registry wanted, List.filter_sublist,
    hids.sublist (List.filter_sublist.map _), fun _ => mem_due, rfl, ?left, ?walk⟩, rfl, ?again⟩
  case left =>
    refine List.filter_congr fun id _ => ?_
    rw [Bool.eq_iff_iff]
    simp
  case walk => exact sweep_eq hpending hids
  case again => exact flush_where_of_none_due due_flush_where

/-- A worker with one process, and another entity. -/
def workerAndWeb : Registry :=
  (((Registry.empty { }).ensure "worker" (.ofAggregate "worker")).ensure "worker-1"
    (.ofChild "worker" "1")).ensure "web" (.ofAggregate "web")

/-- Marks out of order around a flush that asks for nothing. One is made twice, and one is of an
entity that is not registered. -/
def marksOutOfOrder : List RedrawCall :=
  [.mark "web", .mark "worker-1", .flushWhere workerAndWeb (fun _ => false), .mark "gone",
    .mark "worker", .mark "worker-1"]

/-- What belongs to the worker is drawn in the order of the registry. The rest goes on waiting. -/
theorem flushes_marked_matches_worker :
    workerAndWeb.Made ∧
    (after .standard marksOutOfOrder).pending = ["web", "worker-1", "gone", "worker"] ∧
    ∃ drawn : List EntityRecord, drawn.map (·.id) = ["worker", "worker-1"] ∧
      (after .standard marksOutOfOrder).sweep workerAndWeb .standard (·.belongsTo "worker") =
        ⟨["web", "gone"], drawn.map (·.frame .standard), 2⟩ := by
  have hmade : workerAndWeb.Made := .ensure _ _ (.ensure _ _ (.ensure _ _ (.empty _)))
  obtain ⟨-, ⟨drawn, -, -, -, hframes, -, hsweep⟩, -⟩ :=
    flushes_marked_matches .standard marksOutOfOrder (·.belongsTo "worker") hmade rfl
  have hids : drawn.map (·.id) = ["worker", "worker-1"] := by
    have hentities := congrArg (List.map (·.entity)) hframes
    rw [List.map_map] at hentities
    exact hentities.symm
  have hcount : drawn.length = 2 := by
    rw [← List.length_map (·.id), hids]
    rfl
  refine ⟨hmade, by decide, drawn, hids, ?_⟩
  rw [hsweep, hframes, hcount]
  exact congrArg (Sweep.mk · _ _) (by decide)

end Redraw

end StatsBoard
