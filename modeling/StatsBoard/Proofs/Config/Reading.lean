import Mathlib.Data.List.Basic
import Mathlib.Data.String.Basic
import StatsBoard.Config.Profiles
import StatsBoard.Proofs.Json.Reading

/-!
# Configurations that are read

A configuration that is read of a text has numbers that fit their types and ranges with finite
bounds (`Config.yields_decoder`), and the names of profiles that are read rise
(`Profiles.yields_decoder`). Both are kept by every field and by every entry that is put into a map.
-/

namespace StatsBoard

open Decoder

/-! ## What fits -/

/-- The bounds of a range. -/
def SampleRange.bounds (range : SampleRange) : List Binary64 :=
  range.min.toList ++ range.max.toList

/-- A slice whose ends fit 64 bits. -/
structure TailRange.Fits (range : TailRange) : Prop where
  start : Int64.minValue.toInt ≤ range.start ∧ range.start ≤ Int64.maxValue.toInt
  stop : Int64.minValue.toInt ≤ range.stop ∧ range.stop ≤ Int64.maxValue.toInt

namespace Config

/-- The numbers of a configuration fit their types. -/
structure Fits (config : Config) : Prop where
  capacity : config.capacity < UInt64.size
  cadence : config.cadence < UInt64.size
  tail : config.tail.Fits
  fetchTimeout : config.fetchTimeout < UInt64.size
  width : config.width < UInt16.size
  height : config.height < UInt16.size

/-- The standard configuration has small numbers. -/
theorem fits_standard : ({ } : Config).Fits :=
  ⟨by decide, by decide, ⟨by decide, by decide⟩, by decide, by decide, by decide⟩

/-- The bounds of the ranges of a configuration. -/
def bounds (config : Config) : List Binary64 :=
  config.ranges.toList.flatMap fun (_, range) => range.bounds

end Config

namespace Profiles

/-- Names that rise. -/
def Rising (kept : List (String × Config)) : Prop :=
  kept.Pairwise fun a b => a.1 < b.1

/-- The numbers of profiles fit their types, and their names rise. -/
structure Fits (profiles : Profiles) : Prop where
  rising : Rising profiles.profiles
  configs : ∀ entry ∈ profiles.profiles, entry.2.Fits
  version : profiles.version < UInt32.size

/-- No profiles fit. -/
theorem fits_empty : ({ } : Profiles).Fits :=
  ⟨.nil, fun _ h => absurd h List.not_mem_nil, by decide⟩

/-- The bounds of the ranges of all profiles. -/
def bounds (profiles : Profiles) : List Binary64 :=
  profiles.profiles.flatMap fun (_, config) => config.bounds

end Profiles

/-! ## What is read -/

/-- The bounds of a range that is read are finite. -/
theorem SampleRange.yields_decoder :
    decoder.Yields fun range => ∀ x ∈ range.bounds, x.isFinite := by
  have hbound : (option real).Yields fun bound => ∀ x ∈ bound, x.isFinite :=
    yields_option yields_real
  refine yields_record nofun ?_
  simp only [fields, List.forall_mem_cons]
  simp only [bounds, List.forall_mem_append, Option.mem_toList]
  exact ⟨keeps_optional hbound fun range bound h hbound => ⟨hbound, h.2⟩,
    keeps_optional hbound fun range bound h hbound => ⟨h.1, hbound⟩, List.forall_mem_nil _⟩

/-- The ends of a slice that is read fit 64 bits. -/
theorem TailRange.yields_decoder : decoder.Yields Fits := by
  refine yields_record ⟨by decide, by decide⟩ ?_
  simp only [fields, List.forall_mem_cons]
  exact ⟨keeps_mandatory yields_integer fun range start h hstart => ⟨hstart, h.stop⟩,
    keeps_mandatory yields_integer fun range stop h hstop => ⟨h.start, hstop⟩,
    List.forall_mem_nil _⟩

namespace PerMetric

variable {α : Type} {Q : α → Prop}

/-- The listed values are those that metrics have. -/
theorem mem_to_list_iff {values : PerMetric α} {metric : Metric} {a : α} :
    (metric, a) ∈ values.toList ↔ values.get? metric = some a := by
  cases metric <;> simp [toList, Metric.all]

/-- A metric has the value that was put for it, and the others keep theirs. -/
theorem get_put (values : PerMetric α) (metric other : Metric) (a : α) :
    (values.put metric a).get? other = if metric = other then some a else values.get? other := by
  cases metric <;> cases other <;> rfl

/-- After a value is put, all values are as it and the others are. -/
theorem forall_put {values : PerMetric α} {metric : Metric} {a : α} (ha : Q a)
    (h : ∀ entry ∈ values.toList, Q entry.2) :
    ∀ entry ∈ (values.put metric a).toList, Q entry.2 := by
  rintro ⟨other, b⟩ hb
  rw [mem_to_list_iff, get_put] at hb
  split at hb
  · cases hb
    exact ha
  · exact h (other, b) (mem_to_list_iff.mpr hb)

/-- Values for some of the metrics are what each of them is. -/
theorem yields_decoder {decode : Decoder α} (h : decode.Yields Q) :
    (decoder decode).Yields fun values => ∀ entry ∈ values.toList, Q entry.2 :=
  yields_map h nofun fun _ _ _ hvalues ha => forall_put ha hvalues

end PerMetric

namespace Config

/-- The numbers of a configuration that is read fit their types, and its bounds are finite. -/
theorem yields_decoder :
    decoder.Yields fun config => config.Fits ∧ ∀ x ∈ config.bounds, x.isFinite := by
  have hstart : ({ } : Config).Fits ∧ ∀ x ∈ ({ } : Config).bounds, x.isFinite :=
    ⟨fits_standard, nofun⟩
  have hranges : (PerMetric.decoder SampleRange.decoder).Yields fun ranges =>
      ∀ x ∈ ranges.toList.flatMap fun (_, range) => range.bounds, x.isFinite := by
    intro room draft ranges hdraft hranges x hx
    obtain ⟨entry, hentry, hx⟩ := List.mem_flatMap.mp hx
    exact PerMetric.yields_decoder SampleRange.yields_decoder room draft ranges hdraft hranges
      entry hentry x hx
  refine yields_record hstart ?_
  simp only [fields, List.forall_mem_cons]
  exact ⟨keeps_optional (yields_true _) fun _ _ h _ => ⟨{ h.1 with }, h.2⟩,
    keeps_optional (yields_true _) fun _ _ h _ => ⟨{ h.1 with }, h.2⟩,
    keeps_optional (yields_true _) fun _ _ h _ => ⟨{ h.1 with }, h.2⟩,
    keeps_optional (yields_true _) fun _ _ h _ => ⟨{ h.1 with }, h.2⟩,
    keeps_optional (yields_true _) fun _ _ h _ => ⟨{ h.1 with }, h.2⟩,
    keeps_optional (yields_true _) fun _ _ h _ => ⟨{ h.1 with }, h.2⟩,
    keeps_optional yields_natural fun _ _ h hn => ⟨{ h.1 with capacity := hn }, h.2⟩,
    keeps_optional (yields_true _) fun _ _ h _ => ⟨{ h.1 with }, h.2⟩,
    keeps_optional yields_natural fun _ _ h hn => ⟨{ h.1 with cadence := hn }, h.2⟩,
    keeps_optional TailRange.yields_decoder fun _ _ h htail => ⟨{ h.1 with tail := htail }, h.2⟩,
    keeps_optional yields_natural fun _ _ h hn => ⟨{ h.1 with fetchTimeout := hn }, h.2⟩,
    keeps_optional yields_natural fun _ _ h hn => ⟨{ h.1 with width := hn }, h.2⟩,
    keeps_optional yields_natural fun _ _ h hn => ⟨{ h.1 with height := hn }, h.2⟩,
    keeps_optional (yields_true _) fun _ _ h _ => ⟨{ h.1 with }, h.2⟩,
    keeps_optional hranges fun _ _ h hbounds => ⟨{ h.1 with }, hbounds⟩,
    keeps_optional (yields_true _) fun _ _ h _ => ⟨{ h.1 with }, h.2⟩,
    keeps_optional (yields_true _) fun _ _ h _ => ⟨{ h.1 with }, h.2⟩, List.forall_mem_nil _⟩

end Config

namespace Profiles

variable {name : String} {config : Config} {kept : List (String × Config)}

/-- An entry of a list is the one that was put into it or was there before. -/
theorem mem_of_mem_insert_rising {entry : String × Config}
    (h : entry ∈ insertRising name config kept) : entry = (name, config) ∨ entry ∈ kept := by
  induction kept with
  | nil => exact .inl (List.mem_singleton.mp h)
  | cons first rest ih =>
      rw [insertRising] at h
      split at h
      · exact (List.mem_cons.mp h).imp_right (.tail _)
      · split at h
        · exact List.mem_cons.mp h
        · rcases List.mem_cons.mp h with rfl | h
          · exact .inr List.mem_cons_self
          · exact (ih h).imp_right (.tail _)

/-- Names still rise after an entry is put into the list. -/
theorem rising_insert (h : Rising kept) : Rising (insertRising name config kept) := by
  induction kept with
  | nil => exact List.pairwise_singleton ..
  | cons first rest ih =>
      obtain ⟨hfirst, hrest⟩ := List.pairwise_cons.mp h
      rw [insertRising]
      split
      · rename_i heq
        exact List.pairwise_cons.mpr ⟨fun entry hentry => heq ▸ hfirst entry hentry, hrest⟩
      · split
        · rename_i hlt
          refine List.pairwise_cons.mpr ⟨fun entry hentry => ?_, h⟩
          rcases List.mem_cons.mp hentry with rfl | hentry
          · exact hlt
          · exact lt_trans hlt (hfirst entry hentry)
        · rename_i hne hlt
          refine List.pairwise_cons.mpr ⟨fun entry hentry => ?_, ih hrest⟩
          rcases mem_of_mem_insert_rising hentry with rfl | hentry
          · exact lt_of_le_of_ne (not_lt.mp hlt) (Ne.symm hne)
          · exact hfirst entry hentry

/-- The numbers of profiles that are read fit their types, their names rise, and their bounds are
finite. -/
theorem yields_decoder :
    decoder.Yields fun profiles => profiles.Fits ∧ ∀ x ∈ profiles.bounds, x.isFinite := by
  have hkept : (map some Config.decoder [] fun kept name config =>
      insertRising name config kept).Yields fun kept =>
        Rising kept ∧ ∀ entry ∈ kept, entry.2.Fits ∧ ∀ x ∈ entry.2.bounds, x.isFinite := by
    have hnil : Rising [] ∧ ∀ entry ∈ ([] : List (String × Config)),
        entry.2.Fits ∧ ∀ x ∈ entry.2.bounds, x.isFinite :=
      ⟨.nil, fun _ h => absurd h List.not_mem_nil⟩
    refine yields_map Config.yields_decoder hnil ?_
    rintro kept name config ⟨hrising, hkept⟩ hconfig
    refine ⟨rising_insert hrising, fun entry hentry => ?_⟩
    rcases mem_of_mem_insert_rising hentry with rfl | hentry
    · exact hconfig
    · exact hkept entry hentry
  have hstart : ({ } : Profiles).Fits ∧ ∀ x ∈ ({ } : Profiles).bounds, x.isFinite :=
    ⟨fits_empty, fun _ h => absurd h List.not_mem_nil⟩
  refine yields_record hstart ?_
  simp only [fields, List.forall_mem_cons]
  refine ⟨keeps_optional hkept fun profiles kept h hkept => ⟨⟨hkept.1, ?_, h.1.version⟩, ?_⟩,
    keeps_optional yields_natural fun profiles version h hversion =>
      ⟨{ h.1 with version := hversion }, h.2⟩, List.forall_mem_nil _⟩
  · exact fun entry hentry => (hkept.2 entry hentry).1
  · intro x hx
    obtain ⟨entry, hentry, hx⟩ := List.mem_flatMap.mp hx
    exact (hkept.2 entry hentry).2 x hx

end Profiles

end StatsBoard
