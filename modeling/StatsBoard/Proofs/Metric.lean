import StatsBoard.Proofs.Clamping

/-!
# Names of metrics and clamped samples

Metrics are told apart by their names. A sample is read as a finite number and then clamped. A
finite number clamped into a valid range is finite and lies in it, so that a sample that can be used
is admitted by the range of its metric: `Ranges.admits_of_sample`.
-/

namespace StatsBoard

/-! ## Names -/

theorem Metric.of_name_name (metric : Metric) : ofName? metric.name = some metric := by
  cases metric <;> rfl

theorem Metric.name_inj {metric other : Metric} (h : metric.name = other.name) :
    metric = other := by
  apply Option.some.inj
  rw [← of_name_name, h, of_name_name]

/-! ## The samples of a metric -/

/-- The ranges used unless others are given are valid. -/
theorem Metric.valid_default_range (metric : Metric) : metric.defaultRange.isValid := by
  cases metric <;> decide +kernel

/-- A number read from a JSON value is finite. -/
theorem Json.finite_of_sample {raw : Json} {value : Binary64} (h : raw.sample? = some value) :
    value.isFinite := by
  unfold Json.sample? at h
  exact (Option.filter_eq_some_iff.mp h).2

namespace Ranges

/-- The ranges that are given are valid. -/
def Valid (ranges : Ranges) : Prop :=
  ∀ metric, ∀ range ∈ ranges.get? metric, range.isValid

/-- A number is finite and lies in the range of the metric. -/
def Admits (ranges : Ranges) (metric : Metric) (value : Binary64) : Prop :=
  value.isFinite ∧ (ranges.range metric).Contains value

variable {ranges : Ranges} {metric : Metric}

/-- The range of each metric is valid if those that are given are. -/
theorem Valid.range (h : ranges.Valid) (metric : Metric) : (ranges.range metric).isValid := by
  rw [Ranges.range]
  cases hgiven : ranges.get? metric with
  | none => exact metric.valid_default_range
  | some range => exact h metric range hgiven

/-- A sample that can be used is admitted by the range of its metric. -/
theorem admits_of_sample (h : ranges.Valid) {raw : Json} {sample : Binary64}
    (hsample : ranges.sample? metric raw = some sample) : ranges.Admits metric sample := by
  obtain ⟨value, hvalue, rfl⟩ := Option.map_eq_some_iff.mp hsample
  have hfinite := Json.finite_of_sample hvalue
  exact ⟨SampleRange.finite_clamp (h.range metric) hfinite,
    SampleRange.contains_clamp (h.range metric) (Binary64.not_nan_of_finite hfinite)⟩

end Ranges

end StatsBoard
