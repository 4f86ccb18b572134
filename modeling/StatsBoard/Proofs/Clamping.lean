import StatsBoard.Metric

/-!
# Clamping

A value is clamped by lowering it to the upper bound and then raising it to the lower one. Both are
idempotent and keep the order of numbers, whatever the bounds are, so that clamping does. If the
bounds are finite and in order (`SampleRange.Sound`), then a number between them stays as it is, any
other becomes the bound that it violates, and the result lies between the bounds:
`SampleRange.clamp_laws`.
-/

namespace StatsBoard

/-! ## The order of numbers -/

namespace Binary64

variable {x y z : Binary64}

/-- A finite number is no NaN. -/
theorem not_nan_of_finite (h : x.isFinite) : x.isNaN = false := by
  simp only [isFinite, decide_eq_true_eq] at h
  simp only [isNaN, decide_eq_false_iff_not]
  omega

/-- Numbers are ordered like their ranks, and nothing else is ordered. -/
theorem le_iff : x.le y ↔ x.isNaN = false ∧ y.isNaN = false ∧ x.rank ≤ y.rank := by
  simp [le, and_assoc]

/-- Numbers are strictly ordered like their ranks, and nothing else is ordered. -/
theorem lt_iff : x.lt y ↔ x.isNaN = false ∧ y.isNaN = false ∧ x.rank < y.rank := by
  simp [lt, and_assoc]

/-- Nothing is below itself. -/
theorem lt_irrefl : ¬ x.lt x :=
  fun h => Int.lt_irrefl _ (lt_iff.mp h).2.2

/-- A number is not above itself. -/
theorem le_refl (hx : x.isNaN = false) : x.le x :=
  le_iff.mpr ⟨hx, hx, Int.le_refl _⟩

/-- Of two numbers, one that is not below the other is not exceeded by it. -/
theorem le_of_not_lt (hx : x.isNaN = false) (hy : y.isNaN = false) (h : ¬ x.lt y) : y.le x := by
  rw [lt_iff] at h
  exact le_iff.mpr ⟨hy, hx, Int.not_lt.mp fun hrank => h ⟨hx, hy, hrank⟩⟩

/-- A number is not above one that exceeds it. -/
theorem not_lt_of_le (h : x.le y) : ¬ y.lt x :=
  fun hlt => Int.not_lt.mpr (le_iff.mp h).2.2 (lt_iff.mp hlt).2.2

theorem lt_asymm (h : x.lt y) : ¬ y.lt x :=
  fun hlt => Int.lt_asymm (lt_iff.mp h).2.2 (lt_iff.mp hlt).2.2

theorem lt_of_lt_of_le (h : x.lt y) (hle : y.le z) : x.lt z := by
  obtain ⟨hx, -, hrank⟩ := lt_iff.mp h
  obtain ⟨-, hz, hle⟩ := le_iff.mp hle
  exact lt_iff.mpr ⟨hx, hz, Int.lt_of_lt_of_le hrank hle⟩

theorem lt_of_le_of_lt (h : x.le y) (hlt : y.lt z) : x.lt z := by
  obtain ⟨hx, -, hrank⟩ := le_iff.mp h
  obtain ⟨-, hz, hlt⟩ := lt_iff.mp hlt
  exact lt_iff.mpr ⟨hx, hz, Int.lt_of_le_of_lt hrank hlt⟩

end Binary64

/-! ## Lowering and raising -/

namespace SampleRange

/-- A number lies between the bounds. -/
def Contains (range : SampleRange) (value : Binary64) : Prop :=
  (∀ low ∈ range.min, low.le value) ∧ ∀ high ∈ range.max, value.le high

/-- Between the bounds is decided by comparing with those that there are. -/
instance (range : SampleRange) (value : Binary64) : Decidable (range.Contains value) :=
  inferInstanceAs (Decidable (_ ∧ _))

/-- Lower a value to the upper bound. -/
def lowered (range : SampleRange) (value : Binary64) : Binary64 :=
  match range.max with
  | some high => if high.lt value then high else value
  | none => value

/-- Raise a value to the lower bound. -/
def raised (range : SampleRange) (value : Binary64) : Binary64 :=
  match range.min with
  | some low => if value.lt low then low else value
  | none => value

variable {range : SampleRange} {value x y : Binary64}

/-- A value is clamped by lowering and then raising it. -/
theorem clamp_eq : range.clamp value = range.raised (range.lowered value) := rfl

/-- A value above the upper bound is lowered to it. -/
theorem lowered_of_lt {high : Binary64} (hmax : high ∈ range.max) (h : high.lt value) :
    range.lowered value = high := by
  rw [Option.mem_def] at hmax
  simp only [lowered, hmax]
  exact if_pos h

/-- A value that is not above the upper bound is not lowered. -/
theorem lowered_of_not_lt (h : ∀ high ∈ range.max, ¬ high.lt value) :
    range.lowered value = value := by
  unfold lowered
  split
  next high hmax => exact if_neg (h high hmax)
  next => rfl

/-- A value below the lower bound is raised to it. -/
theorem raised_of_lt {low : Binary64} (hmin : low ∈ range.min) (h : value.lt low) :
    range.raised value = low := by
  rw [Option.mem_def] at hmin
  simp only [raised, hmin]
  exact if_pos h

/-- A value that is not below the lower bound is not raised. -/
theorem raised_of_not_lt (h : ∀ low ∈ range.min, ¬ value.lt low) : range.raised value = value := by
  unfold raised
  split
  next low hmin => exact if_neg (h low hmin)
  next => rfl

/-- A value is lowered to the upper bound or stays below it. -/
theorem lowered_cases (range : SampleRange) (value : Binary64) :
    (∃ high ∈ range.max, high.lt value ∧ range.lowered value = high) ∨
    (∀ high ∈ range.max, ¬ high.lt value) ∧ range.lowered value = value := by
  by_cases h : ∃ high ∈ range.max, high.lt value
  · obtain ⟨high, hmax, hlt⟩ := h
    exact .inl ⟨high, hmax, hlt, lowered_of_lt hmax hlt⟩
  · have hnone : ∀ high ∈ range.max, ¬ high.lt value := fun high hmax hlt => h ⟨high, hmax, hlt⟩
    exact .inr ⟨hnone, lowered_of_not_lt hnone⟩

/-- A value is raised to the lower bound or stays above it. -/
theorem raised_cases (range : SampleRange) (value : Binary64) :
    (∃ low ∈ range.min, value.lt low ∧ range.raised value = low) ∨
    (∀ low ∈ range.min, ¬ value.lt low) ∧ range.raised value = value := by
  by_cases h : ∃ low ∈ range.min, value.lt low
  · obtain ⟨low, hmin, hlt⟩ := h
    exact .inl ⟨low, hmin, hlt, raised_of_lt hmin hlt⟩
  · have hnone : ∀ low ∈ range.min, ¬ value.lt low := fun low hmin hlt => h ⟨low, hmin, hlt⟩
    exact .inr ⟨hnone, raised_of_not_lt hnone⟩

/-! ## Any bounds -/

/-- A lowered value is not above the upper bound. -/
theorem not_lt_lowered {high : Binary64} (hmax : high ∈ range.max) :
    ¬ high.lt (range.lowered value) := by
  rcases range.lowered_cases value with ⟨other, hother, -, heq⟩ | ⟨hnone, heq⟩
  · obtain rfl : other = high := Option.mem_unique hother hmax
    rw [heq]
    exact Binary64.lt_irrefl
  · rw [heq]
    exact hnone high hmax

/-- A raised value is not below the lower bound. -/
theorem not_raised_lt {low : Binary64} (hmin : low ∈ range.min) :
    ¬ (range.raised value).lt low := by
  rcases range.raised_cases value with ⟨other, hother, -, heq⟩ | ⟨hnone, heq⟩
  · obtain rfl : other = low := Option.mem_unique hother hmin
    rw [heq]
    exact Binary64.lt_irrefl
  · rw [heq]
    exact hnone low hmin

/-- Clamping a clamped value changes nothing. -/
theorem clamp_clamp (range : SampleRange) (value : Binary64) :
    range.clamp (range.clamp value) = range.clamp value := by
  simp only [clamp_eq]
  rcases range.raised_cases (range.lowered value) with ⟨low, hmin, -, hraised⟩ | ⟨-, hraised⟩
  · rw [hraised]
    rcases range.lowered_cases low with ⟨high, -, hlt, hlowered⟩ | ⟨-, hlowered⟩
    · -- The bounds are in the wrong order: the lower one wins again.
      rw [hlowered, raised_of_lt hmin hlt]
    · have hstays : ∀ other ∈ range.min, ¬ low.lt other := fun other hother =>
        Option.mem_unique hmin hother ▸ Binary64.lt_irrefl
      rw [hlowered, raised_of_not_lt hstays]
  · have hstays : ∀ high ∈ range.max, ¬ high.lt (range.lowered value) :=
      fun high hmax => not_lt_lowered hmax
    rw [hraised, lowered_of_not_lt hstays, hraised]

/-- Lowering keeps the order of numbers. -/
theorem lowered_mono (h : x.le y) : (range.lowered x).le (range.lowered y) := by
  have hx := (Binary64.le_iff.mp h).1
  rcases range.lowered_cases x with ⟨high, hmax, hlt, hlowered⟩ | ⟨hnone, hlowered⟩
  · have hhigh := (Binary64.lt_iff.mp hlt).1
    rw [hlowered, lowered_of_lt hmax (Binary64.lt_of_lt_of_le hlt h)]
    exact Binary64.le_refl hhigh
  · rw [hlowered]
    rcases range.lowered_cases y with ⟨high, hmax, hlt, hlowered⟩ | ⟨-, hlowered⟩
    · rw [hlowered]
      exact Binary64.le_of_not_lt (Binary64.lt_iff.mp hlt).1 hx (hnone high hmax)
    · rw [hlowered]
      exact h

/-- Raising keeps the order of numbers. -/
theorem raised_mono (h : x.le y) : (range.raised x).le (range.raised y) := by
  have hy := (Binary64.le_iff.mp h).2.1
  rcases range.raised_cases y with ⟨low, hmin, hlt, hraised⟩ | ⟨hnone, hraised⟩
  · have hlow := (Binary64.lt_iff.mp hlt).2.1
    rw [hraised, raised_of_lt hmin (Binary64.lt_of_le_of_lt h hlt)]
    exact Binary64.le_refl hlow
  · rw [hraised]
    rcases range.raised_cases x with ⟨low, hmin, hlt, hraised⟩ | ⟨-, hraised⟩
    · rw [hraised]
      exact Binary64.le_of_not_lt hy (Binary64.lt_iff.mp hlt).2.1 (hnone low hmin)
    · rw [hraised]
      exact h

/-- Clamping keeps the order of numbers. -/
theorem clamp_mono (h : x.le y) : (range.clamp x).le (range.clamp y) :=
  raised_mono (lowered_mono h)

/-- A number is clamped to a number. -/
theorem not_nan_clamp (h : value.isNaN = false) : (range.clamp value).isNaN = false :=
  (Binary64.le_iff.mp (clamp_mono (Binary64.le_refl h))).1

/-- A number between the bounds stays as it is. -/
theorem clamp_of_contains (h : range.Contains value) : range.clamp value = value := by
  rw [clamp_eq, lowered_of_not_lt fun high hmax => Binary64.not_lt_of_le (h.2 high hmax),
    raised_of_not_lt fun low hmin => Binary64.not_lt_of_le (h.1 low hmin)]

/-! ## Sound bounds -/

/-- What makes a range valid: its bounds are finite and in order. -/
structure Sound (range : SampleRange) : Prop where
  min_finite : ∀ low ∈ range.min, low.isFinite
  max_finite : ∀ high ∈ range.max, high.isFinite
  ordered : ∀ low ∈ range.min, ∀ high ∈ range.max, low.le high

/-- A valid range has sound bounds. -/
theorem sound_of_valid (h : range.isValid) : range.Sound := by
  obtain ⟨min, max⟩ := range
  cases min with
  | none =>
      cases max with
      | none => exact ⟨by simp, by simp, by simp⟩
      | some high => exact ⟨by simp, by simpa [isValid] using h, by simp⟩
  | some low =>
      cases max with
      | none => exact ⟨by simpa [isValid] using h, by simp, by simp⟩
      | some high =>
          simp only [isValid, Bool.and_eq_true] at h
          obtain ⟨⟨hlow, hhigh⟩, hordered⟩ := h
          exact ⟨by simpa using hlow, by simpa using hhigh, by simpa using hordered⟩

/-- A finite number clamped into a valid range is finite. -/
theorem finite_clamp (h : range.isValid) (hvalue : value.isFinite) :
    (range.clamp value).isFinite := by
  have hsound := sound_of_valid h
  have hlowered : (range.lowered value).isFinite := by
    rcases range.lowered_cases value with ⟨high, hmax, -, heq⟩ | ⟨-, heq⟩
    · rw [heq]
      exact hsound.max_finite high hmax
    · rw [heq]
      exact hvalue
  rw [clamp_eq]
  rcases range.raised_cases (range.lowered value) with ⟨low, hmin, -, heq⟩ | ⟨-, heq⟩
  · rw [heq]
    exact hsound.min_finite low hmin
  · rw [heq]
    exact hlowered

/-- A number above the upper bound is clamped to it. -/
theorem Sound.clamp_of_max_lt (h : range.Sound) {high : Binary64} (hmax : high ∈ range.max)
    (hlt : high.lt value) : range.clamp value = high := by
  have hstays : ∀ low ∈ range.min, ¬ high.lt low := fun low hmin =>
    Binary64.not_lt_of_le (h.ordered low hmin high hmax)
  rw [clamp_eq, lowered_of_lt hmax hlt, raised_of_not_lt hstays]

/-- A number below the lower bound is clamped to it. -/
theorem Sound.clamp_of_lt_min (h : range.Sound) {low : Binary64} (hmin : low ∈ range.min)
    (hlt : value.lt low) : range.clamp value = low := by
  have hstays : ∀ high ∈ range.max, ¬ high.lt value := fun high hmax =>
    Binary64.lt_asymm (Binary64.lt_of_lt_of_le hlt (h.ordered low hmin high hmax))
  rw [clamp_eq, lowered_of_not_lt hstays, raised_of_lt hmin hlt]

/-- A number lies between the bounds or violates one of them. -/
theorem Sound.contains_or_violated (h : range.Sound) (hvalue : value.isNaN = false) :
    range.Contains value ∨ (∃ low ∈ range.min, value.lt low) ∨
      ∃ high ∈ range.max, high.lt value := by
  by_cases hlow : ∃ low ∈ range.min, value.lt low
  · exact .inr (.inl hlow)
  · by_cases hhigh : ∃ high ∈ range.max, high.lt value
    · exact .inr (.inr hhigh)
    · refine .inl ⟨fun low hmin => ?_, fun high hmax => ?_⟩
      · have hnumber := Binary64.not_nan_of_finite (h.min_finite low hmin)
        exact Binary64.le_of_not_lt hvalue hnumber fun hlt => hlow ⟨low, hmin, hlt⟩
      · have hnumber := Binary64.not_nan_of_finite (h.max_finite high hmax)
        exact Binary64.le_of_not_lt hnumber hvalue fun hlt => hhigh ⟨high, hmax, hlt⟩

/-- A number clamped into a valid range lies in it. -/
theorem contains_clamp (h : range.isValid) (hvalue : value.isNaN = false) :
    range.Contains (range.clamp value) := by
  have hsound := sound_of_valid h
  have hnan : (range.clamp value).isNaN = false := not_nan_clamp hvalue
  refine ⟨fun low hmin => ?_, fun high hmax => ?_⟩
  · have hlow := Binary64.not_nan_of_finite (hsound.min_finite low hmin)
    exact Binary64.le_of_not_lt hnan hlow (not_raised_lt hmin)
  · have hhigh := Binary64.not_nan_of_finite (hsound.max_finite high hmax)
    refine Binary64.le_of_not_lt hhigh hnan fun hlt => ?_
    -- A value above the upper bound would be clamped to it once more.
    have hbound := hsound.clamp_of_max_lt hmax hlt
    rw [clamp_clamp] at hbound
    exact Binary64.lt_irrefl (hbound ▸ hlt)

/-- Whatever the bounds are, clamping twice is clamping once, and clamping keeps the order of
numbers. If the range is valid, then each number is clamped to one that lies between the bounds: to
itself if it lies there, to the lower bound if it is below that, to the upper bound if it is above
that, and there is no other case. -/
theorem clamp_laws (range : SampleRange) :
    (∀ value, range.clamp (range.clamp value) = range.clamp value) ∧
    (∀ x y, x.le y → (range.clamp x).le (range.clamp y)) ∧
    (range.isValid → ∀ value, value.isNaN = false →
      range.Contains (range.clamp value) ∧
      (range.Contains value → range.clamp value = value) ∧
      (∀ low ∈ range.min, value.lt low → range.clamp value = low) ∧
      (∀ high ∈ range.max, high.lt value → range.clamp value = high) ∧
      (range.Contains value ∨ (∃ low ∈ range.min, value.lt low) ∨
        ∃ high ∈ range.max, high.lt value)) := by
  refine ⟨range.clamp_clamp, fun x y => clamp_mono, fun hvalid value hvalue => ?_⟩
  have hsound := sound_of_valid hvalid
  refine ⟨contains_clamp hvalid hvalue, clamp_of_contains, ?below, ?above, ?cases⟩
  case below => exact fun low hmin => hsound.clamp_of_lt_min hmin
  case above => exact fun high hmax => hsound.clamp_of_max_lt hmax
  case cases => exact hsound.contains_or_violated hvalue

/-- Bounds in the wrong order, of which the lower one wins. -/
def inverted : SampleRange := ⟨some (.ofInt 10), some (.ofInt 1)⟩

/-- Shares of one hundred keep the order of numbers, infinities included, which become bounds.
Bounds in the wrong order clamp twice as they clamp once. -/
theorem clamp_laws_infinite :
    (inverted.clamp (.ofInt 5) = .ofInt 10 ∧
      inverted.clamp (inverted.clamp (.ofInt 5)) = inverted.clamp (.ofInt 5)) ∧
    ((Binary64.ofInt 42).le .infinity ∧
      (percent.clamp (.ofInt 42)).le (percent.clamp .infinity)) ∧
    percent.isValid ∧ Binary64.infinity.isNaN = false ∧ (Binary64.ofInt 100).lt .infinity ∧
      percent.clamp .infinity = .ofInt 100 ∧ percent.Contains (percent.clamp .infinity) := by
  obtain ⟨htwice, -⟩ := clamp_laws inverted
  obtain ⟨-, hmono, hvalid⟩ := clamp_laws percent
  have horder : (Binary64.ofInt 42).le .infinity := by decide +kernel
  have habove : (Binary64.ofInt 100).lt .infinity := by decide +kernel
  have hpercent : percent.isValid := by decide +kernel
  have hnumber : Binary64.infinity.isNaN = false := by decide +kernel
  obtain ⟨hcontains, -, -, hclamped, -⟩ := hvalid hpercent .infinity hnumber
  exact ⟨⟨by decide +kernel, htwice _⟩, ⟨horder, hmono _ _ horder⟩, hpercent, hnumber, habove,
    hclamped _ rfl habove, hcontains⟩

end SampleRange

end StatsBoard
