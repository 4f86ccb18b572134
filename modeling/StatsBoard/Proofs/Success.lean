/-!
# Steps that may fail

A step that may fail ends well exactly if all that it consists of does.
-/

namespace StatsBoard

variable {ε α β : Type} {x : Except ε α} {b : β}

/-- After a step that ended well comes the next one. -/
@[simp]
theorem ok_bind {a : α} {f : α → Except ε β} : Except.ok a >>= f = f a :=
  rfl

/-- Two steps end well if both do. -/
theorem bind_eq_ok_iff {f : α → Except ε β} :
    x >>= f = .ok b ↔ ∃ a, x = .ok a ∧ f a = .ok b := by
  cases x with
  | error e => simp [bind, Except.bind]
  | ok a => simp [bind, Except.bind]

/-- A value that is changed was there before. -/
theorem map_eq_ok_iff {f : α → β} : x.map f = .ok b ↔ ∃ a, x = .ok a ∧ f a = b := by
  cases x with
  | error e => simp [Except.map]
  | ok a => simp [Except.map]

/-- A step whose error is worded in another way ends well if the step does. -/
theorem map_error_eq_ok_iff {ε' : Type} {f : ε → ε'} {a : α} {y : Except ε α} :
    y.mapError f = .ok a ↔ y = .ok a := by
  cases y with
  | error e => constructor <;> intro h <;> cases h
  | ok a => constructor <;> intro h <;> cases h <;> rfl

/-- Steps for all items end well if each does. -/
theorem forM_eq_ok_iff {items : List α} {step : α → Except ε Unit} :
    forM items step = .ok () ↔ ∀ item ∈ items, step item = .ok () := by
  induction items with
  | nil => simp [pure, Except.pure]
  | cons item items ih =>
      rw [List.forM_cons, bind_eq_ok_iff, List.forall_mem_cons, ← ih]
      exact ⟨fun ⟨(), hitem, hitems⟩ => ⟨hitem, hitems⟩, fun h => ⟨(), h⟩⟩

/-- What every step keeps is kept by all of them. -/
theorem foldlM_keeps {σ : Type} {P : σ → Prop} {step : σ → α → Except ε σ} {items : List α}
    {s s' : σ} (hstep : ∀ s item s', P s → step s item = .ok s' → P s') (hs : P s)
    (h : items.foldlM step s = .ok s') : P s' := by
  induction items generalizing s with
  | nil =>
      cases h
      exact hs
  | cons item items ih =>
      rw [List.foldlM_cons] at h
      obtain ⟨next, hnext, h⟩ := bind_eq_ok_iff.mp h
      exact ih (hstep s item next hs hnext) h

end StatsBoard
