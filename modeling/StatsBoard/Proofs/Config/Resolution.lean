import StatsBoard.Config.Resolution
import StatsBoard.Proofs.Config.Reading
import StatsBoard.Proofs.Success

/-!
# What a run makes of its profile

A run changes the configuration of its profile, or the standard one, as it wishes; doing that twice
is doing it once. It stores the profile if it is new, or on request if it differs
(`resolve_of_stores`), and otherwise stores nothing (`resolve_of_not_stores`).
-/

namespace StatsBoard

/-- Wishes that are granted stay granted. -/
theorem ConfigChanges.apply_apply (changes : ConfigChanges) (config : Config) :
    changes.apply (changes.apply config) = changes.apply config := by
  have hget : ∀ {α : Type} (wish : Option α) (value : α),
      wish.getD (wish.getD value) = wish.getD value := by
    intro α wish value
    cases wish <;> rfl
  have hor : ∀ {α : Type} (wish value : Option α), wish.or (wish.or value) = wish.or value := by
    intro α wish value
    cases wish <;> rfl
  have hnames : ∀ names kept : List String,
      (if names = [] then (if names = [] then kept else names) else names) =
        if names = [] then kept else names := by
    intro names kept
    split <;> rfl
  simp only [apply, hget, hor, hnames]

/-- Without wishes nothing changes. -/
theorem ConfigChanges.apply_nothing (config : Config) :
    ({ } : ConfigChanges).apply config = config := by
  simp [apply]

/-- The numbers that are wished fit their types. -/
structure ConfigChanges.Fits (changes : ConfigChanges) : Prop where
  capacity : ∀ n ∈ changes.capacity, n < UInt64.size
  cadence : ∀ n ∈ changes.cadence, n < UInt64.size

/-- A configuration still fits after its numbers were changed to some that fit. -/
theorem Config.Fits.apply {config : Config} (h : config.Fits) {changes : ConfigChanges}
    (hchanges : changes.Fits) : (changes.apply config).Fits := by
  have hget : ∀ (wish : Option Nat) (value : Nat), value < UInt64.size →
      (∀ n ∈ wish, n < UInt64.size) → wish.getD value < UInt64.size := by
    intro wish value hvalue hwish
    cases wish with
    | none => exact hvalue
    | some n => exact hwish n rfl
  exact { h with
    capacity := hget _ _ h.capacity hchanges.capacity
    cadence := hget _ _ h.cadence hchanges.cadence }

namespace Profiles

variable {profiles : Profiles} {name other : String} {config : Config}
  {kept : List (String × Config)}

/-- A configuration that was put is found under its name. -/
theorem get_put_self (profiles : Profiles) (name : String) (config : Config) :
    (profiles.put name config).get? name = some config := by
  have hfind : ∀ kept, (insertRising name config kept).find? (·.1 == name) =
      some (name, config) := by
    intro kept
    induction kept with
    | nil => simp [insertRising]
    | cons entry kept ih =>
        rw [insertRising]
        split
        · simp
        · split
          · simp
          · rename_i hne _
            simpa [Ne.symm hne] using ih
  rw [get?, put, hfind, Option.map_some]

/-- A configuration that is found is one of the entries. -/
theorem mem_of_get (h : profiles.get? name = some config) :
    ∃ entry ∈ profiles.profiles, entry.2 = config := by
  obtain ⟨entry, hfind, rfl⟩ := Option.map_eq_some_iff.mp h
  exact ⟨entry, List.mem_of_find?_eq_some hfind, rfl⟩

/-- Profiles still fit after a configuration that fits was put among them. -/
theorem Fits.put (h : profiles.Fits) (hconfig : config.Fits) : (profiles.put name config).Fits where
  rising := rising_insert h.rising
  configs entry hentry := by
    rcases mem_of_mem_insert_rising hentry with rfl | hentry
    · exact hconfig
    · exact h.configs entry hentry
  version := h.version

/-- The bounds of profiles are the old ones and those of the configuration that was put. -/
theorem mem_bounds_put {x : Binary64} (h : x ∈ (profiles.put name config).bounds) :
    x ∈ config.bounds ∨ x ∈ profiles.bounds := by
  obtain ⟨entry, hentry, hx⟩ := List.mem_flatMap.mp h
  rcases mem_of_mem_insert_rising hentry with rfl | hentry
  · exact .inl hx
  · exact .inr (List.mem_flatMap.mpr ⟨entry, hentry, hx⟩)

/-- The configuration that a run works with, starting from these profiles. -/
def configFor (profiles : Profiles) (choice : Option ProfileChoice) (changes : ConfigChanges) :
    Config :=
  changes.apply (profiles.start choice)

/-- A run stores a configuration under a name: it is the configuration that the run works with and
it can be used, the profile of that name is chosen, and it is new or is to be replaced by a
configuration that differs from it. -/
structure Stores (profiles : Profiles) (choice : Option ProfileChoice) (changes : ConfigChanges)
    (name : String) (config : Config) : Prop where
  config_eq : config = profiles.configFor choice changes
  valid : config.validate = .ok ()
  chosen : ∃ overwrite : Bool, choice = some ⟨name, overwrite⟩ ∧
    (profiles.get? name = none ∨ overwrite ∧ profiles.get? name ≠ some config)

variable {choice : Option ProfileChoice} {changes : ConfigChanges}

/-- A run starts from a profile or from the standard configuration. -/
theorem start_cases (profiles : Profiles) (choice : Option ProfileChoice) :
    profiles.start choice = { } ∨
      ∃ entry ∈ profiles.profiles, entry.2 = profiles.start choice := by
  unfold start
  cases hget : choice.bind fun choice => profiles.get? choice.name with
  | none => exact .inl rfl
  | some config =>
      obtain ⟨chosen, -, hchosen⟩ := Option.bind_eq_some_iff.mp hget
      exact .inr (mem_of_get hchosen)

/-- The configuration that a run works with fits, and its bounds are bounds of profiles. -/
theorem Fits.config_for (h : profiles.Fits) (hchanges : changes.Fits) :
    (profiles.configFor choice changes).Fits ∧
      ∀ x ∈ (profiles.configFor choice changes).bounds, x ∈ profiles.bounds := by
  have hbounds : (profiles.configFor choice changes).bounds = (profiles.start choice).bounds := rfl
  rw [hbounds]
  rcases profiles.start_cases choice with hstart | ⟨entry, hentry, hstart⟩
  · rw [configFor, hstart]
    exact ⟨Config.fits_standard.apply hchanges, nofun⟩
  · rw [configFor, ← hstart]
    exact ⟨(h.configs entry hentry).apply hchanges,
      fun x hx => List.mem_flatMap.mpr ⟨entry, hentry, hx⟩⟩

/-- A run whose configuration can be used works with it and deals with its profile. -/
theorem resolve_of_valid (hconfig : profiles.configFor choice changes = config)
    (hvalid : config.validate = .ok ()) : profiles.resolve choice changes =
      .ok (choice.elim { config := config } fun choice => profiles.keep choice config) := by
  subst hconfig
  unfold resolve
  extract_lets config
  have hconfig : config.validate = .ok () := hvalid
  rw [hconfig, ok_bind]
  cases choice <;> rfl

/-- Whatever becomes of its profile, a run keeps its configuration. -/
theorem config_keep (profiles : Profiles) (choice : ProfileChoice) (config : Config) :
    (profiles.keep choice config).config = config := by
  dsimp only [keep]
  split
  · rfl
  · split
    · rfl
    · split <;> rfl

/-- A run works with the configuration that follows from its wishes, and only if that can be
used. -/
theorem config_of_resolve {resolution : Resolution}
    (h : profiles.resolve choice changes = .ok resolution) :
    resolution.config = profiles.configFor choice changes ∧
      (profiles.configFor choice changes).validate = .ok () := by
  obtain ⟨_, hvalid, _⟩ := bind_eq_ok_iff.mp h
  refine ⟨?_, hvalid⟩
  rw [resolve_of_valid rfl hvalid] at h
  cases h
  cases choice with
  | none => rfl
  | some choice => exact config_keep ..

/-- A run that stores a configuration works with it. -/
theorem resolve_of_stores (h : profiles.Stores choice changes name config) :
    ∃ log, profiles.resolve choice changes =
      .ok { config := config, stored := some (profiles.put name config), log := log } := by
  obtain ⟨hconfig, hvalid, overwrite, rfl, hdue⟩ := h
  rw [resolve_of_valid hconfig.symm hvalid]
  dsimp only [Option.elim, keep]
  rcases hdue with hnew | ⟨rfl, hdiffers⟩
  · rw [hnew]
    exact ⟨_, rfl⟩
  · cases hget : profiles.get? name with
    | none => exact ⟨_, rfl⟩
    | some kept =>
        have hne : kept ≠ config := fun heq => hdiffers (heq ▸ hget)
        exact ⟨[.profileUpdated name], by simp [hne]⟩

/-- A run that stores no configuration fails or stores nothing. -/
theorem stored_of_not_stores (h : ∀ name config, ¬ profiles.Stores choice changes name config)
    {resolution : Resolution} (hresolve : profiles.resolve choice changes = .ok resolution) :
    resolution.stored = none := by
  obtain ⟨-, hvalid⟩ := config_of_resolve hresolve
  rw [resolve_of_valid rfl hvalid] at hresolve
  cases hresolve
  cases choice with
  | none => rfl
  | some choice =>
      have hstays := fun hdue => h choice.name _ ⟨rfl, hvalid, choice.overwrite, rfl, hdue⟩
      dsimp only [Option.elim, keep]
      split
      · exact absurd (.inl ‹_›) hstays
      · rename_i kept hget
        split
        · rfl
        · rename_i hne
          split
          · rename_i hoverwrite
            refine absurd (.inr ⟨hoverwrite, fun heq => hne ?_⟩) hstays
            exact Option.some.inj (hget.symm.trans heq)
          · rfl

/-- A run that chooses a profile whose configuration it does not change works with that
configuration and stores nothing. -/
theorem resolve_of_kept (hget : profiles.get? name = some config) {overwrite : Bool}
    (hchanges : changes.apply config = config) (hvalid : config.validate = .ok ()) :
    profiles.resolve (some ⟨name, overwrite⟩) changes = .ok { config := config } := by
  have hconfig : profiles.configFor (some ⟨name, overwrite⟩) changes = config := by
    simp [configFor, start, hget, hchanges]
  rw [resolve_of_valid hconfig hvalid]
  simp [keep, hget]

end Profiles

end StatsBoard
