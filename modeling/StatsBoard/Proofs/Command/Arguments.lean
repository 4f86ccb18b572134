import StatsBoard.Command.Arguments
import StatsBoard.Proofs.Config.Resolution

/-!
# Numbers among the arguments

The numbers that arguments wish for fit 64 bits (`Arguments.fits_of_parse`): a larger one is
refused when it is read, and every argument that is read keeps what was read before.
-/

namespace StatsBoard

namespace Arguments

open Text

/-- A number that is read is below the limit. -/
theorem lt_of_read_digits {value n : Nat} {digits : List Char} (hvalue : value < numberLimit)
    (h : readDigits value digits = .ok n) : n < numberLimit := by
  induction digits generalizing value with
  | nil =>
      cases h
      exact hvalue
  | cons c digits ih =>
      unfold readDigits at h
      split at h
      · cases h
      · dsimp only at h
        split at h
        · cases h
        · exact ih (Nat.lt_of_not_le ‹_›) h

theorem lt_of_read_number {text : String} {n : Nat} (h : readNumber text = .ok n) :
    n < UInt64.size := by
  unfold readNumber at h
  split at h
  · cases h
  · cases h
  · exact lt_of_read_digits (by decide) h
  · exact lt_of_read_digits (by decide) h

variable {arguments next : Arguments} {option : CommandOption} {value : String}

/-- Taking over a value keeps the numbers within 64 bits. -/
theorem fits_with_value (h : arguments.changes.Fits)
    (hnext : arguments.withValue option value = .ok next) : next.changes.Fits := by
  have hnumber : ∀ {option : CommandOption} {use : Nat → Arguments},
      withNumber option value use = .ok next →
      (∀ n < UInt64.size, (use n).changes.Fits) → next.changes.Fits := by
    intro option use hnext huse
    unfold withNumber at hnext
    split at hnext
    · cases hnext
      exact huse _ (lt_of_read_number ‹_›)
    · cases hnext
  have hwish : ∀ {n : Nat}, n < UInt64.size → ∀ m ∈ some n, m < UInt64.size := by
    intro n hn m hm
    cases hm
    exact hn
  unfold withValue at hnext
  split at hnext
  case h_6 => exact hnumber hnext fun n hn => { h with capacity := hwish hn }
  case h_7 => exact hnumber hnext fun n hn => { h with cadence := hwish hn }
  case h_3 | h_8 =>
    split at hnext <;> cases hnext
    exact { h with }
  all_goals cases hnext
  all_goals exact { h with }

/-- Options without a value wish for no number. -/
theorem fits_with_flag (h : arguments.changes.Fits) : (arguments.withFlag option).changes.Fits := by
  cases option <;> exact h

namespace Progress

variable {progress after : Progress} {argument : String}

/-- The numbers that were read so far fit 64 bits. -/
def Fits (progress : Progress) : Prop :=
  progress.arguments.changes.Fits

theorem Fits.note (h : progress.Fits) (hnote : progress.note option = .ok after) : after.Fits := by
  unfold Progress.note at hnote
  split at hnote
  · cases hnote
  · cases hnote
    exact h

theorem Fits.take_value (h : progress.Fits) (htake : progress.takeValue option value = .ok after) :
    after.Fits := by
  obtain ⟨noted, hnote, htake⟩ := bind_eq_ok_iff.mp htake
  obtain ⟨arguments, harguments, htake⟩ := bind_eq_ok_iff.mp htake
  cases htake
  exact fits_with_value (h.note hnote) harguments

theorem Fits.settle (h : progress.Fits) (hsettle : progress.settle = .ok after) : after.Fits := by
  unfold Progress.settle at hsettle
  split at hsettle
  · cases hsettle
    exact h
  · cases hsettle
  · have hcleared : Fits { progress with pending := none } := h
    exact hcleared.take_value hsettle

theorem Fits.read_flag (h : progress.Fits) (hread : progress.readFlag option = .ok after) :
    after.Fits := by
  obtain ⟨settled, hsettle, hread⟩ := bind_eq_ok_iff.mp hread
  have hsettled := h.settle (map_error_eq_ok_iff.mp hsettle)
  split at hread
  · cases hread
  · cases hread
  · obtain ⟨noted, hnote, hread⟩ := bind_eq_ok_iff.mp hread
    cases hread
    exact fits_with_flag (hsettled.note (map_error_eq_ok_iff.mp hnote))

theorem Fits.read_option {value : Option String} (h : progress.Fits)
    (hread : progress.readOption option value = .ok after) : after.Fits := by
  obtain ⟨settled, hsettle, hread⟩ := bind_eq_ok_iff.mp hread
  have hsettled := h.settle (map_error_eq_ok_iff.mp hsettle)
  split at hread
  · exact hsettled.take_value (map_error_eq_ok_iff.mp hread)
  · cases hread
    exact hsettled

theorem Fits.read_name {name : List Char} (h : progress.Fits)
    (hread : progress.readName name = .ok after) : after.Fits := by
  unfold Progress.readName at hread
  dsimp only at hread
  split at hread
  · cases hread
  · split at hread
    · exact h.read_option hread
    · split at hread
      · cases hread
      · exact h.read_flag hread

theorem Fits.read_letters {letters : List Char} (h : progress.Fits)
    (hread : progress.readLetters letters = .ok after) : after.Fits := by
  induction letters generalizing progress with
  | nil =>
      cases hread
      exact h
  | cons letter letters ih =>
      unfold Progress.readLetters at hread
      split at hread
      · cases hread
      · split at hread
        · exact h.read_option hread
        · split at hread
          · exact ih (h.read_flag ‹_›) hread
          · cases hread

theorem Fits.read_endpoint (h : progress.Fits)
    (hread : progress.readEndpoint argument = .ok after) : after.Fits := by
  unfold Progress.readEndpoint at hread
  split at hread
  · cases hread
  · obtain ⟨settled, hsettle, hread⟩ := bind_eq_ok_iff.mp hread
    cases hread
    exact { h.settle (map_error_eq_ok_iff.mp hsettle) with }

theorem Fits.read_plain (h : progress.Fits) (hread : progress.readPlain argument = .ok after) :
    after.Fits := by
  unfold Progress.readPlain at hread
  split at hread
  · cases hread
    exact h
  · exact h.read_endpoint hread

/-- One more argument keeps the numbers within 64 bits. -/
theorem Fits.read (h : progress.Fits) (hread : progress.read argument = .ok after) :
    after.Fits := by
  unfold Progress.read at hread
  split at hread
  · exact h.read_endpoint hread
  · split at hread
    · cases hread
      exact h
    · exact h.read_name hread
    · exact h.read_plain hread
    · exact h.read_letters hread
    · exact h.read_plain hread

end Progress

/-- The numbers that arguments wish for fit 64 bits. -/
theorem fits_of_parse {words : List String} (h : parse words = .ok arguments) :
    arguments.changes.Fits := by
  obtain ⟨progress, hread, h⟩ := bind_eq_ok_iff.mp h
  obtain ⟨settled, hsettle, h⟩ := bind_eq_ok_iff.mp h
  cases h
  have hstart : Progress.Fits { } := ⟨nofun, nofun⟩
  have hprogress := foldlM_keeps (fun _ _ _ hs hstep => Progress.Fits.read hs hstep) hstart hread
  exact hprogress.settle (map_error_eq_ok_iff.mp hsettle)

end Arguments

end StatsBoard
