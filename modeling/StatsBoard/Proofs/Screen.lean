import Mathlib.Data.List.Basic
import StatsBoard.Screen.Basic

/-!
# Reading a screen after drawing

A symbol shows in the cell where it is put, and every other cell stays as it was
(`Screen.cell?_put`). So symbols that are put one below the other show in one cell each, and nothing
else is changed (`Screen.gains_column_foldl`).
-/

namespace StatsBoard.Screen

variable {screen drawn : Screen} {style : Style} {symbol : String} {symbols : List String}
variable {x y column row : Nat}

/-- The cell of a column and a row, where the screen has one. -/
def cell? (screen : Screen) (column row : Nat) : Option Cell :=
  screen.rows[row]?.bind (·[column]?)

/-- A change of a cell is seen in that cell alone. -/
theorem cell?_modify (change : Cell → Cell) :
    (screen.modify x y change).cell? column row =
      if column = x ∧ row = y then (screen.cell? column row).map change
      else screen.cell? column row := by
  rw [cell?, cell?, modify]
  by_cases hrow : row = y
  · subst hrow
    rw [List.getElem?_modify_eq]
    cases screen.rows[row]? with
    | none => exact (ite_self none).symm
    | some cells =>
        rw [Option.map_eq_map, Option.map_some, Option.bind_some, Option.bind_some]
        by_cases hcolumn : column = x
        · rw [hcolumn, List.getElem?_modify_eq, if_pos ⟨rfl, rfl⟩]
          rfl
        · rw [List.getElem?_modify_ne _ _ (Ne.symm hcolumn), if_neg fun h => hcolumn h.1]
  · rw [List.getElem?_modify_ne _ _ (Ne.symm hrow), if_neg fun h => hrow h.2]

theorem cell?_put : (screen.put symbol style x y).cell? column row =
    if column = x ∧ row = y then (screen.cell? column row).map (·.showing symbol style)
    else screen.cell? column row :=
  cell?_modify _

theorem cell?_put_self :
    (screen.put symbol style x y).cell? x y = (screen.cell? x y).map (·.showing symbol style) := by
  rw [cell?_put, if_pos ⟨rfl, rfl⟩]

theorem cell?_put_of_ne (h : column ≠ x ∨ row ≠ y) :
    (screen.put symbol style x y).cell? column row = screen.cell? column row := by
  rw [cell?_put, if_neg fun ⟨hcolumn, hrow⟩ => h.elim (· hcolumn) (· hrow)]

/-! ## Columns of symbols -/

/-- The screen `drawn` is `screen` with symbols shown one below the other in a style, in column `x`
and from row `y` on: each of these rows shows one of them there, and all other cells are the
same. -/
structure GainsColumn (drawn screen : Screen) (x y : Nat) (style : Style)
    (symbols : List String) : Prop where
  shown (i : Nat) (symbol : String) : symbols[i]? = some symbol →
    drawn.cell? x (y + i) = (screen.cell? x (y + i)).map (·.showing symbol style)
  kept (column row : Nat) : column ≠ x ∨ row < y ∨ y + symbols.length ≤ row →
    drawn.cell? column row = screen.cell? column row

theorem gains_column_nil : screen.GainsColumn screen x y style [] where
  shown _ _ h := nomatch h
  kept _ _ _ := rfl

/-- The first symbol of a column is put above the others. -/
theorem GainsColumn.cons
    (h : drawn.GainsColumn (screen.put symbol style x y) x (y + 1) style symbols) :
    drawn.GainsColumn screen x y style (symbol :: symbols) where
  shown i shown hshown := by
    cases i with
    | zero =>
        obtain rfl := Option.some.inj hshown
        rw [Nat.add_zero, h.kept x y (Or.inr (Or.inl (Nat.lt_succ_self y))), cell?_put_self]
    | succ i =>
        have hbelow := h.shown i shown hshown
        rw [Nat.add_right_comm y 1 i] at hbelow
        rw [← Nat.add_assoc, hbelow, cell?_put_of_ne (Or.inr (by omega))]
  kept column row houtside := by
    rw [List.length_cons] at houtside
    rw [h.kept column row (by omega), cell?_put_of_ne (by omega)]

/-- Symbols that are put one below the other are a column. -/
theorem gains_column_foldl (symbols : List String) (screen : Screen) (start : Nat) :
    ((symbols.zipIdx start).foldl (fun screen (symbol, i) => screen.put symbol style x (y + i))
      screen).GainsColumn screen x (y + start) style symbols := by
  induction symbols generalizing screen start with
  | nil => exact gains_column_nil
  | cons symbol symbols ih =>
      rw [List.zipIdx_cons, List.foldl_cons]
      exact (ih (screen.put symbol style x (y + start)) (start + 1)).cons

end StatsBoard.Screen
