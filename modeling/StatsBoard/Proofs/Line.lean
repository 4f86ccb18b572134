import StatsBoard.Line
import StatsBoard.Proofs.Text

/-!
# Line breaks in text lines

Of all that a line shows, only the name of its entity can break it: names of metrics, bars and
labels hold no line break. So the text of frames has one line break for each frame, and those of the
names (`EntityFrame.count_lines`).
-/

namespace StatsBoard

/-! ## Parts of a line -/

theorem Text.line_break_not_mem_int_numeral (i : Int) : '\n' ∉ (intNumeral i).toList :=
  fun h => absurd (mem_int_numeral h) (by decide)

theorem Metric.line_break_not_mem_label (metric : Metric) (latest : Option Binary64) :
    '\n' ∉ (metric.label latest).toList := by
  have hunit : '\n' ∉ metric.unit.toList := by cases metric <;> decide
  cases latest with
  | none =>
      show '\n' ∉ "n/a".toList
      decide
  | some sample =>
      rw [label]
      split <;> simp [Text.line_break_not_mem_int_numeral, hunit]

namespace Line

theorem line_break_not_mem_bar (width : Nat) (frame : MetricFrame) :
    '\n' ∉ (bar width frame).toList := by
  have hlevel : ∀ level, levels.getD level ' ' ≠ '\n' := by
    intro level hbreak
    have hmem : levels.getD level ' ' ∈ levels := by
      rw [List.getD_eq_getElem?_getD]
      cases hlevel : levels[level]? with
      | none => exact List.mem_cons_self
      | some c => exact List.mem_of_getElem? hlevel
    rw [hbreak] at hmem
    exact absurd hmem (by decide)
  rw [bar, String.toList_ofList, List.mem_map]
  rintro ⟨sample, -, hsample⟩
  exact hlevel _ hsample

theorem line_break_not_mem_metric_text {width : Nat} {frame : MetricFrame}
    (h : '\n' ∉ frame.label.toList) : '\n' ∉ (metricText width frame).toList := by
  have hname : '\n' ∉ frame.metric.name.toList := by cases frame.metric <;> decide
  simp [metricText, line_break_not_mem_bar, hname, h]

/-- Padding adds no line break. -/
theorem count_pad_right (width : Nat) (s : String) :
    (padRight width s).toList.count '\n' = s.toList.count '\n' := by
  simp [padRight, List.count_replicate]

end Line

/-! ## Lines of frames -/

namespace EntityFrame

variable {frame : EntityFrame} {frames : List EntityFrame} {width : Nat}

/-- The line of a frame without its line end. -/
def content (width : Nat) (frame : EntityFrame) : String :=
  String.join (Line.padRight Line.nameWidth frame.entity
    :: frame.metrics.map (Line.metricText width))

/-- The labels of the frame hold no line break. -/
def Unbroken (frame : EntityFrame) : Prop :=
  ∀ shown ∈ frame.metrics, '\n' ∉ shown.label.toList

theorem to_list_content : (frame.content width).toList =
    (Line.padRight Line.nameWidth frame.entity).toList
      ++ frame.metrics.flatMap fun shown => (Line.metricText width shown).toList := by
  simp [content, String.toList_join, List.flatMap_map]

/-- A line begins with the name of its entity. -/
theorem entity_prefix_content : frame.entity.toList <+: (frame.content width).toList := by
  rw [to_list_content, Line.padRight, String.toList_append, List.append_assoc]
  exact List.prefix_append _ _

/-- The line breaks of a line are those of the name of its entity. -/
theorem Unbroken.count_content (h : frame.Unbroken) :
    (frame.content width).toList.count '\n' = frame.entity.toList.count '\n' := by
  have hmetrics : '\n' ∉ frame.metrics.flatMap fun shown =>
      (Line.metricText width shown).toList := by
    rw [List.mem_flatMap]
    rintro ⟨shown, hshown, hbreak⟩
    exact Line.line_break_not_mem_metric_text (h shown hshown) hbreak
  rw [to_list_content, List.count_append, Line.count_pad_right, List.count_eq_zero.mpr hmetrics,
    Nat.add_zero]

/-- Each line is ended by a line break. -/
theorem to_list_lines : (lines width frames).toList =
    frames.flatMap fun frame => (frame.content width).toList ++ ['\n'] := by
  simp [lines, line, content, String.toList_join, List.flatMap_map]

/-- The text of frames has one line break for each of them, and those of their names. -/
theorem count_lines (h : ∀ frame ∈ frames, frame.Unbroken) :
    (lines width frames).toList.count '\n' =
      frames.length + (frames.flatMap (·.entity.toList)).count '\n' := by
  rw [to_list_lines]
  induction frames with
  | nil => rfl
  | cons frame frames ih =>
      obtain ⟨hframe, hframes⟩ := List.forall_mem_cons.mp h
      rw [List.flatMap_cons, List.count_append, List.count_append, hframe.count_content,
        ih hframes, List.length_cons, List.flatMap_cons, List.count_append,
        List.count_singleton_self]
      omega

/-- Without line breaks in names, the text of frames is cut into their lines. -/
theorem split_lines (h : ∀ frame ∈ frames, '\n' ∉ (frame.content width).toList) :
    Text.split (· == '\n') (lines width frames).toList =
      frames.map (fun frame => (frame.content width).toList) ++ [[]] := by
  rw [to_list_lines]
  induction frames with
  | nil => rfl
  | cons frame frames ih =>
      obtain ⟨hframe, hframes⟩ := List.forall_mem_cons.mp h
      have hpiece : ∀ c ∈ (frame.content width).toList, (c == '\n') = false := by
        intro c hc
        exact beq_eq_false_iff_ne.mpr fun hbreak => hframe (hbreak ▸ hc)
      have hcut (rest : List Char) :
          Text.split (· == '\n') ((frame.content width).toList ++ '\n' :: rest) =
            Text.split (· == '\n') (frame.content width).toList ++ Text.split (· == '\n') rest :=
        Text.split_append rfl
      rw [List.flatMap_cons, List.append_assoc, List.singleton_append, hcut,
        Text.split_of_not hpiece, ih hframes, List.map_cons, List.singleton_append,
        List.cons_append]

end EntityFrame

/-- The labels of what is shown of a record hold no line break. -/
theorem EntityRecord.unbroken_frame (record : EntityRecord) (palette : Palette) :
    (record.frame palette).Unbroken := by
  intro shown hshown
  obtain ⟨entry, -, rfl⟩ := List.mem_map.mp hshown
  exact entry.1.line_break_not_mem_label entry.2.latest?

end StatsBoard
