import TerminalSession.Proofs.Label.Drawing
import TerminalSession.Proofs.Layout.Words

/-!
# Where labels stand

The labels of a group stand one slot apart, and the slots of all groups together do not exceed the
strip. So no two slots overlap (`LabelFormat.pairwise_starts`), and since the text of a label leaves
a column of its slot free, the texts are apart (`SoftLabels.labels_apart`). A strip is less than
`2 ^ 16` columns wide, and counting them in words of 16 bits does not leave these
(`SoftLabels.layOutInWords_eq`).
-/

namespace TerminalSession

namespace Word

/-- A product, if it fits into so many bits. -/
def product? (bits a b : Nat) : Option Nat := if a * b < 2 ^ bits then some (a * b) else none

/-- A quotient, if there is one. -/
def quotient? (a b : Nat) : Option Nat := if b = 0 then none else some (a / b)

variable {bits a b : Nat}

theorem product?_eq (h : a * b < 2 ^ bits) : product? bits a b = some (a * b) := if_pos h

theorem quotient?_eq (h : b ≠ 0) : quotient? a b = some (a / b) := if_neg h

/-- Steps that all have a result have one together. -/
theorem mapM_eq_some {α β : Type} {g : α → Option β} {g' : α → β} {l : List α}
    (h : ∀ a ∈ l, g a = some (g' a)) : l.mapM g = some (l.map g') := by
  induction l with
  | nil => rfl
  | cons a l ih =>
    obtain ⟨ha, hl⟩ := List.forall_mem_cons.mp h
    rw [List.mapM_cons, ha, ih hl]
    rfl

end Word

namespace LabelFormat

open Word

variable {f : LabelFormat} {cols first size slot start group : Nat}

/-! ## Slots -/

/-- The columns of labels that stand one slot apart. -/
def block (first size slot : Nat) : List Nat := (List.range size).map fun i => first + i * slot

theorem starts_eq (f : LabelFormat) (cols : Nat) : f.starts cols =
    f.groups.zipIdx.flatMap fun (size, group) =>
      block (f.groupStart cols group size) size (f.slot cols) := rfl

/-- The slots of a block lie between its first column and the end of its last slot. -/
theorem within_block (h : start ∈ block first size slot) :
    first ≤ start ∧ start + slot ≤ first + size * slot := by
  obtain ⟨i, hi, rfl⟩ := List.mem_map.mp h
  have hslots : (i + 1) * slot ≤ size * slot :=
    Nat.mul_le_mul_right slot (List.mem_range.mp hi)
  rw [Nat.succ_mul] at hslots
  omega

theorem pairwise_block (first size slot : Nat) :
    (block first size slot).Pairwise fun a b => a + slot ≤ b := by
  rw [block, List.pairwise_map]
  refine List.pairwise_lt_range.imp fun {i j} hij => ?_
  have hslots : (i + 1) * slot ≤ j * slot := Nat.mul_le_mul_right slot hij
  rw [Nat.succ_mul] at hslots
  omega

theorem labelCount_pos (f : LabelFormat) : 0 < f.labelCount := by
  cases f <;> decide

theorem slots_le (f : LabelFormat) (cols : Nat) : f.slot cols * f.labelCount ≤ cols :=
  calc f.slot cols * f.labelCount
      ≤ cols / f.labelCount * f.labelCount := Nat.mul_le_mul_right _ (Nat.min_le_left ..)
    _ ≤ cols := Nat.div_mul_le_self ..

theorem size_le_labelCount (h : size ∈ f.groups) : size ≤ f.labelCount := by
  revert size
  cases f <;> decide

/-- The slots of a group end on the strip. -/
theorem groupStart_add_le (h : size ∈ f.groups) (cols group : Nat) :
    f.groupStart cols group size + size * f.slot cols ≤ cols := by
  have hspan : f.slot cols * size ≤ cols :=
    Nat.le_trans (Nat.mul_le_mul_left _ (size_le_labelCount h)) (f.slots_le cols)
  rw [Nat.mul_comm size]
  simp only [groupStart]
  split
  · omega
  · split <;> omega

/-- The slots of a group end before those of the groups behind it begin. -/
theorem pairwise_groups (f : LabelFormat) (cols : Nat) : f.groups.zipIdx.Pairwise fun a b =>
    f.groupStart cols a.2 a.1 + a.1 * f.slot cols ≤ f.groupStart cols b.2 b.1 := by
  have hslots := f.slots_le cols
  cases f <;> simp [groupStart, groups, labelCount] at hslots ⊢ <;> omega

/-- **No two slots overlap.** -/
theorem pairwise_starts (f : LabelFormat) (cols : Nat) :
    (f.starts cols).Pairwise fun a b => a + f.slot cols ≤ b := by
  rw [starts_eq, List.pairwise_flatMap]
  refine ⟨fun _ _ => pairwise_block .., (f.pairwise_groups cols).imp fun h a ha b hb => ?_⟩
  exact Nat.le_trans (within_block ha).2 (Nat.le_trans h (within_block hb).1)

theorem add_slot_le_of_mem_starts (h : start ∈ f.starts cols) : start + f.slot cols ≤ cols := by
  rw [starts_eq] at h
  obtain ⟨⟨size, group⟩, hgroup, hstart⟩ := List.mem_flatMap.mp h
  exact Nat.le_trans (within_block hstart).2
    (groupStart_add_le (List.fst_mem_of_mem_zipIdx hgroup) cols group)

/-! ## Groups -/

/-- The labels of a group come behind those of the groups before it. -/
theorem starts_split {before after : List Nat} (h : f.groups = before ++ size :: after)
    (cols : Nat) : ∃ starts starts', f.starts cols =
      starts ++ block (f.groupStart cols before.length size) size (f.slot cols) ++ starts' ∧
      starts.length = before.sum ∧ (after = [] → starts' = []) := by
  rw [starts_eq, h, List.zipIdx_append, List.zipIdx_cons, List.flatMap_append, List.flatMap_cons,
    Nat.zero_add, ← List.append_assoc]
  refine ⟨_, _, rfl, ?_, fun hnil => by rw [hnil]; rfl⟩
  rw [List.length_flatMap]
  simp [block]

theorem getElem?_block {i : Nat} (h : i < size) (first slot : Nat) :
    (block first size slot)[i]? = some (first + i * slot) := by
  simp [block, h]

/-- Where the labels of a group stand. -/
theorem getElem?_starts {group i : Nat} (hgroup : f.groups[group]? = some size) (hi : i < size)
    (cols : Nat) : (f.starts cols)[(f.groups.take group).sum + i]? =
      some (f.groupStart cols group size + i * f.slot cols) := by
  obtain ⟨hlt, hsize⟩ := List.getElem?_eq_some_iff.mp hgroup
  have hsplit : f.groups = f.groups.take group ++ size :: f.groups.drop (group + 1) := by
    rw [← hsize, List.getElem_cons_drop, List.take_append_drop]
  obtain ⟨starts, starts', hstarts, hlength, -⟩ := starts_split hsplit cols
  rw [List.length_take, Nat.min_eq_left (by omega)] at hstarts
  have hblock : i < (block (f.groupStart cols group size) size (f.slot cols)).length := by
    simpa [block] using hi
  rw [hstarts, ← hlength, List.append_assoc, List.getElem?_append_right (by omega),
    Nat.add_sub_cancel_left, List.getElem?_append_left hblock, getElem?_block hi]

/-- The first label stands at the left edge. -/
theorem head?_starts (f : LabelFormat) (cols : Nat) : (f.starts cols).head? = some 0 := by
  have hfirst : ∃ size, f.groups[0]? = some size ∧ 0 < size := by
    cases f <;> exact ⟨_, rfl, by decide⟩
  obtain ⟨size, hgroup, hsize⟩ := hfirst
  have hstart := getElem?_starts hgroup hsize cols
  rw [List.head?_eq_getElem?]
  simpa [groupStart] using hstart

/-- The last group is not the first one, and no label is behind it. -/
theorem exists_last_group (f : LabelFormat) : ∃ group size, f.groups[group]? = some size ∧
    0 < size ∧ group ≠ 0 ∧ group = f.groups.length - 1 ∧
      (f.groups.take group).sum + size = f.labelCount := by
  cases f
  case threeTwoThree => exact ⟨2, 3, by decide⟩
  case fourFour => exact ⟨1, 4, by decide⟩
  case fiveFive => exact ⟨1, 5, by decide⟩
  all_goals exact ⟨2, 4, by decide⟩

/-- The last slot ends at the right edge. -/
theorem getLast?_starts (f : LabelFormat) (cols : Nat) :
    ∃ start, (f.starts cols).getLast? = some start ∧ start + f.slot cols = cols := by
  obtain ⟨group, size, hgroup, hsize, hnotFirst, hlast, hcount⟩ := f.exists_last_group
  have hstart := getElem?_starts hgroup (Nat.sub_lt hsize Nat.one_pos) cols
  have hend := groupStart_add_le (List.mem_of_getElem? hgroup) cols group
  have hspan : size * f.slot cols = (size - 1) * f.slot cols + f.slot cols := by
    rw [← Nat.succ_mul, Nat.succ_eq_add_one, Nat.sub_add_cancel hsize]
  have hindex : (f.starts cols).length - 1 = (f.groups.take group).sum + (size - 1) := by
    rw [length_starts]
    omega
  rw [List.getLast?_eq_getElem?, hindex, hstart]
  refine ⟨_, rfl, ?_⟩
  simp only [groupStart, hnotFirst, if_false, if_pos hlast, Nat.mul_comm (f.slot cols)] at hend ⊢
  omega

/-- Of three groups the second one is in the middle. -/
theorem exists_middle_group (f : LabelFormat) (h : f.groups.length = 3) :
    ∃ size, f.groups[1]? = some size ∧ 0 < size := by
  cases f
  case fourFour | fiveFive => exact absurd h (by decide)
  all_goals exact ⟨_, rfl, by decide⟩

/-- A group in the middle has the same margin on both sides, but for an odd column. -/
theorem margins_of_middle (h : f.groups.length = 3) (hgroup : f.groups[1]? = some size)
    (cols : Nat) : ∃ right, f.groupStart cols 1 size + size * f.slot cols + right = cols ∧
      f.groupStart cols 1 size ≤ right ∧ right ≤ f.groupStart cols 1 size + 1 := by
  have hend := groupStart_add_le (List.mem_of_getElem? hgroup) cols 1
  refine ⟨cols - (f.groupStart cols 1 size + size * f.slot cols), by omega, ?_⟩
  simp only [groupStart, h, Nat.one_ne_zero, if_false, show ¬ 1 = 3 - 1 by decide,
    Nat.mul_comm (f.slot cols)] at hend ⊢
  omega

/-! ## Counting in words -/

/-- `LabelFormat.slot` in words of 16 bits. -/
def slotInWords (f : LabelFormat) (cols : Nat) : Option Nat :=
  (quotient? cols (narrow 16 f.labelCount)).map fun columns => min columns 31

/-- The columns of the labels of a group in words of 16 bits. -/
def groupInWords (f : LabelFormat) (cols group size : Nat) : Option (List Nat) := do
  let slot ← f.slotInWords cols
  let span ← product? 16 slot size
  let last ← difference? f.groups.length 1
  let margin := cols - span
  let start := if group = 0 then 0 else if group = last then margin else margin / 2
  (List.range size).mapM fun i => do sum? 16 start (← product? 16 i slot)

/-- `LabelFormat.starts` in words of 16 bits. -/
def startsInWords (f : LabelFormat) (cols : Nat) : Option (List Nat) := do
  let groups ← f.groups.zipIdx.mapM fun (size, group) => f.groupInWords cols group size
  return groups.flatten

theorem slotInWords_eq (f : LabelFormat) (cols : Nat) :
    f.slotInWords cols = some (f.slot cols) := by
  have hcount : narrow 16 f.labelCount = f.labelCount :=
    narrow_eq (by cases f <;> decide)
  rw [slotInWords, hcount, quotient?_eq (Nat.ne_of_gt f.labelCount_pos)]
  rfl

theorem groupInWords_eq (h : size ∈ f.groups) (hcols : cols < 2 ^ 16) (group : Nat) :
    f.groupInWords cols group size =
      some (block (f.groupStart cols group size) size (f.slot cols)) := by
  have hend := groupStart_add_le h cols group
  have hspan : product? 16 (f.slot cols) size = some (f.slot cols * size) :=
    product?_eq (by rw [Nat.mul_comm]; omega)
  have hlast : difference? f.groups.length 1 = some (f.groups.length - 1) :=
    difference?_eq (by cases f <;> decide)
  simp only [groupInWords, slotInWords_eq, hspan, hlast, Option.bind_eq_bind, Option.bind_some]
  refine mapM_eq_some fun i hi => ?_
  have hslots : i * f.slot cols ≤ size * f.slot cols :=
    Nat.mul_le_mul_right _ (Nat.le_of_lt (List.mem_range.mp hi))
  rw [product?_eq (by omega), Option.bind_some]
  exact sum?_eq (by change f.groupStart cols group size + _ < _; omega)

/-- **No step of spreading the labels leaves its word.** -/
theorem startsInWords_eq (f : LabelFormat) (hcols : cols < 2 ^ 16) :
    f.startsInWords cols = some (f.starts cols) := by
  have hgroups := mapM_eq_some (l := f.groups.zipIdx)
    (g := fun (size, group) => f.groupInWords cols group size)
    fun _ hgroup => groupInWords_eq (List.fst_mem_of_mem_zipIdx hgroup) hcols _
  rw [startsInWords, hgroups, starts_eq, List.flatMap_def]
  rfl

end LabelFormat

namespace SoftLabels

variable {s : SoftLabels} {format : LabelFormat} {cols : Nat}

/-- `layOut` in words of 16 bits, without a result if there is no label for some column. -/
def layOutInWords (s : SoftLabels) (cols : Nat) : Option SoftLabels :=
  match s.format with
  | none => some s
  | some format => do
    let slot ← format.slotInWords cols
    let starts ← format.startsInWords cols
    if s.labels.size < starts.length then none
    else return { s with
      labels := s.labels.mapIdx fun i label => { label with start := starts.getD i 0 }
      width := min (slot - 1) 8 }

theorem layOutInWords_eq (h : s.Complete) (hcols : cols < 2 ^ 16) :
    s.layOutInWords cols = some (s.layOut cols) := by
  unfold layOutInWords layOut
  cases hformat : s.format with
  | none => rfl
  | some format =>
    have hsize := h format hformat
    simp only [format.slotInWords_eq, format.startsInWords_eq hcols, Option.bind_eq_bind,
      Option.bind_some, LabelFormat.length_starts, hsize, Nat.lt_irrefl, if_false]
    rfl

/-- The labels are spread over a strip of so many columns. -/
structure Spread (s : SoftLabels) (format : LabelFormat) (cols : Nat) : Prop where
  count : s.starts.length = format.labelCount
  width : (s.width : Int) = min 8 (max 0 (min (cols / format.labelCount) 31 - 1))
  shown : 0 < s.width ↔ 2 * format.labelCount ≤ cols
  /-- Between the texts of two labels there is a column that neither has. -/
  apart : 0 < s.width → s.starts.Pairwise fun start next => start + s.width + 1 ≤ next
  inside : ∀ start ∈ s.starts, start + s.width ≤ cols
  first : s.starts.head? = some 0
  last : ∃ start, s.starts.getLast? = some start ∧ start + format.slot cols = cols
  even : ∀ group size, format.groups[group]? = some size → ∃ first, ∀ i < size,
    s.starts[(format.groups.take group).sum + i]? = some (first + i * format.slot cols)
  centred : format.groups.length = 3 → ∃ size left right, format.groups[1]? = some size ∧
    s.starts[(format.groups.take 1).sum]? = some left ∧
      left + size * format.slot cols + right = cols ∧ left ≤ right ∧ right ≤ left + 1

theorem FitsColumns.spread (h : s.FitsColumns cols) (hformat : s.format = some format) :
    s.Spread format cols := by
  obtain ⟨hstarts, hwidth⟩ := h format hformat
  have hslot : format.slot cols = min (cols / format.labelCount) 31 := rfl
  rw [LabelFormat.textWidth] at hwidth
  constructor
  case count => rw [hstarts, format.length_starts]
  case width => omega
  case shown =>
    have hfits : 2 ≤ cols / format.labelCount ↔ 2 * format.labelCount ≤ cols :=
      Nat.le_div_iff_mul_le format.labelCount_pos
    omega
  case apart =>
    intro hshown
    rw [hstarts]
    exact (format.pairwise_starts cols).imp fun h => by omega
  case inside =>
    intro start hstart
    have hend := LabelFormat.add_slot_le_of_mem_starts (hstarts ▸ hstart)
    omega
  case first => rw [hstarts, format.head?_starts]
  case last =>
    rw [hstarts]
    exact format.getLast?_starts cols
  case even =>
    intro group size hgroup
    rw [hstarts]
    exact ⟨_, fun i hi => LabelFormat.getElem?_starts hgroup hi cols⟩
  case centred =>
    intro hthree
    obtain ⟨size, hmiddle, hsize⟩ := format.exists_middle_group hthree
    obtain ⟨right, hright⟩ := LabelFormat.margins_of_middle hthree hmiddle cols
    refine ⟨size, _, right, hmiddle, ?_, hright⟩
    rw [hstarts]
    simpa using LabelFormat.getElem?_starts hmiddle hsize cols

theorem Spread.start_lt {label label' : Label} {i j : Nat} (h : s.Spread format cols)
    (hshown : 0 < s.width) (hij : i < j) (hi : s.labels[i]? = some label)
    (hj : s.labels[j]? = some label') : label.start + s.width < label'.start := by
  have hstarts := h.apart hshown
  rw [starts, List.pairwise_map, List.pairwise_iff_getElem] at hstarts
  obtain ⟨hi', rfl⟩ := Array.getElem?_eq_some_iff.mp hi
  obtain ⟨hj', rfl⟩ := Array.getElem?_eq_some_iff.mp hj
  exact hstarts i j hi' hj' hij

theorem spread_layOut (hformat : s.format = some format)
    (hcount : s.labels.size = format.labelCount) (cols : Nat) :
    (s.layOut cols).Spread format cols :=
  (fitsColumns_layOut (complete_of_size hformat hcount) cols).spread
    ((s.format_layOut cols).trans hformat)

/-- **Labels never collide**, on a strip of any width, and laying them out stays within 16 bits. -/
theorem labels_apart (hformat : s.format = some format)
    (hcount : s.labels.size = format.labelCount) (hcols : cols < 2 ^ 16) :
    s.layOutInWords cols = some (s.layOut cols) ∧ (s.layOut cols).Spread format cols :=
  ⟨layOutInWords_eq (complete_of_size hformat hcount) hcols, spread_layOut hformat hcount cols⟩

/-- Eight labels without texts in three groups. -/
def unlabelled : SoftLabels where
  format := some .threeTwoThree
  labels := Array.replicate 8 {}

/-- Of an odd number of free columns the group in the middle has one more on its right. -/
theorem labels_apart_unlabelled : unlabelled.format = some .threeTwoThree ∧
    unlabelled.labels.size = LabelFormat.threeTwoThree.labelCount ∧ 101 < 2 ^ 16 ∧
      unlabelled.layOutInWords 101 = some (unlabelled.layOut 101) ∧
        (unlabelled.layOut 101).Spread .threeTwoThree 101 ∧
          (unlabelled.layOut 101).starts = [0, 12, 24, 38, 50, 65, 77, 89] := by
  have hcols : 101 < 2 ^ 16 := by decide
  have hapart := labels_apart (s := unlabelled) rfl rfl hcols
  exact ⟨rfl, rfl, hcols, hapart.1, hapart.2, by decide⟩

end SoftLabels

end TerminalSession
