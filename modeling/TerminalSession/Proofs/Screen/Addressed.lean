import TerminalSession.Proofs.Screen.LaidOut

/-!
# What a rearrangement does to each window

A rearrangement is one series of edits for all windows of a session. Each window is edited as was
addressed to it, so what becomes of it is read off the few edits that are addressed to it.
-/

namespace TerminalSession

namespace Buffers

variable {id : WindowId}

theorem addressed_placing (id : WindowId) (area : Rect) :
    addressed id (placing id area) = [.resize area.rows area.cols, .move area.top area.left] := by
  simp [addressed, placing]

theorem addressed_redrawn {labels : SoftLabels} (h : labels.window = some id) :
    addressed id labels.redrawn = labels.drawn := by
  rw [SoftLabels.redrawn, h]
  exact addressed_map id _

end Buffers

namespace WindowSet

open Buffers

variable {windows : WindowSet} {l : Layout} {labels : SoftLabels} {id : WindowId}

/-! ## Blocks of a rearrangement that leave the strip out -/

theorem addressed_rearrangingLines (h : ∀ w ∈ windows.reserved, id ≠ w.window) :
    addressed id (windows.rearrangingLines l) = [] := by
  refine addressed_eq_nil fun q hq => ?_
  obtain ⟨p, hp, hq⟩ := List.mem_flatMap.mp hq
  simp only [placing, List.mem_cons, List.not_mem_nil, or_false] at hq
  rcases hq with rfl | rfl <;> exact (h p.1 (List.of_mem_zip hp).1).symm

theorem addressed_rearrangingDisplay (hdisplay : id ≠ windows.display)
    (hphysical : id ≠ windows.physical) (hsnapshot : id ≠ windows.snapshot) :
    addressed id (windows.rearrangingDisplay l) = [] := by
  simp [addressed, rearrangingDisplay, placing, hdisplay.symm, hphysical.symm, hsnapshot.symm]

theorem addressed_refreshing (hdisplay : id ≠ windows.display) (hphysical : id ≠ windows.physical)
    (hsnapshot : id ≠ windows.snapshot) : addressed id windows.refreshing = [] := by
  simp [addressed, refreshing, hdisplay.symm, hphysical.symm, hsnapshot.symm]

/-- The strip is placed and drawn again. -/
theorem addressed_strip (h : windows.Distinct) (hlabels : labels.window = windows.strip)
    {area : Rect} (hplace : windows.stripPlace? l = some (id, area)) :
    addressed id (windows.rearrangement l labels) =
      .resize area.rows area.cols :: .move area.top area.left ::
        (labels.layOut l.terminalCols).drawn := by
  have hid := (of_stripPlace? hplace).1
  obtain ⟨hlines, hdisplay, hphysical, hsnapshot⟩ := h.strip id hid
  have hwindow : (labels.layOut l.terminalCols).window = some id := by
    rw [labels.window_layOut, hlabels, hid]
  rw [rearrangement, rearrangingStrip, hplace]
  simp only [addressed_append, addressed_rearrangingDisplay hdisplay hphysical hsnapshot,
    addressed_placing, addressed_redrawn hwindow, addressed_rearrangingLines hlines,
    addressed_refreshing hdisplay hphysical hsnapshot, List.append_nil, List.nil_append]
  rfl

/-! ## What the other windows are told -/

theorem addressed_rearrangingStrip (hlabels : labels.window = windows.strip)
    (hid : id ∉ windows.strip) : addressed id (windows.rearrangingStrip l labels) = [] := by
  unfold rearrangingStrip
  split
  · rfl
  rename_i id' area hplace
  have hstrip := (of_stripPlace? hplace).1
  have hne : id' ≠ id := by
    rintro rfl
    exact hid hstrip
  refine addressed_eq_nil fun p hp => ?_
  rcases List.mem_append.mp hp with hp | hp
  · simp only [placing, List.mem_cons, List.not_mem_nil, or_false] at hp
    rcases hp with rfl | rfl <;> exact hne
  · obtain ⟨id'', hid'', hall⟩ := SoftLabels.of_redrawn_ne_nil (List.ne_nil_of_mem hp)
    rw [SoftLabels.window_layOut, hlabels, hstrip, Option.some.injEq] at hid''
    rw [hall p hp, ← hid'']
    exact hne

theorem addressed_display (h : windows.Distinct) (hlabels : labels.window = windows.strip) :
    addressed windows.display (windows.rearrangement l labels) =
      [.resize l.usableRows l.usableCols, .move l.displayTop 0, .markDirty] := by
  have hstrip : windows.display ∉ windows.strip := fun hid => (h.strip _ hid).2.1 rfl
  have hlines : ∀ w ∈ windows.reserved, windows.display ≠ w.window := fun w hw =>
    (h.line w hw).1.symm
  obtain ⟨hphysical, hsnapshot⟩ := h.display
  simp only [rearrangement, addressed_append, addressed_rearrangingStrip hlabels hstrip,
    addressed_rearrangingLines hlines]
  simp [addressed, rearrangingDisplay, refreshing, placing, hphysical.symm, hsnapshot.symm,
    Layout.displayArea]

theorem addressed_snapshot (h : windows.Distinct) (hlabels : labels.window = windows.strip) :
    addressed windows.snapshot (windows.rearrangement l labels) =
      [.resize l.terminalRows l.terminalCols, .erase] := by
  have hstrip : windows.snapshot ∉ windows.strip := fun hid => (h.strip _ hid).2.2.2 rfl
  have hlines : ∀ w ∈ windows.reserved, windows.snapshot ≠ w.window := fun w hw =>
    (h.line w hw).2.2.symm
  simp only [rearrangement, addressed_append, addressed_rearrangingStrip hlabels hstrip,
    addressed_rearrangingLines hlines]
  simp [addressed, rearrangingDisplay, refreshing, placing, h.display.2, h.physical]

/-- Each line is placed once, since no window is there twice. -/
theorem addressed_flatMap_placing {lines : List (ReservedWindow × ReservedLine)}
    (hnodup : (lines.map fun p => p.1.window).Nodup) {p : ReservedWindow × ReservedLine}
    (hp : p ∈ lines) :
    addressed p.1.window (lines.flatMap fun q => placing q.1.window (l.lineArea q.2)) =
      [.resize 1 l.terminalCols, .move p.2.row 0] := by
  induction lines with
  | nil => cases hp
  | cons q lines ih =>
    obtain ⟨hq, hnodup⟩ := List.nodup_cons.mp hnodup
    have hothers : ∀ q' ∈ lines, q'.1.window ≠ q.1.window := fun q' hq' heq =>
      hq (List.mem_map.mpr ⟨q', hq', heq⟩)
    rw [List.flatMap_cons, addressed_append]
    cases hp with
    | head =>
      have hrest : addressed p.1.window
          (lines.flatMap fun q => placing q.1.window (l.lineArea q.2)) = [] := by
        refine addressed_eq_nil fun edit hedit => ?_
        obtain ⟨q', hq', hedit⟩ := List.mem_flatMap.mp hedit
        simp only [placing, List.mem_cons, List.not_mem_nil, or_false] at hedit
        rcases hedit with rfl | rfl <;> exact hothers q' hq'
      rw [addressed_placing, hrest]
      rfl
    | tail _ hp =>
      have hfirst : addressed p.1.window (placing q.1.window (l.lineArea q.2)) = [] := by
        simp [addressed, placing, (hothers p hp).symm]
      rw [hfirst, ih hnodup hp]
      rfl

theorem addressed_line (h : windows.Distinct) (hlabels : labels.window = windows.strip)
    {w : ReservedWindow} {line : ReservedLine}
    (hw : (w, line) ∈ windows.reserved.zip l.reserved) :
    addressed w.window (windows.rearrangement l labels) =
      [.resize 1 l.terminalCols, .move line.row 0] := by
  have hmem := (List.of_mem_zip hw).1
  obtain ⟨hdisplay, hphysical, hsnapshot⟩ := h.line w hmem
  have hstrip : w.window ∉ windows.strip := fun hid => (h.strip _ hid).1 w hmem rfl
  have hnodup := h.reserved.sublist (map_window_zip_sublist windows l)
  have hline := addressed_flatMap_placing (l := l) hnodup hw
  rw [rearrangement, addressed_append, addressed_append, addressed_append,
    addressed_rearrangingDisplay hdisplay hphysical hsnapshot,
    addressed_rearrangingStrip hlabels hstrip,
    addressed_refreshing hdisplay hphysical hsnapshot, rearrangingLines, hline]
  rfl

end WindowSet

end TerminalSession
