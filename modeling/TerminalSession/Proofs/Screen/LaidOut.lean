import Mathlib.Data.List.Forall2
import TerminalSession.Proofs.Screen.Rearranging

/-!
# Windows laid out

`WindowSet.LaidOut` says that the windows of a session have the places and sizes of a layout. Newly
made windows are laid out, and a rearrangement that succeeds lays windows out anew. For the second,
each window is the target of one block of the rearrangement, and the other blocks spare it.
-/

namespace TerminalSession

/-! ## Places and sizes after changes -/

namespace Buffers

variable {b : Buffers} {id : WindowId} {es es' : List (WindowId × Edit)} {area : Rect}

/-- What changes make of the place and size of one window. -/
def reshaped (id : WindowId) (es : List (WindowId × Edit)) (area : Rect) : Rect :=
  (addressed id es).foldl Rect.edit area

/-- Changes that give one window neither another size nor another place. -/
def Spares (id : WindowId) (es : List (WindowId × Edit)) : Prop :=
  ∀ p ∈ es, p.1 = id → p.2.isPlacing = false

theorem geometry?_changeAll (b : Buffers) (es : List (WindowId × Edit)) (id : WindowId) :
    geometry? (b.changeAll es) id = (b.geometry? id).map (reshaped id es) := by
  unfold geometry?
  rw [window?_changeAll, Option.map_map, Option.map_map]
  congr 1
  funext w
  exact w.area_edits _

theorem reshaped_append (id : WindowId) (es es' : List (WindowId × Edit)) (area : Rect) :
    reshaped id (es ++ es') area = reshaped id es' (reshaped id es area) := by
  rw [reshaped, addressed, List.filterMap_append, List.foldl_append]
  rfl

theorem Spares.reshaped (h : Spares id es) (area : Rect) : reshaped id es area = area := by
  induction es with
  | nil => rfl
  | cons p es ih =>
    have hrest : Spares id es := fun q hq => h q (.tail _ hq)
    by_cases hp : p.1 = id
    · have haddressed : addressed id (p :: es) = p.2 :: addressed id es :=
        List.filterMap_cons_some (if_pos hp)
      rw [Buffers.reshaped, haddressed, List.foldl_cons,
        Rect.edit_of_not_isPlacing (h p (.head _) hp)]
      exact ih hrest
    · have haddressed : addressed id (p :: es) = addressed id es :=
        List.filterMap_cons_none (if_neg hp)
      rw [Buffers.reshaped, haddressed]
      exact ih hrest

theorem Spares.append (h : Spares id es) (h' : Spares id es') : Spares id (es ++ es') := by
  intro p hp
  rcases List.mem_append.mp hp with hp | hp
  · exact h p hp
  · exact h' p hp

theorem Spares.of_not_isPlacing (h : ∀ p ∈ es, p.2.isPlacing = false) : Spares id es :=
  fun p hp _ => h p hp

theorem geometry?_changeAll_of_not_isPlacing (h : ∀ p ∈ es, p.2.isPlacing = false) (id : WindowId) :
    geometry? (b.changeAll es) id = b.geometry? id := by
  rw [geometry?_changeAll, funext (Spares.of_not_isPlacing h).reshaped]
  exact Option.map_id'

theorem Spares.placing {id' : WindowId} (h : id ≠ id') : Spares id (placing id' area) := by
  intro p hp hid
  simp only [TerminalSession.placing, List.mem_cons, List.not_mem_nil, or_false] at hp
  rcases hp with rfl | rfl <;> exact absurd hid.symm h

theorem reshaped_placing (id : WindowId) (area area' : Rect) :
    reshaped id (placing id area) area' = area := by
  simp [reshaped, addressed, TerminalSession.placing, Rect.edit]

/-- A window that is placed in between, and spared before and after, has its place. -/
theorem reshaped_of_placing (h : Spares id es') (area' : Rect) :
    reshaped id (es ++ (placing id area ++ es')) area' = area := by
  rw [reshaped_append, reshaped_append, reshaped_placing, h.reshaped]

theorem geometry?_addAll_of_lt {ws : List Window} {i : Nat} (h : i < ws.length) :
    geometry? (b.addAll ws) (b.slots.size + i) = (ws.map Window.area)[i]? := by
  unfold geometry?
  rw [window?_addAll_of_lt h, List.getElem?_map, List.getElem?_eq_getElem h]

end Buffers

/-! ## Laid out -/

namespace WindowSet

variable {windows : WindowSet} {l l' : Layout} {b b' : Buffers}

/-- The windows of a session have the places and sizes that a layout gives them. -/
structure LaidOut (windows : WindowSet) (l : Layout) (b : Buffers) : Prop where
  physical : b.geometry? windows.physical = some ⟨0, 0, l.terminalRows, l.terminalCols⟩
  snapshot : b.geometry? windows.snapshot = some ⟨0, 0, l.terminalRows, l.terminalCols⟩
  display : b.geometry? windows.display = some ⟨l.displayTop, 0, l.usableRows, l.usableCols⟩
  reserved : List.Forall₂ (fun window line => window.side = line.side ∧
    b.geometry? window.window = some ⟨line.row, 0, 1, l.terminalCols⟩) windows.reserved l.reserved
  strip : windows.strip.map b.geometry? =
    l.stripTop.map fun top => some ⟨top, 0, l.strip.rows, l.terminalCols⟩

theorem mem_all {id : WindowId} : id ∈ windows.all ↔ id ∈ windows.strip ∨
    (∃ w ∈ windows.reserved, w.window = id) ∨ id = windows.display ∨ id = windows.physical ∨
      id = windows.snapshot := by
  simp [all]

theorem LaidOut.congr (h : windows.LaidOut l b)
    (hsame : ∀ id ∈ windows.all, b'.geometry? id = b.geometry? id) : windows.LaidOut l b' := by
  refine ⟨?_, ?_, ?_, ?_, ?_⟩
  · rw [hsame _ (mem_all.mpr (by simp)), h.physical]
  · rw [hsame _ (mem_all.mpr (by simp)), h.snapshot]
  · rw [hsame _ (mem_all.mpr (by simp)), h.display]
  · obtain ⟨hlength, hlines⟩ := List.forall₂_iff_zip.mp h.reserved
    refine List.forall₂_iff_zip.mpr ⟨hlength, fun {w line} hw => ?_⟩
    obtain ⟨hside, hgeometry⟩ := hlines hw
    refine ⟨hside, ?_⟩
    rw [hsame _ (mem_all.mpr (.inr (.inl ⟨w, (List.of_mem_zip hw).1, rfl⟩))), hgeometry]
  · rw [← h.strip]
    refine Option.map_congr fun id hid => hsame id (mem_all.mpr (.inl hid))

theorem LaidOut.map_reserved (h : windows.LaidOut l b) :
    (windows.reserved.map ReservedWindow.window).map b.geometry? =
      (l.reserved.map l.lineArea).map some := by
  rw [List.map_map, List.map_map]
  exact List.forall₂_eq_eq_eq ▸ List.forall₂_map_left_iff.mpr
    (List.forall₂_map_right_iff.mpr (h.reserved.imp fun _ _ hline => hline.2))

theorem LaidOut.map_strip (h : windows.LaidOut l b) :
    windows.strip.toList.map b.geometry? = l.stripArea?.toList.map some := by
  have hareas := h.strip
  rw [Layout.stripArea?]
  cases hid : windows.strip <;> cases htop : l.stripTop <;> rw [hid, htop] at hareas <;> simp_all

/-- The windows that are seen have the areas that are seen, in the order in which they are painted. -/
theorem LaidOut.map_visible (h : windows.LaidOut l b) :
    windows.visible.map b.geometry? = l.visibleAreas.map some := by
  rw [visible, Layout.visibleAreas, List.map_append, List.map_append, List.map_append,
    List.map_append, h.map_reserved, h.map_strip]
  simp [h.display, Layout.displayArea]

/-- The windows that are seen cover each cell of the terminal once, and nothing outside it. -/
theorem LaidOut.countP_visible {rows cols : Nat} {sides : List Side} {strip : StripPlacement}
    (h : windows.LaidOut l b) (hl : Layout.allocate rows cols sides strip = .ok l) (row col : Nat) :
    windows.visible.countP (fun id => (b.geometry? id).any fun area => area.Covers row col) =
      if row < l.terminalRows ∧ col < l.terminalCols then 1 else 0 := by
  have hmap (p : Option Rect → Bool) :
      windows.visible.countP (fun id => p (b.geometry? id)) =
        l.visibleAreas.countP fun area => p (some area) := by
    have hcount := congrArg (List.countP p) h.map_visible
    rw [List.countP_map, List.countP_map] at hcount
    exact hcount
  rw [← Layout.countP_visibleAreas (Layout.of_allocate hl)]
  exact hmap fun area? => area?.any fun area => area.Covers row col

/-! ## New windows -/

theorem forall₂_numberLines {p : WindowId → ReservedLine → Prop} {first : WindowId}
    {lines : List ReservedLine}
    (h : ∀ i (hi : i < lines.length), p (first + i) lines[i]) :
    List.Forall₂ (fun window line => window.side = line.side ∧ p window.window line)
      (numberLines first lines) lines := by
  induction lines generalizing first with
  | nil => exact .nil
  | cons line lines ih =>
    refine .cons ⟨rfl, h 0 (Nat.zero_lt_succ _)⟩ (ih fun i hi => ?_)
    have hnext := h (i + 1) (Nat.succ_lt_succ hi)
    rw [Nat.add_right_comm]
    exact hnext

/-- Windows made for all areas of a layout are laid out. -/
theorem laidOut_addAll {ws : List Window} (hws : ws.map Window.area = l.areas) :
    (l.numbered b.slots.size).LaidOut l (b.addAll ws) := by
  have hgeometry {i : Nat} {area : Rect} (hi : l.areas[i]? = some area) :
      Buffers.geometry? (b.addAll ws) (b.slots.size + i) = some area := by
    rw [Buffers.geometry?_addAll_of_lt, hws, hi]
    have hlt := (List.getElem?_eq_some_iff.mp hi).1
    rwa [← hws, List.length_map] at hlt
  have hline {i : Nat} (hi : i < l.reserved.length) :
      l.areas[2 + l.stripArea?.toList.length + i]? = some (l.lineArea l.reserved[i]) := by
    have hareas : l.areas = ([l.screenArea, l.screenArea] ++ l.stripArea?.toList) ++
        (l.reserved.map l.lineArea ++ [l.displayArea]) := by simp [Layout.areas]
    have hlength : ([l.screenArea, l.screenArea] ++ l.stripArea?.toList).length =
        2 + l.stripArea?.toList.length := List.length_append
    rw [hareas, ← hlength, List.getElem?_append_right (Nat.le_add_right ..),
      Nat.add_sub_cancel_left, List.getElem?_append_left (by simpa using hi), List.getElem?_map,
      List.getElem?_eq_getElem hi, Option.map_some]
  have hdisplay : l.areas[2 + l.stripArea?.toList.length + l.reserved.length]? =
      some l.displayArea := by
    have hareas : l.areas = ([l.screenArea, l.screenArea] ++ l.stripArea?.toList ++
        l.reserved.map l.lineArea) ++ [l.displayArea] := by simp [Layout.areas]
    have hlength : ([l.screenArea, l.screenArea] ++ l.stripArea?.toList ++
        l.reserved.map l.lineArea).length = 2 + l.stripArea?.toList.length + l.reserved.length := by
      rw [List.length_append, List.length_append, List.length_map]
      rfl
    rw [hareas, ← hlength, List.getElem?_concat_length]
  refine ⟨hgeometry (i := 0) rfl, hgeometry (i := 1) rfl, hgeometry hdisplay, ?_, ?_⟩
  · refine forall₂_numberLines (p := fun id line =>
      Buffers.geometry? (b.addAll ws) id = some ⟨line.row, 0, 1, l.terminalCols⟩) fun i hi => ?_
    rw [Nat.add_assoc]
    exact hgeometry (hline hi)
  · have hthird (top : Nat) (htop : l.stripTop = some top) :
        l.areas[2]? = some ⟨top, 0, l.strip.rows, l.terminalCols⟩ := by
      simp [Layout.areas, Layout.stripArea?, htop]
    simp only [Layout.numbered, Layout.stripArea?, Option.map_map]
    refine Option.map_congr fun top htop => hgeometry (hthird top htop)

/-! ## Rearranged windows -/

/-- The ids of a session's windows are all different. -/
structure Distinct (windows : WindowSet) : Prop where
  strip : ∀ id ∈ windows.strip, (∀ w ∈ windows.reserved, id ≠ w.window) ∧ id ≠ windows.display ∧
    id ≠ windows.physical ∧ id ≠ windows.snapshot
  reserved : (windows.reserved.map ReservedWindow.window).Nodup
  line : ∀ w ∈ windows.reserved, w.window ≠ windows.display ∧ w.window ≠ windows.physical ∧
    w.window ≠ windows.snapshot
  display : windows.display ≠ windows.physical ∧ windows.display ≠ windows.snapshot
  physical : windows.physical ≠ windows.snapshot

theorem distinct_of_nodup (h : windows.all.Nodup) : windows.Distinct := by
  rw [all, List.append_assoc, List.nodup_append] at h
  obtain ⟨-, h, hstrip⟩ := h
  rw [List.nodup_append] at h
  obtain ⟨hreserved, h, hlines⟩ := h
  simp only [List.nodup_cons, List.mem_cons, List.not_mem_nil, or_false, not_or, List.nodup_nil,
    and_true, not_false_eq_true] at h
  refine ⟨fun id hid => ?_, hreserved, fun w hw => ?_, h.1, h.2⟩
  · have hid : id ∈ windows.strip.toList := by simpa using hid
    refine ⟨fun w hw => hstrip id hid _ (by simp; exact .inl ⟨w, hw, rfl⟩), ?_, ?_, ?_⟩ <;>
      exact hstrip id hid _ (by simp)
  · have hw : w.window ∈ windows.reserved.map ReservedWindow.window := List.mem_map_of_mem hw
    exact ⟨hlines _ hw _ (by simp), hlines _ hw _ (by simp), hlines _ hw _ (by simp)⟩

theorem spares_flatMap_placing {id : WindowId} {lines : List (ReservedWindow × ReservedLine)}
    (h : ∀ p ∈ lines, id ≠ p.1.window) :
    Buffers.Spares id (lines.flatMap fun p => placing p.1.window (l.lineArea p.2)) := by
  intro q hq
  obtain ⟨p, hp, hq⟩ := List.mem_flatMap.mp hq
  exact Buffers.Spares.placing (h p hp) q hq

theorem spares_rearrangingLines {id : WindowId} (h : ∀ w ∈ windows.reserved, id ≠ w.window) :
    Buffers.Spares id (windows.rearrangingLines l) :=
  spares_flatMap_placing fun p hp => h p.1 (List.of_mem_zip hp).1

theorem spares_rearrangingStrip {id : WindowId} (labels : SoftLabels) (h : id ∉ windows.strip) :
    Buffers.Spares id (windows.rearrangingStrip l labels) := by
  unfold rearrangingStrip
  split
  · exact .of_not_isPlacing (List.forall_mem_nil _)
  · rename_i id' area hplace
    have hid' : id ≠ id' := by
      rintro rfl
      exact h (of_stripPlace? hplace).1
    exact (Buffers.Spares.placing hid').append
      (.of_not_isPlacing fun p => SoftLabels.not_isPlacing_of_mem_redrawn)

theorem spares_refreshing (windows : WindowSet) (id : WindowId) :
    Buffers.Spares id windows.refreshing :=
  .of_not_isPlacing (by simp [refreshing, Edit.isPlacing])

/-- The lines that are given their places are lines of the session. -/
theorem map_window_zip_sublist (windows : WindowSet) (l : Layout) :
    ((windows.reserved.zip l.reserved).map fun p => p.1.window).Sublist
      (windows.reserved.map ReservedWindow.window) := by
  have hprefix : (windows.reserved.zip l.reserved).map Prod.fst =
      windows.reserved.take (min windows.reserved.length l.reserved.length) := by
    rw [List.zip_eq_zip_take_min, List.map_fst_zip]
    simp
  have hmap : (windows.reserved.zip l.reserved).map (fun p => p.1.window) =
      ((windows.reserved.zip l.reserved).map Prod.fst).map ReservedWindow.window := by
    rw [List.map_map]
    rfl
  rw [hmap, hprefix]
  exact (List.take_sublist ..).map _

theorem reshaped_line (h : windows.Distinct) {w : ReservedWindow} {line : ReservedLine}
    (hw : (w, line) ∈ windows.reserved.zip l.reserved) {labels : SoftLabels} {area : Rect} :
    Buffers.reshaped w.window (windows.rearrangement l labels) area = l.lineArea line := by
  obtain ⟨before, after, hzip⟩ := List.append_of_mem hw
  have hnodup := h.reserved.sublist (map_window_zip_sublist windows l)
  rw [hzip, List.map_append, List.map_cons, List.nodup_append, List.nodup_cons] at hnodup
  have hafter : ∀ p ∈ after, w.window ≠ p.1.window := fun p hp heq =>
    hnodup.2.1.1 (heq ▸ List.mem_map_of_mem (f := fun p => p.1.window) hp)
  have hsplit : windows.rearrangement l labels =
      (windows.rearrangingDisplay l ++ (windows.rearrangingStrip l labels ++
        before.flatMap fun p => placing p.1.window (l.lineArea p.2))) ++
      (placing w.window (l.lineArea line) ++
        ((after.flatMap fun p => placing p.1.window (l.lineArea p.2)) ++ windows.refreshing)) := by
    simp only [rearrangement, rearrangingLines, hzip, List.flatMap_append, List.flatMap_cons,
      List.append_assoc]
  rw [hsplit]
  exact Buffers.reshaped_of_placing
    ((spares_flatMap_placing hafter).append (spares_refreshing windows _)) area

theorem reshaped_strip (h : windows.Distinct) {id : WindowId} (hid : windows.strip = some id)
    {top : Nat} (htop : l.stripTop = some top) {labels : SoftLabels} {area : Rect} :
    Buffers.reshaped id (windows.rearrangement l labels) area =
      ⟨top, 0, l.strip.rows, l.terminalCols⟩ := by
  have hplace : windows.stripPlace? l = some (id, ⟨top, 0, l.strip.rows, l.terminalCols⟩) := by
    simp [stripPlace?, Layout.stripArea?, hid, htop]
  have hredrawn : Buffers.Spares id (labels.layOut l.terminalCols).redrawn :=
    .of_not_isPlacing fun p => SoftLabels.not_isPlacing_of_mem_redrawn
  have hrest : Buffers.Spares id (windows.rearrangingLines l ++ windows.refreshing) :=
    (spares_rearrangingLines (h.strip id hid).1).append (spares_refreshing windows id)
  rw [rearrangement, rearrangingStrip, hplace, List.append_assoc]
  exact Buffers.reshaped_of_placing (hredrawn.append hrest) area

theorem LaidOut.reserved_rearranged (h : windows.LaidOut l b) (hdistinct : windows.Distinct)
    (labels : SoftLabels) (hsides : l'.sides = l.sides) :
    List.Forall₂ (fun window line => window.side = line.side ∧
      Buffers.geometry? (b.changeAll (windows.rearrangement l' labels)) window.window =
        some ⟨line.row, 0, 1, l'.terminalCols⟩) windows.reserved l'.reserved := by
  obtain ⟨hlength, hlines⟩ := List.forall₂_iff_zip.mp h.reserved
  have hlength' : l'.reserved.length = l.reserved.length := by
    simpa [Layout.sides] using congrArg List.length hsides
  refine List.forall₂_iff_zip.mpr ⟨hlength.trans hlength'.symm, fun {w line} hw => ?_⟩
  obtain ⟨i, hi, hw'⟩ := List.mem_iff_getElem.mp hw
  rw [List.getElem_zip, Prod.mk.injEq] at hw'
  obtain ⟨rfl, rfl⟩ := hw'
  have hi₁ : i < windows.reserved.length := by simp at hi; omega
  have hi₂ : i < l.reserved.length := by simp at hi; omega
  have hold := hlines (List.mem_iff_getElem.mpr ⟨i, by simp; omega, List.getElem_zip⟩ :
    (windows.reserved[i], l.reserved[i]) ∈ windows.reserved.zip l.reserved)
  have hside : l'.reserved[i].side = l.reserved[i].side := by
    have hmap := congrArg (·[i]?) hsides
    simpa [Layout.sides, hlength' ▸ hi₂, hi₂] using hmap
  refine ⟨hold.1.trans hside.symm, ?_⟩
  rw [Buffers.geometry?_changeAll, hold.2, Option.map_some, reshaped_line hdistinct hw]
  rfl

theorem LaidOut.strip_rearranged (h : windows.LaidOut l b) (hdistinct : windows.Distinct)
    (labels : SoftLabels) (hstrip : l'.stripTop.isSome = l.stripTop.isSome) :
    (windows.strip.map fun id =>
      Buffers.geometry? (b.changeAll (windows.rearrangement l' labels)) id) =
      l'.stripTop.map fun top => some ⟨top, 0, l'.strip.rows, l'.terminalCols⟩ := by
  have hold := h.strip
  cases hid : windows.strip with
  | none =>
    rw [hid, Option.map_none, eq_comm, Option.map_eq_none_iff] at hold
    rw [hold, Option.isSome_none, Option.isSome_eq_false_iff, Option.isNone_iff_eq_none] at hstrip
    rw [hstrip]
    rfl
  | some id =>
    rw [hid, Option.map_some, eq_comm, Option.map_eq_some_iff] at hold
    obtain ⟨top, htop, harea⟩ := hold
    rw [htop, Option.isSome_some, Option.isSome_iff_exists] at hstrip
    obtain ⟨top', htop'⟩ := hstrip
    rw [htop', Option.map_some, Option.map_some, Buffers.geometry?_changeAll, ← harea,
      Option.map_some, reshaped_strip hdistinct hid htop']

/-- A rearrangement lays the windows out anew. -/
theorem LaidOut.rearranged (h : windows.LaidOut l b) (hnodup : windows.all.Nodup)
    (labels : SoftLabels) (hsides : l'.sides = l.sides)
    (hstrip : l'.stripTop.isSome = l.stripTop.isSome) :
    windows.LaidOut l' (b.changeAll (windows.rearrangement l' labels)) := by
  have hdistinct := distinct_of_nodup hnodup
  -- what comes after the display concerns neither it nor the windows for the whole terminal
  have hfirst {id : WindowId} {area : Rect} (hid : b.geometry? id = some area)
      (hstrip : id ∉ windows.strip) (hlines : ∀ w ∈ windows.reserved, id ≠ w.window) :
      Buffers.geometry? (b.changeAll (windows.rearrangement l' labels)) id =
        some (Buffers.reshaped id (windows.rearrangingDisplay l') area) := by
    have hrest := (spares_rearrangingStrip (l := l') labels hstrip).append
      ((spares_rearrangingLines (l := l') hlines).append (spares_refreshing windows id))
    rw [Buffers.geometry?_changeAll, hid, Option.map_some, rearrangement, Buffers.reshaped_append,
      hrest.reshaped]
  refine ⟨?_, ?_, ?_, h.reserved_rearranged hdistinct labels hsides,
    h.strip_rearranged hdistinct labels hstrip⟩
  · rw [hfirst h.physical (fun hid => (hdistinct.strip _ hid).2.2.1 rfl)
      fun w hw => (hdistinct.line w hw).2.1.symm]
    simp [Buffers.reshaped, Buffers.addressed, rearrangingDisplay, placing, hdistinct.display.1,
      hdistinct.physical.symm, Rect.edit]
  · rw [hfirst h.snapshot (fun hid => (hdistinct.strip _ hid).2.2.2 rfl)
      fun w hw => (hdistinct.line w hw).2.2.symm]
    simp [Buffers.reshaped, Buffers.addressed, rearrangingDisplay, placing, hdistinct.display.2,
      hdistinct.physical, Rect.edit]
  · rw [hfirst h.display (fun hid => (hdistinct.strip _ hid).2.1 rfl)
      fun w hw => (hdistinct.line w hw).1.symm]
    simp [Buffers.reshaped, Buffers.addressed, rearrangingDisplay, placing,
      hdistinct.display.1.symm, hdistinct.display.2.symm, Rect.edit, Layout.displayArea]

end WindowSet

end TerminalSession
