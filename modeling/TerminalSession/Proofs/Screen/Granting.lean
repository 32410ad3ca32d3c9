import TerminalSession.Proofs.Action.Sees
import TerminalSession.Proofs.Engine.Resizing
import TerminalSession.Proofs.Screen.Fitting
import TerminalSession.Proofs.Screen.Ownership

/-!
# Which resizes are granted

A session that follows its terminal resizes its windows one after another, in the order of
`WindowSet.sizing`. That is granted exactly if each window can be paid for when its turn comes, and
for windows that fit their layout this is one comparison with the budget (`Fits` in
`resize_granted_iff`). A resize that is not granted is the end of the session.
-/

namespace TerminalSession

open TerminalSession.Action

namespace WindowSet

variable {windows : WindowSet} {l : Layout}

/-- The windows of a session in the order in which they are resized, with the cells they get. -/
def sizing (windows : WindowSet) (l : Layout) : List (WindowId × Nat) :=
  (windows.physical, l.terminalRows * l.terminalCols) ::
  (windows.display, l.usableRows * l.usableCols) ::
  (windows.snapshot, l.terminalRows * l.terminalCols) ::
    ((windows.stripPlace? l).toList.map (fun (id, area) => (id, area.rows * area.cols)) ++
      (windows.reserved.zip l.reserved).map fun (reserved, _) => (reserved.window, 1 * l.terminalCols))

theorem sizings_rearrangement (windows : WindowSet) (l : Layout) (labels : SoftLabels) :
    Buffers.sizings (windows.rearrangement l labels) = windows.sizing l := by
  have hstrip : Buffers.sizings (windows.rearrangingStrip l labels) =
      (windows.stripPlace? l).toList.map fun (id, area) => (id, area.rows * area.cols) := by
    unfold rearrangingStrip
    cases windows.stripPlace? l with
    | none => rfl
    | some p =>
      dsimp only
      rw [Buffers.sizings_append,
        Buffers.sizings_of_not_isResize fun q => SoftLabels.not_isResize_of_mem_redrawn]
      rfl
  have hlines (lines : List (ReservedWindow × ReservedLine)) :
      Buffers.sizings (lines.flatMap fun p => placing p.1.window (l.lineArea p.2)) =
        lines.map fun (reserved, _) => (reserved.window, 1 * l.terminalCols) := by
    induction lines with
    | nil => rfl
    | cons p lines ih =>
      rw [List.flatMap_cons, Buffers.sizings_append, ih]
      rfl
  have hrefreshing : Buffers.sizings windows.refreshing = [] := rfl
  rw [rearrangement, Buffers.sizings_append, Buffers.sizings_append, Buffers.sizings_append, hstrip,
    rearrangingLines, hlines, hrefreshing, List.append_nil]
  rfl

theorem mem_all_of_mem_rearrangement {labels : SoftLabels} (hlabels : labels.window = windows.strip)
    {p : WindowId × Edit} (hp : p ∈ windows.rearrangement l labels) : p.1 ∈ windows.all := by
  simp only [rearrangement, List.mem_append] at hp
  rcases hp with hp | hp | hp | hp
  · simp only [rearrangingDisplay, placing, List.mem_cons, List.mem_append, List.not_mem_nil,
      or_false] at hp
    rcases hp with rfl | (rfl | rfl) | rfl <;> simp [mem_all]
  · unfold rearrangingStrip at hp
    split at hp
    · cases hp
    rename_i id area hplace
    have hstrip := (of_stripPlace? hplace).1
    have hid : p.1 = id := by
      rcases List.mem_append.mp hp with hp | hp
      · simp only [placing, List.mem_cons, List.not_mem_nil, or_false] at hp
        rcases hp with rfl | rfl <;> rfl
      · obtain ⟨id', hid', hall⟩ := SoftLabels.of_redrawn_ne_nil (List.ne_nil_of_mem hp)
        rw [SoftLabels.window_layOut, hlabels, hstrip, Option.some.injEq] at hid'
        rw [hall p hp, hid']
    rw [hid]
    exact mem_all.mpr (.inl hstrip)
  · obtain ⟨q, hq, hp⟩ := List.mem_flatMap.mp hp
    have hid : p.1 = q.1.window := by
      simp only [placing, List.mem_cons, List.not_mem_nil, or_false] at hp
      rcases hp with rfl | rfl <;> rfl
    rw [hid]
    exact mem_all.mpr (.inr (.inl ⟨q.1, (List.of_mem_zip hq).1, rfl⟩))
  · simp only [refreshing, List.mem_cons, List.not_mem_nil, or_false] at hp
    rcases hp with rfl | rfl | rfl | rfl <;> simp [mem_all]

/-- Each window has its turn once. -/
theorem nodup_sizing (h : windows.all.Nodup) : ((windows.sizing l).map Prod.fst).Nodup := by
  have hstrip : ((windows.stripPlace? l).toList.map Prod.fst).Sublist windows.strip.toList := by
    rw [stripPlace?]
    cases windows.strip <;> cases l.stripArea? <;> simp
  have hids : (windows.sizing l).map Prod.fst =
      [windows.physical, windows.display, windows.snapshot] ++
        ((windows.stripPlace? l).toList.map Prod.fst ++
          (windows.reserved.zip l.reserved).map fun p => p.1.window) := by
    simp [sizing, Function.comp_def]
  have hperm : ([windows.physical, windows.display, windows.snapshot] ++
      (windows.strip.toList ++ windows.reserved.map ReservedWindow.window)).Perm windows.all := by
    have hfirst : [windows.physical, windows.display, windows.snapshot].Perm
        [windows.display, windows.physical, windows.snapshot] := .swap ..
    exact List.perm_append_comm.trans (hfirst.append_left _)
  rw [hids]
  exact (hperm.nodup_iff.mpr h).sublist
    ((hstrip.append (map_window_zip_sublist windows l)).append_left _)

theorem sizing_ne_zero {rows cols : Nat} {sides : List Side} {strip : StripPlacement}
    (h : Layout.Allocated rows cols sides strip l) : ∀ p ∈ windows.sizing l, p.2 ≠ 0 := by
  have hrows : l.terminalRows ≠ 0 := by
    have hsum := h.sum
    have husable := h.usableRows
    rw [h.terminalRows]
    omega
  have hcols : l.terminalCols ≠ 0 := by
    have henough := h.enoughCols
    rw [h.terminalCols]
    omega
  have husableRows : l.usableRows ≠ 0 := by
    have husable := h.usableRows
    omega
  have husableCols : l.usableCols ≠ 0 := by rwa [h.usableCols, ← h.terminalCols]
  intro p hp
  simp only [sizing, List.mem_cons, List.mem_append, List.mem_map, Option.mem_toList] at hp
  rcases hp with rfl | rfl | rfl | ⟨⟨id, area⟩, hplace, rfl⟩ | ⟨q, hq, rfl⟩
  · exact Nat.mul_ne_zero hrows hcols
  · exact Nat.mul_ne_zero husableRows husableCols
  · exact Nat.mul_ne_zero hrows hcols
  · obtain ⟨top, htop, rfl⟩ := Option.map_eq_some_iff.mp (of_stripPlace? hplace).2
    have hsome := h.isSome_stripTop
    rw [htop, Option.isSome_some] at hsome
    rw [h.placement]
    exact Nat.mul_ne_zero (of_decide_eq_true hsome.symm) hcols
  · exact Nat.mul_ne_zero Nat.one_ne_zero hcols

variable {b : Buffers}

/-- A rearrangement is made as a whole exactly if all its sizes can be afforded. -/
theorem performing_rearrangement_ok_iff {rows cols : Nat} {sides : List Side}
    {strip : StripPlacement} {labels : SoftLabels} (hl : Layout.Allocated rows cols sides strip l)
    (hnodup : windows.all.Nodup) (hlabels : labels.window = windows.strip)
    (hlive : ∀ id ∈ windows.all, (b.window? id).isSome) :
    (exec (Buffers.performing (windows.rearrangement l labels)) b).1 = .ok () ↔
      Buffers.Affordable b.budget b.cells b.inUse (windows.sizing l) := by
  rw [← sizings_rearrangement windows l labels]
  refine Buffers.performing_ok_iff (fun p hp => hlive _ (mem_all_of_mem_rearrangement hlabels hp))
    ?_ ?_ <;> rw [sizings_rearrangement]
  · exact sizing_ne_zero hl
  · exact nodup_sizing hnodup

/-! ## Windows that fit their layout -/

/-- The cells of windows that are laid out. -/
structure Sized (windows : WindowSet) (l : Layout) (b : Buffers) : Prop where
  physical : b.cells windows.physical = l.terminalRows * l.terminalCols
  snapshot : b.cells windows.snapshot = l.terminalRows * l.terminalCols
  display : b.cells windows.display = l.usableRows * l.usableCols
  strip : ∀ id ∈ windows.strip, b.cells id = l.strip.rows * l.terminalCols
  line : ∀ w ∈ windows.reserved, b.cells w.window = 1 * l.terminalCols
  count : windows.reserved.length = l.reserved.length
  isSome_strip : windows.strip.isSome = l.stripTop.isSome

theorem LaidOut.sized (h : windows.LaidOut l b) : windows.Sized l b := by
  refine ⟨Buffers.cells_of_geometry? h.physical, Buffers.cells_of_geometry? h.snapshot,
    Buffers.cells_of_geometry? h.display, fun id hid => ?_, fun w hw => ?_,
    h.reserved.length_eq, by simpa using congrArg Option.isSome h.strip⟩
  · have hstrip := h.strip
    rw [Option.mem_def.mp hid] at hstrip
    obtain ⟨top, -, harea⟩ := Option.map_eq_some_iff.mp hstrip.symm
    exact Buffers.cells_of_geometry? harea.symm
  · have hlines : List.Forall₂ (fun w _ => b.cells w.window = 1 * l.terminalCols ∧ True)
        windows.reserved l.reserved :=
      h.reserved.imp fun w line hline => ⟨Buffers.cells_of_geometry? hline.2, trivial⟩
    exact ((List.forall₂_and_left _ _).mp hlines).1 w hw

/-- The strip and the reserved lines, each with what it has before and gets. -/
def edging (windows : WindowSet) (l : Layout) : List (WindowId × Nat) :=
  windows.strip.toList.map (·, l.strip.rows * l.terminalCols) ++
    windows.reserved.map fun w => (w.window, 1 * l.terminalCols)

theorem sizing_eq (hcount : windows.reserved.length = l.reserved.length)
    (hstrip : windows.strip.isSome = l.stripTop.isSome) :
    windows.sizing l = (windows.physical, l.terminalRows * l.terminalCols) ::
      (windows.display, l.usableRows * l.usableCols) ::
      (windows.snapshot, l.terminalRows * l.terminalCols) :: windows.edging l := by
  have hplace : (windows.stripPlace? l).toList.map (fun (id, area) => (id, area.rows * area.cols)) =
      windows.strip.toList.map (·, l.strip.rows * l.terminalCols) := by
    rw [stripPlace?, Layout.stripArea?]
    cases hid : windows.strip <;> cases htop : l.stripTop <;> simp_all
  have hlines : ((windows.reserved.zip l.reserved).map fun (reserved, _) =>
      (reserved.window, 1 * l.terminalCols)) =
      windows.reserved.map fun w => (w.window, 1 * l.terminalCols) := by
    have hfst : (windows.reserved.zip l.reserved).map Prod.fst = windows.reserved :=
      List.map_fst_zip hcount.le
    conv_rhs => rw [← hfst, List.map_map]
    rfl
  rw [sizing, hplace, hlines]
  rfl

/-- The cells of strip and lines together, before and after. -/
theorem Sized.sum_edging {rows cols rows' cols' : Nat} {sides : List Side} {strip : StripPlacement}
    {l' : Layout} (h : windows.Sized l b) (hl : Layout.Allocated rows cols sides strip l)
    (hl' : Layout.Allocated rows' cols' sides strip l') :
    ((windows.edging l').map fun p => b.cells p.1).sum = (sides.length + strip.rows) * cols ∧
      ((windows.edging l').map Prod.snd).sum = (sides.length + strip.rows) * cols' := by
  have hcount : windows.reserved.length = sides.length := h.count.trans hl.length_reserved
  -- there is a strip unless it has no rows
  have hstrip (n : Nat) :
      (windows.strip.toList.map fun _ => strip.rows * n).sum = strip.rows * n := by
    cases hid : windows.strip with
    | some id => simp
    | none =>
      have hnone := h.isSome_strip
      rw [hid, hl.isSome_stripTop] at hnone
      have hzero : strip.rows = 0 := by simpa using hnone
      simp [hzero]
  have hlines (n : Nat) : (windows.reserved.map fun _ => 1 * n).sum = sides.length * n := by
    simp [hcount]
  have hold : (windows.edging l').map (fun p => b.cells p.1) =
      (windows.strip.toList.map fun _ => strip.rows * cols) ++
        windows.reserved.map fun _ => 1 * cols := by
    rw [edging, List.map_append, List.map_map, List.map_map]
    congr 1
    · refine List.map_congr_left fun id hid => ?_
      rw [← hl.placement, ← hl.terminalCols]
      exact h.strip id (by simpa using hid)
    · refine List.map_congr_left fun w hw => ?_
      rw [← hl.terminalCols]
      exact h.line w hw
  have hnew : (windows.edging l').map Prod.snd =
      (windows.strip.toList.map fun _ => strip.rows * cols') ++
        windows.reserved.map fun _ => 1 * cols' := by
    rw [edging, List.map_append, List.map_map, List.map_map, hl'.placement, hl'.terminalCols]
    rfl
  rw [hold, hnew, List.sum_append, List.sum_append, hstrip, hstrip, hlines, hlines, Nat.add_mul,
    Nat.add_mul]
  exact ⟨Nat.add_comm .., Nat.add_comm ..⟩

section

variable {rows cols rows' cols' : Nat} {sides : List Side} {strip : StripPlacement} {l' : Layout}

/-- Whether strip and lines shrink or grow is a matter of the columns. -/
theorem Sized.edging_le (h : windows.Sized l b) (hl : Layout.Allocated rows cols sides strip l)
    (hl' : Layout.Allocated rows' cols' sides strip l') :
    (cols' ≤ cols → ∀ p ∈ windows.edging l', p.2 ≤ b.cells p.1) ∧
      (cols ≤ cols' → ∀ p ∈ windows.edging l', b.cells p.1 ≤ p.2) := by
  have hsizes : ∀ p ∈ windows.edging l', ∃ n, b.cells p.1 = n * cols ∧ p.2 = n * cols' := by
    intro p hp
    simp only [edging, List.mem_append, List.mem_map, Option.mem_toList] at hp
    rw [← hl.terminalCols, ← hl'.terminalCols]
    rcases hp with ⟨id, hid, rfl⟩ | ⟨w, hw, rfl⟩
    · refine ⟨strip.rows, ?_, ?_⟩
      · rw [← hl.placement]
        exact h.strip id hid
      · rw [hl'.placement]
    · exact ⟨1, h.line w hw, rfl⟩
  constructor
  all_goals
    intro hcols p hp
    obtain ⟨n, hold, hnew⟩ := hsizes p hp
    rw [hold, hnew]
    exact Nat.mul_le_mul_left n hcols

/-- The windows of a session have three times the cells of the terminal. -/
theorem Sized.sum_all (h : windows.Sized l b) (hl : Layout.Allocated rows cols sides strip l) :
    (windows.all.map b.cells).sum = 3 * (rows * cols) := by
  have hedging := (h.sum_edging hl hl).1
  have hrows : rows * cols = l.usableRows * cols + (sides.length + strip.rows) * cols := by
    rw [← Nat.add_mul, ← Nat.add_assoc, ← hl.sum]
  have hmap : (windows.edging l).map (fun p => b.cells p.1) =
      (windows.strip.toList ++ windows.reserved.map ReservedWindow.window).map b.cells := by
    simp [edging, Function.comp_def]
  rw [hmap] at hedging
  have hphysical := h.physical
  have hsnapshot := h.snapshot
  have hdisplay := h.display
  rw [hl.terminalRows, hl.terminalCols] at hphysical hsnapshot
  rw [hl.usableCols] at hdisplay
  rw [all, List.map_append, List.sum_append, hedging]
  simp only [List.map_cons, List.map_nil, List.sum_cons, List.sum_nil, hphysical, hsnapshot, hdisplay]
  omega

/-- Three windows first, two of them for the whole terminal, and then some that all shrink or all
grow: of the mixtures only those before and after the last of the three can be in the way. -/
theorem affordable_after_three {budget : Option Nat} {cells : WindowId → Nat}
    {steps : List (WindowId × Nat)} {u₁ u₂ u₃ screen screen' edge edge' : Nat}
    (h₁ : u₁ = 2 * screen + screen') (h₂ : u₂ + edge' = screen + 2 * screen' + edge)
    (h₃ : u₃ + edge' = 3 * screen' + edge) (hedge' : edge' ≤ screen')
    (hused : Buffers.Fits budget (3 * screen))
    (hold : (steps.map fun p => cells p.1).sum = edge) (hnew : (steps.map Prod.snd).sum = edge')
    (hsteps : (edge' ≤ edge ∧ ∀ p ∈ steps, p.2 ≤ cells p.1) ∨
      (edge ≤ edge' ∧ ∀ p ∈ steps, cells p.1 ≤ p.2)) :
    (Buffers.Fits budget u₁ ∧ Buffers.Fits budget u₂ ∧ Buffers.Fits budget u₃ ∧
      Buffers.Affordable budget cells u₃ steps) ↔
        Buffers.Fits budget (2 * screen' + max screen' screen + (edge - edge')) := by
  have hroom : (steps.map fun p => cells p.1).sum ≤ u₃ := by omega
  have hsettled := Buffers.settled_add hroom
  have hfirst (hend : Buffers.Fits budget (2 * screen' + max screen' screen + (edge - edge'))) :
      Buffers.Fits budget u₁ := by
    rcases Nat.le_total screen' screen with hscreen | hscreen
    · exact hused.mono (by omega)
    · exact hend.mono (by omega)
  rcases hsteps with ⟨hedge, hshrink⟩ | ⟨hedge, hgrow⟩
  · constructor
    · rintro ⟨-, hbefore, hlast, -⟩
      rcases Nat.le_total screen' screen with hscreen | hscreen
      · exact hbefore.mono (by omega)
      · exact hlast.mono (by omega)
    · intro hend
      have hlast : Buffers.Fits budget u₃ := hend.mono (by omega)
      exact ⟨hfirst hend, hend.mono (by omega), hlast, Buffers.affordable_of_le hlast hroom hshrink⟩
  · constructor
    · rintro ⟨-, -, hlast, hrest⟩
      have hend := (Buffers.affordable_iff_of_ge hlast hroom hgrow).mp hrest
      rcases Nat.le_total screen' screen with hscreen | hscreen
      · exact hused.mono (by omega)
      · exact hend.mono (by omega)
    · intro hend
      have hlast : Buffers.Fits budget u₃ := hend.mono (by omega)
      exact ⟨hfirst hend, hend.mono (by omega), hlast,
        (Buffers.affordable_iff_of_ge hlast hroom hgrow).mpr (hend.mono (by omega))⟩

/-- What it takes to resize the windows of a session that fit their layout. -/
theorem Sized.affordable_iff (h : windows.Sized l b)
    (hl : Layout.Allocated rows cols sides strip l)
    (hl' : Layout.Allocated rows' cols' sides strip l')
    (hused : b.inUse = (windows.all.map b.cells).sum) (hroomy : b.Roomy) :
    Buffers.Affordable b.budget b.cells b.inUse (windows.sizing l') ↔
      Buffers.Fits b.budget (2 * (rows' * cols') + max (rows' * cols') (rows * cols) +
        (sides.length + strip.rows) * (cols - cols')) := by
  have hcount : windows.reserved.length = l'.reserved.length := by
    rw [h.count, hl.length_reserved, hl'.length_reserved]
  have hstrip : windows.strip.isSome = l'.stripTop.isSome := by
    rw [h.isSome_strip, hl.isSome_stripTop, hl'.isSome_stripTop]
  have hphysical := h.physical
  have hsnapshot := h.snapshot
  have hdisplay := h.display
  rw [hl.terminalRows, hl.terminalCols] at hphysical hsnapshot
  rw [hl.usableCols] at hdisplay
  have hinUse : b.inUse = 3 * (rows * cols) := hused.trans (h.sum_all hl)
  rw [Buffers.Roomy, hinUse] at hroomy
  rw [hinUse, sizing_eq hcount hstrip, Buffers.Affordable, Buffers.Affordable, Buffers.Affordable,
    hphysical, hsnapshot, hdisplay, hl'.terminalRows, hl'.terminalCols, hl'.usableCols, Nat.mul_sub]
  have hrows : rows * cols = l.usableRows * cols + (sides.length + strip.rows) * cols := by
    rw [← Nat.add_mul, ← Nat.add_assoc, ← hl.sum]
  have hrows' : rows' * cols' = l'.usableRows * cols' + (sides.length + strip.rows) * cols' := by
    rw [← Nat.add_mul, ← Nat.add_assoc, ← hl'.sum]
  obtain ⟨hold, hnew⟩ := h.sum_edging hl hl'
  obtain ⟨hshrink, hgrow⟩ := h.edging_le hl hl'
  refine affordable_after_three ?_ ?_ ?_ (hrows' ▸ Nat.le_add_left ..) hroomy hold hnew ?_
  · omega
  · omega
  · omega
  · rcases Nat.le_total cols' cols with hcols | hcols
    · exact .inl ⟨Nat.mul_le_mul_left _ hcols, hshrink hcols⟩
    · exact .inr ⟨Nat.mul_le_mul_left _ hcols, hgrow hcols⟩

end

end WindowSet

/-! ## The run of a resize -/

namespace Screen

variable {T : Type} [Terminal T] {s t u : Screen T Buffers} {session : Session} {l : Layout}

/-- Asks the terminal for a size, unless that is 0 by 0, and finds out which it has. -/
def askSize (rows cols : Nat) : Action (Screen T Buffers) ScreenError (Nat × Nat) := do
  if rows ≠ 0 ∨ cols ≠ 0 then requestSize rows cols
  measure

theorem onTerminal_sees {ε α : Type} (x : Action T ε α) :
    Sees Screen.terminal (onTerminal x : Action (Screen T Buffers) ε α) := by
  intro s s' h
  simp only [onTerminal, exec_ofFn, h, and_self]

theorem askSize_sees (rows cols : Nat) :
    Sees Screen.terminal (askSize rows cols : Action (Screen T Buffers) ScreenError (Nat × Nat)) := by
  have hmeasure : Sees Screen.terminal
      (measure : Action (Screen T Buffers) ScreenError (Nat × Nat)) := by
    refine .bind (onTerminal_sees _) fun _ => .bind (onTerminal_sees _) fun _ => ?_
    exact .ite _ (.throw_bind _ _) (.ite _ (.throw_bind _ _) (.pure _))
  unfold askSize
  refine .ite _ (.bind ?_ fun _ => hmeasure) hmeasure
  exact .ite _ (.throw_bind _ _) (.mapError (onTerminal_sees _) _)

/-- A resize is granted if its windows are, and otherwise is the end of the session. -/
structure Decided (session : Session) (performed : Except WindowError Unit)
    (done : Except ScreenError Session × Screen T Buffers) : Prop where
  granted : performed = .ok () → ∃ session', done.1 = .ok session'
  broken : ∀ cause, performed = .error cause → done.1 = .error (.bufferAllocation cause) ∧
    done.2.phase = .suspended ∧
    done.2.session = some { session with alive := false, consistent := false }

theorem decided_follow (hlayout : exec (relayOut session) t = (.ok l, u)) :
    Decided session
      (exec (Buffers.performing (session.windows.rearrangement l u.labels)) u.engine).1
      (exec (follow session) t) := by
  obtain ⟨labels, -, hrearrange, -⟩ := exec_rearrange session.windows l u
  rw [follow, exec_bind, exec_attempt, hlayout]
  dsimp only
  rw [exec_bind, exec_attempt, hrearrange]
  rcases exec (Buffers.performing (session.windows.rearrangement l u.labels)) u.engine
    with ⟨cause | _, b⟩
  · refine ⟨nofun, fun cause h => ?_⟩
    cases h
    exact ⟨rfl, rfl, rfl⟩
  · exact ⟨fun _ => ⟨_, rfl⟩, nofun⟩

/-- What comes after the request for a size does not depend on whether there was one. -/
theorem decided_follow_session {size : Nat × Nat} (hs : s.session = some session)
    (ht : t.interior = s.interior) (hmeasure : (exec measure t).1 = .ok size)
    (hl : Layout.allocate size.1 size.2 session.layout.sides session.layout.strip = .ok l) :
    Decided session
      (exec (Buffers.performing (session.windows.rearrangement l s.labels)) s.engine).1
      (exec (do
        let some session := (← get).session | throw .noActiveSession
        follow session) t) := by
  rcases hmeasured : exec measure t with ⟨r, u⟩
  have hu : u.interior = s.interior := (interior_measure.of_exec hmeasured).trans ht
  rw [hmeasured] at hmeasure
  dsimp only at hmeasure
  subst hmeasure
  have hlayout : exec (relayOut session) t = (.ok l, u) := by
    rw [relayOut, exec_bind_ok hmeasured]
    dsimp only
    rw [hl]
    rfl
  have hfollow := decided_follow hlayout
  have hlabels : u.labels = s.labels := congrArg Interior.labels hu
  have hengine : u.engine = s.engine := congrArg Interior.engine hu
  have hsession : t.session = some session := (congrArg Interior.session ht).trans hs
  rw [hlabels, hengine] at hfollow
  rw [exec_bind_ok (exec_get t)]
  simp only [hsession]
  exact hfollow

/-- A resize to a size that can be laid out comes to what the windows come to. -/
theorem decided_resize {rows cols : Nat} {size : Nat × Nat} (hphase : s.phase = .alive)
    (hs : s.session = some session) (hsize : (exec (askSize rows cols) s).1 = .ok size)
    (hl : Layout.allocate size.1 size.2 session.layout.sides session.layout.strip = .ok l) :
    Decided session
      (exec (Buffers.performing (session.windows.rearrangement l s.labels)) s.engine).1
      (exec (resize rows cols) s) := by
  obtain ⟨s₀, hreport⟩ : ∃ s₀, exec (report (.resizing rows cols)) s = (.ok (), s₀) :=
    ⟨_, exec_report ..⟩
  have hs₀ : s₀.interior = s.interior := (interior_report _).of_exec hreport
  have hterminal : s₀.terminal = s.terminal := by
    cases hreport
    rfl
  have hphase₀ : s₀.phase = .alive := (congrArg Interior.phase hs₀).trans hphase
  have hreported := (askSize_sees rows cols s s₀ hterminal).1.trans hsize
  rw [askSize, exec_ite] at hreported
  rw [resize, exec_bind_ok hreport, exec_bind_ok (exec_get _)]
  simp only [hphase₀, bne_self_eq_false, Bool.false_eq_true, if_false]
  rw [exec_ite]
  split
  · rename_i hasked
    rw [if_pos hasked, exec_bind] at hreported
    rcases hrequest : exec (requestSize rows cols) s₀ with ⟨cause | _, t⟩
    all_goals rw [hrequest] at hreported
    · cases hreported
    · rw [exec_bind_ok hrequest]
      exact decided_follow_session hs (((interior_requestSize _ _).of_exec hrequest).trans hs₀)
        hreported hl
  · rename_i hasked
    rw [if_neg hasked] at hreported
    exact decided_follow_session hs hs₀ hreported hl

end Screen

namespace Life

/-- The application makes no windows and gives none up, and stays within the budget. -/
def keepsRoom : Rule := fun ids b b' => keepsLive ids b b' ∧ (b.Roomy → b'.Roomy)

theorem closed_keepsRoom : Closed keepsRoom :=
  ⟨fun ids b => ⟨closed_keepsLive.refl ids b, id⟩,
    fun h h' => ⟨closed_keepsLive.trans h.1 h'.1, fun hroomy => h'.2 (h.2 hroomy)⟩⟩

theorem lasting_roomy : Lasting Buffers.Roomy where
  drawn hes hb := hb.changeAll fun p hp => Edit.isResize_of_not_isPlacing (hes p hp)
  performed h hb := hb.performing h
  added {_ config labels l} hreserve hb :=
    hb.addAll ((map_area_newWindows config labels l).symm ▸ hreserve)
  discarded ids hb := hb.discard ids
  buried count hb := by
    rw [Buffers.Roomy, Buffers.inUse_bury]
    exact hb

variable {T : Type} [Terminal T]

theorem roomy_moves {terminal : T} {engine : Buffers} {config : Config} {s : Screen T Buffers}
    (h : Screen.new terminal engine config = .ok s) (hempty : ∀ id, engine.window? id = none)
    {ms : List (Move T Buffers)} (hobeys : Obeys keepsRoom ⟨s, []⟩ ms) :
    (moves ⟨s, []⟩ ms).screen.engine.Roomy := by
  have hengine : s.engine = engine := congrArg Interior.engine (Screen.interior_new h)
  have hnew : s.engine.Roomy := by
    have hinUse : engine.inUse = (List.map engine.cells []).sum :=
      Buffers.inUse_eq_sum .nil (by simp [hempty])
    rw [hengine, Buffers.Roomy, hinUse]
    exact fun limit _ => Nat.zero_le limit
  exact lasting_roomy.moves (fun _ _ _ h => h.2) hobeys hnew

section

variable {s : Screen T Buffers} {session : Session} {rows cols : Nat} {size : Nat × Nat} {l : Layout}

/-- What a resize comes to where all windows are those of the session. -/
theorem resize_outcome (howned : Owned s.interior) (hcoherent : Coherent s.interior)
    (hphase : s.phase = .alive) (hs : s.session = some session)
    (hsize : (exec (Screen.askSize rows cols) s).1 = .ok size)
    (hl : Layout.allocate size.1 size.2 session.layout.sides session.layout.strip = .ok l) :
    let done := exec (Call.resize rows cols).action s
    (done.1 = .ok () ↔ Buffers.Affordable s.engine.budget s.engine.cells s.engine.inUse
      (session.windows.sizing l)) ∧
    (done.1 ≠ .ok () → (∃ cause, done.1 = .error (.bufferAllocation cause)) ∧
      done.2.phase = .suspended ∧
      done.2.session = some { session with alive := false, consistent := false }) := by
  have hids := windowIds_of_some (i := s.interior) hs
  have hlabels : s.labels.window = session.windows.strip := hcoherent.window hs
  have hafford := WindowSet.performing_rearrangement_ok_iff (b := s.engine)
    (Layout.of_allocate hl) (hids ▸ howned.nodup) hlabels
    fun id hid => (howned.live id).mpr (hids ▸ hid)
  have hdecided := Screen.decided_resize hphase hs hsize hl
  rw [← hafford]
  simp only [Call.action, exec_bind_unit]
  rcases hperformed : (exec (Buffers.performing (session.windows.rearrangement l s.labels))
    s.engine).1 with cause | _
  · obtain ⟨hresult, hphase', hsession'⟩ := hdecided.broken cause hperformed
    rw [hresult]
    exact ⟨by simp [Except.map], fun _ => ⟨⟨cause, rfl⟩, hphase', hsession'⟩⟩
  · obtain ⟨session', hresult⟩ := hdecided.granted hperformed
    rw [hresult]
    exact ⟨iff_of_true rfl rfl, fun h => absurd rfl h⟩

omit [Terminal T] in
theorem inUse_of_owned (howned : Owned s.interior) (hs : s.session = some session) :
    s.engine.inUse = (session.windows.all.map s.engine.cells).sum := by
  have hids := windowIds_of_some (i := s.interior) hs
  exact Buffers.inUse_eq_sum (hids ▸ howned.nodup) (hids ▸ howned.live)

omit [Terminal T] in
theorem affordable_of_fitted {sides : List Side} (howned : Owned s.interior) (hroomy : s.engine.Roomy)
    (hs : s.session = some session) (hfitted : Fitted s.interior sides session)
    (hl : Layout.allocate size.1 size.2 session.layout.sides session.layout.strip = .ok l) :
    Buffers.Affordable s.engine.budget s.engine.cells s.engine.inUse (session.windows.sizing l) ↔
      Buffers.Fits s.engine.budget (2 * (size.1 * size.2) +
        max (size.1 * size.2) (session.layout.terminalRows * session.layout.terminalCols) +
        (session.layout.reserved.length + session.layout.strip.rows) *
          (session.layout.terminalCols - size.2)) := by
  have hold := Layout.of_allocate hfitted.layout
  have hsides := Layout.sides_of_allocate hfitted.layout
  rw [hsides, hold.placement] at hl
  rw [hold.length_reserved, hold.placement]
  exact hfitted.laidOut.sized.affordable_iff hold (Layout.of_allocate hl)
    (inUse_of_owned howned hs) hroomy

omit [Terminal T] in
theorem fits_of_fitted {sides : List Side} (howned : Owned s.interior) (hroomy : s.engine.Roomy)
    (hs : s.session = some session) (hfitted : Fitted s.interior sides session) :
    Buffers.Fits s.engine.budget
      (3 * (session.layout.terminalRows * session.layout.terminalCols)) := by
  have hsum := hfitted.laidOut.sized.sum_all (Layout.of_allocate hfitted.layout)
  rw [Buffers.Roomy, inUse_of_owned howned hs] at hroomy
  exact hsum ▸ hroomy

end

/-- Where neither columns nor lines stand in the way, only the new size counts. -/
theorem fits_three_iff {budget : Option Nat} {cells cells' edge : Nat}
    (hfits : Buffers.Fits budget (3 * cells)) (hedge : edge = 0) :
    Buffers.Fits budget (2 * cells' + max cells' cells + edge) ↔
      Buffers.Fits budget (3 * cells') := by
  subst hedge
  constructor
  · exact fun h => h.mono (by omega)
  · intro h limit hlimit
    have hnew := h limit hlimit
    have hold := hfits limit hlimit
    omega

/-- **Which resizes are granted.** A session follows its terminal to a size that can be laid out
exactly if its windows can be resized one after another within the budget; otherwise the session is
of no further use. For windows that the application leaves in their places, the cells that it takes
are those of the new layout, as many more as the terminal had before if it shrinks, and the columns
that are lost once for each line that is not the display's. If there is no such line, or if no
columns are lost, it is enough that the new layout fits. -/
theorem resize_granted_iff {terminal : T} {engine : Buffers} {config : Config} {s : Screen T Buffers}
    (h : Screen.new terminal engine config = .ok s) (hempty : ∀ id, engine.window? id = none)
    {ms : List (Move T Buffers)} (hobeys : Obeys keepsRoom ⟨s, []⟩ ms) {session : Session}
    (hphase : (moves ⟨s, []⟩ ms).screen.phase = .alive)
    (hs : (moves ⟨s, []⟩ ms).screen.session = some session) {rows cols : Nat} {size : Nat × Nat}
    (hsize : (exec (Screen.askSize rows cols) (moves ⟨s, []⟩ ms).screen).1 = .ok size) {l : Layout}
    (hl : Layout.allocate size.1 size.2 session.layout.sides session.layout.strip = .ok l) :
    let b := (moves ⟨s, []⟩ ms).screen.engine
    let done := exec (Call.resize rows cols).action (moves ⟨s, []⟩ ms).screen
    (done.1 = .ok () ↔ Buffers.Affordable b.budget b.cells b.inUse (session.windows.sizing l)) ∧
    (done.1 ≠ .ok () → (∃ cause, done.1 = .error (.bufferAllocation cause)) ∧
      done.2.phase = .suspended ∧
      done.2.session = some { session with alive := false, consistent := false }) ∧
    (Obeys keepsPlaces ⟨s, []⟩ ms →
      (done.1 = .ok () ↔ Buffers.Fits b.budget (2 * (size.1 * size.2) +
        max (size.1 * size.2) (session.layout.terminalRows * session.layout.terminalCols) +
        (session.layout.reserved.length + session.layout.strip.rows) *
          (session.layout.terminalCols - size.2))) ∧
      (session.layout.reserved.length + session.layout.strip.rows = 0 ∨
          session.layout.terminalCols ≤ size.2 →
        (done.1 = .ok () ↔ Buffers.Fits b.budget (3 * (size.1 * size.2))))) := by
  have hlive : Obeys keepsLive ⟨s, []⟩ ms := hobeys.mono fun _ _ _ h => h.1
  have howned := owned_moves h hempty hlive
  obtain ⟨hgranted, hbroken⟩ := resize_outcome howned (coherent_moves h ms) hphase hs hsize hl
  refine ⟨hgranted, hbroken, fun hplaces => ?_⟩
  have hroomy := roomy_moves h hempty hobeys
  have hconsistent := (coherent_moves h ms).alive hphase session hs
  have hfitted := (kept_moves h hplaces).fitted session hs hconsistent
  have hfits := hgranted.trans (affordable_of_fitted howned hroomy hs hfitted hl)
  refine ⟨hfits, fun hnothing => hfits.trans ?_⟩
  refine fits_three_iff (fits_of_fitted howned hroomy hs hfitted) (Nat.mul_eq_zero.mpr ?_)
  exact hnothing.imp_right Nat.sub_eq_zero_of_le

/-- A session with a line at the top, whose terminal then loses columns and gains rows. -/
def narrowing : List (Move Headless Buffers) :=
  [.call (.reserveLine .top fun engine _ _ => engine), .call (.create []),
    .terminal ({ · with rows := 6, cols := 4 })]

/-- The new windows would fit the budget, but not together with those that still have their old
size. -/
theorem narrowing_refused :
    (moves ⟨crowded, []⟩ narrowing).screen.phase = .alive ∧
      (exec (Screen.askSize 0 0) (moves ⟨crowded, []⟩ narrowing).screen).1 = .ok (6, 4) ∧
      (moves ⟨crowded, []⟩ narrowing).screen.session.any (fun session =>
        (Layout.allocate 6 4 session.layout.sides session.layout.strip).toBool) = true ∧
      (moves ⟨crowded, []⟩ narrowing).screen.engine.budget = some (3 * (6 * 4)) ∧
      (exec (Call.resize 0 0).action (moves ⟨crowded, []⟩ narrowing).screen).1 =
        .error (.bufferAllocation (.outOfMemory 20 18)) := by
  decide +kernel

/-- A session with a line at the top, whose terminal then loses a row. -/
def shortening : List (Move Headless Buffers) :=
  [.call (.reserveLine .top fun engine _ _ => engine), .call (.create []),
    .terminal ({ · with rows := 3 })]

theorem shortening_granted :
    Obeys keepsRoom ⟨crowded, []⟩ shortening ∧ Obeys keepsPlaces ⟨crowded, []⟩ shortening ∧
      (moves ⟨crowded, []⟩ shortening).screen.phase = .alive ∧
      (exec (Call.resize 0 0).action (moves ⟨crowded, []⟩ shortening).screen).1 = .ok () := by
  have hroom : Obeys keepsRoom ⟨crowded, []⟩ shortening := by
    refine obeys_of_confines closed_keepsRoom (List.forall_mem_nil _) ?_
    simp [shortening, Confines, ConfinesInit, keepsRoom, keepsLive]
  have hplaces : Obeys keepsPlaces ⟨crowded, []⟩ shortening := by
    refine obeys_of_confines closed_keepsPlaces (List.forall_mem_nil _) ?_
    simp [shortening, Confines, ConfinesInit, keepsPlaces]
  have hphase : (moves ⟨crowded, []⟩ shortening).screen.phase = .alive := by decide +kernel
  have hsize :
      (exec (Screen.askSize 0 0) (moves ⟨crowded, []⟩ shortening).screen).1 = .ok (3, 6) := by
    decide +kernel
  have hsession : (moves ⟨crowded, []⟩ shortening).screen.session.map Session.layout =
      (Layout.allocate 4 6 [.top] {}).toOption := by
    decide +kernel
  have hbudget : (moves ⟨crowded, []⟩ shortening).screen.engine.budget = some 72 := by
    decide +kernel
  obtain ⟨session, hs, hlayout⟩ := Option.map_eq_some_iff.mp hsession
  have hl : ∃ l, Layout.allocate 3 6 session.layout.sides session.layout.strip = .ok l := by
    rw [hlayout]
    exact ⟨_, rfl⟩
  obtain ⟨l, hl⟩ := hl
  obtain ⟨-, -, hfits⟩ := resize_granted_iff new_crowded (fun _ => rfl) hroom hphase hs hsize hl
  have hgranted := (hfits hplaces).1
  rw [hbudget, hlayout] at hgranted
  exact ⟨hroom, hplaces, hphase, hgranted.mpr (by decide)⟩

end Life

end TerminalSession
