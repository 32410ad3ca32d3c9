import TerminalSession.Proofs.Action.Keeps
import TerminalSession.Proofs.Engine.Windows
import TerminalSession.Proofs.Paint.Grid

/-!
# What a paint says and does

The effect of a successful paint, part by part: on the windows, and on what the sink has taken
(`Painting.said`), of which nothing is cut (`Painting.Says`). A terminal is fed with all of that
(`Painting.terminal`).
-/

namespace TerminalSession

open TerminalSession.Action

namespace Painting

variable {p p' : Painting} {id : WindowId} {whole : Bool}

/-- The terminal after all that the sink has taken. -/
def terminal (p : Painting) (g : Grid) : Grid := g.feed p.sink.taken.toList

/-- All that the sink has taken. -/
def said (p : Painting) : List Sequence := p.sink.taken.toList

/-- Some sequences more have been taken, all of them whole. -/
structure Says (l : List Sequence) (p p' : Painting) : Prop where
  said : p'.said = p.said ++ l
  cut : p'.sink.cut = p.sink.cut

namespace Says

variable {q : Painting} {l l' : List Sequence}

theorem refl (p : Painting) : Says [] p p := ⟨(List.append_nil _).symm, rfl⟩

theorem trans (h : Says l p q) (h' : Says l' q p') : Says (l ++ l') p p' where
  said := by rw [h'.said, h.said, List.append_assoc]
  cut := h'.cut.trans h.cut

end Says

theorem terminal_of_said {l : List Sequence} (h : p'.said = p.said ++ l) (g : Grid) :
    p'.terminal g = (p.terminal g).feed l := by
  rw [terminal, show p'.sink.taken.toList = _ from h, Grid.feed_append]
  rfl

theorem of_write_ok {sink sink' : Sink} {s : Sequence}
    (h : exec (Sink.write s) sink = (.ok (), sink')) :
    sink'.taken.toList = sink.taken.toList ++ [s] ∧ sink'.cut = sink.cut := by
  simp only [Sink.write, exec_ofFn] at h
  split at h
  · cases h
    exact ⟨Array.toList_push, rfl⟩
  · split at h
    · cases h
      exact ⟨Array.toList_push, rfl⟩
    · cases h

theorem of_writes_ok {sink sink' : Sink} {l : List Sequence}
    (h : exec (l.forM Sink.write) sink = (.ok (), sink')) :
    sink'.taken.toList = sink.taken.toList ++ l ∧ sink'.cut = sink.cut := by
  induction l generalizing sink with
  | nil =>
    cases h
    exact ⟨(List.append_nil _).symm, rfl⟩
  | cons s l ih =>
    obtain ⟨_, t, hs, hl⟩ := of_exec_bind_ok h
    obtain ⟨hfirst, hcut⟩ := of_write_ok hs
    obtain ⟨hrest, hcut'⟩ := ih hl
    rw [hrest, hfirst, List.append_assoc, List.singleton_append]
    exact ⟨rfl, hcut'.trans hcut⟩

/-- What is said without a failure is taken by the sink. -/
theorem of_say_ok {l : List Sequence} (h : exec (say l) p = (.ok (), p')) :
    p'.buffers = p.buffers ∧ Says l p p' := by
  simp only [say, exec_zoom, Prod.mk.injEq] at h
  obtain ⟨hok, rfl⟩ := h
  obtain ⟨htaken, hcut⟩ :=
    of_writes_ok (Prod.ext hok rfl : exec (l.forM Sink.write) p.sink = (.ok (), _))
  exact ⟨rfl, htaken, hcut⟩

/-- What is written of a window. -/
def emission (whole : Bool) (b : Buffers) (id : WindowId) : List Sequence :=
  match b.window? id with
  | some w => (if whole then w.markAll else w).sequences
  | none => []

/-- Writing all of a window is writing what is dirty of it once all of it is. -/
theorem exec_paintWindow_true (id : WindowId) (p : Painting) :
    exec (paintWindow true id) p =
      exec (paintWindow false id) { p with buffers := p.buffers.modifyWindow id Window.markAll } :=
  rfl

theorem exec_paintWindow_false (id : WindowId) (p : Painting) :
    exec (paintWindow false id) p = exec (do
      if let some w := (← get).buffers.window? id then
        say w.sequences
        change id Window.markClean) p := rfl

theorem of_paintWindow_false_ok (h : exec (paintWindow false id) p = (.ok (), p')) :
    (∀ id', p'.buffers.window? id' =
      (p.buffers.window? id').map fun w => if id' = id then w.markClean else w) ∧
    Says (emission false p.buffers id) p p' := by
  rw [exec_paintWindow_false, exec_bind_ok (exec_get p)] at h
  unfold emission
  cases hw : p.buffers.window? id with
  | none =>
    simp only [hw] at h
    cases h
    refine ⟨fun id' => ?_, .refl p⟩
    by_cases hid : id' = id
    · rw [hid, hw]
      rfl
    · simp [hid]
  | some w =>
    simp only [hw] at h
    obtain ⟨_, t, hsay, hchange⟩ := of_exec_bind_ok h
    obtain ⟨hb, hsays⟩ := of_say_ok hsay
    cases hchange
    refine ⟨fun id' => ?_, hsays.said, hsays.cut⟩
    rw [Buffers.window?_modifyWindow, hb]
    by_cases hid : id' = id <;> simp [hid]

theorem of_paintWindow_ok (h : exec (paintWindow whole id) p = (.ok (), p')) :
    (∀ id', p'.buffers.window? id' =
      (p.buffers.window? id').map fun w => if id' = id then w.markClean else w) ∧
    Says (emission whole p.buffers id) p p' := by
  cases whole with
  | false => exact of_paintWindow_false_ok h
  | true =>
    rw [exec_paintWindow_true] at h
    obtain ⟨hwindows, hsays⟩ := of_paintWindow_false_ok h
    have hclean (w : Window) : w.markAll.markClean = w.markClean := rfl
    have hemission : emission false (p.buffers.modifyWindow id Window.markAll) id =
        emission true p.buffers id := by
      unfold emission
      rw [Buffers.window?_modifyWindow, if_pos rfl]
      cases p.buffers.window? id <;> rfl
    refine ⟨fun id' => ?_, hsays.said.trans (congrArg (p.said ++ ·) hemission), hsays.cut⟩
    rw [hwindows, Buffers.window?_modifyWindow]
    by_cases hid : id' = id <;> simp [hid, Function.comp_def, hclean]

/-- The windows painted are clean afterwards, and no others are touched. -/
theorem of_paintWindows_ok {ids : List WindowId}
    (h : exec (ids.forM (paintWindow whole)) p = (.ok (), p')) (id : WindowId) :
    p'.buffers.window? id =
      (p.buffers.window? id).map fun w => if id ∈ ids then w.markClean else w := by
  induction ids generalizing p with
  | nil =>
    cases h
    simp
  | cons first ids ih =>
    obtain ⟨_, q, hfirst, hrest⟩ := of_exec_bind_ok h
    rw [ih hrest, (of_paintWindow_ok hfirst).1, Option.map_map]
    congr 1
    funext w
    have hclean : w.markClean.markClean = w.markClean := rfl
    by_cases hid : id = first
    · simp [hid, hclean]
    · simp [hid]

/-- What begins a paint. -/
def opening (whole : Bool) : List Sequence :=
  .hideCursor :: if whole then [.clearAll] else []

/-- What brings the cursor to its place. -/
def homing (display : Option Window) : List Sequence :=
  match display with
  | some w => [.moveTo (w.top + w.cursorRow) (w.left + w.cursorCol), .showCursor]
  | none => []

/-- What ends a paint. -/
def closing (display : Option Window) : List Sequence := [.reset, .reset] ++ homing display

theorem of_homing_ok (h : exec (do
      if let some display := (← get).buffers.window? id then
        say [.moveTo (display.top + display.cursorRow) (display.left + display.cursorCol),
          .showCursor]) p = (.ok (), p')) :
    p'.buffers = p.buffers ∧ Says (homing (p.buffers.window? id)) p p' := by
  rw [exec_bind_ok (exec_get p)] at h
  cases hd : p.buffers.window? id with
  | none =>
    simp only [hd] at h
    cases h
    exact ⟨rfl, .refl p⟩
  | some w =>
    simp only [hd] at h
    exact of_say_ok h

/-- A paint after it is known whether everything is drawn. -/
def paintOpened (ws : WindowSet) (whole : Bool) : Action Painting SinkError Unit := do
  ws.visible.forM (paintWindow whole)
  change ws.physical fun w => { w.markClean with clear := false }
  say [.reset, .reset]
  if let some display := (← get).buffers.window? ws.display then
    say [.moveTo (display.top + display.cursorRow) (display.left + display.cursorCol), .showCursor]

/-- After the opening, the visible windows are painted, and the closing follows. -/
theorem of_paintOpened_ok {ws : WindowSet} (h : exec (paintOpened ws whole) p = (.ok (), p')) :
    ∃ q : Painting, exec (ws.visible.forM (paintWindow whole)) p = (.ok (), q) ∧
      (∀ id, p'.buffers.window? id = (q.buffers.window? id).map fun w =>
        if id = ws.physical then { w.markClean with clear := false } else w) ∧
      Says (closing (p'.buffers.window? ws.display)) q p' := by
  obtain ⟨_, q, hvisible, h⟩ := of_exec_bind_ok h
  obtain ⟨_, q₁, hchange, h⟩ := of_exec_bind_ok h
  cases hchange
  obtain ⟨_, q₂, hreset, h⟩ := of_exec_bind_ok h
  obtain ⟨hb₂, hsays₂⟩ := of_say_ok hreset
  obtain ⟨hb, hsays⟩ := of_homing_ok h
  refine ⟨q, hvisible, fun id => ?_, ?_⟩
  · rw [hb, hb₂, Buffers.window?_modifyWindow]
    by_cases hid : id = ws.physical <;> simp [hid]
  · rw [hb]
    have hclosing := hsays₂.trans hsays
    exact ⟨hclosing.said, hclosing.cut⟩

/-- What a paint that succeeds says: an opening, the visible windows, and a closing. -/
theorem said_of_paint_ok {ws : WindowSet} (h : exec (paint ws) p = (.ok (), p'))
    (hwhole : asksForClear p.buffers ws.physical = whole) :
    ∃ q q' : Painting, q.buffers = p.buffers ∧ Says (opening whole) p q ∧
      exec (ws.visible.forM (paintWindow whole)) q = (.ok (), q') ∧
      (∀ id, p'.buffers.window? id = (q'.buffers.window? id).map fun w =>
        if id = ws.physical then { w.markClean with clear := false } else w) ∧
      Says (closing (p'.buffers.window? ws.display)) q' p' := by
  obtain ⟨_, q, hhide, h⟩ := of_exec_bind_ok h
  obtain ⟨hb, hsays⟩ := of_say_ok hhide
  rw [exec_bind_ok (exec_get q)] at h
  simp only [hb, hwhole] at h
  cases whole with
  | false =>
    obtain ⟨q', hrest⟩ := of_paintOpened_ok h
    exact ⟨q, q', hb, hsays, hrest⟩
  | true =>
    obtain ⟨_, q₁, hclear, h⟩ := of_exec_bind_ok h
    obtain ⟨hb₁, hsays₁⟩ := of_say_ok hclear
    obtain ⟨q', hrest⟩ := of_paintOpened_ok h
    exact ⟨q₁, q', hb₁.trans hb, hsays.trans hsays₁, hrest⟩

/-- A paint that succeeds has an opening, paints the visible windows, and has a closing. -/
theorem of_paint_ok {ws : WindowSet} (h : exec (paint ws) p = (.ok (), p'))
    (hwhole : asksForClear p.buffers ws.physical = whole) :
    ∃ q q' : Painting, q.buffers = p.buffers ∧
      (∀ g, q.terminal g = (p.terminal g).feed (opening whole)) ∧
      exec (ws.visible.forM (paintWindow whole)) q = (.ok (), q') ∧
      (∀ id, p'.buffers.window? id = (q'.buffers.window? id).map fun w =>
        if id = ws.physical then { w.markClean with clear := false } else w) ∧
      ∀ g, p'.terminal g = (q'.terminal g).feed (closing (p'.buffers.window? ws.display)) := by
  obtain ⟨q, q', hb, hsays, hvisible, hbp', hsays'⟩ := said_of_paint_ok h hwhole
  exact ⟨q, q', hb, terminal_of_said hsays.said, hvisible, hbp', terminal_of_said hsays'.said⟩

end Painting

end TerminalSession
