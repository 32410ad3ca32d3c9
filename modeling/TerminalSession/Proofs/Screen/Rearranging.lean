import TerminalSession.Proofs.Screen.Building

/-!
# Changing the windows of a session

Giving the windows of a session their places in another layout is a series of edits, the
`rearrangement`, with the labels laid out anew before they are drawn. `exec_rearrange` says so, and
that everything else stays.
-/

namespace TerminalSession

open TerminalSession.Action

/-- The edits that give a window its place and size. -/
def placing (id : WindowId) (area : Rect) : List (WindowId × Edit) :=
  [(id, .resize area.rows area.cols), (id, .move area.top area.left)]

namespace WindowSet

/-- The strip's window with its area, if there is a strip. -/
def stripPlace? (windows : WindowSet) (l : Layout) : Option (WindowId × Rect) :=
  windows.strip.bind fun id => l.stripArea?.map (id, ·)

theorem of_stripPlace? {windows : WindowSet} {l : Layout} {id : WindowId} {area : Rect}
    (h : windows.stripPlace? l = some (id, area)) :
    windows.strip = some id ∧ l.stripArea? = some area := by
  simp only [stripPlace?, Option.bind_eq_some_iff, Option.map_eq_some_iff, Prod.mk.injEq] at h
  obtain ⟨_, hstrip, _, harea, rfl, rfl⟩ := h
  exact ⟨hstrip, harea⟩

/-- The labels as they are laid out for the strip, if there is one. -/
def relabel (windows : WindowSet) (l : Layout) (labels : SoftLabels) : SoftLabels :=
  match windows.stripPlace? l with
  | none => labels
  | some _ => labels.layOut l.terminalCols

theorem window_relabel (windows : WindowSet) (l : Layout) (labels : SoftLabels) :
    (windows.relabel l labels).window = labels.window := by
  unfold relabel
  split
  · rfl
  · exact labels.window_layOut _

theorem format_relabel (windows : WindowSet) (l : Layout) (labels : SoftLabels) :
    (windows.relabel l labels).format = labels.format := by
  unfold relabel
  split
  · rfl
  · exact labels.format_layOut _

def rearrangingDisplay (windows : WindowSet) (l : Layout) : List (WindowId × Edit) :=
  (windows.physical, .resize l.terminalRows l.terminalCols) ::
    (placing windows.display l.displayArea ++
      [(windows.snapshot, .resize l.terminalRows l.terminalCols)])

def rearrangingStrip (windows : WindowSet) (l : Layout) (labels : SoftLabels) :
    List (WindowId × Edit) :=
  match windows.stripPlace? l with
  | none => []
  | some (id, area) => placing id area ++ (labels.layOut l.terminalCols).redrawn

def rearrangingLines (windows : WindowSet) (l : Layout) : List (WindowId × Edit) :=
  (windows.reserved.zip l.reserved).flatMap fun p => placing p.1.window (l.lineArea p.2)

/-- The edits that have everything drawn again. -/
def refreshing (windows : WindowSet) : List (WindowId × Edit) :=
  [(windows.snapshot, .erase), (windows.physical, .setClear true), (windows.physical, .markDirty),
    (windows.display, .markDirty)]

/-- All edits that give the windows of a session their places in a layout. -/
def rearrangement (windows : WindowSet) (l : Layout) (labels : SoftLabels) :
    List (WindowId × Edit) :=
  windows.rearrangingDisplay l ++ (windows.rearrangingStrip l labels ++
    (windows.rearrangingLines l ++ windows.refreshing))

end WindowSet

namespace Screen

variable {T ε α β : Type} {s : Screen T Buffers} {windows : WindowSet} {l : Layout}

/-! ## Series of edits on a screen -/

theorem onEngine_bind (x : Action Buffers ε α) (f : α → Action Buffers ε β) :
    (onEngine (x >>= f) : Action (Screen T Buffers) ε β) =
      onEngine x >>= fun a => onEngine (f a) := by
  funext s
  change exec (onEngine (x >>= f)) s = exec (onEngine x >>= fun a => onEngine (f a)) s
  rw [exec_bind, exec_onEngine, exec_onEngine, exec_bind]
  rcases exec x s.engine with ⟨_ | _, _⟩ <;> rfl

theorem onEngine_performing_cons (p : WindowId × Edit) (es : List (WindowId × Edit)) :
    (onEngine (Buffers.performing (p :: es)) : Action (Screen T Buffers) WindowError Unit) =
      (do edit p.1 p.2; onEngine (Buffers.performing es)) := by
  rw [Buffers.performing_cons, onEngine_bind]
  rfl

theorem onEngine_performing_append (es es' : List (WindowId × Edit)) :
    (onEngine (Buffers.performing (es ++ es')) : Action (Screen T Buffers) WindowError Unit) =
      (do onEngine (Buffers.performing es); onEngine (Buffers.performing es')) := by
  rw [Buffers.performing_append, onEngine_bind]

theorem onEngine_performing_single (p : WindowId × Edit) :
    (onEngine (Buffers.performing [p]) : Action (Screen T Buffers) WindowError Unit) =
      edit p.1 p.2 := by
  rw [onEngine_performing_cons]
  exact bind_pure _

theorem place_eq (id : WindowId) (area : Rect) :
    (place id area : Action (Screen T Buffers) WindowError Unit) =
      onEngine (Buffers.performing (placing id area)) := by
  rw [placing, onEngine_performing_cons, onEngine_performing_single]
  rfl

theorem placeLines_eq (cols : Nat) (lines : List (ReservedWindow × ReservedLine)) :
    (lines.forM fun (reserved, line) => place reserved.window ⟨line.row, 0, 1, cols⟩ :
      Action (Screen T Buffers) WindowError Unit) =
      onEngine (Buffers.performing
        (lines.flatMap fun p => placing p.1.window ⟨p.2.row, 0, 1, cols⟩)) := by
  induction lines with
  | nil => rfl
  | cons p lines ih =>
    rw [List.flatMap_cons, onEngine_performing_append, ← ih, ← place_eq]
    rfl

/-- Only the labels are changed between the edits. -/
theorem rearrange_eq (windows : WindowSet) (l : Layout) :
    (rearrange windows l : Action (Screen T Buffers) WindowError Unit) = (do
      onEngine (Buffers.performing (windows.rearrangingDisplay l))
      placeStrip windows l
      onEngine (Buffers.performing (windows.rearrangingLines l ++ windows.refreshing))) := by
  have hrefresh : (onEngine (Buffers.performing windows.refreshing) :
      Action (Screen T Buffers) WindowError Unit) = (do
      edit windows.snapshot .erase
      edit windows.physical (.setClear true)
      edit windows.physical .markDirty
      edit windows.display .markDirty) := by
    rw [WindowSet.refreshing, onEngine_performing_cons, onEngine_performing_cons,
      onEngine_performing_cons, onEngine_performing_single]
  rw [WindowSet.rearrangingDisplay, onEngine_performing_cons, onEngine_performing_append,
    onEngine_performing_single, ← place_eq, onEngine_performing_append, hrefresh]
  have hlines := placeLines_eq (T := T) l.terminalCols (windows.reserved.zip l.reserved)
  simp only [WindowSet.rearrangingLines, Layout.lineArea, ← hlines, bind_assoc]
  rfl

theorem exec_placeStrip (windows : WindowSet) (l : Layout) (s : Screen T Buffers) :
    exec (placeStrip windows l) s =
      match windows.stripPlace? l with
      | none => (.ok (), s)
      | some (id, area) => match exec (Buffers.performing (placing id area)) s.engine with
        | (.error cause, engine) => (.error cause, { s with engine })
        | (.ok (), engine) =>
          let labels := s.labels.layOut l.terminalCols
          let drawn := exec (Buffers.performing labels.redrawn) engine
          (drawn.1, { s with engine := drawn.2, labels }) := by
  rw [WindowSet.stripPlace?, Layout.stripArea?, placeStrip]
  cases windows.strip with
  | none => rfl
  | some id =>
    cases l.stripTop with
    | none => rfl
    | some top =>
      simp only [Option.bind_some, Option.map_some]
      rw [place_eq, exec_bind, exec_onEngine]
      rcases exec (Buffers.performing (placing id ⟨top, 0, l.strip.rows, l.terminalCols⟩)) s.engine
        with ⟨_ | _, engine⟩
      · rfl
      · simp only
        rw [exec_bind_ok (exec_modify ..), drawLabels, exec_bind_ok (exec_get _), exec_onEngine,
          SoftLabels.draw_eq]

/-- A rearrangement that fails has left the labels as they were or has laid them out. -/
theorem exec_rearrange (windows : WindowSet) (l : Layout) (s : Screen T Buffers) :
    ∃ labels, (labels = s.labels ∨ labels = windows.relabel l s.labels) ∧
      let done := exec (Buffers.performing (windows.rearrangement l s.labels)) s.engine
      exec (rearrange windows l) s = (done.1, { s with engine := done.2, labels }) ∧
        (done.1 = .ok () → labels = windows.relabel l s.labels) := by
  rw [rearrange_eq, WindowSet.rearrangement]
  generalize windows.rearrangingLines l ++ windows.refreshing = rest
  simp only [Buffers.performing_append, exec_bind, exec_onEngine]
  rcases exec (Buffers.performing (windows.rearrangingDisplay l)) s.engine with ⟨cause | _, b⟩
  · exact ⟨s.labels, .inl rfl, rfl, fun h => nomatch h⟩
  simp only [exec_placeStrip, WindowSet.relabel, WindowSet.rearrangingStrip]
  cases windows.stripPlace? l with
  | none => exact ⟨s.labels, .inl rfl, rfl, fun _ => rfl⟩
  | some p =>
    simp only [Buffers.performing_append, exec_bind]
    rcases exec (Buffers.performing (placing p.1 p.2)) b with ⟨cause | _, b'⟩
    · exact ⟨s.labels, .inl rfl, rfl, fun h => nomatch h⟩
    refine ⟨s.labels.layOut l.terminalCols, .inr rfl, ?_, fun _ => rfl⟩
    simp only
    rcases exec (Buffers.performing (s.labels.layOut l.terminalCols).redrawn) b' with ⟨_ | _, _⟩ <;>
      rfl

end Screen

end TerminalSession
