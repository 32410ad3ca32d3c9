import TerminalSession.Proofs.Paint.Emission
import TerminalSession.Proofs.Paint.Shown

/-!
# Painting what has changed

A paint writes the dirty lines only. It relies on the terminal for all others: between two paints,
every line of a visible window that is not dirty is on the terminal as it is in the window
(`Settled`). Every call to the engine keeps this, and a paint establishes it anew, even with all
lines shown.

So after every paint of a `Course` the terminal shows all visible windows as they are, as if they
had been written whole.
-/

namespace TerminalSession

open TerminalSession.Action TerminalSession.Line

namespace Painting

variable {p p' : Painting} {g : Grid} {ids : List WindowId} {whole : Bool}

/-- Painting one window shows it and spares what lies apart from it. -/
theorem shownOn_paintWindow {id : WindowId} (h : exec (paintWindow whole id) p = (.ok (), p'))
    (hout : ∀ w, p.buffers.window? id = some w → w.FitsOn (p.terminal g))
    (hsound : AllSound p.buffers)
    (hsettled : whole = false → ∀ w, p.buffers.window? id = some w → w.SettledOn (p.terminal g)) :
    (∀ w, p.buffers.window? id = some w → w.ShownOn (p'.terminal g)) ∧
      (p.terminal g).Spares (MissesAll [id] p.buffers) (p'.terminal g) := by
  obtain ⟨-, hsays⟩ := of_paintWindow_ok h
  rw [terminal_of_said hsays.said, emission]
  cases hw : p.buffers.window? id with
  | none => exact ⟨fun _ h => absurd h (by simp), .refl _ _⟩
  | some w =>
    obtain ⟨hshown, hspares⟩ := Window.shownOn_feed (hsound id w hw) (hout w hw)
      (fun hwhole => hsettled hwhole w hw)
    refine ⟨fun w' h => ?_, hspares.mono fun row col length h => h id (.head _) w hw⟩
    cases h
    exact hshown

/-- Painting windows one after another shows them all. -/
theorem shownOn_paintWindows (h : exec (ids.forM (paintWindow whole)) p = (.ok (), p'))
    (hout : LaidOut ids p.buffers (p.terminal g)) (hsound : AllSound p.buffers)
    (hsettled : whole = false → ∀ id ∈ ids, ∀ w, p.buffers.window? id = some w →
      w.SettledOn (p.terminal g)) :
    (∀ id ∈ ids, ∀ w, p.buffers.window? id = some w → w.ShownOn (p'.terminal g)) ∧
      (p.terminal g).Spares (MissesAll ids p.buffers) (p'.terminal g) := by
  induction ids generalizing p with
  | nil =>
    cases h
    exact ⟨fun _ hid => absurd hid (by simp), .refl _ _⟩
  | cons id ids ih =>
    obtain ⟨_, q, hfirst, hrest⟩ := of_exec_bind_ok h
    obtain ⟨hwindows, -⟩ := of_paintWindow_ok hfirst
    obtain ⟨hshown, hspares⟩ := shownOn_paintWindow hfirst (hout.fits id (.head _)) hsound
      (fun hwhole => hsettled hwhole id (.head _))
    have halike : Alike p.buffers q.buffers := by
      refine .of_map hwindows fun id' w => ?_
      split <;> rfl
    -- What is shown of the other windows is spared, since they lie apart from the first.
    have hsettled' : whole = false → ∀ id' ∈ ids, ∀ w, q.buffers.window? id' = some w →
        w.SettledOn (q.terminal g) := by
      intro hwhole id' hid' w hw
      rw [hwindows] at hw
      obtain ⟨w₀, hw₀, rfl⟩ := Option.map_eq_some_iff.mp hw
      split
      · subst id'
        have hclean : w₀.markClean.ShownOn (q.terminal g) := (hshown w₀ hw₀).of_plain rfl
        exact hclean.settledOn
      · rename_i hne
        intro row line hline hclean
        exact hout.shows_of_spares hsound (.tail _ hid') (by simpa using hne) hspares hw₀ hline
          (hsettled hwhole id' (.tail _ hid') w₀ hw₀ row line hline hclean)
    obtain ⟨hshown', hspares'⟩ := ih hrest
      ((hout.tail.of_alike halike).of_size hspares.rows hspares.cols) (hsound.of_alike halike)
      hsettled'
    have hlater : (q.terminal g).Spares (MissesAll ids p.buffers) (p'.terminal g) :=
      hspares'.mono fun row col length hmiss => hmiss.of_alike halike
    refine ⟨fun id' hid' w hw => ?_, (hspares.mono ?_).trans (hlater.mono ?_)⟩
    · by_cases hmem : id' ∈ ids
      · have hw' := hwindows id'
        rw [hw, Option.map_some] at hw'
        refine (hshown' id' hmem _ hw').of_plain ?_
        split <;> rfl
      · obtain rfl : id' = id := by simpa [hmem] using hid'
        intro row line hline
        refine hout.shows_of_spares hsound (.head _) (fun id hid => ⟨.tail _ hid, ?_⟩) hlater hw
          hline (hshown w hw row line hline)
        rintro rfl
        exact hmem hid
    · exact fun row col length hmiss id' hid' => hmiss id' (by simp_all)
    · exact fun row col length hmiss id' hid' => hmiss id' (.tail _ hid')

/-- Every window is sound, and on the terminal as far as it is not dirty. -/
structure Settled (ids : List WindowId) (g : Grid) (p : Painting) : Prop where
  sound : AllSound p.buffers
  settled : ∀ id ∈ ids, ∀ w, p.buffers.window? id = some w → w.SettledOn (p.terminal g)

/-- New windows and changed ones are dirty where they differ from what is shown. -/
theorem Settled.update (h : p.Settled ids g) {b : Buffers}
    (hb : ∀ id w', b.window? id = some w' → p.buffers.window? id = some w' ∨
      (∃ area, w' = .blank area) ∨
      ∃ w c, p.buffers.window? id = some w ∧ c ≠ .edit .markClean ∧ w' = w.change c) :
    Settled ids g { p with buffers := b } := by
  constructor
  · intro id w' hw'
    rcases hb id w' hw' with hw | ⟨area, rfl⟩ | ⟨w, c, hw, -, rfl⟩
    · exact h.sound id w' hw
    · exact Window.sound_blank area
    · exact (h.sound id w hw).change c
  · intro id hid w' hw'
    rcases hb id w' hw' with hw | ⟨area, rfl⟩ | ⟨w, c, hw, hc, rfl⟩
    · exact h.settled id hid w' hw
    · exact Window.settledOn_blank area _
    · exact (h.settled id hid w hw).change hc

theorem size_terminal (p q : Painting) (g : Grid) :
    (q.terminal g).rows = (p.terminal g).rows ∧ (q.terminal g).cols = (p.terminal g).cols := by
  obtain ⟨hrows, hcols⟩ := g.size_feed p.sink.taken.toList
  obtain ⟨hrows', hcols'⟩ := g.size_feed q.sink.taken.toList
  exact ⟨hrows'.trans hrows.symm, hcols'.trans hcols.symm⟩

theorem cells_feed_closing (g : Grid) (display : Option Window) :
    (g.feed (closing display)).cells = g.cells := by
  cases display <;> rfl

theorem cursor_feed_closing (g : Grid) {w : Window} (hrow : w.top + w.cursorRow < g.rows)
    (hcol : w.left + w.cursorCol < g.cols) :
    (g.feed (closing (some w))).cursorRow = w.top + w.cursorRow ∧
      (g.feed (closing (some w))).cursorCol = w.left + w.cursorCol ∧
      (g.feed (closing (some w))).cursorVisible = true := by
  refine ⟨?_, ?_, rfl⟩
  · change min (w.top + w.cursorRow) (g.rows - 1) = _
    omega
  · change min (w.left + w.cursorCol) (g.cols - 1) = _
    omega

/-- A paint that succeeds shows all visible windows, and leaves them as they look. -/
theorem Settled.paint {ws : WindowSet} (h : p.Settled ws.visible g)
    (hout : LaidOut ws.visible p.buffers (p.terminal g))
    (hpaint : exec (paint ws) p = (.ok (), p')) :
    p'.Settled ws.visible g ∧ Alike p.buffers p'.buffers ∧
      ∀ id ∈ ws.visible, ∀ w, p'.buffers.window? id = some w → w.ShownOn (p'.terminal g) := by
  obtain ⟨q, q', hbq, htq, hvisible, hbp', htp'⟩ := of_paint_ok hpaint rfl
  obtain ⟨hrows, hcols⟩ := p.size_terminal q g
  have hsound : AllSound q.buffers := hbq ▸ h.sound
  have hout' : LaidOut ws.visible q.buffers (q.terminal g) := (hbq ▸ hout).of_size hrows hcols
  have hsettled : asksForClear p.buffers ws.physical = false → ∀ id ∈ ws.visible, ∀ w,
      q.buffers.window? id = some w → w.SettledOn (q.terminal g) := by
    intro hwhole id hid w hw
    rw [htq, hwhole]
    exact h.settled id hid w (hbq ▸ hw)
  obtain ⟨hshown, -⟩ := shownOn_paintWindows hvisible hout' hsound hsettled
  -- What looks the same is shown as well.
  have halike : Alike q.buffers q'.buffers := by
    refine .of_map (of_paintWindows_ok hvisible) fun id w => ?_
    split <;> rfl
  have halike' : Alike q'.buffers p'.buffers := by
    refine .of_map hbp' fun id w => ?_
    split <;> rfl
  have hshown' : ∀ id ∈ ws.visible, ∀ w, p'.buffers.window? id = some w →
      w.ShownOn (p'.terminal g) := by
    intro id hid w hw
    obtain ⟨w₀, hw₀, hplain⟩ := (halike.trans halike').exists_window hw
    refine ((hshown id hid w₀ hw₀).of_plain hplain).of_cells ?_
    rw [htp', cells_feed_closing]
  refine ⟨⟨hsound.of_alike (halike.trans halike'), ?_⟩, hbq ▸ halike.trans halike', hshown'⟩
  exact fun id hid w hw => (hshown' id hid w hw).settledOn

/-! ## Courses of events -/

/-- What is asked of an application when it has its windows painted. -/
structure Paintable (ws : WindowSet) (b : Buffers) (g : Grid) : Prop extends
    LaidOut ws.visible b g where
  cursor : ∀ w, b.window? ws.display = some w →
    w.top + w.cursorRow < g.rows ∧ w.left + w.cursorCol < g.cols

/-- The paintings that come about by calls to an engine that starts out empty, by changes to its
windows that do not forget damage, and by paints that succeed. The terminal may have shown anything
before. -/
inductive Course (ws : WindowSet) (g : Grid) : Painting → Prop
  | start (sink : Sink) (budget : Option Nat) : Course ws g ⟨sink, { budget }⟩
  | create {p : Painting} {area : Rect} {id : WindowId} {b : Buffers} :
    Course ws g p → p.buffers.create area = .ok (id, b) → Course ws g { p with buffers := b }
  | edit {p : Painting} {id : WindowId} {e : Edit} {b : Buffers} :
    Course ws g p → e ≠ .markClean → p.buffers.edit id e = .ok ((), b) →
    Course ws g { p with buffers := b }
  | change {p : Painting} {id : WindowId} {c : Change} :
    Course ws g p → c ≠ .edit .markClean →
    Course ws g { p with buffers := p.buffers.modifyWindow id (·.change c) }
  | destroy {p : Painting} {id : WindowId} {b : Buffers} :
    Course ws g p → p.buffers.destroy id = .ok ((), b) → Course ws g { p with buffers := b }
  | paint {p p' : Painting} :
    Course ws g p → Paintable ws p.buffers (p.terminal g) → exec (paint ws) p = (.ok (), p') →
    Course ws g p'

theorem Settled.change (h : p.Settled ids g) {c : Change} (hc : c ≠ .edit .markClean)
    (id : WindowId) :
    Settled ids g { p with buffers := p.buffers.modifyWindow id (·.change c) } := by
  refine h.update fun id' w' hw' => ?_
  rw [Buffers.window?_modifyWindow] at hw'
  split at hw'
  · obtain ⟨w, hw, rfl⟩ := Option.map_eq_some_iff.mp hw'
    exact .inr (.inr ⟨w, c, hw, hc, rfl⟩)
  · exact .inl hw'

theorem Course.settled {ws : WindowSet} (h : Course ws g p) : p.Settled ws.visible g := by
  induction h with
  | start sink budget =>
    exact ⟨fun id w hw => absurd hw (by simp), fun id _ w hw => absurd hw (by simp)⟩
  | create _ hcreate ih =>
    obtain ⟨-, hwindows⟩ := Buffers.of_create_ok hcreate
    refine ih.update fun id' w' hw' => ?_
    rw [hwindows] at hw'
    split at hw'
    · cases hw'
      exact .inr (.inl ⟨_, rfl⟩)
    · exact .inl hw'
  | edit _ hclean hedit ih =>
    obtain ⟨w, -, rfl⟩ := Buffers.of_edit_ok hedit
    exact ih.change (c := .edit _) (fun h => hclean (Change.edit.inj h)) _
  | change _ hclean ih => exact ih.change hclean _
  | destroy _ hdestroy ih =>
    obtain ⟨-, -, hwindows⟩ := Buffers.of_destroy_ok hdestroy
    refine ih.update fun id' w' hw' => ?_
    rw [hwindows] at hw'
    split at hw'
    · cases hw'
    · exact .inl hw'
  | paint _ hout hpaint ih => exact (ih.paint hout.toLaidOut hpaint).1

/-- **Painting what has changed shows everything.** After every paint in a course of events, the
terminal shows all cells of all visible windows, and its cursor stands at that of the display. The
windows look as they did before. -/
theorem shownOn_paint {ws : WindowSet} (h : Course ws g p)
    (hout : Paintable ws p.buffers (p.terminal g)) (hpaint : exec (paint ws) p = (.ok (), p')) :
    Alike p.buffers p'.buffers ∧
      (∀ id ∈ ws.visible, ∀ w, p'.buffers.window? id = some w → w.ShownOn (p'.terminal g)) ∧
      ∀ w, p'.buffers.window? ws.display = some w →
        (p'.terminal g).cursorRow = w.top + w.cursorRow ∧
          (p'.terminal g).cursorCol = w.left + w.cursorCol ∧
          (p'.terminal g).cursorVisible = true := by
  obtain ⟨-, halike, hshown⟩ := h.settled.paint hout.toLaidOut hpaint
  refine ⟨halike, hshown, fun w hw => ?_⟩
  obtain ⟨w₀, hw₀, hplain⟩ := halike.exists_window hw
  obtain ⟨-, htop, hleft, -, hrow, hcol⟩ := Window.eq_of_plain hplain
  obtain ⟨hinRow, hinCol⟩ := hout.cursor w₀ hw₀
  obtain ⟨-, q', -, -, -, -, hterminal⟩ := of_paint_ok hpaint rfl
  obtain ⟨hrows, hcols⟩ := p.size_terminal q' g
  rw [hterminal, hw]
  exact cursor_feed_closing _ (by omega) (by omega)

/-- The windows of a session. -/
def sampleWindows : WindowSet where
  display := 0
  physical := 1
  snapshot := 2

/-- A word in the display. -/
def sampleChange : Change := .edit (.putText 0 1 (String.ofList ['o', 'k']))

/-- That word has been written on a terminal of two rows and four columns, and nothing has been
painted yet. -/
def sample : Painting where
  sink := {}
  buffers := Buffers.modifyWindow
    { slots := #[some (.blank ⟨0, 0, 2, 4⟩), some (.blank ⟨0, 0, 2, 4⟩),
        some (.blank ⟨0, 0, 2, 4⟩)] }
    0 (·.change sampleChange)

/-- A terminal full of something else. -/
def sampleGrid : Grid where
  rows := 2
  cols := 4
  cells := fun _ _ => Grid.space .inverse

theorem course_sample : Course sampleWindows sampleGrid sample := by
  have hcreate (slots : Array (Option Window)) :
      ({ slots } : Buffers).create ⟨0, 0, 2, 4⟩ =
        .ok (slots.size, { slots := slots.push (some (.blank ⟨0, 0, 2, 4⟩)) }) := rfl
  have hstart : Course sampleWindows sampleGrid ⟨{}, {}⟩ := .start {} none
  exact .change (.create (.create (.create hstart (hcreate _)) (hcreate _)) (hcreate _))
    (by simp [sampleChange])

theorem window?_sample {w : Window} (h : sample.buffers.window? 0 = some w) :
    w = (Window.blank ⟨0, 0, 2, 4⟩).change sampleChange := by
  rw [sample, Buffers.window?_modifyWindow, if_pos rfl] at h
  exact (Option.some.inj h).symm

theorem narrow_sampleChange : sampleChange.Narrow := by
  have ho : columns 'o' ≤ 2 := by decide
  have hk : columns 'k' ≤ 2 := by decide
  simpa [sampleChange, Change.Narrow, Change.text, Edit.text] using And.intro ho hk

theorem paintable_sample : Paintable sampleWindows sample.buffers (sample.terminal sampleGrid) where
  fits := by
    intro id hid w hw
    obtain rfl : id = 0 := by simpa [sampleWindows, WindowSet.visible] using hid
    obtain rfl := window?_sample hw
    apply Window.FitsOn.mk
    · decide +kernel
    · decide +kernel
    · have hcut : ¬ (Window.blank ⟨0, 0, 2, 4⟩).Cuts sampleChange := by
        unfold sampleChange Window.Cuts
        decide +kernel
      exact (Window.whole_change_iff (Window.whole_blank _) (Window.rectangular_blank _)
        narrow_sampleChange).mpr hcut
    · have narrow : ∀ c ∈ [sampleChange], c.Narrow := by simpa using narrow_sampleChange
      have hblank : ({} : Cell).Drawn := by
        intro c hc
        cases hc
      exact Window.drawn_changes narrow (Window.cells_blank ⟨0, 0, 2, 4⟩ hblank)
  apart := by
    intro id hid id' hid' hne
    simp only [sampleWindows, WindowSet.visible, List.map_nil, List.nil_append, Option.toList_none,
      List.append_nil, List.mem_singleton] at hid hid'
    exact absurd (hid.trans hid'.symm) hne
  cursor := by
    intro w hw
    obtain rfl := window?_sample hw
    decide +kernel

/-- The word is on the terminal after the first paint. -/
theorem shownOn_paint_sample :
    exec (paint sampleWindows) sample = (.ok (), (exec (paint sampleWindows) sample).2) ∧
      ∀ id ∈ sampleWindows.visible, ∀ w,
        (exec (paint sampleWindows) sample).2.buffers.window? id = some w →
        w.ShownOn ((exec (paint sampleWindows) sample).2.terminal sampleGrid) := by
  have hok : (exec (paint sampleWindows) sample).1 = .ok () := by decide +kernel
  have hpaint : exec (paint sampleWindows) sample =
      (.ok (), (exec (paint sampleWindows) sample).2) := by
    rw [← hok]
  exact ⟨hpaint, (shownOn_paint course_sample paintable_sample hpaint).2.1⟩

end Painting

end TerminalSession
