import TerminalSession.Proofs.Paint.Writing
import TerminalSession.Proofs.Window.Dirty
import TerminalSession.Proofs.Window.Whole

/-!
# Windows on a terminal

A window can be on the terminal entirely (`Window.ShownOn`) or as far as it is not dirty
(`Window.SettledOn`). No way of changing a window loses the second (`SettledOn.change`), since no
line changes without a mark, and writing the window makes the first of it (`shownOn_feed`).

What a paint does to windows cannot be seen in what they show (`Alike`), so the terminal may be laid
out for the windows as they were before (`LaidOut`).
-/

namespace TerminalSession

open TerminalSession.Action TerminalSession.Line

/-- Two rectangles without a common cell. -/
def Rect.Apart (r r' : Rect) : Prop :=
  r.top + r.rows ≤ r'.top ∨ r'.top + r'.rows ≤ r.top ∨
    r.left + r.cols ≤ r'.left ∨ r'.left + r'.cols ≤ r.left

namespace Window

variable {w w' : Window} {g : Grid} {c : Change}

/-- What holds of every window, whatever has happened to it. -/
structure Sound (w : Window) : Prop where
  rectangular : w.Rectangular
  joined : ∀ line ∈ w.lines, line.Joined

theorem sound_blank (area : Rect) : (blank area).Sound :=
  ⟨rectangular_blank area, joined_blank area⟩

theorem Sound.change (h : w.Sound) (c : Change) : (w.change c).Sound :=
  ⟨h.rectangular.change c, joined_changes h.joined [c]⟩

/-- All lines of a window are on the terminal. -/
def ShownOn (w : Window) (g : Grid) : Prop :=
  ∀ row line, w.lines[row]? = some line → g.Shows (w.top + row) w.left line

/-- All lines of a window that are not dirty are on the terminal. -/
def SettledOn (w : Window) (g : Grid) : Prop :=
  ∀ row line, w.lines[row]? = some line → w.isDirty row = false → g.Shows (w.top + row) w.left line

theorem ShownOn.settledOn (h : w.ShownOn g) : w.SettledOn g :=
  fun row line hline _ => h row line hline

theorem ShownOn.of_cells {g' : Grid} (h : w.ShownOn g) (hcells : g'.cells = g.cells) :
    w.ShownOn g' := by
  intro row line hline x cell hx
  rw [hcells]
  exact h row line hline x cell hx

theorem settledOn_blank (area : Rect) (g : Grid) : (blank area).SettledOn g := by
  intro row line _ hclean
  rw [isDirty_of_full rfl] at hclean
  cases hclean

/-- What is not dirty after a change is on the terminal if it was before. -/
theorem SettledOn.change (h : w.SettledOn g) (hc : c ≠ .edit .markClean) :
    (w.change c).SettledOn g := by
  intro row line hline hclean
  obtain ⟨hline, hclean, htop, hleft⟩ := unchanged_of_not_dirty hc hline hclean
  rw [htop, hleft]
  exact h row line hline hclean

/-- A window that could be painted as it stands: inside the terminal, without split characters, and
without characters that a terminal has no cells for. -/
structure FitsOn (w : Window) (g : Grid) : Prop where
  bottom : w.top + w.rows ≤ g.rows
  right : w.left + w.cols ≤ g.cols
  whole : w.Whole
  drawn : ∀ line ∈ w.lines, ∀ cell ∈ line, cell.Drawn

theorem FitsOn.paired (h : w.FitsOn g) (hs : w.Sound) {line : Line} (hl : line ∈ w.lines) :
    Paired line.toList :=
  paired_of_whole (h.whole line hl) (hs.joined line hl) fun cell hc =>
    h.drawn line hl cell (Array.mem_toList_iff.mp hc)

/-- A window apart from an area has its lines outside of it. -/
theorem misses_of_apart (hs : w.Sound) {area : Rect} (hapart : w.area.Apart area) {row : Nat}
    {line : Line} (hline : w.lines[row]? = some line) :
    area.Misses (w.top + row) w.left line.size := by
  have hlt := (Array.getElem?_eq_some_iff.mp hline).1
  have hsize := hs.rectangular line (Array.mem_of_getElem? hline)
  simp only [Rect.Apart, Window.area, rows] at hapart
  simp only [Rect.Misses]
  omega

/-- Writing a window shows all of it, and nothing else is lost. -/
theorem shownOn_feed (hs : w.Sound) (hfits : w.FitsOn g) {whole : Bool}
    (hsettled : whole = false → w.SettledOn g) :
    w.ShownOn (g.feed (if whole then w.markAll else w).sequences) ∧
      g.Spares w.area.Misses (g.feed (if whole then w.markAll else w).sequences) := by
  have hlines : ∀ line ∈ w.lines.toList, Paired line.toList ∧ line.size = w.cols := by
    intro line hl
    rw [Array.mem_toList_iff] at hl
    exact ⟨hfits.paired hs hl, hs.rectangular line hl⟩
  have hsequences : (if whole then w.markAll else w).sequences =
      Grid.linesSequences w.top w.left (if whole then w.markAll else w).isDirty
        w.lines.toList 0 := by
    cases whole <;> rfl
  have hbottom : w.top + 0 + w.lines.toList.length ≤ g.rows := by simpa [rows] using hfits.bottom
  obtain ⟨hspares, hshows⟩ :=
    Grid.feed_lines (if whole then w.markAll else w).isDirty hlines hbottom hfits.right
  rw [hsequences]
  refine ⟨fun row line hline => ?_, by simpa [Window.area, rows] using hspares⟩
  have := hshows row line (by simpa using hline)
  rw [Nat.zero_add] at this
  refine this fun hclean => ?_
  cases whole with
  | false => exact hsettled rfl row line hline hclean
  | true =>
    rw [if_pos rfl, isDirty_of_full rfl] at hclean
    cases hclean

/-! ## What a paint leaves of a window -/

/-- The window as it looks: without what it asks of a paint. -/
def plain (w : Window) : Window := { w with damage := {}, full := false, clear := false }

theorem eq_of_plain (h : w'.plain = w.plain) :
    w'.lines = w.lines ∧ w'.top = w.top ∧ w'.left = w.left ∧ w'.cols = w.cols ∧
      w'.cursorRow = w.cursorRow ∧ w'.cursorCol = w.cursorCol := by
  simp only [plain, mk.injEq] at h
  tauto

theorem area_of_plain (h : w'.plain = w.plain) : w'.area = w.area := by
  obtain ⟨hlines, htop, hleft, hcols, -⟩ := eq_of_plain h
  simp only [area, rows, hlines, htop, hleft, hcols]

theorem Sound.of_plain (hs : w.Sound) (h : w'.plain = w.plain) : w'.Sound := by
  obtain ⟨hlines, -, -, hcols, -⟩ := eq_of_plain h
  refine ⟨?_, ?_⟩
  · unfold Rectangular
    rw [hlines, hcols]
    exact hs.rectangular
  · rw [hlines]
    exact hs.joined

theorem FitsOn.of_plain (hf : w.FitsOn g) (h : w'.plain = w.plain) : w'.FitsOn g := by
  obtain ⟨hlines, htop, hleft, hcols, -⟩ := eq_of_plain h
  refine ⟨?_, ?_, ?_, ?_⟩
  · rw [rows, hlines, htop]
    exact hf.bottom
  · rw [hleft, hcols]
    exact hf.right
  · unfold Whole
    rw [hlines]
    exact hf.whole
  · rw [hlines]
    exact hf.drawn

theorem ShownOn.of_plain (hs : w.ShownOn g) (h : w'.plain = w.plain) : w'.ShownOn g := by
  obtain ⟨hlines, htop, hleft, -⟩ := eq_of_plain h
  unfold ShownOn
  rw [hlines, htop, hleft]
  exact hs

end Window

/-! ## The windows of a painting -/

/-- The windows with some ids, if they are there, have places of their own inside the terminal, and
could be painted there. -/
structure LaidOut (ids : List WindowId) (b : Buffers) (g : Grid) : Prop where
  fits : ∀ id ∈ ids, ∀ w, b.window? id = some w → w.FitsOn g
  apart : ∀ id ∈ ids, ∀ id' ∈ ids, id ≠ id' → ∀ w w', b.window? id = some w →
    b.window? id' = some w' → w.area.Apart w'.area

/-- Two engines whose windows look the same. -/
def Alike (b b' : Buffers) : Prop :=
  ∀ id, (b'.window? id).map Window.plain = (b.window? id).map Window.plain

theorem Alike.of_map {b b' : Buffers} {f : WindowId → Window → Window}
    (h : ∀ id, b'.window? id = (b.window? id).map (f id)) (hf : ∀ id w, (f id w).plain = w.plain) :
    Alike b b' := by
  intro id
  rw [h, Option.map_map]
  congr 1
  funext w
  exact hf id w

theorem Alike.trans {b b' b'' : Buffers} (h : Alike b b') (h' : Alike b' b'') : Alike b b'' :=
  fun id => (h' id).trans (h id)

theorem Alike.exists_window {b b' : Buffers} (h : Alike b b') {id : WindowId} {w' : Window}
    (hw' : b'.window? id = some w') : ∃ w, b.window? id = some w ∧ w'.plain = w.plain := by
  have := h id
  rw [hw', Option.map_some] at this
  obtain ⟨w, hw, hplain⟩ := Option.map_eq_some_iff.mp this.symm
  exact ⟨w, hw, hplain.symm⟩

theorem LaidOut.of_alike {ids : List WindowId} {b b' : Buffers} {g : Grid} (h : LaidOut ids b g)
    (halike : Alike b b') : LaidOut ids b' g where
  fits id hid w' hw' := by
    obtain ⟨w, hw, hplain⟩ := halike.exists_window hw'
    exact (h.fits id hid w hw).of_plain hplain
  apart id hid id' hid' hne w₁' w₂' hw₁' hw₂' := by
    obtain ⟨w₁, hw₁, hplain₁⟩ := halike.exists_window hw₁'
    obtain ⟨w₂, hw₂, hplain₂⟩ := halike.exists_window hw₂'
    rw [Window.area_of_plain hplain₁, Window.area_of_plain hplain₂]
    exact h.apart id hid id' hid' hne w₁ w₂ hw₁ hw₂

theorem LaidOut.of_size {ids : List WindowId} {b : Buffers} {g g' : Grid} (h : LaidOut ids b g)
    (hrows : g'.rows = g.rows) (hcols : g'.cols = g.cols) : LaidOut ids b g' where
  fits id hid w hw :=
    have hf := h.fits id hid w hw
    ⟨hrows ▸ hf.bottom, hcols ▸ hf.right, hf.whole, hf.drawn⟩
  apart := h.apart

theorem LaidOut.tail {id : WindowId} {ids : List WindowId} {b : Buffers} {g : Grid}
    (h : LaidOut (id :: ids) b g) : LaidOut ids b g where
  fits id hid := h.fits id (.tail _ hid)
  apart id hid id' hid' := h.apart id (.tail _ hid) id' (.tail _ hid')

/-- Every window is sound. -/
def AllSound (b : Buffers) : Prop := ∀ id w, b.window? id = some w → w.Sound

theorem AllSound.of_alike {b b' : Buffers} (h : AllSound b) (halike : Alike b b') :
    AllSound b' := by
  intro id w' hw'
  obtain ⟨w, hw, hplain⟩ := halike.exists_window hw'
  exact (h id w hw).of_plain hplain

/-- Whether a stretch of a row lies outside of all windows with some ids. -/
def MissesAll (ids : List WindowId) (b : Buffers) (row col length : Nat) : Prop :=
  ∀ id ∈ ids, ∀ w, b.window? id = some w → w.area.Misses row col length

theorem MissesAll.of_alike {ids : List WindowId} {b b' : Buffers} {row col length : Nat}
    (h : MissesAll ids b row col length) (halike : Alike b b') :
    MissesAll ids b' row col length := by
  intro id hid w' hw'
  obtain ⟨w, hw, hplain⟩ := halike.exists_window hw'
  rw [Window.area_of_plain hplain]
  exact h id hid w hw

/-- A line that is shown of one window is spared where others are written. -/
theorem LaidOut.shows_of_spares {ids ids' : List WindowId} {b : Buffers} {g g₁ g₂ : Grid}
    (h : LaidOut ids b g) (hsound : AllSound b) {id : WindowId} (hid : id ∈ ids)
    (hothers : ∀ id' ∈ ids', id' ∈ ids ∧ id ≠ id') (hspares : g₁.Spares (MissesAll ids' b) g₂)
    {w : Window} (hw : b.window? id = some w) {row : Nat} {line : Line}
    (hline : w.lines[row]? = some line) (hshows : g₁.Shows (w.top + row) w.left line) :
    g₂.Shows (w.top + row) w.left line := by
  have hpaired : Paired line.toList :=
    (h.fits id hid w hw).paired (hsound id w hw) (Array.mem_of_getElem? hline)
  refine hspares.shows hpaired (fun id' hid' w' hw' => ?_) hshows
  obtain ⟨hmem, hne⟩ := hothers id' hid'
  exact Window.misses_of_apart (hsound id w hw) (h.apart id hid id' hmem hne w w' hw hw') hline

end TerminalSession
