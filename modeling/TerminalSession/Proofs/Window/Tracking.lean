import TerminalSession.Proofs.Window.Dirty

/-!
# What the damage of a window tells

A change marks some lines one by one (`Marks`) or has the whole window drawn again (`Overhauls`),
and that is all it adds to the damage (`contains_damage_change`, `full_change`). Only with an
overhaul does a window get another size or another place.

So a line that is not dirty is the line it was when all damage was last forgotten, and, unless
everything is to be drawn again, the marks name lines that the window has (`damage_exact`).
-/

namespace TerminalSession.Window

variable {w : Window} {c : Change} {cs : List Change} {row : Nat} {line : Line}

/-- The lines that a change marks one by one. -/
def Marks (w : Window) : Change → Nat → Prop
  | .edit .eraseBelow, row => w.cursorRow ≤ row ∧ row < w.rows
  | .edit (.putText target _ _), row => row = target ∧ row < w.rows
  | _, _ => False

/-- Whether a change has the whole window drawn again. -/
def Overhauls (w : Window) : Change → Prop
  | .edit (.resize ..) | .edit .erase | .edit .markDirty => True
  | .edit (.move top left) => ¬ (w.top = top ∧ w.left = left)
  | _ => False

theorem contains_damage_change (hc : c ≠ .edit .markClean) (row : Nat) :
    (w.change c).damage.contains row = true ↔ w.damage.contains row = true ∨ w.Marks c row := by
  cases c with
  | putCursor => simp [change, Marks]
  | edit e =>
    cases e with
    | move top left =>
      simp only [change, edit, move, Marks, or_false]
      split <;> rfl
    | eraseBelow => simp [change, edit, eraseBelow, Marks, rows]
    | putText target col text =>
      simp only [change, edit, putText, Marks, rows]
      cases htarget : w.lines[target]? with
      | none =>
        have hsize := Array.getElem?_eq_none_iff.mp htarget
        exact ⟨.inl, fun h => h.resolve_right fun hmarked => by omega⟩
      | some old =>
        have hsize := (Array.getElem?_eq_some_iff.mp htarget).1
        have hat : target ≤ row ∧ row < target + 1 ↔ row = target ∧ row < w.lines.size := by omega
        simp only [Damage.contains_mark, Bool.or_eq_true, Bool.and_eq_true, decide_eq_true_eq, hat]
    | resize | erase | setAttrs | markDirty | setClear =>
      simp [change, edit, resize, erase, markAll, Marks]
    | markClean => exact absurd rfl hc

theorem full_change (hc : c ≠ .edit .markClean) :
    (w.change c).full = true ↔ w.full = true ∨ w.Overhauls c := by
  cases c with
  | putCursor => simp [change, Overhauls]
  | edit e =>
    cases e with
    | move top left =>
      simp only [change, edit, move, Overhauls]
      split <;> simp [*]
    | putText target col text =>
      simp only [change, edit, putText, Overhauls, or_false]
      split <;> rfl
    | resize | erase | eraseBelow | setAttrs | markDirty | setClear =>
      simp [change, edit, resize, erase, eraseBelow, markAll, Overhauls]
    | markClean => exact absurd rfl hc

/-- What is to be drawn stays to be drawn. -/
theorem isDirty_change (hc : c ≠ .edit .markClean) (h : w.isDirty row = true) :
    (w.change c).isDirty row = true := by
  rw [isDirty, Bool.or_eq_true] at h ⊢
  exact h.imp (fun h => (full_change hc).mpr (.inl h))
    fun h => (contains_damage_change hc row).mpr (.inl h)

/-- A window that is not to be drawn as a whole after a change has the size and the place it had. -/
theorem area_change (h : (w.change c).full = false) : (w.change c).area = w.area := by
  have absurdFull {P : Prop} (hfull : (w.change c).full = true) : P := by
    rw [hfull] at h
    cases h
  cases c with
  | putCursor => rfl
  | edit e =>
    cases e with
    | resize | erase | markDirty => exact absurdFull rfl
    | move top left =>
      by_cases hplace : w.top = top ∧ w.left = left
      · simp [change, edit, move, hplace]
      · exact absurdFull (by simp [change, edit, move, hplace])
    | eraseBelow => simp [change, edit, eraseBelow, area, rows]
    | putText target col text =>
      simp only [change, edit, putText]
      split
      · rfl
      · simp [area, rows]
    | setAttrs | markClean | setClear => rfl

theorem full_of_not_dirty (h : w.isDirty row = false) : w.full = false := by
  simp only [isDirty, Bool.or_eq_false_iff] at h
  exact h.1

/-- A line that is not dirty after some changes is as it was before them, and so is the area. -/
theorem unchanged_of_changes (hcs : .edit .markClean ∉ cs)
    (hline : (w.changes cs).lines[row]? = some line) (hclean : (w.changes cs).isDirty row = false) :
    w.lines[row]? = some line ∧ w.isDirty row = false ∧ (w.changes cs).area = w.area := by
  induction cs generalizing w with
  | nil => exact ⟨hline, hclean, rfl⟩
  | cons c cs ih =>
    obtain ⟨hfirst, hrest⟩ := not_or.mp (mt List.mem_cons.mpr hcs)
    obtain ⟨hline', hclean', harea⟩ := ih hrest hline hclean
    obtain ⟨hline'', hclean'', -, -⟩ := unchanged_of_not_dirty (Ne.symm hfirst) hline' hclean'
    exact ⟨hline'', hclean'', harea.trans (area_change (full_of_not_dirty hclean'))⟩

/-! ## Marks of lines that a window does not have -/

/-- Marks outlive the lines they name only where the whole window is to be drawn again. -/
def MarksLines (w : Window) : Prop := w.full = false → ∀ row ∈ w.damage.lines, row < w.rows

theorem MarksLines.change (h : w.MarksLines) (c : Change) : (w.change c).MarksLines := by
  intro hfull row hrow
  rw [Damage.mem_lines] at hrow
  by_cases hc : c = .edit .markClean
  · subst hc
    cases (Damage.contains_empty row).symm.trans hrow
  · have hkept : w.full = false := by
      rw [Bool.eq_false_iff] at hfull ⊢
      exact fun hw => hfull ((full_change hc).mpr (.inl hw))
    have hrows : (w.change c).rows = w.rows := congrArg Rect.rows (area_change hfull)
    rw [hrows]
    rcases (contains_damage_change hc row).mp hrow with hold | hnew
    · exact h hkept row ((Damage.mem_lines ..).mpr hold)
    · cases c with
      | putCursor => exact hnew.elim
      | edit e =>
        cases e with
        | eraseBelow | putText => exact hnew.2
        | _ => exact hnew.elim

theorem MarksLines.changes (h : w.MarksLines) (cs : List Change) : (w.changes cs).MarksLines := by
  induction cs generalizing w with
  | nil => exact h
  | cons c cs ih => exact ih (h.change c)

theorem marksLines_blank (area : Rect) : (blank area).MarksLines := by
  intro h
  cases h

/-- A window with lines is damaged exactly if one of them is dirty. -/
theorem MarksLines.isDamaged_iff (h : w.MarksLines) (hrows : 0 < w.rows) :
    w.isDamaged = true ↔ ∃ row < w.rows, w.isDirty row = true := by
  cases hfull : w.full with
  | true => simpa [isDamaged, isDirty, hfull] using ⟨0, hrows⟩
  | false =>
    have hempty : w.damage.isEmpty = false ↔ ∃ row, w.damage.contains row = true := by
      rw [← Bool.not_eq_true, Damage.isEmpty_iff, Classical.not_forall]
      simp only [Bool.not_eq_false]
    simp only [isDamaged, isDirty, hfull, Bool.false_or, Bool.not_eq_true', hempty]
    refine exists_congr fun row => ⟨fun hrow => ⟨?_, hrow⟩, And.right⟩
    exact h hfull row ((Damage.mem_lines ..).mpr hrow)

/-- **What damage tells.** Whatever is done to a window after its damage was forgotten, a line of
it that is not dirty was there then and is the same, and the window lies where it lay and is as wide
as it was. Each change marks the lines it is to mark and no others. Whatever has happened to a
window since it was made, its marks name lines that it has, unless all of it is to be drawn again;
so it is damaged exactly if one of its lines is dirty, provided it has any. -/
theorem damage_exact (w : Window) {cs : List Change} (hcs : .edit .markClean ∉ cs) :
    (∀ row line, (w.markClean.changes cs).lines[row]? = some line →
      (w.markClean.changes cs).isDirty row = false →
        w.lines[row]? = some line ∧ (w.markClean.changes cs).top = w.top ∧
          (w.markClean.changes cs).left = w.left ∧ (w.markClean.changes cs).cols = w.cols) ∧
    (∀ c, c ≠ .edit .markClean → ((w.change c).full = true ↔ w.full = true ∨ w.Overhauls c) ∧
      ∀ row, (w.change c).damage.contains row = true ↔
        w.damage.contains row = true ∨ w.Marks c row) ∧
    ∀ area history, let seen := (blank area).changes history
      (seen.full = false → ∀ row ∈ seen.damage.lines, row < seen.rows) ∧
        (0 < seen.rows → (seen.isDamaged = true ↔ ∃ row < seen.rows, seen.isDirty row = true)) := by
  refine ⟨fun row line hline hclean => ?_, fun c hc => ⟨full_change hc, contains_damage_change hc⟩,
    fun area history => ?_⟩
  · obtain ⟨hsame, -, harea⟩ := unchanged_of_changes hcs hline hclean
    exact ⟨hsame, congrArg Rect.top harea, congrArg Rect.left harea, congrArg Rect.cols harea⟩
  · have hmarks := (marksLines_blank area).changes history
    exact ⟨hmarks, hmarks.isDamaged_iff⟩

/-- A text below the first line, which is wiped with all that follows, and a write that misses. -/
def below : List Change :=
  [.edit (.putText 1 0 (String.ofList ['o', 'k'])), .edit (.setAttrs .inverse), .putCursor 2 9,
    .edit .eraseBelow, .edit (.move 0 0), .edit (.putText 7 0 (String.ofList ['x']))]

/-- A window that has been written into. -/
def written : Window := (blank ⟨0, 0, 4, 3⟩).putText 0 0 (String.ofList ['h', 'i'])

/-- The first line stays clean and is still there. -/
theorem damage_exact_below :
    .edit .markClean ∉ below ∧ (written.markClean.changes below).damage.lines = [1, 2, 3] ∧
      (written.markClean.changes below).lines[0]? = written.lines[0]? := by
  have hcs : .edit .markClean ∉ below := by simp [below]
  have hlines : (written.markClean.changes below).damage.lines = [1, 2, 3] := by decide +kernel
  obtain ⟨line, hline⟩ : ∃ line, (written.markClean.changes below).lines[0]? = some line :=
    Option.isSome_iff_exists.mp (by decide +kernel)
  have hclean : (written.markClean.changes below).isDirty 0 = false := by decide +kernel
  exact ⟨hcs, hlines, hline.trans ((damage_exact written hcs).1 0 line hline hclean).1.symm⟩

end TerminalSession.Window
