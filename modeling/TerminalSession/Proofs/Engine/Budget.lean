import TerminalSession.Proofs.Engine.Resizing
import TerminalSession.Proofs.Engine.Store
import TerminalSession.Proofs.Window.Shape

/-!
# The budget of an engine

An engine counts the cells in use from the sizes of its windows, and that count is the number of
cells they hold, since every window is a full rectangle. So what the budget grants and refuses is
what there is room for (`budget_exact`).
-/

namespace TerminalSession

open TerminalSession.Action

/-- The cells that a window holds. -/
def Window.held (w : Window) : Nat := (w.lines.toList.map Array.size).sum

theorem Window.Rectangular.held_eq {w : Window} (h : w.Rectangular) : w.held = w.cellCount := by
  have hsizes : w.lines.toList.map Array.size = List.replicate w.lines.size w.cols := by
    refine List.eq_replicate_iff.mpr ⟨by simp, fun size hsize => ?_⟩
    obtain ⟨line, hline, rfl⟩ := List.mem_map.mp hsize
    exact h line (Array.mem_toList_iff.mp hline)
  rw [held, hsizes, List.sum_replicate_nat, cellCount]

namespace Buffers

variable {b b' : Buffers} {c : EngineCall} {w : Window} {id : WindowId} {area : Rect}
  {rows cols : Nat}

/-- The cells that the windows there are hold. -/
def held (b : Buffers) : Nat := (b.live.map fun p => p.2.held).sum

/-- Every window is a full rectangle, and all of them fit the budget. -/
structure Sound (b : Buffers) : Prop where
  rectangular : ∀ id w, b.window? id = some w → w.Rectangular
  roomy : b.Roomy

namespace Sound

/-- What is counted as in use is what is held. -/
theorem inUse_eq_held (h : b.Sound) : b.inUse = b.held := by
  have hsum (slots : List (Option Window)) (first : Nat)
      (hslots : ∀ w, some w ∈ slots → w.Rectangular) :
      (slots.map slotCells).sum =
        (((slots.zipIdx first).filterMap fun p => p.1.map (p.2, ·)).map fun p => p.2.held).sum := by
    induction slots generalizing first with
    | nil => rfl
    | cons slot slots ih =>
      have hrest := ih (first + 1) fun w hw => hslots w (.tail _ hw)
      cases slot with
      | none => simpa [slotCells] using hrest
      | some w => simpa [slotCells, (hslots w (.head _)).held_eq] using hrest
  refine hsum b.slots.toList 0 fun w hw => ?_
  obtain ⟨id, hid⟩ := List.mem_iff_getElem?.mp hw
  exact h.rectangular id w (by rw [window?, ← Array.getElem?_toList, hid]; rfl)

theorem after (h : b.Sound) (hgranted : b.refusal c = none) : (b.after c).Sound := by
  cases c with
  | create area =>
    refine ⟨fun id w hw => ?_, ?_⟩
    · have hcreate := b.create_refusal area
      rw [hgranted] at hcreate
      rw [(of_create_ok hcreate).2] at hw
      split at hw
      · cases hw
        exact Window.rectangular_blank area
      · exact h.rectangular id w hw
    · rw [Roomy, Buffers.after, inUse_push, Window.cellCount_blank]
      exact (refusal_create_eq_none.mp hgranted).2.2
  | edit id e =>
    have hedit := b.edit_refusal id e
    rw [hgranted] at hedit
    refine ⟨fun id' w hw => ?_, h.roomy.edit hedit⟩
    rw [Buffers.after, window?_modifyWindow] at hw
    split at hw
    · obtain ⟨old, hold, rfl⟩ := Option.map_eq_some_iff.mp hw
      exact (h.rectangular id' old hold).change (.edit e)
    · exact h.rectangular id' w hw
  | destroy id =>
    refine ⟨fun id' w hw => ?_, h.roomy.discard [id]⟩
    rw [Buffers.after, window?_discard] at hw
    split at hw
    · cases hw
    · exact h.rectangular id' w hw
  | geometry id => exact h

theorem calls {u : Usage} (h : u.engine.Sound) (cs : List EngineCall) :
    (u.calls cs).engine.Sound := by
  induction cs generalizing u with
  | nil => exact h
  | cons c cs ih =>
    refine ih (u := u.call c) ?_
    rw [Usage.call, exec_action]
    cases hc : u.engine.refusal c with
    | some cause => exact h
    | none => exact h.after hc

/-- What a window gives back when it gets another size is what it holds. -/
theorem cells_eq_held (h : b.Sound) (hw : b.window? id = some w) : b.cells id = w.held := by
  rw [cells_of_window? hw, (h.rectangular id w hw).held_eq]

end Sound

theorem sound_empty (budget : Option Nat) : Sound { budget } :=
  ⟨fun _ _ hw => (nomatch hw), fun _ _ => Nat.zero_le _⟩

theorem budget_after (b : Buffers) (c : EngineCall) : (b.after c).budget = b.budget := by
  cases c <;> rfl

theorem budget_calls (u : Usage) (cs : List EngineCall) :
    (u.calls cs).engine.budget = u.engine.budget := by
  induction cs generalizing u with
  | nil => rfl
  | cons c cs ih =>
    refine (ih (u.call c)).trans ?_
    rw [Usage.call, exec_action]
    cases u.engine.refusal c with
    | some cause => rfl
    | none => exact u.engine.budget_after c

/-! ## What a limit grants -/

section

variable {limit requested available : Nat} (hlimit : b.budget = some limit)

include hlimit

theorem create_ok_iff : (∃ id, (exec (action (.create area)) b).1 = .ok (.made id)) ↔
    0 < area.rows ∧ 0 < area.cols ∧ b.inUse + area.rows * area.cols ≤ limit := by
  simp [result_eq_ok_iff, refusal_create_eq_none, hlimit, answer, Nat.pos_iff_ne_zero]

variable (h : b.Sound)

include h

theorem held_le_limit : b.held ≤ limit := by
  rw [← h.inUse_eq_held]
  exact h.roomy limit hlimit

theorem resize_ok_iff : (exec (action (.edit id (.resize rows cols))) b).1 = .ok .done ↔
    ∃ w, b.window? id = some w ∧ 0 < rows ∧ 0 < cols ∧
      b.inUse - w.held + rows * cols ≤ limit := by
  rw [result_eq_ok_iff, refusal_resize_eq_none, hlimit, fits_some, answer, and_iff_left rfl,
    ← Nat.pos_iff_ne_zero, ← Nat.pos_iff_ne_zero]
  constructor
  · rintro ⟨hlive, hsize⟩
    obtain ⟨w, hw⟩ := Option.isSome_iff_exists.mp hlive
    exact ⟨w, hw, h.cells_eq_held hw ▸ hsize⟩
  · rintro ⟨w, hw, hsize⟩
    exact ⟨by rw [hw]; rfl, h.cells_eq_held hw ▸ hsize⟩

theorem create_outOfMemory_iff :
    (exec (action (.create area)) b).1 = .error (.outOfMemory requested available) ↔
      0 < area.rows ∧ 0 < area.cols ∧ limit < b.inUse + area.rows * area.cols ∧
        requested = area.rows * area.cols ∧ available + b.inUse = limit := by
  have hroom := h.roomy limit hlimit
  rw [result_eq_error_iff, refusal, hlimit]
  split
  · simp only [Option.some.injEq, reduceCtorEq, false_iff]
    omega
  split <;> rename_i hfits <;> rw [fits_some] at hfits
  · simp only [reduceCtorEq, false_iff]
    omega
  · simp only [remaining, Option.getD_some, Option.some.injEq, WindowError.outOfMemory.injEq]
    omega

theorem resize_outOfMemory_iff : (exec (action (.edit id (.resize rows cols))) b).1 =
      .error (.outOfMemory requested available) ↔
    ∃ w, b.window? id = some w ∧ 0 < rows ∧ 0 < cols ∧ limit < b.inUse - w.held + rows * cols ∧
      requested = rows * cols ∧ available + (b.inUse - w.held) = limit := by
  have hroom := h.roomy limit hlimit
  rw [result_eq_error_iff, refusal, hlimit]
  split
  · simp only [Option.some.injEq, reduceCtorEq, false_iff, not_exists]
    omega
  cases hw : b.window? id with
  | none => simp
  | some w =>
    simp only [reduceCtorEq, if_false, Option.some.injEq, exists_eq_left', h.cells_eq_held hw,
      fits_some]
    split
    · simp only [reduceCtorEq, false_iff]
      omega
    · simp only [remaining, Option.getD_some, Option.some.injEq, WindowError.outOfMemory.injEq]
      omega

end

/-- Under a limit, what the windows hold stays within it, a new window or size is granted exactly
if there is room for it, and a refusal for lack of room tells how much there is. -/
theorem budget_exact (limit : Nat) (cs : List EngineCall) :
    let b := (Usage.calls { engine := { budget := some limit } } cs).engine
    b.held ≤ limit ∧ b.inUse = b.held ∧
      (∀ area, (∃ id, (exec (action (.create area)) b).1 = .ok (.made id)) ↔
        0 < area.rows ∧ 0 < area.cols ∧ b.inUse + area.rows * area.cols ≤ limit) ∧
      (∀ id rows cols, (exec (action (.edit id (.resize rows cols))) b).1 = .ok .done ↔
        ∃ w, b.window? id = some w ∧ 0 < rows ∧ 0 < cols ∧
          b.inUse - w.held + rows * cols ≤ limit) ∧
      (∀ id w rows cols, b.window? id = some w → 0 < rows → 0 < cols → rows * cols ≤ w.held →
        (exec (action (.edit id (.resize rows cols))) b).1 = .ok .done) ∧
      (∀ area requested available,
        (exec (action (.create area)) b).1 = .error (.outOfMemory requested available) ↔
          0 < area.rows ∧ 0 < area.cols ∧ limit < b.inUse + area.rows * area.cols ∧
            requested = area.rows * area.cols ∧ available + b.inUse = limit) ∧
      (∀ id rows cols requested available,
        (exec (action (.edit id (.resize rows cols))) b).1 =
            .error (.outOfMemory requested available) ↔
          ∃ w, b.window? id = some w ∧ 0 < rows ∧ 0 < cols ∧
            limit < b.inUse - w.held + rows * cols ∧
            requested = rows * cols ∧ available + (b.inUse - w.held) = limit) ∧
      ∀ id w, b.window? id = some w → w.cellCount = w.held ∧ w.cellCount ≤ b.inUse := by
  intro b
  have h : b.Sound := (sound_empty (some limit)).calls (u := { engine := { budget := some limit } }) cs
  have hlimit : b.budget = some limit := budget_calls { engine := { budget := some limit } } cs
  have hheld {id : WindowId} {w : Window} (hw : b.window? id = some w) :
      w.cellCount = w.held ∧ w.cellCount ≤ b.inUse :=
    ⟨((h.rectangular id w hw).held_eq).symm, cells_of_window? hw ▸ b.cells_le_inUse id⟩
  refine ⟨held_le_limit hlimit h, h.inUse_eq_held, fun _ => create_ok_iff hlimit,
    fun _ _ _ => resize_ok_iff hlimit h, fun id w rows cols hw hrows hcols hle => ?_,
    fun _ _ _ => create_outOfMemory_iff hlimit h, fun _ _ _ _ _ => resize_outOfMemory_iff hlimit h,
    fun id w => hheld⟩
  have hroom : b.inUse ≤ limit := h.roomy limit hlimit
  obtain ⟨heq, hcells⟩ := hheld hw
  exact (resize_ok_iff hlimit h).mpr ⟨w, hw, hrows, hcols, by omega⟩

end Buffers

end TerminalSession
