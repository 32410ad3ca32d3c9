import TerminalSession.Proofs.Layout.Partition
import TerminalSession.Proofs.Screen.Granting
import TerminalSession.Proofs.Screen.Retrying

/-!
# What decides a create

A create on a terminal that opens is decided by numbers alone: the size of the terminal, how many of
its rows are claimed for reserved lines and strip, the budget for cells, and how many cells are in
use (`Screen.Verdict`). Windows are made one after another, but the last of them needs the most room,
so the threshold is the sum of all. That sum is three times the terminal, however it is shared out.
-/

namespace TerminalSession

open TerminalSession.Action

/-! ## Room for all areas -/

namespace Buffers

variable {budget : Option Nat}

theorem reserveAll_of_fits {used : Nat} {areas : List Rect}
    (hcells : ∀ area ∈ areas, area.rows ≠ 0 ∧ area.cols ≠ 0)
    (hfits : Fits budget (used + areaCells areas)) : reserveAll budget used areas = .ok () :=
  (reserveAll_eq_ok_iff (hfits.mono (Nat.le_add_right ..))).mpr ⟨hcells, hfits⟩

/-- Areas that have cells are refused for want of room only, whatever is in use before. -/
theorem reserveAll_of_not_fits {used : Nat} {areas : List Rect} (hne : areas ≠ [])
    (hcells : ∀ area ∈ areas, area.rows ≠ 0 ∧ area.cols ≠ 0)
    (hfits : ¬ Fits budget (used + areaCells areas)) :
    ∃ requested available,
      reserveAll budget used areas = .error (.outOfMemory requested available) := by
  induction areas generalizing used with
  | nil => exact absurd rfl hne
  | cons area areas ih =>
    obtain ⟨harea, hrest⟩ := List.forall_mem_cons.mp hcells
    have hsum : areaCells (area :: areas) = area.rows * area.cols + areaCells areas := by
      simp [areaCells]
    rw [hsum, ← Nat.add_assoc] at hfits
    rw [reserveAll, if_neg (not_or.mpr harea)]
    by_cases hfirst : Fits budget (used + area.rows * area.cols)
    · rw [if_pos hfirst]
      refine ih ?_ hrest hfits
      rintro rfl
      exact hfits hfirst
    · rw [if_neg hfirst]
      exact ⟨_, _, rfl⟩

/-- What is in use once windows have been given up. -/
theorem inUse_discard (b : Buffers) (ids : List WindowId) :
    (b.discard ids).inUse =
      (((List.range b.slots.size).filter (· ∉ ids)).map b.cells).sum := by
  have hsize : (b.discard ids).slots.size = b.slots.size := size_discard b ids
  have hgone (l : List WindowId) :
      (l.map (b.discard ids).cells).sum = ((l.filter (· ∉ ids)).map b.cells).sum := by
    induction l with
    | nil => rfl
    | cons id l ih =>
      by_cases hid : id ∈ ids
      · have hnone : (b.discard ids).cells id = 0 := by
          rw [cells, window?_discard, if_pos hid]
          rfl
        simp [hid, ih, hnone]
      · have hsame : (b.discard ids).cells id = b.cells id := by
          rw [cells, window?_discard, if_neg hid, cells]
        simp [hid, ih, hsame]
  rw [inUse_eq_sum_range, hsize, hgone]

end Buffers

namespace Layout

variable {rows cols : Nat} {sides : List Side} {strip : StripPlacement} {l : Layout}

theorem Allocated.ne_zero_of_mem_areas (h : Allocated rows cols sides strip l) :
    ∀ area ∈ l.areas, area.rows ≠ 0 ∧ area.cols ≠ 0 := by
  have hsum := h.sum
  have husable := h.usableRows
  have henough := h.enoughCols
  have husableCols := h.usableCols
  have hrows : l.terminalRows ≠ 0 := by rw [h.terminalRows]; omega
  have hcols : l.terminalCols ≠ 0 := by rw [h.terminalCols]; omega
  intro area harea
  simp only [areas, stripArea?, List.mem_cons, List.mem_append, List.mem_map, Option.mem_toList,
    Option.map_eq_some_iff, List.not_mem_nil, or_false] at harea
  rcases harea with rfl | rfl | ⟨top, htop, rfl⟩ | ⟨line, -, rfl⟩ | rfl
  · exact ⟨hrows, hcols⟩
  · exact ⟨hrows, hcols⟩
  · have hsome := h.isSome_stripTop
    rw [htop, Option.isSome_some] at hsome
    rw [h.placement]
    exact ⟨of_decide_eq_true hsome.symm, hcols⟩
  · exact ⟨Nat.one_ne_zero, hcols⟩
  · constructor <;> dsimp only [displayArea] <;> omega

/-- The areas of a layout have three times the cells of the terminal: each of two windows for the
whole of it has them all, and what is seen shares them out. -/
theorem Allocated.areaCells_areas (h : Allocated rows cols sides strip l) :
    Buffers.areaCells l.areas = 3 * (rows * cols) := by
  have hstrip : (l.stripArea?.toList.map fun area => area.rows * area.cols).sum =
      strip.rows * cols := by
    rw [stripArea?, h.stripTop]
    split
    · rename_i hnone
      simp [hnone]
    · simp [h.placement, h.terminalCols]
  have hlines : ((l.reserved.map l.lineArea).map fun area => area.rows * area.cols).sum =
      sides.length * cols := by
    have hconst : (l.reserved.map l.lineArea).map (fun area => area.rows * area.cols) =
        l.reserved.map fun _ => cols := by
      rw [List.map_map]
      refine List.map_congr_left fun line _ => ?_
      rw [Function.comp_apply, lineArea, h.terminalCols, Nat.one_mul]
    rw [hconst, List.map_const', List.sum_replicate, h.length_reserved]
    rfl
  have hrows : rows * cols =
      l.usableRows * cols + sides.length * cols + strip.rows * cols := by
    rw [← Nat.add_mul, ← Nat.add_mul, ← h.sum]
  simp only [Buffers.areaCells, areas, List.map_cons, List.map_append, List.sum_cons,
    List.sum_append, hstrip, hlines, List.map_nil, List.sum_nil, screenArea, displayArea,
    h.terminalRows, h.terminalCols, h.usableCols]
  omega

end Layout

/-! ## Terminals that open -/

/-- Nothing keeps a terminal from being taken over. -/
structure Headless.Opens (t : Headless) : Prop where
  accepts : t.refuses = false
  works : HeadlessFailure.acquire ∉ t.failures

theorem Headless.Opens.acquire {t : Headless} (h : t.Opens) (args : List String) :
    ∃ t' : Headless, exec (Terminal.acquire args) t = (.ok (), t') ∧ t'.rows = t.rows ∧
      t'.cols = t.cols := by
  have hguard (t' : Headless) (hfailures : t'.failures = t.failures) :
      exec (guardCall .acquire) t' = (.ok (), t') := by
    rw [guardCall, exec_bind_ok (exec_get _), exec_ite, hfailures, if_neg h.works]
    rfl
  have htake (t' : Headless) (hrefuses : t'.refuses = t.refuses) :
      exec takeOver t' = (.ok (), { t' with isOpen := true }) := by
    have haccepts : ¬ t'.refuses = true := by simp [hrefuses, h.accepts]
    rw [takeOver, exec_bind_ok (exec_get _), exec_ite, if_neg haccepts]
    rfl
  let asked : Headless := { t with arguments := t.arguments.push args }
  have hrest : exec (do modify (record .acquire); takeOver) asked = (.ok (), _) :=
    (exec_bind_ok (exec_modify ..)).trans (htake (asked.record .acquire) rfl)
  have hacquire : exec (Terminal.acquire args) t = (.ok (), _) :=
    (exec_bind_ok (exec_modify ..)).trans ((exec_bind_ok (hguard asked rfl)).trans hrest)
  exact ⟨_, hacquire, rfl, rfl⟩

namespace Screen

/-- Sizes that a terminal can have. -/
def Reportable (rows cols : Int) : Prop :=
  (1 ≤ rows ∧ rows ≤ 65535) ∧ (1 ≤ cols ∧ cols ≤ 65535)

instance (rows cols : Int) : Decidable (Reportable rows cols) :=
  inferInstanceAs (Decidable (_ ∧ _))

/-- What is made of a size that is reported. -/
def measured (rows cols : Int) : Except ScreenError (Nat × Nat) :=
  if ¬ Reportable rows cols then .error (.platformOpen (.invalidSize rows cols))
  else if rows < 2 ∨ cols < 2 then .error (.terminalTooSmall rows.toNat cols.toNat)
  else .ok (rows.toNat, cols.toNat)

variable {s s' : Screen Headless Buffers} {args : List String}

theorem exec_measure (s : Screen Headless Buffers) :
    (exec measure s).1 = measured s.terminal.rows s.terminal.cols := by
  obtain ⟨s', hrows, hs'⟩ : ∃ s', exec (onTerminal (monadLift (Terminal.rows (T := Headless)))) s =
      (.ok s.terminal.rows, s') ∧ s'.terminal.cols = s.terminal.cols := ⟨_, rfl, rfl⟩
  obtain ⟨t, hcols⟩ : ∃ t, exec (onTerminal (monadLift (Terminal.columns (T := Headless)))) s' =
      (.ok s.terminal.cols, t) := by
    rw [← hs']
    exact ⟨_, rfl⟩
  rw [measure, exec_bind_ok hrows, exec_bind_ok hcols, measured]
  have hrange : (s.terminal.rows ≤ 0 ∨ s.terminal.cols ≤ 0 ∨ maxDimension < s.terminal.rows ∨
      maxDimension < s.terminal.cols) ↔ ¬ Reportable s.terminal.rows s.terminal.cols := by
    unfold Reportable maxDimension
    omega
  simp only [exec_ite, hrange]
  split
  · rfl
  split <;> rfl

/-- What is found out about a terminal that opens. -/
theorem enter_of_opens (h : s.terminal.Opens) (args : List String) :
    (exec (enter args) s).1 = measured s.terminal.rows s.terminal.cols := by
  obtain ⟨t, hacquire, hrows, hcols⟩ := h.acquire args
  obtain ⟨s', hopen, hs'⟩ : ∃ s', exec ((onTerminal (Terminal.acquire args)).mapError
      ScreenError.platformOpen) s = (.ok (), s') ∧ s'.terminal = t := by
    rw [exec_mapError, onTerminal, exec_ofFn, hacquire]
    exact ⟨_, rfl, rfl⟩
  rw [enter, exec_bind_ok hopen, exec_measure, hs', hrows, hcols]

/-- Whether a create finds a terminal that opens can be told before it. -/
theorem opens_atCreate (h : s.terminal.Opens) : s.atCreate.terminal.Opens := by
  have hsettings := settings_atCreate s
  exact ⟨(congrArg (·.2.2.1) hsettings).trans h.accepts,
    (congrArg (·.2.2.2) hsettings : s.atCreate.terminal.failures = _) ▸ h.works⟩

theorem prospect_of_opens (h : s.terminal.Opens) (args : List String) :
    s.prospect args =
      measured s.terminal.rows s.terminal.cols >>= s.interior.cleared.plan := by
  have hsettings := settings_atCreate s
  have hrows : s.atCreate.terminal.rows = s.terminal.rows := congrArg (·.1) hsettings
  have hcols : s.atCreate.terminal.cols = s.terminal.cols := congrArg (·.2.1) hsettings
  rw [prospect, enter_of_opens (opens_atCreate h), hrows, hcols]

end Screen

/-! ## What a session is planned on -/

namespace Interior

variable {i : Interior Buffers} {rows cols : Nat} {l : Layout}

/-- The rows that are claimed before the display gets any. -/
def claimed (i : Interior Buffers) : Nat :=
  i.pending.length + (i.config.stripPlacement i.labels.lineCount).rows

/-- The windows that a create gives up with a session that is suspended. -/
def leaving (i : Interior Buffers) : List WindowId :=
  if i.phase = .suspended then (i.session.map fun session => session.windows.all).getD [] else []

/-- The cells of all windows but those that a create gives up. -/
def inUseElsewhere (i : Interior Buffers) : Nat :=
  (((List.range i.engine.slots.size).filter (· ∉ i.leaving)).map i.engine.cells).sum

theorem engine_cleared (i : Interior Buffers) : i.cleared.engine = i.engine.discard i.leaving := by
  rw [cleared, leaving]
  split
  · rw [ended]
    cases i.session <;> rfl
  · rfl

theorem inUse_cleared (i : Interior Buffers) : i.cleared.engine.inUse = i.inUseElsewhere := by
  rw [engine_cleared, Buffers.inUse_discard, inUseElsewhere]

theorem budget_cleared (i : Interior Buffers) : i.cleared.engine.budget = i.engine.budget := by
  rw [engine_cleared, Buffers.budget_discard]

theorem plan_of_crowded (h : ¬ (2 ≤ cols ∧ i.claimed + 2 ≤ rows)) :
    i.plan (rows, cols) = .error (.terminalTooSmall (rows - i.claimed) cols) := by
  have hallocate : i.allocate rows cols = .error (.tooSmall (rows - i.claimed) cols) := by
    have hsides : (i.pending.map Registration.side).length = i.pending.length := List.length_map ..
    rw [claimed, ← hsides] at h ⊢
    exact Layout.allocate_of_crowded h
  rw [plan, hallocate]
  rfl

theorem allocate_of_room (hcols : 2 ≤ cols) (hrows : i.claimed + 2 ≤ rows) :
    ∃ l, i.allocate rows cols = .ok l :=
  Layout.allocate_of_room hcols (by rwa [List.length_map])

theorem plan_of_allocate (h : i.allocate rows cols = .ok l) :
    (Buffers.Fits i.engine.budget (i.engine.inUse + 3 * (rows * cols)) →
      i.plan (rows, cols) = .ok l) ∧
    (¬ Buffers.Fits i.engine.budget (i.engine.inUse + 3 * (rows * cols)) →
      ∃ requested available,
        i.plan (rows, cols) = .error (.bufferAllocation (.outOfMemory requested available))) := by
  have hallocated := Layout.of_allocate h
  have hcells := hallocated.ne_zero_of_mem_areas
  have hne : l.areas ≠ [] := List.cons_ne_nil _ _
  rw [plan, h, ← hallocated.areaCells_areas]
  dsimp only
  constructor
  · intro hfits
    rw [Buffers.reserveAll_of_fits hcells hfits]
  · intro hfits
    obtain ⟨requested, available, hreserve⟩ :=
      Buffers.reserveAll_of_not_fits hne hcells hfits
    rw [hreserve]
    exact ⟨requested, available, rfl⟩

end Interior

/-! ## The decision -/

namespace Screen

variable {s s' : Screen Headless Buffers} {args : List String}

/-- How a create turns out on a terminal of so many rows and columns, where `claimed` of the rows are
for reserved lines and strip, and where there is `room` for the windows or not. -/
structure Verdict (rows cols : Int) (claimed : Nat) (room : Prop) (result : Except ScreenError Unit) :
    Prop where
  invalid : result = .error (.platformOpen (.invalidSize rows cols)) ↔ ¬ Reportable rows cols
  small : Reportable rows cols →
    (result = .error (.terminalTooSmall rows.toNat cols.toNat) ↔ rows < 2 ∨ cols < 2)
  crowded : Reportable rows cols → ¬ (rows < 2 ∨ cols < 2) →
    (result = .error (.terminalTooSmall (rows.toNat - claimed) cols.toNat) ↔ rows < claimed + 2)
  exhausted : Reportable rows cols → ¬ (rows < 2 ∨ cols < 2) → ¬ rows < claimed + 2 →
    ((∃ requested available,
      result = .error (.bufferAllocation (.outOfMemory requested available))) ↔ ¬ room)
  granted : Reportable rows cols → ¬ (rows < 2 ∨ cols < 2) → ¬ rows < claimed + 2 →
    (result = .ok () ↔ room)

/-- The cases one after another make a verdict, since no two of them have the same result. -/
theorem verdict_of_cases {rows cols : Int} {claimed : Nat} {room : Prop}
    {result : Except ScreenError Unit}
    (invalid : ¬ Reportable rows cols →
      result = .error (.platformOpen (.invalidSize rows cols)))
    (small : Reportable rows cols → rows < 2 ∨ cols < 2 →
      result = .error (.terminalTooSmall rows.toNat cols.toNat))
    (crowded : Reportable rows cols → ¬ (rows < 2 ∨ cols < 2) → rows < claimed + 2 →
      result = .error (.terminalTooSmall (rows.toNat - claimed) cols.toNat))
    (exhausted : Reportable rows cols → ¬ (rows < 2 ∨ cols < 2) → ¬ rows < claimed + 2 → ¬ room →
      ∃ requested available, result = .error (.bufferAllocation (.outOfMemory requested available)))
    (granted : Reportable rows cols → ¬ (rows < 2 ∨ cols < 2) → ¬ rows < claimed + 2 → room →
      result = .ok ()) : Verdict rows cols claimed room result := by
  by_cases hreportable : Reportable rows cols
  case neg =>
    have hresult := invalid hreportable
    exact ⟨iff_of_true hresult hreportable, fun h => absurd h hreportable,
      fun h => absurd h hreportable, fun h => absurd h hreportable, fun h => absurd h hreportable⟩
  by_cases hsmall : rows < 2 ∨ cols < 2
  case pos =>
    have hresult := small hreportable hsmall
    exact ⟨iff_of_false (by simp [hresult]) (not_not_intro hreportable),
      fun _ => iff_of_true hresult hsmall, fun _ h => absurd hsmall h, fun _ h => absurd hsmall h,
      fun _ h => absurd hsmall h⟩
  by_cases hcrowded : rows < claimed + 2
  case pos =>
    have hresult := crowded hreportable hsmall hcrowded
    have hfewer : rows.toNat - claimed ≠ rows.toNat := by omega
    exact ⟨iff_of_false (by simp [hresult]) (not_not_intro hreportable),
      fun _ => iff_of_false (by simp [hresult, hfewer]) hsmall,
      fun _ _ => iff_of_true hresult hcrowded, fun _ _ h => absurd hcrowded h,
      fun _ _ h => absurd hcrowded h⟩
  by_cases hroom : room
  case pos =>
    have hresult := granted hreportable hsmall hcrowded hroom
    exact ⟨iff_of_false (by simp [hresult]) (not_not_intro hreportable),
      fun _ => iff_of_false (by simp [hresult]) hsmall,
      fun _ _ => iff_of_false (by simp [hresult]) hcrowded,
      fun _ _ _ => iff_of_false (by simp [hresult]) (not_not_intro hroom),
      fun _ _ _ => iff_of_true hresult hroom⟩
  case neg =>
    obtain ⟨requested, available, hresult⟩ := exhausted hreportable hsmall hcrowded hroom
    exact ⟨iff_of_false (by simp [hresult]) (not_not_intro hreportable),
      fun _ => iff_of_false (by simp [hresult]) hsmall,
      fun _ _ => iff_of_false (by simp [hresult]) hcrowded,
      fun _ _ _ => iff_of_true ⟨requested, available, hresult⟩ hroom,
      fun _ _ _ => iff_of_false (by simp [hresult]) hroom⟩

/-- The rows that are claimed on a screen, as they will be once a suspended session is gone. -/
def claimed (s : Screen Headless Buffers) : Nat := s.interior.cleared.claimed

/-- There is room for the windows of a session beside the others. -/
def HasRoom (s : Screen Headless Buffers) : Prop :=
  Buffers.Fits s.engine.budget
    (s.interior.inUseElsewhere + 3 * (s.terminal.rows.toNat * s.terminal.cols.toNat))

instance (s : Screen Headless Buffers) : Decidable s.HasRoom :=
  inferInstanceAs (Decidable (Buffers.Fits _ _))

theorem verdict_prospect (hopens : s.terminal.Opens) (args : List String) :
    Verdict s.terminal.rows s.terminal.cols s.claimed s.HasRoom
      ((s.prospect args).map fun _ => ()) := by
  rw [prospect_of_opens hopens, measured]
  apply verdict_of_cases
  case invalid =>
    intro hreportable
    rw [if_pos hreportable]
    rfl
  case small =>
    intro hreportable hsmall
    rw [if_neg (not_not_intro hreportable), if_pos hsmall]
    rfl
  case crowded =>
    intro hreportable hsmall hcrowded
    have hplan : s.interior.cleared.plan (s.terminal.rows.toNat, s.terminal.cols.toNat) = _ :=
      Interior.plan_of_crowded (fun h => by have := h.2; unfold claimed at hcrowded; omega)
    rw [if_neg (not_not_intro hreportable), if_neg hsmall]
    exact congrArg (Except.map fun _ => ()) hplan
  all_goals
    intro hreportable hsmall hcrowded
    obtain ⟨l, hl⟩ := @Interior.allocate_of_room s.interior.cleared s.terminal.rows.toNat
      s.terminal.cols.toNat (by omega) (by unfold claimed at hcrowded; omega)
    have hplan := Interior.plan_of_allocate hl
    rw [Interior.inUse_cleared, Interior.budget_cleared] at hplan
    rw [if_neg (not_not_intro hreportable), if_neg hsmall]
    intro hroom
  · obtain ⟨requested, available, hplan⟩ := hplan.2 hroom
    exact ⟨requested, available, congrArg (Except.map fun _ => ()) hplan⟩
  · exact congrArg (Except.map fun _ => ()) (hplan.1 hroom)

/-! ## The windows of the new session -/

/-- Each of these calls of initializers leaves the sizes of some windows as it finds them, and none of
the windows is lost. -/
def SparesSizes (ids : List WindowId) : List (InitializerCall Buffers) → Buffers → Prop
  | [], _ => True
  | call :: calls, b =>
    (∀ id ∈ ids, (call.run b).cells id = b.cells id) ∧ SparesSizes ids calls (call.run b)

theorem SparesSizes.cells {ids : List WindowId} {calls : List (InitializerCall Buffers)}
    {b : Buffers} (h : SparesSizes ids calls b) :
    ∀ id ∈ ids, (calls.foldl InitializerCall.run b).cells id = b.cells id := by
  induction calls generalizing b with
  | nil => exact fun _ _ => rfl
  | cons call calls ih =>
    obtain ⟨hfirst, hrest⟩ := h
    exact fun id hid => (ih hrest id hid).trans (hfirst id hid)

/-- What a session holds that has just begun: windows for the whole terminal three times over, before
the initializers have been called, and afterwards if these calls have spared the windows. -/
structure Holds (s s' : Screen Headless Buffers) (cells : Nat) (session : Session) (made : Buffers) :
    Prop where
  current : s'.session = some session
  initialized : s'.engine =
    TerminalSession.initialized s.pending session.windows.reserved session.layout.terminalCols made
  sum : (session.windows.all.map made.cells).sum = cells
  inUse : made.inUse = s.interior.inUseElsewhere + cells
  begun : SparesSizes session.windows.all
      (initializerCalls s.pending session.windows.reserved session.layout.terminalCols) made →
    (session.windows.all.map s'.engine.cells).sum = cells

theorem holds_of_created (hopens : s.terminal.Opens)
    (h : exec (Call.create args).action s = (.ok (), s')) :
    ∃ session made,
      Holds s s' (3 * (s.terminal.rows.toNat * s.terminal.cols.toNat)) session made := by
  obtain ⟨session, -, hprospect, hwindows, hs'⟩ := of_created h
  have hl : s.interior.cleared.allocate s.terminal.rows.toNat s.terminal.cols.toNat =
      .ok session.layout := by
    rw [prospect_of_opens hopens, measured] at hprospect
    split at hprospect
    · cases hprospect
    split at hprospect
    · cases hprospect
    · exact (Interior.of_plan_ok hprospect).1
  have hallocated := Layout.of_allocate hl
  have hareas := map_area_newWindows s.interior.cleared.config s.interior.cleared.labels
    session.layout
  have hmade : (session.windows.all.map (s.interior.cleared.built session.layout).engine.cells).sum =
      3 * (s.terminal.rows.toNat * s.terminal.cols.toNat) := by
    rw [hwindows]
    exact (WindowSet.laidOut_addAll hareas).sized.sum_all hallocated
  have hengine : s'.engine = initialized s.pending session.windows.reserved
      session.layout.terminalCols (s.interior.cleared.built session.layout).engine := by
    have hpending : s.interior.cleared.pending = s.pending := Interior.pending_cleared _
    rw [← hpending]
    exact congrArg Interior.engine hs'
  refine ⟨session, (s.interior.cleared.built session.layout).engine,
    congrArg Interior.session hs', hengine, hmade, ?_, fun hspares => ?_⟩
  · have hcells : ((newWindows s.interior.cleared.config s.interior.cleared.labels
        session.layout).map Window.cellCount).sum = Buffers.areaCells session.layout.areas := by
      rw [← hareas, Buffers.areaCells, List.map_map]
      rfl
    have hadded := Buffers.inUse_addAll s.interior.cleared.engine
      (newWindows s.interior.cleared.config s.interior.cleared.labels session.layout)
    rw [Interior.inUse_cleared, hcells, hallocated.areaCells_areas] at hadded
    exact hadded
  · rw [hengine, initialized_eq, ← hmade]
    exact congrArg List.sum (List.map_congr_left hspares.cells)

/-- **A create is decided by size and budget.** On a screen that is not alive, over a terminal that
opens, its result is told by the size of the terminal, by the rows claimed of it and by the budget,
whatever the sides and the anchor are. The windows of the session that it begins have three times
the cells of the terminal, unless initializers make them others. -/
theorem create_decided (hphase : s.phase ≠ .alive) (hopens : s.terminal.Opens) (args : List String) :
    Verdict s.terminal.rows s.terminal.cols s.claimed s.HasRoom
        (exec (Call.create args).action s).1 ∧
      ((exec (Call.create args).action s).1 = .ok () → ∃ session made,
        Holds s (exec (Call.create args).action s).2
          (3 * (s.terminal.rows.toNat * s.terminal.cols.toNat)) session made) := by
  rcases h : exec (Call.create args).action s with ⟨r, s'⟩
  refine ⟨?_, fun hr => ?_⟩
  · rw [result_create hphase h]
    exact verdict_prospect hopens args
  · dsimp only at hr
    subst hr
    exact holds_of_created hopens h

/-- A screen with a line waiting on each side, and room for five rows of six cells thrice. -/
def snug : Screen Headless Buffers where
  terminal := { rows := 5, cols := 6 }
  engine := { budget := some 90 }
  pending := [⟨.top, fun b _ _ => b⟩, ⟨.bottom, fun b _ _ => b⟩]

theorem snug_created :
    (exec (Call.create []).action snug).1 = .ok () ∧ ∃ session,
      (exec (Call.create []).action snug).2.session = some session ∧
        (session.windows.all.map (exec (Call.create []).action snug).2.engine.cells).sum = 90 := by
  obtain ⟨hverdict, hholds⟩ :=
    create_decided (s := snug) (by decide) ⟨rfl, by decide⟩ []
  have hok : (exec (Call.create []).action snug).1 = .ok () :=
    (hverdict.granted (by decide) (by decide) (by decide)).mpr (by decide +kernel)
  obtain ⟨session, made, h⟩ := hholds hok
  refine ⟨hok, session, h.current, h.begun ?_⟩
  rcases session.windows.reserved with _ | ⟨top, _ | ⟨bottom, more⟩⟩ <;>
    simp [snug, initializerCalls, SparesSizes, InitializerCall.run]

/-- A screen with a line waiting whose initializer gives its window up. -/
def forsaken : Screen Headless Buffers where
  terminal := { rows := 5, cols := 6 }
  pending := [⟨.top, fun b id _ => b.discard [id]⟩]
  engine := {}

/-- The session begins, and its windows lack the cells of the line. -/
theorem forsaken_created :
    forsaken.phase ≠ .alive ∧ forsaken.terminal.Opens ∧
      (exec (Call.create []).action forsaken).1 = .ok () ∧
      (exec (Call.create []).action forsaken).2.session.map (fun session =>
        (session.windows.all.map (exec (Call.create []).action forsaken).2.engine.cells).sum) =
          some 84 ∧ 84 ≠ 3 * (forsaken.terminal.rows * forsaken.terminal.cols) :=
  ⟨by decide, ⟨rfl, by decide⟩, by decide +kernel, by decide +kernel, by decide⟩

end Screen

end TerminalSession
