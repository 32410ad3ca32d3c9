import TerminalSession.Proofs.Layout.Areas
import TerminalSession.Proofs.Screen.Interior

/-!
# Making the windows of a session

`exec_buildWindows` says all that making windows can come to. If the engine has room for windows of
all areas of a layout, they are there afterwards with the next ids, and they look as `newWindows`
says. Otherwise none of them is left, and nothing else has changed.
-/

namespace TerminalSession

open TerminalSession.Action

/-! ## Ids -/

/-- Reserved lines with windows that have the ids from `first` on. -/
def numberLines (first : WindowId) : List ReservedLine → List ReservedWindow
  | [] => []
  | line :: lines => ⟨line.side, first⟩ :: numberLines (first + 1) lines

/-- The windows of a session if they have the ids from `first` on. -/
def Layout.numbered (l : Layout) (first : WindowId) : WindowSet :=
  let stripEnd := 2 + l.stripArea?.toList.length
  { physical := first
    snapshot := first + 1
    strip := l.stripArea?.map fun _ => first + 2
    reserved := numberLines (first + stripEnd) l.reserved
    display := first + (stripEnd + l.reserved.length) }

theorem map_window_numberLines (first : WindowId) (lines : List ReservedLine) :
    (numberLines first lines).map ReservedWindow.window = List.range' first lines.length := by
  induction lines generalizing first with
  | nil => rfl
  | cons line lines ih => exact congrArg (first :: ·) (ih (first + 1))

theorem length_numberLines (first : WindowId) (lines : List ReservedLine) :
    (numberLines first lines).length = lines.length := by
  induction lines generalizing first with
  | nil => rfl
  | cons line lines ih => exact congrArg (· + 1) (ih (first + 1))

/-- The ids of the windows of a session are the next ones, in another order. -/
theorem Layout.all_numbered_perm (l : Layout) (first : WindowId) :
    (l.numbered first).all.Perm (List.range' first l.areas.length) := by
  have hstrip : (l.stripArea?.map fun _ => first + 2).toList =
      List.range' (first + 2) l.stripArea?.toList.length := by
    cases l.stripArea? <;> rfl
  have hids : List.range' first l.areas.length = [first, first + 1] ++
      (List.range' (first + 2) l.stripArea?.toList.length ++
        (List.range' (first + 2 + l.stripArea?.toList.length) l.reserved.length ++
          [first + 2 + l.stripArea?.toList.length + l.reserved.length])) := by
    have hlast (first : Nat) : [first] = List.range' first 1 := rfl
    have hfirst : [first, first + 1] = List.range' first 2 := rfl
    rw [hfirst, hlast (first + 2 + _ + _), List.range'_append_1, List.range'_append_1,
      List.range'_append_1]
    congr 1
    simp [areas]
    omega
  have hall : (l.numbered first).all =
      (List.range' (first + 2) l.stripArea?.toList.length ++
        (List.range' (first + 2 + l.stripArea?.toList.length) l.reserved.length ++
          [first + 2 + l.stripArea?.toList.length + l.reserved.length])) ++ [first, first + 1] := by
    simp only [WindowSet.all, numbered, hstrip, map_window_numberLines, List.append_assoc,
      Nat.add_assoc]
    rfl
  rw [hids, hall]
  exact List.perm_append_comm

theorem Layout.nodup_all_numbered (l : Layout) (first : WindowId) :
    (l.numbered first).all.Nodup :=
  (l.all_numbered_perm first).nodup_iff.mpr List.nodup_range'

theorem Layout.mem_all_numbered {l : Layout} {first id : WindowId} :
    id ∈ (l.numbered first).all ↔ first ≤ id ∧ id < first + l.areas.length := by
  rw [(l.all_numbered_perm first).mem_iff, List.mem_range'_1]

/-! ## Contents -/

namespace SoftLabels

/-- What drawing the labels does to their window. -/
def drawn (s : SoftLabels) : List Edit :=
  match s.format with
  | none => []
  | some format => s.drawing format

theorem format_layOut (s : SoftLabels) (cols : Nat) : (s.layOut cols).format = s.format := by
  unfold layOut
  split <;> simp_all

theorem lineCount_congr {s labels : SoftLabels} (h : labels.format = s.format) :
    labels.lineCount = s.lineCount := by
  rw [lineCount, lineCount, h]

theorem window_layOut (s : SoftLabels) (cols : Nat) : (s.layOut cols).window = s.window := by
  unfold layOut
  split <;> simp_all

theorem window_init {s labels : SoftLabels} {code : UInt8} (h : s.init code = .ok labels) :
    labels.window = s.window := by
  unfold init at h
  split at h <;> cases h
  rfl

/-- A new text changes neither the format nor the window. -/
theorem of_setLabel {s labels : SoftLabels} {index : Nat} {text : String} {justify : Justify}
    (h : s.setLabel index text justify = .ok labels) :
    labels.window = s.window ∧ labels.format = s.format := by
  unfold setLabel at h
  split at h
  · cases h
  split at h <;> cases h
  exact ⟨rfl, rfl⟩

theorem isWriting_of_mem_drawn {s : SoftLabels} {e : Edit} (h : e ∈ s.drawn) :
    e.isWriting = true := by
  unfold drawn at h
  split at h
  · cases h
  · simp only [drawing, List.mem_append, List.mem_cons, List.not_mem_nil, or_false] at h
    rcases h with (rfl | rfl) | h
    · rfl
    · rfl
    · split at h
      · cases h
      · obtain ⟨⟨label, i⟩, -, h⟩ := List.mem_flatMap.mp h
        simp only [labelEdits] at h
        split at h <;> simp only [List.mem_cons, List.not_mem_nil, or_false] at h
        · rcases h with rfl | rfl <;> rfl
        · subst h
          rfl

theorem not_isPlacing_of_mem_drawn {s : SoftLabels} {e : Edit} (h : e ∈ s.drawn) :
    e.isPlacing = false := Edit.not_isPlacing_of_isWriting (isWriting_of_mem_drawn h)

/-- What drawing the labels does to the windows of an engine. -/
def redrawn (s : SoftLabels) : List (WindowId × Edit) :=
  match s.window with
  | none => []
  | some id => s.drawn.map (id, ·)

theorem draw_eq (s : SoftLabels) :
    (s.draw : Action Buffers WindowError Unit) = Buffers.performing s.redrawn := by
  have hmap (id : WindowId) (es : List Edit) :
      (es.forM (WindowEngine.edit id) : Action Buffers WindowError Unit) =
        Buffers.performing (es.map (id, ·)) := by
    induction es with
    | nil => rfl
    | cons e es ih => exact congrArg (fun x => WindowEngine.edit id e >>= fun _ => x) ih
  obtain ⟨format, labels, width, window⟩ := s
  cases format <;> cases window
  · rfl
  · rfl
  · rfl
  · exact hmap _ _

/-- Labels are drawn into one window only. -/
theorem of_redrawn_ne_nil {s : SoftLabels} (h : s.redrawn ≠ []) :
    ∃ id, s.window = some id ∧ ∀ p ∈ s.redrawn, p.1 = id := by
  unfold redrawn at h ⊢
  cases hwindow : s.window with
  | none => simp [hwindow] at h
  | some id => exact ⟨id, rfl, by simp⟩

theorem isWriting_of_mem_redrawn {s : SoftLabels} {p : WindowId × Edit} (h : p ∈ s.redrawn) :
    p.2.isWriting = true := by
  unfold redrawn at h
  split at h
  · cases h
  · obtain ⟨e, he, rfl⟩ := List.mem_map.mp h
    exact isWriting_of_mem_drawn he

theorem not_isPlacing_of_mem_redrawn {s : SoftLabels} {p : WindowId × Edit}
    (h : p ∈ s.redrawn) : p.2.isPlacing = false :=
  Edit.not_isPlacing_of_isWriting (isWriting_of_mem_redrawn h)

theorem not_isResize_of_mem_redrawn {s : SoftLabels} {p : WindowId × Edit} (h : p ∈ s.redrawn) :
    p.2.isResize = false := Edit.isResize_of_not_isPlacing (not_isPlacing_of_mem_redrawn h)

end SoftLabels

/-- The labels of a screen once they have a window of so many columns. -/
def SoftLabels.placed (labels : SoftLabels) (cols : Nat) : Option WindowId → SoftLabels
  | none => labels
  | some id => { labels with window := some id }.layOut cols

theorem SoftLabels.window_placed {labels : SoftLabels} {cols : Nat} {strip : Option WindowId}
    (h : labels.window = none) : (labels.placed cols strip).window = strip := by
  cases strip with
  | none => exact h
  | some id => exact window_layOut ..

theorem SoftLabels.format_placed (labels : SoftLabels) (cols : Nat) (strip : Option WindowId) :
    (labels.placed cols strip).format = labels.format := by
  cases strip with
  | none => rfl
  | some id => exact format_layOut ..

/-- The windows of a session as they are made. -/
def newWindows (config : Config) (labels : SoftLabels) (l : Layout) : List Window :=
  let drawn := (labels.placed l.terminalCols (some 0)).drawn
  let preserved : List Edit := [.markClean, .setClear false]
  let physical := (Window.blank l.screenArea).edits
    (if config.preserveScreen then preserved else [.setClear true])
  let snapshot := (Window.blank l.screenArea).edits [.setAttrs .sentinel, .erase]
  let display := (Window.blank l.displayArea).edits
    (.eraseBelow :: if config.preserveScreen then preserved else [])
  physical :: snapshot :: (l.stripArea?.toList.map (fun area => (Window.blank area).edits drawn) ++
    (l.reserved.map (fun line => .blank (l.lineArea line)) ++ [display]))

theorem map_area_newWindows (config : Config) (labels : SoftLabels) (l : Layout) :
    (newWindows config labels l).map Window.area = l.areas := by
  have harea {area : Rect} {es : List Edit} (h : ∀ e ∈ es, e.isPlacing = false) :
      ((Window.blank area).edits es).area = area := by
    rw [Window.area_edits_of_not_isPlacing h, Window.area_blank]
  have hphysical : ∀ e ∈ (if config.preserveScreen then [.markClean, .setClear false]
      else [.setClear true] : List Edit), e.isPlacing = false := by
    cases config.preserveScreen <;> simp [Edit.isPlacing]
  have hdisplay : ∀ e ∈ (.eraseBelow ::
      if config.preserveScreen then [.markClean, .setClear false] else [] : List Edit),
      e.isPlacing = false := by
    cases config.preserveScreen <;> simp [Edit.isPlacing]
  have hsnapshot : ∀ e ∈ ([.setAttrs .sentinel, .erase] : List Edit), e.isPlacing = false := by
    simp [Edit.isPlacing]
  simp only [newWindows, Layout.areas, List.map_cons, List.map_append, List.map_map, List.map_nil,
    harea hphysical, harea hsnapshot, harea hdisplay, Function.comp_def, Window.area_blank,
    harea fun e => SoftLabels.not_isPlacing_of_mem_drawn, List.map_id']

theorem length_newWindows (config : Config) (labels : SoftLabels) (l : Layout) :
    (newWindows config labels l).length = l.areas.length := by
  rw [← map_area_newWindows config labels l, List.length_map]

namespace Screen

variable {T α β : Type} {s : Screen T Buffers} {ws ws' : List Window} {areas : List Rect}
  {labels : SoftLabels} {a : α}

/-! ## Making windows one inside the other -/

/-- The action `x`, run where the windows `ws` have been made on the screen `s`, makes windows of
the areas and answers `a`, if the engine has room for them. If not, the same windows are left, perhaps
changed, and nothing else. -/
structure Makes (s : Screen T Buffers) (ws : List Window) (areas : List Rect)
    (x : Action (Screen T Buffers) WindowError α) (a : α) (ws' : List Window)
    (labels : SoftLabels) : Prop where
  made : Buffers.reserveAll s.engine.budget (s.engine.addAll ws).inUse areas = .ok () →
    exec x { s with engine := s.engine.addAll ws } =
      (.ok a, { s with engine := s.engine.addAll ws', labels })
  refused : ∀ cause,
    Buffers.reserveAll s.engine.budget (s.engine.addAll ws).inUse areas = .error cause →
    ∃ left count, left.length = ws.length ∧
      exec x { s with engine := s.engine.addAll ws } =
        (.error cause, { s with engine := (s.engine.addAll left).bury count })

theorem exec_withWindow_error {area : Rect} {use : WindowId → Action (Screen T Buffers) WindowError α}
    {cause : WindowError} (h : s.engine.create area = .error cause) :
    exec (withWindow area use) s = (.error cause, s) := by
  rw [withWindow, exec_bind, exec_onEngine]
  simp only [exec, WindowEngine.create, ofStep, ofFn, h]

/-- A window that has been made is used, and destroyed again if that fails. -/
theorem exec_withWindow_ok {area : Rect} {use : WindowId → Action (Screen T Buffers) WindowError α}
    {id : WindowId} {engine : Buffers} (h : s.engine.create area = .ok (id, engine)) :
    exec (withWindow area use) s =
      exec ((use id).onFailure fun t => (exec (onEngine (WindowEngine.destroy id)) t).2)
        { s with engine } := by
  rw [withWindow, exec_bind, exec_onEngine]
  simp only [exec, WindowEngine.create, ofStep, ofFn, h]

theorem Makes.withWindow {area : Rect} {use : WindowId → Action (Screen T Buffers) WindowError α}
    (h : Makes s (ws ++ [.blank area]) areas (use (s.engine.slots.size + ws.length)) a ws' labels) :
    Makes s ws (area :: areas) (withWindow area use) a ws' labels := by
  have hcreate := (s.engine.addAll ws).create_eq area
  have hinUse : (s.engine.addAll (ws ++ [.blank area])).inUse =
      (s.engine.addAll ws).inUse + area.rows * area.cols := by
    rw [← Buffers.push_addAll, Buffers.inUse_push, Window.cellCount_blank]
  rw [Buffers.size_addAll, Buffers.push_addAll, Buffers.budget_addAll] at hcreate
  constructor
  · intro hreserve
    rw [Buffers.reserveAll] at hreserve
    split at hreserve
    · cases hreserve
    rename_i hsize
    split at hreserve
    · rename_i hfits
      rw [if_neg hsize, if_pos hfits] at hcreate
      rw [exec_withWindow_ok (s := { s with engine := s.engine.addAll ws }) hcreate]
      simp only [onFailure, exec_ofFn]
      rw [h.made (hinUse ▸ hreserve)]
    · cases hreserve
  · intro cause hreserve
    rw [Buffers.reserveAll] at hreserve
    split at hreserve
    · rename_i hsize
      cases hreserve
      rw [if_pos hsize] at hcreate
      refine ⟨ws, 0, rfl, ?_⟩
      rw [Buffers.bury_zero]
      exact exec_withWindow_error hcreate
    rename_i hsize
    split at hreserve
    · rename_i hfits
      rw [if_neg hsize, if_pos hfits] at hcreate
      obtain ⟨left, count, hlength, hexec⟩ := h.refused cause (hinUse ▸ hreserve)
      -- what the inner windows have left behind, without the window made here
      obtain ⟨before, w, rfl⟩ : ∃ before w, left = before ++ [w] := by
        rcases List.eq_nil_or_concat left with rfl | ⟨before, w, h⟩
        · simp at hlength
        · exact ⟨before, w, by rw [h, List.concat_eq_append]⟩
      have hbefore : before.length = ws.length := by simpa using hlength
      refine ⟨before, count + 1, hbefore, ?_⟩
      rw [exec_withWindow_ok (s := { s with engine := s.engine.addAll ws }) hcreate]
      simp only [onFailure, exec_ofFn]
      rw [hexec]
      have hdestroy := s.engine.destroy_last before w count
      rw [hbefore] at hdestroy
      simp only [exec_onEngine]
      simp only [exec, WindowEngine.destroy, ofStep, ofFn, hdestroy]
    · rename_i hfits
      cases hreserve
      rw [if_neg hsize, if_neg hfits] at hcreate
      refine ⟨ws, 0, rfl, ?_⟩
      rw [Buffers.bury_zero]
      exact exec_withWindow_error hcreate

/-- An edit of a window that has been made. -/
theorem Makes.edit_bind {i : Nat} {e : Edit} {x : Action (Screen T Buffers) WindowError α}
    (hi : i < ws.length) (he : e.isResize = false)
    (h : Makes s (ws.modify i (·.edit e)) areas x a ws' labels) :
    Makes s ws areas (do edit (s.engine.slots.size + i) e; x) a ws' labels := by
  have hedit : exec (edit (s.engine.slots.size + i) e) { s with engine := s.engine.addAll ws } =
      (.ok (), { s with engine := s.engine.addAll (ws.modify i (·.edit e)) }) := by
    have hw := Buffers.window?_addAll_of_lt (b := s.engine) hi
    have hdone := Buffers.edit_eq he hw
    rw [Buffers.modifyWindow_addAll] at hdone
    exact exec_edit_ok (s := { s with engine := s.engine.addAll ws }) hdone
  have hinUse : (s.engine.addAll (ws.modify i (·.edit e))).inUse = (s.engine.addAll ws).inUse := by
    rw [← Buffers.modifyWindow_addAll]
    exact Buffers.inUse_modifyWindow_of_same fun w => Window.cellCount_edit he
  have hlength : (ws.modify i (·.edit e)).length = ws.length := List.length_modify ..
  constructor
  · intro hreserve
    rw [exec_bind_ok hedit]
    exact h.made (hinUse ▸ hreserve)
  · intro cause hreserve
    rw [exec_bind_ok hedit, ← hlength]
    exact h.refused cause (hinUse ▸ hreserve)

theorem Makes.of_exec {x : Action (Screen T Buffers) WindowError α}
    (h : exec x { s with engine := s.engine.addAll ws } =
      (.ok a, { s with engine := s.engine.addAll ws', labels })) :
    Makes s ws [] x a ws' labels :=
  ⟨fun _ => h, fun _ hreserve => nomatch hreserve⟩

theorem Makes.withReserved {cols : Nat} {lines : List ReservedLine}
    {use : List ReservedWindow → Action (Screen T Buffers) WindowError α}
    (h : Makes s (ws ++ lines.map fun line => .blank ⟨line.row, 0, 1, cols⟩) areas
      (use (numberLines (s.engine.slots.size + ws.length) lines)) a ws' labels) :
    Makes s ws (lines.map (fun line => ⟨line.row, 0, 1, cols⟩) ++ areas)
      (withReserved cols lines use) a ws' labels := by
  induction lines generalizing ws use with
  | nil => simpa [Screen.withReserved, numberLines] using h
  | cons line lines ih =>
    refine Makes.withWindow (ih ?_)
    rw [List.append_assoc, List.length_append, ← Nat.add_assoc]
    exact h

theorem Makes.withStrip {l : Layout} {use : Option WindowId → Action (Screen T Buffers) WindowError α}
    (h : Makes s (ws ++ l.stripArea?.toList.map .blank) areas
      (use (l.stripArea?.map fun _ => s.engine.slots.size + ws.length)) a ws' labels) :
    Makes s ws (l.stripArea?.toList ++ areas) (withStrip l use) a ws' labels := by
  unfold Screen.withStrip
  cases htop : l.stripTop with
  | none =>
    simp only [Layout.stripArea?, htop, Option.map_none, Option.toList_none, List.map_nil,
      List.append_nil, List.nil_append] at h ⊢
    exact h
  | some top =>
    simp only [Layout.stripArea?, htop, Option.map_some, Option.toList_some, List.map_cons,
      List.map_nil, List.singleton_append] at h ⊢
    exact Makes.withWindow h

/-! ## All windows of a session -/

theorem Makes.of_exec_eq {x y : Action (Screen T Buffers) WindowError α}
    (hxy : ∀ engine, exec x { s with engine } = exec y { s with engine })
    (h : Makes s ws areas y a ws' labels) : Makes s ws areas x a ws' labels := by
  constructor
  · intro hreserve
    rw [hxy, h.made hreserve]
  · intro cause hreserve
    rw [hxy]
    exact h.refused cause hreserve

theorem modify_last (ws : List Window) (w : Window) (f : Window → Window) :
    (ws ++ [w]).modify ws.length f = ws ++ [f w] := by
  induction ws with
  | nil => rfl
  | cons w' ws ih => exact congrArg (w' :: ·) ih

/-- Drawing the labels into a window that has been made. -/
theorem exec_drawLabels {i : Nat} (hi : i < ws.length)
    (hlabels : labels.window = some (s.engine.slots.size + i)) :
    exec drawLabels { s with engine := s.engine.addAll ws, labels } =
      (.ok (), { s with
        engine := s.engine.addAll (ws.modify i (·.edits labels.drawn)), labels }) := by
  have hdraw : exec labels.draw (s.engine.addAll ws) =
      (.ok (), s.engine.addAll (ws.modify i (·.edits labels.drawn))) := by
    have hredrawn : labels.redrawn = labels.drawn.map (s.engine.slots.size + i, ·) := by
      rw [SoftLabels.redrawn, hlabels]
    rw [SoftLabels.draw_eq, Buffers.exec_performing, hredrawn, Buffers.changeAll_map,
      Buffers.modifyWindow_addAll]
    · exact fun p => SoftLabels.not_isResize_of_mem_redrawn
    · intro p hp
      rw [hredrawn] at hp
      obtain ⟨e, -, rfl⟩ := List.mem_map.mp hp
      rw [Buffers.window?_addAll_of_lt hi]
      rfl
  rw [drawLabels, exec_bind_ok (exec_get _), exec_onEngine, hdraw]

/-- What is drawn does not depend on the window's id. -/
theorem drawn_placed (labels : SoftLabels) (cols : Nat) (id id' : WindowId) :
    (labels.placed cols (some id)).drawn = (labels.placed cols (some id')).drawn := by
  obtain ⟨format, labels, width, window⟩ := labels
  cases format <;> rfl

/-- The strip is the third window that is made. -/
theorem makes_placeLabels {l : Layout} {windows : WindowSet} {p q : Window} {rest : List Window} :
    Makes s (p :: q :: (l.stripArea?.toList.map .blank ++ rest)) []
      (do
        if let some window := l.stripArea?.map fun _ => s.engine.slots.size + 2 then
          placeLabels window l.terminalCols
        return windows)
      windows
      (p :: q :: (l.stripArea?.toList.map (fun area =>
        (Window.blank area).edits (s.labels.placed l.terminalCols (some 0)).drawn) ++ rest))
      (s.labels.placed l.terminalCols (l.stripArea?.map fun _ => s.engine.slots.size + 2)) := by
  cases l.stripArea? with
  | none => exact .of_exec rfl
  | some area =>
    apply Makes.of_exec
    have hwindow : (s.labels.placed l.terminalCols (some (s.engine.slots.size + 2))).window =
        some (s.engine.slots.size + 2) := SoftLabels.window_layOut ..
    have hlength : 2 < (p :: q :: .blank area :: rest).length := by simp
    have hdraw := exec_drawLabels hlength hwindow
    rw [drawn_placed _ _ _ 0] at hdraw
    simp only [Option.map_some]
    rw [placeLabels, bind_assoc, exec_bind_ok (exec_modify ..)]
    exact exec_bind_ok hdraw

theorem makes_preserveContent {p q d : Window} {mid : List Window}
    {x : Action (Screen T Buffers) WindowError α}
    (h : Makes s (p.edits [.markClean, .setClear false] :: q ::
      (mid ++ [d.edits [.markClean, .setClear false]])) areas x a ws' labels) :
    Makes s (p :: q :: (mid ++ [d])) areas
      (do preserveContent s.engine.slots.size (s.engine.slots.size + (mid.length + 2)); x)
      a ws' labels := by
  have hmodify (p w : Window) (f : Window → Window) :
      (p :: q :: (mid ++ [w])).modify (mid.length + 2) f = p :: q :: (mid ++ [f w]) :=
    congrArg (p :: q :: ·) (modify_last mid w f)
  rw [preserveContent]
  simp only [bind_assoc]
  refine Makes.edit_bind (i := 0) (by simp) rfl ?_
  rw [List.modify_zero_cons]
  refine Makes.edit_bind (i := mid.length + 2) (by simp) rfl ?_
  rw [hmodify]
  refine Makes.edit_bind (i := 0) (by simp) rfl ?_
  rw [List.modify_zero_cons]
  refine Makes.edit_bind (i := mid.length + 2) (by simp) rfl ?_
  rw [hmodify]
  exact h

/-- How the display and the physical window are left. -/
theorem makes_finish {p q d : Window} {mid : List Window}
    {x : Action (Screen T Buffers) WindowError α}
    (h : Makes s
      (p.edits (if s.config.preserveScreen then [.markClean, .setClear false] else [.setClear true])
        :: q :: (mid ++ [d.edits
          (.eraseBelow :: if s.config.preserveScreen then [.markClean, .setClear false] else [])]))
      [] x a ws' labels) :
    Makes s (p :: q :: (mid ++ [d])) []
      (do
        edit (s.engine.slots.size + (mid.length + 2)) .eraseBelow
        if (← get).config.preserveScreen then
          preserveContent s.engine.slots.size (s.engine.slots.size + (mid.length + 2))
        else edit s.engine.slots.size (.setClear true)
        x)
      a ws' labels := by
  refine Makes.edit_bind (i := mid.length + 2) (by simp) rfl ?_
  have hdisplay : (p :: q :: (mid ++ [d])).modify (mid.length + 2) (·.edit .eraseBelow) =
      p :: q :: (mid ++ [d.edit .eraseBelow]) := congrArg (p :: q :: ·) (modify_last mid d _)
  rw [hdisplay]
  cases hpreserve : s.config.preserveScreen with
  | true =>
    simp only [hpreserve, if_true] at h
    refine Makes.of_exec_eq (fun engine => ?_) (makes_preserveContent h)
    rw [exec_bind_ok (exec_get _)]
    simp only [hpreserve, if_true]
  | false =>
    simp only [hpreserve, Bool.false_eq_true, if_false] at h
    refine Makes.of_exec_eq (fun engine => ?_)
      (Makes.edit_bind (i := 0) (e := .setClear true) (by simp) rfl h)
    rw [exec_bind_ok (exec_get _)]
    simp only [hpreserve, Bool.false_eq_true, if_false]
    rfl

/-- What is done with the windows of a session once all are there. -/
def finishWindows (l : Layout) (windows : WindowSet) :
    Action (Screen T Buffers) WindowError WindowSet := do
  edit windows.display .eraseBelow
  if (← get).config.preserveScreen then preserveContent windows.physical windows.display
  else edit windows.physical (.setClear true)
  if let some window := windows.strip then placeLabels window l.terminalCols
  return windows

theorem buildWindows_eq (l : Layout) :
    (buildWindows l : Action (Screen T Buffers) WindowError WindowSet) =
      (withWindow l.screenArea fun physical => withWindow l.screenArea fun snapshot => do
        edit snapshot (.setAttrs .sentinel)
        edit snapshot .erase
        withStrip l fun strip => withReserved l.terminalCols l.reserved fun reserved =>
          withWindow l.displayArea fun display =>
            finishWindows l { display, physical, snapshot, reserved, strip }) := rfl

theorem makes_finishWindows {l : Layout} (windows : WindowSet) {p q d : Window}
    (lines : List Window) (hphysical : windows.physical = s.engine.slots.size)
    (hstrip : windows.strip = l.stripArea?.map fun _ => s.engine.slots.size + 2)
    (hdisplay : windows.display =
      s.engine.slots.size + ((l.stripArea?.toList.map Window.blank ++ lines).length + 2)) :
    Makes s (p :: q :: (l.stripArea?.toList.map Window.blank ++ lines ++ [d])) []
      (finishWindows l windows) windows
      (p.edits (if s.config.preserveScreen then [.markClean, .setClear false] else [.setClear true])
        :: q :: (l.stripArea?.toList.map (fun area =>
          (Window.blank area).edits (s.labels.placed l.terminalCols (some 0)).drawn) ++ (lines ++
            [d.edits (.eraseBelow ::
              if s.config.preserveScreen then [.markClean, .setClear false] else [])])))
      (s.labels.placed l.terminalCols windows.strip) := by
  rw [finishWindows, hphysical, hdisplay, hstrip]
  refine makes_finish ?_
  rw [List.append_assoc]
  exact makes_placeLabels

theorem makes_buildWindows (s : Screen T Buffers) (l : Layout) :
    Makes s [] l.areas (buildWindows l) (l.numbered s.engine.slots.size)
      (newWindows s.config s.labels l)
      (s.labels.placed l.terminalCols (l.numbered s.engine.slots.size).strip) := by
  rw [buildWindows_eq]
  refine Makes.withWindow (Makes.withWindow ?_)
  refine Makes.edit_bind (i := 1) (by simp) rfl (Makes.edit_bind (i := 1) (by simp) rfl ?_)
  let q := (Window.blank l.screenArea).edits [.setAttrs .sentinel, .erase]
  let lines := l.reserved.map fun line => Window.blank (l.lineArea line)
  have hrest : Makes s [.blank l.screenArea, q]
      (l.stripArea?.toList ++ (l.reserved.map l.lineArea ++ [l.displayArea]))
      (withStrip l fun strip => withReserved l.terminalCols l.reserved fun reserved =>
        withWindow l.displayArea fun display => finishWindows l {
          display, physical := s.engine.slots.size, snapshot := s.engine.slots.size + 1
          reserved, strip })
      (l.numbered s.engine.slots.size) (newWindows s.config s.labels l)
      (s.labels.placed l.terminalCols (l.numbered s.engine.slots.size).strip) := by
    refine Makes.withStrip (Makes.withReserved (Makes.withWindow ?_))
    have hstrip : ([.blank l.screenArea, q] ++ l.stripArea?.toList.map Window.blank).length =
        2 + l.stripArea?.toList.length := by
      rw [List.length_append, List.length_map]
      rfl
    have hlines : ([.blank l.screenArea, q] ++ l.stripArea?.toList.map Window.blank ++
        l.reserved.map fun line => Window.blank ⟨line.row, 0, 1, l.terminalCols⟩).length =
        2 + l.stripArea?.toList.length + l.reserved.length := by
      rw [List.length_append, hstrip, List.length_map]
    have hfinish := makes_finishWindows (l.numbered s.engine.slots.size) lines (s := s)
      (p := .blank l.screenArea) (q := q) (d := .blank l.displayArea) rfl rfl
      (by simp [Layout.numbered, lines]; omega)
    rw [hstrip, hlines]
    exact hfinish
  exact hrest

/-- All windows of a session are made, or none is left. -/
theorem exec_buildWindows (s : Screen T Buffers) (l : Layout) :
    (Buffers.reserveAll s.engine.budget s.engine.inUse l.areas = .ok () ∧
      exec (buildWindows l) s = (.ok (l.numbered s.engine.slots.size), { s with
        engine := s.engine.addAll (newWindows s.config s.labels l)
        labels := s.labels.placed l.terminalCols (l.numbered s.engine.slots.size).strip })) ∨
    ∃ cause count, Buffers.reserveAll s.engine.budget s.engine.inUse l.areas = .error cause ∧
      exec (buildWindows l) s = (.error cause, { s with engine := s.engine.bury count }) := by
  have hmakes := makes_buildWindows s l
  have hnone : s.engine.addAll [] = s.engine := Buffers.addAll_nil _
  cases hreserve : Buffers.reserveAll s.engine.budget s.engine.inUse l.areas with
  | ok _ =>
    have hmade := hmakes.made
    rw [hnone] at hmade
    exact .inl ⟨rfl, hmade hreserve⟩
  | error cause =>
    have hrefused := hmakes.refused cause
    rw [hnone] at hrefused
    obtain ⟨left, count, hlength, hexec⟩ := hrefused hreserve
    obtain rfl : left = [] := List.eq_nil_of_length_eq_zero hlength
    rw [hnone] at hexec
    exact .inr ⟨cause, count, rfl, hexec⟩

end Screen

end TerminalSession
