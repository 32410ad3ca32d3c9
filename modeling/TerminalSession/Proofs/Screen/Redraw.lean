import TerminalSession.Proofs.Paint.Marks
import TerminalSession.Proofs.Screen.Addressed
import TerminalSession.Proofs.Screen.Touched

/-!
# What is to be drawn anew

After a session has begun, has been given the terminal back or has followed it to another size, the
terminal may show anything. So it is to be wiped, and the request for that stays until a paint, as
long as the application does not take it back (`Wiped`).

A session that preserves what is on the terminal is the exception: only its reserved lines and its
strip are to be drawn, as long as the display is not written to (`Pristine`).
-/

namespace TerminalSession

open TerminalSession.Action TerminalSession.Painting

/-- The windows besides the display that are seen. -/
def WindowSet.attached (ws : WindowSet) : List WindowId :=
  ws.reserved.map ReservedWindow.window ++ ws.strip.toList

namespace WindowSet

variable {windows : WindowSet} {l : Layout} {labels : SoftLabels} {b : Buffers}

theorem nodup_visible (h : windows.all.Nodup) : windows.visible.Nodup :=
  (List.nodup_append.mp (windows.perm_all.nodup_iff.mp h)).1

theorem Distinct.attached (h : windows.Distinct) {id : WindowId} (hid : id ∈ windows.attached) :
    id ≠ windows.display ∧ id ≠ windows.physical := by
  rcases List.mem_append.mp hid with hid | hid
  · obtain ⟨w, hw, rfl⟩ := List.mem_map.mp hid
    exact ⟨(h.line w hw).1, (h.line w hw).2.1⟩
  · obtain ⟨-, hdisplay, hphysical, -⟩ := h.strip id (by simpa using hid)
    exact ⟨hdisplay, hphysical⟩

theorem mem_all_of_mem_attached {id : WindowId} (hid : id ∈ windows.attached) :
    id ∈ windows.all := by
  rcases List.mem_append.mp hid with hid | hid
  · exact mem_all.mpr (.inr (.inl (List.mem_map.mp hid)))
  · exact mem_all.mpr (.inl (by simpa using hid))

theorem LaidOut.map_attached (h : windows.LaidOut l b) :
    windows.attached.map b.geometry? =
      (l.reserved.map l.lineArea ++ l.stripArea?.toList).map some := by
  rw [attached, List.map_append, h.map_reserved, h.map_strip, List.map_append]

/-- A rearrangement takes back no request to wipe the terminal. -/
theorem ne_setClear_of_mem_rearrangement {p : WindowId × Edit}
    (h : p ∈ windows.rearrangement l labels) : p.2 ≠ .setClear false := by
  have hplacing {id : WindowId} {area : Rect} (h : p ∈ placing id area) : p.2 ≠ .setClear false := by
    simp only [placing, List.mem_cons, List.not_mem_nil, or_false] at h
    rcases h with rfl | rfl <;> simp
  have hwriting {labels : SoftLabels} (h : p ∈ labels.redrawn) : p.2 ≠ .setClear false := by
    intro heq
    have hwriting := SoftLabels.isWriting_of_mem_redrawn h
    rw [heq] at hwriting
    cases hwriting
  simp only [rearrangement, List.mem_append] at h
  rcases h with h | h | h | h
  · simp only [rearrangingDisplay, List.mem_append, List.mem_cons, List.not_mem_nil, or_false] at h
    rcases h with rfl | h | rfl
    · simp
    · exact hplacing h
    · simp
  · unfold rearrangingStrip at h
    split at h
    · cases h
    · exact (List.mem_append.mp h).elim hplacing hwriting
  · obtain ⟨q, -, hq⟩ := List.mem_flatMap.mp h
    exact hplacing hq
  · simp only [refreshing, List.mem_cons, List.not_mem_nil, or_false] at h
    rcases h with rfl | rfl | rfl | rfl <;> simp

theorem setClear_mem_rearrangement (windows : WindowSet) (l : Layout) (labels : SoftLabels) :
    (windows.physical, .setClear true) ∈ windows.rearrangement l labels := by
  simp [rearrangement, refreshing]

end WindowSet

namespace Life

variable {T : Type} [Terminal T] {r : Life T Buffers} {m : Move T Buffers} {windows : WindowSet}
  {b b' : Buffers} {es : List (WindowId × Edit)}

/-! ## A terminal that is to be wiped -/

/-- The application leaves it to the session whether the terminal is to be wiped. -/
def sparesPhysical : Conduct := fun windows b b' =>
  asksForClear b' windows.physical = asksForClear b windows.physical

theorem sparesPhysical_changeAll (h : ∀ p ∈ es, p.2.isWriting = true) :
    sparesPhysical windows b (b.changeAll es) :=
  Buffers.asksForClear_changeAll h

/-- The terminal is to be wiped and written anew. -/
def Wiped (windows : WindowSet) (b : Buffers) : Prop := asksForClear b windows.physical = true

/-- A request to wipe the terminal stays, and each refresh makes one. -/
theorem Touched.wiped {consistent : Bool} (h : Touched sparesPhysical r m windows consistent b)
    (hold : Wiped windows r.screen.engine ∨
      Refreshes r m ∧ (r.screen.engine.window? windows.physical).isSome) : Wiped windows b := by
  cases h with
  | acted hm h => exact h.trans (hold.resolve_right fun h => hm h.1)
  | drawn hm h =>
    exact (Buffers.asksForClear_changeAll fun p hp => (h p hp).2).trans
      (hold.resolve_right fun h => hm h.1)
  | resumed hm =>
    exact Buffers.asksForClear_changeAll_of_clear (by simp)
      (hold.imp_right fun h => ⟨.head _, h.2⟩)
  | @rearranged l hm =>
    exact Buffers.asksForClear_changeAll_of_clear
      (fun p => WindowSet.ne_setClear_of_mem_rearrangement)
      (hold.imp_right fun h => ⟨windows.setClear_mem_rearrangement l _, h.2⟩)
  | broken hm _ h =>
    exact Buffers.asksForClear_changeAll_of_clear
      (fun p hp => WindowSet.ne_setClear_of_mem_rearrangement (h.subset hp))
      (.inl (hold.resolve_right fun h => hm h.1))

/-! ## A terminal that is preserved -/

/-- The application leaves the display as it is drawn, and gives the terminal no other window as
drawn. -/
structure SparesDisplay (windows : WindowSet) (b b' : Buffers) : Prop where
  physical : sparesPhysical windows b b'
  display : ∀ row, b'.isDirty windows.display row = true → b.isDirty windows.display row = true
  attached : ∀ id ∈ windows.attached, ∀ row, b.isDirty id row = true → b'.isDirty id row = true

theorem ne_markClean_of_isWriting {e : Edit} (h : e.isWriting = true) : e ≠ .markClean := by
  rintro rfl
  cases h

theorem isDirty_changeAll_of_ne {id : WindowId} (h : ∀ p ∈ es, p.1 ≠ id) (row : Nat) :
    (b.changeAll es).isDirty id row = b.isDirty id row := by
  rw [Buffers.isDirty, Buffers.isDirty, Buffers.window?_changeAll, Buffers.addressed_eq_nil h]
  cases b.window? id <;> rfl

/-- Writing into other windows than the display spares it. -/
theorem sparesDisplay_changeAll
    (h : ∀ p ∈ es, p.1 ≠ windows.display ∧ p.2.isWriting = true) :
    SparesDisplay windows b (b.changeAll es) where
  physical := sparesPhysical_changeAll fun p hp => (h p hp).2
  display := fun row hrow => by rwa [isDirty_changeAll_of_ne fun p hp => (h p hp).1] at hrow
  attached := fun id _ row =>
    Buffers.isDirty_changeAll fun p hp => ne_markClean_of_isWriting (h p hp).2

/-- What is on the terminal stays but for the reserved lines and the strip. -/
structure Pristine (windows : WindowSet) (b : Buffers) : Prop where
  distinct : windows.Distinct
  physical : asksForClear b windows.physical = false
  display : ∀ row, b.isDirty windows.display row = false
  attached : ∀ id ∈ windows.attached, ∀ row, b.isDirty id row = true

theorem Pristine.spared (h : Pristine windows b) (hspares : SparesDisplay windows b b') :
    Pristine windows b' where
  distinct := h.distinct
  physical := hspares.physical.trans h.physical
  display := fun row => by
    rw [Bool.eq_false_iff]
    intro hrow
    exact Bool.noConfusion ((hspares.display row hrow).symm.trans (h.display row))
  attached := fun id hid row => hspares.attached id hid row (h.attached id hid row)

/-- Labels are drawn into the strip, which is to be drawn anyway. -/
theorem Touched.pristine (h : Touched SparesDisplay r m windows true b) (hm : ¬ Refreshes r m)
    (hold : Pristine windows r.screen.engine) : Pristine windows b := by
  cases h with
  | acted _ h => exact hold.spared h
  | drawn _ h =>
    refine hold.spared (sparesDisplay_changeAll fun p hp => ⟨?_, (h p hp).2⟩)
    exact (hold.distinct.strip p.1 (h p hp).1).2.1
  | resumed h => exact absurd h hm
  | rearranged h => exact absurd h hm
  | broken _ h => cases h

/-! ## Windows that have just been made -/

section

variable {i : Interior Buffers} {l : Layout}

/-- The windows of a session between the physical window, which is made first, and the display, which
is made last. -/
def newOthers (labels : SoftLabels) (l : Layout) : List Window :=
  (Window.blank l.screenArea).edits [.setAttrs .sentinel, .erase] ::
    (l.stripArea?.toList.map (fun area =>
      (Window.blank area).edits (labels.placed l.terminalCols (some 0)).drawn) ++
      l.reserved.map fun line => .blank (l.lineArea line))

def newPhysical (config : Config) (l : Layout) : Window :=
  (Window.blank l.screenArea).edits
    (if config.preserveScreen then [.markClean, .setClear false] else [.setClear true])

def newDisplay (config : Config) (l : Layout) : Window :=
  (Window.blank l.displayArea).edits
    (.eraseBelow :: if config.preserveScreen then [.markClean, .setClear false] else [])

theorem newWindows_eq (config : Config) (labels : SoftLabels) (l : Layout) :
    newWindows config labels l =
      newPhysical config l :: (newOthers labels l ++ [newDisplay config l]) := by
  simp only [newOthers, List.cons_append, List.append_assoc]
  rfl

theorem isDirty_of_mem_newOthers {labels : SoftLabels} {w : Window} (h : w ∈ newOthers labels l)
    (row : Nat) : w.isDirty row = true := by
  simp only [newOthers, List.mem_cons, List.mem_append, List.mem_map] at h
  rcases h with rfl | ⟨area, -, rfl⟩ | ⟨line, -, rfl⟩
  · rfl
  · exact Window.isDirty_edits (fun e he => ne_markClean_of_isWriting
      (SoftLabels.isWriting_of_mem_drawn he)) rfl
  · rfl

theorem window?_built (i : Interior Buffers) (l : Layout) (k : Nat) :
    (i.built l).engine.window? (i.engine.slots.size + k) =
      (newPhysical i.config l :: (newOthers i.labels l ++ [newDisplay i.config l]))[k]? := by
  rw [← newWindows_eq, Interior.built, Buffers.window?_addAll,
    if_neg (Nat.not_lt.mpr (Nat.le_add_right ..)), Nat.add_sub_cancel_left]

theorem display_numbered (labels : SoftLabels) (l : Layout) (first : WindowId) :
    (l.numbered first).display = first + ((newOthers labels l).length + 1) := by
  simp [Layout.numbered, newOthers]
  omega

theorem asksForClear_built (i : Interior Buffers) (l : Layout) :
    asksForClear (i.built l).engine (l.numbered i.engine.slots.size).physical =
      !i.config.preserveScreen := by
  rw [asksForClear, show (l.numbered i.engine.slots.size).physical = i.engine.slots.size + 0 from rfl,
    window?_built, List.getElem?_cons_zero, newPhysical]
  cases i.config.preserveScreen <;> rfl

theorem exists_between {first count id : Nat} (hfirst : first ≤ id)
    (hlast : id < first + (count + 2)) (hne : id ≠ first) (hne' : id ≠ first + (count + 1)) :
    ∃ k < count, id = first + (k + 1) := ⟨id - (first + 1), by omega, by omega⟩

/-- What is attached to a new session lies between the physical window and the display. -/
theorem window?_built_attached {id : WindowId} (hid : id ∈ (l.numbered i.engine.slots.size).attached) :
    ∃ w ∈ newOthers i.labels l, (i.built l).engine.window? id = some w := by
  have hdistinct := WindowSet.distinct_of_nodup (l.nodup_all_numbered i.engine.slots.size)
  obtain ⟨hdisplay, hphysical⟩ := hdistinct.attached hid
  obtain ⟨hfirst, hlast⟩ := Layout.mem_all_numbered.mp (WindowSet.mem_all_of_mem_attached hid)
  have hlength : (newOthers i.labels l).length + 2 = l.areas.length := by
    rw [← length_newWindows i.config i.labels l, newWindows_eq]
    simp
  rw [display_numbered i.labels] at hdisplay
  rw [← hlength] at hlast
  obtain ⟨k, hk, rfl⟩ := exists_between hfirst hlast hphysical hdisplay
  refine ⟨_, List.getElem_mem hk, ?_⟩
  rw [window?_built, List.getElem?_cons_succ, List.getElem?_append_left hk,
    List.getElem?_eq_getElem hk]

/-- Of a new session that preserves the terminal, reserved lines and strip are to be drawn. -/
theorem pristine_built (hpreserve : i.config.preserveScreen = true) :
    Pristine (l.numbered i.engine.slots.size) (i.built l).engine where
  distinct := WindowSet.distinct_of_nodup (l.nodup_all_numbered _)
  physical := by rw [asksForClear_built, hpreserve, Bool.not_true]
  display := fun row => by
    rw [Buffers.isDirty, display_numbered i.labels, window?_built, List.getElem?_cons_succ,
      List.getElem?_concat_length, newDisplay, hpreserve]
    exact Damage.contains_empty row
  attached := fun id hid row => by
    obtain ⟨w, hw, hid⟩ := window?_built_attached hid
    rw [Buffers.isDirty, hid]
    exact isDirty_of_mem_newOthers hw row

end

end Life

end TerminalSession
