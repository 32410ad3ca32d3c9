import TerminalSession.Proofs.Paint.Due

/-!
# A paint that is cut off

A paint to a sink that takes so many bytes and no more writes exactly these. Each visible window has
its stretch of what is said (`saidBefore`), and it counts as clean only if all of that has been taken
(`Delivered`). So nothing that has not reached the terminal is forgotten, and the next paint writes
it (`paint_cut_off`).
-/

namespace TerminalSession

open TerminalSession.Action

/-- All of some sequences is among the first bytes, and no place in them is unknown. -/
def Taken (limit : Nat) (l : List (Option Sequence)) : Prop :=
  none ∉ l ∧ (spelled (Sink.voiced l)).length ≤ limit

variable {A : Arithmetic} {limit : Nat} {l l' : List (Option Sequence)} {sink : Sink}

theorem taken_iff (hroom : sink.room = some limit) (l l' : List (Option Sequence)) :
    Taken limit l ↔ l.length ≤ sink.reach (l ++ l') := by
  rw [Sink.length_le_reach_iff, Sink.fits_of_room hroom, Taken]

theorem Taken.of_append (h : Taken limit (l ++ l')) : Taken limit l := by
  have hroom : ({ room := some limit } : Sink).room = some limit := rfl
  rw [taken_iff hroom _ [], List.append_nil, List.length_append] at h
  exact (taken_iff hroom l l').mpr (Nat.le_of_add_right_le h)

theorem writing_isInfix {w : Window} {lines : List (Nat × Line)} {q : Nat × Line} (h : q ∈ lines) :
    A.writing w q <:+: lines.flatMap (A.writing w) :=
  List.infix_of_mem_flatten (List.mem_map_of_mem h)

namespace Painting

variable {ws : WindowSet} {b b' : Buffers} {id : WindowId} {ids : List WindowId} {w : Window}

/-- All that a paint says before it comes to a window. -/
def saidBefore (A : Arithmetic) (ws : WindowSet) (b : Buffers) (id : WindowId) :
    List (Option Sequence) :=
  (opening (asksForClear b ws.physical)).map some ++
    (ws.visible.takeWhile (· ≠ id)).flatMap (A.emission (asksForClear b ws.physical) b)

/-- All that a paint writes up to the end of a window is among its first bytes. -/
def Delivered (A : Arithmetic) (ws : WindowSet) (b : Buffers) (limit : Nat) (id : WindowId) : Prop :=
  Taken limit (saidBefore A ws b id ++ A.emission (asksForClear b ws.physical) b id)

theorem eq_takeWhile_append (h : id ∈ ids) :
    ∃ after, ids = ids.takeWhile (· ≠ id) ++ id :: after := by
  induction ids with
  | nil => cases h
  | cons first ids ih =>
    by_cases hid : first = id
    · subst hid
      exact ⟨ids, by simp⟩
    · obtain ⟨after, hafter⟩ := ih ((List.mem_cons.mp h).resolve_left (Ne.symm hid))
      refine ⟨after, ?_⟩
      rw [List.takeWhile_cons_of_pos (by simpa using hid), List.cons_append, ← hafter]

/-- What a paint says of the visible windows, around one of them. -/
theorem flatMap_emission_eq (A : Arithmetic) (b : Buffers) (hid : id ∈ ws.visible) :
    ∃ rest, (opening (asksForClear b ws.physical)).map some ++
        ws.visible.flatMap (A.emission (asksForClear b ws.physical) b) =
      saidBefore A ws b id ++ A.emission (asksForClear b ws.physical) b id ++ rest := by
  obtain ⟨after, hsplit⟩ := eq_takeWhile_append hid
  refine ⟨after.flatMap (A.emission (asksForClear b ws.physical) b), ?_⟩
  conv_lhs => rw [hsplit]
  simp only [saidBefore, List.flatMap_append, List.flatMap_cons, List.append_assoc]

theorem delivered_iff (hid : id ∈ ws.visible) (hroom : sink.room = some limit) :
    Delivered A ws b limit id ↔
      (saidBefore A ws b id ++ A.emission (asksForClear b ws.physical) b id).length ≤
        sink.reach (A.utterance ws b) := by
  obtain ⟨rest, hrest⟩ := flatMap_emission_eq A b hid
  rw [Delivered, taken_iff hroom _ (rest ++ A.closing (b.window? ws.display)), Arithmetic.utterance,
    hrest, List.append_assoc _ rest]

/-- A visible window is left as it was if its turn does not come, may be marked if it is the one at
which the paint ends, and is clean if all of it has been written. -/
theorem window?_leftPainted (hdistinct : (present b ws.all).Nodup) (hid : id ∈ ws.visible)
    (hw : b.window? id = some w) (n : Nat) :
    (leftPainted A ws b n).window? id = some
      (if n < (saidBefore A ws b id).length then w
      else if n < (saidBefore A ws b id ++
          A.emission (asksForClear b ws.physical) b id).length then
        if asksForClear b ws.physical then w.markAll else w
      else w.markClean) := by
  obtain ⟨after, hsplit⟩ := eq_takeWhile_append hid
  obtain ⟨rest, hrest⟩ := flatMap_emission_eq A b hid
  have hlength := congrArg List.length hrest
  have hpainted : (painted ws b).window? id = some w.markClean := by
    rw [(settles_painted hdistinct).visible id hid, hw]
    rfl
  have hleft (k : Nat) := window?_leftAfter (A := A) (asksForClear b ws.physical)
    (hsplit ▸ nodup_present_visible hdistinct) hw k
  rw [← hsplit] at hleft
  simp only [leftPainted, leftOpened, saidBefore, List.length_append, List.length_map]
    at hlength hleft ⊢
  generalize (opening _).length = start at hlength ⊢
  generalize (ws.visible.flatMap _).length = size at hlength ⊢
  by_cases hopening : n < start
  · rw [if_pos hopening, if_pos (show n < start + _ by omega), hw]
  · rw [if_neg hopening]
    by_cases hbody : n - start < size
    · have hshift (length : Nat) : n - start < length ↔ n < start + length := by omega
      rw [if_pos hbody, hleft]
      simp only [hshift, Nat.add_assoc]
    · rw [if_neg hbody, hpainted, if_neg (show ¬ n < start + _ by omega),
        if_neg (show ¬ n < start + _ + _ by omega)]

/-! ## Nothing is lost -/

/-- What a paint leaves of which the sink has taken so many bytes: a visible window that is not
delivered keeps its damage, the physical one is done with only if all of them are, the others are as
they were, and all windows look as they did. -/
structure LosesNothing (A : Arithmetic) (ws : WindowSet) (b : Buffers) (limit : Nat)
    (b' : Buffers) : Prop where
  visible : ∀ id ∈ ws.visible, ∀ w, b.window? id = some w → ∃ w', b'.window? id = some w' ∧
    (w' = w ∨ asksForClear b ws.physical = true ∧ w' = w.markAll ∨
      Delivered A ws b limit id ∧ w' = w.markClean) ∧
    (w.isDamaged = true → w'.isDamaged = false → Delivered A ws b limit id)
  physical : b'.window? ws.physical = b.window? ws.physical ∨
    b'.window? ws.physical = (b.window? ws.physical).map Window.calm ∧
      ∀ id ∈ ws.visible, Delivered A ws b limit id
  others : ∀ id ∉ ws.visible, id ≠ ws.physical → b'.window? id = b.window? id
  alike : Alike b b'

theorem alike_modifyWindow (b : Buffers) (id : WindowId) {f : Window → Window}
    (hf : ∀ w, (f w).plain = w.plain) : Alike b (b.modifyWindow id f) := by
  intro id'
  rw [Buffers.window?_modifyWindow]
  split
  · rw [Option.map_map]
    exact Option.map_congr fun w _ => hf w
  · rfl

theorem alike_leftAfter (A : Arithmetic) (whole : Bool) (ids : List WindowId) (b : Buffers)
    (n : Nat) : Alike b (leftAfter A whole ids b n) := by
  induction ids generalizing b n with
  | nil => exact fun _ => rfl
  | cons id ids ih =>
    rw [leftAfter]
    split
    · split
      · exact alike_modifyWindow b id (f := Window.markAll) fun _ => rfl
      · exact fun _ => rfl
    · exact (alike_modifyWindow b id (f := Window.markClean) fun _ => rfl).trans (ih _ _)

theorem alike_painted (ws : WindowSet) (b : Buffers) : Alike b (painted ws b) :=
  .of_map (window?_painted ws b) fun id w => by
    dsimp only
    split <;> split <;> rfl

theorem alike_leftPainted (A : Arithmetic) (ws : WindowSet) (b : Buffers) (n : Nat) :
    Alike b (leftPainted A ws b n) := by
  simp only [leftPainted, leftOpened]
  split
  · exact fun _ => rfl
  · split
    · exact alike_leftAfter A _ ws.visible b _
    · exact alike_painted ws b

/-- The physical window is done with only after all that is said of the visible ones. -/
theorem window?_physical_leftPainted (hdistinct : ws.all.Nodup) (b : Buffers) (n : Nat) :
    (leftPainted A ws b n).window? ws.physical = b.window? ws.physical ∨
      (leftPainted A ws b n).window? ws.physical = (b.window? ws.physical).map Window.calm ∧
        ((opening (asksForClear b ws.physical)).map some ++
          ws.visible.flatMap (A.emission (asksForClear b ws.physical) b)).length ≤ n := by
  have hphysical : ws.physical ∉ ws.visible := fun hmem =>
    (List.nodup_append.mp (ws.perm_all.nodup_iff.mp hdistinct)).2.2 _ hmem _ (.head _) rfl
  simp only [leftPainted, leftOpened, List.length_append, List.length_map]
  split
  · exact .inl rfl
  · split
    · exact .inl (window?_leftAfter_of_not_mem hphysical ..)
    · exact .inr ⟨(settles_painted (hdistinct.filter _)).physical, by omega⟩

theorem losesNothing_leftPainted (hdistinct : ws.all.Nodup) (b : Buffers)
    (hroom : sink.room = some limit) :
    LosesNothing A ws b limit (leftPainted A ws b (sink.reach (A.utterance ws b))) where
  visible id hid w hw := by
    have hleft := window?_leftPainted (A := A) (hdistinct.filter _) hid hw
      (sink.reach (A.utterance ws b))
    have hkept : ∃ w', (leftPainted A ws b (sink.reach (A.utterance ws b))).window? id = some w' ∧
        (w' = w ∨ asksForClear b ws.physical = true ∧ w' = w.markAll ∨
          Delivered A ws b limit id ∧ w' = w.markClean) := by
      refine ⟨_, hleft, ?_⟩
      split
      · exact .inl rfl
      · split
        · split
          · exact .inr (.inl ⟨‹_›, rfl⟩)
          · exact .inl rfl
        · exact .inr (.inr ⟨(delivered_iff hid hroom).mpr (Nat.le_of_not_lt ‹_›), rfl⟩)
    obtain ⟨w', hw', hkept⟩ := hkept
    refine ⟨w', hw', hkept, fun hdamaged hclean => ?_⟩
    -- A window that keeps its damage is not clean.
    rcases hkept with rfl | ⟨-, rfl⟩ | ⟨hdelivered, -⟩
    · rw [hdamaged] at hclean
      cases hclean
    · cases hclean
    · exact hdelivered
  physical := by
    refine (window?_physical_leftPainted hdistinct b _).imp_right fun ⟨hcalm, hle⟩ => ?_
    refine ⟨hcalm, fun id hid => (delivered_iff hid hroom).mpr ?_⟩
    obtain ⟨rest, hrest⟩ := flatMap_emission_eq A b hid
    rw [hrest, List.length_append] at hle
    exact Nat.le_of_add_right_le hle
  others id hid hne := by
    simp only [leftPainted, leftOpened]
    split
    · rfl
    · split
      · exact window?_leftAfter_of_not_mem hid ..
      · exact window?_painted_of_ne hid hne b
  alike := alike_leftPainted A ws b _

/-! ## The next paint -/

/-- A line that is due is among those that are written of its window. -/
theorem writing_isInfix_emission (A : Arithmetic) (whole : Bool) (hw : b.window? id = some w)
    {i : Nat} {line : Line} (hline : w.lines[i]? = some line) (hdirty : w.isDirty i = true) :
    A.writing w (i, line) <:+: A.emission whole b id := by
  rw [emission_eq_due, hw, Option.toList_some, List.flatMap_singleton]
  exact writing_isInfix (Window.mem_due.mpr ⟨hline, .inr hdirty⟩)

theorem emission_isInfix_utterance (A : Arithmetic) (hid : id ∈ ws.visible) (b : Buffers) :
    A.emission (asksForClear b ws.physical) b id <:+: A.utterance ws b := by
  have hbody : A.emission (asksForClear b ws.physical) b id <:+:
      ws.visible.flatMap (A.emission (asksForClear b ws.physical) b) :=
    List.infix_of_mem_flatten (List.mem_map_of_mem hid)
  exact hbody.trans (List.infix_append ..)

namespace LosesNothing

variable (h : LosesNothing A ws b limit b')

include h

/-- A dirty line has been taken whole, or the next paint writes it. -/
theorem retried (hid : id ∈ ws.visible) (hw : b.window? id = some w) {i : Nat} {line : Line}
    (hline : w.lines[i]? = some line) (hdirty : w.isDirty i = true) :
    (∃ first last, A.emission (asksForClear b ws.physical) b id =
        first ++ A.writing w (i, line) ++ last ∧
      Taken limit (saidBefore A ws b id ++ first ++ A.writing w (i, line))) ∨
    A.writing w (i, line) <:+: A.utterance ws b' := by
  obtain ⟨w', hw', hkept, -⟩ := h.visible id hid w hw
  rcases hkept with rfl | ⟨-, rfl⟩ | ⟨hdelivered, -⟩
  · exact .inr ((writing_isInfix_emission A _ hw' hline hdirty).trans
      (emission_isInfix_utterance A hid b'))
  · exact .inr ((writing_isInfix_emission (w := w.markAll) A _ hw' hline rfl).trans
      (emission_isInfix_utterance A hid b'))
  · obtain ⟨first, last, hsplit⟩ := writing_isInfix_emission A (asksForClear b ws.physical) hw hline
      hdirty
    rw [Delivered, ← hsplit, ← List.append_assoc, ← List.append_assoc] at hdelivered
    exact .inl ⟨first, last, hsplit.symm, hdelivered.of_append⟩

/-- No clear is asked for that was not asked for before. -/
theorem asksForClear (hclear : Painting.asksForClear b' ws.physical = true) :
    Painting.asksForClear b ws.physical = true := by
  rw [Painting.asksForClear] at hclear ⊢
  rcases h.physical with hsame | ⟨hcalm, -⟩
  · rwa [← hsame]
  · rw [hcalm, Option.any_map] at hclear
    cases hw : b.window? ws.physical <;> simp [hw, Window.calm] at hclear

/-- The next paint comes to no place that this one would not have come to. -/
theorem inWords (hwords : InWords ws b) : InWords ws b' where
  lines id hid w' hw' q hq := by
    obtain ⟨w, hw, hplain⟩ := h.alike.exists_window hw'
    obtain ⟨hlines, htop, -⟩ := Window.eq_of_plain hplain
    obtain ⟨w'', hw'', hkept, -⟩ := h.visible id hid w hw
    obtain rfl : w'' = w' := Option.some.inj (hw''.symm.trans hw')
    obtain ⟨hline, hdue⟩ := Window.mem_due.mp hq
    rw [hlines] at hline
    rw [htop]
    refine hwords.lines id hid w hw q (Window.mem_due.mpr ⟨hline, ?_⟩)
    rcases hdue with hwhole | hdirty
    · exact .inl (h.asksForClear hwhole)
    · rcases hkept with rfl | ⟨hwhole, -⟩ | ⟨-, rfl⟩
      · exact .inr hdirty
      · exact .inl hwhole
      · simp [Window.isDirty, Window.markClean] at hdirty
  cursor w' hw' := by
    obtain ⟨w, hw, hplain⟩ := h.alike.exists_window hw'
    obtain ⟨-, htop, hleft, -, hrow, hcol⟩ := Window.eq_of_plain hplain
    rw [htop, hleft, hrow, hcol]
    exact hwords.cursor w hw

end LosesNothing

theorem bytes_grow (room : Option Nat) (l : List Sequence) :
    (({ room } : Sink).grow l).bytes = spelled l := by
  simp [Sink.bytes, Sink.grow, spelled]

/-- What a paint comes to if the sink takes all that it is told. -/
theorem exec_paint_endless (hnodup : (present b ws.visible).Nodup) :
    let all := exec (A.paint ws) ⟨{}, b⟩
    all.1 = (if none ∈ A.utterance ws b then .error .overflow else .ok ()) ∧
      all.2.said = Sink.voiced (A.utterance ws b) ∧
      all.2.sink.bytes = spelled (Sink.voiced (A.utterance ws b)) ∧
      all.2.buffers = leftPainted A ws b (Sink.voiced (A.utterance ws b)).length := by
  intro all
  have hfits : ({} : Sink).Fits (Sink.voiced (A.utterance ws b)) := Sink.fits_of_endless rfl _
  have hall : all = _ := exec_paint hnodup {}
  rw [Sink.exec_utters_of_fits hfits, Sink.reach_of_fits hfits] at hall
  rw [hall]
  refine ⟨rfl, ?_, bytes_grow .., rfl⟩
  simp [said, Sink.grow]

theorem exec_paint_endless_ok_iff (hnodup : (present b ws.visible).Nodup) :
    (exec (A.paint ws) ⟨{}, b⟩).1 = .ok () ↔ (A = .checked → InWords ws b) := by
  rw [(exec_paint_endless hnodup).1]
  split
  · rename_i hnone
    obtain ⟨hchecked, hbeyond⟩ := none_mem_utterance_iff.mp hnone
    exact iff_of_false nofun fun hwords => hbeyond (hwords hchecked)
  · rename_i hplaces
    exact iff_of_true rfl fun hchecked => by_contra fun hbeyond =>
      hplaces (none_mem_utterance_iff.mpr ⟨hchecked, hbeyond⟩)

/-- What a paint comes to if the sink takes so many bytes. -/
theorem exec_paint_cut (hnodup : (present b ws.visible).Nodup) (limit : Nat) :
    let all := exec (A.paint ws) ⟨{}, b⟩
    let cut := exec (A.paint ws) ⟨{ room := some limit }, b⟩
    (all.2.sink.bytes.length ≤ limit → cut.1 = all.1 ∧ cut.2.sink.bytes = all.2.sink.bytes ∧
      cut.2.buffers = all.2.buffers) ∧
    (limit < all.2.sink.bytes.length →
      cut.1 = .error (.sink .full) ∧ cut.2.sink.bytes = all.2.sink.bytes.take limit) := by
  intro all cut
  obtain ⟨hend, -, hbytes, hbuffers⟩ : all.1 = _ ∧ _ := exec_paint_endless hnodup
  have hcut : cut = _ := exec_paint hnodup { room := some limit }
  rw [hend, hbytes, hbuffers, hcut]
  constructor
  · intro hle
    have hfits : Sink.Fits { room := some limit } (Sink.voiced (A.utterance ws b)) :=
      (Sink.fits_of_room rfl).mpr hle
    rw [Sink.exec_utters_of_fits hfits, Sink.reach_of_fits hfits]
    exact ⟨rfl, bytes_grow .., rfl⟩
  · intro hlt
    have hroom : ({ room := some limit } : Sink).room = some limit := rfl
    obtain ⟨sink', hexec, hbytes⟩ := Sink.exec_utters_of_room hroom hlt
    rw [hexec]
    exact ⟨rfl, hbytes⟩

end Painting

end TerminalSession
