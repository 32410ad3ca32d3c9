import TerminalSession.Proofs.Engine.Changes
import TerminalSession.Proofs.Paint.Words

/-!
# How far a paint gets

A sink with room for so many bytes takes what it is told up to there, and fails at the sequence that
goes beyond. A sum that does not fit its word ends a paint as well. A part of a paint is described
for all sinks at once (`Utters`): by what it says, by the windows that it leaves if all of that is
taken, and by those that it leaves if it ends after so many sequences. Parts that follow each other
say one thing after the other (`Utters.seq`), and so a paint is described by its parts
(`utters_paint`).
-/

namespace TerminalSession

open TerminalSession.Action

/-- The bytes that sequences are written as. -/
def spelled (l : List Sequence) : List UInt8 := Utf8.encode (Sequence.encodeAll l)

@[simp] theorem spelled_nil : spelled [] = [] := rfl

@[simp] theorem spelled_append (l l' : List Sequence) :
    spelled (l ++ l') = spelled l ++ spelled l' := by
  simp only [spelled, Sequence.encodeAll, Utf8.encode, List.flatMap_append]

theorem spelled_singleton (s : Sequence) : spelled [s] = s.bytes := by
  simp only [spelled, Sequence.encodeAll, Sequence.bytes, List.flatMap_singleton]

/-! ## Sinks -/

namespace Sink

variable {sink : Sink} {l l' : List Sequence} {s : Sequence} {room : Nat}

/-- A sink has room for sequences. -/
def Fits (sink : Sink) (l : List Sequence) : Prop :=
  ∀ room, sink.room = some room → (spelled l).length ≤ room

/-- A sink that has taken sequences more. -/
def grow (sink : Sink) (l : List Sequence) : Sink :=
  { sink with room := sink.room.map (· - (spelled l).length), taken := sink.taken ++ l.toArray }

theorem grow_nil (sink : Sink) : sink.grow [] = sink := by
  simp [grow]

theorem grow_append (sink : Sink) (l l' : List Sequence) :
    sink.grow (l ++ l') = (sink.grow l).grow l' := by
  have hroom (n : Nat) : n - (spelled (l ++ l')).length =
      n - (spelled l).length - (spelled l').length := by
    rw [spelled_append, List.length_append, Nat.sub_sub]
  have htaken : sink.taken ++ (l ++ l').toArray = sink.taken ++ l.toArray ++ l'.toArray := by
    simp only [Array.append_assoc, List.append_toArray]
  simp only [grow, hroom, htaken, Option.map_map, Function.comp_def]

theorem fits_append : sink.Fits (l ++ l') ↔ sink.Fits l ∧ (sink.grow l).Fits l' := by
  simp only [Fits, grow, spelled_append, List.length_append]
  cases sink.room with
  | none => simp
  | some room =>
    simp only [Option.some.injEq, forall_eq', Option.map_some]
    omega

theorem fits_of_room (hroom : sink.room = some room) :
    sink.Fits l ↔ (spelled l).length ≤ room := by
  simp only [Fits, hroom, Option.some.injEq, forall_eq']

theorem fits_of_endless (hroom : sink.room = none) (l : List Sequence) : sink.Fits l := by
  intro room h
  rw [hroom] at h
  cases h

theorem exec_write_of_fits (h : sink.Fits [s]) : exec (write s) sink = (.ok (), sink.grow [s]) := by
  rw [write, exec_ofFn, grow, spelled_singleton, Array.push_eq_append]
  cases hroom : sink.room with
  | none => rfl
  | some room =>
    rw [fits_of_room hroom, spelled_singleton] at h
    simp only [if_pos h]
    rfl

theorem exec_write_of_room (hroom : sink.room = some room) (h : room < s.bytes.length) :
    exec (write s) sink =
      (.error .full, { sink with cut := s.bytes.take room, room := some 0 }) := by
  simp only [write, exec_ofFn, hroom]
  exact if_neg (Nat.not_le.mpr h)

/-- Sequences that fit are taken. -/
theorem exec_writes_of_fits (h : sink.Fits l) :
    exec (l.forM write) sink = (.ok (), sink.grow l) := by
  induction l generalizing sink with
  | nil => rw [grow_nil]; rfl
  | cons s l ih =>
    obtain ⟨hfirst, hrest⟩ := fits_append.mp (show sink.Fits ([s] ++ l) from h)
    change exec (write s >>= fun _ => l.forM write) sink = _
    rw [exec_bind_ok (exec_write_of_fits hfirst), ih hrest, ← grow_append]
    rfl

/-- Of sequences that do not fit, a beginning is taken that fills the room. -/
theorem exec_writes_of_room (hroom : sink.room = some room) (h : room < (spelled l).length) :
    ∃ sink', exec (l.forM write) sink = (.error .full, sink') ∧
      sink'.bytes = spelled sink.taken.toList ++ (spelled l).take room := by
  induction l generalizing sink room with
  | nil => exact absurd h (Nat.not_lt_zero room)
  | cons s l ih =>
    have hspelled : spelled (s :: l) = s.bytes ++ spelled l := by
      rw [← spelled_singleton, ← spelled_append]
      rfl
    rw [hspelled, List.length_append] at h
    change ∃ sink', exec (write s >>= fun _ => l.forM write) sink = _ ∧ _
    rw [hspelled]
    by_cases hfirst : s.bytes.length ≤ room
    · have hfits : sink.Fits [s] := (fits_of_room hroom).mpr (spelled_singleton s ▸ hfirst)
      have hleft : (sink.grow [s]).room = some (room - s.bytes.length) := by
        rw [grow, hroom, spelled_singleton]
        rfl
      obtain ⟨sink', hexec, hbytes⟩ := ih hleft (by omega)
      refine ⟨sink', by rw [exec_bind_ok (exec_write_of_fits hfits), hexec], ?_⟩
      have htaken : (sink.grow [s]).taken.toList = sink.taken.toList ++ [s] := by
        simp [grow]
      rw [hbytes, htaken, spelled_append, spelled_singleton, List.append_assoc,
        List.take_append, List.take_of_length_le hfirst]
    · rw [exec_bind_error (exec_write_of_room hroom (Nat.lt_of_not_le hfirst))]
      refine ⟨_, rfl, ?_⟩
      rw [List.take_append_of_le_length (by omega)]
      rfl

/-! ### Sequences whose places may not be known -/

/-- The sequences before the first one whose place is not known. -/
def voiced : List (Option Sequence) → List Sequence
  | some s :: l => s :: voiced l
  | _ => []

theorem map_some_voiced {l : List (Option Sequence)} (h : none ∉ l) : (voiced l).map some = l := by
  induction l with
  | nil => rfl
  | cons s l ih =>
    obtain ⟨hs, hl⟩ := not_or.mp (mt List.mem_cons.mpr h)
    cases s with
    | none => exact absurd rfl hs
    | some s => rw [voiced, List.map_cons, ih hl]

/-- What follows them begins with the one whose place is not known. -/
theorem eq_voiced_append {l : List (Option Sequence)} (h : none ∈ l) :
    ∃ more, l = (voiced l).map some ++ none :: more := by
  induction l with
  | nil => cases h
  | cons s l ih =>
    cases s with
    | none => exact ⟨l, rfl⟩
    | some s =>
      obtain ⟨more, hmore⟩ := ih ((List.mem_cons.mp h).resolve_left nofun)
      exact ⟨more, congrArg (some s :: ·) hmore⟩

/-- How many of some sequences a sink takes whole. -/
def reach : Sink → List (Option Sequence) → Nat
  | _, [] => 0
  | sink, s :: l =>
    match exec (utter s) sink with
    | (.ok (), sink') => reach sink' l + 1
    | (.error _, _) => 0

section

variable {l l' : List (Option Sequence)} {sink' : Sink} {e : PaintError}

theorem exec_utters_cons (s : Option Sequence) (l : List (Option Sequence)) (sink : Sink) :
    exec ((s :: l).forM utter) sink = exec (utter s >>= fun _ => l.forM utter) sink := rfl

theorem exec_utters_append (l l' : List (Option Sequence)) (sink : Sink) :
    exec ((l ++ l').forM utter) sink =
      exec (l.forM utter >>= fun _ => l'.forM utter) sink :=
  congrArg (exec · sink) List.forM_append

theorem reach_append_of_ok (h : exec (l.forM utter) sink = (.ok (), sink'))
    (l' : List (Option Sequence)) : sink.reach (l ++ l') = l.length + sink'.reach l' := by
  induction l generalizing sink with
  | nil =>
    cases h
    exact (Nat.zero_add _).symm
  | cons s l ih =>
    obtain ⟨_, t, hs, hl⟩ := of_exec_bind_ok h
    simp only [List.cons_append, reach, hs, ih hl, List.length_cons]
    omega

theorem reach_append_of_error (h : exec (l.forM utter) sink = (.error e, sink'))
    (l' : List (Option Sequence)) :
    sink.reach (l ++ l') = sink.reach l ∧ sink.reach l < l.length := by
  induction l generalizing sink with
  | nil => cases h
  | cons s l ih =>
    rw [exec_utters_cons] at h
    rcases hs : exec (utter s) sink with ⟨_ | _, t⟩
    · simp [reach, hs]
    · rw [exec_bind_ok hs] at h
      obtain ⟨hsame, hlt⟩ := ih h
      simp only [List.cons_append, reach, hs, hsame, List.length_cons]
      exact ⟨trivial, Nat.succ_lt_succ hlt⟩

theorem exec_utters_voiced (h : sink.Fits (voiced l)) :
    exec (((voiced l).map some).forM utter) sink = (.ok (), sink.grow (voiced l)) := by
  rw [renames_writes, exec_writes_of_fits h]
  rfl

theorem exec_utters_of_fits (h : sink.Fits (voiced l)) :
    exec (l.forM utter) sink =
      (if none ∈ l then .error .overflow else .ok (), sink.grow (voiced l)) := by
  have hvoiced := exec_utters_voiced h
  by_cases hl : none ∈ l
  · obtain ⟨more, hmore⟩ := eq_voiced_append hl
    rw [if_pos hl]
    conv_lhs => rw [hmore]
    rw [exec_utters_append, exec_bind_ok hvoiced]
    rfl
  · rw [if_neg hl]
    conv_lhs => rw [← map_some_voiced hl]
    exact hvoiced

theorem exec_utters_of_room (hroom : sink.room = some room)
    (h : room < (spelled (voiced l)).length) :
    ∃ sink', exec (l.forM utter) sink = (.error (.sink .full), sink') ∧
      sink'.bytes = spelled sink.taken.toList ++ (spelled (voiced l)).take room := by
  obtain ⟨sink', hexec, hbytes⟩ := exec_writes_of_room hroom h
  have hvoiced : exec (((voiced l).map some).forM utter) sink = (.error (.sink .full), sink') := by
    rw [renames_writes, hexec]
    rfl
  refine ⟨sink', ?_, hbytes⟩
  by_cases hl : none ∈ l
  · obtain ⟨more, hmore⟩ := eq_voiced_append hl
    conv_lhs => rw [hmore]
    rw [exec_utters_append, exec_bind_error hvoiced]
  · conv_lhs => rw [← map_some_voiced hl]
    exact hvoiced

/-- Only sequences whose places are all known, and which fit, are taken. -/
theorem of_utters_ok (h : exec (l.forM utter) sink = (.ok (), sink')) :
    none ∉ l ∧ sink.Fits (voiced l) ∧ sink' = sink.grow (voiced l) := by
  have hfits : sink.Fits (voiced l) := by
    intro room hroom
    refine Nat.le_of_not_lt fun hlt => ?_
    obtain ⟨sink', hexec, -⟩ := exec_utters_of_room hroom hlt
    rw [hexec] at h
    cases h
  rw [exec_utters_of_fits hfits] at h
  split at h
  · cases h
  · cases h
    exact ⟨‹_›, hfits, rfl⟩

/-- All that fits is taken, up to a place that is not known. -/
theorem reach_of_fits (h : sink.Fits (voiced l)) : sink.reach l = (voiced l).length := by
  have hreach (more : List (Option Sequence)) := reach_append_of_ok (exec_utters_voiced h) more
  rw [List.length_map] at hreach
  by_cases hl : none ∈ l
  · obtain ⟨more, hmore⟩ := eq_voiced_append hl
    conv_lhs => rw [hmore]
    exact hreach (none :: more)
  · have hall := hreach []
    rwa [List.append_nil, map_some_voiced hl] at hall

/-- A beginning of what is said is taken whole if its places are all known and it fits. -/
theorem length_le_reach_iff :
    l.length ≤ sink.reach (l ++ l') ↔ none ∉ l ∧ sink.Fits (voiced l) := by
  rcases h : exec (l.forM utter) sink with ⟨e | _, sink'⟩
  · obtain ⟨hsame, hlt⟩ := reach_append_of_error h l'
    rw [hsame]
    refine iff_of_false (Nat.not_le.mpr hlt) fun ⟨hl, hfits⟩ => ?_
    rw [exec_utters_of_fits hfits, if_neg hl] at h
    cases h
  · obtain ⟨hl, hfits, -⟩ := of_utters_ok h
    rw [reach_append_of_ok h]
    exact iff_of_true (Nat.le_add_right ..) ⟨hl, hfits⟩

end

end Sink

/-! ## Parts of a paint -/

namespace Painting

open Sink (voiced)

/-- With windows `b` a part of a paint says `l` and leaves windows `b'`. If it ends after `n`
sequences of that, it leaves the windows `left n`. -/
structure Utters (x : Action Painting PaintError Unit) (b : Buffers) (l : List (Option Sequence))
    (b' : Buffers) (left : Nat → Buffers) : Prop where
  whole : ∀ sink sink' : Sink, exec (l.forM Sink.utter) sink = (.ok (), sink') →
    exec x ⟨sink, b⟩ = (.ok (), ⟨sink', b'⟩)
  cut : ∀ (sink sink' : Sink) (e : PaintError), exec (l.forM Sink.utter) sink = (.error e, sink') →
    exec x ⟨sink, b⟩ = (.error e, ⟨sink', left (sink.reach l)⟩)

variable {A : Arithmetic} {x y : Action Painting PaintError Unit} {b b' b'' : Buffers}
  {l l' : List (Option Sequence)} {left left' : Nat → Buffers} {id : WindowId}
  {ids : List WindowId} {whole : Bool}

namespace Utters

theorem utter (l : List (Option Sequence)) (b : Buffers) :
    Utters (utter l) b l b fun _ => b where
  whole sink sink' h := by rw [Painting.utter, exec_zoom, h]
  cut sink sink' e h := by rw [Painting.utter, exec_zoom, h]

/-- What says nothing is never cut off. -/
theorem silent (h : ∀ sink, exec x ⟨sink, b⟩ = (.ok (), ⟨sink, b'⟩)) (left : Nat → Buffers) :
    Utters x b [] b' left where
  whole sink sink' hl := by
    cases hl
    exact h sink
  cut _ _ _ hl := by cases hl

theorem change (id : WindowId) (f : Window → Window) (b : Buffers) (left : Nat → Buffers) :
    Utters (Painting.change id f) b [] (b.modifyWindow id f) left :=
  silent (fun _ => exec_modify ..) left

theorem seq (hx : Utters x b l b' left) (hy : Utters y b' l' b'' left') :
    Utters (x >>= fun _ => y) b (l ++ l') b'' fun n =>
      if n < l.length then left n else left' (n - l.length) where
  whole sink sink' h := by
    rw [Sink.exec_utters_append] at h
    obtain ⟨_, t, hfirst, hrest⟩ := of_exec_bind_ok h
    rw [exec_bind_ok (hx.whole sink t hfirst), hy.whole t sink' hrest]
  cut sink sink' e h := by
    rw [Sink.exec_utters_append] at h
    rcases hfirst : exec (l.forM Sink.utter) sink with ⟨e' | _, t⟩
    · rw [exec_bind_error hfirst] at h
      cases h
      obtain ⟨hsame, hlt⟩ := Sink.reach_append_of_error hfirst l'
      rw [exec_bind_error (hx.cut sink _ e hfirst), hsame, if_pos hlt]
    · rw [exec_bind_ok hfirst] at h
      rw [exec_bind_ok (hx.whole sink t hfirst), hy.cut t sink' e h,
        Sink.reach_append_of_ok hfirst, if_neg (by omega), Nat.add_sub_cancel_left]

theorem get_bind {f : Painting → Action Painting PaintError Unit}
    (h : ∀ sink, Utters (f ⟨sink, b⟩) b l b' left) : Utters (get >>= f) b l b' left where
  whole sink := (h sink).whole sink
  cut sink := (h sink).cut sink

/-- Where an action is cut off matters for what it says only. -/
theorem congr (h : Utters x b l b' left) (hleft : ∀ n < l.length, left n = left' n) :
    Utters x b l b' left' where
  whole := h.whole
  cut sink sink' e hl := by
    have hlt := (Sink.reach_append_of_error hl []).2
    rw [h.cut sink sink' e hl, hleft _ hlt]

/-- Actions are the same that say the same and leave the same wherever they are cut off. -/
theorem exec_eq (hx : Utters x b l b' left) (hy : Utters y b l b' left) (sink : Sink) :
    exec x ⟨sink, b⟩ = exec y ⟨sink, b⟩ := by
  rcases hl : exec (l.forM Sink.utter) sink with ⟨e | _, sink'⟩
  · rw [hx.cut sink sink' e hl, hy.cut sink sink' e hl]
  · rw [hx.whole sink sink' hl, hy.whole sink sink' hl]

/-- An action that succeeds has said all it says. -/
theorem of_ok {p : Painting} {sink : Sink} (h : Utters x b l b' left)
    (hok : exec x ⟨sink, b⟩ = (.ok (), p)) : none ∉ l ∧ p = ⟨sink.grow (voiced l), b'⟩ := by
  rcases hl : exec (l.forM Sink.utter) sink with ⟨e | _, sink'⟩
  · rw [h.cut sink sink' e hl] at hok
    cases hok
  · obtain ⟨hplaces, -, rfl⟩ := Sink.of_utters_ok hl
    rw [h.whole sink _ hl] at hok
    cases hok
    exact ⟨hplaces, rfl⟩

end Utters

/-! ## Windows -/

/-- The windows after some of them have been painted. -/
def cleaned (ids : List WindowId) (b : Buffers) : Buffers :=
  ids.foldl (fun b id => b.modifyWindow id Window.markClean) b

variable (A) in
/-- The windows that are left if the painting of some of them ends after so many sequences. -/
def leftAfter (whole : Bool) : List WindowId → Buffers → Nat → Buffers
  | [], b, _ => b
  | id :: ids, b, n =>
    if n < (A.emission whole b id).length then
      if whole then b.modifyWindow id Window.markAll else b
    else leftAfter whole ids (b.modifyWindow id Window.markClean)
      (n - (A.emission whole b id).length)

theorem utters_paintWindow_false (id : WindowId) (b : Buffers) :
    Utters (A.paintWindow false id) b (A.emission false b id) (b.modifyWindow id Window.markClean)
      fun _ => b := by
  refine .get_bind fun _ => ?_
  unfold Arithmetic.emission
  cases hw : b.window? id with
  | none =>
    rw [Buffers.modifyWindow_of_none hw]
    exact .silent (fun _ => rfl) _
  | some w =>
    have hwrite := (Utters.utter (A.sequences w) b).seq (.change id Window.markClean b fun _ => b)
    rw [List.append_nil] at hwrite
    exact hwrite.congr fun n hn => if_pos hn

theorem emission_markAll (id : WindowId) (b : Buffers) :
    A.emission false (b.modifyWindow id Window.markAll) id = A.emission true b id := by
  rw [Arithmetic.emission, Arithmetic.emission, Buffers.window?_modifyWindow, if_pos rfl]
  cases b.window? id <;> rfl

theorem utters_paintWindow (whole : Bool) (id : WindowId) (b : Buffers) :
    Utters (A.paintWindow whole id) b (A.emission whole b id) (b.modifyWindow id Window.markClean)
      fun _ => if whole then b.modifyWindow id Window.markAll else b := by
  cases whole with
  | false => exact utters_paintWindow_false id b
  | true =>
    have hmark := (Utters.change id Window.markAll b fun _ => b).seq
      (utters_paintWindow_false (A := A) id (b.modifyWindow id Window.markAll))
    rw [Buffers.modifyWindow_modifyWindow, emission_markAll] at hmark
    exact hmark.congr fun n _ => if_neg (Nat.not_lt_zero n)

/-- The windows of some ids that there are. -/
def present (b : Buffers) (ids : List WindowId) : List WindowId :=
  ids.filter fun id => (b.window? id).isSome

theorem present_append (b : Buffers) (ids ids' : List WindowId) :
    present b (ids ++ ids') = present b ids ++ present b ids' :=
  List.filter_append ..

theorem isSome_window?_modifyWindow (b : Buffers) (id : WindowId) (f : Window → Window)
    (id' : WindowId) : ((b.modifyWindow id f).window? id').isSome = (b.window? id').isSome := by
  rw [Buffers.window?_modifyWindow]
  split
  · rw [Option.isSome_map, ‹id' = id›]
  · rfl

theorem present_modifyWindow (b : Buffers) (id : WindowId) (f : Window → Window)
    (ids : List WindowId) : present (b.modifyWindow id f) ids = present b ids := by
  simp only [present, isSome_window?_modifyWindow]

/-- A window that there is does not come again. -/
theorem nodup_present_cons (h : (present b (id :: ids)).Nodup) :
    (present b ids).Nodup ∧ (id ∈ ids → b.window? id = none) := by
  rw [present, List.filter_cons] at h
  split at h
  · rename_i hlive
    obtain ⟨hid, hids⟩ := List.nodup_cons.mp h
    exact ⟨hids, fun hmem => absurd (List.mem_filter.mpr ⟨hmem, hlive⟩) hid⟩
  · rename_i hgone
    exact ⟨h, fun _ => by simpa using hgone⟩

/-- What is to be written of a window does not change with another one. -/
theorem emission_modifyWindow {id' : WindowId} (h : id' = id → b.window? id = none)
    (f : Window → Window) :
    A.emission whole (b.modifyWindow id f) id' = A.emission whole b id' := by
  rw [Arithmetic.emission, Arithmetic.emission, Buffers.window?_modifyWindow]
  by_cases hsame : id' = id
  · subst hsame
    rw [if_pos rfl, h rfl]
    rfl
  · rw [if_neg hsame]

theorem flatMap_emission_modifyWindow (h : id ∈ ids → b.window? id = none) (f : Window → Window) :
    ids.flatMap (A.emission whole (b.modifyWindow id f)) = ids.flatMap (A.emission whole b) :=
  List.flatMap_congr fun _ hid => emission_modifyWindow (fun hsame => h (hsame ▸ hid)) f

/-- Painting windows says what is to be written of each, if none of them comes twice. -/
theorem utters_paintWindows (whole : Bool) (hnodup : (present b ids).Nodup) :
    Utters (ids.forM (A.paintWindow whole)) b (ids.flatMap (A.emission whole b)) (cleaned ids b)
      (leftAfter A whole ids b) := by
  induction ids generalizing b with
  | nil => exact .silent (fun _ => rfl) _
  | cons id ids ih =>
    obtain ⟨hids, hid⟩ := nodup_present_cons hnodup
    have hrest := ih (b := b.modifyWindow id Window.markClean) (by rwa [present_modifyWindow])
    rw [flatMap_emission_modifyWindow hid] at hrest
    exact (utters_paintWindow whole id b).seq hrest

theorem window?_cleaned (ids : List WindowId) (b : Buffers) (id : WindowId) :
    (cleaned ids b).window? id =
      (b.window? id).map fun w => if id ∈ ids then w.markClean else w := by
  induction ids generalizing b with
  | nil => simp [cleaned]
  | cons first ids ih =>
    have hclean (w : Window) : w.markClean.markClean = w.markClean := rfl
    refine (ih _).trans ?_
    rw [Buffers.window?_modifyWindow]
    by_cases hid : id = first
    · simp [hid, hclean, Function.comp_def]
    · simp [hid]

theorem window?_leftAfter_of_not_mem (h : id ∉ ids) (b : Buffers) (n : Nat) :
    (leftAfter A whole ids b n).window? id = b.window? id := by
  induction ids generalizing b n with
  | nil => rfl
  | cons first ids ih =>
    obtain ⟨hfirst, hids⟩ := List.ne_and_not_mem_of_not_mem_cons h
    rw [leftAfter]
    split
    · split
      · rw [Buffers.window?_modifyWindow, if_neg hfirst]
      · rfl
    · rw [ih hids, Buffers.window?_modifyWindow, if_neg hfirst]

/-- Of a window whose turn does not come nothing changes. The window at which the painting ends may
be marked, and the windows before it are clean. -/
theorem window?_leftAfter (whole : Bool) {before after : List WindowId} {w : Window}
    (hnodup : (present b (before ++ id :: after)).Nodup) (hw : b.window? id = some w) (n : Nat) :
    (leftAfter A whole (before ++ id :: after) b n).window? id = some
      (if n < (before.flatMap (A.emission whole b)).length then w
      else if n < (before.flatMap (A.emission whole b) ++ A.emission whole b id).length then
        if whole then w.markAll else w
      else w.markClean) := by
  induction before generalizing b n with
  | nil =>
    obtain ⟨-, hid⟩ := nodup_present_cons hnodup
    have hlast : id ∉ after := fun hmem => by simp [hid hmem] at hw
    rw [List.nil_append, leftAfter, List.flatMap_nil, List.nil_append,
      if_neg (show ¬ n < ([] : List (Option Sequence)).length from Nat.not_lt_zero n)]
    split
    · cases whole with
      | false => exact hw
      | true => simp [Buffers.window?_modifyWindow, hw]
    · rw [window?_leftAfter_of_not_mem hlast, Buffers.window?_modifyWindow, if_pos rfl, hw]
      rfl
  | cons first before ih =>
    obtain ⟨hrest, hfirst⟩ := nodup_present_cons hnodup
    have hne : id ≠ first := by
      rintro rfl
      simp [hfirst (by simp)] at hw
    have hunpainted : (b.modifyWindow first Window.markClean).window? id = some w := by
      rw [Buffers.window?_modifyWindow, if_neg hne, hw]
    have hlater := ih (by rwa [present_modifyWindow]) hunpainted
      (n - (A.emission whole b first).length)
    rw [flatMap_emission_modifyWindow fun hmem => hfirst (List.mem_append_left _ hmem),
      emission_modifyWindow fun hsame => absurd hsame hne] at hlater
    simp only [List.cons_append, leftAfter, List.flatMap_cons, List.length_append] at hlater ⊢
    generalize (A.emission whole b first).length = size at hlater ⊢
    by_cases hn : n < size
    · rw [if_pos hn, if_pos (show n < size + _ by omega)]
      split
      · rw [Buffers.window?_modifyWindow, if_neg hne, hw]
      · exact hw
    · have hshift (length : Nat) : n - size < length ↔ n < size + length := by omega
      rw [if_neg hn, hlater]
      simp only [hshift, Nat.add_assoc]

/-! ## A whole paint -/

/-- The windows after a paint. -/
def painted (ws : WindowSet) (b : Buffers) : Buffers :=
  (cleaned ws.visible b).modifyWindow ws.physical Window.calm

theorem window?_painted (ws : WindowSet) (b : Buffers) (id : WindowId) :
    (painted ws b).window? id = (b.window? id).map fun w =>
      let w := if id ∈ ws.visible then w.markClean else w
      if id = ws.physical then w.calm else w := by
  rw [painted, Buffers.window?_modifyWindow, window?_cleaned]
  by_cases hid : id = ws.physical
  · simp [← hid, Function.comp_def]
  · simp [hid]

/-- What does not depend on damage and flags of a window is the same after a paint. -/
theorem apply_window?_painted {γ : Type} {f : Option Window → γ}
    (hf : ∀ w damage full clear, f (some { w with damage, full, clear }) = f (some w))
    (ws : WindowSet) (b : Buffers) (id : WindowId) :
    f ((painted ws b).window? id) = f (b.window? id) := by
  rw [window?_painted]
  cases b.window? id with
  | none => rfl
  | some w =>
    rw [Option.map_some]
    dsimp only
    split <;> split
    · exact hf w {} false false
    · exact hf w {} false false
    · exact hf w {} false w.clear
    · rfl

variable (A) in
/-- The windows that are left by a paint that ends so many sequences after its opening. -/
def leftOpened (whole : Bool) (ws : WindowSet) (b : Buffers) (n : Nat) : Buffers :=
  if n < (ws.visible.flatMap (A.emission whole b)).length then leftAfter A whole ws.visible b n
  else painted ws b

variable (A) in
/-- The windows that are left by a paint that ends after so many sequences. -/
def leftPainted (ws : WindowSet) (b : Buffers) (n : Nat) : Buffers :=
  let whole := asksForClear b ws.physical
  if n < (opening whole).length then b else leftOpened A whole ws b (n - (opening whole).length)

theorem utters_paintOpened {ws : WindowSet} (whole : Bool)
    (hnodup : (present b ws.visible).Nodup) :
    Utters (A.paintOpened ws whole) b
      (ws.visible.flatMap (A.emission whole b) ++ A.closing (b.window? ws.display)) (painted ws b)
      (leftOpened A whole ws b) := by
  have hchange : Utters (Painting.change ws.physical Window.calm) (cleaned ws.visible b) []
      (painted ws b) fun _ => painted ws b := .change ..
  have hhoming : Utters (do Painting.utter (A.homing ((← get).buffers.window? ws.display)))
      (painted ws b) (A.homing (b.window? ws.display)) (painted ws b) fun _ => painted ws b := by
    refine .get_bind fun _ => ?_
    rw [← apply_window?_painted (f := A.homing) (fun _ _ _ _ => rfl) ws b]
    exact .utter ..
  have hend := (Utters.utter [some .reset, some .reset] (painted ws b)).seq hhoming
  refine ((utters_paintWindows whole hnodup).seq (hchange.seq hend)).congr fun n _ => ?_
  simp only [leftOpened, ite_self]

/-- What a paint says and does, to whichever sink. -/
theorem utters_paint {ws : WindowSet} (hnodup : (present b ws.visible).Nodup) :
    Utters (A.paint ws) b (A.utterance ws b) (painted ws b) (leftPainted A ws b) := by
  unfold Arithmetic.utterance leftPainted
  generalize hwhole : asksForClear b ws.physical = whole
  have hopened : Utters (do
      if whole then utter [some .clearAll]
      A.paintOpened ws whole) b
      ((if whole then [some .clearAll] else []) ++
        (ws.visible.flatMap (A.emission whole b) ++ A.closing (b.window? ws.display)))
      (painted ws b) fun n =>
        if n < (if whole then [some Sequence.clearAll] else []).length then b
        else leftOpened A whole ws b
          (n - (if whole then [some Sequence.clearAll] else []).length) := by
    cases whole with
    | false => exact (utters_paintOpened false hnodup).congr fun n _ =>
        (if_neg (Nat.not_lt_zero n)).symm
    | true => exact (Utters.utter [some .clearAll] b).seq (utters_paintOpened true hnodup)
  have hpaint := (Utters.utter [some .hideCursor] b).seq (Utters.get_bind (f := fun p => do
    if asksForClear p.buffers ws.physical then utter [some .clearAll]
    A.paintOpened ws (asksForClear p.buffers ws.physical)) fun _ => by rwa [hwhole])
  have hopening : (opening whole).map some =
      [some .hideCursor] ++ (if whole then [some .clearAll] else []) := by
    cases whole <;> rfl
  have hlength : (opening whole).length =
      1 + (if whole then [some Sequence.clearAll] else []).length := by
    cases whole <;> rfl
  rw [← List.append_assoc, ← List.append_assoc, ← hopening] at hpaint
  refine hpaint.congr fun n _ => ?_
  dsimp only
  rw [hlength, ← Nat.sub_sub]
  generalize (if whole then [some Sequence.clearAll] else []).length = second
  simp only [List.length_singleton]
  split
  · rw [if_pos (by omega)]
  · split
    · rw [if_pos (by omega)]
    · rw [if_neg (by omega)]

theorem leftPainted_utterance (A : Arithmetic) (ws : WindowSet) (b : Buffers) :
    leftPainted A ws b (A.utterance ws b).length = painted ws b := by
  simp only [leftPainted, leftOpened, Arithmetic.utterance, List.length_append, List.length_map]
  rw [if_neg (by omega), if_neg (by omega)]

/-- What a paint comes to, to any sink. -/
theorem exec_paint {ws : WindowSet} (hnodup : (present b ws.visible).Nodup) (sink : Sink) :
    exec (A.paint ws) ⟨sink, b⟩ =
      ((exec ((A.utterance ws b).forM Sink.utter) sink).1,
        ⟨(exec ((A.utterance ws b).forM Sink.utter) sink).2,
          leftPainted A ws b (sink.reach (A.utterance ws b))⟩) := by
  have hutters := utters_paint (A := A) hnodup
  rcases hexec : exec ((A.utterance ws b).forM Sink.utter) sink with ⟨e | _, sink'⟩
  · exact hutters.cut sink sink' e hexec
  · have hreach : sink.reach (A.utterance ws b) = (A.utterance ws b).length := by
      simpa [Sink.reach] using Sink.reach_append_of_ok hexec []
    rw [hutters.whole sink sink' hexec, hreach, leftPainted_utterance]

/-- All that a paint that succeeds says and leaves. -/
theorem said_of_ok {ws : WindowSet} {p' : Painting} {sink : Sink}
    (hnodup : (present b ws.visible).Nodup)
    (h : exec (A.paint ws) ⟨sink, b⟩ = (.ok (), p')) :
    p'.said.map some = sink.taken.toList.map some ++ A.utterance ws b ∧
      p'.buffers = painted ws b := by
  obtain ⟨hplaces, rfl⟩ := (utters_paint hnodup).of_ok h
  have hsaid : (⟨sink.grow (voiced (A.utterance ws b)), painted ws b⟩ : Painting).said =
      sink.taken.toList ++ voiced (A.utterance ws b) := by
    simp [said, Sink.grow]
  rw [hsaid, List.map_append, Sink.map_some_voiced hplaces]
  exact ⟨rfl, rfl⟩

end Painting

end TerminalSession
