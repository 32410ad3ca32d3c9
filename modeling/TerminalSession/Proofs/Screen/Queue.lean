import Mathlib.Data.List.Induction
import TerminalSession.Proofs.Screen.Fitting
import TerminalSession.Proofs.Screen.Serving

/-!
# Reserved lines are served once

The lines that are registered wait in a queue for a session. Each has for its number the place of
its registration in the log of calls, and a life is watched with these numbers (`served`).

In any life the lines that have been served and those that wait are the ones that were accepted, in
order (`served_append_waiting`): none is lost, and none is served twice. They are served by the next
create that succeeds, each with the window that was made for it.
-/

namespace TerminalSession

open TerminalSession.Action

/-! ## Watching a life -/

section

variable {T E : Type}

/-- A call whose initializer, if it has one, is watched under a number. -/
def Call.watched (number : Nat) : Call E → Call (Watched E)
  | .create args => .create args
  | .suspend => .suspend
  | .resume => .resume
  | .resize rows cols => .resize rows cols
  | .destroy => .destroy
  | .reserveLine side init => .reserveLine side (Registration.watched ⟨side, init⟩ number).init
  | .initLabels code => .initLabels code
  | .setLabel index text justify => .setLabel index text justify
  | .reportResize => .reportResize

def Move.watched (number : Nat) : Move T E → Move T (Watched E)
  | .call c => .call (c.watched number)
  | .terminal f => .terminal f
  | .engine f => .engine fun v => { v with engine := f v.engine }
  | .modes m => .modes m

namespace Life

variable [Terminal T] [WindowEngine E]

/-- A life that is watched. The number of a line is the place of its registration in the log. -/
def watchedMoves (s : Screen T E) (ms : List (Move T E)) : Life T (Watched E) :=
  ms.foldl (fun r m => r.move (m.watched r.log.length)) ⟨s.watched [] [], []⟩

/-- The calls of initializers in a life. -/
def served (s : Screen T E) (ms : List (Move T E)) : List (Serving E) :=
  (watchedMoves s ms).screen.engine.served

end Life

end

/-! ## The queue -/

namespace Life

section

variable {E : Type}

/-- Whether a call has registered a line. -/
def registers : LoggedCall E → Bool
  | (.reserveLine _ _, .ok ()) => true
  | _ => false

/-- The numbers of all lines that have been registered. -/
def accepted (log : List (LoggedCall E)) : List Nat :=
  (log.zipIdx.filter fun p => registers p.1).map Prod.snd

/-- A queue of the lines that wait after a call. -/
def queueing {α : Type} (entered : Registration E → α) (queue : List α) : LoggedCall E → List α
  | (.reserveLine side init, .ok ()) => queue ++ [entered ⟨side, init⟩]
  | (.create _, .ok ()) => []
  | _ => queue

/-- The numbers of the lines that wait. -/
def waiting (log : List (LoggedCall E)) : List Nat :=
  log.zipIdx.foldl (fun queue p => queueing (fun _ => p.2) queue p.1) []

theorem map_queueing {α β : Type} (f : α → β) (entered : Registration E → α) (queue : List α)
    (entry : LoggedCall E) :
    (queueing entered queue entry).map f = queueing (f ∘ entered) (queue.map f) entry := by
  unfold queueing
  split
  · rw [List.map_append]
    rfl
  · rfl
  · rfl

theorem waiting_concat (log : List (LoggedCall E)) (entry : LoggedCall E) :
    waiting (log ++ [entry]) = queueing (fun _ => log.length) (waiting log) entry := by
  simp [waiting, List.zipIdx_append]

theorem accepted_concat (log : List (LoggedCall E)) (entry : LoggedCall E) :
    accepted (log ++ [entry]) =
      accepted log ++ if registers entry then [log.length] else [] := by
  simp only [accepted, List.zipIdx_append, List.filter_append, List.map_append, Nat.zero_add]
  cases hentry : registers entry <;> simp [hentry]

/-- No number is given twice. -/
theorem nodup_accepted (log : List (LoggedCall E)) : (accepted log).Nodup := by
  have hall : (log.zipIdx.map Prod.snd).Nodup := by
    rw [List.zipIdx_map_snd]
    exact List.nodup_range'
  exact hall.sublist (List.filter_sublist.map _)

end

/-! ## The calls of one create -/

section

variable {E : Type} {cols : Nat} {numbers : List Nat} {lines : List (Registration E)}
  {windows : List ReservedWindow} {engine : E}

theorem map_number_servings (hnumbers : numbers.length = lines.length)
    (hwindows : windows.length = lines.length) :
    (servings cols numbers lines windows engine).map Serving.number = numbers := by
  induction lines generalizing numbers windows engine with
  | nil => exact (List.eq_nil_of_length_eq_zero hnumbers).symm
  | cons line lines ih =>
    obtain ⟨number, numbers, rfl⟩ := List.exists_cons_of_length_eq_add_one hnumbers
    obtain ⟨w, windows, rfl⟩ := List.exists_cons_of_length_eq_add_one hwindows
    exact congrArg (number :: ·) (ih (Nat.succ.inj hnumbers) (Nat.succ.inj hwindows))

theorem map_window_servings (cols : Nat) (numbers : List Nat) (engine : E)
    (hwindows : windows.length = lines.length) :
    (servings cols numbers lines windows engine).map Serving.window =
      windows.map ReservedWindow.window := by
  induction lines generalizing numbers windows engine with
  | nil =>
    rw [List.eq_nil_of_length_eq_zero hwindows]
    rfl
  | cons line lines ih =>
    obtain ⟨w, windows, rfl⟩ := List.exists_cons_of_length_eq_add_one hwindows
    exact congrArg (w.window :: ·) (ih _ _ (Nat.succ.inj hwindows))

theorem cols_of_mem_servings {call : Serving E}
    (h : call ∈ servings cols numbers lines windows engine) : call.cols = cols := by
  induction lines generalizing numbers windows engine with
  | nil => cases h
  | cons line lines ih =>
    cases windows with
    | nil => cases h
    | cons w windows =>
      rcases List.mem_cons.mp h with rfl | h
      · rfl
      · exact ih h

/-- What the initializers called before have left alone is found as it was made. -/
theorem found_servings {γ : Type} (look : E → γ) {i : Nat} {call : Serving E}
    (h : (servings cols numbers lines windows engine)[i]? = some call)
    (hbefore : ∀ j < i, ∀ before after,
      (servings cols numbers lines windows engine)[j]? = some before →
      (servings cols numbers lines windows engine)[j + 1]? = some after →
      look after.found = look before.found) :
    look call.found = look engine := by
  induction i generalizing call with
  | zero =>
    cases lines with
    | nil => cases h
    | cons line lines =>
      cases windows with
      | nil => cases h
      | cons w windows =>
        cases h
        rfl
  | succ i ih =>
    have hlt := (List.getElem?_eq_some_iff.mp h).1
    have hprevious := List.getElem?_eq_getElem (Nat.lt_of_succ_lt hlt)
    rw [hbefore i (Nat.lt_succ_self i) _ _ hprevious h]
    exact ih hprevious fun j hj => hbefore j (Nat.lt_succ_of_lt hj)

end

/-- The initializers of the waiting lines have been called for a session, each with the window that
was made for its line. Unless an initializer called before has changed that, each has found its
window on the row of its line. -/
structure ServedFor (numbers : List Nat) (sides : List Side) (strip : StripPlacement)
    (session : Session) (calls : List (Serving Buffers)) : Prop where
  inOrder : calls.map Serving.number = numbers
  windows : calls.map Serving.window = session.windows.reserved.map ReservedWindow.window
  attached : session.windows.reserved.map ReservedWindow.side = sides
  distinct : session.windows.all.Nodup
  width : ∀ call ∈ calls, call.cols = session.layout.terminalCols
  layout : Layout.allocate session.layout.terminalRows session.layout.terminalCols sides strip =
    .ok session.layout
  placed : ∀ i call, calls[i]? = some call →
    (∀ j < i, ∀ before after, calls[j]? = some before → calls[j + 1]? = some after →
      after.found.geometry? call.window = before.found.geometry? call.window) →
    ∃ line, session.layout.reserved[i]? = some line ∧
      call.found.geometry? call.window = some ⟨line.row, 0, 1, session.layout.terminalCols⟩

/-- How the lines of a new session are served. -/
theorem servedFor_servings {i : Interior Buffers} {session : Session} {numbers : List Nat}
    {lines : List (Registration Buffers)} (hlines : i.pending = lines)
    (hnumbers : numbers.length = lines.length)
    (hl : ∃ rows cols, i.allocate rows cols = .ok session.layout)
    (hwindows : session.windows = session.layout.numbered i.engine.slots.size) :
    ServedFor numbers (lines.map Registration.side) (i.config.stripPlacement i.labels.lineCount)
      session (servings session.layout.terminalCols numbers lines session.windows.reserved
        (i.built session.layout).engine) := by
  obtain ⟨rows, cols, hl⟩ := hl
  rw [Interior.allocate, hlines] at hl
  have hlaidOut := WindowSet.laidOut_addAll (b := i.engine)
    (map_area_newWindows i.config i.labels session.layout)
  rw [← hwindows] at hlaidOut
  have hlength := hlaidOut.reserved.length_eq
  have hsides := Layout.sides_of_allocate hl
  have hreserved : session.layout.reserved.length = lines.length := by
    simpa [Layout.sides] using congrArg List.length hsides
  have hcount := hlength.trans hreserved
  have hwindow := map_window_servings session.layout.terminalCols numbers
    (i.built session.layout).engine hcount
  refine ⟨map_number_servings hnumbers hcount, hwindow, ?_, ?_,
    fun call => cols_of_mem_servings, allocate_of_allocate hl, fun k call hcall hbefore => ?_⟩
  · rw [← hsides]
    exact List.forall₂_eq_eq_eq ▸ List.forall₂_map_left_iff.mpr
      (List.forall₂_map_right_iff.mpr (hlaidOut.reserved.imp fun _ _ hline => hline.1))
  · rw [hwindows]
    exact session.layout.nodup_all_numbered _
  · have hw := congrArg (·[k]?) hwindow
    simp only [List.getElem?_map, hcall, Option.map_some] at hw
    obtain ⟨w, hw, hid⟩ := Option.map_eq_some_iff.mp hw.symm
    obtain ⟨hlt, rfl⟩ := List.getElem?_eq_some_iff.mp hw
    have hline : k < session.layout.reserved.length := hlength ▸ hlt
    refine ⟨_, List.getElem?_eq_getElem hline, ?_⟩
    rw [found_servings (fun b => b.geometry? call.window) hcall hbefore, ← hid]
    exact (hlaidOut.reserved.get hlt hline).2

/-! ## Calls on a screen that is watched -/

section

variable {T : Type} [Terminal T] {s s' : Screen T Buffers} {result : Except ScreenError Unit}

/-- The calls of initializers in a call to a screen that leaves another one. -/
def servedBy (s s' : Screen T Buffers) (numbers : List Nat) :
    LoggedCall Buffers → List (Serving Buffers)
  | (.create _, .ok ()) =>
    match s'.session with
    | some session => servings session.layout.terminalCols numbers s.pending
        session.windows.reserved (s.interior.cleared.built session.layout).engine
    | none => []
  | _ => []

omit [Terminal T] in
theorem exec_reserveLine_watched {side : Side} {init : Buffers → WindowId → Nat → Buffers}
    (h : exec (Screen.reserveLine side init) s = (result, s')) (served : List (Serving Buffers))
    {numbers : List Nat} (hnumbers : numbers.length = s.pending.length) (number : Nat) :
    exec (Screen.reserveLine side (Registration.watched ⟨side, init⟩ number).init)
      (s.watched served numbers) =
        (result, s'.watched served
          (queueing (fun _ => number) numbers (.reserveLine side init, result))) := by
  rw [Screen.reserveLine, exec_bind_ok (exec_get _)] at h ⊢
  simp only [Screen.pending_watched, length_watchAll]
  by_cases hfull : maxReservedLines ≤ s.pending.length
  · rw [if_pos hfull] at h ⊢
    cases h
    rfl
  · rw [if_neg hfull] at h ⊢
    cases h
    have hlines := watchAll_concat hnumbers number ⟨side, init⟩
    simp only [queueing, Screen.watched, hlines]
    rfl

/-- A call on a watched screen adds to the record the calls of initializers that it makes. -/
theorem exec_call_watched {c : Call Buffers} (h : exec c.action s = (result, s'))
    (served : List (Serving Buffers)) {numbers : List Nat}
    (hnumbers : numbers.length = s.pending.length) (number : Nat) :
    exec (c.watched number).action (s.watched served numbers) = (result,
      s'.watched (served ++ servedBy s s' numbers (c, result))
        (queueing (fun _ => number) numbers (c, result))) := by
  have hfollows {y : Action (Screen T (Watched Buffers)) ScreenError Unit}
      {x : Action (Screen T Buffers) ScreenError Unit}
      (hy : Follows (Screen.watched served numbers) y x) (hx : exec x s = (result, s')) :
      exec y (s.watched served numbers) = (result, s'.watched (served ++ []) numbers) := by
    rw [List.append_nil]
    exact hy.of_exec hx
  cases c with
  | create args =>
    rw [Call.action, exec_bind_unit] at h
    rcases hcreate : exec (Screen.create args) s with ⟨r, v⟩
    have hwatched := Screen.exec_create_watched hcreate served numbers
    rw [hcreate] at h
    cases h
    rw [Call.watched, Call.action, exec_bind_unit, hwatched]
    cases r with
    | error cause =>
      change _ = (_, v.watched (served ++ []) numbers)
      rw [List.append_nil]
    | ok session =>
      simp only [servedBy, Except.map, Screen.session_of_create hcreate]
      rfl
  | resize rows cols =>
    exact hfollows (.bind (Screen.resize_follows rows cols) fun _ => .pure ()) h
  | suspend => exact hfollows Screen.suspend_follows h
  | resume => exact hfollows Screen.resume_follows h
  | destroy => exact hfollows Screen.destroy_follows h
  | reserveLine side init =>
    have hnone : servedBy s s' numbers (.reserveLine side init, result) = [] := rfl
    rw [hnone, List.append_nil]
    exact exec_reserveLine_watched h served hnumbers number
  | initLabels code => exact hfollows (Screen.initLabels_follows code) h
  | setLabel index text justify => exact hfollows (Screen.setLabel_follows index text justify) h
  | reportResize => exact hfollows (.modify fun _ => rfl) h

/-- The lines that wait after a call. -/
theorem pending_of_exec {c : Call Buffers} (h : exec c.action s = (result, s')) :
    s'.pending = queueing id s.pending (c, result) := by
  have hturned := c.turned h
  generalize hi : s'.interior = i at hturned
  have hpending : s'.pending = i.pending := congrArg Interior.pending hi
  rw [hpending]
  cases hturned with
  | destroyed => exact Interior.pending_ended _
  | notOpened => exact Interior.pending_cleared _
  | notBuilt => exact Interior.pending_cleared _
  | _ => rfl

omit [Terminal T] in
/-- No line is registered where there are as many as may wait. -/
theorem exec_reserveLine (side : Side) (init : Buffers → WindowId → Nat → Buffers)
    (s : Screen T Buffers) :
    exec (Screen.reserveLine side init) s =
      if maxReservedLines ≤ s.pending.length then (.error .tooManyReservedLines, s)
      else (.ok (), { s with pending := s.pending ++ [⟨side, init⟩] }) := by
  rw [Screen.reserveLine, exec_bind_ok (exec_get _), exec_ite]
  rfl

/-- A create that succeeds serves the lines that wait. -/
theorem of_create_ok {args : List String} {numbers : List Nat}
    (hnumbers : numbers.length = s.pending.length)
    (h : exec (Call.create args).action s = (.ok (), s')) :
    ∃ session, s'.session = some session ∧
      ServedFor numbers (s.pending.map Registration.side)
        (s'.config.stripPlacement s'.labels.lineCount) session
        (servedBy s s' numbers (.create args, .ok ())) := by
  have hturned := (Call.create args).turned h
  generalize hi : s'.interior = i at hturned
  cases hturned with
  | @created _ session hphase hprospect hwindows halive hconsistent hresized =>
    have hsession : s'.session = some session := congrArg Interior.session hi
    have hconfig : s'.config = _ := congrArg Interior.config hi
    have hlabels : s'.labels = _ := congrArg Interior.labels hi
    have hcount : s'.labels.lineCount = s.interior.cleared.labels.lineCount := by
      rw [hlabels]
      exact SoftLabels.lineCount_congr (SoftLabels.format_placed ..)
    refine ⟨session, hsession, ?_⟩
    rw [servedBy, hsession, hconfig, hcount]
    exact servedFor_servings (Interior.pending_cleared _) hnumbers
      (Screen.of_prospect_ok hprospect).1 hwindows

/-- The lines that a call serves are the first to have waited, and then comes the line that it
registers. -/
theorem numbers_call {c : Call Buffers} (h : exec c.action s = (result, s')) {numbers : List Nat}
    (hnumbers : numbers.length = s.pending.length) (number : Nat) :
    (servedBy s s' numbers (c, result)).map Serving.number ++
        queueing (fun _ => number) numbers (c, result) =
      numbers ++ if registers (c, result) then [number] else [] := by
  cases result with
  | error cause =>
    have hnone : servedBy s s' numbers (c, .error cause) = [] := by
      cases c <;> rfl
    have hsame : queueing (fun _ => number) numbers (c, .error cause) = numbers := by
      cases c <;> rfl
    have hnot : registers (c, .error cause) = false := by
      cases c <;> rfl
    simp [hnone, hsame, hnot]
  | ok _ =>
    cases c with
    | create args =>
      obtain ⟨session, -, hserved⟩ := of_create_ok hnumbers h
      rw [hserved.inOrder]
      rfl
    | reserveLine side init => rfl
    | _ => exact (List.append_nil numbers).symm

end

/-! ## Lives that are watched -/

section

variable {T : Type} [Terminal T] {r : Life T Buffers} {m : Move T Buffers}

/-- The lines that wait are those with the numbers in the queue, and no more than may wait. -/
structure Queued (r : Life T Buffers) : Prop where
  lines : (waiting r.log).map (r.log[·]?) =
    r.screen.pending.map fun line => some (.reserveLine line.side line.init, .ok ())
  bounded : r.screen.pending.length ≤ maxReservedLines

omit [Terminal T] in
theorem Queued.length_eq (h : Queued r) : (waiting r.log).length = r.screen.pending.length := by
  simpa using congrArg List.length h.lines

omit [Terminal T] in
theorem Queued.lt_length (h : Queued r) {number : Nat} (hnumber : number ∈ waiting r.log) :
    number < r.log.length := by
  have hline : r.log[number]? ∈ (waiting r.log).map (r.log[·]?) := List.mem_map_of_mem hnumber
  rw [h.lines] at hline
  obtain ⟨line, -, hline⟩ := List.mem_map.mp hline
  exact (List.getElem?_eq_some_iff.mp hline.symm).1

theorem Queued.move (h : Queued r) (m : Move T Buffers) : Queued (r.move m) := by
  cases m with
  | call c =>
    rcases hc : exec c.action r.screen with ⟨result, s'⟩
    have hpending := pending_of_exec hc
    rw [move_call hc]
    refine ⟨?_, ?_⟩
    · have hold : (waiting r.log).map ((r.log ++ [(c, result)])[·]?) =
          (waiting r.log).map (r.log[·]?) :=
        List.map_congr_left fun number hnumber =>
          List.getElem?_append_left (h.lt_length hnumber)
      rw [waiting_concat, map_queueing, hold, h.lines, hpending, map_queueing]
      cases result with
      | error => cases c <;> simp [queueing]
      | ok => cases c <;> simp [queueing]
    · change s'.pending.length ≤ maxReservedLines
      cases c with
      | reserveLine side init =>
        rw [Call.action, exec_reserveLine] at hc
        split at hc
        · cases hc
          exact h.bounded
        · rename_i hfull
          cases hc
          simpa [Nat.succ_le_iff] using Nat.lt_of_not_le hfull
      | create args =>
        rw [hpending]
        cases result with
        | error => exact h.bounded
        | ok => exact Nat.zero_le _
      | _ =>
        rw [hpending]
        exact h.bounded
  | terminal f => exact ⟨h.lines, h.bounded⟩
  | engine f => exact ⟨h.lines, h.bounded⟩
  | modes modes => exact ⟨h.lines, h.bounded⟩

theorem queued_moves (h : Queued r) (ms : List (Move T Buffers)) : Queued (r.moves ms) := by
  induction ms generalizing r with
  | nil => exact h
  | cons m ms ih => exact ih (h.move m)

omit [Terminal T] in
theorem queued_new {terminal : T} {engine : Buffers} {config : Config} {s : Screen T Buffers}
    (h : Screen.new terminal engine config = .ok s) : Queued ⟨s, []⟩ := by
  have hpending : s.pending = [] := congrArg Interior.pending (Screen.interior_new h)
  refine ⟨?_, ?_⟩
  · rw [hpending]
    rfl
  · rw [hpending]
    exact Nat.zero_le _

/-- The calls of initializers in a move. -/
def servedIn (r : Life T Buffers) : Move T Buffers → List (Serving Buffers)
  | .call c =>
    let (result, s') := exec c.action r.screen
    servedBy r.screen s' (waiting r.log) (c, result)
  | _ => []

/-- A watched life goes as the life itself does. -/
structure Watches (w : Life T (Watched Buffers)) (r : Life T Buffers)
    (served : List (Serving Buffers)) : Prop where
  screen : w.screen = r.screen.watched served (waiting r.log)
  results : w.log.map Prod.snd = r.log.map Prod.snd

theorem Watches.move {w : Life T (Watched Buffers)} {served : List (Serving Buffers)}
    (h : Watches w r served) (hr : Queued r) (m : Move T Buffers) :
    Watches (w.move (m.watched w.log.length)) (r.move m) (served ++ servedIn r m) := by
  have hlength : w.log.length = r.log.length := by
    simpa using congrArg List.length h.results
  cases m with
  | call c =>
    rcases hc : exec c.action r.screen with ⟨result, s'⟩
    have hwatched := exec_call_watched hc served hr.length_eq r.log.length
    rw [← h.screen, ← hlength] at hwatched
    have hmove' : w.move ((Move.call c).watched w.log.length) = ⟨s'.watched
        (served ++ servedBy r.screen s' (waiting r.log) (c, result))
        (queueing (fun _ => w.log.length) (waiting r.log) (c, result)),
        w.log ++ [(c.watched w.log.length, result)]⟩ := by
      rw [Move.watched, Life.move, hwatched]
    rw [move_call hc, hmove', servedIn, hc]
    refine ⟨?_, ?_⟩
    · rw [waiting_concat, hlength]
    · rw [List.map_append, List.map_append, h.results]
      rfl
  | _ =>
    rw [show servedIn r _ = [] from rfl, List.append_nil]
    refine ⟨?_, h.results⟩
    simp only [Move.watched, Life.move, h.screen]
    rfl

omit [Terminal T] in
theorem Watches.served_eq {w : Life T (Watched Buffers)} {served : List (Serving Buffers)}
    (h : Watches w r served) : w.screen.engine.served = served := by
  rw [h.screen]
  rfl

/-- The lines that have been served and those that wait are the ones that were accepted. -/
theorem numbers_move (hr : Queued r) {served : List (Serving Buffers)}
    (h : served.map Serving.number ++ waiting r.log = accepted r.log) (m : Move T Buffers) :
    (served ++ servedIn r m).map Serving.number ++ waiting (r.move m).log =
      accepted (r.move m).log := by
  cases m with
  | call c =>
    rcases hc : exec c.action r.screen with ⟨result, s'⟩
    have hnumbers := numbers_call hc hr.length_eq r.log.length
    rw [move_call hc, servedIn, hc, waiting_concat, accepted_concat, ← h, List.map_append,
      List.append_assoc, hnumbers, List.append_assoc]
  | _ =>
    rw [show servedIn r _ = [] from rfl, List.append_nil]
    exact h

section

variable {s : Screen T Buffers}

theorem watchedMoves_concat (s : Screen T Buffers) (ms : List (Move T Buffers))
    (m : Move T Buffers) : watchedMoves s (ms ++ [m]) =
      (watchedMoves s ms).move (m.watched (watchedMoves s ms).log.length) := by
  simp [watchedMoves]

theorem Watches.concat {ms : List (Move T Buffers)} {calls : List (Serving Buffers)}
    (h : Watches (watchedMoves s ms) (moves ⟨s, []⟩ ms) calls) (hs : Queued ⟨s, []⟩)
    (m : Move T Buffers) : Watches (watchedMoves s (ms ++ [m])) (moves ⟨s, []⟩ (ms ++ [m]))
      (calls ++ servedIn (moves ⟨s, []⟩ ms) m) := by
  rw [watchedMoves_concat, moves_concat]
  exact h.move (queued_moves hs ms) m

/-- A watched life is the life itself with a record, to which each move adds its calls. -/
theorem watches_moves (hs : Queued ⟨s, []⟩) (ms : List (Move T Buffers)) :
    Watches (watchedMoves s ms) (moves ⟨s, []⟩ ms) (served s ms) := by
  induction ms using List.reverseRecOn with
  | nil => exact ⟨rfl, rfl⟩
  | append_singleton ms m ih =>
    have hconcat := ih.concat hs m
    rw [served, hconcat.served_eq]
    exact hconcat

theorem served_concat (hs : Queued ⟨s, []⟩) (ms : List (Move T Buffers)) (m : Move T Buffers) :
    served s (ms ++ [m]) = served s ms ++ servedIn (moves ⟨s, []⟩ ms) m :=
  ((watches_moves hs ms).concat hs m).served_eq

theorem served_append_waiting (hs : Queued ⟨s, []⟩) (ms : List (Move T Buffers)) :
    (served s ms).map Serving.number ++ waiting (moves ⟨s, []⟩ ms).log =
      accepted (moves ⟨s, []⟩ ms).log := by
  induction ms using List.reverseRecOn with
  | nil => rfl
  | append_singleton ms m ih =>
    rw [served_concat hs, moves_concat]
    exact numbers_move (queued_moves hs ms) ih m

end

/-- Only a create that succeeds serves lines or takes them from the queue. -/
theorem servedIn_eq_nil (h : ∀ args s', m = .call (.create args) →
    exec (Call.create args).action r.screen ≠ (.ok (), s')) :
    servedIn r m = [] ∧ r.screen.pending <+: (r.move m).screen.pending := by
  cases m with
  | call c =>
    rcases hc : exec c.action r.screen with ⟨result, s'⟩
    rw [servedIn, hc, move_call hc]
    dsimp only
    rw [pending_of_exec hc]
    cases c with
    | create args =>
      cases result with
      | error cause => exact ⟨rfl, List.prefix_rfl⟩
      | ok _ => exact absurd hc (h args s' rfl)
    | reserveLine side init =>
      cases result with
      | error cause => exact ⟨rfl, List.prefix_rfl⟩
      | ok _ => exact ⟨rfl, List.prefix_append ..⟩
    | _ => exact ⟨rfl, List.prefix_rfl⟩
  | _ => exact ⟨rfl, List.prefix_rfl⟩

/-- **Lines are served once.** In any life no more lines wait than may. Those that were accepted, in
order and none twice, are those whose initializers have been called and then those that wait. Only a
create that succeeds calls initializers: those of all lines that wait, each with the window made for
its line. A line that is refused changes nothing, and a create that fails keeps the queue. -/
theorem lines_served_once {terminal : T} {engine : Buffers} {config : Config} {s : Screen T Buffers}
    (h : Screen.new terminal engine config = .ok s) (ms : List (Move T Buffers)) :
    let r := moves ⟨s, []⟩ ms
    Watches (watchedMoves s ms) r (served s ms) ∧
    r.screen.pending.length ≤ maxReservedLines ∧
    (served s ms).map Serving.number ++ waiting r.log = accepted r.log ∧
    (accepted r.log).Nodup ∧
    (waiting r.log).map (r.log[·]?) =
      (r.screen.pending.map fun line => some (.reserveLine line.side line.init, .ok ())) ∧
    (∀ side init, maxReservedLines ≤ r.screen.pending.length →
      exec (Screen.reserveLine side init) r.screen = (.error .tooManyReservedLines, r.screen)) ∧
    (∀ m, (∀ args s', m = .call (.create args) →
        exec (Call.create args).action r.screen ≠ (.ok (), s')) →
      served s (ms ++ [m]) = served s ms ∧ r.screen.pending <+: (r.move m).screen.pending) ∧
    (∀ args cause s', exec (Call.create args).action r.screen = (.error cause, s') →
      s'.pending = r.screen.pending) ∧
    ∀ args s', exec (Call.create args).action r.screen = (.ok (), s') →
      s'.pending = [] ∧ ∃ session calls, s'.session = some session ∧
        served s (ms ++ [.call (.create args)]) = served s ms ++ calls ∧
        ServedFor (waiting r.log) (r.screen.pending.map Registration.side)
          (s'.config.stripPlacement s'.labels.lineCount) session calls := by
  have hs := queued_new h
  have hr := queued_moves hs ms
  refine ⟨watches_moves hs ms, hr.bounded, served_append_waiting hs ms, nodup_accepted _, hr.lines,
    fun side init hfull => ?_, fun m hm => ?_, fun args cause s' hc => ?_, fun args s' hc => ?_⟩
  · rw [exec_reserveLine, if_pos hfull]
  · obtain ⟨hnone, hpending⟩ := servedIn_eq_nil hm
    exact ⟨by rw [served_concat hs, hnone, List.append_nil], hpending⟩
  · exact pending_of_exec hc
  · obtain ⟨session, hsession, hserved⟩ := of_create_ok hr.length_eq hc
    refine ⟨pending_of_exec hc, session, _, hsession, ?_, hserved⟩
    rw [served_concat hs, servedIn, hc]

/-- A line is reserved, a create fails, and another line is reserved. -/
def reserving : List (Move Headless Buffers) :=
  [.call (.reserveLine .top fun b _ _ => b), .terminal ({ · with failures := [.acquire] }),
    .call (.create []), .terminal ({ · with failures := [] }),
    .call (.reserveLine .bottom fun b window _ => b.modifyWindow window (·.edit .erase))]

theorem reserving_served_once :
    let r := moves ⟨seven, []⟩ reserving
    Screen.new { rows := 7, cols := 8 } {} {} = .ok seven ∧
    served seven reserving = [] ∧ waiting r.log = [0, 2] ∧
    ∃ s' session calls, exec (Call.create []).action r.screen = (.ok (), s') ∧
      s'.pending = [] ∧ s'.session = some session ∧
      served seven (reserving ++ [.call (.create [])]) = calls ∧
      ServedFor [0, 2] [.top, .bottom] (s'.config.stripPlacement s'.labels.lineCount) session
        calls := by
  have hwaiting : waiting (moves ⟨seven, []⟩ reserving).log = [0, 2] := by
    decide +kernel
  have haccepted : accepted (moves ⟨seven, []⟩ reserving).log = [0, 2] := by
    decide +kernel
  have hsides : (moves ⟨seven, []⟩ reserving).screen.pending.map Registration.side =
      [.top, .bottom] := by
    decide +kernel
  have hok : (exec (Call.create []).action (moves ⟨seven, []⟩ reserving).screen).1 = .ok () := by
    decide +kernel
  obtain ⟨-, -, hnumbers, -, -, -, -, -, hcreate⟩ := lines_served_once new_seven reserving
  rcases hc : exec (Call.create []).action (moves ⟨seven, []⟩ reserving).screen with ⟨result, s'⟩
  rw [hc] at hok
  cases hok
  obtain ⟨hpending, session, calls, hsession, hcalls, hserved⟩ := hcreate [] s' hc
  rw [hwaiting, haccepted] at hnumbers
  have hnone : served seven reserving = [] := by simpa using hnumbers
  rw [hwaiting, hsides] at hserved
  rw [hnone] at hcalls
  exact ⟨new_seven, hnone, hwaiting, s', session, calls, hc, hpending, hsession, hcalls, hserved⟩

/-- What an initializer does to the window of a line that comes after it is found there: the first
line's initializer destroys window 3, which was made for the second. -/
theorem line_served_without_window :
    (served seven
      [.call (.reserveLine .top fun b _ _ => b.discard [3]),
        .call (.reserveLine .bottom fun b _ _ => b), .call (.create [])]).map (fun call =>
      (call.number, call.window, call.found.geometry? call.window)) =
      [(0, 2, some ⟨0, 0, 1, 8⟩), (1, 3, none)] := by
  decide +kernel

end

end Life

end TerminalSession
