import TerminalSession.Proofs.Paint.Spelling
import TerminalSession.Proofs.Screen.Life
import TerminalSession.Terminal.Headless

/-!
# Texts that say nothing to the terminal

An application puts texts of any kind into windows and labels. None of it gets to the terminal but
as text to print: engines, used alone or by a screen, hold nothing else (`Life.lasting_allPrintable`),
and what a paint adds are sequences of its own (`text_is_printed`).
-/

namespace TerminalSession

open TerminalSession.Action TerminalSession.Sequence

/-- The windows of a new session show nothing or labels. -/
theorem printable_newWindows (config : Config) (labels : SoftLabels) (l : Layout) :
    ∀ w ∈ newWindows config labels l, w.Printable := by
  intro w hw
  simp only [newWindows, List.mem_cons, List.mem_append, List.mem_map, List.not_mem_nil,
    or_false] at hw
  rcases hw with rfl | rfl | ⟨area, -, rfl⟩ | ⟨line, -, rfl⟩ | rfl
  · exact (Window.printable_blank _).edits _
  · exact (Window.printable_blank _).edits _
  · exact (Window.printable_blank _).edits _
  · exact Window.printable_blank _
  · exact (Window.printable_blank _).edits _

theorem Life.lasting_allPrintable : Life.Lasting Buffers.AllPrintable where
  drawn _ hb := hb.changeAll _
  performed h hb := hb.performing h
  added {_ config labels l} _ hb := hb.addAll (printable_newWindows config labels l)
  discarded ids hb := hb.discard ids
  buried count hb := hb.bury count

namespace Buffers

theorem Reaches.trans {b b' b'' : Buffers} (h : b.Reaches b') (h' : b'.Reaches b'') :
    b.Reaches b'' := by
  induction h' with
  | refl => exact h
  | call _ c ih => exact ih.call c
  | change _ id c ih => exact ih.change id c
  | draw _ labels ih => exact ih.draw labels
  | paint _ sink ws ih => exact ih.paint sink ws

/-- The engines that come of a new one: it is used by itself, or by a screen on some terminal and
the application beside it, and then by itself again. -/
inductive Reached : Buffers → Prop
  | alone {budget : Option Nat} {b : Buffers} (h : Reaches { budget } b) : Reached b
  | screen {T : Type} [Terminal T] {engine b : Buffers} {terminal : T} {config : Config}
    {s : Screen T Buffers} {ms : List (Move T Buffers)} (hengine : Reached engine)
    (hnew : Screen.new terminal engine config = .ok s)
    (hobeys : Life.Obeys (fun _ => Reaches) ⟨s, []⟩ ms)
    (h : (Life.moves ⟨s, []⟩ ms).screen.engine.Reaches b) : Reached b

theorem Reached.allPrintable {b : Buffers} (h : b.Reached) : b.AllPrintable := by
  induction h with
  | alone h => exact h.allPrintable (allPrintable_empty _)
  | @screen _ _ engine _ _ _ s _ _ hnew hobeys h ih =>
    have hengine : s.engine = engine := congrArg Interior.engine (Screen.interior_new hnew)
    have hs : s.engine.AllPrintable := hengine ▸ ih
    exact h.allPrintable
      (Life.lasting_allPrintable.moves (fun _ _ _ h => h.allPrintable) hobeys hs)

end Buffers

namespace Painting

variable {p : Painting} {b : Buffers} {ws : WindowSet} {room : Option Nat}

theorem paints_of_mem_opening {whole : Bool} {s : Sequence} (h : s ∈ opening whole) : s.Paints := by
  cases whole <;> simp only [opening, Bool.false_eq_true, if_true, if_false, List.mem_cons,
    List.not_mem_nil, or_false] at h
  · subst h
    trivial
  · rcases h with rfl | rfl <;> trivial

theorem paints_of_mem_closing {display : Option Window} {s : Sequence} (h : s ∈ closing display) :
    s.Paints := by
  cases display <;> simp only [closing, homing, List.mem_append, List.mem_cons, List.not_mem_nil,
    or_false] at h
  · rcases h with rfl | rfl <;> trivial
  · rcases h with (rfl | rfl) | rfl | rfl <;> trivial

theorem count_clearAll_le (whole : Bool) (display : Option Window) {l : List Sequence}
    (hl : ∀ s ∈ l, s.Draws) : (opening whole ++ l ++ closing display).count .clearAll ≤ 1 := by
  have hopening : (opening whole).count .clearAll ≤ 1 := by cases whole <;> decide
  have hdrawn : l.count .clearAll = 0 := List.count_eq_zero.mpr fun h => hl _ h
  have hclosing : (closing display).count .clearAll = 0 :=
    List.count_eq_zero.mpr (clearAll_not_mem_closing display)
  rw [List.count_append, List.count_append, hdrawn, hclosing]
  exact hopening

end Painting

open Painting

/-- **Text is printed and nothing else.** Whatever texts an engine has been given, in windows and in
labels, alone or by a screen: a cell of it shows nothing or one character that is no control
character and takes a place. What a paint of any windows writes, if it succeeds, consists from its
start to its end of sequences of the paint's own, of which at most one wipes the screen, and of such
characters; each control character in it is the escape that begins one of these sequences. -/
theorem text_is_printed {b : Buffers} (hb : b.Reached) :
    (∀ id w, b.window? id = some w → ∀ l ∈ w.lines, ∀ cell ∈ l, ∀ c, cell.glyph = .char c →
      isControl c = false ∧ columns c ≠ 0) ∧
    ∀ {ws : WindowSet} {room : Option Nat} {p : Painting},
      exec (paint ws) ⟨{ room }, b⟩ = (.ok (), p) →
      p.sink.text = String.ofList (encodeAll p.said) ∧ (∀ s ∈ p.said, s.Paints) ∧
        p.said.count .clearAll ≤ 1 ∧
        ∀ before c after, encodeAll p.said = before ++ c :: after → isControl c = true →
          ∃ done s rest, p.said = done ++ s :: rest ∧ before = encodeAll done ∧ c = '\x1b' ∧
            s.isText = false := by
  have hprintable := hb.allPrintable
  refine ⟨fun id w hw l hl cell hcell c hc => ?_, fun {ws room p} h => ?_⟩
  · simpa [isPrintable] using hprintable id w hw l hl cell hcell c hc
  · obtain ⟨l, hsays, hl⟩ := says_paint h hprintable
    have hsaid : p.said = opening (asksForClear b ws.physical) ++ l ++
        closing (p.buffers.window? ws.display) := hsays.said
    have hpaints : ∀ s ∈ p.said, s.Paints := by
      rw [hsaid]
      intro s hs
      rcases List.mem_append.mp hs with hs | hs
      · rcases List.mem_append.mp hs with hs | hs
        · exact paints_of_mem_opening hs
        · exact (hl s hs).paints
      · exact paints_of_mem_closing hs
    refine ⟨?_, hpaints, ?_, fun _ _ _ => begins_of_isControl hpaints⟩
    · rw [Sink.text, show p.sink.cut = [] from hsays.cut]
      exact congrArg String.ofList (List.append_nil _)
    · rw [hsaid]
      exact count_clearAll_le _ _ hl

/-! ## A hostile text -/

/-- A screen on a terminal of four rows that takes its engine over. -/
def tainted : Screen Headless Buffers where
  terminal := { rows := 4, cols := 60 }
  engine := {}

/-- A text that asks the terminal to wipe itself, to beep and to begin a new line. -/
def hostile : String := String.ofList ['\x1b', '[', '2', 'J', 'x', '\x07', '\r', '\n', 'y']

/-- It becomes a label and is written to the display, window 3, by the engine's call and then past
it. -/
def tainting : List (Move Headless Buffers) :=
  [.call (.initLabels 1), .call (.setLabel 1 hostile .left), .call (.create []),
    .engine fun b => (exec (Buffers.action (.edit 3 (.putText 0 0 hostile))) b).2,
    .engine fun b => b.modifyWindow 3 (·.change (.edit (.putText 1 0 hostile)))]

theorem reached_tainted : ((Life.moves ⟨tainted, []⟩ tainting).screen.engine).Reached := by
  have hnew : Screen.new { rows := 4, cols := 60 } {} {} = .ok tainted := rfl
  have hclosed : Life.Closed fun _ => Buffers.Reaches := ⟨fun _ _ => .refl, Buffers.Reaches.trans⟩
  refine .screen (.alone .refl) hnew
    (Life.obeys_of_confines hclosed (List.forall_mem_nil _) fun m hm => ?_) .refl
  simp only [tainting, List.mem_cons, List.not_mem_nil, or_false] at hm
  rcases hm with rfl | rfl | rfl | rfl | rfl
  · trivial
  · trivial
  · trivial
  · exact fun _ _ => .call .refl _
  · exact fun _ _ => .change .refl 3 _

/-- The windows of that session. -/
def taintedWindows : WindowSet where
  physical := 0
  snapshot := 1
  strip := some 2
  display := 3

theorem text_is_printed_tainted :
    (Life.moves ⟨tainted, []⟩ tainting).screen.session.map Session.windows = some taintedWindows ∧
    ∃ p : Painting, exec (paint taintedWindows)
        ⟨{ room := some 5000 }, (Life.moves ⟨tainted, []⟩ tainting).screen.engine⟩ = (.ok (), p) ∧
      p.said.count .clearAll ≤ 1 ∧ p.sink.text = String.ofList (encodeAll p.said) ∧
      ∀ c ∈ encodeAll p.said, isControl c = true → c = '\x1b' := by
  have hok : (exec (paint taintedWindows) ⟨{ room := some 5000 },
      (Life.moves ⟨tainted, []⟩ tainting).screen.engine⟩).1 = .ok () := by
    decide +kernel
  have hwindows : (Life.moves ⟨tainted, []⟩ tainting).screen.session.map Session.windows =
      some taintedWindows := by
    decide +kernel
  rcases hpaint : exec (paint taintedWindows) ⟨{ room := some 5000 },
    (Life.moves ⟨tainted, []⟩ tainting).screen.engine⟩ with ⟨result, p⟩
  rw [hpaint] at hok
  obtain rfl : result = .ok () := hok
  obtain ⟨htext, -, hclear, hbegins⟩ := (text_is_printed reached_tainted).2 hpaint
  refine ⟨hwindows, p, rfl, hclear, htext, fun c hc hcontrol => ?_⟩
  obtain ⟨before, after, hsplit⟩ := List.append_of_mem hc
  obtain ⟨_, _, _, -, -, hescape, -⟩ := hbegins before c after hsplit hcontrol
  exact hescape

end TerminalSession
