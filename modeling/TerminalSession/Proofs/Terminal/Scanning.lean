import TerminalSession.Proofs.Terminal.Encoding

/-!
# How a terminal takes its input apart

A terminal is sent nothing but characters. It prints them, up to an escape that begins a sequence; a
sequence lasts up to its last character. `Effects` says what printing a character and obeying a
sequence make of that part of a terminal which one asks about.

Whatever that part is, text without escapes is printed (`Effects.scan_text`) and a spelled sequence
is read to its end and obeyed (`Effects.scan_escape`).
-/

namespace TerminalSession

open Sequence

/-- How far a terminal has got in its input. -/
inductive Stage
  | printing
  | escaped
  /-- In a sequence, after some parameters. -/
  | within (parameters : List Char)
  deriving DecidableEq, Repr

/-- What a character that is printed makes of a state, and a sequence that is obeyed. -/
structure Effects (σ : Type) where
  print : σ → Char → σ
  obey : σ → List Char → Char → σ

namespace Effects

variable {σ : Type} (e : Effects σ) (s : σ)

/-- Reads one character. An escape always begins something new. -/
def next : σ × Stage → Char → σ × Stage
  | (s, stage), c =>
    if c = '\x1b' then (s, .escaped)
    else
      match stage with
      | .printing => (e.print s c, .printing)
      | .escaped => (s, if c = '[' then .within [] else .printing)
      | .within parameters =>
        if isFinal c then (e.obey s parameters c, .printing)
        else (s, .within (parameters ++ [c]))

def scan (here : σ × Stage) (text : List Char) : σ × Stage := text.foldl e.next here

@[simp] theorem scan_append (here : σ × Stage) (text text' : List Char) :
    e.scan here (text ++ text') = e.scan (e.scan here text) text' := List.foldl_append

theorem scan_text {text : List Char} (h : '\x1b' ∉ text) :
    e.scan (s, .printing) text = (text.foldl e.print s, .printing) := by
  induction text generalizing s with
  | nil => rfl
  | cons c text ih =>
    obtain ⟨hc, hrest⟩ := not_or.mp (mt List.mem_cons.mpr h)
    have hfirst : e.next (s, .printing) c = (e.print s c, .printing) := by
      simp [next, Ne.symm hc]
    rw [scan, List.foldl_cons, hfirst]
    exact ih _ hrest

variable {parameters : List Char} {final : Char}

/-- Parameters are collected. -/
theorem scan_parameters (h : parameters.all isParameter = true) (read : List Char) :
    e.scan (s, .within read) parameters = (s, .within (read ++ parameters)) := by
  induction parameters generalizing read with
  | nil => rw [List.append_nil]; rfl
  | cons c parameters ih =>
    rw [List.all_cons, Bool.and_eq_true] at h
    obtain ⟨hc, hrest⟩ := h
    have hescape : c ≠ '\x1b' := by
      rintro rfl
      cases hc
    have hfinal : isFinal c = false := by
      simp only [isParameter, isFinal, Bool.and_eq_true, Bool.and_eq_false_iff, decide_eq_true_eq,
        decide_eq_false_iff_not] at hc ⊢
      omega
    have hfirst : e.next (s, .within read) c = (s, .within (read ++ [c])) := by
      simp [next, hescape, hfinal]
    rw [scan, List.foldl_cons, hfirst]
    exact (ih hrest _).trans (by rw [List.append_assoc, List.singleton_append])

/-- A spelled sequence is read to its end and obeyed. -/
theorem scan_escape (hparameters : parameters.all isParameter = true)
    (hfinal : isFinal final = true) :
    e.scan (s, .printing) (escape (parameters ++ [final])) =
      (e.obey s parameters final, .printing) := by
  have hbegun : e.scan (s, .printing) ['\x1b', '['] = (s, .within []) := rfl
  have hescape : final ≠ '\x1b' := by
    rintro rfl
    cases hfinal
  have hlast : e.next (s, .within parameters) final = (e.obey s parameters final, .printing) := by
    simp [next, hescape, hfinal]
  change e.scan (s, .printing) (['\x1b', '['] ++ (parameters ++ [final])) = _
  rw [scan_append, hbegun, scan_append, scan_parameters _ _ hparameters]
  exact hlast

end Effects

end TerminalSession
