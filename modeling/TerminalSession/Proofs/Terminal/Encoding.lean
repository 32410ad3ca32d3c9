import TerminalSession.Terminal.Sequence

/-!
# How sequences are spelled

All but text is spelled as escape and bracket, parameters, and a character that says what is meant
(`exists_escape`). Parameters and last characters come from ranges of their own, so it is plain
where a sequence ends.
-/

namespace TerminalSession.Sequence

/-- Whether a sequence is text to print. -/
def isText : Sequence → Bool
  | .text _ => true
  | _ => false

/-- Whether a character can stand between the bracket and the last character of a sequence. -/
def isParameter (c : Char) : Bool := 0x20 ≤ c.toNat && c.toNat ≤ 0x3F

/-- Whether a character ends a sequence. -/
def isFinal (c : Char) : Bool := 0x40 ≤ c.toNat && c.toNat ≤ 0x7E

theorem encodeAll_cons (s : Sequence) (l : List Sequence) :
    encodeAll (s :: l) = s.encode ++ encodeAll l := List.flatMap_cons

theorem encodeAll_append (l l' : List Sequence) :
    encodeAll (l ++ l') = encodeAll l ++ encodeAll l' := List.flatMap_append

theorem isParameter_of_isDigit {c : Char} (h : c.isDigit = true) : isParameter c = true := by
  simp only [Char.isDigit, Bool.and_eq_true, decide_eq_true_eq, ge_iff_le, UInt32.le_iff_toNat_le]
    at h
  simp only [isParameter, Bool.and_eq_true, decide_eq_true_eq, Char.toNat]
  have hzero : '0'.val.toNat = 48 := rfl
  have hnine : '9'.val.toNat = 57 := rfl
  omega

@[simp] theorem all_digits (n : Nat) : (digits n).all isParameter = true :=
  List.all_eq_true.mpr fun _ hc =>
    isParameter_of_isDigit (Nat.isDigit_of_mem_toDigits (by decide) (by decide) hc)

theorem all_colorParameters {target : List Char} (h : target.all isParameter = true)
    (color : Color) : (colorParameters target color).all isParameter = true := by
  have hsigns : isParameter ';' = true ∧ isParameter '5' = true ∧ isParameter '2' = true :=
    ⟨rfl, rfl, rfl⟩
  cases color with
  | default => rfl
  | indexed n => simp only [colorParameters, List.all_append, List.all_cons, List.all_nil,
      all_digits, h, hsigns, Bool.and_self]
  | rgb r g b => simp only [colorParameters, List.all_append, List.all_cons, List.all_nil,
      all_digits, h, hsigns, Bool.and_self]

theorem encode_resize (rows cols : Nat) :
    ∃ parameters, (Sequence.resize rows cols).encode = escape (parameters ++ ['t']) ∧
      parameters.all isParameter = true := by
  refine ⟨['8', ';'] ++ digits rows ++ [';'] ++ digits cols, rfl, ?_⟩
  simp only [List.all_append, all_digits, Bool.and_true]
  rfl

theorem exists_escape {s : Sequence} (h : s.isText = false) :
    ∃ parameters final, s.encode = escape (parameters ++ [final]) ∧
      parameters.all isParameter = true ∧ isFinal final = true := by
  cases s with
  | text => cases h
  | moveTo row col =>
    refine ⟨digits (row + 1) ++ [';'] ++ digits (col + 1), 'H', rfl, ?_, rfl⟩
    simp only [List.all_append, all_digits, Bool.true_and, Bool.and_true]
    rfl
  | foreground color => exact ⟨_, 'm', rfl, all_colorParameters rfl color, rfl⟩
  | background color => exact ⟨_, 'm', rfl, all_colorParameters rfl color, rfl⟩
  | cursorShape shape =>
    refine ⟨digits (shapeNumber shape) ++ [' '], 'q', by simp [encode], ?_, rfl⟩
    simp only [List.all_append, all_digits, Bool.true_and]
    rfl
  | resize rows cols =>
    obtain ⟨parameters, hspelled, hparameters⟩ := encode_resize rows cols
    exact ⟨parameters, 't', hspelled, hparameters, rfl⟩
  | hideCursor => exact ⟨['?', '2', '5'], 'l', rfl, rfl, rfl⟩
  | showCursor => exact ⟨['?', '2', '5'], 'h', rfl, rfl, rfl⟩
  | clearAll => exact ⟨['2'], 'J', rfl, rfl, rfl⟩
  | enterAlternateScreen => exact ⟨['?', '1', '0', '4', '9'], 'h', rfl, rfl, rfl⟩
  | leaveAlternateScreen => exact ⟨['?', '1', '0', '4', '9'], 'l', rfl, rfl, rfl⟩
  | disableWrap => exact ⟨['?', '7'], 'l', rfl, rfl, rfl⟩
  | enableWrap => exact ⟨['?', '7'], 'h', rfl, rfl, rfl⟩
  | reset | bold | dim | italic | underline | blink | inverse | hidden | strikethrough =>
    exact ⟨_, 'm', rfl, rfl, rfl⟩

end TerminalSession.Sequence
