import TerminalSession.Toml.Document
import TerminalSession.Proofs.Toml.Decimals

/-!
# Plain lines read back

A document whose lines are all plain is read as exactly what its lines say. A plain line is blank,
or a header with one bare name, or a bare name with a boolean, a decimal number or a text without
escapes after it.

The document is read line by line: `statements_cons` is the step, and `statements_written` the run,
by induction on the lines.
-/

namespace TerminalSession.Toml

/-- A value in its plain spelling. -/
inductive Plain
  | boolean (b : Bool)
  | natural (n : Nat)
  | text (s : String)
  deriving DecidableEq, Repr

/-- A character of a text that is not escaped. -/
def isUnescaped (c : Char) : Bool := isPlain c && c != '"' && c != '\\'

namespace Plain

def value : Plain → Value
  | .boolean b => .boolean b
  | .natural n => .integer n
  | .text s => .text s

def written : Plain → List Char
  | .boolean b => (toString b).toList
  | .natural n => Nat.toDigits 10 n
  | .text s => '"' :: s.toList ++ ['"']

/-- Whether the plain spelling means the value: the number has 63 bits, and the text has no
character that must be escaped. -/
def Sound : Plain → Prop
  | .boolean _ => True
  | .natural n => (n : Int) < Int.pow 2 63
  | .text s => s.toList.all isUnescaped = true

instance : DecidablePred Sound
  | .boolean _ => .isTrue trivial
  | .natural _ => inferInstanceAs (Decidable (_ < _))
  | .text _ => inferInstanceAs (Decidable (_ = true))

end Plain

/-- A name that needs no quotes. -/
def IsBareName (name : String) : Prop := name.toList ≠ [] ∧ name.toList.all isBare = true

instance : DecidablePred IsBareName := fun _ => inferInstanceAs (Decidable (_ ∧ _))

inductive Line
  | pair (name : String) (value : Plain)
  | table (name : String)
  | blank
  deriving DecidableEq, Repr

namespace Line

def written : Line → List Char
  | .pair name value => name.toList ++ ' ' :: '=' :: ' ' :: (value.written ++ ['\n'])
  | .table name => '[' :: (name.toList ++ [']', '\n'])
  | .blank => ['\n']

def stated : Line → List Statement
  | .pair name value => [.pair { name } value.value]
  | .table name => [.table { name }]
  | .blank => []

def Sound : Line → Prop
  | .pair name value => IsBareName name ∧ value.Sound
  | .table name => IsBareName name
  | .blank => True

end Line

/-! ## The parts of a line -/

theorem skipSpaces_cons {c : Char} {cs : List Char} (h : isSpace c = false) :
    skipSpaces (c :: cs) = c :: cs := by
  simp [skipSpaces, h]

theorem skipSpaces_space (cs : List Char) : skipSpaces (' ' :: cs) = skipSpaces cs := by
  simp [skipSpaces, isSpace]

theorem lineEnd?_newline (rest : List Char) : lineEnd? ('\n' :: rest) = some rest := rfl

theorem isToken_of_isBare {c : Char} (h : isBare c = true) : isToken c = true := by
  simp [isToken, h]

/-- No character of a token begins anything but a token. -/
theorem ne_of_isToken {c d : Char} (h : isToken c = true) (hd : isToken d = false) : c ≠ d := by
  rintro rfl
  simp [h] at hd

theorem isSpace_of_isToken {c : Char} (h : isToken c = true) : isSpace c = false := by
  simp [isSpace, ne_of_isToken h (d := ' ') (by decide), ne_of_isToken h (d := '\t') (by decide)]

/-- Where a run of characters ends with the first that is none of them. -/
theorem span_stop {p : Char → Bool} {cs : List Char} (h : ∀ c ∈ cs, p c = true) {c : Char}
    (hc : p c = false) (rest : List Char) :
    (cs ++ c :: rest).takeWhile p = cs ∧ (cs ++ c :: rest).dropWhile p = c :: rest := by
  have hc' : ¬ p c = true := by simp [hc]
  rw [List.takeWhile_append_of_pos h, List.takeWhile_cons_of_neg hc', List.append_nil,
    List.dropWhile_append_of_pos h, List.dropWhile_cons_of_neg hc']
  exact ⟨rfl, rfl⟩

/-- A bare name begins with a character that begins neither a header nor an empty line. -/
theorem exists_of_isBareName {name : String} (h : IsBareName name) :
    ∃ c cs, name.toList = c :: cs ∧ isBare c = true := by
  obtain ⟨c, cs, hc⟩ := List.exists_cons_of_ne_nil h.1
  exact ⟨c, cs, hc, List.all_eq_true.mp h.2 c (by simp [hc])⟩

/-- A bare name is read as a key up to what follows it. -/
theorem key_bare {name : String} (hn : IsBareName name) {c : Char} {rest : List Char}
    (hc : isBare c = false) (hdot : ∀ cs, skipSpaces (c :: rest) ≠ '.' :: cs) :
    key (name.toList ++ c :: rest) = some ({ name }, skipSpaces (c :: rest)) := by
  obtain ⟨ht, hd⟩ := span_stop (List.all_eq_true.mp hn.2) hc rest
  have hp : keyPart (skipSpaces (name.toList ++ c :: rest)) = some (name, c :: rest) := by
    obtain ⟨d, ds, hds, hb⟩ := exists_of_isBareName hn
    have hk := isToken_of_isBare hb
    rw [hds, List.cons_append] at ht hd ⊢
    rw [skipSpaces_cons (isSpace_of_isToken hk), keyPart, ht, hd, ← hds, String.ofList_toList]
    simp [ne_of_isToken hk (d := '"') (by decide), ne_of_isToken hk (d := '\x27') (by decide), hb]
  rw [key, show maxKeyParts = 78 + 1 from rfl, keyParts, hp]
  simp only [Option.bind_eq_bind, Option.bind_some]
  rfl

/-- A text without escapes is read up to the quote at its end. -/
theorem escapedLine_plain {cs : List Char} (h : cs.all isUnescaped = true) (rest : List Char) :
    escapedLine (cs ++ '"' :: rest) = some (cs, rest) := by
  induction cs with
  | nil => simp [escapedLine]
  | cons c cs ih =>
    rw [List.all_cons, Bool.and_eq_true] at h
    obtain ⟨hp, hq, hb⟩ : isPlain c = true ∧ c ≠ '"' ∧ c ≠ '\\' := by
      simpa [isUnescaped, and_assoc] using h.1
    rw [List.cons_append, escapedLine, if_pos hp, ih h.2]
    · rfl
    all_goals simp [hq, hb]

theorem scalar_token {token : List Char} {v : Value} (h : ∀ c ∈ token, isToken c = true)
    (hv : ofToken? token = some v) (rest : List Char) :
    scalar (token ++ '\n' :: rest) = some (v, '\n' :: rest) := by
  obtain ⟨ht, hd⟩ := span_stop h (c := '\n') (by decide) rest
  simp [scalar, ht, hd, timeAfter?, hv]

/-- A value that begins with a character of a token is neither a text nor put together. -/
theorem value_of_isToken {c : Char} (h : isToken c = true) (depth : Nat) (cs : List Char) :
    value depth (c :: cs) = scalar (c :: cs) := by
  unfold value
  split
  case h_5 => rfl
  all_goals
    rename_i he
    exact absurd (List.cons.inj he).1 (ne_of_isToken h (by decide))

theorem value_token {token : List Char} {v : Value} (h : ∀ c ∈ token, isToken c = true)
    (hv : ofToken? token = some v) (hne : token ≠ []) (depth : Nat) (rest : List Char) :
    value depth (token ++ '\n' :: rest) = some (v, '\n' :: rest) := by
  rw [← scalar_token h hv]
  obtain ⟨c, cs, rfl⟩ := List.exists_cons_of_ne_nil hne
  exact value_of_isToken (h c (by simp)) depth _

/-- A text without escapes is read up to the quote at its end. No third quote follows two at its
front: only a text that is empty has two, and the line ends after them. -/
theorem text_plain {s : String} (h : (Plain.text s).Sound) (rest : List Char) :
    text ('"' :: (s.toList ++ '"' :: '\n' :: rest)) = some (.text s, '\n' :: rest) := by
  rw [text, quoted]
  · simp [quotedLine, escapedLine_plain h]
  · intro cs he
    cases hs : s.toList with
    | nil => simp [hs] at he
    | cons c more =>
      have hc : c = '"' := by
        simp only [hs, List.cons_append, List.cons.injEq, true_and] at he
        exact he.1
      simp [Plain.Sound, hs, hc, isUnescaped] at h
  · simp

/-- A plain value is read up to the end of its line. -/
theorem value_written {v : Plain} (h : v.Sound) (depth : Nat) (rest : List Char) :
    value depth (v.written ++ '\n' :: rest) = some (v.value, '\n' :: rest) := by
  cases v with
  | boolean b =>
    cases b with
    | false => exact value_token (List.all_eq_true.mp rfl) rfl (List.cons_ne_nil _ _) depth rest
    | true => exact value_token (List.all_eq_true.mp rfl) rfl (List.cons_ne_nil _ _) depth rest
  | natural n =>
    exact value_token (fun c hc => isToken_of_isDigit (isDigits_toDigits n c hc))
      (ofToken?_toDigits h) Nat.toDigits_ne_nil depth rest
  | text s =>
    rw [Plain.written, List.cons_append, List.cons_append, List.append_assoc, value]
    exact text_plain h rest

/-- The written form of a value begins with something other than a space. -/
theorem skipSpaces_written {v : Plain} (rest : List Char) :
    skipSpaces (v.written ++ rest) = v.written ++ rest := by
  cases v with
  | boolean b => cases b <;> rfl
  | natural n =>
    obtain ⟨c, cs, hc⟩ := List.exists_cons_of_ne_nil (@Nat.toDigits_ne_nil n 10)
    have hd : c.isDigit = true := isDigits_toDigits n c (by simp [hc])
    rw [Plain.written, hc]
    exact skipSpaces_cons (isSpace_of_isToken (isToken_of_isDigit hd))
  | text s => rfl

/-! ## Lines and documents -/

theorem read_pair {name : String} {v : Plain} (hn : IsBareName name) (hv : v.Sound)
    (rest : List Char) :
    Statement.read ((Line.pair name v).written ++ rest) =
      some (.pair { name } v.value, rest) := by
  have hk : key (name.toList ++ ' ' :: '=' :: ' ' :: (v.written ++ '\n' :: rest)) =
      some ({ name }, '=' :: ' ' :: (v.written ++ '\n' :: rest)) :=
    key_bare hn (by decide) (by simp [skipSpaces, isSpace])
  have hp : pair (value maxDepth) ((Line.pair name v).written ++ rest) =
      some (({ name }, v.value), '\n' :: rest) := by
    simp only [Line.written, List.append_assoc, List.cons_append, List.nil_append]
    rw [pair, hk]
    simp [skipSpaces_space, skipSpaces_written, value_written hv]
  obtain ⟨c, cs, hc, ht⟩ := exists_of_isBareName hn
  have hb : c ≠ '[' := ne_of_isToken (isToken_of_isBare ht) (by decide)
  rw [Statement.read]
  · simp [hp, lineEnd?_newline]
  all_goals simp [Line.written, hc, hb]

theorem read_table {name : String} (hn : IsBareName name) (rest : List Char) :
    Statement.read ((Line.table name).written ++ rest) = some (.table { name }, rest) := by
  have hk : key (name.toList ++ ']' :: '\n' :: rest) = some ({ name }, ']' :: '\n' :: rest) :=
    key_bare hn (by decide) (by simp [skipSpaces, isSpace])
  obtain ⟨c, cs, hc, ht⟩ := exists_of_isBareName hn
  have hb : c ≠ '[' := ne_of_isToken (isToken_of_isBare ht) (by decide)
  simp only [Line.written, List.append_assoc, List.cons_append, List.nil_append]
  rw [Statement.read]
  · simp [hk, lineEnd?_newline]
  · simp [hc, hb]

theorem statements_of_read {c : Char} {cs rest : List Char} {statement : Statement}
    (hc : c ∉ [' ', '\t', '#', '\n', '\r']) (hr : Statement.read (c :: cs) = some (statement, rest))
    (fuel : Nat) :
    statements (fuel + 1) (c :: cs) = (statements fuel rest).map (statement :: ·) := by
  simp only [List.mem_cons, List.not_mem_nil, or_false, not_or] at hc
  obtain ⟨hspace, htab, hhash, hnl, hcr⟩ := hc
  rw [statements, skipSpaces_cons (by simp [isSpace, hspace, htab])]
  simp only [hhash, hnl, hcr, decide_false, Bool.or_self, Bool.false_eq_true, if_false, hr,
    Option.bind_eq_bind, Option.bind_some, Option.pure_def]
  exact Option.map_eq_bind.symm

/-- Reading a document takes a line at its front and goes on behind it. -/
theorem statements_cons {line : Line} (h : line.Sound) (fuel : Nat) (rest : List Char) :
    statements (fuel + 1) (line.written ++ rest) = (statements fuel rest).map (line.stated ++ ·) := by
  cases line with
  | pair name v =>
    obtain ⟨c, cs, hc, ht⟩ := exists_of_isBareName h.1
    obtain ⟨more, hw⟩ : ∃ more, (Line.pair name v).written ++ rest = c :: more :=
      ⟨_, by rw [Line.written, hc]; rfl⟩
    have hr := read_pair h.1 h.2 rest
    rw [hw] at hr ⊢
    refine statements_of_read (fun hm => ?_) hr fuel
    simp only [List.mem_cons, List.not_mem_nil, or_false] at hm
    rcases hm with rfl | rfl | rfl | rfl | rfl <;> exact absurd ht (by decide)
  | table name => exact statements_of_read (by decide) (read_table h rest) fuel
  | blank =>
    rw [Line.written, List.cons_append, List.nil_append, statements, skipSpaces_cons (by decide)]
    simp [lineEnd?_newline, Line.stated]

/-- A document of plain lines is read as what its lines say. -/
theorem statements_written {lines : List Line} (h : ∀ line ∈ lines, line.Sound) {fuel : Nat}
    (hf : lines.length ≤ fuel) :
    statements fuel (lines.flatMap Line.written) = some (lines.flatMap Line.stated) := by
  induction lines generalizing fuel with
  | nil => cases fuel <;> rfl
  | cons line lines ih =>
    obtain ⟨fuel, rfl⟩ : ∃ f, fuel = f + 1 := ⟨fuel - 1, by simp at hf; omega⟩
    rw [List.flatMap_cons, statements_cons (h line (by simp)),
      ih (fun l hl => h l (by simp [hl])) (by simpa using hf)]
    rfl

/-- Each line takes at least a character. -/
theorem length_le_length_written (lines : List Line) :
    lines.length ≤ (lines.flatMap Line.written).length := by
  induction lines with
  | nil => exact Nat.le_refl 0
  | cons line lines ih =>
    have hp : 0 < line.written.length := by
      cases line <;> simp only [Line.written, List.length_append, List.length_cons] <;> omega
    rw [List.flatMap_cons, List.length_append, List.length_cons]
    omega

/-- No document of plain lines begins with a byte order mark. -/
theorem flatMap_written_ne {lines : List Line} (h : ∀ line ∈ lines, line.Sound) (rest : List Char) :
    lines.flatMap Line.written ≠ '\uFEFF' :: rest := by
  cases lines with
  | nil => simp
  | cons line lines =>
    intro he
    cases line with
    | pair name v =>
      obtain ⟨c, cs, hc, ht⟩ := exists_of_isBareName (h (.pair name v) (by simp)).1
      simp only [List.flatMap_cons, Line.written, hc, List.cons_append, List.cons.injEq] at he
      exact absurd he.1 (ne_of_isToken (isToken_of_isBare ht) (by decide))
    | table name => simp [Line.written] at he
    | blank => simp [Line.written] at he

/-- A document of plain lines is the table that what its lines say makes. -/
theorem parse?_written {lines : List Line} (h : ∀ line ∈ lines, line.Sound) {document : String}
    (hd : document.toList = lines.flatMap Line.written) :
    parse? document = ofStatements? (lines.flatMap Line.stated) := by
  have hs : statements? (lines.flatMap Line.written) = some (lines.flatMap Line.stated) := by
    unfold statements?
    split
    · rename_i he
      exact absurd he (flatMap_written_ne h _)
    · exact statements_written h (length_le_length_written lines)
  rw [parse?, hd, hs]
  rfl

end TerminalSession.Toml
