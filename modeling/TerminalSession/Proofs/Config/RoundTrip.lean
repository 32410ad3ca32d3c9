import TerminalSession.Config.Home
import TerminalSession.Proofs.Config.Describing
import TerminalSession.Proofs.Text.Encoding
import TerminalSession.Proofs.Toml.Lines

/-!
# Configurations written and read

The text of a configuration is a document of plain lines, so it is read as the table that these
lines say, and the table describes the configuration it was written for. What is saved is this
text in UTF-8, so it is loaded again.
-/

namespace TerminalSession.Config

open Toml (Entries Line Plain Value)

/-- The lines of a configuration. -/
def lines (c : Config) : List Line :=
  [.pair "preserve_screen" (.boolean c.preserveScreen),
    .pair "alternate_screen" (.boolean c.alternateScreen)] ++
  (c.cursor.map fun shape => .pair "cursor" (.text shape.name)).toList ++
  [.blank, .table "slk",
    .pair "enabled" (.boolean c.labels.enabled),
    .pair "format" (.natural c.labels.format.toNat),
    .pair "anchor" (.text c.labels.anchor.name)]

/-- The table that the text of a configuration is read as. -/
def entries (c : Config) : Entries :=
  [("preserve_screen", .boolean c.preserveScreen),
    ("alternate_screen", .boolean c.alternateScreen)] ++
  (c.cursor.map fun shape => ("cursor", Value.text shape.name)).toList ++
  [("slk", .table .header
    [("enabled", .boolean c.labels.enabled),
      ("format", .integer c.labels.format.toNat),
      ("anchor", .text c.labels.anchor.name)])]

theorem toList_toToml (c : Config) : c.toToml.toList = c.lines.flatMap Line.written := by
  have hf : (toString c.labels.format).toList = Nat.toDigits 10 c.labels.format.toNat := by
    have : toString c.labels.format = toString c.labels.format.toNat := rfl
    rw [this, Nat.toString_eq_ofList_toDigits, String.toList_ofList]
  unfold toToml
  cases hc : c.cursor
  all_goals
    dsimp only
    simp [lines, hc, Line.written, Plain.written, hf]

/-- The names of sides and of cursor shapes need no escapes. -/
theorem sound_side (side : Side) : (Plain.text side.name).Sound := by cases side <;> decide

theorem sound_shape (shape : CursorShape) : (Plain.text shape.name).Sound := by
  cases shape <;> decide

theorem sound_format (n : UInt8) : (Plain.natural n.toNat).Sound := by
  have hb : (256 : Int) ≤ Int.pow 2 63 := by decide
  have hn := n.toNat_lt
  show ((n.toNat : Nat) : Int) < Int.pow 2 63
  omega

theorem sound_lines (c : Config) : ∀ line ∈ c.lines, line.Sound := by
  intro line hl
  simp only [lines, List.mem_append, List.mem_cons, List.not_mem_nil, or_false, Option.mem_toList,
    Option.map_eq_some_iff] at hl
  rcases hl with ((rfl | rfl) | ⟨shape, -, rfl⟩) | rfl | rfl | rfl | rfl | rfl
  · exact ⟨by decide, trivial⟩
  · exact ⟨by decide, trivial⟩
  · exact ⟨by decide, sound_shape shape⟩
  · trivial
  · exact (by decide : Toml.IsBareName "slk")
  · exact ⟨by decide, trivial⟩
  · exact ⟨by decide, sound_format _⟩
  · exact ⟨by decide, sound_side _⟩

theorem ofStatements?_lines (c : Config) :
    Toml.ofStatements? (c.lines.flatMap Line.stated) = some c.entries := by
  rw [lines, entries]
  cases c.cursor <;> rfl

theorem parse?_toToml (c : Config) : Toml.parse? c.toToml = some c.entries := by
  rw [Toml.parse?_written c.sound_lines c.toList_toToml, ofStatements?_lines]

theorem describes_entries (c : Config) : Describes c.entries c where
  preserveScreen := .given rfl
  alternateScreen := .given rfl
  cursor := by
    have hl : c.entries.lookup "cursor" = c.cursor.map fun shape => .text shape.name := by
      rw [entries]
      cases c.cursor <;> rfl
    rw [hl]
    cases c.cursor with
    | none => exact .missing
    | some shape => exact .given ⟨shape, rfl, .text _⟩
  labels := by
    have hl : c.entries.lookup "slk" = some (.table .header
        [("enabled", .boolean c.labels.enabled), ("format", .integer c.labels.format.toNat),
          ("anchor", .text c.labels.anchor.name)]) := by
      rw [entries]
      cases c.cursor <;> rfl
    rw [hl]
    exact .given (.table ⟨.given rfl, .given rfl, .given (.text _)⟩)

theorem ofToml?_toToml (c : Config) : ofToml? c.toToml = some c := by
  rw [ofToml?, parse?_toToml]
  exact ofEntries?_eq_some.mpr c.describes_entries

/-! ## Files -/

/-- The place where a file with a text in it is. -/
def keeping (document : String) : ConfigPlace := .file (Utf8.encode document.toList)

theorem readText_keeping (document : String) : (keeping document).readText = .ok document := by
  rw [keeping, ConfigPlace.readText, ConfigPlace.read]
  simp only [Except.bind, bind, Utf8.decode?_encode]
  exact congrArg Except.ok String.ofList_toList

theorem loadFrom_keeping (document : String) :
    loadFrom (keeping document) =
      match ofToml? document with
      | some c => .ok c
      | none => .error .malformed := by
  rw [loadFrom, readText_keeping]
  rfl

theorem ofToml?_eq_some {document : String} {c : Config} :
    ofToml? document = some c ↔
      ∃ entries, Toml.parse? document = some entries ∧ Describes entries c := by
  simp [ofToml?, Option.bind_eq_some_iff, ofEntries?_eq_some]

theorem ofToml?_eq_none {document : String} :
    ofToml? document = none ↔
      Toml.parse? document = none ∨
        ∃ entries, Toml.parse? document = some entries ∧ IllTyped entries := by
  rw [ofToml?]
  cases Toml.parse? document with
  | none => simp
  | some entries => simp [ofEntries?_eq_none]

/-- What was saved is loaded again. A document is read exactly as its table describes it, whatever
else the table holds, and it is refused where the table is ill-typed. -/
theorem load_saved_and_read_iff :
    (∀ c : Config, ofToml? c.toToml = some c ∧
      ∃ kept, c.save (some .missing) = .ok kept ∧
        (∀ bytes, c.save (some (.file bytes)) = .ok kept) ∧
        loadFrom kept = .ok c ∧ load (some kept) = c) ∧
    (∀ entries : Entries, (∀ c, ofEntries? entries = some c ↔ Describes entries c) ∧
      (ofEntries? entries = none ↔ IllTyped entries)) ∧
    ∀ document : String,
      (∀ c, ofToml? document = some c ↔
        ∃ entries, Toml.parse? document = some entries ∧ Describes entries c) ∧
      (ofToml? document = none ↔
        Toml.parse? document = none ∨
          ∃ entries, Toml.parse? document = some entries ∧ IllTyped entries) ∧
      loadFrom (keeping document) =
        match ofToml? document with
        | some c => .ok c
        | none => .error .malformed := by
  refine ⟨fun c => ⟨c.ofToml?_toToml, keeping c.toToml, rfl, fun _ => rfl, ?_⟩,
    fun entries => ⟨fun c => ofEntries?_eq_some, ofEntries?_eq_none⟩,
    fun document => ⟨fun c => ofToml?_eq_some, ofToml?_eq_none, loadFrom_keeping document⟩⟩
  have hl : loadFrom (keeping c.toToml) = .ok c := by rw [loadFrom_keeping, ofToml?_toToml]
  refine ⟨hl, ?_⟩
  rw [load, hl]
  rfl

/-- A time in the place of the choices about labels, an empty array in the place of an empty table,
and an item too many are no errors. -/
theorem lenient_read :
    Toml.parse? "slk = 1979-05-27t07:32:00z" = some [("slk", .time "1979-05-27t07:32:00z")] ∧
    loadFrom (keeping "slk = 1979-05-27t07:32:00z") = .ok {} ∧
    loadFrom (keeping "cursor = \x7b steady-bar = [] \x7d") = .ok { cursor := some .steadyBar } ∧
    loadFrom (keeping "slk = [true, 55, \x7b top = [] \x7d, 9]") =
      .ok { labels := { enabled := true, format := 55, anchor := .top } } := by
  refine ⟨rfl, ?_, ?_, ?_⟩
  all_goals
    rw [loadFrom_keeping]
    rfl

end TerminalSession.Config
