import TerminalSession.Config.Decode

/-!
# What a table says about a configuration

`Config.Describes entries c` says, without a decoder, that a table with these entries describes
the configuration `c`: each known name that is there has a value that means what `c` has, and where
one is missing `c` has the default. Other names do not occur in it. `Config.IllTyped entries` says
that some known name has a value that means nothing.

Decoding gives `c` exactly where the table describes `c` (`ofEntries?_eq_some`), and it fails
exactly where the table is ill-typed (`ofEntries?_eq_none`).
-/

namespace TerminalSession

open Toml (Value Entries)

namespace Toml.Value

variable {α : Type}

def MeansBoolean (value : Value) (b : Bool) : Prop := value = .boolean b

def MeansByte (value : Value) (n : UInt8) : Prop := value = .integer n.toNat

/-- The spellings of a name out of a fixed set. -/
inductive Spells : Value → String → Prop
  | text (name : String) : Spells (.text name) name
  | emptyTable (name : String) (outer inner : Toml.Origin) :
    Spells (.table outer [(name, .table inner [])]) name
  | emptyArray (name : String) (outer inner : Toml.Origin) :
    Spells (.table outer [(name, .array inner [])]) name

def MeansNamed (nameOf : α → String) (value : Value) (a : α) : Prop := Spells value (nameOf a)

/-- What a value that may be missing sets something to. -/
inductive Sets (Means : Value → α → Prop) (default : α) : Option Value → α → Prop
  | missing : Sets Means default none default
  | given {value : Value} {a : α} : Means value a → Sets Means default (some value) a

/-- There is a value, and it means nothing. -/
def Meaningless (Means : Value → α → Prop) (value : Option Value) : Prop :=
  ∃ v, value = some v ∧ ∀ a, ¬ Means v a

/-- A decoder gives exactly what a value means. -/
def Reads (read : Value → Option α) (Means : Value → α → Prop) : Prop :=
  ∀ value a, read value = some a ↔ Means value a

theorem reads_boolean? : Reads boolean? MeansBoolean := by
  intro value b
  cases value <;> simp [boolean?, MeansBoolean]

theorem reads_byte? : Reads byte? MeansByte := by
  intro value n
  unfold byte? MeansByte
  split
  · rename_i m
    have hn := n.toNat_lt
    rw [Value.integer.injEq]
    by_cases hm : 0 ≤ m ∧ m < 256
    · rw [if_pos hm, Option.some.injEq, ← UInt8.toNat_inj, Nat.toUInt8, UInt8.toNat_ofNat']
      omega
    · rw [if_neg hm]
      constructor
      · intro h
        cases h
      · intro h
        omega
  · rename_i hv
    constructor
    · intro h
      cases h
    · rintro rfl
      exact absurd rfl (hv _)

/-- A decoder that looks a name up in a list gives the thing whose name is spelled, if everything
is found by its name. -/
theorem reads_choice? {all : List α} {nameOf : α → String}
    (h : ∀ a, all.find? (nameOf · == nameOf a) = some a) :
    Reads (choice? fun name => all.find? (nameOf · == name)) (MeansNamed nameOf) := by
  have hn (name : String) (a : α) :
      all.find? (nameOf · == name) = some a ↔ nameOf a = name := by
    constructor
    · intro hf
      simpa using List.find?_some hf
    · rintro rfl
      exact h a
  intro value a
  constructor
  · intro hc
    unfold choice? at hc
    split at hc
    · exact (hn _ _).mp hc ▸ .text _
    · exact (hn _ _).mp hc ▸ .emptyTable ..
    · exact (hn _ _).mp hc ▸ .emptyArray ..
    · cases hc
  · intro hm
    unfold MeansNamed at hm
    generalize he : nameOf a = name at hm
    cases hm
    all_goals exact (hn _ _).mpr he

variable {read : Value → Option α} {Means : Value → α → Prop}

theorem orDefault_eq_some (h : Reads read Means) {default a : α} {value : Option Value} :
    orDefault read default value = some a ↔ Sets Means default value a := by
  constructor
  · intro hr
    cases value with
    | none =>
      cases hr
      exact .missing
    | some v => exact .given ((h v a).mp hr)
  · rintro (⟨⟩ | hm)
    · rfl
    · exact (h _ a).mpr hm

theorem orDefault_eq_none (h : Reads read Means) {default : α} {value : Option Value} :
    orDefault read default value = none ↔ Meaningless Means value := by
  cases value with
  | none => simp [orDefault, Meaningless]
  | some v =>
    rw [orDefault, Option.eq_none_iff_forall_ne_some]
    simp [Meaningless, h v]

/-- Two steps one after the other fail where the first does or the second does, if that does not
depend on what the first gives. -/
theorem bind_eq_none {β : Type} {x : Option α} {f : α → Option β} {p q : Prop} (hx : x = none ↔ p)
    (hf : ∀ a, f a = none ↔ q) : x.bind f = none ↔ p ∨ q := by
  cases x with
  | none => simpa using Or.inl (hx.mp rfl)
  | some a =>
    have hp : ¬ p := fun h => nomatch hx.mpr h
    simp [hf, hp]

theorem bind_some_eq_none {β : Type} {x : Option α} {f : α → β} {p : Prop} (hx : x = none ↔ p) :
    x.bind (fun a => some (f a)) = none ↔ p := by
  rw [← hx]
  cases x <;> simp

end Toml.Value

open Toml.Value

namespace LabelConfig

/-- The three values, as far as there are any, set the choices about labels. -/
structure SetBy (enabled format anchor : Option Value) (c : LabelConfig) : Prop where
  enabled : Sets MeansBoolean ({} : LabelConfig).enabled enabled c.enabled
  format : Sets MeansByte ({} : LabelConfig).format format c.format
  anchor : Sets (MeansNamed Side.name) ({} : LabelConfig).anchor anchor c.anchor

/-- What a value means for the choices about labels: a table sets them by name, an array by
position. -/
inductive Means : Value → LabelConfig → Prop
  | table {origin : Toml.Origin} {entries : Entries} {c : LabelConfig} :
    SetBy (entries.lookup "enabled") (entries.lookup "format") (entries.lookup "anchor") c →
    Means (.table origin entries) c
  | array {origin : Toml.Origin} {items : List Value} {c : LabelConfig} :
    SetBy items[0]? items[1]? items[2]? c → Means (.array origin items) c
  | time {written : String} : Means (.time written) {}

/-- One of the three values means nothing. -/
def Spoilt (enabled format anchor : Option Value) : Prop :=
  Meaningless MeansBoolean enabled ∨ Meaningless MeansByte format ∨
    Meaningless (MeansNamed Side.name) anchor

def IllTyped : Value → Prop
  | .table _ entries =>
    Spoilt (entries.lookup "enabled") (entries.lookup "format") (entries.lookup "anchor")
  | .array _ items => Spoilt items[0]? items[1]? items[2]?
  | .time _ => False
  | _ => True

theorem reads_side : Reads (choice? Side.ofName?) (MeansNamed Side.name) :=
  reads_choice? Side.ofName?_name

variable {enabled format anchor : Option Value}

theorem ofValues?_eq_some {c : LabelConfig} :
    ofValues? enabled format anchor = some c ↔ SetBy enabled format anchor c := by
  simp only [ofValues?, Option.bind_eq_bind, Option.bind_eq_some_iff, Option.pure_def,
    orDefault_eq_some reads_boolean?, orDefault_eq_some reads_byte?, orDefault_eq_some reads_side]
  constructor
  · rintro ⟨e, he, f, hf, a, ha, ⟨⟩⟩
    exact ⟨he, hf, ha⟩
  · intro h
    exact ⟨_, h.enabled, _, h.format, _, h.anchor, rfl⟩

theorem ofValues?_eq_none :
    ofValues? enabled format anchor = none ↔ Spoilt enabled format anchor :=
  bind_eq_none (orDefault_eq_none reads_boolean?) fun _ =>
    bind_eq_none (orDefault_eq_none reads_byte?) fun _ =>
      bind_some_eq_none (orDefault_eq_none reads_side)

theorem reads_ofValue? : Reads ofValue? Means := by
  intro value c
  unfold ofValue?
  split
  · rw [ofValues?_eq_some]
    exact ⟨.table, fun h => by cases h with | table h => exact h⟩
  · rw [ofValues?_eq_some]
    exact ⟨.array, fun h => by cases h with | array h => exact h⟩
  · constructor
    · rintro ⟨⟩
      exact .time
    · rintro ⟨⟩
      rfl
  · rename_i ht ha hw
    constructor
    · rintro ⟨⟩
    · intro h
      cases h with
      | table => exact absurd rfl (ht _ _)
      | array => exact absurd rfl (ha _ _)
      | time => exact absurd rfl (hw _)

/-- A value is ill-typed if it means nothing. -/
theorem illTyped_iff {value : Value} : IllTyped value ↔ ∀ c, ¬ Means value c := by
  have hn : ofValue? value = none ↔ IllTyped value := by
    cases value <;> simp [ofValue?, IllTyped, ofValues?_eq_none]
  simp only [← hn, Option.eq_none_iff_forall_ne_some, ne_eq, reads_ofValue? value]

end LabelConfig

namespace Config

def MeansCursor (value : Value) (cursor : Option CursorShape) : Prop :=
  ∃ shape, cursor = some shape ∧ MeansNamed CursorShape.name value shape

/-- A table with these entries describes a configuration. -/
structure Describes (entries : Entries) (c : Config) : Prop where
  preserveScreen :
    Sets MeansBoolean ({} : Config).preserveScreen (entries.lookup "preserve_screen")
      c.preserveScreen
  alternateScreen :
    Sets MeansBoolean ({} : Config).alternateScreen (entries.lookup "alternate_screen")
      c.alternateScreen
  cursor : Sets MeansCursor ({} : Config).cursor (entries.lookup "cursor") c.cursor
  labels : Sets LabelConfig.Means ({} : Config).labels (entries.lookup "slk") c.labels

/-- Some known name has a value that means nothing. -/
def IllTyped (entries : Entries) : Prop :=
  Meaningless MeansBoolean (entries.lookup "preserve_screen") ∨
    Meaningless MeansBoolean (entries.lookup "alternate_screen") ∨
    Meaningless MeansCursor (entries.lookup "cursor") ∨
    ∃ value, entries.lookup "slk" = some value ∧ LabelConfig.IllTyped value

theorem reads_cursor :
    Reads (fun value => (value.choice? CursorShape.ofName?).map some) MeansCursor := by
  have hs : Reads (choice? CursorShape.ofName?) (MeansNamed CursorShape.name) :=
    reads_choice? CursorShape.ofName?_name
  intro value cursor
  rw [Option.map_eq_some_iff]
  constructor
  · rintro ⟨shape, hv, rfl⟩
    exact ⟨shape, rfl, (hs value shape).mp hv⟩
  · rintro ⟨shape, rfl, hv⟩
    exact ⟨shape, (hs value shape).mpr hv, rfl⟩

variable {entries : Entries}

/-- A configuration is decoded exactly from the tables that describe it. -/
theorem ofEntries?_eq_some {c : Config} : ofEntries? entries = some c ↔ Describes entries c := by
  simp only [ofEntries?, Option.bind_eq_bind, Option.bind_eq_some_iff, Option.pure_def,
    orDefault_eq_some reads_boolean?, orDefault_eq_some reads_cursor,
    orDefault_eq_some LabelConfig.reads_ofValue?]
  constructor
  · rintro ⟨p, hp, a, ha, s, hs, l, hl, ⟨⟩⟩
    exact ⟨hp, ha, hs, hl⟩
  · intro h
    exact ⟨_, h.preserveScreen, _, h.alternateScreen, _, h.cursor, _, h.labels, rfl⟩

/-- Decoding fails exactly on the tables that are ill-typed. -/
theorem ofEntries?_eq_none : ofEntries? entries = none ↔ IllTyped entries :=
  bind_eq_none (orDefault_eq_none reads_boolean?) fun _ =>
    bind_eq_none (orDefault_eq_none reads_boolean?) fun _ =>
      bind_eq_none (orDefault_eq_none reads_cursor) fun _ =>
        bind_some_eq_none <| by
          rw [orDefault_eq_none LabelConfig.reads_ofValue?]
          simp only [Meaningless, LabelConfig.illTyped_iff]

end Config

end TerminalSession
