import Mathlib.Data.Option.Basic
import TerminalSession.Toml.Literal

/-!
# Decimal numbers read back

A token that is made of decimal digits only is no date, no time, no fraction and no number of
another base, so it is read as a whole number; and the digits of `n` are read as `n`.
-/

namespace TerminalSession.Toml

/-- A token of decimal digits. -/
def IsDigits (token : List Char) : Prop := ∀ c ∈ token, c.isDigit = true

variable {token : List Char}

/-- Where a character stands that is no digit, the token is not made of digits. -/
theorem IsDigits.not_mem {c : Char} (h : IsDigits token) (hc : c.isDigit = false) : c ∉ token :=
  fun hm => by simp [h c hm] at hc

theorem isToken_of_isDigit {c : Char} (h : c.isDigit = true) : isToken c = true := by
  simp [isToken, isBare, Char.isAlphanum, h]

theorem digit?_of_isDigit {c : Char} (h : c.isDigit = true) :
    digit? 10 c = some (c.toNat - '0'.toNat) := by
  simp only [Char.isDigit, Bool.and_eq_true, decide_eq_true_eq, ge_iff_le,
    UInt32.le_iff_toNat_le] at h
  have hc : '0' ≤ c ∧ c ≤ '9' := h
  have hn : c.toNat ≤ 57 := h.2
  simp only [digit?, hc, and_self, if_true]
  rw [if_pos]
  simp
  omega

/-- The last step of `integer?`, with bounds that are variables: the bounds it has are powers too
large to be computed. -/
theorem bounded_of {low high n : Int} (hl : low ≤ n) (hh : n < high) :
    (do let n ← some n; guard (low ≤ n ∧ n < high); return n : Option Int) = some n := by
  simp [(Option.guard_eq_some' ()).mpr (And.intro hl hh)]

namespace IsDigits

theorem isDate_eq_false (h : IsDigits token) (tail : List Char → Bool) :
    isDateThen tail token = false := by
  unfold isDateThen
  split
  · exact absurd (by simp) (h.not_mem (c := '-') (by decide))
  · rfl

theorem isTime_eq_false (h : IsDigits token) (tail : List Char → Bool) :
    isTimeThen tail token = false := by
  unfold isTimeThen
  split
  · exact absurd (by simp) (h.not_mem (c := ':') (by decide))
  · rfl

theorem isSpecial_eq_false (h : IsDigits token) : isSpecial token = false := by
  have hn : 'n' ∉ token := h.not_mem (by decide)
  simp only [isSpecial, Bool.or_eq_false_iff, beq_eq_false_iff_ne]
  refine ⟨?_, ?_⟩
  all_goals
    rintro rfl
    simp at hn

/-- Without a point and an exponent a number is whole. -/
theorem isFraction_eq_false (h : IsDigits token) (bounded : Bool) :
    isFraction bounded token = false := by
  have hw : ∀ c ∈ token, (c.isDigit || c == '_') = true := fun c hc => by simp [h c hc]
  have hd : token.dropWhile (fun c => c.isDigit || c == '_') = [] := by
    rw [← List.append_nil token, List.dropWhile_append_of_pos hw, List.dropWhile_nil]
  simp [isFraction, hd]

theorem isFloat_eq_false (h : IsDigits token) : isFloat token = false := by
  unfold isFloat
  split
  · exact absurd (by simp) (h.not_mem (c := '-') (by decide))
  · exact absurd (by simp) (h.not_mem (c := '+') (by decide))
  · simp [h.isSpecial_eq_false, h.isFraction_eq_false]

theorem digits?_eq (h : IsDigits token) (hne : token ≠ []) :
    digits? 10 token = some (token.map fun c => c.toNat - '0'.toNat) := by
  fun_induction digits? 10 token with
  | case1 => exact absurd rfl hne
  | case2 c => simp [digit?_of_isDigit (h c (by simp))]
  | case3 c rest => exact absurd (by simp) (h.not_mem (c := '_') (by decide))
  | case4 c rest hlast _ ih =>
    have hr := ih (fun c' hc => h c' (by simp [hc])) (fun he => hlast he)
    simp [digit?_of_isDigit (h c (by simp)), hr]

theorem natural?_eq (h : IsDigits token) :
    natural? token = (decimalDigits? token).map (ofDigits 10) := by
  unfold natural?
  split
  · exact absurd (by simp) (h.not_mem (c := 'x') (by decide))
  · exact absurd (by simp) (h.not_mem (c := 'o') (by decide))
  · exact absurd (by simp) (h.not_mem (c := 'b') (by decide))
  · rfl

theorem integer?_eq (h : IsDigits token) {n : Nat} (hn : natural? token = some n)
    (hb : (n : Int) < Int.pow 2 63) : integer? token = some (n : Int) := by
  have hl : -Int.pow 2 63 ≤ (n : Int) := by omega
  unfold integer?
  split
  · exact absurd (by simp) (h.not_mem (c := '-') (by decide))
  · exact absurd (by simp) (h.not_mem (c := '+') (by decide))
  · rw [hn]
    exact bounded_of hl hb

theorem ofToken?_eq (h : IsDigits token) {n : Nat} (hn : natural? token = some n)
    (hb : (n : Int) < Int.pow 2 63) : ofToken? token = some (.integer n) := by
  have ht : token ≠ ['t', 'r', 'u', 'e'] := by
    rintro rfl
    exact absurd (by simp) (h.not_mem (c := 't') (by decide))
  have hf : token ≠ ['f', 'a', 'l', 's', 'e'] := by
    rintro rfl
    exact absurd (by simp) (h.not_mem (c := 'f') (by decide))
  simp [ofToken?, ht, hf, isDate, isTime, isMoment, h.isDate_eq_false, h.isTime_eq_false,
    h.isFloat_eq_false, h.integer?_eq hn hb]

end IsDigits

theorem isDigits_toDigits (n : Nat) : IsDigits (Nat.toDigits 10 n) := fun _ hc =>
  Nat.isDigit_of_mem_toDigits (by decide) (by decide) hc

/-- Only the number 0 is written with 0 as its first digit. -/
theorem head?_toDigits {n : Nat} (h : n ≠ 0) :
    ∃ c, (Nat.toDigits 10 n).head? = some c ∧ c.toNat - '0'.toNat ≠ 0 := by
  induction n using Nat.strongRecOn with
  | _ n ih =>
    by_cases hs : n < 10
    · refine ⟨n.digitChar, by rw [Nat.toDigits_of_lt_base hs, List.head?_cons], ?_⟩
      rw [Nat.toNat_digitChar_of_lt_ten hs]
      simpa using h
    · obtain ⟨c, hc, hz⟩ := ih (n / 10) (by omega) (by omega)
      refine ⟨c, ?_, hz⟩
      rw [Nat.toDigits_of_base_le (by decide) (by omega), List.head?_append, hc, Option.some_or]

/-- The digits of a number have that number as their value. -/
theorem decimalDigits?_toDigits (n : Nat) :
    (decimalDigits? (Nat.toDigits 10 n)).map (ofDigits 10) = some n := by
  have hv : ofDigits 10 ((Nat.toDigits 10 n).map fun c => c.toNat - '0'.toNat) = n := by
    have h := @Nat.ofDigitChars_ten_toDigits n
    simpa [ofDigits, Nat.ofDigitChars, List.foldl_map, Nat.mul_comm] using h
  have hg : ((Nat.toDigits 10 n).map fun c => c.toNat - '0'.toNat).head? ≠ some 0 ∨
      ((Nat.toDigits 10 n).map fun c => c.toNat - '0'.toNat).length = 1 := by
    by_cases hn : n = 0
    · subst hn
      exact .inr rfl
    · obtain ⟨c, hc, hz⟩ := head?_toDigits hn
      left
      rw [List.head?_map, hc]
      simpa using hz
  rw [decimalDigits?, (isDigits_toDigits n).digits?_eq Nat.toDigits_ne_nil]
  simp only [Option.bind_eq_bind, Option.bind_some, (Option.guard_eq_some' ()).mpr hg,
    Option.pure_def, Option.map_some, hv]

/-- A number of 63 bits is read back from its digits. -/
theorem ofToken?_toDigits {n : Nat} (hb : (n : Int) < Int.pow 2 63) :
    ofToken? (Nat.toDigits 10 n) = some (.integer n) :=
  (isDigits_toDigits n).ofToken?_eq
    ((isDigits_toDigits n).natural?_eq.trans (decimalDigits?_toDigits n)) hb

end TerminalSession.Toml
