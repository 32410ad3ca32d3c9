import TerminalSession.Text.Utf8

/-!
# Reading what was encoded

Text that is encoded as UTF-8 is read back as it was, whatever its characters are: the bytes of
each character are one piece, so decoding an encoding never fails and gives the text again.

A byte at the start of a character says how many bytes follow and between which bounds the next
one lies. `lead_two`, `lead_three` and `lead_four` say this of the first byte of an encoding.
-/

namespace TerminalSession.Utf8

/-- A byte that continues the character begun adds six bits to it. -/
theorem pieces_continue {begun : Begun} {b : Nat} {bytes : List UInt8} (hb : b < 0x40)
    (hl : begun.low ≤ b + 0x80) (hh : b + 0x80 ≤ begun.high) :
    pieces (some begun) (UInt8.ofNat (b + 0x80) :: bytes) =
      if begun.need ≤ 1 then some (Char.ofNat (begun.bits * 0x40 + b)) :: pieces none bytes
      else pieces (some { need := begun.need - 1, bits := begun.bits * 0x40 + b }) bytes := by
  have hn : (UInt8.ofNat (b + 0x80)).toNat = b + 0x80 := by
    rw [UInt8.toNat_ofNat']
    omega
  rw [pieces, if_pos (by omega)]
  simp only [hn, Nat.add_sub_cancel]

theorem pieces_begin {b : Nat} {begun : Begun} {bytes : List UInt8} (hb : b < 0x100)
    (h : lead b = .begins begun) :
    pieces none (UInt8.ofNat b :: bytes) = pieces (some begun) bytes := by
  have hn : (UInt8.ofNat b).toNat = b := by
    rw [UInt8.toNat_ofNat']
    omega
  rw [pieces, hn, h]

theorem lead_two {b : Nat} (hl : 0xC2 ≤ b) (hh : b < 0xE0) :
    lead b = .begins { need := 1, bits := b - 0xC0 } := by
  rw [lead, if_neg (by omega), if_neg (by omega), if_pos hh]

/-- The bounds of the second byte of three are such that long forms and surrogates are left
out. -/
theorem lead_three {n : Nat} (hl : 0x800 ≤ n) (hh : n < 0x10000)
    (hs : n < 0xD800 ∨ 0xDFFF < n) :
    ∃ low high, lead (n / 0x1000 + 0xE0) = .begins ⟨2, low, high, n / 0x1000⟩ ∧
      low ≤ n / 0x40 % 0x40 + 0x80 ∧ n / 0x40 % 0x40 + 0x80 ≤ high := by
  simp only [lead]
  rw [if_neg (by omega), if_neg (by omega), if_neg (by omega)]
  split
  · exact ⟨0xA0, 0xBF, by simp; omega, by omega, by omega⟩
  · split
    · exact ⟨0x80, 0x9F, by simp; omega, by omega, by omega⟩
    · rw [if_pos (by omega)]
      exact ⟨0x80, 0xBF, by simp, by omega, by omega⟩

/-- The bounds of the second byte of four are such that long forms and numbers above the last
character are left out. -/
theorem lead_four {n : Nat} (hl : 0x10000 ≤ n) (hh : n < 0x110000) :
    ∃ low high, lead (n / 0x40000 + 0xF0) = .begins ⟨3, low, high, n / 0x40000⟩ ∧
      low ≤ n / 0x1000 % 0x40 + 0x80 ∧ n / 0x1000 % 0x40 + 0x80 ≤ high := by
  simp only [lead]
  rw [if_neg (by omega), if_neg (by omega), if_neg (by omega), if_neg (by omega),
    if_neg (by omega), if_neg (by omega)]
  split
  · exact ⟨0x90, 0xBF, by simp; omega, by omega, by omega⟩
  · split
    · exact ⟨0x80, 0xBF, by simp, by omega, by omega⟩
    · rw [if_pos (by omega)]
      exact ⟨0x80, 0x8F, by simp; omega, by omega, by omega⟩

/-- The bytes of a character are one piece. -/
theorem pieces_encodeChar (c : Char) (bytes : List UInt8) :
    pieces none (String.utf8EncodeChar c ++ bytes) = some c :: pieces none bytes := by
  obtain ⟨n, hn⟩ : ∃ n, c.val.toNat = n := ⟨_, rfl⟩
  have hc : Char.ofNat n = c := by
    rw [← hn]
    exact Char.ofNat_toNat c
  have hv : n < 0xD800 ∨ 0xDFFF < n ∧ n < 0x110000 := by
    rw [← hn]
    exact c.valid
  simp only [String.utf8EncodeChar, hn]
  split
  · have hb : (UInt8.ofNat n).toNat = n := by
      rw [UInt8.toNat_ofNat']
      omega
    rw [List.cons_append, List.nil_append, pieces, hb, lead, if_pos (by omega), hc]
  · split
    · rw [List.cons_append, pieces_begin (by omega) (lead_two (by omega) (by omega)),
        List.cons_append, pieces_continue (by omega) (by simp) (by simp; omega), if_pos (by simp),
        List.nil_append]
      rw [show (n / 64 % 32 + 192 - 0xC0) * 0x40 + n % 64 = n by omega, hc]
    · split
      · obtain ⟨low, high, hlead, hlow, hhigh⟩ := lead_three (n := n) (by omega) (by omega) (by omega)
        rw [List.cons_append, show n / 4096 % 16 = n / 0x1000 by omega,
          pieces_begin (by omega) hlead, List.cons_append, pieces_continue (by omega) hlow hhigh,
          if_neg (by simp), List.cons_append,
          pieces_continue (by omega) (by simp) (by simp; omega), if_pos (by simp), List.nil_append]
        rw [show (n / 0x1000 * 0x40 + n / 64 % 64) * 0x40 + n % 64 = n by omega, hc]
      · obtain ⟨low, high, hlead, hlow, hhigh⟩ := lead_four (n := n) (by omega) (by omega)
        rw [List.cons_append, show n / 262144 % 8 = n / 0x40000 by omega,
          pieces_begin (by omega) hlead, List.cons_append, pieces_continue (by omega) hlow hhigh,
          if_neg (by simp), List.cons_append,
          pieces_continue (by omega) (by simp) (by simp; omega), if_neg (by simp),
          List.cons_append, pieces_continue (by omega) (by simp) (by simp; omega),
          if_pos (by simp), List.nil_append]
        rw [show ((n / 0x40000 * 0x40 + n / 4096 % 64) * 0x40 + n / 64 % 64) * 0x40 + n % 64 = n
          by omega, hc]

theorem pieces_encode (text : List Char) : pieces none (encode text) = text.map some := by
  induction text with
  | nil => rfl
  | cons c text ih =>
    rw [encode, List.flatMap_cons, pieces_encodeChar, List.map_cons]
    exact congrArg _ ih

/-- What was encoded is read back as it was. -/
theorem decode?_encode (text : List Char) : decode? (encode text) = some text := by
  rw [decode?, pieces_encode, List.mapM_map]
  simpa using List.mapM_pure (m := Option) (l := text) (f := id)

end TerminalSession.Utf8
