import Tailor.Text.Utf8

/-! # Reading what was written

A text that is written as UTF-8 is read back (`Tailor.Utf8.decode_encode`): the
scan of the bytes of a character passes through all states that its leading byte
promises and ends between characters (`Tailor.Utf8.scan_encodeChar`).
-/

namespace Tailor.Utf8

section Bytes

variable {owed low high value start position : Nat} {b : UInt8} {rest : Bytes}

/-- A byte that promises nothing is a character of its own. -/
theorem scan_single (leads : lead? b.toNat = some (0, low, high, value)) :
    scan position none (b :: rest) = .char (Char.ofNat value) :: scan (position + 1) none rest := by
  simp only [scan, startByte, leads, List.cons_append, List.nil_append]

/-- A leading byte that promises further bytes opens a character. -/
theorem scan_lead (leads : lead? b.toNat = some (owed + 1, low, high, value)) :
    scan position none (b :: rest) =
      scan (position + 1) (some ⟨owed + 1, low, high, value, position⟩) rest := by
  simp only [scan, startByte, leads, List.nil_append]

/-- A byte within its bounds continues a character to which more is owed. -/
theorem scan_continue (above : low ≤ b.toNat) (below : b.toNat ≤ high) :
    scan position (some ⟨owed + 2, low, high, value, start⟩) (b :: rest) =
      scan (position + 1) (some ⟨owed + 1, 0x80, 0xBF, value * 64 + (b.toNat - 0x80), start⟩)
        rest := by
  simp only [scan, nextByte, above, below, and_self, ↓reduceIte]
  simp

/-- The last byte that is owed completes a character. -/
theorem scan_last (above : low ≤ b.toNat) (below : b.toNat ≤ high) :
    scan position (some ⟨1, low, high, value, start⟩) (b :: rest) =
      .char (Char.ofNat (value * 64 + (b.toNat - 0x80))) :: scan (position + 1) none rest := by
  simp [scan, nextByte, above, below]

end Bytes

section Lead

variable {v : Nat}

theorem lead?_one (below : v ≤ 0x7F) : lead? v = some (0, 0x80, 0xBF, v) := if_pos below

theorem lead?_two (above : 0x7F < v) (below : v ≤ 0x7FF) :
    lead? (v / 64 % 32 + 192) = some (1, 0x80, 0xBF, v / 64) := by
  have bits : v / 64 % 32 + 192 - 0xC0 = v / 64 := by omega
  rw [lead?, if_neg (by omega), if_neg (by omega), if_pos (by omega), bits]

/-- Of three bytes the first one bounds the second so that nothing is written too
long and no surrogate is written. -/
theorem lead?_three (above : 0x7FF < v) (below : v ≤ 0xFFFF)
    (valid : v < 0xD800 ∨ 0xDFFF < v) :
    ∃ low high, lead? (v / 4096 % 16 + 224) = some (2, low, high, v / 4096) ∧
      low ≤ v / 64 % 64 + 128 ∧ v / 64 % 64 + 128 ≤ high := by
  have bits : v / 4096 % 16 + 224 - 0xE0 = v / 4096 := by omega
  rw [lead?, if_neg (by omega), if_neg (by omega), if_neg (by omega), bits]
  by_cases first : v / 4096 % 16 + 224 = 0xE0
  · refine ⟨0xA0, 0xBF, ?_, by omega, by omega⟩
    have none : v / 4096 = 0 := by omega
    rw [if_pos first, none]
  · rw [if_neg first]
    by_cases surrogates : v / 4096 % 16 + 224 = 0xED
    · refine ⟨0x80, 0x9F, ?_, by omega, by omega⟩
      have same : v / 4096 = 0xD := by omega
      rw [if_pos surrogates, same]
    · rw [if_neg surrogates, if_pos (by omega)]
      exact ⟨0x80, 0xBF, rfl, by omega, by omega⟩

/-- Of four bytes the first one bounds the second so that nothing is written too
long or beyond the last character. -/
theorem lead?_four (above : 0xFFFF < v) (below : v < 0x110000) :
    ∃ low high, lead? (v / 262144 % 8 + 240) = some (3, low, high, v / 262144) ∧
      low ≤ v / 4096 % 64 + 128 ∧ v / 4096 % 64 + 128 ≤ high := by
  have bits : v / 262144 % 8 + 240 - 0xF0 = v / 262144 := by omega
  rw [lead?, if_neg (by omega), if_neg (by omega), if_neg (by omega), if_neg (by omega),
    if_neg (by omega), if_neg (by omega), bits]
  by_cases first : v / 262144 % 8 + 240 = 0xF0
  · refine ⟨0x90, 0xBF, ?_, by omega, by omega⟩
    have none : v / 262144 = 0 := by omega
    rw [if_pos first, none]
  · rw [if_neg first]
    by_cases last : v / 262144 % 8 + 240 = 0xF4
    · refine ⟨0x80, 0x8F, ?_, by omega, by omega⟩
      have same : v / 262144 = 4 := by omega
      rw [if_pos last, same]
    · rw [if_neg last, if_pos (by omega)]
      exact ⟨0x80, 0xBF, rfl, by omega, by omega⟩

end Lead

theorem toNat_ofNat_of_lt {n : Nat} (small : n < 256) : (UInt8.ofNat n).toNat = n := by
  simp [Nat.mod_eq_of_lt small]

/-- Every byte behind the first one carries six bits. -/
theorem toNat_continuation (v : Nat) : (UInt8.ofNat (v % 64 + 128)).toNat = v % 64 + 128 :=
  toNat_ofNat_of_lt (by omega)

section Character

variable {v : Nat} (position : Nat) (rest : Bytes)

theorem scan_oneByte (below : v ≤ 0x7F) :
    scan position none (UInt8.ofNat v :: rest) =
      .char (Char.ofNat v) :: scan (position + 1) none rest := by
  have leads := lead?_one below
  rw [← toNat_ofNat_of_lt (n := v) (by omega)] at leads
  rw [scan_single leads, toNat_ofNat_of_lt (by omega)]

theorem scan_twoBytes (above : 0x7F < v) (below : v ≤ 0x7FF) :
    scan position none
        (UInt8.ofNat (v / 64 % 32 + 192) :: UInt8.ofNat (v % 64 + 128) :: rest) =
      .char (Char.ofNat v) :: scan (position + 2) none rest := by
  have leads := lead?_two above below
  have last := toNat_continuation v
  have value : v / 64 * 64 + (v % 64 + 128 - 0x80) = v := by omega
  rw [← toNat_ofNat_of_lt (n := v / 64 % 32 + 192) (by omega)] at leads
  rw [scan_lead leads, scan_last (by omega) (by omega), last, value]

theorem scan_threeBytes (above : 0x7FF < v) (below : v ≤ 0xFFFF)
    (valid : v < 0xD800 ∨ 0xDFFF < v) :
    scan position none (UInt8.ofNat (v / 4096 % 16 + 224) :: UInt8.ofNat (v / 64 % 64 + 128) ::
        UInt8.ofNat (v % 64 + 128) :: rest) =
      .char (Char.ofNat v) :: scan (position + 3) none rest := by
  obtain ⟨low, high, leads, fromLow, toHigh⟩ := lead?_three above below valid
  have second := toNat_continuation (v / 64)
  have last := toNat_continuation v
  have value : (v / 4096 * 64 + (v / 64 % 64 + 128 - 0x80)) * 64 + (v % 64 + 128 - 0x80) = v := by
    omega
  rw [← toNat_ofNat_of_lt (n := v / 4096 % 16 + 224) (by omega)] at leads
  rw [scan_lead leads, scan_continue (by omega) (by omega), scan_last (by omega) (by omega),
    second, last, value]

theorem scan_fourBytes (above : 0xFFFF < v) (below : v < 0x110000) :
    scan position none (UInt8.ofNat (v / 262144 % 8 + 240) :: UInt8.ofNat (v / 4096 % 64 + 128) ::
        UInt8.ofNat (v / 64 % 64 + 128) :: UInt8.ofNat (v % 64 + 128) :: rest) =
      .char (Char.ofNat v) :: scan (position + 4) none rest := by
  obtain ⟨low, high, leads, fromLow, toHigh⟩ := lead?_four above below
  have second := toNat_continuation (v / 4096)
  have third := toNat_continuation (v / 64)
  have last := toNat_continuation v
  have value : ((v / 262144 * 64 + (v / 4096 % 64 + 128 - 0x80)) * 64 +
      (v / 64 % 64 + 128 - 0x80)) * 64 + (v % 64 + 128 - 0x80) = v := by omega
  rw [← toNat_ofNat_of_lt (n := v / 262144 % 8 + 240) (by omega)] at leads
  rw [scan_lead leads, scan_continue (by omega) (by omega), scan_continue (by omega) (by omega),
    scan_last (by omega) (by omega), second, third, last, value]

/-- The bytes of a character are scanned to the character, and behind them the
scan stands between characters. -/
theorem scan_encodeChar (c : Char) :
    ∃ next, scan position none (String.utf8EncodeChar c ++ rest) =
      .char c :: scan next none rest := by
  have back : Char.ofNat c.val.toNat = c := Char.ofNat_toNat c
  have valid : c.val.toNat < 0xD800 ∨ 0xDFFF < c.val.toNat ∧ c.val.toNat < 0x110000 := c.valid
  unfold String.utf8EncodeChar
  generalize c.val.toNat = v at back valid ⊢
  rw [← back]
  dsimp only
  by_cases one : v ≤ 0x7F
  · rw [if_pos one]
    exact ⟨_, scan_oneByte position rest one⟩
  rw [if_neg one]
  by_cases two : v ≤ 0x7FF
  · rw [if_pos two]
    exact ⟨_, scan_twoBytes position rest (by omega) two⟩
  rw [if_neg two]
  by_cases three : v ≤ 0xFFFF
  · rw [if_pos three]
    exact ⟨_, scan_threeBytes position rest (by omega) three (by omega)⟩
  · rw [if_neg three]
    exact ⟨_, scan_fourBytes position rest (by omega) (by omega)⟩

end Character

theorem scan_encode (text : Text) (position : Nat) :
    scan position none (encode text) = text.map Piece.char := by
  induction text generalizing position with
  | nil => rfl
  | cons c text ih =>
      obtain ⟨next, scanned⟩ := scan_encodeChar position (encode text) c
      rw [encode, List.flatMap_cons, ← encode, scanned, ih next, List.map_cons]

/-- A text is read back from its bytes. -/
theorem decode_encode (text : Text) : decode (encode text) = .ok text := by
  unfold decode pieces
  rw [scan_encode, List.mapM_map]
  exact List.mapM_pure.trans (congrArg Except.ok (List.map_id text))

end Tailor.Utf8
