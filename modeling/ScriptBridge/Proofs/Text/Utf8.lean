import ScriptBridge.Text.Utf8

/-!
# Decoding what was encoded

The decoder reads every encoded character back and is between characters after it, so the lossy text
of encoded text is the text: `toStringLossy_ofString`. The leading byte of a character leaves a
range open for the next byte that holds exactly the bytes of shortest encodings of characters; the
lemmas on `lead` say that the next byte of an encoded character lies in it.
-/

namespace ScriptBridge.Bytes

theorem toNat_byte {n : Nat} (h : n < 256) : (UInt8.ofNat n).toNat = n := by
  simp [Nat.mod_eq_of_lt h]

/-! ## Leading bytes -/

theorem lead_of_lt {n : Nat} (h : n < 128) : lead n = .character (Char.ofNat n) := by
  simp only [lead, if_pos h]

theorem lead_two {n : Nat} (hlow : 128 ≤ n) (hhigh : n < 2048) :
    lead (n / 64 + 192) = .begun ⟨n / 64, 0, 128, 191⟩ := by
  have hascii : ¬ n / 64 + 192 < 128 := by omega
  have hstray : ¬ n / 64 + 192 < 194 := by omega
  have htwo : n / 64 + 192 < 224 := by omega
  simp only [lead, if_neg hascii, if_neg hstray, if_pos htwo, Nat.add_sub_cancel]

/-- The first byte of three: what it leaves open for the second one depends on it. -/
theorem lead_three {n : Nat} (hlow : 2048 ≤ n) (hhigh : n < 65536) (hvalid : n.isValidChar) :
    ∃ low high, lead (n / 4096 + 224) = .begun ⟨n / 4096, 1, low, high⟩ ∧
      low ≤ n / 64 % 64 + 128 ∧ n / 64 % 64 + 128 ≤ high := by
  have hascii : ¬ n / 4096 + 224 < 128 := by omega
  have hstray : ¬ n / 4096 + 224 < 194 := by omega
  have htwo : ¬ n / 4096 + 224 < 224 := by omega
  have hthree : n / 4096 + 224 < 240 := by omega
  simp only [lead, if_neg hascii, if_neg hstray, if_neg htwo]
  by_cases hfirst : n / 4096 + 224 = 224
  · -- the second byte is not one of a shorter encoding
    refine ⟨160, 191, ?_, by omega, by omega⟩
    have hzero : n / 4096 = 0 := by omega
    rw [if_pos hfirst, hzero]
  · by_cases hsurrogate : n / 4096 + 224 = 237
    · -- the second byte is not one of a surrogate
      refine ⟨128, 159, ?_, by omega, ?_⟩
      · have hd : n / 4096 = 13 := by omega
        rw [if_neg hfirst, if_pos hsurrogate, hd]
      · rcases hvalid with hbelow | ⟨habove, -⟩ <;> omega
    · refine ⟨128, 191, ?_, by omega, by omega⟩
      rw [if_neg hfirst, if_neg hsurrogate, if_pos hthree, Nat.add_sub_cancel]

/-- The first byte of four. -/
theorem lead_four {n : Nat} (hlow : 65536 ≤ n) (hvalid : n.isValidChar) :
    ∃ low high, lead (n / 262144 + 240) = .begun ⟨n / 262144, 2, low, high⟩ ∧
      low ≤ n / 4096 % 64 + 128 ∧ n / 4096 % 64 + 128 ≤ high := by
  have hbound : n < 1114112 := by rcases hvalid with hbelow | ⟨-, hhigh⟩ <;> omega
  have hascii : ¬ n / 262144 + 240 < 128 := by omega
  have hstray : ¬ n / 262144 + 240 < 194 := by omega
  have htwo : ¬ n / 262144 + 240 < 224 := by omega
  have hfirst : ¬ n / 262144 + 240 = 224 := by omega
  have hsurrogate : ¬ n / 262144 + 240 = 237 := by omega
  have hthree : ¬ n / 262144 + 240 < 240 := by omega
  simp only [lead, if_neg hascii, if_neg hstray, if_neg htwo, if_neg hfirst, if_neg hsurrogate,
    if_neg hthree]
  by_cases hleast : n / 262144 + 240 = 240
  · refine ⟨144, 191, ?_, by omega, by omega⟩
    have hzero : n / 262144 = 0 := by omega
    rw [if_pos hleast, hzero]
  · by_cases hmiddle : n / 262144 + 240 < 244
    · refine ⟨128, 191, ?_, by omega, by omega⟩
      rw [if_neg hleast, if_pos hmiddle, Nat.add_sub_cancel]
    · -- the second byte is not one beyond the last character
      refine ⟨128, 143, ?_, by omega, by omega⟩
      have hlast : n / 262144 = 4 := by omega
      rw [if_neg hleast, if_neg hmiddle, hlast, if_pos rfl]

/-! ## Reading one byte -/

theorem decodeFrom_begin {n : Nat} {b : Begun} (hbyte : n < 256) (h : lead n = .begun b)
    (rest : Bytes) :
    decodeFrom none (UInt8.ofNat n :: rest) = decodeFrom (some b) rest := by
  simp only [decodeFrom, advance, start, toNat_byte hbyte, h, List.nil_append]

theorem decodeFrom_continue {value missing low high n : Nat} (hn : n < 64)
    (hlow : low ≤ n + 128) (hhigh : n + 128 ≤ high) (rest : Bytes) :
    decodeFrom (some ⟨value, missing + 1, low, high⟩) (UInt8.ofNat (n + 128) :: rest) =
      decodeFrom (some ⟨value * 64 + n, missing, 128, 191⟩) rest := by
  have hbyte : n + 128 < 256 := by omega
  simp only [decodeFrom, advance, toNat_byte hbyte, hlow, hhigh, and_self, if_true,
    Nat.add_sub_cancel, List.nil_append]

theorem decodeFrom_complete {value low high n : Nat} (hn : n < 64) (hlow : low ≤ n + 128)
    (hhigh : n + 128 ≤ high) (rest : Bytes) :
    decodeFrom (some ⟨value, 0, low, high⟩) (UInt8.ofNat (n + 128) :: rest) =
      Char.ofNat (value * 64 + n) :: decodeFrom none rest := by
  have hbyte : n + 128 < 256 := by omega
  simp only [decodeFrom, advance, toNat_byte hbyte, hlow, hhigh, and_self, if_true,
    Nat.add_sub_cancel, List.cons_append, List.nil_append]

/-! ## Reading text -/

/-- An encoded character is read back, whatever follows it. -/
theorem decodeFrom_encodeChar (c : Char) (rest : Bytes) :
    decodeFrom none (String.utf8EncodeChar c ++ rest) = c :: decodeFrom none rest := by
  obtain ⟨n, hn⟩ : ∃ n, c.val.toNat = n := ⟨_, rfl⟩
  have hvalid : n.isValidChar := hn ▸ c.valid
  have hc : Char.ofNat n = c := by rw [← hn]; exact Char.ofNat_toNat c
  simp only [String.utf8EncodeChar, hn]
  split
  next h =>
    have hread : lead n = .character c := by rw [lead_of_lt (by omega), hc]
    simp only [List.cons_append, List.nil_append, decodeFrom, advance, start,
      toNat_byte (show n < 256 by omega), hread]
  next hone =>
    split
    next h =>
      have hmod : n / 64 % 32 = n / 64 := by omega
      have hvalue : n / 64 * 64 + n % 64 = n := by omega
      rw [hmod, List.cons_append, decodeFrom_begin (by omega) (lead_two (by omega) (by omega)),
        List.cons_append, decodeFrom_complete (by omega) (by omega) (by omega), hvalue, hc]
      rfl
    next htwo =>
      split
      next h =>
        obtain ⟨low, high, hlead, hlow, hhigh⟩ := lead_three (by omega) (by omega) hvalid
        have hmod : n / 4096 % 16 = n / 4096 := by omega
        have hvalue : (n / 4096 * 64 + n / 64 % 64) * 64 + n % 64 = n := by omega
        rw [hmod, List.cons_append, decodeFrom_begin (by omega) hlead, List.cons_append,
          decodeFrom_continue (by omega) hlow hhigh, List.cons_append,
          decodeFrom_complete (by omega) (by omega) (by omega), hvalue, hc]
        rfl
      next hthree =>
        obtain ⟨low, high, hlead, hlow, hhigh⟩ := lead_four (by omega) hvalid
        have hbound : n < 1114112 := by rcases hvalid with hbelow | ⟨-, hhigh⟩ <;> omega
        have hmod : n / 262144 % 8 = n / 262144 := by omega
        have hvalue : ((n / 262144 * 64 + n / 4096 % 64) * 64 + n / 64 % 64) * 64 + n % 64 = n := by
          omega
        rw [hmod, List.cons_append, decodeFrom_begin (by omega) hlead, List.cons_append,
          decodeFrom_continue (by omega) hlow hhigh, List.cons_append,
          decodeFrom_continue (by omega) (by omega) (by omega), List.cons_append,
          decodeFrom_complete (by omega) (by omega) (by omega), hvalue, hc]
        rfl

theorem decodeFrom_encode (cs : List Char) :
    decodeFrom none (cs.flatMap String.utf8EncodeChar) = cs := by
  induction cs with
  | nil => rfl
  | cons c cs ih => rw [List.flatMap_cons, decodeFrom_encodeChar, ih]

/-- Text that was encoded is read back as it was. -/
@[simp] theorem toStringLossy_ofString (s : String) : (ofString s).toStringLossy = s := by
  rw [toStringLossy, ofString, decodeFrom_encode, String.ofList_toList]

end ScriptBridge.Bytes
