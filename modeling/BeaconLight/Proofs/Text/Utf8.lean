import BeaconLight.Text.Utf8

/-!
# The bytes of characters

An ASCII character is one byte, and the bytes of any other are not ASCII. A text is read back
from its bytes, also when it is read with the replacement character in place of what is
malformed.
-/

namespace BeaconLight.Utf8

theorem encode_cons (c : Char) (cs : List Char) :
  encode (c :: cs) = String.utf8EncodeChar c ++ encode cs
  := List.flatMap_cons

theorem encode_append (cs ds : List Char) :
  encode (cs ++ ds) = encode cs ++ encode ds
  := List.flatMap_append

theorem utf8EncodeChar_of_lt {c : Char} (h : c.toNat < 128) :
  String.utf8EncodeChar c = [UInt8.ofNat c.toNat]
  := by
  have hle : c.val ≤ 127 := Nat.le_of_lt_succ h
  rw [String.utf8EncodeChar_eq_singleton (Char.utf8Size_eq_one_iff.mpr hle)]
  rfl

/-- A byte that is put together from marker bits and others is not ASCII. -/
theorem le_ofNat_add {bits marker : Nat} (hmarker : 0x80 ≤ marker)
    (hsum : bits + marker < 256) :
  0x80 ≤ UInt8.ofNat (bits + marker)
  := by
  rw [UInt8.le_iff_toNat_le, UInt8.toNat_ofNat', Nat.mod_eq_of_lt hsum]
  exact Nat.le_trans hmarker (Nat.le_add_left _ _)

/-- The bytes of a character that is not ASCII are not ASCII. -/
theorem le_of_mem_utf8EncodeChar {c : Char} (h : 128 ≤ c.toNat) {byte : UInt8}
    (hbyte : byte ∈ String.utf8EncodeChar c) :
  0x80 ≤ byte
  := by
  have hc : ¬ c.val.toNat ≤ 0x7f := by
    intro hle
    apply Nat.not_lt_of_le h (Nat.lt_succ_of_le hle)
  revert hbyte
  fun_cases String.utf8EncodeChar c with
  | case1 _ hle => exact absurd hle hc
  | _ =>
    simp only [List.mem_cons, List.not_mem_nil, or_false]
    intro hbyte
    rcases hbyte with rfl | rfl | rfl | rfl
    all_goals apply le_ofNat_add (by omega) (by omega)

/-- A text is read back from its bytes. -/
theorem fromUTF8?_encode (text : String) :
  String.fromUTF8? ⟨(encode text.toList).toArray⟩ = some text
  := by
  have hbytes : (⟨(encode text.toList).toArray⟩ : ByteArray) = text.toByteArray := by
    rw [← String.utf8Encode_toList]
    apply ByteArray.ext
    apply List.data_toByteArray.symm
  rw [hbytes, String.fromUTF8?, dif_pos text.isValidUTF8]
  rfl

/-! ### Reading the bytes back -/

/-- The first byte of a character is read by its number. -/
theorem begin_ofNat {n : Nat} (hn : n < 256) (done : List (Option Char)) :
  begin done (UInt8.ofNat n) =
    if n ≤ 0x7f then ⟨some (Char.ofNat n) :: done, none⟩
    else if 0xc2 ≤ n ∧ n ≤ 0xdf then ⟨done, some ⟨n - 0xc0, 1, 0x80, 0xbf⟩⟩
    else if 0xe0 ≤ n ∧ n ≤ 0xef then
      ⟨done, some ⟨n - 0xe0, 2, if n = 0xe0 then 0xa0 else 0x80,
        if n = 0xed then 0x9f else 0xbf⟩⟩
    else if 0xf0 ≤ n ∧ n ≤ 0xf4 then
      ⟨done, some ⟨n - 0xf0, 3, if n = 0xf0 then 0x90 else 0x80,
        if n = 0xf4 then 0x8f else 0xbf⟩⟩
    else ⟨none :: done, none⟩
  := by simp [begin, UInt8.le_iff_toNat_le, ← UInt8.toNat_inj, Nat.mod_eq_of_lt hn]

theorem begin_two {bits : Nat} (hlow : 2 ≤ bits) (hhigh : bits < 32) (done : List (Option Char)) :
  begin done (UInt8.ofNat (bits + 192)) = ⟨done, some ⟨bits, 1, 0x80, 0xbf⟩⟩
  := by
  rw [begin_ofNat (by omega), if_neg (by omega), if_pos (by omega), Nat.add_sub_cancel]

theorem begin_three {bits : Nat} (h : bits < 16) (done : List (Option Char)) :
  begin done (UInt8.ofNat (bits + 224))
    = ⟨done, some ⟨bits, 2, if bits = 0 then 0xa0 else 0x80, if bits = 13 then 0x9f else 0xbf⟩⟩
  := by
  rw [begin_ofNat (by omega), if_neg (by omega), if_neg (by omega), if_pos (by omega),
    Nat.add_sub_cancel]
  simp

theorem begin_four {bits : Nat} (h : bits < 5) (done : List (Option Char)) :
  begin done (UInt8.ofNat (bits + 240))
    = ⟨done, some ⟨bits, 3, if bits = 0 then 0x90 else 0x80, if bits = 4 then 0x8f else 0xbf⟩⟩
  := by
  rw [begin_ofNat (by omega), if_neg (by omega), if_neg (by omega), if_neg (by omega),
    if_pos (by omega), Nat.add_sub_cancel]
  simp

/-- What a byte in range comes to when a character has been begun. -/
theorem step_ofNat {done : List (Option Char)} {begun bits missing : Nat} {low high : UInt8}
    (hbits : bits < 64) (hlow : low.toNat ≤ bits + 128) (hhigh : bits + 128 ≤ high.toNat) :
  step ⟨done, some ⟨begun, missing, low, high⟩⟩ (UInt8.ofNat (bits + 128)) =
    if missing = 1 then ⟨some (Char.ofNat (64 * begun + bits)) :: done, none⟩
    else ⟨done, some ⟨64 * begun + bits, missing - 1, 0x80, 0xbf⟩⟩
  := by
  have hhigh' : bits + 128 < 256 := by omega
  have hbyte : (UInt8.ofNat (bits + 128)).toNat = bits + 128 := by
    rw [UInt8.toNat_ofNat', Nat.mod_eq_of_lt hhigh']
  have hrange : low ≤ UInt8.ofNat (bits + 128) ∧ UInt8.ofNat (bits + 128) ≤ high := by
    rw [UInt8.le_iff_toNat_le, UInt8.le_iff_toNat_le, hbyte]
    exact ⟨hlow, hhigh⟩
  have hbits : continuationBits (UInt8.ofNat (bits + 128)) = bits := by
    unfold continuationBits
    omega
  simp only [step, hrange, and_self, if_true, hbits]

/-- Any bits may follow those that the first byte leaves to the others. -/
theorem step_more {done : List (Option Char)} {begun bits missing : Nat} (hbits : bits < 64) :
  step ⟨done, some ⟨begun, missing, 0x80, 0xbf⟩⟩ (UInt8.ofNat (bits + 128)) =
    if missing = 1 then ⟨some (Char.ofNat (64 * begun + bits)) :: done, none⟩
    else ⟨done, some ⟨64 * begun + bits, missing - 1, 0x80, 0xbf⟩⟩
  := by
  apply step_ofNat hbits (Nat.le_add_left _ _)
  show bits + 128 ≤ 191
  omega

/-- A character is read from its bytes. -/
theorem foldl_step_utf8EncodeChar (c : Char) (done : List (Option Char)) :
  (String.utf8EncodeChar c).foldl step ⟨done, none⟩ = ⟨some c :: done, none⟩
  := by
  have hvalid : c.val.toNat < 0xd800 ∨ 0xdfff < c.val.toNat ∧ c.val.toNat < 0x110000 := c.valid
  have hchar : Char.ofNat c.val.toNat = c := Char.ofNat_toNat c
  fun_cases String.utf8EncodeChar c with
  | case1 v h =>
    show begin done _ = _
    rw [begin_ofNat (by omega), if_pos h, hchar]
  | case2 v _ h =>
    have hbits : 64 * (v / 64 % 32) + v % 64 = v := by omega
    show step (begin done _) _ = _
    rw [begin_two (by omega) (by omega), step_more (by omega), if_pos rfl, hbits, hchar]
  | case3 v _ _ h =>
    have hbits : 64 * (64 * (v / 4096 % 16) + v / 64 % 64) + v % 64 = v := by omega
    show step (step (begin done _) _) _ = _
    -- the numbers kept for surrogates are no characters, and short ones have fewer bytes
    have hlow : (if v / 4096 % 16 = 0 then 0xa0 else 0x80 : UInt8).toNat ≤ v / 64 % 64 + 128 := by
      split
      · show 160 ≤ v / 64 % 64 + 128
        omega
      · apply Nat.le_add_left
    have hhigh : v / 64 % 64 + 128 ≤ (if v / 4096 % 16 = 13 then 0x9f else 0xbf : UInt8).toNat := by
      split
      · show v / 64 % 64 + 128 ≤ 159
        omega
      · show v / 64 % 64 + 128 ≤ 191
        omega
    rw [begin_three (by omega), step_ofNat (by omega) hlow hhigh, if_neg (by decide),
      step_more (by omega), if_pos rfl, hbits, hchar]
  | case4 v _ _ h =>
    have hbits :
        64 * (64 * (64 * (v / 262144 % 8) + v / 4096 % 64) + v / 64 % 64) + v % 64 = v := by
      omega
    show step (step (step (begin done _) _) _) _ = _
    have hlow :
        (if v / 262144 % 8 = 0 then 0x90 else 0x80 : UInt8).toNat ≤ v / 4096 % 64 + 128 := by
      split
      · show 144 ≤ v / 4096 % 64 + 128
        omega
      · apply Nat.le_add_left
    have hhigh :
        v / 4096 % 64 + 128 ≤ (if v / 262144 % 8 = 4 then 0x8f else 0xbf : UInt8).toNat := by
      split
      · show v / 4096 % 64 + 128 ≤ 143
        omega
      · show v / 4096 % 64 + 128 ≤ 191
        omega
    rw [begin_four (by omega), step_ofNat (by omega) hlow hhigh, if_neg (by decide),
      step_more (by omega), if_neg (by decide), step_more (by omega), if_pos rfl, hbits, hchar]

/-- Characters are read from their bytes. -/
theorem foldl_step_encode (cs : List Char) (done : List (Option Char)) :
  (encode cs).foldl step ⟨done, none⟩ = ⟨(cs.map some).reverse ++ done, none⟩
  := by
  induction cs generalizing done with
  | nil => rfl
  | cons c rest ih =>
    rw [encode_cons, List.foldl_append, foldl_step_utf8EncodeChar, ih, List.map_cons,
      List.reverse_cons, List.append_assoc]
    rfl

/-- In the bytes of a text nothing is malformed, so the text is read from them as it is. -/
theorem decodeLossy_encode (text : String) :
  decodeLossy (encode text.toList) = text
  := by
  rw [decodeLossy, scan, foldl_step_encode, finish, List.append_nil, List.reverse_reverse,
    List.map_map]
  simp [Function.comp_def]

end BeaconLight.Utf8
