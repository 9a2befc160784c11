import Covenant.Text.Hex

/-!
# Hexadecimal text is read back

Bytes are written as digits of ASCII, so the encoded text has one byte for each digit, and the digits of
a byte stand for its two halves.
-/

namespace Covenant.Text

variable {bytes : List UInt8} {n : Nat}

/-! ## Bytes of a text -/

theorem toList_loop (bytes : ByteArray) (i : Nat) (before : List UInt8) :
    ByteArray.toList.loop bytes i before = before.reverse ++ bytes.data.toList.drop i := by
  induction i, before using ByteArray.toList.loop.induct bytes with
  | case1 i before hlt ih =>
    have hi : i < bytes.data.toList.length := by simpa using hlt
    have hget : bytes.get! i = bytes.data.toList[i] := by
      simp only [ByteArray.get!, Array.getElem_toList]
      exact getElem!_pos bytes.data i (by simpa using hlt)
    rw [ByteArray.toList.loop, if_pos hlt, ih, List.drop_eq_getElem_cons hi, hget]
    simp
  | case2 i before hge =>
    have hle : bytes.data.toList.length ≤ i := by simpa using hge
    rw [ByteArray.toList.loop, if_neg hge, List.drop_eq_nil_of_le hle, List.append_nil]

/-- The bytes of a text of ASCII characters are their codes. -/
theorem toUTF8_of_ascii {text : List Char} (h : ∀ c ∈ text, c.toNat < 0x80) :
    (String.ofList text).toUTF8.toList = text.map fun c => UInt8.ofNat c.toNat := by
  have hencode : text.flatMap String.utf8EncodeChar = text.map fun c => UInt8.ofNat c.toNat := by
    induction text with
    | nil => rfl
    | cons c rest ih =>
      obtain ⟨hc, hrest⟩ := List.forall_mem_cons.mp h
      have hone : String.utf8EncodeChar c = [UInt8.ofNat c.toNat] := by
        have hle : c.val.toNat ≤ 127 := Nat.le_of_lt_succ hc
        simp only [String.utf8EncodeChar, if_pos hle]
        rfl
      rw [List.flatMap_cons, hone, ih hrest, List.map_cons, List.singleton_append]
  rw [String.toUTF8, String.toByteArray_ofList, ByteArray.toList, toList_loop, List.utf8Encode,
    List.data_toByteArray, hencode]
  rfl

/-! ## Digits -/

theorem hexDigit_lt (hn : n < 16) : (hexDigit n).toNat < 0x80 := by
  have hall : ∀ n < 16, (hexDigit n).toNat < 0x80 := by decide
  exact hall n hn

theorem hexValue?_hexDigit (hn : n < 16) : hexValue? (hexDigit n) = some n := by
  have hall : ∀ n < 16, hexValue? (hexDigit n) = some n := by decide
  exact hall n hn

/-- Bytes are written with digits. -/
theorem exists_hexDigit_of_mem {c : Char} (h : c ∈ (hexOfBytes bytes).toList) :
    ∃ n < 16, c = hexDigit n := by
  rw [hexOfBytes, String.toList_ofList] at h
  obtain ⟨b, -, hc⟩ := List.mem_flatMap.mp h
  have hb : b.toNat < 256 := b.toNat_lt
  have heither : c = hexDigit (b.toNat / 16) ∨ c = hexDigit (b.toNat % 16) := by
    simpa [hexByte] using hc
  rcases heither with rfl | rfl
  · exact ⟨_, by omega, rfl⟩
  · exact ⟨_, by omega, rfl⟩

theorem length_hexBytes (bytes : List UInt8) :
    (bytes.flatMap hexByte).length = 2 * bytes.length := by
  induction bytes with
  | nil => rfl
  | cons b rest ih =>
    rw [List.flatMap_cons, List.length_append, ih, List.length_cons, hexByte, List.length_cons,
      List.length_singleton]
    omega

theorem hexOfBytes_ne_nil (hne : bytes ≠ []) : (hexOfBytes bytes).toList ≠ [] := by
  rw [hexOfBytes, String.toList_ofList]
  intro hnil
  have hlength := length_hexBytes bytes
  rw [hnil] at hlength
  have hpos := List.length_pos_iff.mpr hne
  simp only [List.length_nil] at hlength
  omega

/-- The two digits of each byte are read as that byte. -/
theorem readHexPairs_hexBytes (bytes : List UInt8) (position : Nat) :
    readHexPairs position ((bytes.flatMap hexByte).map fun c => UInt8.ofNat c.toNat) = .ok bytes := by
  induction bytes generalizing position with
  | nil => rfl
  | cons b rest ih =>
    have hb : b.toNat < 256 := b.toNat_lt
    have hcode : ∀ n < 16, Char.ofNat (UInt8.ofNat (hexDigit n).toNat).toNat = hexDigit n := by decide
    have hhigh : b.toNat / 16 < 16 := by omega
    have hlow : b.toNat % 16 < 16 := by omega
    have hbyte : UInt8.ofNat (b.toNat / 16 * 16 + b.toNat % 16) = b := by
      rw [Nat.div_add_mod', UInt8.ofNat_toNat]
    rw [List.flatMap_cons, List.map_append, hexByte, List.map_cons, List.map_cons, List.map_nil]
    simp only [List.cons_append, List.nil_append, readHexPairs, hcode _ hhigh, hcode _ hlow,
      hexValue?_hexDigit hhigh, hexValue?_hexDigit hlow, ih, hbyte]
    rfl

/-- Bytes are read back from their hexadecimal text. -/
theorem bytesOfHex_hexOfBytes (bytes : List UInt8) : bytesOfHex (hexOfBytes bytes) = .ok bytes := by
  have hascii : ∀ c ∈ bytes.flatMap hexByte, c.toNat < 0x80 := by
    intro c hc
    have hmem : c ∈ (hexOfBytes bytes).toList := by rwa [hexOfBytes, String.toList_ofList]
    obtain ⟨n, hn, rfl⟩ := exists_hexDigit_of_mem hmem
    exact hexDigit_lt hn
  have heven : (2 * bytes.length % 2 == 1) = false := by simp
  unfold bytesOfHex
  dsimp only
  rw [hexOfBytes, toUTF8_of_ascii hascii, List.length_map, length_hexBytes, heven, if_neg (by decide),
    readHexPairs_hexBytes]

end Covenant.Text
