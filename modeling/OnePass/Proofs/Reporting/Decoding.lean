import OnePass.Command.Report
/-!
# The text of a file

Decoding the bytes that a text is encoded in gives the text back, character by character: a
character is encoded in one to four bytes, and the bounds for the byte behind the first one are just
wide enough for every character. So a file holds the text with its line ends unified.
-/
namespace OnePass

namespace Text.Utf8

variable {rest : List UInt8} {byte : UInt8} {bits low high more : Nat}

private theorem decodeFrom_ascii (h : byte.toNat < 0x80) :
    decodeFrom none (byte :: rest) = (Char.ofNat byte.toNat :: ·) <$> decodeFrom none rest := by
  rw [decodeFrom, if_pos h]

private theorem decodeFrom_begin {begun : Begun} (h : 0x80 ≤ byte.toNat)
    (hbegin : begin? byte.toNat = some begun) :
    decodeFrom none (byte :: rest) = decodeFrom (some begun) rest := by
  rw [decodeFrom, if_neg (Nat.not_lt.mpr h), hbegin]

private theorem decodeFrom_last (hlow : low ≤ byte.toNat) (hhigh : byte.toNat ≤ high) :
    decodeFrom (some ⟨bits, low, high, 0⟩) (byte :: rest) =
      (Char.ofNat (64 * bits + byte.toNat % 64) :: ·) <$> decodeFrom none rest := by
  rw [decodeFrom, if_neg (by simp only; omega)]

private theorem decodeFrom_more (hlow : low ≤ byte.toNat) (hhigh : byte.toNat ≤ high) :
    decodeFrom (some ⟨bits, low, high, more + 1⟩) (byte :: rest) =
      decodeFrom (some ⟨64 * bits + byte.toNat % 64, 0x80, 0xbf, more⟩) rest := by
  rw [decodeFrom, if_neg (by simp only; omega)]

private theorem toNat_ofNat {n : Nat} (h : n < 256) : (UInt8.ofNat n).toNat = n := by
  rw [UInt8.toNat_ofNat', Nat.mod_eq_of_lt h]

private theorem decodeFrom_two {v : Nat} (hlow : 0x7f < v) (hhigh : v ≤ 0x7ff) :
    decodeFrom none (UInt8.ofNat (v / 64 % 0x20 + 0xc0) :: UInt8.ofNat (v % 0x40 + 0x80) :: rest) =
      (Char.ofNat v :: ·) <$> decodeFrom none rest := by
  have hfirst : (UInt8.ofNat (v / 64 % 0x20 + 0xc0)).toNat = v / 64 + 0xc0 := by
    rw [toNat_ofNat (by omega)]
    omega
  have hsecond : (UInt8.ofNat (v % 0x40 + 0x80)).toNat = v % 64 + 0x80 := toNat_ofNat (by omega)
  have hbegin : begin? (v / 64 + 0xc0) = some ⟨v / 64, 0x80, 0xbf, 0⟩ := by
    rw [begin?, if_neg (by omega), if_pos (by omega), Nat.add_sub_cancel]
  have hbits : 64 * (v / 64) + (v % 64 + 0x80) % 64 = v := by omega
  rw [decodeFrom_begin (by omega) (hfirst ▸ hbegin), decodeFrom_last (by omega) (by omega), hsecond,
    hbits]

private theorem decodeFrom_three {v : Nat} (hlow : 0x7ff < v) (hhigh : v ≤ 0xffff)
    (hvalid : v < 0xd800 ∨ 0xdfff < v) :
    decodeFrom none (UInt8.ofNat (v / 4096 % 0x10 + 0xe0) :: UInt8.ofNat (v / 64 % 0x40 + 0x80) ::
        UInt8.ofNat (v % 0x40 + 0x80) :: rest) =
      (Char.ofNat v :: ·) <$> decodeFrom none rest := by
  have hfirst : (UInt8.ofNat (v / 4096 % 0x10 + 0xe0)).toNat = v / 4096 + 0xe0 := by
    rw [toNat_ofNat (by omega)]
    omega
  have hsecond : (UInt8.ofNat (v / 64 % 0x40 + 0x80)).toNat = v / 64 % 64 + 0x80 :=
    toNat_ofNat (by omega)
  have hthird : (UInt8.ofNat (v % 0x40 + 0x80)).toNat = v % 64 + 0x80 := toNat_ofNat (by omega)
  have hbegin : begin? (v / 4096 + 0xe0) = some ⟨v / 4096,
      if v / 4096 + 0xe0 = 0xe0 then 0xa0 else 0x80,
      if v / 4096 + 0xe0 = 0xed then 0x9f else 0xbf, 1⟩ := by
    rw [begin?, if_neg (by omega), if_neg (by omega), if_pos (by omega), Nat.add_sub_cancel]
  have hbits : 64 * (64 * (v / 4096) + (v / 64 % 64 + 0x80) % 64) + (v % 64 + 0x80) % 64 = v := by
    omega
  rw [decodeFrom_begin (by omega) (hfirst ▸ hbegin),
    decodeFrom_more (by split <;> omega) (by split <;> omega), hsecond,
    decodeFrom_last (by omega) (by omega), hthird, hbits]

private theorem decodeFrom_four {v : Nat} (hlow : 0xffff < v) (hhigh : v < 0x110000) :
    decodeFrom none (UInt8.ofNat (v / 262144 % 0x08 + 0xf0) ::
        UInt8.ofNat (v / 4096 % 0x40 + 0x80) :: UInt8.ofNat (v / 64 % 0x40 + 0x80) ::
        UInt8.ofNat (v % 0x40 + 0x80) :: rest) =
      (Char.ofNat v :: ·) <$> decodeFrom none rest := by
  have hfirst : (UInt8.ofNat (v / 262144 % 0x08 + 0xf0)).toNat = v / 262144 + 0xf0 := by
    rw [toNat_ofNat (by omega)]
    omega
  have hsecond : (UInt8.ofNat (v / 4096 % 0x40 + 0x80)).toNat = v / 4096 % 64 + 0x80 :=
    toNat_ofNat (by omega)
  have hthird : (UInt8.ofNat (v / 64 % 0x40 + 0x80)).toNat = v / 64 % 64 + 0x80 :=
    toNat_ofNat (by omega)
  have hfourth : (UInt8.ofNat (v % 0x40 + 0x80)).toNat = v % 64 + 0x80 := toNat_ofNat (by omega)
  have hbegin : begin? (v / 262144 + 0xf0) = some ⟨v / 262144,
      if v / 262144 + 0xf0 = 0xf0 then 0x90 else 0x80,
      if v / 262144 + 0xf0 = 0xf4 then 0x8f else 0xbf, 2⟩ := by
    rw [begin?, if_neg (by omega), if_neg (by omega), if_neg (by omega), if_pos (by omega),
      Nat.add_sub_cancel]
  have hbits : 64 * (64 * (64 * (v / 262144) + (v / 4096 % 64 + 0x80) % 64) +
      (v / 64 % 64 + 0x80) % 64) + (v % 64 + 0x80) % 64 = v := by omega
  rw [decodeFrom_begin (by omega) (hfirst ▸ hbegin),
    decodeFrom_more (by split <;> omega) (by split <;> omega), hsecond,
    decodeFrom_more (by omega) (by omega), hthird, decodeFrom_last (by omega) (by omega), hfourth,
    hbits]

private theorem decodeFrom_encode (c : Char) (rest : List UInt8) :
    decodeFrom none (String.utf8EncodeChar c ++ rest) = (c :: ·) <$> decodeFrom none rest := by
  have hvalid : c.val.toNat < 0xd800 ∨ 0xdfff < c.val.toNat ∧ c.val.toNat < 0x110000 := c.valid
  have hchar : Char.ofNat c.val.toNat = c := Char.ofNat_toNat c
  fun_cases String.utf8EncodeChar c with
  | case1 v hone =>
      have hbyte : (UInt8.ofNat v).toNat = v := toNat_ofNat (by omega)
      rw [← hchar, List.singleton_append, decodeFrom_ascii (by omega), hbyte]
  | case2 v hmore htwo =>
      rw [← hchar]
      exact decodeFrom_two (by omega) htwo
  | case3 v _ hmore hthree =>
      rw [← hchar]
      exact decodeFrom_three (by omega) hthree (by omega)
  | case4 v _ _ hmore =>
      rw [← hchar]
      exact decodeFrom_four (by omega) (by omega)

theorem decode_utf8 (text : String) : decode text.toUTF8.data.toList = .ok text.toList := by
  have hbytes : text.toUTF8.data.toList = text.toList.flatMap String.utf8EncodeChar := by
    change text.toByteArray.data.toList = _
    rw [← String.utf8Encode_toList]
    exact List.toList_data_toByteArray
  rw [hbytes]
  unfold decode
  generalize text.toList = cs
  induction cs with
  | nil => rfl
  | cons c cs ih =>
      rw [List.flatMap_cons, decodeFrom_encode, ih]
      rfl

end Text.Utf8

end OnePass
