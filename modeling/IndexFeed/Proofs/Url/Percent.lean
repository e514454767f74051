import Mathlib.Tactic.IntervalCases
import IndexFeed.Url.Segments

/-! Percent encoding loses nothing: encoded text decodes to the text that was encoded. -/
namespace IndexFeed.Url

private theorem hexDigit?_upperDigit {n : Nat} (h : n < 16) : Text.hexDigit? (upperDigit n) = some n := by
  interval_cases n <;> decide

private theorem number?_byte (byte : UInt8) :
    Text.number? 16 [upperDigit (byte.toNat / 16), upperDigit (byte.toNat % 16)] =
      some byte.toNat := by
  have hbound := byte.toNat_lt
  have hhigh : byte.toNat / 16 < 16 := by omega
  have hlow : byte.toNat % 16 < 16 := by omega
  have hwhole : byte.toNat / 16 * 16 + byte.toNat % 16 = byte.toNat := by omega
  simp [Text.number?, hexDigit?_upperDigit hhigh, hexDigit?_upperDigit hlow, Option.filter, hhigh, hlow,
    hwhole]

private theorem decodeBytes_encodeByte (byte : UInt8) (rest : List Char) :
    decodeBytes (encodeByte byte ++ rest) = byte :: decodeBytes rest := by
  change decodeBytes ('%' :: upperDigit (byte.toNat / 16) :: upperDigit (byte.toNat % 16) :: rest) = _
  rw [decodeBytes, number?_byte]
  simp

private theorem decodeBytes_encodeBytes (bytes : List UInt8) (rest : List Char) :
    decodeBytes (bytes.flatMap encodeByte ++ rest) = bytes ++ decodeBytes rest := by
  induction bytes with
  | nil => rfl
  | cons byte bytes ih =>
    rw [List.flatMap_cons, List.append_assoc, decodeBytes_encodeByte, ih, List.cons_append]

theorem decodeBytes_cons {c : Char} (h : c ≠ '%') (rest : List Char) :
    decodeBytes (c :: rest) = String.utf8EncodeChar c ++ decodeBytes rest := by
  rw [decodeBytes]
  exact fun _ _ _ hsame _ => h hsame

variable {reserved : Char → Bool}

private theorem decodeBytes_encodeChar (hpercent : reserved '%' = true) (c : Char) (rest : List Char) :
    decodeBytes (encodeChar reserved c ++ rest) = String.utf8EncodeChar c ++ decodeBytes rest := by
  rw [encodeChar]
  split
  · exact decodeBytes_encodeBytes _ rest
  · next hplain =>
    refine decodeBytes_cons ?_ rest
    rintro rfl
    exact hplain (by rw [hpercent, Bool.or_true])

private theorem decodeBytes_encode (hpercent : reserved '%' = true) (text : List Char) :
    decodeBytes (encode reserved text) = text.flatMap String.utf8EncodeChar := by
  induction text with
  | nil => rfl
  | cons c text ih =>
    rw [encode, List.flatMap_cons, decodeBytes_encodeChar hpercent, List.flatMap_cons]
    exact congrArg _ ih

/-- Where percent signs are encoded too, the text can be read back. -/
theorem decode?_encode (hpercent : reserved '%' = true) (text : List Char) :
    decode? (encode reserved text) = some text := by
  have hbytes : (⟨(text.flatMap String.utf8EncodeChar).toArray⟩ : ByteArray) = text.utf8Encode := by
    rw [List.utf8Encode]
    ext1
    simp
  rw [decode?, decodeBytes_encode hpercent, hbytes, String.fromUTF8?,
    dif_pos ByteArray.isValidUTF8_utf8Encode, Option.map_some]
  exact congrArg some String.toList_ofList

/-- Texts are told apart after encoding, if percent signs are encoded. -/
theorem encode_injective (hpercent : reserved '%' = true) : Function.Injective (encode reserved) := by
  intro a b hsame
  have hread := congrArg decode? hsame
  rw [decode?_encode hpercent, decode?_encode hpercent] at hread
  exact Option.some.inj hread

private theorem not_mem_encodeByte {c : Char} (hpercent : c ≠ '%') (hdigit : Text.hexDigit? c = none)
    (byte : UInt8) : c ∉ encodeByte byte := by
  have hbound := byte.toNat_lt
  have hother {n : Nat} (hsmall : n < 16) : c ≠ upperDigit n := by
    rintro rfl
    rw [hexDigit?_upperDigit hsmall] at hdigit
    exact nomatch hdigit
  have hhigh : c ≠ upperDigit (byte.toNat / 16) := hother (by omega)
  have hlow : c ≠ upperDigit (byte.toNat % 16) := hother (by omega)
  simp [encodeByte, hpercent, hhigh, hlow]

/-- A character that is encoded where it stands does not stand in the encoded text. -/
theorem not_mem_encode {c : Char} (hpercent : c ≠ '%') (hdigit : Text.hexDigit? c = none)
    {text : List Char} (h : c ∈ text → reserved c = true) : c ∉ encode reserved text := by
  intro hmem
  obtain ⟨d, hin, hmem⟩ := List.mem_flatMap.mp hmem
  rw [encodeChar] at hmem
  split at hmem
  · obtain ⟨byte, -, hmem⟩ := List.mem_flatMap.mp hmem
    exact not_mem_encodeByte hpercent hdigit byte hmem
  · next hplain =>
    obtain rfl := List.mem_singleton.mp hmem
    exact hplain (by rw [h hin, Bool.or_true])

end IndexFeed.Url
