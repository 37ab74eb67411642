import PuzzlePrep.Fetch.Url

namespace PuzzlePrep.Url

def digitValue (c : Char) : Nat := if c.toNat < 58 then c.toNat - 48 else c.toNat - 55

def bytesOf : List Char → List UInt8
  | '%' :: high :: low :: rest => UInt8.ofNat (16 * digitValue high + digitValue low) :: bytesOf rest
  | c :: rest => String.utf8EncodeChar c ++ bytesOf rest
  | [] => []

theorem digitValue_hexDigit {n : Nat} (digit : n < 16) : digitValue (hexDigit n) = n := by
  have table : ∀ m : Fin 16, digitValue (hexDigit m) = m := by decide
  exact table ⟨n, digit⟩

theorem bytesOf_percent (b : UInt8) (rest : List Char) :
    bytesOf (percent b ++ rest) = b :: bytesOf rest := by
  have size : b.toNat < 256 := b.toNat_lt
  have high : digitValue (hexDigit (b.toNat / 16)) = b.toNat / 16 := digitValue_hexDigit (by omega)
  have low : digitValue (hexDigit (b.toNat % 16)) = b.toNat % 16 := digitValue_hexDigit (by omega)
  have whole : 16 * (b.toNat / 16) + b.toNat % 16 = b.toNat := by omega
  simp only [percent, List.cons_append, List.nil_append, bytesOf, high, low, whole, UInt8.ofNat_toNat]

theorem bytesOf_percents (bytes : List UInt8) (rest : List Char) :
    bytesOf (bytes.flatMap percent ++ rest) = bytes ++ bytesOf rest := by
  induction bytes with
  | nil => rfl
  | cons b bytes ih => rw [List.flatMap_cons, List.append_assoc, bytesOf_percent, ih, List.cons_append]

theorem bytesOf_cons {c : Char} (unsigned : c ≠ '%') (rest : List Char) :
    bytesOf (c :: rest) = String.utf8EncodeChar c ++ bytesOf rest := by
  rw [bytesOf]
  intro high low rest' same
  exact absurd same unsigned

/-- Reading a byte array from a position on goes through the list of its bytes from there. -/
theorem toList_loop (bytes : ByteArray) (i : Nat) (done : List UInt8) :
    ByteArray.toList.loop bytes i done = done.reverse ++ bytes.data.toList.drop i := by
  fun_induction ByteArray.toList.loop bytes i done with
  | case1 i done inside ih =>
    have bound : i < bytes.data.toList.length := inside
    have read : bytes.get! i = bytes.data.toList[i] := getElem!_pos bytes.data i inside
    rw [ih, read, List.drop_eq_getElem_cons bound, List.reverse_cons, List.append_assoc,
      List.singleton_append]
  | case2 i done outside =>
    have beyond : bytes.data.toList.length ≤ i := Nat.le_of_not_lt outside
    rw [List.drop_eq_nil_of_le beyond, List.append_nil]

theorem toUTF8_singleton (c : Char) :
    (String.singleton c).toUTF8.toList = String.utf8EncodeChar c := by
  have bytes : (String.singleton c).toUTF8 = (String.utf8EncodeChar c).toByteArray := by
    rw [String.toUTF8, String.toByteArray_singleton, List.utf8Encode_singleton]
  rw [bytes, ByteArray.toList, toList_loop, List.toList_data_toByteArray, List.reverse_nil,
    List.nil_append, List.drop_zero]

/-- Escapes lose nothing of a text that has no percent sign of its own. -/
theorem bytesOf_escape (reserved : List Char) {cs : List Char} (unsigned : '%' ∉ cs) :
    bytesOf (escape reserved cs) = cs.flatMap String.utf8EncodeChar := by
  induction cs with
  | nil => rfl
  | cons c cs ih =>
    rw [List.mem_cons, not_or] at unsigned
    rw [escape, List.flatMap_cons, List.flatMap_cons, ← ih unsigned.2]
    split
    · rw [toUTF8_singleton, bytesOf_percents, escape]
    · exact bytesOf_cons (Ne.symm unsigned.1) _

theorem slash_not_mem_percent (b : UInt8) : '/' ∉ percent b := by
  have size : b.toNat < 256 := b.toNat_lt
  have digit (n : Nat) (small : n < 16) : '/' ≠ hexDigit n := by
    have table : ∀ m : Fin 16, '/' ≠ hexDigit m := by decide
    exact table ⟨n, small⟩
  simp [percent, digit (b.toNat / 16) (by omega), digit (b.toNat % 16) (by omega)]

theorem slash_not_mem_escape (reserved : List Char) {cs : List Char} (segment : '/' ∉ cs) :
    '/' ∉ escape reserved cs := by
  rw [escape, List.mem_flatMap]
  rintro ⟨c, member, inside⟩
  split at inside
  · obtain ⟨b, -, digit⟩ := List.mem_flatMap.mp inside
    exact slash_not_mem_percent b digit
  · exact segment (List.mem_singleton.mp inside ▸ member)

theorem utf8_injective {cs ds : List Char}
    (same : cs.flatMap String.utf8EncodeChar = ds.flatMap String.utf8EncodeChar) : cs = ds := by
  have bytes : (String.ofList cs).toByteArray = (String.ofList ds).toByteArray := by
    rw [String.toByteArray_ofList, String.toByteArray_ofList, List.utf8Encode, List.utf8Encode, same]
  exact String.ofList_injective (String.toByteArray_inj.mp bytes)

theorem escape_injective {reserved cs ds : List Char} (front : '%' ∉ cs) (back : '%' ∉ ds)
    (same : escape reserved cs = escape reserved ds) : cs = ds := by
  apply utf8_injective
  rw [← bytesOf_escape reserved front, ← bytesOf_escape reserved back, same]

end PuzzlePrep.Url
