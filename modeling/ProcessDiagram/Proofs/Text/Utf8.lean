import Mathlib.Data.List.Basic
import ProcessDiagram.Text.Utf8

set_option autoImplicit false

namespace ProcessDiagram.Text.Utf8

theorem octets_loop (octets : ByteArray) (position : Nat) (read : List UInt8) :
    ByteArray.toList.loop octets position read =
      read.reverse ++ octets.data.toList.drop position := by
  induction hrest : octets.size - position generalizing position read with
  | zero =>
      have beyond : octets.data.toList.length ≤ position := by
        simp only [Array.length_toList, ByteArray.size_data]
        omega
      rw [ByteArray.toList.loop, if_neg (by omega), List.drop_of_length_le beyond, List.append_nil]
  | succ rest ih =>
      have inside : position < octets.data.toList.length := by
        simp only [Array.length_toList, ByteArray.size_data]
        omega
      have octet : octets.get! position = octets.data.toList[position] := by
        rw [Array.getElem_toList]
        exact getElem!_pos octets.data position (by simpa using inside)
      rw [ByteArray.toList.loop, if_pos (by omega), ih (position + 1) _ (by omega), octet,
        List.drop_eq_getElem_cons inside, List.reverse_cons, List.append_assoc,
        List.singleton_append]

theorem octets_of_text (text : String) :
    text.toUTF8.toList = text.toList.flatMap String.utf8EncodeChar := by
  rw [ByteArray.toList, octets_loop, List.reverse_nil, List.nil_append, List.drop_zero,
    String.toUTF8, ← String.utf8Encode_toList, List.utf8Encode, List.data_toByteArray,
    List.toList_toArray]

def continuing (code : Nat) : UInt8 :=
  UInt8.ofNat (code % 64 + 128)

theorem continuing_value (code : Nat) : (continuing code).toNat = code % 64 + 128 := by
  simp only [continuing, UInt8.toNat_ofNat']
  omega

theorem follow_next (count low high good code next : Nat) (rest : List UInt8)
    (above : low ≤ next % 64 + 128) (below : next % 64 + 128 ≤ high) :
    follow (count + 1) low high good code (continuing next :: rest) =
      follow count 0x80 0xbf (good + 1) (code * 64 + next % 64) rest := by
  have low_bits : (next % 64 + 128) % 64 = next % 64 := by omega
  rw [follow, continuing_value, if_pos (by simp [above, below]), low_bits]

theorem follow_later (count good code next : Nat) (rest : List UInt8) :
    follow (count + 1) 0x80 0xbf good code (continuing next :: rest) =
      follow count 0x80 0xbf (good + 1) (code * 64 + next % 64) rest :=
  follow_next count 0x80 0xbf good code next rest (by omega) (by omega)

theorem follow_end (low high good code : Nat) (rest : List UInt8) :
    follow 0 low high good code rest = .ok (code, rest) := rfl

theorem lead_two (code : Nat) (above : 0x80 ≤ code) (below : code ≤ 0x7ff) :
    lead? (code / 64 + 0xc0) = some (1, 0x80, 0xbf) := by
  rw [lead?, if_neg (by omega), if_pos (by omega)]

-- The second octet is kept away from what two octets could say, and from the surrogates.
theorem lead_three (code : Nat) (above : 0x800 ≤ code) (below : code ≤ 0xffff)
    (scalar : code < 0xd800 ∨ 0xdfff < code) :
    ∃ low high, lead? (code / 4096 + 0xe0) = some (2, low, high) ∧
      low ≤ code / 64 % 64 + 128 ∧ code / 64 % 64 + 128 ≤ high := by
  by_cases first : code / 4096 + 0xe0 = 0xe0
  · refine ⟨0xa0, 0xbf, ?_, by omega, by omega⟩
    rw [lead?, if_neg (by omega), if_neg (by omega), if_pos first]
  · by_cases before : code / 4096 + 0xe0 = 0xed
    · refine ⟨0x80, 0x9f, ?_, by omega, by omega⟩
      rw [lead?, if_neg (by omega), if_neg (by omega), if_neg first, if_pos before]
    · refine ⟨0x80, 0xbf, ?_, by omega, by omega⟩
      rw [lead?, if_neg (by omega), if_neg (by omega), if_neg first, if_neg before,
        if_pos (by omega)]

theorem lead_four (code : Nat) (above : 0x10000 ≤ code) (below : code ≤ 0x10ffff) :
    ∃ low high, lead? (code / 262144 + 0xf0) = some (3, low, high) ∧
      low ≤ code / 4096 % 64 + 128 ∧ code / 4096 % 64 + 128 ≤ high := by
  by_cases first : code / 262144 + 0xf0 = 0xf0
  · refine ⟨0x90, 0xbf, ?_, by omega, by omega⟩
    rw [lead?, if_neg (by omega), if_neg (by omega), if_neg (by omega), if_neg (by omega),
      if_neg (by omega), if_pos first]
  · by_cases last : code / 262144 + 0xf0 = 0xf4
    · refine ⟨0x80, 0x8f, ?_, by omega, by omega⟩
      rw [lead?, if_neg (by omega), if_neg (by omega), if_neg (by omega), if_neg (by omega),
        if_neg (by omega), if_neg first, if_neg (by omega), if_pos last]
    · refine ⟨0x80, 0xbf, ?_, by omega, by omega⟩
      rw [lead?, if_neg (by omega), if_neg (by omega), if_neg (by omega), if_neg (by omega),
        if_neg (by omega), if_neg first, if_pos (by omega)]

theorem decode_single (fuel position code : Nat) (rest : List UInt8) (read : List Char)
    (small : code < 0x80) :
    decodeFrom (fuel + 1) position (UInt8.ofNat code :: rest) read =
      decodeFrom fuel (position + 1) rest (Char.ofNat code :: read) := by
  have octet : (UInt8.ofNat code).toNat = code :=
    UInt8.toNat_ofNat_of_lt' (Nat.lt_trans small (by decide))
  rw [decodeFrom, octet, if_pos small]

theorem decode_several (fuel position first count low high code : Nat)
    (following rest : List UInt8) (read : List Char) (large : 0x80 ≤ first) (octet : first < 256)
    (lead : lead? first = some (count, low, high))
    (follows : follow count low high 0 (first % Nat.pow 2 (6 - count)) (following ++ rest) =
      .ok (code, rest)) :
    decodeFrom (fuel + 1) position (UInt8.ofNat first :: following ++ rest) read =
      decodeFrom fuel (position + count + 1) rest (Char.ofNat code :: read) := by
  have value : (UInt8.ofNat first).toNat = first := UInt8.toNat_ofNat_of_lt' octet
  rw [List.cons_append, decodeFrom, value, if_neg (by omega), lead]
  simp only [follows]

theorem decode_two (fuel position code : Nat) (rest : List UInt8) (read : List Char)
    (above : 0x80 ≤ code) (below : code ≤ 0x7ff) :
    decodeFrom (fuel + 1) position
      (UInt8.ofNat (code / 64 % 32 + 192) :: [continuing code] ++ rest) read =
      decodeFrom fuel (position + 1 + 1) rest (Char.ofNat code :: read) := by
  have first : code / 64 % 32 + 192 = code / 64 + 0xc0 := by omega
  have bits : Nat.pow 2 (6 - 1) = 32 := rfl
  have joined : (code / 64 + 0xc0) % 32 * 64 + code % 64 = code := by omega
  rw [first]
  refine decode_several fuel position _ 1 _ _ code _ rest read (by omega) (by omega)
    (lead_two code above below) ?_
  rw [bits, List.singleton_append, follow_later, follow_end, joined]

theorem decode_three (fuel position code : Nat) (rest : List UInt8) (read : List Char)
    (above : 0x800 ≤ code) (below : code ≤ 0xffff) (scalar : code < 0xd800 ∨ 0xdfff < code) :
    decodeFrom (fuel + 1) position
      (UInt8.ofNat (code / 4096 % 16 + 224) :: [continuing (code / 64), continuing code] ++ rest)
      read =
      decodeFrom fuel (position + 2 + 1) rest (Char.ofNat code :: read) := by
  have first : code / 4096 % 16 + 224 = code / 4096 + 0xe0 := by omega
  have bits : Nat.pow 2 (6 - 2) = 16 := rfl
  have joined : ((code / 4096 + 0xe0) % 16 * 64 + code / 64 % 64) * 64 + code % 64 = code := by
    omega
  obtain ⟨low, high, lead, least, greatest⟩ := lead_three code above below scalar
  rw [first]
  refine decode_several fuel position _ 2 low high code _ rest read (by omega) (by omega) lead ?_
  rw [bits, List.cons_append, follow_next _ _ _ _ _ _ _ least greatest, List.singleton_append,
    follow_later, follow_end, joined]

theorem decode_four (fuel position code : Nat) (rest : List UInt8) (read : List Char)
    (above : 0x10000 ≤ code) (below : code ≤ 0x10ffff) :
    decodeFrom (fuel + 1) position
      (UInt8.ofNat (code / 262144 % 8 + 240) ::
        [continuing (code / 4096), continuing (code / 64), continuing code] ++ rest) read =
      decodeFrom fuel (position + 3 + 1) rest (Char.ofNat code :: read) := by
  have first : code / 262144 % 8 + 240 = code / 262144 + 0xf0 := by omega
  have bits : Nat.pow 2 (6 - 3) = 8 := rfl
  have joined : (((code / 262144 + 0xf0) % 8 * 64 + code / 4096 % 64) * 64 + code / 64 % 64) * 64 +
      code % 64 = code := by omega
  obtain ⟨low, high, lead, least, greatest⟩ := lead_four code above below
  rw [first]
  refine decode_several fuel position _ 3 low high code _ rest read (by omega) (by omega) lead ?_
  rw [bits, List.cons_append, follow_next _ _ _ _ _ _ _ least greatest, List.cons_append,
    follow_later, List.singleton_append, follow_later, follow_end, joined]

theorem scalar_value (c : Char) :
    c.toNat < 0xd800 ∨ 0xdfff < c.toNat ∧ c.toNat ≤ 0x10ffff := by
  rcases c.valid with low | high
  · exact .inl low
  · exact .inr ⟨high.1, Nat.le_of_lt_succ high.2⟩

theorem decode_char (c : Char) (fuel position : Nat) (rest : List UInt8) (read : List Char) :
    ∃ next, decodeFrom (fuel + 1) position (String.utf8EncodeChar c ++ rest) read =
      decodeFrom fuel next rest (c :: read) := by
  have scalar := scalar_value c
  have same : Char.ofNat c.toNat = c := Char.ofNat_toNat c
  have value : (Char.ofNat c.toNat).val.toNat = c.toNat := by rw [same]; rfl
  rw [String.utf8EncodeChar, ← same, value]
  generalize c.toNat = code at scalar
  split_ifs with one two three
  · exact ⟨_, decode_single fuel position code rest read (by omega)⟩
  · exact ⟨_, decode_two fuel position code rest read (by omega) two⟩
  · exact ⟨_, decode_three fuel position code rest read (by omega) three (by omega)⟩
  · exact ⟨_, decode_four fuel position code rest read (by omega) (by omega)⟩

theorem decode_chars (chars : List Char) (fuel position : Nat) (read : List Char)
    (enough : chars.length ≤ fuel) :
    decodeFrom fuel position (chars.flatMap String.utf8EncodeChar) read =
      .ok (read.reverse ++ chars) := by
  induction chars generalizing fuel position read with
  | nil => cases fuel <;> simp [decodeFrom]
  | cons c rest ih =>
      cases fuel with
      | zero => cases enough
      | succ fuel =>
          obtain ⟨next, step⟩ :=
            decode_char c fuel position (rest.flatMap String.utf8EncodeChar) read
          rw [List.flatMap_cons, step, ih fuel next (c :: read) (Nat.le_of_succ_le_succ enough),
            List.reverse_cons, List.append_assoc, List.singleton_append]

theorem enough_octets (chars : List Char) :
    chars.length ≤ (chars.flatMap String.utf8EncodeChar).length := by
  induction chars with
  | nil => exact Nat.le_refl 0
  | cons c rest ih =>
      have some : 0 < (String.utf8EncodeChar c).length := by
        rw [String.length_utf8EncodeChar]
        exact c.utf8Size_pos
      rw [List.flatMap_cons, List.length_cons, List.length_append]
      omega

theorem decode_text (text : String) : decode text.toUTF8.toList = .ok text.toList := by
  rw [octets_of_text, decode, decode_chars _ _ 0 [] (enough_octets _), List.reverse_nil,
    List.nil_append]

end ProcessDiagram.Text.Utf8
