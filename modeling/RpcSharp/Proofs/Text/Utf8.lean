import RpcSharp.Text.Basic

/-! Decoding gives back the characters that a text's bytes encode. Bytes that follow do not change what
stands in front of a character that has been found. -/

namespace RpcSharp.Text

/-- The bytes of a text. -/
def encode (s : String) : List UInt8 := s.toUTF8.data.toList

/- The bytes are taken out one by one, the last first. -/
theorem toList_loop (bytes : ByteArray) (i : Nat) (taken : List UInt8) :
    ByteArray.toList.loop bytes i taken = taken.reverse ++ bytes.data.toList.drop i := by
  induction i, taken using ByteArray.toList.loop.induct bytes with
  | case1 i taken inside ih =>
    have bound : i < bytes.data.toList.length := inside
    have byte : bytes.get! i = bytes.data.toList.get ⟨i, bound⟩ := getElem!_pos bytes.data i inside
    rw [ByteArray.toList.loop, if_pos inside, ih, byte, List.reverse_cons, List.append_assoc,
      List.drop_eq_getElem_cons bound]
    rfl
  | case2 i taken outside =>
    have past : bytes.data.toList.length ≤ i := Nat.not_lt.mp outside
    rw [ByteArray.toList.loop, if_neg outside, List.drop_eq_nil_of_le past, List.append_nil]

theorem toUTF8_toList (s : String) : s.toUTF8.toList = encode s := by
  rw [ByteArray.toList, toList_loop]
  simp [encode]

theorem encode_eq_flatMap (s : String) : encode s = s.toList.flatMap String.utf8EncodeChar := by
  have chars : s.toUTF8 = s.toList.utf8Encode := by
    rw [← String.toByteArray_ofList, String.ofList_toList]
    rfl
  rw [encode, chars, List.utf8Encode, List.toList_data_toByteArray]

/- Only the bytes of the first character matter, and four are enough for any. -/
theorem leadingChar_encoded (c : Char) (rest : List UInt8) :
    leadingChar (String.utf8EncodeChar c ++ rest) = some c := by
  have short : (String.utf8EncodeChar c).length ≤ 4 := by
    rw [String.length_utf8EncodeChar]
    exact c.utf8Size_le_four
  rw [leadingChar, List.take_append, List.take_of_length_le short, List.toByteArray_append]
  exact ByteArray.utf8DecodeChar?_utf8EncodeChar_append

theorem decodeFrom_append (skipped rest : List UInt8) :
    decodeFrom skipped.length (skipped ++ rest) = decodeFrom 0 rest := by
  induction skipped with
  | nil => rfl
  | cons b skipped ih => exact ih

theorem decode_encoded (c : Char) (rest : List UInt8) :
    decode (String.utf8EncodeChar c ++ rest) = some c :: decode rest := by
  have lead := leadingChar_encoded c rest
  have size := String.length_utf8EncodeChar c
  have positive := c.utf8Size_pos
  cases encoded : String.utf8EncodeChar c with
  | nil =>
    rw [encoded, List.length_nil] at size
    omega
  | cons b others =>
    have left : c.utf8Size - 1 = others.length := by
      rw [encoded, List.length_cons] at size
      omega
    rw [encoded, List.cons_append] at lead
    rw [List.cons_append, decode, decodeFrom, lead]
    simp only [left, decodeFrom_append, decode]

theorem decode_encode (s : String) : decode (encode s) = glyphs s := by
  rw [encode_eq_flatMap, glyphs]
  induction s.toList with
  | nil => rfl
  | cons c rest ih => rw [List.flatMap_cons, decode_encoded, ih, List.map_cons]

/-! Bytes with more behind them -/

theorem leadingChar_eq_some_iff {bytes : List UInt8} {c : Char} :
    leadingChar bytes = some c ↔ String.utf8EncodeChar c <+: bytes := by
  constructor
  · intro lead
    obtain ⟨rest, split⟩ := ByteArray.exists_of_utf8DecodeChar?_eq_some lead
    have start : String.utf8EncodeChar c <+: bytes.take 4 :=
      ⟨rest.data.toList, by simpa using (congrArg (·.data.toList) split).symm⟩
    exact start.trans (List.take_prefix 4 bytes)
  · rintro ⟨rest, rfl⟩
    exact leadingChar_encoded c rest

theorem leadingChar_append {bytes : List UInt8} {c : Char} (lead : leadingChar bytes = some c)
    (more : List UInt8) : leadingChar (bytes ++ more) = some c := by
  have start := leadingChar_eq_some_iff.mp lead
  exact leadingChar_eq_some_iff.mpr (start.trans (List.prefix_append bytes more))

/- Of the bytes of a character only the first can start one. -/
theorem utf8EncodeChar_bytes {c : Char} {b : UInt8} {others : List UInt8}
    (encoded : String.utf8EncodeChar c = b :: others) :
    b.IsUTF8FirstByte ∧ ∀ other ∈ others, ¬ other.IsUTF8FirstByte := by
  have start (i : Nat) (bound : i < (b :: others).length) :
      (b :: others)[i].IsUTF8FirstByte ↔ i = 0 := by
    have known := @UInt8.isUTF8FirstByte_getElem_utf8EncodeChar c i (encoded ▸ bound)
    simpa only [encoded] using known
  refine ⟨(start 0 (by simp)).mpr rfl, fun other inside first => ?_⟩
  obtain ⟨i, bound, rfl⟩ := List.mem_iff_getElem.mp inside
  have zero := (start (i + 1) (by simpa using bound)).mp first
  contradiction

theorem firstByte_of_leadingChar {b : UInt8} {rest : List UInt8} {c : Char}
    (lead : leadingChar (b :: rest) = some c) : b.IsUTF8FirstByte := by
  have start := leadingChar_eq_some_iff.mp lead
  cases encoded : String.utf8EncodeChar c with
  | nil => exact absurd encoded String.utf8EncodeChar_ne_nil
  | cons first others =>
    rw [encoded, List.cons_prefix_cons] at start
    exact start.1 ▸ (utf8EncodeChar_bytes encoded).1

theorem char_not_mem_decodeFrom {bytes : List UInt8} (inner : ∀ b ∈ bytes, ¬ b.IsUTF8FirstByte)
    (skip : Nat) (c : Char) : some c ∉ decodeFrom skip bytes := by
  induction bytes generalizing skip with
  | nil => simp [decodeFrom]
  | cons b rest ih =>
    obtain ⟨here, later⟩ := List.forall_mem_cons.mp inner
    cases skip with
    | succ skip => exact ih later skip
    | zero =>
      have none : leadingChar (b :: rest) = none := by
        cases lead : leadingChar (b :: rest) with
        | none => rfl
        | some d => exact absurd (firstByte_of_leadingChar lead) here
      simpa [decodeFrom, none] using ih later 0

/- More bytes complete a character only if all that stands behind its first byte is part of it, and
then no other character was found there. -/
theorem leadingChar_append_of_char {b : UInt8} {bytes : List UInt8} {c : Char}
    (none : leadingChar (b :: bytes) = none) (behind : some c ∈ decodeFrom 0 bytes)
    (more : List UInt8) : leadingChar (b :: bytes ++ more) = Option.none := by
  cases longer : leadingChar (b :: bytes ++ more) with
  | none => rfl
  | some d =>
    have start := leadingChar_eq_some_iff.mp longer
    rcases List.prefix_or_prefix_of_prefix start (List.prefix_append (b :: bytes) more) with
      short | ⟨missing, encoded⟩
    · rw [leadingChar_eq_some_iff.mpr short] at none
      contradiction
    · have inner := (utf8EncodeChar_bytes encoded.symm).2
      have part : ∀ x ∈ bytes, ¬ x.IsUTF8FirstByte :=
        fun x inside => inner x (List.mem_append_left _ inside)
      exact absurd behind (char_not_mem_decodeFrom part 0 c)

theorem decodeFrom_extend {skip : Nat} {bytes : List UInt8} {front rest : List Glyph} {c : Char}
    (decoded : decodeFrom skip bytes = front ++ some c :: rest) (more : List UInt8) :
    ∃ rest', decodeFrom skip (bytes ++ more) = front ++ some c :: rest' := by
  induction bytes generalizing skip front with
  | nil => simp [decodeFrom] at decoded
  | cons b bytes ih =>
    cases skip with
    | succ skip => exact ih decoded
    | zero =>
      cases lead : leadingChar (b :: bytes) with
      | some d =>
        have same : leadingChar (b :: (bytes ++ more)) = some d := leadingChar_append lead more
        simp only [decodeFrom, lead] at decoded
        simp only [List.cons_append, decodeFrom, same]
        cases front with
        | nil =>
          cases (List.cons.inj decoded).1
          exact ⟨_, rfl⟩
        | cons g front =>
          obtain ⟨rfl, later⟩ := List.cons.inj decoded
          obtain ⟨rest', found⟩ := ih later
          exact ⟨rest', congrArg (some d :: ·) found⟩
      | none =>
        simp only [decodeFrom, lead] at decoded
        cases front with
        | nil => simp at decoded
        | cons g front =>
          obtain ⟨rfl, later⟩ := List.cons.inj decoded
          have behind : some c ∈ decodeFrom 0 bytes := by simp [later]
          have unread : leadingChar (b :: (bytes ++ more)) = none :=
            leadingChar_append_of_char lead behind more
          obtain ⟨rest', found⟩ := ih later
          exact ⟨rest', by simp [decodeFrom, unread, found]⟩

/-- Up to a character, the glyphs of bytes are also those of more bytes. -/
theorem decode_extend {bytes : List UInt8} {front rest : List Glyph} {c : Char}
    (decoded : decode bytes = front ++ some c :: rest) (more : List UInt8) :
    ∃ rest', decode (bytes ++ more) = front ++ some c :: rest' :=
  decodeFrom_extend decoded more

end RpcSharp.Text
