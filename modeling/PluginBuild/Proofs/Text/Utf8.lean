import PluginBuild.Text.Utf8

/-!
Reading the UTF-8 form of a text gives the text back. The form of each character is read as one
piece, whatever bytes come behind it.
-/

namespace PluginBuild.Text

theorem byte_toNat {n : Nat} (small : n < 256) : (UInt8.ofNat n).toNat = n := by
  simp only [UInt8.toNat_ofNat']
  omega

theorem char_valid (c : Char) : c.toNat < 0xD800 ∨ 0xDFFF < c.toNat ∧ c.toNat < 0x110000 :=
  c.valid

theorem isContinuation_tail (n : Nat) : isContinuation (UInt8.ofNat (128 + n % 64)) = true := by
  have small : 128 + n % 64 < 256 := by omega
  simp only [isContinuation, byte_toNat small, Bool.and_eq_true, decide_eq_true_eq]
  omega

theorem mayFollow_tail {first n : Nat} (small : first < 256)
    (three : first = 0xE0 → 0x20 ≤ n % 64) (surrogate : first = 0xED → n % 64 < 0x20)
    (four : first = 0xF0 → 0x10 ≤ n % 64) (last : first = 0xF4 → n % 64 < 0x10) :
    mayFollow (UInt8.ofNat first) (UInt8.ofNat (128 + n % 64)) = true := by
  have second : 128 + n % 64 < 256 := by omega
  simp only [mayFollow, isContinuation_tail, byte_toNat small, byte_toNat second, Bool.true_and,
    Bool.and_eq_true, Bool.or_eq_true, bne_iff_ne, decide_eq_true_eq]
  omega

theorem utf8Piece_one {c : Char} (short : c.toNat < 0x80) (rest : Bytes) :
    utf8Piece (UInt8.ofNat c.toNat) rest = .char c 0 := by
  have first := byte_toNat (n := c.toNat) (by omega)
  simp only [utf8Piece, first, short, if_true, Char.ofNat_toNat]

theorem utf8Piece_two {c : Char} (long : 0x80 ≤ c.toNat) (short : c.toNat < 0x800) (rest : Bytes) :
    utf8Piece (UInt8.ofNat (192 + c.toNat / 64)) (UInt8.ofNat (128 + c.toNat % 64) :: rest) =
      .char c 1 := by
  have first := byte_toNat (n := 192 + c.toNat / 64) (by omega)
  have second := byte_toNat (n := 128 + c.toNat % 64) (by omega)
  have follows : mayFollow (UInt8.ofNat (192 + c.toNat / 64)) (UInt8.ofNat (128 + c.toNat % 64)) =
      true := mayFollow_tail (by omega) (by omega) (by omega) (by omega) (by omega)
  have whole : (192 + c.toNat / 64 - 0xC0) * 64 + (128 + c.toNat % 64 - 128) = c.toNat := by omega
  unfold utf8Piece
  simp only [first, second, follows, whole, Char.ofNat_toNat]
  rw [if_neg (by omega), if_neg (by simp; omega), if_neg (by simp), if_pos (by omega)]

theorem utf8Piece_three {c : Char} (long : 0x800 ≤ c.toNat) (short : c.toNat < 0x10000)
    (rest : Bytes) : utf8Piece (UInt8.ofNat (224 + c.toNat / 4096))
      (UInt8.ofNat (128 + c.toNat / 64 % 64) :: UInt8.ofNat (128 + c.toNat % 64) :: rest) =
        .char c 2 := by
  have valid := char_valid c
  have first := byte_toNat (n := 224 + c.toNat / 4096) (by omega)
  have second := byte_toNat (n := 128 + c.toNat / 64 % 64) (by omega)
  have third := byte_toNat (n := 128 + c.toNat % 64) (by omega)
  have follows : mayFollow (UInt8.ofNat (224 + c.toNat / 4096))
      (UInt8.ofNat (128 + c.toNat / 64 % 64)) = true :=
    mayFollow_tail (by omega) (by omega) (by omega) (by omega) (by omega)
  have whole : ((224 + c.toNat / 4096 - 0xE0) * 64 + (128 + c.toNat / 64 % 64 - 128)) * 64 +
      (128 + c.toNat % 64 - 128) = c.toNat := by omega
  unfold utf8Piece
  simp only [first, second, third, follows, isContinuation_tail, whole, Char.ofNat_toNat]
  rw [if_neg (by omega), if_neg (by simp; omega), if_neg (by simp), if_neg (by omega),
    if_neg (by simp), if_pos (by omega)]

theorem utf8Piece_four {c : Char} (long : 0x10000 ≤ c.toNat) (rest : Bytes) :
    utf8Piece (UInt8.ofNat (240 + c.toNat / 262144))
      (UInt8.ofNat (128 + c.toNat / 4096 % 64) :: UInt8.ofNat (128 + c.toNat / 64 % 64) ::
        UInt8.ofNat (128 + c.toNat % 64) :: rest) = .char c 3 := by
  have valid := char_valid c
  have first := byte_toNat (n := 240 + c.toNat / 262144) (by omega)
  have second := byte_toNat (n := 128 + c.toNat / 4096 % 64) (by omega)
  have third := byte_toNat (n := 128 + c.toNat / 64 % 64) (by omega)
  have fourth := byte_toNat (n := 128 + c.toNat % 64) (by omega)
  have follows : mayFollow (UInt8.ofNat (240 + c.toNat / 262144))
      (UInt8.ofNat (128 + c.toNat / 4096 % 64)) = true :=
    mayFollow_tail (by omega) (by omega) (by omega) (by omega) (by omega)
  have whole : (((240 + c.toNat / 262144 - 0xF0) * 64 + (128 + c.toNat / 4096 % 64 - 128)) * 64 +
      (128 + c.toNat / 64 % 64 - 128)) * 64 + (128 + c.toNat % 64 - 128) = c.toNat := by omega
  unfold utf8Piece
  simp only [first, second, third, fourth, follows, isContinuation_tail, whole, Char.ofNat_toNat]
  rw [if_neg (by omega), if_neg (by simp; omega), if_neg (by simp), if_neg (by omega),
    if_neg (by simp), if_neg (by omega), if_neg (by simp)]

theorem utf8Piece_encodeChar (c : Char) (rest : Bytes) : ∃ first more,
    encodeChar c = first :: more ∧ utf8Piece first (more ++ rest) = .char c more.length := by
  unfold encodeChar
  simp only [Nat.div_one]
  by_cases one : c.toNat < 0x80
  · rw [if_pos one]
    exact ⟨_, [], rfl, utf8Piece_one one rest⟩
  rw [if_neg one]
  by_cases two : c.toNat < 0x800
  · rw [if_pos two]
    exact ⟨_, [_], rfl, utf8Piece_two (Nat.le_of_not_lt one) two rest⟩
  rw [if_neg two]
  by_cases three : c.toNat < 0x10000
  · rw [if_pos three]
    exact ⟨_, [_, _], rfl, utf8Piece_three (Nat.le_of_not_lt two) three rest⟩
  rw [if_neg three]
  exact ⟨_, [_, _, _], rfl, utf8Piece_four (Nat.le_of_not_lt three) rest⟩

theorem utf8Pieces_encode (text : List Char) : utf8Pieces (text.flatMap encodeChar) =
    text.map fun c => .char c ((encodeChar c).length - 1) := by
  induction text with
  | nil => simp [utf8Pieces]
  | cons c rest ih =>
    obtain ⟨first, more, form, piece⟩ := utf8Piece_encodeChar c (rest.flatMap encodeChar)
    rw [List.flatMap_cons, form, List.cons_append, utf8Pieces, piece, List.map_cons, form]
    dsimp only [Utf8Piece.more]
    rw [List.drop_left, ih]
    rfl

theorem charsOfPieces_of_chars (bytes : Bytes) (start : Nat) (text : List Char) (more : Char → Nat) :
    charsOfPieces bytes start (text.map fun c => .char c (more c)) = .ok text := by
  induction text generalizing start with
  | nil => rfl
  | cons c rest ih =>
    rw [List.map_cons, charsOfPieces, ih]
    rfl

theorem decodeUtf8_encodeUtf8 (s : String) : decodeUtf8 (encodeUtf8 s) = .ok s := by
  rw [decodeUtf8, encodeUtf8, utf8Pieces_encode, charsOfPieces_of_chars]
  simp [Except.map]

end PluginBuild.Text
