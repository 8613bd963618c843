/-
Text from its bytes. Every text is read back from its own bytes
(`decode?_encode`), and nothing in it is replaced (`decodeLossy_encode`).

# One character

The first byte of a character says how many are owed and which range the
second one lies in; these ranges are wide enough for every character that is
no surrogate (`first_two`, `first_three`, `first_four`). From there on each
byte brings six more bits of the character's value (`scan_more`, `scan_last`),
and the reader asks nothing of a byte but its range. So a character is read
from its bytes, whatever comes behind them (`scan_char`), with one case for
each number of bytes.

# A text

As the reader owes nothing behind a character, a text is read character by
character (`scan_encode`), and texts are told apart by their bytes
(`encode_injective`).
-/
import SerialEndpoint.Text.Utf8

namespace SerialEndpoint.Utf8

theorem toNat_byte {n : Nat} (h : n < 256) : (UInt8.ofNat n).toNat = n := by
  rw [UInt8.toNat_ofNat', Nat.mod_eq_of_lt h]

-- ============================================================ characters

section Owed

variable {low high value n : Nat} {byte : UInt8}

/-- A byte in its range brings six bits. -/
theorem scan_more (hlow : low ≤ byte.toNat) (hhigh : byte.toNat ≤ high) (rest : List UInt8) :
    scan (some ⟨n + 2, low, high, value⟩) (byte :: rest)
      = scan (some ⟨n + 1, 0x80, 0xBF, value * 64 + (byte.toNat - 0x80)⟩) rest := by
  rw [scan, step]
  dsimp only
  rw [if_pos ⟨hlow, hhigh⟩, if_neg (by omega)]
  rfl

/-- The last one ends the character. -/
theorem scan_last (hlow : low ≤ byte.toNat) (hhigh : byte.toNat ≤ high) (rest : List UInt8) :
    scan (some ⟨1, low, high, value⟩) (byte :: rest)
      = some (Char.ofNat (value * 64 + (byte.toNat - 0x80))) :: scan none rest := by
  rw [scan, step]
  dsimp only
  rw [if_pos ⟨hlow, hhigh⟩, if_pos (Nat.le_refl 1)]
  rfl

/-- A first byte that owes others leaves the character open. -/
theorem scan_first {owed : Owed} (h : first byte = ⟨[], some owed⟩) (rest : List UInt8) :
    scan none (byte :: rest) = scan (some owed) rest := by
  rw [scan, step, h]
  rfl

end Owed

theorem first_two {v : Nat} (hlow : 0x80 ≤ v) (hhigh : v ≤ 0x7FF) :
    first (UInt8.ofNat (v / 64 % 32 + 192)) = ⟨[], some ⟨1, 0x80, 0xBF, v / 64⟩⟩ := by
  have hvalue : v / 64 % 32 + 192 - 0xC0 = v / 64 := by omega
  unfold first
  rw [toNat_byte (by omega)]
  dsimp only
  rw [if_neg (by omega), if_neg (by omega), if_pos (by omega), hvalue]

/-- The range of the second byte leaves out what has a shorter encoding and
the surrogates. -/
theorem first_three {v : Nat} (hlow : 0x800 ≤ v) (hhigh : v ≤ 0xFFFF)
    (hvalid : v < 0xD800 ∨ 0xDFFF < v) :
    ∃ low high, first (UInt8.ofNat (v / 4096 % 16 + 224)) = ⟨[], some ⟨2, low, high, v / 4096⟩⟩
      ∧ low ≤ v / 64 % 64 + 128 ∧ v / 64 % 64 + 128 ≤ high := by
  have hcode : (UInt8.ofNat (v / 4096 % 16 + 224)).toNat = v / 4096 + 224 := by
    rw [toNat_byte (by omega)]
    omega
  unfold first
  rw [hcode]
  dsimp only
  rw [if_neg (by omega), if_neg (by omega), if_neg (by omega)]
  by_cases hfirst : v / 4096 = 0
  · rw [if_pos (by omega), hfirst]
    exact ⟨_, _, rfl, by omega, by omega⟩
  · rw [if_neg (by omega)]
    by_cases hbelow : v / 4096 = 13
    · rw [if_pos (by omega), hbelow]
      exact ⟨_, _, rfl, by omega, by omega⟩
    · rw [if_neg (by omega), if_pos (by omega), Nat.add_sub_cancel]
      exact ⟨_, _, rfl, by omega, by omega⟩

/-- The range of the second byte leaves out what has a shorter encoding and
what is beyond the last character. -/
theorem first_four {v : Nat} (hlow : 0x10000 ≤ v) (hhigh : v < 0x110000) :
    ∃ low high, first (UInt8.ofNat (v / 262144 % 8 + 240))
        = ⟨[], some ⟨3, low, high, v / 262144⟩⟩
      ∧ low ≤ v / 4096 % 64 + 128 ∧ v / 4096 % 64 + 128 ≤ high := by
  have hcode : (UInt8.ofNat (v / 262144 % 8 + 240)).toNat = v / 262144 + 240 := by
    rw [toNat_byte (by omega)]
    omega
  unfold first
  rw [hcode]
  dsimp only
  rw [if_neg (by omega), if_neg (by omega), if_neg (by omega), if_neg (by omega),
    if_neg (by omega), if_neg (by omega)]
  by_cases hfirst : v / 262144 = 0
  · rw [if_pos (by omega), hfirst]
    exact ⟨_, _, rfl, by omega, by omega⟩
  · rw [if_neg (by omega)]
    by_cases hlast : v / 262144 = 4
    · rw [if_neg (by omega), if_pos (by omega), hlast]
      exact ⟨_, _, rfl, by omega, by omega⟩
    · rw [if_pos (by omega), Nat.add_sub_cancel]
      exact ⟨_, _, rfl, by omega, by omega⟩

/-- A character is read from its bytes, whatever comes behind them. -/
theorem scan_char (c : Char) (rest : List UInt8) :
    scan none (String.utf8EncodeChar c ++ rest) = some c :: scan none rest := by
  have hvalid : c.val.toNat < 0xD800 ∨ 0xDFFF < c.val.toNat ∧ c.val.toNat < 0x110000 := c.valid
  have hchar : Char.ofNat c.val.toNat = c := Char.ofNat_toNat c
  rw [String.utf8EncodeChar.eq_1]
  generalize c.val.toNat = v at hvalid hchar ⊢
  have hbits (n : Nat) : (UInt8.ofNat (n % 64 + 128)).toNat = n % 64 + 128 :=
    toNat_byte (by omega)
  by_cases hone : v ≤ 127
  · have hfirst : first (UInt8.ofNat v) = ⟨[some c], none⟩ := by
      unfold first
      rw [toNat_byte (by omega)]
      dsimp only
      rw [if_pos (by omega), hchar]
    rw [if_pos hone, List.singleton_append, scan, step, hfirst]
    rfl
  rw [if_neg hone]
  by_cases htwo : v ≤ 2047
  · have hvalue : v / 64 * 64 + (v % 64 + 128 - 0x80) = v := by omega
    rw [if_pos htwo, List.cons_append, List.singleton_append,
      scan_first (first_two (by omega) htwo),
      scan_last (by rw [hbits]; omega) (by rw [hbits]; omega), hbits, hvalue, hchar]
  rw [if_neg htwo]
  by_cases hthree : v ≤ 65535
  · obtain ⟨low, high, hfirst, hlow, hhigh⟩ := first_three (by omega) hthree (by omega)
    have hvalue : (v / 4096 * 64 + (v / 64 % 64 + 128 - 0x80)) * 64 + (v % 64 + 128 - 0x80)
        = v := by omega
    rw [if_pos hthree, List.cons_append, List.cons_append, List.singleton_append,
      scan_first hfirst, scan_more (by rwa [hbits]) (by rwa [hbits]),
      scan_last (by rw [hbits]; omega) (by rw [hbits]; omega), hbits, hbits, hvalue, hchar]
  rw [if_neg hthree]
  obtain ⟨low, high, hfirst, hlow, hhigh⟩ := first_four (v := v) (by omega) (by omega)
  have hvalue : ((v / 262144 * 64 + (v / 4096 % 64 + 128 - 0x80)) * 64
      + (v / 64 % 64 + 128 - 0x80)) * 64 + (v % 64 + 128 - 0x80) = v := by omega
  rw [List.cons_append, List.cons_append, List.cons_append, List.singleton_append,
    scan_first hfirst, scan_more (by rwa [hbits]) (by rwa [hbits]),
    scan_more (by rw [hbits]; omega) (by rw [hbits]; omega),
    scan_last (by rw [hbits]; omega) (by rw [hbits]; omega), hbits, hbits, hbits, hvalue, hchar]

-- ================================================================ texts

/-- Characters of ASCII have one byte each, their code. -/
theorem encode_ascii {text : String} (h : ∀ c ∈ text.toList, c.toNat < 128) :
    encode text = text.toList.map fun c => UInt8.ofNat c.toNat := by
  have hone : text.toList.map String.utf8EncodeChar
      = text.toList.map fun c => [UInt8.ofNat c.toNat] := by
    refine List.map_congr_left fun c hc => ?_
    have hlt := h c hc
    change c.val.toNat < 128 at hlt
    unfold String.utf8EncodeChar
    rw [if_pos (by omega)]
    rfl
  unfold encode
  rw [List.flatMap_def, hone, ← List.flatMap_def, ← List.map_eq_flatMap]

/-- The bytes of a text are read as its characters. -/
theorem scan_encode (text : String) : scan none (encode text) = text.toList.map some := by
  unfold encode
  induction text.toList with
  | nil => rfl
  | cons c rest ih => rw [List.flatMap_cons, scan_char, ih, List.map_cons]

/-- A text is read back from its bytes. -/
theorem decode?_encode (text : String) : decode? (encode text) = some text := by
  have hall (chars : List Char) : (chars.map some).mapM id = some chars := by
    induction chars with
    | nil => rfl
    | cons c rest ih =>
        rw [List.map_cons, List.mapM_cons, ih]
        rfl
  unfold decode?
  rw [scan_encode, hall, Option.map_some, String.ofList_toList]

/-- Texts are told apart by their bytes. -/
theorem encode_injective {text other : String} (h : encode text = encode other) :
    text = other := by
  rw [← Option.some_inj, ← decode?_encode text, h, decode?_encode]

/-- And nothing in it is replaced. -/
theorem decodeLossy_encode (text : String) : decodeLossy (encode text) = text := by
  unfold decodeLossy
  rw [scan_encode, List.map_map]
  show String.ofList (text.toList.map id) = text
  rw [List.map_id, String.ofList_toList]

end SerialEndpoint.Utf8
