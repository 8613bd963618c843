/-
UTF-8 between characters and bytes.

Decoding is a machine fed one byte at a time. Between characters it owes
nothing; inside one it knows how many bytes are still owed, which range
the next byte must lie in, and the value collected so far. A byte outside
that range ends the character as invalid and is then looked at again as a
first byte, so each maximal invalid part of a text is reported once.
-/

namespace SerialEndpoint.Utf8

-- =========================================================== encoding

/-- The bytes of a text. -/
def encode (text : String) : List UInt8 :=
  text.toList.flatMap String.utf8EncodeChar

-- ======================================================== the machine

/-- A character of which some bytes are still owed. -/
structure Owed where
  /-- How many bytes are still to come, at least one. -/
  count : Nat
  /-- The least and the greatest value of the next byte. -/
  low : Nat
  high : Nat
  /-- The bits collected so far. -/
  value : Nat

/-- What one byte settles: the characters that end with it, `none`
standing for a maximal invalid part, and the character it leaves open. -/
structure Step where
  ended : List (Option Char)
  owed : Option Owed := none

/-- A byte read as the first of a character. The ranges leave out
encodings that are too long, surrogates and values beyond the last code
point. -/
def first (byte : UInt8) : Step :=
  let b := byte.toNat
  if b < 0x80 then ⟨[some (Char.ofNat b)], none⟩
  else if b < 0xC2 then ⟨[none], none⟩
  else if b < 0xE0 then ⟨[], some ⟨1, 0x80, 0xBF, b - 0xC0⟩⟩
  else if b = 0xE0 then ⟨[], some ⟨2, 0xA0, 0xBF, 0⟩⟩
  else if b = 0xED then ⟨[], some ⟨2, 0x80, 0x9F, 0xD⟩⟩
  else if b < 0xF0 then ⟨[], some ⟨2, 0x80, 0xBF, b - 0xE0⟩⟩
  else if b = 0xF0 then ⟨[], some ⟨3, 0x90, 0xBF, 0⟩⟩
  else if b < 0xF4 then ⟨[], some ⟨3, 0x80, 0xBF, b - 0xF0⟩⟩
  else if b = 0xF4 then ⟨[], some ⟨3, 0x80, 0x8F, 4⟩⟩
  else ⟨[none], none⟩

/-- A byte read with a character in hand: it goes on with it or ends it,
or it cuts it short and is itself a first byte. -/
def step (owed : Option Owed) (byte : UInt8) : Step :=
  match owed with
  | none => first byte
  | some o =>
    if o.low ≤ byte.toNat ∧ byte.toNat ≤ o.high then
      let value := o.value * 64 + (byte.toNat - 0x80)
      if o.count ≤ 1 then ⟨[some (Char.ofNat value)], none⟩
      else ⟨[], some ⟨o.count - 1, 0x80, 0xBF, value⟩⟩
    else
      let next := first byte
      ⟨none :: next.ended, next.owed⟩

/-- The characters of a text in order, `none` standing for each maximal
invalid part; `owed` is the character in hand. -/
def scan (owed : Option Owed) : List UInt8 → List (Option Char)
  | [] => if owed.isSome then [none] else []
  | byte :: rest =>
    let s := step owed byte
    s.ended ++ scan s.owed rest

-- =========================================================== decoding

/-- The text of some bytes, with the replacement character in place of
each maximal invalid part. -/
def decodeLossy (bytes : List UInt8) : String :=
  String.ofList ((scan none bytes).map fun c => c.getD '\uFFFD')

/-- The text of some bytes, where they are valid throughout. -/
def decode? (bytes : List UInt8) : Option String :=
  ((scan none bytes).mapM id).map String.ofList

end SerialEndpoint.Utf8
