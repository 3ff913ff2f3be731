/-
This file writes bytes as lower-case hexadecimal text, two digits a byte, and reads such text back.
A record of sent data shows each block in this form.
-/

namespace SerialFeed

/-- Bytes in the order in which they pass through. -/
abbrev Bytes := List UInt8

namespace Text.Hex

/-- The digit of a value below sixteen. -/
def digit (value : Nat) : Char :=
  if value < 10 then Char.ofNat (48 + value) else Char.ofNat (87 + value)

/-- The value of a digit; capitals count too. -/
def value? (character : Char) : Option Nat :=
  let code := character.toNat
  if 48 ≤ code ∧ code ≤ 57 then some (code - 48)
  else if 97 ≤ code ∧ code ≤ 102 then some (code - 87)
  else if 65 ≤ code ∧ code ≤ 70 then some (code - 55)
  else none

/-- The two digits of every byte, the high one first. -/
def encode (bytes : Bytes) : List Char :=
  bytes.flatMap fun byte => [digit (byte.toNat / 16), digit (byte.toNat % 16)]

/-- The bytes that a text of digit pairs stands for. -/
def decode : List Char → Option Bytes
  | [] => some []
  | [_] => none
  | high :: low :: rest => do
    let highValue ← value? high
    let lowValue ← value? low
    let bytes ← decode rest
    return UInt8.ofNat (16 * highValue + lowValue) :: bytes

/-- The hexadecimal text of some bytes. -/
def text (bytes : Bytes) : String :=
  String.ofList (encode bytes)

/-- The digits that are written. -/
def digits : List Char :=
  "0123456789abcdef".toList

theorem digit_mem : ∀ value < 16, digit value ∈ digits := by
  decide

theorem value?_digit : ∀ value < 16, value? (digit value) = some value := by
  decide

/-- The halves of a byte have one digit each. -/
theorem halves_lt (byte : UInt8) : byte.toNat / 16 < 16 ∧ byte.toNat % 16 < 16 := by
  have small := byte.toNat_lt
  omega

theorem mem_encode {bytes : Bytes} {character : Char} (member : character ∈ encode bytes) :
    character ∈ digits := by
  obtain ⟨byte, _, either⟩ := List.mem_flatMap.1 member
  obtain ⟨high, low⟩ := halves_lt byte
  rcases List.mem_cons.1 either with rfl | second
  · exact digit_mem _ high
  · rw [List.mem_singleton.1 second]
    exact digit_mem _ low

/-- What was written is read back. -/
theorem decode_encode (bytes : Bytes) : decode (encode bytes) = some bytes := by
  induction bytes with
  | nil => rfl
  | cons byte rest inductionHypothesis =>
    obtain ⟨high, low⟩ := halves_lt byte
    have whole : 16 * (byte.toNat / 16) + byte.toNat % 16 = byte.toNat := Nat.div_add_mod ..
    have pair : encode (byte :: rest) =
        digit (byte.toNat / 16) :: digit (byte.toNat % 16) :: encode rest := rfl
    rw [pair, decode, value?_digit _ high, value?_digit _ low, inductionHypothesis]
    show some (UInt8.ofNat (16 * (byte.toNat / 16) + byte.toNat % 16) :: rest) = _
    rw [whole, UInt8.ofNat_toNat]

end Text.Hex

end SerialFeed
