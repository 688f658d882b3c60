import Mathlib.Data.List.Basic

/-!
# Text from bytes that need not be UTF-8

`String::from_utf8_lossy`: the longest front of an ill-formed sequence that could
still have become a character is replaced as a whole.
-/

namespace Girasol.Foundation

structure PartialChar where
  value : Nat
  missing : Nat
  low : Nat := 0x80
  high : Nat := 0xBF

def leadByte (b : Nat) : Option PartialChar :=
  if 0xC2 ≤ b ∧ b ≤ 0xDF then some { value := b % 32, missing := 1 }
  else if b = 0xE0 then some { value := 0, missing := 2, low := 0xA0 }
  else if b = 0xED then some { value := 13, missing := 2, high := 0x9F }
  else if 0xE1 ≤ b ∧ b ≤ 0xEF then some { value := b % 16, missing := 2 }
  else if b = 0xF0 then some { value := 0, missing := 3, low := 0x90 }
  else if 0xF1 ≤ b ∧ b ≤ 0xF3 then some { value := b % 8, missing := 3 }
  else if b = 0xF4 then some { value := 4, missing := 3, high := 0x8F }
  else none

def replacementChar : Char := '\uFFFD'

def firstByte (b : Nat) : List Char × Option PartialChar :=
  if b < 0x80 then ([Char.ofNat b], none)
  else
    match leadByte b with
    | some started => ([], some started)
    | none => ([replacementChar], none)

def nextByte (started : Option PartialChar) (b : Nat) : List Char × Option PartialChar :=
  match started with
  | none => firstByte b
  | some p =>
      if p.low ≤ b ∧ b ≤ p.high then
        let value := 64 * p.value + b % 64
        if p.missing = 1 then ([Char.ofNat value], none)
        else ([], some { value := value, missing := p.missing - 1 })
      else
        let (chars, started) := firstByte b
        (replacementChar :: chars, started)

def lossyChars (started : Option PartialChar) : List UInt8 → List Char
  | [] => if started.isSome then [replacementChar] else []
  | b :: bytes =>
      let (chars, started) := nextByte started b.toNat
      chars ++ lossyChars started bytes

def fromUtf8Lossy (bytes : List UInt8) : String := String.ofList (lossyChars none bytes)

example : fromUtf8Lossy [0x48, 0xF0, 0x90, 0x80, 0x47, 0xC3, 0xA9, 0xE2, 0x82] =
    "H\uFFFDGé\uFFFD" := by
  decide +kernel

end Girasol.Foundation
