import Girasol.Foundation.Radix
import Mathlib.Data.List.Basic

/-!
# Base58 and Base64

Base58 as the `bs58` crate has it: every leading `1` is a zero byte, and the
rest is the big-endian representation of the number the digits spell.  Base64
with the standard alphabet and canonical padding.
-/

namespace Girasol.Foundation

def base58Alphabet : List Char :=
  "123456789ABCDEFGHJKLMNPQRSTUVWXYZabcdefghijkmnopqrstuvwxyz".toList

/-- The little-endian bytes of `n`, at most `fuel` of them, without leading zeros. -/
def bytesLE : Nat → Nat → List UInt8
  | 0, _ => []
  | fuel + 1, n => if n = 0 then [] else (n % 256).toUInt8 :: bytesLE fuel (n / 256)

def decodeBase58 (s : String) : Option (List UInt8) := do
  let digits ← s.toList.mapM fun c => base58Alphabet.idxOf? c
  let n := digits.foldl (fun acc d => acc * 58 + d) 0
  let zeros := (digits.takeWhile (· == 0)).length
  return List.replicate zeros 0 ++ (bytesLE digits.length n).reverse

def base58Digits : Nat → Nat → List Nat
  | 0, _ => []
  | fuel + 1, n => if n = 0 then [] else n % 58 :: base58Digits fuel (n / 58)

/-- Each byte takes less than two base58 digits. -/
def encodeBase58 (bytes : List UInt8) : String :=
  let zeros := (bytes.takeWhile (· == 0)).length
  let n := bytes.foldl (fun acc b => acc * 256 + b.toNat) 0
  String.ofList (List.replicate zeros '1' ++
    (base58Digits (2 * bytes.length) n).reverse.map fun d => base58Alphabet.getD d '1')

theorem map_bytesLE {fuel n : Nat} (h : n < 256 ^ fuel) :
    (bytesLE fuel n).map UInt8.toNat = Nat.digits 256 n := by
  induction fuel generalizing n with
  | zero =>
      obtain rfl : n = 0 := by simpa using h
      simp [bytesLE]
  | succ fuel ih =>
      rw [bytesLE]
      split
      case isTrue hzero => simp [hzero]
      case isFalse hpos =>
          have hrest : n / 256 < 256 ^ fuel := by
            rw [Nat.div_lt_iff_lt_mul (by omega)]
            rwa [pow_succ] at h
          rw [List.map_cons, ih hrest, Nat.digits_def' (by omega) (Nat.pos_of_ne_zero hpos)]
          simp

theorem base58Digits_eq {fuel n : Nat} (h : n < 58 ^ fuel) :
    base58Digits fuel n = Nat.digits 58 n := by
  induction fuel generalizing n with
  | zero =>
      obtain rfl : n = 0 := by simpa using h
      simp [base58Digits]
  | succ fuel ih =>
      rw [base58Digits]
      split
      case isTrue hzero => simp [hzero]
      case isFalse hpos =>
          have hrest : n / 58 < 58 ^ fuel := by
            rw [Nat.div_lt_iff_lt_mul (by omega)]
            rwa [pow_succ] at h
          rw [ih hrest, Nat.digits_def' (by omega) (Nat.pos_of_ne_zero hpos)]

/-! ## Both are changes of base -/

def base58Char (digit : Nat) : Char := base58Alphabet.getD digit '1'

theorem idxOf?_base58Char {digit : Nat} (h : digit < 58) :
    base58Alphabet.idxOf? (base58Char digit) = some digit := by
  have hall : ∀ digit < 58, base58Alphabet.idxOf? (base58Char digit) = some digit := by
    decide +kernel
  exact hall digit h

theorem base58Char_of_idxOf? {c : Char} {digit : Nat} (h : base58Alphabet.idxOf? c = some digit) :
    digit < 58 ∧ base58Char digit = c := by
  obtain ⟨hlt, hc, -⟩ := List.findIdx?_eq_some_iff_getElem.mp h
  exact ⟨hlt, by simpa [base58Char, List.getElem?_eq_getElem hlt] using hc⟩

theorem digits_of_mapM {chars : List Char} {digits : List Nat}
    (h : chars.mapM base58Alphabet.idxOf? = some digits) :
    (∀ d ∈ digits, d < 58) ∧ digits.map base58Char = chars := by
  induction chars generalizing digits with
  | nil =>
      cases h
      simp
  | cons c chars ih =>
      simp only [List.mapM_cons, Option.bind_eq_bind, Option.bind_eq_some_iff] at h
      obtain ⟨d, hd, rest, hrest, h⟩ := h
      cases h
      obtain ⟨hlt, hchar⟩ := base58Char_of_idxOf? hd
      obtain ⟨hlts, hchars⟩ := ih hrest
      simp [hlt, hchar, hchars]
      exact hlts

theorem mapM_digits {digits : List Nat} (h : ∀ d ∈ digits, d < 58) :
    (digits.map base58Char).mapM base58Alphabet.idxOf? = some digits := by
  induction digits with
  | nil => rfl
  | cons d digits ih =>
      rw [List.map_cons, List.mapM_cons, idxOf?_base58Char (h d List.mem_cons_self),
        ih fun e he => h e (List.mem_cons_of_mem d he)]
      rfl

@[simp] theorem map_toUInt8_toNat (bytes : List UInt8) :
    (bytes.map UInt8.toNat).map Nat.toUInt8 = bytes := by
  induction bytes with
  | nil => rfl
  | cons b bytes ih => simpa using ih

theorem map_toNat_toUInt8 {digits : List Nat} (h : ∀ d ∈ digits, d < 256) :
    (digits.map Nat.toUInt8).map UInt8.toNat = digits := by
  induction digits with
  | nil => rfl
  | cons d digits ih =>
      rw [List.map_cons, List.map_cons, ih fun e he => h e (List.mem_cons_of_mem d he)]
      simp [Nat.mod_eq_of_lt (h d List.mem_cons_self)]

theorem toNat_lt (bytes : List UInt8) : ∀ d ∈ bytes.map UInt8.toNat, d < 256 := by
  intro d hd
  obtain ⟨b, -, rfl⟩ := List.mem_map.mp hd
  exact b.toNat_lt

theorem encodeBase58_eq (bytes : List UInt8) :
    encodeBase58 bytes =
      String.ofList ((Radix.convert 256 58 (bytes.map UInt8.toNat)).map base58Char) := by
  have hzeros : (bytes.takeWhile (· == 0)).length =
      Radix.leadingZeros (bytes.map UInt8.toNat) := by
    rw [Radix.leadingZeros, List.takeWhile_map, List.length_map]
    congr 2
    funext b
    rw [Function.comp_apply, Bool.eq_iff_iff, beq_iff_eq, beq_iff_eq, ← UInt8.toNat_inj]
    rfl
  have hvalue : bytes.foldl (fun acc b => acc * 256 + b.toNat) 0 =
      Radix.value 256 (bytes.map UInt8.toNat) := by
    rw [Radix.value, List.foldl_map]
  have hfuel : Radix.value 256 (bytes.map UInt8.toNat) < 58 ^ (2 * bytes.length) := by
    calc Radix.value 256 (bytes.map UInt8.toNat)
        < 256 ^ bytes.length := by
          simpa using Radix.value_lt (by omega) (toNat_lt bytes)
      _ ≤ (58 ^ 2) ^ bytes.length := Nat.pow_le_pow_left (by omega) _
      _ = 58 ^ (2 * bytes.length) := (pow_mul ..).symm
  rw [encodeBase58]
  simp only [hzeros, hvalue, base58Digits_eq hfuel, Radix.convert, Radix.spell, List.map_append,
    List.map_replicate]
  rfl

theorem decodeBase58_eq (s : String) :
    decodeBase58 s = (s.toList.mapM base58Alphabet.idxOf?).map fun digits =>
      (Radix.convert 58 256 digits).map Nat.toUInt8 := by
  unfold decodeBase58
  cases hdigits : s.toList.mapM base58Alphabet.idxOf? with
  | none => rfl
  | some digits =>
      have hlt := (digits_of_mapM hdigits).1
      have hfuel : Radix.value 58 digits < 256 ^ digits.length :=
        (Radix.value_lt (by omega) hlt).trans_le (Nat.pow_le_pow_left (by omega) _)
      have hbytes : bytesLE digits.length (Radix.value 58 digits) =
          (Nat.digits 256 (Radix.value 58 digits)).map Nat.toUInt8 := by
        rw [← map_bytesLE hfuel, map_toUInt8_toNat]
      rw [Option.map_some, Radix.convert, Radix.spell, List.map_append, List.map_reverse,
        ← hbytes, List.map_replicate]
      rfl

@[simp] theorem decodeBase58_encodeBase58 (bytes : List UInt8) :
    decodeBase58 (encodeBase58 bytes) = some bytes := by
  rw [decodeBase58_eq, encodeBase58_eq, String.toList_ofList,
    mapM_digits (Radix.lt_of_mem_convert (by omega) _), Option.map_some,
    Radix.convert_convert (by omega) (toNat_lt bytes), map_toUInt8_toNat]

theorem encodeBase58_of_decodeBase58 {s : String} {bytes : List UInt8}
    (h : decodeBase58 s = some bytes) : encodeBase58 bytes = s := by
  rw [decodeBase58_eq, Option.map_eq_some_iff] at h
  obtain ⟨digits, hdigits, rfl⟩ := h
  obtain ⟨hlt, hchars⟩ := digits_of_mapM hdigits
  rw [encodeBase58_eq, map_toNat_toUInt8 (Radix.lt_of_mem_convert (by omega) digits),
    Radix.convert_convert (by omega) hlt, hchars, String.ofList_toList]

theorem encodeBase58_eq_iff {s : String} {bytes : List UInt8} :
    encodeBase58 bytes = s ↔ decodeBase58 s = some bytes :=
  ⟨fun h => h ▸ decodeBase58_encodeBase58 bytes, encodeBase58_of_decodeBase58⟩

/-- `Pubkey::from_str`: base58 of exactly 32 bytes. -/
def parsePubkeyBytes (s : String) : Except String (List UInt8) :=
  match decodeBase58 s with
  | some bytes => if bytes.length = 32 then .ok bytes else .error "String is the wrong size"
  | none => .error "Invalid Base58 string"

def base64Alphabet : List Char :=
  "ABCDEFGHIJKLMNOPQRSTUVWXYZabcdefghijklmnopqrstuvwxyz0123456789+/".toList

def decodeBase64Chars : List Char → Option (List UInt8)
  | [] => some []
  | [a, b, '=', '='] => do
      let x ← base64Alphabet.idxOf? a
      let y ← base64Alphabet.idxOf? b
      if y % 16 = 0 then some [(x * 4 + y / 16).toUInt8] else none
  | [a, b, c, '='] => do
      let x ← base64Alphabet.idxOf? a
      let y ← base64Alphabet.idxOf? b
      let z ← base64Alphabet.idxOf? c
      if z % 4 = 0 then
        some [(x * 4 + y / 16).toUInt8, (y % 16 * 16 + z / 4).toUInt8]
      else none
  | a :: b :: c :: d :: rest => do
      let x ← base64Alphabet.idxOf? a
      let y ← base64Alphabet.idxOf? b
      let z ← base64Alphabet.idxOf? c
      let w ← base64Alphabet.idxOf? d
      let bytes ← decodeBase64Chars rest
      return (x * 4 + y / 16).toUInt8 :: (y % 16 * 16 + z / 4).toUInt8 ::
        (z % 4 * 64 + w).toUInt8 :: bytes
  | _ => none

def decodeBase64 (s : String) : Option (List UInt8) := decodeBase64Chars s.toList

theorem length_of_decodeBase64Chars {chars : List Char} {bytes : List UInt8}
    (h : decodeBase64Chars chars = some bytes) : chars.length % 4 = 0 := by
  fun_induction decodeBase64Chars chars generalizing bytes with
  | case1 => rfl
  | case2 a b => simp
  | case3 a b c => simp
  | case4 a b c d rest _ _ ih =>
      simp only [Option.bind_eq_bind, Option.bind_eq_some_iff] at h
      obtain ⟨-, -, -, -, -, -, -, -, rest', hrest, -⟩ := h
      have hlength := ih hrest
      simp only [List.length_cons]
      omega
  | case5 => cases h

theorem length_encodeBase58 {first : UInt8} {rest : List UInt8} {k : Nat}
    (hlow : 58 ^ k ≤ first.toNat * 256 ^ rest.length)
    (hhigh : 256 ^ (rest.length + 1) ≤ 58 ^ (k + 1)) :
    (encodeBase58 (first :: rest)).toList.length = k + 1 := by
  have hfirst : first.toNat ≠ 0 := by
    intro hzero
    rw [hzero, Nat.zero_mul] at hlow
    exact absurd hlow (by simp)
  rw [encodeBase58_eq, String.toList_ofList, List.length_map, List.map_cons]
  apply Radix.length_convert (by omega) hfirst
  · exact (hlow.trans (by simpa using Radix.le_value_cons 256 first.toNat (rest.map UInt8.toNat)))
  · have hlt := Radix.value_lt (b := 256) (by omega) (toNat_lt (first :: rest))
    exact (hlt.trans_le (by simpa using hhigh))

theorem decodeBase64_encodeBase58 {first : UInt8} {rest : List UInt8} {k : Nat}
    (hlow : 58 ^ k ≤ first.toNat * 256 ^ rest.length)
    (hhigh : 256 ^ (rest.length + 1) ≤ 58 ^ (k + 1)) (hk : (k + 1) % 4 ≠ 0) :
    decodeBase64 (encodeBase58 (first :: rest)) = none := by
  cases hdecode : decodeBase64 (encodeBase58 (first :: rest)) with
  | none => rfl
  | some bytes =>
      have hmod := length_of_decodeBase64Chars hdecode
      rw [length_encodeBase58 hlow hhigh] at hmod
      exact absurd hmod hk

end Girasol.Foundation
