import Girasol.Foundation.Base64
import Girasol.Send.Quic

/-!
# Base64 round trip

What the senders write as Base64 is what a reader of Base64 gets back.
-/

namespace Girasol

open Foundation

theorem idxOf?_base64Char {n : Nat} (hn : n < 64) :
    base64Alphabet.idxOf? (base64Char n) = some n := by
  have hall : ∀ i : Fin 64, base64Alphabet.idxOf? (base64Char i) = some i.val := by
    decide +kernel
  exact hall ⟨n, hn⟩

theorem base64Char_ne_pad {n : Nat} (hn : n < 64) : base64Char n ≠ '=' := by
  have hall : ∀ i : Fin 64, base64Char i ≠ '=' := by decide +kernel
  exact hall ⟨n, hn⟩

private theorem decodeBase64Chars_group {x y z w : Nat} (hx : x < 64) (hy : y < 64) (hz : z < 64)
    (hw : w < 64) (rest : List Char) :
    decodeBase64Chars (base64Char x :: base64Char y :: base64Char z :: base64Char w :: rest) =
      (decodeBase64Chars rest).map fun bytes =>
        (x * 4 + y / 16).toUInt8 :: (y % 16 * 16 + z / 4).toUInt8 ::
          (z % 4 * 64 + w).toUInt8 :: bytes := by
  rw [decodeBase64Chars]
  · simp only [idxOf?_base64Char, hx, hy, hz, hw, Option.bind_eq_bind, Option.bind_some]
    cases decodeBase64Chars rest <;> rfl
  · intro h
    exact absurd h (base64Char_ne_pad hz)
  · intro h
    exact absurd h (base64Char_ne_pad hw)

private theorem decodeBase64Chars_encodeBase64Chars (bytes : List UInt8) :
    decodeBase64Chars (encodeBase64Chars bytes) = some bytes := by
  fun_induction encodeBase64Chars bytes with
  | case1 a b c rest ih =>
      have ha := a.toNat_lt
      have hb := b.toNat_lt
      have hc := c.toNat_lt
      rw [decodeBase64Chars_group (by omega) (by omega) (by omega) (by omega), ih,
        Option.map_some, Option.some.injEq]
      have hfirst : a.toNat / 4 * 4 + (a.toNat % 4 * 16 + b.toNat / 16) / 16 = a.toNat := by omega
      have hsecond : (a.toNat % 4 * 16 + b.toNat / 16) % 16 * 16 +
          (b.toNat % 16 * 4 + c.toNat / 64) / 4 = b.toNat := by omega
      have hthird : (b.toNat % 16 * 4 + c.toNat / 64) % 4 * 64 + c.toNat % 64 = c.toNat := by omega
      rw [hfirst, hsecond, hthird]
      simp
  | case2 a b =>
      have ha := a.toNat_lt
      have hb := b.toNat_lt
      have hlow : b.toNat % 16 * 4 % 4 = 0 := by omega
      have hfirst : a.toNat / 4 * 4 + (a.toNat % 4 * 16 + b.toNat / 16) / 16 = a.toNat := by omega
      have hsecond : (a.toNat % 4 * 16 + b.toNat / 16) % 16 * 16 + b.toNat % 16 * 4 / 4 =
          b.toNat := by omega
      rw [decodeBase64Chars, idxOf?_base64Char (by omega), idxOf?_base64Char (by omega),
        idxOf?_base64Char (by omega)]
      · simp only [Option.bind_eq_bind, Option.bind_some, hlow, if_true, hfirst, hsecond]
        simp
      · exact fun h => absurd h (base64Char_ne_pad (by omega))
  | case3 a =>
      have ha := a.toNat_lt
      have hlow : a.toNat % 4 * 16 % 16 = 0 := by omega
      have hfirst : a.toNat / 4 * 4 + a.toNat % 4 * 16 / 16 = a.toNat := by omega
      rw [decodeBase64Chars, idxOf?_base64Char (by omega), idxOf?_base64Char (by omega)]
      simp only [Option.bind_eq_bind, Option.bind_some, hlow, if_true, hfirst]
      simp
  | case4 => rfl

@[simp] theorem decodeBase64_encodeBase64 (bytes : List UInt8) :
    decodeBase64 (encodeBase64 bytes) = some bytes := by
  rw [decodeBase64, encodeBase64, String.toList_ofList]
  exact decodeBase64Chars_encodeBase64Chars bytes

end Girasol
