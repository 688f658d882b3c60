import Girasol.Foundation.Base58

/-!
# Base58 texts read as Base64

Every Base58 character is a Base64 character, so a Base58 text is a Base64 text
as soon as its length is right.  What it decodes to can be told apart from what
it stands for, because Base58 leaves out `+` and `/`.
-/

namespace Girasol.Foundation

theorem mem_base64Alphabet {c : Char} (hc : c ∈ base58Alphabet) : c ∈ base64Alphabet := by
  have hall : (base58Alphabet.all fun c => base64Alphabet.contains c) = true := by decide +kernel
  exact List.contains_iff_mem.mp (List.all_eq_true.mp hall c hc)

theorem exists_idxOf? {α : Type*} [BEq α] [LawfulBEq α] {x : α} {xs : List α} (hx : x ∈ xs) :
    ∃ i, xs.idxOf? x = some i := by
  cases hindex : xs.idxOf? x with
  | none => exact absurd hx (List.idxOf?_eq_none_iff.mp hindex)
  | some i => exact ⟨i, rfl⟩

theorem idxOf?_base64Alphabet {c : Char} {i : Nat} (hi : base64Alphabet.idxOf? c = some i) :
    base64Alphabet[i]? = some c ∧ i < 64 := by
  obtain ⟨hlt, hc, -⟩ := List.findIdx?_eq_some_iff_getElem.mp hi
  rw [beq_iff_eq] at hc
  exact ⟨by rw [List.getElem?_eq_getElem hlt, hc], hlt⟩

theorem exists_decodeBase64Chars {chars : List Char} (hchars : ∀ c ∈ chars, c ∈ base64Alphabet)
    (hlength : chars.length % 4 = 0) :
    ∃ bytes, decodeBase64Chars chars = some bytes ∧ bytes.length = chars.length / 4 * 3 := by
  have hpad : '=' ∉ base64Alphabet := by decide +kernel
  fun_induction decodeBase64Chars chars with
  | case1 => exact ⟨[], rfl, rfl⟩
  | case2 => exact absurd (hchars '=' (by simp)) hpad
  | case3 => exact absurd (hchars '=' (by simp)) hpad
  | case4 a b c d rest _ _ ih =>
      obtain ⟨x, hx⟩ := exists_idxOf? (hchars a (by simp))
      obtain ⟨y, hy⟩ := exists_idxOf? (hchars b (by simp))
      obtain ⟨z, hz⟩ := exists_idxOf? (hchars c (by simp))
      obtain ⟨w, hw⟩ := exists_idxOf? (hchars d (by simp))
      simp only [List.length_cons] at hlength
      obtain ⟨bytes, hbytes, hcount⟩ := ih (fun e he => hchars e (by simp [he])) (by omega)
      refine ⟨_, by simp only [hx, hy, hz, hw, hbytes, Option.bind_eq_bind, Option.bind_some]; rfl,
        ?_⟩
      simp only [List.length_cons, hcount]
      omega
  | case5 chars hnil _ _ hfour =>
      match chars with
      | [] => exact absurd rfl hnil
      | [_] | [_, _] | [_, _, _] => simp at hlength
      | a :: b :: c :: d :: rest => exact absurd rfl (hfour a b c d rest)

theorem second_of_bytes {x y z : Nat} (hy : y < 64) (hz : z < 64) :
    (x * 4 + y / 16).toUInt8.toNat % 4 * 16 + (y % 16 * 16 + z / 4).toUInt8.toNat / 16 = y := by
  simp only [Nat.toUInt8, UInt8.toNat_ofNat']
  omega

theorem second_of_decodeBase64Chars {chars : List Char} {bytes : List UInt8} {k : Nat}
    {first second : UInt8} (hdecode : decodeBase64Chars chars = some bytes)
    (hfirst : bytes[3 * k]? = some first) (hsecond : bytes[3 * k + 1]? = some second) :
    ∃ c ∈ chars, base64Alphabet.idxOf? c =
      some (first.toNat % 4 * 16 + second.toNat / 16) := by
  fun_induction decodeBase64Chars chars generalizing bytes k with
  | case1 =>
      cases hdecode
      cases hfirst
  | case2 a b =>
      simp only [Option.bind_eq_bind, Option.bind_eq_some_iff, Option.ite_none_right_eq_some,
        Option.some.injEq] at hdecode
      obtain ⟨x, -, y, -, -, rfl⟩ := hdecode
      have hlt := (List.getElem?_eq_some_iff.mp hsecond).1
      simp at hlt
  | case3 a b c =>
      simp only [Option.bind_eq_bind, Option.bind_eq_some_iff, Option.ite_none_right_eq_some,
        Option.some.injEq] at hdecode
      obtain ⟨x, -, y, hy, z, hz, -, rfl⟩ := hdecode
      have hlt := (List.getElem?_eq_some_iff.mp hsecond).1
      obtain rfl : k = 0 := by
        simp only [List.length_cons, List.length_nil] at hlt
        omega
      cases hfirst
      cases hsecond
      refine ⟨b, by simp, ?_⟩
      rw [hy, second_of_bytes (idxOf?_base64Alphabet hy).2 (idxOf?_base64Alphabet hz).2]
  | case4 a b c d rest _ _ ih =>
      simp only [Option.bind_eq_bind, Option.bind_eq_some_iff] at hdecode
      obtain ⟨x, -, y, hy, z, hz, w, -, later, hlater, hdecode⟩ := hdecode
      cases hdecode
      cases k with
      | zero =>
          cases hfirst
          cases hsecond
          refine ⟨b, by simp, ?_⟩
          rw [hy, second_of_bytes (idxOf?_base64Alphabet hy).2 (idxOf?_base64Alphabet hz).2]
      | succ k =>
          obtain ⟨e, he, hindex⟩ := ih (k := k) hlater hfirst hsecond
          exact ⟨e, by simp [he], hindex⟩
  | case5 => cases hdecode

theorem not_plus_of_base58 {chars : List Char} {bytes : List UInt8} {k : Nat}
    {first second : UInt8} (hchars : ∀ c ∈ chars, c ∈ base58Alphabet)
    (hdecode : decodeBase64Chars chars = some bytes) (hfirst : bytes[3 * k]? = some first)
    (hsecond : bytes[3 * k + 1]? = some second) :
    first.toNat % 4 * 16 + second.toNat / 16 ≠ 62 := by
  intro hplus
  obtain ⟨c, hc, hindex⟩ := second_of_decodeBase64Chars hdecode hfirst hsecond
  rw [hplus] at hindex
  have hchar := (idxOf?_base64Alphabet hindex).1
  have hplus : base64Alphabet[62]? = some '+' := by decide +kernel
  obtain rfl : '+' = c := Option.some.inj (hplus.symm.trans hchar)
  exact absurd (hchars '+' hc) (by decide +kernel)

/-! ## Texts that `encodeBase58` writes -/

theorem mem_base58Alphabet_of_encode {bytes : List UInt8} {c : Char}
    (hc : c ∈ (encodeBase58 bytes).toList) : c ∈ base58Alphabet := by
  rw [encodeBase58_eq, String.toList_ofList] at hc
  obtain ⟨digit, hdigit, rfl⟩ := List.mem_map.mp hc
  have hlt := Radix.lt_of_mem_convert (b := 256) (by omega) (bytes.map UInt8.toNat) digit hdigit
  have hindex := idxOf?_base58Char hlt
  obtain ⟨hin, hchar, -⟩ := List.findIdx?_eq_some_iff_getElem.mp hindex
  rw [beq_iff_eq] at hchar
  rw [← hchar]
  exact List.getElem_mem hin

theorem lt_length_encodeBase58 {first : UInt8} {rest : List UInt8} {k : Nat}
    (hlow : 58 ^ k ≤ first.toNat * 256 ^ rest.length) :
    k < (encodeBase58 (first :: rest)).toList.length := by
  rw [encodeBase58_eq, String.toList_ofList, List.length_map, List.map_cons, Radix.convert,
    Radix.spell, List.length_append, List.length_reverse]
  have hvalue := Radix.le_value_cons 256 first.toNat (rest.map UInt8.toNat)
  rw [List.length_map] at hvalue
  have hdigits := (Nat.lt_digits_length_iff (by omega) _).mpr (hlow.trans hvalue)
  omega

end Girasol.Foundation
