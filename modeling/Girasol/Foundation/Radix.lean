import Mathlib.Data.Nat.Digits.Lemmas

/-!
# Big-endian digits with leading zeros

A list of digits is its number of leading zeros and the number it spells.  It
can be spelled again in another base and read back from there.
-/

namespace Girasol.Foundation.Radix

/-- The number a big-endian list of digits spells. -/
def value (b : Nat) (digits : List Nat) : Nat := digits.foldl (fun acc d => acc * b + d) 0

def leadingZeros (digits : List Nat) : Nat := (digits.takeWhile (· == 0)).length

def spell (b zeros n : Nat) : List Nat := List.replicate zeros 0 ++ (b.digits n).reverse

def convert (b b' : Nat) (digits : List Nat) : List Nat :=
  spell b' (leadingZeros digits) (value b digits)

theorem value_eq (b : Nat) (digits : List Nat) :
    value b digits = Nat.ofDigits b digits.reverse := by
  rw [value, Nat.ofDigits_eq_foldr, List.foldr_reverse]
  simp [Nat.mul_comm, Nat.add_comm]

theorem value_lt {b : Nat} {digits : List Nat} (hb : 1 < b) (h : ∀ d ∈ digits, d < b) :
    value b digits < b ^ digits.length := by
  rw [value_eq, ← List.length_reverse]
  exact Nat.ofDigits_lt_base_pow_length hb fun d hd => h d (List.mem_reverse.mp hd)

theorem lt_of_mem_spell {b zeros n : Nat} (hb : 1 < b) : ∀ d ∈ spell b zeros n, d < b := by
  intro d hd
  rcases List.mem_append.mp hd with hzero | hdigit
  · rw [List.eq_of_mem_replicate hzero]
    omega
  · exact Nat.digits_lt_base hb (List.mem_reverse.mp hdigit)

theorem lt_of_mem_convert {b b' : Nat} (hb' : 1 < b') (digits : List Nat) :
    ∀ d ∈ convert b b' digits, d < b' :=
  lt_of_mem_spell hb'

@[simp] theorem value_spell (b zeros n : Nat) : value b (spell b zeros n) = n := by
  rw [value_eq, spell, List.reverse_append, List.reverse_reverse, List.reverse_replicate,
    Nat.ofDigits_append_replicate_zero, Nat.ofDigits_digits]

theorem leadingZeros_reverse_digits (b n : Nat) : leadingZeros (b.digits n).reverse = 0 := by
  cases hrev : (b.digits n).reverse with
  | nil => rfl
  | cons d rest =>
      have hdigits : b.digits n = rest.reverse ++ [d] := by
        rw [← List.reverse_reverse (b.digits n), hrev, List.reverse_cons]
      have hn : n ≠ 0 := by
        rintro rfl
        simp at hdigits
      have hlast := Nat.getLast_digit_ne_zero b hn
      simp only [hdigits, List.getLast_append_singleton] at hlast
      simp [leadingZeros, hlast]

@[simp] theorem leadingZeros_spell (b zeros n : Nat) : leadingZeros (spell b zeros n) = zeros := by
  have hdigits := leadingZeros_reverse_digits b n
  unfold leadingZeros at hdigits ⊢
  rw [spell, List.takeWhile_append_of_pos (by simp), List.length_append, hdigits]
  simp

theorem spell_eq {b : Nat} {digits : List Nat} (hb : 1 < b) (h : ∀ d ∈ digits, d < b) :
    spell b (leadingZeros digits) (value b digits) = digits := by
  induction digits with
  | nil => simp [spell, leadingZeros, value]
  | cons d digits ih =>
      by_cases hd : d = 0
      · subst hd
        have hspell := ih fun d hd => h d (List.mem_cons_of_mem 0 hd)
        calc spell b (leadingZeros (0 :: digits)) (value b (0 :: digits))
            = 0 :: spell b (leadingZeros digits) (value b digits) := by
              simp [spell, leadingZeros, value, List.replicate_succ]
          _ = 0 :: digits := by rw [hspell]
      · have hzeros : leadingZeros (d :: digits) = 0 := by simp [leadingZeros, hd]
        have hdigits : b.digits (Nat.ofDigits b (d :: digits).reverse) = (d :: digits).reverse :=
          Nat.digits_ofDigits b hb _ (fun e he => h e (List.mem_reverse.mp he)) (by simp [hd])
        rw [hzeros, value_eq, spell, hdigits, List.reverse_reverse]
        rfl

@[simp] theorem convert_convert {b b' : Nat} {digits : List Nat} (hb : 1 < b)
    (h : ∀ d ∈ digits, d < b) : convert b' b (convert b b' digits) = digits := by
  rw [convert, convert, leadingZeros_spell, value_spell, spell_eq hb h]

theorem le_value_cons (b d : Nat) (digits : List Nat) :
    d * b ^ digits.length ≤ value b (d :: digits) := by
  rw [value_eq, List.reverse_cons, Nat.ofDigits_append, List.length_reverse,
    Nat.ofDigits_singleton, Nat.mul_comm]
  omega

@[simp] theorem length_convert {b b' k d : Nat} {digits : List Nat} (hb' : 1 < b')
    (hd : d ≠ 0) (hlow : b' ^ k ≤ value b (d :: digits))
    (hhigh : value b (d :: digits) < b' ^ (k + 1)) :
    (convert b b' (d :: digits)).length = k + 1 := by
  have hzeros : leadingZeros (d :: digits) = 0 := by simp [leadingZeros, hd]
  rw [convert, spell, hzeros, List.length_append, List.length_reverse, List.length_replicate]
  have hle := (Nat.digits_length_le_iff hb' _).mpr hhigh
  have hlt := (Nat.lt_digits_length_iff hb' _).mpr hlow
  omega

end Girasol.Foundation.Radix
