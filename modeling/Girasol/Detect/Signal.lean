import Girasol.Foundation.Base58
import Girasol.Foundation.Bytes
import Girasol.Foundation.Scan
import Girasol.Models

/-!
# Signals of the listeners

What the three listeners send to the main loop, and what their parsers share.
-/

namespace Girasol

open Foundation

def pumpFunProgram : String := "6EF8rrecthR5Dkzon8Nwu78hRvfCKubJ14M5uBEwF6P"

def pumpFunAmm : String := "pAMMBay6oceH9fJKBRHGP5D4bD4sWpmSwMn52FMfXEA"

def raydiumV4 : String := "675kPX9MHTjS2zt1qfr1NYHuzeLXfQM9H24wFSUt1Mp8"

def raydiumCpmm : String := "CPMMoo8L3F4NbTegBCKVNunggL7H1ZpdTHKxQB5qKP1C"

def jupiterV6 : String := "JUP6LkbZbjS1jKKwapdHNy74zcZ3tLUZoi5QNyVTaV4"

def buyDiscriminator : List UInt8 := [102, 6, 61, 18, 1, 218, 235, 234]

def sellDiscriminator : List UInt8 := [51, 230, 133, 164, 1, 127, 131, 173]

def pumpFunUser : Nat := 6

def pumpSwapUser : Nat := 1

inductive Signal where
  | buy (detected : DetectedBuy)
  | sell (detected : DetectedSell)
  deriving DecidableEq, Repr

def Signal.dex : Signal → DexType
  | .buy detected => detected.dex
  | .sell detected => detected.dex

def Signal.ammPool : Signal → Option String
  | .buy detected => detected.ammPool
  | .sell detected => detected.ammPool

def Signal.asBuy : Signal → Option DetectedBuy
  | .buy detected => some detected
  | .sell _ => none

def Signal.asSell : Signal → Option DetectedSell
  | .buy _ => none
  | .sell detected => some detected

/--
A signal, with the account at the user index of the pump.fun or PumpSwap
instruction it was made from; no listener reads that account.
-/
structure Emission (κ : Type) where
  signal : Signal
  trader : Option κ
  deriving DecidableEq

def hasDiscriminator (discriminator data : List UInt8) : Bool :=
  8 ≤ data.length && data.take 8 == discriminator

theorem length_of_hasDiscriminator {discriminator data : List UInt8}
    (h : hasDiscriminator discriminator data) : 8 ≤ data.length := by
  simp only [hasDiscriminator, Bool.and_eq_true, decide_eq_true_eq] at h
  exact h.1

theorem not_both_discriminators (data : List UInt8) :
    ¬(hasDiscriminator buyDiscriminator data ∧ hasDiscriminator sellDiscriminator data) := by
  rintro ⟨hbuy, hsell⟩
  simp only [hasDiscriminator, Bool.and_eq_true, beq_iff_eq] at hbuy hsell
  exact absurd (hbuy.2.symm.trans hsell.2) (by decide)

/-- The little-endian `u64` at an offset, when the data reaches that far. -/
def u64At (offset : Nat) (data : List UInt8) : Option Nat :=
  if offset + 8 ≤ data.length then some (leValue ((data.drop offset).take 8)) else none

def lamportsToSol (r : Rounding) (lamports : Nat) : ℚ := r.div (r.ofU64 lamports) 1000000000

def solDelta (r : Rounding) (pre post : Nat) : ℚ × ℚ :=
  if post < pre then (0, lamportsToSol r (pre - post)) else (lamportsToSol r (post - pre), 0)

def atLeast {α : Type} (n : Nat) (items : List α) : Option (List α) :=
  if n ≤ items.length then some items else none

theorem atLeast_of_le {α : Type} {n : Nat} {items : List α} (h : n ≤ items.length) :
    atLeast n items = some items := if_pos h

theorem atLeast_of_lt {α : Type} {n : Nat} {items : List α} (h : items.length < n) :
    atLeast n items = none := if_neg (by omega)

theorem u64At_of_le {offset : Nat} {data : List UInt8} (h : offset + 8 ≤ data.length) :
    u64At offset data = some (leValue ((data.drop offset).take 8)) := if_pos h

theorem u64At_of_lt {offset : Nat} {data : List UInt8} (h : data.length < offset + 8) :
    u64At offset data = none := if_neg (by omega)

end Girasol
