import Girasol.Foundation.Bytes
import Girasol.Settings

/-!
# Instructions, messages and signed transactions

What the senders use of the Solana SDK.  `Message.new` merges the accounts of
all instructions into one list of keys, ordered by privilege, and refers to
them by index.
-/

namespace Girasol

open Foundation

abbrev Hash := List UInt8

structure AccountMeta where
  pubkey : Pubkey
  isSigner : Bool
  isWritable : Bool
  deriving DecidableEq, Repr

structure Instruction where
  programId : Pubkey
  accounts : List AccountMeta
  data : List UInt8
  deriving DecidableEq, Repr

namespace Instruction

def bare (ix : Instruction) : Pubkey × List Pubkey × List UInt8 :=
  (ix.programId, ix.accounts.map AccountMeta.pubkey, ix.data)

/-- `system_instruction::transfer`; the system program's id is all zeros. -/
def transfer (fromKey toKey : Pubkey) (lamports : UInt64) : Instruction where
  programId := List.replicate 32 0
  accounts := [⟨fromKey, true, true⟩, ⟨toKey, false, true⟩]
  data := leBytes 4 2 ++ leBytes 8 lamports.toNat

/-- The bytes of `ComputeBudget111111111111111111111111111111`. -/
def computeBudgetId : Pubkey :=
  [3, 6, 70, 111, 229, 33, 23, 50, 255, 236, 173, 186, 114, 195, 155, 231,
    188, 140, 229, 187, 197, 247, 18, 107, 44, 67, 155, 58, 64, 0, 0, 0]

def setComputeUnitLimit (units : UInt32) : Instruction where
  programId := computeBudgetId
  accounts := []
  data := 2 :: leBytes 4 units.toNat

def setComputeUnitPrice (microLamports : UInt64) : Instruction where
  programId := computeBudgetId
  accounts := []
  data := 3 :: leBytes 8 microLamports.toNat

def keys (ix : Instruction) : List Pubkey := ix.programId :: ix.accounts.map AccountMeta.pubkey

end Instruction

/-! ## Messages -/

structure CompiledInstruction where
  programIdIndex : Nat
  accounts : List Nat
  data : List UInt8
  deriving DecidableEq, Repr

structure Message where
  numRequiredSignatures : Nat
  numReadonlySigned : Nat
  numReadonlyUnsigned : Nat
  accountKeys : List Pubkey
  recentBlockhash : Hash
  instructions : List CompiledInstruction
  deriving DecidableEq, Repr

namespace Message

variable (ixs : List Instruction) (payer : Pubkey)

def marks (privilege : AccountMeta → Bool) (key : Pubkey) : Bool :=
  ixs.any fun ix => ix.accounts.any fun am => am.pubkey == key && privilege am

def otherKeys : List Pubkey :=
  ((ixs.flatMap Instruction.keys).dedup.insertionSort (· ≤ ·)).filter (· != payer)

def keysWith (signer writable : Bool) : List Pubkey :=
  (otherKeys ixs payer).filter fun key =>
    marks ixs AccountMeta.isSigner key == signer &&
      marks ixs AccountMeta.isWritable key == writable

def keyOrder : List Pubkey :=
  payer :: (keysWith ixs payer true true ++ keysWith ixs payer true false ++
    keysWith ixs payer false true ++ keysWith ixs payer false false)

def compileInstruction (keys : List Pubkey) (ix : Instruction) : CompiledInstruction where
  programIdIndex := keys.idxOf ix.programId
  accounts := ix.accounts.map fun am => keys.idxOf am.pubkey
  data := ix.data

def new (recentBlockhash : Hash) : Message where
  numRequiredSignatures :=
    1 + (keysWith ixs payer true true).length + (keysWith ixs payer true false).length
  numReadonlySigned := (keysWith ixs payer true false).length
  numReadonlyUnsigned := (keysWith ixs payer false false).length
  accountKeys := keyOrder ixs payer
  recentBlockhash := recentBlockhash
  instructions := ixs.map (compileInstruction (keyOrder ixs payer))

def resolved (m : Message) : List (Pubkey × List Pubkey × List UInt8) :=
  m.instructions.map fun ix =>
    (m.accountKeys.getD ix.programIdIndex [],
      ix.accounts.map (fun i => m.accountKeys.getD i []), ix.data)

variable {ixs payer}

theorem mem_keyOrder {ix : Instruction} (hix : ix ∈ ixs) {key : Pubkey} (hkey : key ∈ ix.keys) :
    key ∈ keyOrder ixs payer := by
  by_cases hpayer : key = payer
  · simp [keyOrder, hpayer]
  · have hother : key ∈ otherKeys ixs payer := by
      simp only [otherKeys, List.mem_filter, List.mem_insertionSort, List.mem_dedup,
        List.mem_flatMap, bne_iff_ne]
      exact ⟨⟨ix, hix, hkey⟩, hpayer⟩
    cases hs : marks ixs AccountMeta.isSigner key <;>
      cases hw : marks ixs AccountMeta.isWritable key <;>
        simp [keyOrder, keysWith, hother, hs, hw]

theorem getD_idxOf {keys : List Pubkey} {key : Pubkey} (hmem : key ∈ keys) :
    keys.getD (keys.idxOf key) [] = key := by
  have hlt := List.idxOf_lt_length_iff.mpr hmem
  simp [hlt]

@[simp] theorem resolved_new (recentBlockhash : Hash) :
    (new ixs payer recentBlockhash).resolved = ixs.map Instruction.bare := by
  rw [resolved, new, List.map_map]
  apply List.map_congr_left
  intro ix hix
  have hkey (key : Pubkey) (hkey : key ∈ ix.keys) :
      (keyOrder ixs payer).getD ((keyOrder ixs payer).idxOf key) [] = key :=
    getD_idxOf (mem_keyOrder hix hkey)
  simp only [Instruction.keys, List.mem_cons, List.mem_map, forall_eq_or_imp,
    forall_exists_index, and_imp, forall_apply_eq_imp_iff₂] at hkey
  simp only [Function.comp_apply, compileInstruction, Instruction.bare, List.map_map,
    Prod.mk.injEq, and_true]
  exact ⟨hkey.1, List.map_congr_left hkey.2⟩

end Message

/-! ## Signing -/

structure Keypair where
  pubkey : Pubkey
  signMessage : Message → List UInt8

def Keypair.plain : Keypair where
  pubkey := List.replicate 32 7
  signMessage := Message.recentBlockhash

structure VersionedTransaction where
  message : Message
  signatures : List (List UInt8)
  deriving DecidableEq, Repr

def VersionedTransaction.tryNew (message : Message) (payer : Keypair) :
    Except String VersionedTransaction :=
  if message.numRequiredSignatures = 1 then
    .ok ⟨message, [payer.signMessage message]⟩
  else .error "not enough signers"

def VersionedTransaction.resign (tx : VersionedTransaction) (payer : Keypair)
    (blockhash : Hash) : VersionedTransaction :=
  let message := { tx.message with recentBlockhash := blockhash }
  { message := message, signatures := tx.signatures.set 0 (payer.signMessage message) }

end Girasol
