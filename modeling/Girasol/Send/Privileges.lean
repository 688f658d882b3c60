import Girasol.Send.Transaction

/-!
# What a message asks of the network

The network runs a message instruction by instruction, each account with the
privileges that its place in the list of keys gives it.  A compiled message
gives every account the privileges that some instruction marks it with, and no
others.
-/

namespace Girasol

open Foundation

namespace Message

/-! ## Reading the header -/

def isSigner (m : Message) (i : Nat) : Bool := i < m.numRequiredSignatures

def isWritable (m : Message) (i : Nat) : Bool :=
  if i < m.numRequiredSignatures then i < m.numRequiredSignatures - m.numReadonlySigned
  else i < m.accountKeys.length - m.numReadonlyUnsigned

def metaAt (m : Message) (i : Nat) : AccountMeta :=
  ⟨m.accountKeys.getD i [], m.isSigner i, m.isWritable i⟩

def executed (m : Message) : List Instruction :=
  m.instructions.map fun ix =>
    { programId := m.accountKeys.getD ix.programIdIndex []
      accounts := ix.accounts.map m.metaAt
      data := ix.data }

section

variable (ixs : List Instruction) (payer : Pubkey)

def granted (key : Pubkey) : AccountMeta :=
  ⟨key, key == payer || marks ixs AccountMeta.isSigner key,
    key == payer || marks ixs AccountMeta.isWritable key⟩

def grantedTo (ix : Instruction) : Instruction :=
  { ix with accounts := ix.accounts.map fun am => granted ixs payer am.pubkey }

end

/-! ## Places in the list of keys -/

@[simp] theorem idxOf_append_lt_length_iff {xs ys : List Pubkey} {key : Pubkey} :
    (xs ++ ys).idxOf key < xs.length ↔ key ∈ xs := by
  rw [List.idxOf_append]
  split
  case isTrue hmem => exact iff_of_true (List.idxOf_lt_length_iff.mpr hmem) hmem
  case isFalse hnot => exact iff_of_false (by omega) hnot

variable {ixs : List Instruction} {payer key : Pubkey}

theorem mem_keysWith {signer writable : Bool} (hne : key ≠ payer)
    (hmem : key ∈ keyOrder ixs payer) :
    key ∈ keysWith ixs payer signer writable ↔
      marks ixs AccountMeta.isSigner key = signer ∧
        marks ixs AccountMeta.isWritable key = writable := by
  have hother : key ∈ otherKeys ixs payer := by
    simp only [keyOrder, keysWith, List.mem_cons, List.mem_append, List.mem_filter] at hmem
    tauto
  simp [keysWith, hother]

section

variable (ixs payer)

def writableSigners : List Pubkey := payer :: keysWith ixs payer true true

def signers : List Pubkey := writableSigners ixs payer ++ keysWith ixs payer true false

theorem keyOrder_eq_signers : keyOrder ixs payer =
    signers ixs payer ++ (keysWith ixs payer false true ++ keysWith ixs payer false false) := by
  simp [keyOrder, signers, writableSigners]

end

variable {blockhash : Hash}

@[simp] theorem numRequiredSignatures_new :
    (new ixs payer blockhash).numRequiredSignatures = (signers ixs payer).length := by
  simp only [new, signers, writableSigners, List.length_append, List.length_cons]
  omega

theorem mem_signers (hmem : key ∈ keyOrder ixs payer) :
    key ∈ signers ixs payer ↔ (granted ixs payer key).isSigner = true := by
  by_cases hpayer : key = payer
  · simp [signers, writableSigners, granted, hpayer]
  · simp only [signers, writableSigners, List.mem_append, List.mem_cons,
      mem_keysWith hpayer hmem, granted, Bool.or_eq_true, beq_iff_eq, hpayer, false_or]
    cases marks ixs AccountMeta.isWritable key <;> simp

theorem isSigner_idxOf (hmem : key ∈ keyOrder ixs payer) :
    (new ixs payer blockhash).isSigner ((keyOrder ixs payer).idxOf key) =
      (granted ixs payer key).isSigner := by
  rw [Bool.eq_iff_iff, isSigner, decide_eq_true_iff, numRequiredSignatures_new,
    keyOrder_eq_signers, idxOf_append_lt_length_iff, mem_signers hmem]

private theorem isWritable_idxOf (hmem : key ∈ keyOrder ixs payer) :
    (new ixs payer blockhash).isWritable ((keyOrder ixs payer).idxOf key) =
      (granted ixs payer key).isWritable := by
  have hsigner : (new ixs payer blockhash).isSigner ((keyOrder ixs payer).idxOf key) =
      (granted ixs payer key).isSigner := isSigner_idxOf hmem
  rw [isSigner] at hsigner
  rw [Bool.eq_iff_iff, isWritable]
  split
  case isTrue hlt =>
    have hwritable : (new ixs payer blockhash).numRequiredSignatures -
        (new ixs payer blockhash).numReadonlySigned = (writableSigners ixs payer).length := by
      rw [numRequiredSignatures_new, signers, List.length_append]
      exact Nat.add_sub_cancel _ _
    rw [decide_eq_true_iff, hwritable, keyOrder_eq_signers, signers, List.append_assoc,
      idxOf_append_lt_length_iff]
    by_cases hpayer : key = payer
    · simp [writableSigners, granted, hpayer]
    · rw [decide_eq_true hlt, granted] at hsigner
      simp only [writableSigners, List.mem_cons, mem_keysWith hpayer hmem, granted]
      simp_all
  case isFalse hge =>
    have hwritable : (new ixs payer blockhash).accountKeys.length -
        (new ixs payer blockhash).numReadonlyUnsigned =
          (signers ixs payer ++ keysWith ixs payer false true).length := by
      have hkeys : (new ixs payer blockhash).accountKeys = keyOrder ixs payer := rfl
      have hreadonly : (new ixs payer blockhash).numReadonlyUnsigned =
          (keysWith ixs payer false false).length := rfl
      rw [hkeys, hreadonly, keyOrder_eq_signers, ← List.append_assoc, List.length_append]
      exact Nat.add_sub_cancel _ _
    rw [decide_eq_true_iff, hwritable, keyOrder_eq_signers, ← List.append_assoc,
      idxOf_append_lt_length_iff, List.mem_append, mem_signers hmem]
    rw [decide_eq_false hge] at hsigner
    by_cases hpayer : key = payer
    · simp [granted, hpayer] at hsigner
    · rw [mem_keysWith hpayer hmem]
      simp_all [granted]

private theorem metaAt_idxOf (hmem : key ∈ keyOrder ixs payer) :
    (new ixs payer blockhash).metaAt ((keyOrder ixs payer).idxOf key) = granted ixs payer key := by
  rw [metaAt, isSigner_idxOf hmem, isWritable_idxOf hmem]
  have hkey : (new ixs payer blockhash).accountKeys.getD ((keyOrder ixs payer).idxOf key) [] =
      key := getD_idxOf hmem
  rw [hkey]
  rfl

@[simp] theorem executed_new : (new ixs payer blockhash).executed = ixs.map
    (grantedTo ixs payer) := by
  rw [executed, new, List.map_map]
  apply List.map_congr_left
  intro ix hix
  have hprogram : (keyOrder ixs payer).getD ((keyOrder ixs payer).idxOf ix.programId) [] =
      ix.programId := getD_idxOf (mem_keyOrder hix List.mem_cons_self)
  simp only [Function.comp_apply, compileInstruction, grantedTo, hprogram, List.map_map,
    Instruction.mk.injEq, true_and, and_true]
  apply List.map_congr_left
  intro am ham
  exact metaAt_idxOf (mem_keyOrder hix (List.mem_cons_of_mem _ (List.mem_map_of_mem ham)))

end Message

end Girasol
