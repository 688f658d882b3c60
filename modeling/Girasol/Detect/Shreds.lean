import Girasol.Detect.Signal
import Girasol.Settings

/-!
# The ShredStream listener

Transactions arrive before they execute, so there are no inner instructions and
no balances.  Keys in address lookup tables are known only when the tables are
cached.
-/

namespace Girasol.Shreds

open Foundation

structure CompiledInstruction where
  programIdIndex : UInt8
  accounts : List UInt8
  data : List UInt8
  deriving DecidableEq

structure AddressTableLookup where
  accountKey : Pubkey
  writableIndexes : List UInt8
  readonlyIndexes : List UInt8

inductive VersionedMessage where
  | legacy (accountKeys : List Pubkey) (instructions : List CompiledInstruction)
  | v0 (accountKeys : List Pubkey) (instructions : List CompiledInstruction)
      (lookups : List AddressTableLookup)

namespace VersionedMessage

def staticAccountKeys : VersionedMessage → List Pubkey
  | .legacy accountKeys _ | .v0 accountKeys _ _ => accountKeys

def instructions : VersionedMessage → List CompiledInstruction
  | .legacy _ instructions | .v0 _ instructions _ => instructions

end VersionedMessage

structure VersionedTransaction where
  signatures : List (List UInt8)
  message : VersionedMessage

/-- What the table cache holds when the lookup at an index asks for a table. -/
abbrev AltCache := Nat → Pubkey → Option (List Pubkey)

/-! ## Keys -/

def selected (addresses : List Pubkey) (indexes : List UInt8) : Option (List Pubkey) :=
  indexes.mapM fun i => addresses[i.toNat]?

def resolveKeys (altCache : AltCache) : VersionedMessage → Option (List Pubkey)
  | .legacy _ _ => none
  | .v0 staticKeys _ lookups => do
      let tables ← lookups.zipIdx.mapM fun (lookup, n) =>
        (altCache n lookup.accountKey).map fun addresses => (addresses, lookup)
      let writable ← tables.mapM fun (addresses, lookup) =>
        selected addresses lookup.writableIndexes
      let readonly ← tables.mapM fun (addresses, lookup) =>
        selected addresses lookup.readonlyIndexes
      return staticKeys ++ writable.flatten ++ readonly.flatten

/-- The key at an index: always for a static key, else when all tables are resolved. -/
def resolvedKey (altCache : AltCache) (message : VersionedMessage) (idx : Nat) :
    Option Pubkey :=
  if idx < message.staticAccountKeys.length then message.staticAccountKeys[idx]?
  else (resolveKeys altCache message).bind fun full => full[idx]?

def accountKey (getKey : Nat → Option Pubkey) (index : Nat) (ix : CompiledInstruction) :
    Option Pubkey :=
  ix.accounts[index]?.bind fun i => getKey i.toNat

/-! ## Transactions -/

section

variable (r : Rounding) (getKey : Nat → Option Pubkey) (pumpIdx : Nat) (sig : String)
  (slot : Nat)

def buySignal (ix : CompiledInstruction) (mint : Pubkey) : Emission Pubkey where
  signal := .buy
    { signature := sig
      mint := encodeBase58 mint
      dex := .pumpFun
      solAmount := (u64At 16 ix.data).map (lamportsToSol r)
      tokenAmount := u64At 8 ix.data
      slot := some slot
      ammPool := none
      targetPumpAccounts :=
        atLeast 17 ((ix.accounts.filterMap fun i => getKey i.toNat).map encodeBase58) }
  trader := accountKey getKey pumpFunUser ix

def sellSignal (ix : CompiledInstruction) (mint : Pubkey) : Emission Pubkey where
  signal := .sell
    { signature := sig
      mint := encodeBase58 mint
      dex := .pumpFun
      solReceived := none
      tokenAmount := u64At 8 ix.data
      slot := some slot
      ammPool := none }
  trader := accountKey getKey pumpFunUser ix

def parsePumpFromVtx : List CompiledInstruction → List (Emission Pubkey)
  | [] => []
  | ix :: rest =>
      if ix.programIdIndex.toNat ≠ pumpIdx || ix.data.length < 8 then parsePumpFromVtx rest
      else if hasDiscriminator buyDiscriminator ix.data && 3 ≤ ix.accounts.length then
        ((accountKey getKey 2 ix).map (buySignal r getKey sig slot ix)).toList
      else if hasDiscriminator sellDiscriminator ix.data && 3 ≤ ix.accounts.length then
        ((accountKey getKey 2 ix).map (sellSignal getKey sig slot ix)).toList
      else parsePumpFromVtx rest

end

section

variable (p : Platform) (targetWallet pumpProgram : String)

def signatureOf (vtx : VersionedTransaction) : String :=
  (vtx.signatures.head?.map encodeBase58).getD ""

def handleTransaction (targetPubkey pumpPubkey : Pubkey) (slot : Nat) (altCache : AltCache)
    (vtx : VersionedTransaction) : List (Emission Pubkey) :=
  let staticKeys := vtx.message.staticAccountKeys
  if targetPubkey ∈ staticKeys then
    match staticKeys.idxOf? pumpPubkey with
    | none => []
    | some pumpIdx =>
        parsePumpFromVtx p.rounding (resolvedKey altCache vtx.message) pumpIdx
          (signatureOf vtx) slot vtx.message.instructions
  else []

def handleVtx (slot : Nat) (altCache : AltCache) (vtx : VersionedTransaction) :
    List (Emission Pubkey) :=
  match p.parsePubkey targetWallet, p.parsePubkey pumpProgram with
  | .ok targetPubkey, .ok pumpPubkey =>
      handleTransaction p targetPubkey pumpPubkey slot altCache vtx
  | _, _ => []

end

end Girasol.Shreds
