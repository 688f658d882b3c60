import Girasol.Detect.Signal
import Girasol.Send.Transaction

/-!
# Addresses and constants of the instruction builders

The builders derive the addresses of program accounts and of token accounts, and
know the discriminator of an instruction by a hash of its name.  The three
functions behind that are the SDK's.
-/

namespace Girasol

open Foundation

structure Derivation where
  /-- `Pubkey::find_program_address`, without the bump seed. -/
  findProgramAddress : List (List UInt8) → Pubkey → Pubkey
  /-- `get_associated_token_address_with_program_id`: the wallet, the mint, the token program. -/
  associatedTokenAddress : Pubkey → Pubkey → Pubkey → Pubkey
  /-- The first eight bytes of the SHA-256 of `global:` and the name. -/
  anchorDiscriminator : String → List UInt8

namespace AccountMeta

/-- `AccountMeta::new`. -/
def writable (pubkey : Pubkey) (isSigner : Bool) : AccountMeta := ⟨pubkey, isSigner, true⟩

/-- `AccountMeta::new_readonly`. -/
def readonly (pubkey : Pubkey) (isSigner : Bool) : AccountMeta := ⟨pubkey, isSigner, false⟩

end AccountMeta

/-! ## Well-known keys -/

def systemProgram : String := "11111111111111111111111111111111"

def tokenProgram : String := "TokenkegQfeZyiNwAJbNbGKPFXCWuBvf9Ss623VQ5DA"

def token2022Program : String := "TokenzQdBNbLqP5VEhdkAS6EPFLC1PHnBqCXEpPxuEb"

def associatedTokenProgram : String := "ATokenGPvbdGVxr1b2hvZbsiqW5xWH25efTNsLJA8knL"

def feeProgram : String := "pfeeUxB6jkeY1Hxd7CsFCAjcbHA9rWtchMGdZ6VojVZ"

def keyOf (literal : String) : Pubkey := (decodeBase58 literal).getD []

theorem parse_systemProgram : parsePubkeyBytes systemProgram = .ok (keyOf systemProgram) := by
  decide +kernel

theorem parse_pumpFunProgram :
    parsePubkeyBytes pumpFunProgram = .ok (keyOf pumpFunProgram) := by
  decide +kernel

theorem parse_feeProgram : parsePubkeyBytes feeProgram = .ok (keyOf feeProgram) := by
  decide +kernel

theorem tokenProgram_ne_token2022Program : keyOf tokenProgram ≠ keyOf token2022Program := by
  decide +kernel

/-! ## Seeds -/

def globalSeed : List UInt8 := [103, 108, 111, 98, 97, 108]

def bondingCurveSeed : List UInt8 := [98, 111, 110, 100, 105, 110, 103, 45, 99, 117, 114, 118, 101]

def creatorVaultSeed : List UInt8 := [99, 114, 101, 97, 116, 111, 114, 45, 118, 97, 117, 108, 116]

def eventAuthoritySeed : List UInt8 :=
  [95, 95, 101, 118, 101, 110, 116, 95, 97, 117, 116, 104, 111, 114, 105, 116, 121]

def globalVolumeAccumulatorSeed : List UInt8 :=
  [103, 108, 111, 98, 97, 108, 95, 118, 111, 108, 117, 109, 101, 95, 97, 99, 99, 117, 109, 117,
    108, 97, 116, 111, 114]

def userVolumeAccumulatorSeed : List UInt8 :=
  [117, 115, 101, 114, 95, 118, 111, 108, 117, 109, 101, 95, 97, 99, 99, 117, 109, 117, 108, 97,
    116, 111, 114]

def feeConfigName : List UInt8 := [102, 101, 101, 95, 99, 111, 110, 102, 105, 103]

def feeConfigSeed : List UInt8 :=
  [1, 86, 224, 246, 147, 102, 90, 207, 68, 219, 21, 104, 191, 23, 91, 170, 81, 137, 203, 151, 245,
    210, 255, 59, 101, 93, 43, 182, 253, 109, 24, 176]

def sampleKey (byte : UInt8) : Pubkey := List.replicate 32 byte

namespace Derivation

variable (d : Derivation)

def global (program : Pubkey) : Pubkey := d.findProgramAddress [globalSeed] program

def bondingCurve (program mint : Pubkey) : Pubkey :=
  d.findProgramAddress [bondingCurveSeed, mint] program

def creatorVault (program creator : Pubkey) : Pubkey :=
  d.findProgramAddress [creatorVaultSeed, creator] program

def eventAuthority (program : Pubkey) : Pubkey :=
  d.findProgramAddress [eventAuthoritySeed] program

def globalVolumeAccumulator (program : Pubkey) : Pubkey :=
  d.findProgramAddress [globalVolumeAccumulatorSeed] program

def userVolumeAccumulator (program user : Pubkey) : Pubkey :=
  d.findProgramAddress [userVolumeAccumulatorSeed, user] program

def feeConfig : Pubkey :=
  d.findProgramAddress [feeConfigName, feeConfigSeed] (keyOf feeProgram)

/-- `create_associated_token_account_idempotent`. -/
def createAssociatedTokenAccountIdempotent (funder wallet mint tokenProgram : Pubkey) :
    Instruction where
  programId := keyOf associatedTokenProgram
  accounts := [
    .writable funder true,
    .writable (d.associatedTokenAddress wallet mint tokenProgram) false,
    .readonly wallet false,
    .readonly mint false,
    .readonly (keyOf systemProgram) false,
    .readonly tokenProgram false]
  data := [1]

def transcript : Derivation where
  findProgramAddress := fun seeds program => seeds.flatten ++ program
  associatedTokenAddress := fun wallet mint tokenProgram => wallet ++ tokenProgram ++ mint
  anchorDiscriminator := fun name =>
    if name = "buy" then [102, 6, 61, 18, 1, 218, 235, 234]
    else if name = "sell" then [51, 230, 133, 164, 1, 127, 131, 173]
    else []

end Derivation

end Girasol
