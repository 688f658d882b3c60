import Girasol.Build.BuyTemplate

/-!
# A buy without a template

When no template was made at startup, `buy_token` builds the same two
instructions from constants of its own.  Accounts of the target's transaction
are appended after either path.
-/

namespace Girasol

open Foundation

structure CachedFeeRecipients where
  normal : Pubkey
  mayhem : Pubkey

structure BuyerConstants where
  pumpProgram : Pubkey
  global : Pubkey
  feeRecipient : Pubkey
  eventAuthority : Pubkey
  feeConfig : Pubkey
  feeProgram : Pubkey
  globalVolumeAcc : Pubkey
  userVolumeAcc : Pubkey
  tokenProgram : Pubkey
  payer : Pubkey
  buyDiscriminator : List UInt8

def standardFeeRecipient : String := "62qc2CNXwrYqQScmEdiZFFAnJR262PxWEuNQtxfafNgV"

/-- The program's key has been parsed before. -/
def BuyerConstants.new (d : Derivation) (payer pumpProgram : Pubkey) : BuyerConstants where
  pumpProgram := pumpProgram
  global := keyOf "4wTV1YmiEkRvAtNtsSGPtUrqRYQMe5SKy2uB4Jjaxnjf"
  feeRecipient := keyOf standardFeeRecipient
  eventAuthority := keyOf "Ce6TQqeHC9p8KetsN6JsjHK7UTZk7nasjjnr7XxXp9F1"
  feeConfig := d.feeConfig
  feeProgram := keyOf Girasol.feeProgram
  globalVolumeAcc := keyOf "Hq2wp8uJ9jCPsYgNHex8RtqdvMPfVGoYwjvF1ATiwn2Y"
  userVolumeAcc := d.userVolumeAccumulator pumpProgram payer
  tokenProgram := keyOf Girasol.tokenProgram
  payer := payer
  buyDiscriminator := d.anchorDiscriminator "buy"

/-- What `buy_token` knows when it builds; the rounded amounts come from the quote. -/
structure BuyOrder where
  mint : String
  tokenAmount : Nat
  solAmount : ℚ
  payer : Pubkey
  creator : Option Pubkey
  isMayhem : Bool
  feeRecipients : Option CachedFeeRecipients
  targetPumpAccounts : Option (List String)

namespace BuyOrder

variable (d : Derivation) (r : Rounding) (cfg : Settings) (order : BuyOrder)

def feeRecipient : Pubkey :=
  match order.feeRecipients with
  | none => keyOf standardFeeRecipient
  | some cached => if order.isMayhem then cached.mayhem else cached.normal

def creatorVault (program : Pubkey) : Except String Pubkey :=
  match order.targetPumpAccounts.bind fun accts => accts[9]? with
  | some acct =>
      (parsePubkeyBytes acct).mapError fun e => s!"Invalid target creatorVault[9]: {e}"
  | none =>
      match order.creator with
      | some creator => .ok (d.creatorVault program creator)
      | none => .error "creator_pubkey required for buy"

def maxSolCostLamports : Nat := 100000000

def constantsInstructions (mint program : Pubkey) : Except String (List Instruction) := do
  let consts := BuyerConstants.new d order.payer program
  let bondingCurve := d.bondingCurve program mint
  let tokenProgram := keyOf Girasol.tokenProgram
  let creatorVault ← order.creatorVault d program
  let buyAccounts : List AccountMeta := [
    .readonly consts.global false,
    .writable order.feeRecipient false,
    .readonly mint false,
    .writable bondingCurve false,
    .writable (d.associatedTokenAddress bondingCurve mint tokenProgram) false,
    .writable (d.associatedTokenAddress order.payer mint tokenProgram) false,
    .writable order.payer true,
    .readonly (keyOf systemProgram) false,
    .readonly tokenProgram false,
    .writable creatorVault false,
    .readonly consts.eventAuthority false,
    .readonly consts.pumpProgram false,
    .writable consts.globalVolumeAcc false,
    .writable consts.userVolumeAcc false,
    .readonly consts.feeConfig false,
    .readonly consts.feeProgram false]
  return [
    d.createAssociatedTokenAccountIdempotent order.payer order.payer mint tokenProgram,
    { programId := consts.pumpProgram
      accounts := buyAccounts
      data := consts.buyDiscriminator ++ buyArgs order.tokenAmount maxSolCostLamports }]

def remainingAccounts : List AccountMeta :=
  ((order.targetPumpAccounts.getD []).drop 16).filterMap fun acct =>
    (parsePubkeyBytes acct).toOption.map fun pk => .readonly pk false

def appendToLast (metas : List AccountMeta) : List Instruction → List Instruction
  | [] => []
  | [ix] => [{ ix with accounts := ix.accounts ++ metas }]
  | ix :: rest => ix :: appendToLast metas rest

/-- The instructions `buy_token` sends in real mode. -/
def instructions (template : Option BuyTemplate) : Except String (List Instruction) := do
  let mint ← parsePubkeyBytes order.mint
  let program ← parsePubkeyBytes cfg.pumpFunProgram
  let ixs ← match template with
    | some t =>
        t.buildBuyInstructions d mint order.isMayhem order.creator r order.tokenAmount
          order.solAmount cfg.slippageBps
    | none => order.constantsInstructions d mint program
  return appendToLast order.remainingAccounts ixs

/-! ## When the two paths agree -/

def targetCreatorVault : Option Pubkey :=
  (order.targetPumpAccounts.bind fun accts => accts[9]?).bind fun acct =>
    (parsePubkeyBytes acct).toOption

/-- Neither path can build: the mint is no key, or nothing gives the creator's vault. -/
def Unbuildable (t : BuyTemplate) : Prop :=
  ∀ mint, parsePubkeyBytes order.mint = .ok mint →
    order.creator = none ∧ order.targetCreatorVault = none ∧
      ∀ idl, t.idl = some idl →
        (idl.buildAccountsFor d "buy" (t.context d mint order.isMayhem none)).toOption = none

variable {d r cfg order}

theorem creatorVault_toOption_none (program : Pubkey) (hcreator : order.creator = none) :
    (order.creatorVault d program).toOption = order.targetCreatorVault := by
  unfold creatorVault targetCreatorVault
  rw [hcreator]
  cases order.targetPumpAccounts.bind fun accts => accts[9]? with
  | none => rfl
  | some acct =>
      cases hparse : parsePubkeyBytes acct with
      | ok pk => simp [Except.mapError, Except.toOption, hparse]
      | error e => simp [Except.mapError, Except.toOption, hparse]

def ataTokenProgram (ixs : List Instruction) : Option AccountMeta :=
  ixs.head?.bind fun ix => ix.accounts[5]?

private theorem ataTokenProgram_appendToLast (metas : List AccountMeta) (first last : Instruction) :
    ataTokenProgram (appendToLast metas [first, last]) = ataTokenProgram [first, last] := rfl

theorem constantsInstructions_toOption_none (mint program : Pubkey) :
    (order.constantsInstructions d mint program).toOption = none ↔
      (order.creatorVault d program).toOption = none := by
  unfold constantsInstructions
  cases order.creatorVault d program with
  | ok vault => simp [bind, Except.bind, pure, Except.pure, Except.toOption]
  | error e => simp [bind, Except.bind, Except.toOption]

private theorem constantsInstructions_eq_ok {mint program : Pubkey} {ixs : List Instruction}
    (hbuilt : order.constantsInstructions d mint program = .ok ixs) :
    ∃ ix, ixs = [d.createAssociatedTokenAccountIdempotent order.payer order.payer mint
      (keyOf tokenProgram), ix] := by
  obtain ⟨vault, -, hixs⟩ := bind_eq_ok.mp hbuilt
  cases hixs
  exact ⟨_, rfl⟩

private theorem appendToLast_ne {t : BuyTemplate} {mint program : Pubkey}
    {ixs ixs' : List Instruction} (hprogram : t.tokenProgram = keyOf token2022Program)
    (htemplate : t.buildBuyInstructions d mint order.isMayhem order.creator r order.tokenAmount
      order.solAmount cfg.slippageBps = .ok ixs)
    (hconstants : order.constantsInstructions d mint program = .ok ixs')
    (metas : List AccountMeta) : appendToLast metas ixs ≠ appendToLast metas ixs' := by
  intro hsame
  obtain ⟨ix, -, rfl⟩ := BuyTemplate.buildBuyInstructions_eq_ok htemplate
  obtain ⟨ix', rfl⟩ := constantsInstructions_eq_ok hconstants
  have hheads := congrArg ataTokenProgram hsame
  rw [ataTokenProgram_appendToLast, ataTokenProgram_appendToLast] at hheads
  have hmetas : AccountMeta.readonly t.tokenProgram false =
      .readonly (keyOf tokenProgram) false := Option.some.inj hheads
  have hkeys : t.tokenProgram = keyOf tokenProgram := congrArg AccountMeta.pubkey hmetas
  rw [hprogram] at hkeys
  exact tokenProgram_ne_token2022Program hkeys.symm

section

variable {mint program : Pubkey} (hmint : parsePubkeyBytes order.mint = .ok mint)
  (hprogram : parsePubkeyBytes cfg.pumpFunProgram = .ok program)

include hmint hprogram

theorem instructions_template (t : BuyTemplate) :
    (order.instructions d r cfg (some t)).toOption =
      (t.buildBuyInstructions d mint order.isMayhem order.creator r order.tokenAmount
        order.solAmount cfg.slippageBps).toOption.map (appendToLast order.remainingAccounts) := by
  unfold instructions
  rw [hmint, hprogram]
  exact toOption_bind_ok _ _

theorem instructions_constants :
    (order.instructions d r cfg none).toOption =
      (order.constantsInstructions d mint program).toOption.map
        (appendToLast order.remainingAccounts) := by
  unfold instructions
  rw [hmint, hprogram]
  exact toOption_bind_ok _ _

end

section

variable {idls : List (String × SimpleIdl)} {normal mayhem : Pubkey} {t : BuyTemplate}
  (hnew : BuyTemplate.new d idls order.payer cfg normal mayhem = .ok t)

include hnew

theorem unbuildable_of_agree (hsame : (order.instructions d r cfg (some t)).toOption =
    (order.instructions d r cfg none).toOption) : order.Unbuildable d t := by
  obtain ⟨hprogram, htoken, -⟩ := BuyTemplate.new_eq_ok hnew
  intro mint hmint
  rw [instructions_template hmint hprogram t, instructions_constants hmint hprogram] at hsame
  cases htemplate : t.buildBuyInstructions d mint order.isMayhem order.creator r
      order.tokenAmount order.solAmount cfg.slippageBps with
  | ok ixs =>
      rw [htemplate] at hsame
      cases hconstants : order.constantsInstructions d mint t.pumpProgram with
      | ok ixs' =>
          rw [hconstants] at hsame
          exact absurd (Option.some.inj hsame)
            (appendToLast_ne htoken htemplate hconstants order.remainingAccounts)
      | error e =>
          rw [hconstants] at hsame
          cases hsame
  | error e =>
      obtain ⟨hcreator, hidl⟩ :=
        BuyTemplate.buildBuyInstructions_toOption_none.mp (congrArg Except.toOption htemplate)
      rw [htemplate] at hsame
      have hvault := (constantsInstructions_toOption_none mint t.pumpProgram).mp
        (Option.map_eq_none_iff.mp hsame.symm)
      rw [creatorVault_toOption_none _ hcreator] at hvault
      exact ⟨hcreator, hvault, hidl⟩

private theorem agree_of_unbuildable (hneither : order.Unbuildable d t) :
    (order.instructions d r cfg (some t)).toOption =
      (order.instructions d r cfg none).toOption := by
  obtain ⟨hprogram, -, -⟩ := BuyTemplate.new_eq_ok hnew
  cases hmint : parsePubkeyBytes order.mint with
  | error e => simp [instructions, hmint, bind, Except.bind, Except.toOption]
  | ok mint =>
      obtain ⟨hcreator, hvault, hidl⟩ := hneither mint hmint
      have htemplate : (t.buildBuyInstructions d mint order.isMayhem order.creator r
          order.tokenAmount order.solAmount cfg.slippageBps).toOption = none :=
        BuyTemplate.buildBuyInstructions_toOption_none.mpr ⟨hcreator, hidl⟩
      have hconstants : (order.constantsInstructions d mint t.pumpProgram).toOption = none :=
        (constantsInstructions_toOption_none mint t.pumpProgram).mpr
          ((creatorVault_toOption_none t.pumpProgram hcreator).trans hvault)
      rw [instructions_template hmint hprogram t, instructions_constants hmint hprogram,
        htemplate, hconstants]

/-- The template and the constants send the same only where neither sends anything. -/
theorem instructions_agree_iff :
    (order.instructions d r cfg (some t)).toOption =
        (order.instructions d r cfg none).toOption ↔ order.Unbuildable d t :=
  ⟨unbuildable_of_agree hnew, agree_of_unbuildable hnew⟩

end

end BuyOrder

/-- 0.1 SOL on an ordinary mint with a known creator. -/
def BuyOrder.plain : BuyOrder where
  mint := "So11111111111111111111111111111111111111112"
  tokenAmount := 1000000
  solAmount := 1 / 10
  payer := sampleKey 7
  creator := some (sampleKey 9)
  isMayhem := false
  feeRecipients := some ⟨sampleKey 1, sampleKey 2⟩
  targetPumpAccounts := none

theorem BuyOrder.instructions_agree_iff_plain :
    ∃ t, BuyTemplate.new .transcript [("pumpfun", pumpFunIdl)] BuyOrder.plain.payer .plain
        (sampleKey 1) (sampleKey 2) =
        .ok t ∧
      ((BuyOrder.plain.instructions .transcript .exact .plain (some t)).toOption =
          (BuyOrder.plain.instructions .transcript .exact .plain none).toOption ↔
        BuyOrder.plain.Unbuildable .transcript t) := by
  obtain ⟨t, hnew⟩ := BuyTemplate.exists_new .transcript [("pumpfun", pumpFunIdl)]
    BuyOrder.plain.payer (sampleKey 1) (sampleKey 2) parse_plain_pumpFunProgram
  exact ⟨t, hnew, BuyOrder.instructions_agree_iff hnew⟩

theorem BuyOrder.instructions_disagree :
    ∃ t, BuyTemplate.new .transcript [("pumpfun", pumpFunIdl)] BuyOrder.plain.payer .plain
        (sampleKey 1) (sampleKey 2) =
        .ok t ∧
      (BuyOrder.plain.instructions .transcript .exact .plain (some t)).toOption ≠
        (BuyOrder.plain.instructions .transcript .exact .plain none).toOption := by
  obtain ⟨t, hnew⟩ := BuyTemplate.exists_new .transcript [("pumpfun", pumpFunIdl)]
    BuyOrder.plain.payer (sampleKey 1) (sampleKey 2) parse_plain_pumpFunProgram
  refine ⟨t, hnew, fun hsame => ?_⟩
  have hmint : parsePubkeyBytes BuyOrder.plain.mint = .ok (keyOf BuyOrder.plain.mint) := by
    decide +kernel
  have hcreator := (BuyOrder.unbuildable_of_agree hnew hsame _ hmint).1
  cases hcreator

end Girasol
