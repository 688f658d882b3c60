import Girasol.Build.PumpFunIdl

/-!
# The template of a buy

What a buy needs besides the mint is computed at startup.  The accounts of the
instruction come from the IDL, or from a fixed list when the IDL cannot be
interpreted.
-/

namespace Girasol

open Foundation

/-- The fields `build_buy_instructions` reads. -/
structure BuyTemplate where
  payerPubkey : Pubkey
  pumpProgram : Pubkey
  tokenProgram : Pubkey
  systemProgram : Pubkey
  feeProgram : Pubkey
  feeConfigPda : Pubkey
  globalPda : Pubkey
  eventAuthority : Pubkey
  globalVolAcc : Pubkey
  userVolAcc : Pubkey
  buyDiscriminator : List UInt8
  idlName : String
  idlProgramId : Pubkey
  feeRecipientNormal : Pubkey
  feeRecipientMayhem : Pubkey
  idl : Option SimpleIdl

/-- The borsh encoding of `BuyArgs`, with an absent `track_volume`. -/
def buyArgs (amount maxSolCost : Nat) : List UInt8 :=
  leBytes 8 amount ++ leBytes 8 maxSolCost ++ [0]

/-- The order in which the builders try the loaded IDLs. -/
def preferredIdls : List String := ["pumpfun", "pumpfunamm", "pumpfunfees"]

theorem parse_plain_pumpFunProgram :
    parsePubkeyBytes Settings.plain.pumpFunProgram = .ok (keyOf pumpFunProgram) :=
  parse_pumpFunProgram

namespace BuyTemplate

variable (d : Derivation)

def new (idls : List (String × SimpleIdl)) (payer : Pubkey) (cfg : Settings)
    (feeRecipientNormal feeRecipientMayhem : Pubkey) : Except String BuyTemplate := do
  let pumpProgram ← parsePubkeyBytes cfg.pumpFunProgram
  let best := preferredIdls.findSome? fun key => (idls.lookup key).map fun idl => (key, idl)
  let computed := d.anchorDiscriminator "buy"
  return {
    payerPubkey := payer
    pumpProgram := pumpProgram
    tokenProgram := keyOf token2022Program
    systemProgram := keyOf Girasol.systemProgram
    feeProgram := keyOf Girasol.feeProgram
    feeConfigPda := d.feeConfig
    globalPda := d.global pumpProgram
    eventAuthority := d.eventAuthority pumpProgram
    globalVolAcc := d.globalVolumeAccumulator pumpProgram
    userVolAcc := d.userVolumeAccumulator pumpProgram payer
    buyDiscriminator :=
      match best with
      | some (_, idl) => (idl.getInstructionDiscriminator d "buy").toOption.getD computed
      | none => computed
    idlName := (best.map Prod.fst).getD "fallback"
    idlProgramId := (best.map fun entry => entry.2.address).getD pumpProgram
    feeRecipientNormal := feeRecipientNormal
    feeRecipientMayhem := feeRecipientMayhem
    idl := best.map Prod.snd }

section

variable (t : BuyTemplate) (mint : Pubkey) (isMayhem : Bool) (creator : Option Pubkey)

def feeRecipient : Pubkey := if isMayhem then t.feeRecipientMayhem else t.feeRecipientNormal

def bondingCurve : Pubkey := d.bondingCurve t.pumpProgram mint

def context : Context :=
  let known : Context := [
    ("bonding_curve", t.bondingCurve d mint),
    ("token_program", t.tokenProgram),
    ("fee_recipient", t.feeRecipient isMayhem),
    ("user", t.payerPubkey),
    ("mint", mint)]
  match creator with
  | none => known
  | some c =>
      ("creator_vault", d.creatorVault t.pumpProgram c) :: ("bondingCurve.creator", c) ::
        ("bonding_curve.creator", c) :: known

def buildFallbackInstruction (data : List UInt8) : Except String Instruction :=
  match creator with
  | none => .error "creator_pubkey is required for buy instruction"
  | some creatorPk => .ok {
      programId := t.pumpProgram
      accounts := [
        .readonly t.globalPda false,
        .writable (t.feeRecipient isMayhem) false,
        .readonly mint false,
        .writable (t.bondingCurve d mint) false,
        .writable (d.associatedTokenAddress (t.bondingCurve d mint) mint t.tokenProgram) false,
        .writable (d.associatedTokenAddress t.payerPubkey mint t.tokenProgram) false,
        .writable t.payerPubkey true,
        .readonly t.systemProgram false,
        .readonly t.tokenProgram false,
        .writable (d.creatorVault t.pumpProgram creatorPk) false,
        .readonly t.eventAuthority false,
        .readonly t.pumpProgram false,
        .writable t.globalVolAcc false,
        .writable t.userVolAcc false,
        .readonly t.feeConfigPda false,
        .readonly t.feeProgram false]
      data := data }

def buildBuyInstruction (data : List UInt8) : Except String Instruction :=
  match t.idl with
  | none => t.buildFallbackInstruction d mint isMayhem creator data
  | some idl =>
      match idl.buildAccountsFor d "buy" (t.context d mint isMayhem creator) with
      | .ok metas => .ok ⟨t.idlProgramId, metas, data⟩
      | .error _ => t.buildFallbackInstruction d mint isMayhem creator data

/-- The most lamports the buy may cost. -/
def maxSolCost (r : Rounding) (solAmount : ℚ) (slippageBps : Nat) : Nat :=
  let baseCostLamports := asU64 (r.mul solAmount 1000000000)
  let slippageMultiplier := r.add 1 (r.div (r.ofU64 slippageBps) 10000)
  asU64 (r.mul (r.ofU64 baseCostLamports) slippageMultiplier)

/-- The token account is created first, which changes nothing when it exists. -/
def buildBuyInstructions (r : Rounding) (tokenAmount : Nat) (solAmount : ℚ)
    (slippageBps : Nat) : Except String (List Instruction) := do
  let data := t.buyDiscriminator ++ buyArgs tokenAmount (maxSolCost r solAmount slippageBps)
  let buyInstruction ← t.buildBuyInstruction d mint isMayhem creator data
  let createAta := d.createAssociatedTokenAccountIdempotent t.payerPubkey t.payerPubkey mint
    t.tokenProgram
  return [createAta, buyInstruction]

end

/-! ## What a template builds -/

section

variable {d : Derivation} {idls : List (String × SimpleIdl)}
  {payer normal mayhem mint creatorPk : Pubkey} {cfg : Settings} {isMayhem : Bool}
  {t : BuyTemplate} {creator : Option Pubkey}

theorem exists_new (d : Derivation) (idls : List (String × SimpleIdl))
    (payer normal mayhem : Pubkey) {program : Pubkey}
    (hprogram : parsePubkeyBytes cfg.pumpFunProgram = .ok program) :
    ∃ t, new d idls payer cfg normal mayhem = .ok t := by
  unfold new
  rw [hprogram]
  exact ⟨_, rfl⟩

theorem new_eq_ok (hnew : new d idls payer cfg normal mayhem = .ok t) :
    parsePubkeyBytes cfg.pumpFunProgram = .ok t.pumpProgram ∧
      t.tokenProgram = keyOf token2022Program ∧ t.payerPubkey = payer := by
  unfold new at hnew
  obtain ⟨program, hprogram, hfields⟩ := bind_eq_ok.mp hnew
  cases hfields
  exact ⟨hprogram, rfl, rfl⟩

private theorem buildBuyInstruction_toOption_none (t : BuyTemplate) (data : List UInt8) :
    (t.buildBuyInstruction d mint isMayhem creator data).toOption = none ↔
      creator = none ∧ ∀ idl, t.idl = some idl →
        (idl.buildAccountsFor d "buy" (t.context d mint isMayhem none)).toOption = none := by
  unfold buildBuyInstruction
  cases hidl : t.idl with
  | none => cases creator <;> simp [buildFallbackInstruction, Except.toOption]
  | some idl =>
      cases hmetas : idl.buildAccountsFor d "buy" (t.context d mint isMayhem creator) <;>
        cases creator <;> simp [hmetas, buildFallbackInstruction, Except.toOption]

theorem buildBuyInstructions_toOption_none {r : Rounding} {tokenAmount slippageBps : Nat}
    {solAmount : ℚ} :
    (t.buildBuyInstructions d mint isMayhem creator r tokenAmount solAmount
        slippageBps).toOption = none ↔
      creator = none ∧ ∀ idl, t.idl = some idl →
        (idl.buildAccountsFor d "buy" (t.context d mint isMayhem none)).toOption = none := by
  rw [← buildBuyInstruction_toOption_none t
    (t.buyDiscriminator ++ buyArgs tokenAmount (maxSolCost r solAmount slippageBps))]
  have hmap := toOption_bind_ok (t.buildBuyInstruction d mint isMayhem creator
    (t.buyDiscriminator ++ buyArgs tokenAmount (maxSolCost r solAmount slippageBps)))
    fun ix => [d.createAssociatedTokenAccountIdempotent t.payerPubkey t.payerPubkey mint
      t.tokenProgram, ix]
  exact (Eq.congr hmap rfl).trans Option.map_eq_none_iff

theorem buildBuyInstructions_eq_ok {r : Rounding} {tokenAmount slippageBps : Nat} {solAmount : ℚ}
    {ixs : List Instruction}
    (hbuilt : t.buildBuyInstructions d mint isMayhem creator r tokenAmount solAmount slippageBps =
      .ok ixs) :
    ∃ ix, t.buildBuyInstruction d mint isMayhem creator
        (t.buyDiscriminator ++ buyArgs tokenAmount (maxSolCost r solAmount slippageBps)) = .ok ix ∧
      ixs = [d.createAssociatedTokenAccountIdempotent t.payerPubkey t.payerPubkey mint
        t.tokenProgram, ix] := by
  obtain ⟨ix, hix, hixs⟩ := bind_eq_ok.mp hbuilt
  cases hixs
  exact ⟨ix, hix, rfl⟩

end

/-! ## The interpreted list and the fixed list -/

section

variable {d : Derivation} {idls : List (String × SimpleIdl)}
  {payer normal mayhem mint creatorPk : Pubkey} {cfg : Settings} {isMayhem : Bool}

theorem best_pumpFunIdl (hidl : idls.lookup "pumpfun" = some pumpFunIdl) :
    (preferredIdls.findSome? fun key => (idls.lookup key).map fun idl => (key, idl)) =
      some ("pumpfun", pumpFunIdl) := by
  simp [preferredIdls, hidl]

theorem lookup_context_creator (t : BuyTemplate) (creator : Option Pubkey) :
    (t.context d mint isMayhem creator).lookup "bondingCurve.creator" = creator := by
  cases creator <;> simp [context, List.lookup_cons]

private theorem buildAccountsFor_context_none (t : BuyTemplate) :
    (pumpFunIdl.buildAccountsFor d "buy" (t.context d mint isMayhem none)).toOption = none := by
  rw [pumpFunIdl_buildAccountsFor_buy]
  exact resolve_buyEntries_missing (lookup_context_creator t none)

theorem buildAccountsFor_context_some (t : BuyTemplate) :
    pumpFunIdl.buildAccountsFor d "buy" (t.context d mint isMayhem (some creatorPk)) =
      .ok (buyAccounts d pumpFunIdl.address (t.feeRecipient isMayhem) mint t.tokenProgram
        t.payerPubkey creatorPk) := by
  rw [pumpFunIdl_buildAccountsFor_buy]
  have htokenProgram : SimpleIdl.contextTokenProgram
      (t.context d mint isMayhem (some creatorPk)) = t.tokenProgram := by
    simp [SimpleIdl.contextTokenProgram, context, List.lookup_cons]
  rw [← htokenProgram]
  apply resolve_buyEntries
  · simp [context, List.lookup_cons]
  · simp [context, List.lookup_cons]
  · simp [context, List.lookup_cons]
  · exact lookup_context_creator t (some creatorPk)

/-- With the bundled IDL loaded both lists are the same, and both need the creator. -/
theorem new_buildAccountsFor_eq_fallback
    (hidl : idls.lookup "pumpfun" = some pumpFunIdl)
    (hprogram : parsePubkeyBytes cfg.pumpFunProgram = .ok pumpFunIdl.address) :
    ∃ t, new d idls payer cfg normal mayhem = .ok t ∧ t.idl = some pumpFunIdl ∧
      ∀ mint isMayhem creator data,
        let interpreted := pumpFunIdl.buildAccountsFor d "buy" (t.context d mint isMayhem creator)
        let fixed := t.buildFallbackInstruction d mint isMayhem creator data
        interpreted.toOption = fixed.toOption.map Instruction.accounts ∧
          (interpreted.toOption = none ↔ creator = none) ∧
          (fixed.toOption = none ↔ creator = none) := by
  unfold new
  rw [hprogram, best_pumpFunIdl hidl]
  refine ⟨_, rfl, rfl, fun mint isMayhem creator data => ?_⟩
  intro interpreted fixed
  cases creator with
  | none =>
      have hinterpreted : interpreted.toOption = none := buildAccountsFor_context_none _
      rw [hinterpreted]
      simp [fixed, buildFallbackInstruction, Except.toOption]
  | some creatorPk =>
      have hinterpreted : interpreted = .ok (buyAccounts d _ _ _ _ _ _) :=
        buildAccountsFor_context_some _
      rw [hinterpreted]
      simp [fixed, buildFallbackInstruction, buyAccounts, bondingCurve, Except.toOption]

theorem new_buildAccountsFor_eq_fallback_plain :
    ∃ t, new .transcript [("pumpfun", pumpFunIdl)] (sampleKey 7) .plain (sampleKey 1)
        (sampleKey 2) = .ok t ∧
      t.idl = some pumpFunIdl ∧ ∀ mint isMayhem creator data,
        let interpreted :=
          pumpFunIdl.buildAccountsFor .transcript "buy" (t.context .transcript mint isMayhem creator)
        let fixed := t.buildFallbackInstruction .transcript mint isMayhem creator data
        interpreted.toOption = fixed.toOption.map Instruction.accounts ∧
          (interpreted.toOption = none ↔ creator = none) ∧
          (fixed.toOption = none ↔ creator = none) :=
  new_buildAccountsFor_eq_fallback rfl parse_plain_pumpFunProgram

end

end BuyTemplate

end Girasol
