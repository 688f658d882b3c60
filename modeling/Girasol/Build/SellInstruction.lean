import Girasol.Build.BuyTemplate
import Girasol.Sell.Booking

/-!
# The sell instruction, real and simulated

Real mode assembles the instruction by hand.  A dry run asks the IDLs for the
accounts first, and leaves the fee program out of what they give.
-/

namespace Girasol

open Foundation

section

variable (p : Platform) (d : Derivation) (idls : List (String × SimpleIdl)) (cfg : Settings)
  (order : SellOrder) (env : SaleEnv) (feeRecipient user : Pubkey)

/-- The instruction `sell_token` sends in real mode. -/
def realSellInstruction : Except String Instruction := do
  let mint ← p.parsePubkey order.mint
  let program ← p.parsePubkey cfg.pumpFunProgram
  let creator ← match env.creator with
    | some creator => .ok creator
    | none => .error "Creator required for sell"
  return sellInstruction p cfg order
    { env with sellAccounts :=
        sellAccounts d program feeRecipient mint env.tokenProgram user creator } program

/-! ## The dry run -/

def getSellDiscriminator (idl : Option SimpleIdl) : List UInt8 :=
  (idl.bind fun idl => (idl.getInstructionDiscriminator d "sell").toOption).getD
    (d.anchorDiscriminator "sell")

/-- The borsh encoding of `SellArgs`. -/
def sellArgs (amount minSolOutput : Nat) : List UInt8 := leBytes 8 amount ++ leBytes 8 minSolOutput

def sellContext (mint creator : Pubkey) : Context := [
  ("feeProgram", keyOf feeProgram),
  ("fee_program", keyOf feeProgram),
  ("feeRecipient", feeRecipient),
  ("fee_recipient", feeRecipient),
  ("bondingCurve.creator", creator),
  ("bonding_curve.creator", creator),
  ("user", user),
  ("mint", mint)]

def sellFromIdls (mint creator : Pubkey) (args : List UInt8) : Option Instruction :=
  preferredIdls.findSome? fun key =>
    (idls.lookup key).bind fun idl =>
      (idl.buildAccountsFor d "sell" (sellContext feeRecipient user mint creator)).toOption.map
        fun metas =>
          { programId := idl.address
            accounts := metas.filter fun entry => entry.pubkey != keyOf feeProgram
            data := getSellDiscriminator d (some idl) ++ args }

/-- `build_sell_instruction`. -/
def buildSellInstruction (programId : Pubkey) (amount minSolOutput : Nat) :
    Except String Instruction := do
  let mint ← p.parsePubkey order.mint
  let creator ← match env.creator with
    | some creator => .ok creator
    | none => .error "creator_pubkey is required for sell instruction"
  let args := sellArgs amount minSolOutput
  match sellFromIdls d idls feeRecipient user mint creator args with
  | some ix => .ok ix
  | none => .ok {
      programId := programId
      accounts := sellAccounts d programId feeRecipient mint (keyOf token2022Program) user creator
      data := getSellDiscriminator d none ++ args }

/-- The instruction `sell_token` simulates in a dry run. -/
def dryRunSellInstruction : Except String Instruction := do
  let programId ← p.parsePubkey cfg.pumpFunProgram
  buildSellInstruction p d idls order env feeRecipient user programId order.amount
    (minSolWithSlippage p cfg order)

/-! ## When the dry run stands for the sale -/

def extraAccount : Option Pubkey :=
  order.extraPumpAccount.bind fun extra => (p.parsePubkey extra).toOption

/--
The sale cannot be built at all, or no IDL resolves its accounts, the token is
under Token-2022 and the order carries no further account.
-/
def DryRunFaithful : Prop :=
  ∀ mint program creator, p.parsePubkey order.mint = .ok mint →
    p.parsePubkey cfg.pumpFunProgram = .ok program → env.creator = some creator →
    (∀ key ∈ preferredIdls, ∀ idl, idls.lookup key = some idl →
      (idl.buildAccountsFor d "sell" (sellContext feeRecipient user mint creator)).toOption =
        none) ∧
    env.tokenProgram = keyOf token2022Program ∧ extraAccount p order = none

end

section

variable {p : Platform} {d : Derivation} {idls : List (String × SimpleIdl)} {cfg : Settings}
  {order : SellOrder} {env : SaleEnv} {feeRecipient user mint program creator : Pubkey}
  {args : List UInt8}

theorem sellFromIdls_eq_none :
    sellFromIdls d idls feeRecipient user mint creator args = none ↔
      ∀ key ∈ preferredIdls, ∀ idl, idls.lookup key = some idl →
        (idl.buildAccountsFor d "sell" (sellContext feeRecipient user mint creator)).toOption =
          none := by
  simp [sellFromIdls, List.findSome?_eq_none_iff, Option.bind_eq_none_iff]

theorem sellFromIdls_feeProgram {ix : Instruction}
    (hfound : sellFromIdls d idls feeRecipient user mint creator args = some ix) :
    ∀ entry ∈ ix.accounts, entry.pubkey ≠ keyOf feeProgram := by
  obtain ⟨key, -, hkey⟩ := List.exists_of_findSome?_eq_some hfound
  obtain ⟨idl, -, hidl⟩ := Option.bind_eq_some_iff.mp hkey
  obtain ⟨metas, -, hix⟩ := Option.map_eq_some_iff.mp hidl
  subst hix
  intro entry hentry
  simpa using (List.mem_filter.mp hentry).2

theorem feeProgram_mem_sellAccounts (tokenProgram : Pubkey) :
    AccountMeta.readonly (keyOf feeProgram) false ∈
      sellAccounts d program feeRecipient mint tokenProgram user creator := by
  simp [sellAccounts]

private theorem sellAccounts_append_eq_iff {t t' : Pubkey} {extra : List AccountMeta} :
    sellAccounts d program feeRecipient mint t user creator =
        sellAccounts d program feeRecipient mint t' user creator ++ extra ↔
      t' = t ∧ extra = [] := by
  constructor
  · intro h
    have hlength := congrArg List.length h
    have hextra : extra = [] := by
      apply List.eq_nil_of_length_eq_zero
      simpa [sellAccounts] using hlength
    have htoken := congrArg (fun metas => (metas[9]?).map AccountMeta.pubkey) h
    simp only [sellAccounts, AccountMeta.readonly] at htoken
    exact ⟨(Option.some.inj htoken).symm, hextra⟩
  · rintro ⟨rfl, rfl⟩
    exact (List.append_nil _).symm

section

variable (hmint : p.parsePubkey order.mint = .ok mint)
  (hprogram : p.parsePubkey cfg.pumpFunProgram = .ok program)
  (hcreator : env.creator = some creator)

include hmint hprogram hcreator

theorem realSellInstruction_eq :
    realSellInstruction p d cfg order env feeRecipient user = .ok {
      programId := program
      accounts :=
        sellAccounts d program feeRecipient mint env.tokenProgram user creator ++
          (extraAccount p order).toList.map fun pk => .readonly pk false
      data := sellDiscriminator ++
        sellArgs order.amount (minSolWithSlippage p cfg order) } := by
  unfold realSellInstruction
  rw [hmint, hprogram, hcreator]
  rfl

theorem dryRunSellInstruction_eq :
    dryRunSellInstruction p d idls cfg order env feeRecipient user =
      .ok ((sellFromIdls d idls feeRecipient user mint creator
        (sellArgs order.amount (minSolWithSlippage p cfg order))).getD {
          programId := program
          accounts :=
            sellAccounts d program feeRecipient mint (keyOf token2022Program) user creator
          data := d.anchorDiscriminator "sell" ++
            sellArgs order.amount (minSolWithSlippage p cfg order) }) := by
  unfold dryRunSellInstruction buildSellInstruction
  rw [hprogram, hmint, hcreator]
  cases hfound : sellFromIdls d idls feeRecipient user mint creator
    (sellArgs order.amount (minSolWithSlippage p cfg order)) <;>
      simp [bind, Except.bind, hfound, getSellDiscriminator]

theorem dryRunSellInstruction_eq_real_iff
    (hsell : d.anchorDiscriminator "sell" = sellDiscriminator) :
    dryRunSellInstruction p d idls cfg order env feeRecipient user =
        realSellInstruction p d cfg order env feeRecipient user ↔
      (∀ key ∈ preferredIdls, ∀ idl, idls.lookup key = some idl →
        (idl.buildAccountsFor d "sell" (sellContext feeRecipient user mint creator)).toOption =
          none) ∧
      env.tokenProgram = keyOf token2022Program ∧ extraAccount p order = none := by
  rw [dryRunSellInstruction_eq hmint hprogram hcreator,
    realSellInstruction_eq hmint hprogram hcreator, hsell, Except.ok.injEq]
  cases hfound : sellFromIdls d idls feeRecipient user mint creator
      (sellArgs order.amount (minSolWithSlippage p cfg order)) with
  | some ix =>
      constructor
      · intro hsame
        have hmem : AccountMeta.readonly (keyOf feeProgram) false ∈ ix.accounts := by
          rw [show ix = _ from hsame]
          exact List.mem_append_left _ (feeProgram_mem_sellAccounts env.tokenProgram)
        exact absurd rfl (sellFromIdls_feeProgram hfound _ hmem)
      · rintro ⟨hnone, -⟩
        rw [sellFromIdls_eq_none.mpr hnone] at hfound
        cases hfound
  | none =>
      rw [and_iff_right (sellFromIdls_eq_none.mp hfound)]
      simp only [Option.getD_none, Instruction.mk.injEq, true_and, and_true]
      rw [sellAccounts_append_eq_iff]
      cases extraAccount p order <;> simp

end

private theorem buildAccountsFor_sellContext :
    pumpFunIdl.buildAccountsFor d "sell" (sellContext feeRecipient user mint creator) =
      .ok (sellAccounts d pumpFunIdl.address feeRecipient mint (keyOf token2022Program) user
        creator) := by
  rw [pumpFunIdl_buildAccountsFor_sell]
  have htokenProgram : SimpleIdl.contextTokenProgram (sellContext feeRecipient user mint creator) =
      keyOf token2022Program := by
    simp [SimpleIdl.contextTokenProgram, sellContext, List.lookup_cons]
  rw [← htokenProgram]
  apply resolve_sellEntries <;> simp [sellContext, List.lookup_cons]

theorem not_dryRunFaithful_of_pumpFunIdl (hidl : idls.lookup "pumpfun" = some pumpFunIdl)
    (hmint : p.parsePubkey order.mint = .ok mint)
    (hprogram : p.parsePubkey cfg.pumpFunProgram = .ok program)
    (hcreator : env.creator = some creator) :
    ¬ DryRunFaithful p d idls cfg order env feeRecipient user := by
  intro hfaithful
  have hnone := (hfaithful mint program creator hmint hprogram hcreator).1 "pumpfun"
    (by simp [preferredIdls]) pumpFunIdl hidl
  rw [buildAccountsFor_sellContext] at hnone
  cases hnone

theorem dryRunFaithful_of_eq (hsell : d.anchorDiscriminator "sell" = sellDiscriminator)
    (hsame : (dryRunSellInstruction p d idls cfg order env feeRecipient user).toOption =
      (realSellInstruction p d cfg order env feeRecipient user).toOption) :
    DryRunFaithful p d idls cfg order env feeRecipient user := by
  intro mint program creator hmint hprogram hcreator
  apply (dryRunSellInstruction_eq_real_iff hmint hprogram hcreator hsell).mp
  rw [dryRunSellInstruction_eq hmint hprogram hcreator,
    realSellInstruction_eq hmint hprogram hcreator] at hsame ⊢
  exact congrArg Except.ok (Option.some.inj hsame)

private theorem eq_of_dryRunFaithful (hsell : d.anchorDiscriminator "sell" = sellDiscriminator)
    (hfaithful : DryRunFaithful p d idls cfg order env feeRecipient user) :
    (dryRunSellInstruction p d idls cfg order env feeRecipient user).toOption =
      (realSellInstruction p d cfg order env feeRecipient user).toOption := by
  cases hmint : p.parsePubkey order.mint with
  | error e =>
      cases hprogram : p.parsePubkey cfg.pumpFunProgram <;>
        simp [dryRunSellInstruction, buildSellInstruction, realSellInstruction, hmint, hprogram,
          bind, Except.bind, Except.toOption]
  | ok mint =>
      cases hprogram : p.parsePubkey cfg.pumpFunProgram with
      | error e =>
          simp [dryRunSellInstruction, realSellInstruction, hmint, hprogram, bind, Except.bind,
            Except.toOption]
      | ok program =>
          cases hcreator : env.creator with
          | none =>
              simp [dryRunSellInstruction, buildSellInstruction, realSellInstruction, hmint,
                hprogram, hcreator, bind, Except.bind, Except.toOption]
          | some creator =>
              apply congrArg Except.toOption
              apply (dryRunSellInstruction_eq_real_iff hmint hprogram hcreator hsell).mpr
              exact hfaithful mint program creator hmint hprogram hcreator

/-- A dry run simulates the sale of real mode only under these conditions. -/
theorem dryRun_faithful_iff (hsell : d.anchorDiscriminator "sell" = sellDiscriminator) :
    (dryRunSellInstruction p d idls cfg order env feeRecipient user).toOption =
        (realSellInstruction p d cfg order env feeRecipient user).toOption ↔
      DryRunFaithful p d idls cfg order env feeRecipient user :=
  ⟨dryRunFaithful_of_eq hsell, eq_of_dryRunFaithful hsell⟩

end

theorem dryRun_faithful_iff_plain :
    (dryRunSellInstruction .plain .transcript [("pumpfun", pumpFunIdl)] .plain .plain
        .unreachable (sampleKey 1) (sampleKey 7)).toOption =
      (realSellInstruction .plain .transcript .plain .plain .unreachable (sampleKey 1)
        (sampleKey 7)).toOption ↔
        DryRunFaithful .plain .transcript [("pumpfun", pumpFunIdl)] .plain .plain .unreachable
          (sampleKey 1) (sampleKey 7) :=
  dryRun_faithful_iff rfl

theorem dryRun_unfaithful :
    (dryRunSellInstruction .plain .transcript [("pumpfun", pumpFunIdl)] .plain .plain
        { SaleEnv.unreachable with tokenProgram := keyOf token2022Program } (sampleKey 1)
        (sampleKey 7)).toOption ≠
      (realSellInstruction .plain .transcript .plain .plain
        { SaleEnv.unreachable with tokenProgram := keyOf token2022Program } (sampleKey 1)
        (sampleKey 7)).toOption := by
  have hmint : Platform.plain.parsePubkey SellOrder.plain.mint =
      .ok (keyOf SellOrder.plain.mint) := by
    decide +kernel
  have hprogram : Platform.plain.parsePubkey Settings.plain.pumpFunProgram =
      .ok (keyOf pumpFunProgram) := parse_plain_pumpFunProgram
  intro hsame
  exact not_dryRunFaithful_of_pumpFunIdl rfl hmint hprogram rfl (dryRunFaithful_of_eq rfl hsame)

end Girasol
