import Girasol.Build.Idl

/-!
# The bundled pump.fun IDL

The two instructions of `idl/pumpfun.json` with their discriminators and
accounts; no builder reads their arguments.
-/

namespace Girasol

open Foundation

/-! ## Entries -/

def accountFields (name : String) (isWritable isSigner : Bool) : List (String × Json) :=
  [("name", .string name), ("writable", .bool isWritable), ("signer", .bool isSigner)]

def namedAccount (name : String) (isWritable isSigner : Bool) : Json :=
  .object (accountFields name isWritable isSigner)

def addressAccount (name : String) (isWritable isSigner : Bool) (address : String) : Json :=
  .object (accountFields name isWritable isSigner ++ [("address", .string address)])

def bytesJson (bytes : List UInt8) : Json := .array (bytes.map fun b => .posInt b.toNat)

def constSeed (bytes : List UInt8) : Json :=
  .object [("kind", .string "const"), ("value", bytesJson bytes)]

def accountSeed (path : String) : Json :=
  .object [("kind", .string "account"), ("path", .string path)]

def pdaAccount (name : String) (isWritable isSigner : Bool) (seeds : List Json) : Json :=
  .object (accountFields name isWritable isSigner ++ [("pda", .object [("seeds", .array seeds)])])

def pdaOfAccount (name : String) (isWritable isSigner : Bool) (program : List UInt8)
    (seeds : List Json) : Json :=
  .object (accountFields name isWritable isSigner ++ [("pda", .object [
    ("program", constSeed program), ("seeds", .array seeds)])])

/-! ## The file -/

def feeProgramBytes : List UInt8 :=
  [12, 53, 255, 169, 5, 90, 142, 86, 141, 168, 247, 188, 7, 86, 21, 39, 76, 241, 201, 44, 164, 31,
    64, 0, 156, 81, 106, 164, 20, 194, 124, 112]

def globalEntry : Json := pdaAccount "global" false false [constSeed globalSeed]

def bondingCurveEntry : Json :=
  pdaAccount "bondingCurve" true false [constSeed bondingCurveSeed, accountSeed "mint"]

def systemProgramEntry : Json :=
  addressAccount "systemProgram" false false "11111111111111111111111111111111"

def creatorVaultEntry : Json :=
  pdaAccount "creatorVault" true false
    [constSeed creatorVaultSeed, accountSeed "bondingCurve.creator"]

def eventAuthorityEntry : Json :=
  pdaAccount "eventAuthority" false false [constSeed eventAuthoritySeed]

def feeConfigEntry : Json :=
  pdaOfAccount "feeConfig" false false feeProgramBytes
    [constSeed feeConfigName, constSeed feeConfigSeed]

def feeProgramEntry : Json :=
  addressAccount "feeProgram" false false "pfeeUxB6jkeY1Hxd7CsFCAjcbHA9rWtchMGdZ6VojVZ"

def buyEntries : List Json := [
  globalEntry,
  namedAccount "feeRecipient" true false,
  namedAccount "mint" false false,
  bondingCurveEntry,
  namedAccount "associatedBondingCurve" true false,
  namedAccount "associatedUser" true false,
  namedAccount "user" true true,
  systemProgramEntry,
  namedAccount "tokenProgram" false false,
  creatorVaultEntry,
  eventAuthorityEntry,
  namedAccount "program" false false,
  pdaAccount "globalVolumeAccumulator" true false [constSeed globalVolumeAccumulatorSeed],
  pdaAccount "userVolumeAccumulator" true false
    [constSeed userVolumeAccumulatorSeed, accountSeed "user"],
  feeConfigEntry,
  feeProgramEntry]

def sellEntries : List Json := [
  globalEntry,
  namedAccount "feeRecipient" true false,
  namedAccount "mint" false false,
  bondingCurveEntry,
  namedAccount "associatedBondingCurve" true false,
  namedAccount "associatedUser" true false,
  namedAccount "user" true true,
  systemProgramEntry,
  creatorVaultEntry,
  namedAccount "tokenProgram" false false,
  eventAuthorityEntry,
  namedAccount "program" false false,
  feeConfigEntry,
  feeProgramEntry]

def buyEntry : Json :=
  .object [
    ("name", .string "buy"),
    ("discriminator", bytesJson [102, 6, 61, 18, 1, 218, 235, 234]),
    ("accounts", .array buyEntries)]

def sellEntry : Json :=
  .object [
    ("name", .string "sell"),
    ("discriminator", bytesJson [51, 230, 133, 164, 1, 127, 131, 173]),
    ("accounts", .array sellEntries)]

def pumpFunIdlJson : Json :=
  .object [
    ("version", .string "0.1.0"),
    ("name", .string "pump_fun"),
    ("address", .string "6EF8rrecthR5Dkzon8Nwu78hRvfCKubJ14M5uBEwF6P"),
    ("instructions", .array [buyEntry, sellEntry])]

def pumpFunIdl : SimpleIdl where
  address := keyOf pumpFunProgram
  raw := pumpFunIdlJson

theorem load_pumpFunIdl : SimpleIdl.load pumpFunIdlJson = .ok pumpFunIdl := by
  have haddress : stringAt pumpFunIdlJson "address" = some pumpFunProgram := rfl
  simp only [SimpleIdl.load, haddress, bind, Except.bind, parse_pumpFunProgram]
  rfl

/-! ## How the entries resolve -/

section

variable {d : Derivation} {idl : SimpleIdl} {instrName name : String} {isWritable isSigner : Bool}
  {context working : Context}

@[simp] theorem jsonBytes_bytesJson (bytes : List UInt8) :
    jsonBytes (bytes.map fun b => .posInt b.toNat) = bytes := by
  simp [jsonBytes, List.filterMap_map, Json.asU64]

@[simp] theorem seedBytes_constSeed (bytes : List UInt8) :
    SimpleIdl.seedBytes instrName name working (constSeed bytes) = .ok bytes := by
  have hkind : stringAt (constSeed bytes) "kind" = some "const" := rfl
  have hvalue : arrayAt (constSeed bytes) "value" =
      some (bytes.map fun b => .posInt b.toNat) := rfl
  simp [SimpleIdl.seedBytes, hkind, hvalue]

theorem seedBytes_accountSeed {path : String} {pk : Pubkey}
    (hpath : working.lookup path = some pk) :
    SimpleIdl.seedBytes instrName name working (accountSeed path) = .ok pk := by
  have hkind : stringAt (accountSeed path) "kind" = some "account" := rfl
  have hvalue : stringAt (accountSeed path) "path" = some path := rfl
  simp [SimpleIdl.seedBytes, hkind, hvalue, hpath]

theorem mapM_two {f : Json → Except String (List UInt8)} {x y : Json} {a b : List UInt8}
    (hx : f x = .ok a) (hy : f y = .ok b) : [x, y].mapM f = .ok [a, b] := by
  rw [List.mapM_cons, List.mapM_cons, hx, hy]
  rfl

theorem resolveAccount_address {address : String} {pk : Pubkey}
    (haddress : parsePubkeyBytes address = .ok pk) (hname : name.isEmpty = false) :
    idl.resolveAccount d instrName context working
        (addressAccount name isWritable isSigner address) =
      .ok (flagged isSigner isWritable pk, (name, pk) :: working) := by
  change (parsePubkeyBytes address >>= fun pk =>
    Except.ok (flagged isSigner isWritable pk, remember name pk working)) = _
  rw [haddress]
  simp [bind, Except.bind, remember, hname]

theorem resolveAccount_pda {seeds : List Json} {found : List (List UInt8)}
    (hseeds : seeds.mapM (SimpleIdl.seedBytes instrName name working) = .ok found)
    (hname : name.isEmpty = false) :
    idl.resolveAccount d instrName context working (pdaAccount name isWritable isSigner seeds) =
      .ok (flagged isSigner isWritable (d.findProgramAddress found idl.address),
        (name, d.findProgramAddress found idl.address) :: working) := by
  change ((seeds.mapM (SimpleIdl.seedBytes instrName name working) >>= fun seeds =>
    Except.ok (d.findProgramAddress seeds idl.address)) >>= fun pk =>
      Except.ok (flagged isSigner isWritable pk, remember name pk working)) = _
  rw [hseeds]
  simp [bind, Except.bind, remember, hname]

theorem resolveAccount_pdaOf {program : List UInt8} {seeds : List Json}
    {found : List (List UInt8)} (hprogram : program.length = 32)
    (hseeds : seeds.mapM (SimpleIdl.seedBytes instrName name working) = .ok found)
    (hname : name.isEmpty = false) :
    idl.resolveAccount d instrName context working
        (pdaOfAccount name isWritable isSigner program seeds) =
      .ok (flagged isSigner isWritable (d.findProgramAddress found program),
        (name, d.findProgramAddress found program) :: working) := by
  have hpda : idl.pdaProgram context (.object [("program", constSeed program),
      ("seeds", .array seeds)]) = .ok program := by
    have hget : Json.get? (.object [("program", constSeed program), ("seeds", .array seeds)])
        "program" = some (constSeed program) := rfl
    have haddress : stringAt (constSeed program) "address" = none := rfl
    have hkind : stringAt (constSeed program) "kind" = some "const" := rfl
    have hvalue : arrayAt (constSeed program) "value" =
        some (program.map fun b => .posInt b.toNat) := rfl
    simp [SimpleIdl.pdaProgram, hget, haddress, hkind, hvalue, hprogram]
  change ((idl.pdaProgram context _ >>= fun programId =>
    seeds.mapM (SimpleIdl.seedBytes instrName name working) >>= fun seeds =>
      Except.ok (d.findProgramAddress seeds programId)) >>= fun pk =>
        Except.ok (flagged isSigner isWritable pk, remember name pk working)) = _
  rw [hpda, hseeds]
  simp [bind, Except.bind, remember, hname]

theorem resolveAccount_named :
    idl.resolveAccount d instrName context working (namedAccount name isWritable isSigner) =
      idl.resolveNamed d instrName name isSigner isWritable working := rfl

theorem resolve_globalEntry :
    idl.resolveAccount d instrName context working globalEntry =
      .ok (.readonly (d.global idl.address) false,
        ("global", d.global idl.address) :: working) :=
  resolveAccount_pda (by simp) (by decide)

theorem resolve_feeRecipient {pk : Pubkey}
    (hfee : (working.lookup "fee_recipient").or (working.lookup "feeRecipient") = some pk) :
    idl.resolveAccount d instrName context working (namedAccount "feeRecipient" true false) =
      .ok (.writable pk false, working) := by
  rw [resolveAccount_named]
  simp [SimpleIdl.resolveNamed, hfee, flagged]

theorem resolve_known {pk : Pubkey} (hpk : working.lookup name = some pk)
    (hname : name = "mint" ∨ name = "user") :
    idl.resolveAccount d instrName context working (namedAccount name isWritable isSigner) =
      .ok (flagged isSigner isWritable pk, working) := by
  rw [resolveAccount_named]
  rcases hname with rfl | rfl <;> simp [SimpleIdl.resolveNamed, hpk]

theorem resolve_bondingCurveEntry {mint : Pubkey} (hmint : working.lookup "mint" = some mint) :
    idl.resolveAccount d instrName context working bondingCurveEntry =
      .ok (.writable (d.bondingCurve idl.address mint) false,
        ("bondingCurve", d.bondingCurve idl.address mint) :: working) :=
  resolveAccount_pda (mapM_two (seedBytes_constSeed _) (seedBytes_accountSeed hmint)) (by decide)

theorem resolve_associatedBondingCurve {bondingCurve mint : Pubkey}
    (hcurve : (working.lookup "bondingCurve").or (working.lookup "bonding_curve") =
      some bondingCurve) (hmint : working.lookup "mint" = some mint) :
    let ata := d.associatedTokenAddress bondingCurve mint (SimpleIdl.contextTokenProgram working)
    idl.resolveAccount d instrName context working
        (namedAccount "associatedBondingCurve" true false) =
      .ok (.writable ata false, ("associatedBondingCurve", ata) :: working) := by
  rw [resolveAccount_named]
  simp [SimpleIdl.resolveNamed, hcurve, hmint, flagged]

theorem resolve_associatedUser {user mint : Pubkey} (huser : working.lookup "user" = some user)
    (hmint : working.lookup "mint" = some mint) :
    let ata := d.associatedTokenAddress user mint (SimpleIdl.contextTokenProgram working)
    idl.resolveAccount d instrName context working (namedAccount "associatedUser" true false) =
      .ok (.writable ata false, ("associatedUser", ata) :: working) := by
  rw [resolveAccount_named]
  simp [SimpleIdl.resolveNamed, huser, hmint, flagged]

theorem resolve_systemProgramEntry :
    idl.resolveAccount d instrName context working systemProgramEntry =
      .ok (.readonly (keyOf systemProgram) false,
        ("systemProgram", keyOf systemProgram) :: working) :=
  resolveAccount_address parse_systemProgram (by decide)

theorem resolve_tokenProgram :
    let pk := SimpleIdl.contextTokenProgram working
    idl.resolveAccount d instrName context working (namedAccount "tokenProgram" false false) =
      .ok (.readonly pk false, ("tokenProgram", pk) :: working) := by
  rw [resolveAccount_named]
  simp [SimpleIdl.resolveNamed]

theorem resolve_creatorVaultEntry {creator : Pubkey}
    (hcreator : working.lookup "bondingCurve.creator" = some creator) :
    idl.resolveAccount d instrName context working creatorVaultEntry =
      .ok (.writable (d.creatorVault idl.address creator) false,
        ("creatorVault", d.creatorVault idl.address creator) :: working) :=
  resolveAccount_pda (mapM_two (seedBytes_constSeed _) (seedBytes_accountSeed hcreator)) (by decide)

theorem resolve_creatorVaultEntry_missing
    (hcreator : working.lookup "bondingCurve.creator" = none) :
    (idl.resolveAccount d instrName context working creatorVaultEntry).toOption = none := by
  have hkind : stringAt (accountSeed "bondingCurve.creator") "kind" = some "account" := rfl
  have hpath : stringAt (accountSeed "bondingCurve.creator") "path" =
      some "bondingCurve.creator" := rfl
  have hseed : (SimpleIdl.seedBytes instrName "creatorVault" working
      (accountSeed "bondingCurve.creator")).toOption = none := by
    simp [SimpleIdl.seedBytes, hkind, hpath, hcreator, Except.toOption]
  change ((([constSeed creatorVaultSeed, accountSeed "bondingCurve.creator"].mapM
    (SimpleIdl.seedBytes instrName "creatorVault" working)) >>= fun seeds =>
      Except.ok (d.findProgramAddress seeds idl.address)) >>= fun pk =>
        Except.ok (flagged false true pk, remember "creatorVault" pk working)).toOption = none
  rw [List.mapM_cons, List.mapM_cons, seedBytes_constSeed]
  cases hfound : SimpleIdl.seedBytes instrName "creatorVault" working
      (accountSeed "bondingCurve.creator") with
  | ok seed =>
      rw [hfound] at hseed
      cases hseed
  | error e => rfl

theorem resolve_eventAuthorityEntry :
    idl.resolveAccount d instrName context working eventAuthorityEntry =
      .ok (.readonly (d.eventAuthority idl.address) false,
        ("eventAuthority", d.eventAuthority idl.address) :: working) :=
  resolveAccount_pda (by simp) (by decide)

theorem resolve_program :
    idl.resolveAccount d instrName context working (namedAccount "program" false false) =
      .ok (.readonly idl.address false, ("program", idl.address) :: working) := by
  rw [resolveAccount_named]
  simp [SimpleIdl.resolveNamed]

private theorem feeProgramBytes_eq : feeProgramBytes = keyOf feeProgram := by
  decide +kernel

theorem resolve_feeConfigEntry :
    idl.resolveAccount d instrName context working feeConfigEntry =
      .ok (.readonly d.feeConfig false, ("feeConfig", d.feeConfig) :: working) := by
  have hresolved := @resolveAccount_pdaOf d idl instrName "feeConfig" false false context working
    feeProgramBytes [constSeed feeConfigName, constSeed feeConfigSeed]
    [feeConfigName, feeConfigSeed] (by decide)
    (mapM_two (seedBytes_constSeed _) (seedBytes_constSeed _)) (by decide)
  rw [feeProgramBytes_eq] at hresolved
  rw [feeConfigEntry, feeProgramBytes_eq]
  exact hresolved

theorem resolve_feeProgramEntry :
    idl.resolveAccount d instrName context working feeProgramEntry =
      .ok (.readonly (keyOf feeProgram) false, ("feeProgram", keyOf feeProgram) :: working) :=
  resolveAccount_address parse_feeProgram (by decide)

theorem SimpleIdl.resolveAccounts_cons {account : Json} {rest : List Json} {entry : AccountMeta}
    {working' : Context} {metas : List AccountMeta}
    (hfirst : idl.resolveAccount d instrName context working account = .ok (entry, working'))
    (hrest : idl.resolveAccounts d instrName context rest working' = .ok metas) :
    idl.resolveAccounts d instrName context (account :: rest) working = .ok (entry :: metas) := by
  rw [resolveAccounts, hfirst]
  simp only [bind, Except.bind, hrest]
  rfl

/-! ## The account lists -/

/-- The accounts of `buy`, of a program, a fee recipient, a mint, a token program, a user. -/
def buyAccounts (d : Derivation) (program feeRecipient mint tokenProgram user creator : Pubkey) :
    List AccountMeta :=
  let bondingCurve := d.bondingCurve program mint
  [.readonly (d.global program) false,
    .writable feeRecipient false,
    .readonly mint false,
    .writable bondingCurve false,
    .writable (d.associatedTokenAddress bondingCurve mint tokenProgram) false,
    .writable (d.associatedTokenAddress user mint tokenProgram) false,
    .writable user true,
    .readonly (keyOf systemProgram) false,
    .readonly tokenProgram false,
    .writable (d.creatorVault program creator) false,
    .readonly (d.eventAuthority program) false,
    .readonly program false,
    .writable (d.globalVolumeAccumulator program) false,
    .writable (d.userVolumeAccumulator program user) false,
    .readonly d.feeConfig false,
    .readonly (keyOf feeProgram) false]

/-- The accounts of `sell`, of a program, a fee recipient, a mint, a token program, a user. -/
def sellAccounts (d : Derivation) (program feeRecipient mint tokenProgram user creator : Pubkey) :
    List AccountMeta :=
  let bondingCurve := d.bondingCurve program mint
  [.readonly (d.global program) false,
    .writable feeRecipient false,
    .readonly mint false,
    .writable bondingCurve false,
    .writable (d.associatedTokenAddress bondingCurve mint tokenProgram) false,
    .writable (d.associatedTokenAddress user mint tokenProgram) false,
    .writable user true,
    .readonly (keyOf systemProgram) false,
    .writable (d.creatorVault program creator) false,
    .readonly tokenProgram false,
    .readonly (d.eventAuthority program) false,
    .readonly program false,
    .readonly d.feeConfig false,
    .readonly (keyOf feeProgram) false]

def frontAccounts (d : Derivation) (program feeRecipient mint tokenProgram user : Pubkey) :
    List AccountMeta :=
  let bondingCurve := d.bondingCurve program mint
  [.readonly (d.global program) false,
    .writable feeRecipient false,
    .readonly mint false,
    .writable bondingCurve false,
    .writable (d.associatedTokenAddress bondingCurve mint tokenProgram) false,
    .writable (d.associatedTokenAddress user mint tokenProgram) false,
    .writable user true,
    .readonly (keyOf systemProgram) false]

def frontContext (d : Derivation) (program mint tokenProgram user : Pubkey) (context : Context) :
    Context :=
  let bondingCurve := d.bondingCurve program mint
  ("systemProgram", keyOf systemProgram) ::
    ("associatedUser", d.associatedTokenAddress user mint tokenProgram) ::
    ("associatedBondingCurve", d.associatedTokenAddress bondingCurve mint tokenProgram) ::
    ("bondingCurve", bondingCurve) ::
    ("global", d.global program) :: context

theorem resolve_frontEntries {mint user feeRecipient : Pubkey} {rest : List Json}
    {metas : List AccountMeta}
    (hmint : context.lookup "mint" = some mint) (huser : context.lookup "user" = some user)
    (hfee : (context.lookup "fee_recipient").or (context.lookup "feeRecipient") =
      some feeRecipient)
    (hrest : idl.resolveAccounts d instrName context rest
      (frontContext d idl.address mint (SimpleIdl.contextTokenProgram context) user context) =
        .ok metas) :
    idl.resolveAccounts d instrName context (buyEntries.take 8 ++ rest) context =
      .ok (frontAccounts d idl.address feeRecipient mint (SimpleIdl.contextTokenProgram context)
        user ++ metas) := by
  apply SimpleIdl.resolveAccounts_cons resolve_globalEntry
  apply SimpleIdl.resolveAccounts_cons
    (resolve_feeRecipient (by simpa [List.lookup_cons] using hfee))
  apply SimpleIdl.resolveAccounts_cons
    (resolve_known (by simpa [List.lookup_cons]) (Or.inl rfl))
  apply SimpleIdl.resolveAccounts_cons
    (resolve_bondingCurveEntry (by simpa [List.lookup_cons]))
  apply SimpleIdl.resolveAccounts_cons
    (resolve_associatedBondingCurve (by simp [List.lookup_cons]) (by simpa [List.lookup_cons]))
  apply SimpleIdl.resolveAccounts_cons
    (resolve_associatedUser (by simpa [List.lookup_cons]) (by simpa [List.lookup_cons]))
  apply SimpleIdl.resolveAccounts_cons
    (resolve_known (by simpa [List.lookup_cons]) (Or.inr rfl))
  apply SimpleIdl.resolveAccounts_cons resolve_systemProgramEntry
  exact hrest

theorem resolve_buyEntries {mint user feeRecipient creator : Pubkey}
    (hmint : context.lookup "mint" = some mint) (huser : context.lookup "user" = some user)
    (hfee : (context.lookup "fee_recipient").or (context.lookup "feeRecipient") =
      some feeRecipient)
    (hcreator : context.lookup "bondingCurve.creator" = some creator) :
    idl.resolveAccounts d instrName context buyEntries context =
      .ok (buyAccounts d idl.address feeRecipient mint (SimpleIdl.contextTokenProgram context)
        user creator) := by
  apply resolve_frontEntries hmint huser hfee
  apply SimpleIdl.resolveAccounts_cons resolve_tokenProgram
  apply SimpleIdl.resolveAccounts_cons
    (resolve_creatorVaultEntry (by simpa [List.lookup_cons]))
  apply SimpleIdl.resolveAccounts_cons resolve_eventAuthorityEntry
  apply SimpleIdl.resolveAccounts_cons resolve_program
  apply SimpleIdl.resolveAccounts_cons (resolveAccount_pda (by simp) (by decide))
  apply SimpleIdl.resolveAccounts_cons (resolveAccount_pda
    (mapM_two (seedBytes_constSeed _) (seedBytes_accountSeed (by simpa [List.lookup_cons])))
    (by decide))
  apply SimpleIdl.resolveAccounts_cons resolve_feeConfigEntry
  exact SimpleIdl.resolveAccounts_cons resolve_feeProgramEntry rfl

theorem resolve_buyEntries_missing
    (hcreator : context.lookup "bondingCurve.creator" = none) :
    (idl.resolveAccounts d instrName context buyEntries context).toOption = none := by
  apply SimpleIdl.resolveAccounts_missing _ _ hcreator
  · decide
  · exact ⟨creatorVaultEntry, by simp [buyEntries], fun _ => resolve_creatorVaultEntry_missing⟩

theorem pumpFunIdl_buildAccountsFor_buy :
    pumpFunIdl.buildAccountsFor d "buy" context =
      pumpFunIdl.resolveAccounts d "buy" context buyEntries context := rfl

theorem resolve_sellEntries {mint user feeRecipient creator : Pubkey}
    (hmint : context.lookup "mint" = some mint) (huser : context.lookup "user" = some user)
    (hfee : (context.lookup "fee_recipient").or (context.lookup "feeRecipient") =
      some feeRecipient)
    (hcreator : context.lookup "bondingCurve.creator" = some creator) :
    idl.resolveAccounts d instrName context sellEntries context =
      .ok (sellAccounts d idl.address feeRecipient mint (SimpleIdl.contextTokenProgram context)
        user creator) := by
  apply resolve_frontEntries hmint huser hfee
  apply SimpleIdl.resolveAccounts_cons
    (resolve_creatorVaultEntry (by simpa [List.lookup_cons]))
  apply SimpleIdl.resolveAccounts_cons resolve_tokenProgram
  apply SimpleIdl.resolveAccounts_cons resolve_eventAuthorityEntry
  apply SimpleIdl.resolveAccounts_cons resolve_program
  apply SimpleIdl.resolveAccounts_cons resolve_feeConfigEntry
  exact SimpleIdl.resolveAccounts_cons resolve_feeProgramEntry rfl

theorem pumpFunIdl_buildAccountsFor_sell :
    pumpFunIdl.buildAccountsFor d "sell" context =
      pumpFunIdl.resolveAccounts d "sell" context sellEntries context := rfl

end

end Girasol
