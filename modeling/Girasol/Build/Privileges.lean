import Girasol.Build.PumpFunIdl

/-!
# Privileges of the accounts of an instruction

An IDL flags each account of an instruction as signer or writable.  The metas
keep the order of the accounts, and not all of their flags.
-/

namespace Girasol

open Foundation

/-! ## The flags of a listed account -/

def usedName (account : Json) : Option String :=
  match stringAt account "address", account.get? "pda" with
  | none, none => stringAt account "name"
  | _, _ => none

def programNames : List String :=
  ["system_program", "systemProgram", "token_program", "tokenProgram",
    "associated_token_program", "associatedTokenProgram", "program"]

def feeRecipientNames : List String := ["fee_recipient", "feeRecipient"]

def listedName (account : Json) : String := (stringAt account "name").getD "<unnamed>"

def derivesFeeRecipient (context : Context) (earlier : List Json) : Bool :=
  (feeRecipientNames.all fun name => (context.lookup name).isNone) &&
    earlier.all fun account => !feeRecipientNames.contains (listedName account)

/-- What the flags of an account have to be so that its meta has them, by how it is resolved. -/
def KeepsFlags (context : Context) (earlier : List Json) (account : Json) : Prop :=
  match usedName account with
  | none => flagAt account "signer" = true → flagAt account "writable" = true
  | some name =>
      if name ∈ programNames then
        flagAt account "signer" = false ∧ flagAt account "writable" = false
      else if name ∈ feeRecipientNames ∧ derivesFeeRecipient context earlier = true then
        flagAt account "signer" = false
      else flagAt account "signer" = true → flagAt account "writable" = true

def FlagsMatch (account : Json) (entry : AccountMeta) : Prop :=
  entry.isSigner = flagAt account "signer" ∧ entry.isWritable = flagAt account "writable"

def knowsFeeRecipient (working : Context) : Bool :=
  ((working.lookup "fee_recipient").or (working.lookup "feeRecipient")).isSome

theorem flagsMatch_flagged (account : Json) (pk : Pubkey) :
    FlagsMatch account (flagged (flagAt account "signer") (flagAt account "writable") pk) ↔
      (flagAt account "signer" = true → flagAt account "writable" = true) := by
  unfold FlagsMatch flagged
  cases flagAt account "signer" <;> cases flagAt account "writable" <;>
    simp [AccountMeta.writable, AccountMeta.readonly]

theorem flagsMatch_readonly (account : Json) (pk : Pubkey) :
    FlagsMatch account (.readonly pk false) ↔
      flagAt account "signer" = false ∧ flagAt account "writable" = false := by
  unfold FlagsMatch
  cases flagAt account "signer" <;> cases flagAt account "writable" <;>
    simp [AccountMeta.readonly]

theorem flagsMatch_derived (account : Json) (pk : Pubkey) :
    FlagsMatch account (flagged false (flagAt account "writable") pk) ↔
      flagAt account "signer" = false := by
  unfold FlagsMatch flagged
  cases flagAt account "signer" <;> cases flagAt account "writable" <;>
    simp [AccountMeta.writable, AccountMeta.readonly]

section

variable {d : Derivation} {idl : SimpleIdl} {instrName : String} {context : Context}

def namedEntry (name : String) (isSigner isWritable : Bool) (working : Context) (pk : Pubkey) :
    AccountMeta :=
  if name ∈ programNames then .readonly pk false
  else if name ∈ feeRecipientNames ∧ knowsFeeRecipient working = false then
    flagged false isWritable pk
  else flagged isSigner isWritable pk

section

variable {name : String} {isSigner isWritable : Bool} {working working' : Context}
  {entry : AccountMeta}

theorem namedEntry_of_notMem (hprogram : name ∉ programNames) (hfee : name ∉ feeRecipientNames)
    (pk : Pubkey) :
    namedEntry name isSigner isWritable working pk = flagged isSigner isWritable pk := by
  rw [namedEntry, if_neg hprogram, if_neg fun h => hfee h.1]

@[simp] theorem mem_feeRecipientNames : name ∈ feeRecipientNames ↔
    name = "fee_recipient" ∨ name = "feeRecipient" := by
  simp [feeRecipientNames]

theorem resolveNamed_feeRecipient (hname : name ∈ feeRecipientNames) :
    idl.resolveNamed d instrName name isSigner isWritable working =
      .ok (((working.lookup "fee_recipient").or (working.lookup "feeRecipient")).elim
        (flagged false isWritable (d.global idl.address),
          (name, d.global idl.address) :: working)
        fun pk => (flagged isSigner isWritable pk, working)) := by
  rcases mem_feeRecipientNames.mp hname with rfl | rfl
  · cases hknown : (working.lookup "fee_recipient").or (working.lookup "feeRecipient") <;>
      simp [SimpleIdl.resolveNamed, hknown]
  · cases hknown : (working.lookup "fee_recipient").or (working.lookup "feeRecipient") <;>
      simp [SimpleIdl.resolveNamed, hknown]

private theorem feeRecipient_entry (hname : name ∈ feeRecipientNames)
    (h : idl.resolveNamed d instrName name isSigner isWritable working = .ok (entry, working')) :
    ∃ pk, entry = namedEntry name isSigner isWritable working pk := by
  have hother : name ∉ programNames := by
    rcases mem_feeRecipientNames.mp hname with rfl | rfl <;> decide
  rw [resolveNamed_feeRecipient hname] at h
  cases hknown : (working.lookup "fee_recipient").or (working.lookup "feeRecipient") with
  | some pk =>
      rw [hknown] at h
      cases h
      have hknows : knowsFeeRecipient working = true := by rw [knowsFeeRecipient, hknown]; rfl
      exact ⟨pk, by rw [namedEntry, if_neg hother, hknows, if_neg fun h => absurd h.2 (by decide)]⟩
  | none =>
      rw [hknown] at h
      cases h
      have hknows : knowsFeeRecipient working = false := by rw [knowsFeeRecipient, hknown]; rfl
      exact ⟨_, by rw [namedEntry, if_neg hother, if_pos ⟨hname, hknows⟩]⟩

private theorem resolveNamed_entry
    (h : idl.resolveNamed d instrName name isSigner isWritable working = .ok (entry, working')) :
    ∃ pk, entry = namedEntry name isSigner isWritable working pk := by
  by_cases hfeeName : name ∈ feeRecipientNames
  · exact feeRecipient_entry hfeeName h
  have hflagged (hother : name ∉ programNames) (pk : Pubkey) :
      flagged isSigner isWritable pk = namedEntry name isSigner isWritable working pk :=
    (namedEntry_of_notMem hother hfeeName pk).symm
  have hreadonly (hmem : name ∈ programNames) (pk : Pubkey) :
      .readonly pk false = namedEntry name isSigner isWritable working pk := (if_pos hmem).symm
  unfold SimpleIdl.resolveNamed at h
  split_ifs at h with hsystem htoken hassociated huser hcurve hfee hprogram
  · cases h
    exact ⟨_, hreadonly (by rcases hsystem with rfl | rfl <;> decide) _⟩
  · cases h
    exact ⟨_, hreadonly (by rcases htoken with rfl | rfl <;> decide) _⟩
  · cases h
    exact ⟨_, hreadonly (by rcases hassociated with rfl | rfl <;> decide) _⟩
  · split at h
    case h_2 => cases h
    case h_1 =>
      cases h
      exact ⟨_, hflagged (by rcases huser with rfl | rfl <;> decide) _⟩
  · split at h
    case h_2 => cases h
    case h_1 =>
      cases h
      exact ⟨_, hflagged (by rcases hcurve with rfl | rfl <;> decide) _⟩
  · exact absurd (mem_feeRecipientNames.mpr hfee) hfeeName
  · cases h
    exact ⟨_, hreadonly (by subst hprogram; decide) _⟩
  · have hother : name ∉ programNames := by
      simp only [programNames, List.mem_cons, List.not_mem_nil, or_false]
      tauto
    split at h
    case h_2 => cases h
    case h_1 =>
      cases h
      exact ⟨_, hflagged hother _⟩

theorem knowsFeeRecipient_cons (hname : name ∈ feeRecipientNames) (pk : Pubkey)
    (working : Context) : knowsFeeRecipient ((name, pk) :: working) = true := by
  rcases mem_feeRecipientNames.mp hname with rfl | rfl
  · rfl
  · rw [knowsFeeRecipient, Option.isSome_or]
    exact Bool.or_true _

private theorem knows_of_resolveNamed (hname : name ∈ feeRecipientNames)
    (h : idl.resolveNamed d instrName name isSigner isWritable working = .ok (entry, working')) :
    knowsFeeRecipient working' = true := by
  rw [resolveNamed_feeRecipient hname] at h
  cases hknown : (working.lookup "fee_recipient").or (working.lookup "feeRecipient") with
  | some pk =>
      rw [hknown] at h
      cases h
      rw [knowsFeeRecipient, hknown]
      rfl
  | none =>
      rw [hknown] at h
      cases h
      exact knowsFeeRecipient_cons hname _ working

end

section

variable {working working' : Context} {account : Json} {entry : AccountMeta} {name : String}

theorem resolveAccount_flags
    (h : idl.resolveAccount d instrName context working account = .ok (entry, working')) :
    ∃ pk, entry =
      match usedName account with
      | none => flagged (flagAt account "signer") (flagAt account "writable") pk
      | some name =>
          namedEntry name (flagAt account "signer") (flagAt account "writable") working pk := by
  unfold SimpleIdl.resolveAccount at h
  unfold usedName
  split at h
  case h_1 addr haddr =>
    obtain ⟨pk, -, hpk⟩ := bind_eq_ok.mp h
    cases hpk
    exact ⟨pk, by rw [haddr]⟩
  case h_2 haddr =>
    split at h
    case h_1 pda hpda =>
      obtain ⟨pk, -, hpk⟩ := bind_eq_ok.mp h
      cases hpk
      exact ⟨pk, by rw [haddr, hpda]⟩
    case h_2 hpda =>
      split at h
      case h_1 name hname =>
        rw [haddr, hpda, hname]
        exact resolveNamed_entry h
      case h_2 => cases h

private theorem knowsFeeRecipient_remember (hname : name ∈ feeRecipientNames) (pk : Pubkey) :
    knowsFeeRecipient (remember name pk working) = true := by
  have hnonempty : name.isEmpty = false := by
    rcases mem_feeRecipientNames.mp hname with rfl | rfl <;> decide
  rw [remember, hnonempty]
  exact knowsFeeRecipient_cons hname pk working

private theorem knows_of_resolveAccount (hname : listedName account ∈ feeRecipientNames)
    (h : idl.resolveAccount d instrName context working account = .ok (entry, working')) :
    knowsFeeRecipient working' = true := by
  unfold SimpleIdl.resolveAccount at h
  split at h
  case h_1 =>
    obtain ⟨pk, -, hpk⟩ := bind_eq_ok.mp h
    cases hpk
    exact knowsFeeRecipient_remember hname pk
  case h_2 =>
    split at h
    case h_1 =>
      obtain ⟨pk, -, hpk⟩ := bind_eq_ok.mp h
      cases hpk
      exact knowsFeeRecipient_remember hname pk
    case h_2 =>
      split at h
      case h_1 name hlisted =>
        rw [listedName, hlisted] at hname
        exact knows_of_resolveNamed hname h
      case h_2 => cases h

theorem knowsFeeRecipient_resolveAccount
    (h : idl.resolveAccount d instrName context working account = .ok (entry, working')) :
    knowsFeeRecipient working' =
      (knowsFeeRecipient working || feeRecipientNames.contains (listedName account)) := by
  by_cases hname : listedName account ∈ feeRecipientNames
  · rw [knows_of_resolveAccount hname h, List.contains_iff_mem.mpr hname, Bool.or_true]
  · have hother (path : String) (hpath : path ∈ feeRecipientNames) :
        working'.lookup path = working.lookup path :=
      SimpleIdl.lookup_resolveAccount h fun heq => hname (by rwa [listedName, heq])
    have hcontains : feeRecipientNames.contains (listedName account) = false := by
      rw [← Bool.not_eq_true, List.contains_iff_mem]
      exact hname
    rw [knowsFeeRecipient, hother _ (by decide), hother _ (by decide), hcontains, Bool.or_false]
    rfl

private theorem derivesFeeRecipient_concat (context : Context) (earlier : List Json)
    (account : Json) :
    derivesFeeRecipient context (earlier ++ [account]) =
      (derivesFeeRecipient context earlier &&
        !feeRecipientNames.contains (listedName account)) := by
  simp [derivesFeeRecipient, Bool.and_assoc]

private theorem flagsMatch_iff {earlier : List Json}
    (hknown : knowsFeeRecipient working = !derivesFeeRecipient context earlier)
    (h : idl.resolveAccount d instrName context working account = .ok (entry, working')) :
    FlagsMatch account entry ↔ KeepsFlags context earlier account := by
  obtain ⟨pk, hentry⟩ := resolveAccount_flags h
  have hderives : derivesFeeRecipient context earlier = true ↔
      knowsFeeRecipient working = false := by
    rw [hknown, Bool.not_eq_false']
  rw [hentry]
  unfold KeepsFlags
  cases usedName account with
  | none => exact flagsMatch_flagged account pk
  | some name =>
      simp only [namedEntry, hderives]
      split
      · exact flagsMatch_readonly account pk
      · split
        · exact flagsMatch_derived account pk
        · exact flagsMatch_flagged account pk

end

/-- The context that a list of accounts leaves. -/
def contextAfter (d : Derivation) (idl : SimpleIdl) (instrName : String) (context : Context) :
    List Json → Context → Except String Context
  | [], working => .ok working
  | account :: rest, working => do
      let (_, working) ← idl.resolveAccount d instrName context working account
      contextAfter d idl instrName context rest working

theorem resolveAccounts_entries {accounts earlier : List Json} {working : Context}
    {metas : List AccountMeta}
    (hknown : knowsFeeRecipient working = !derivesFeeRecipient context earlier)
    (h : idl.resolveAccounts d instrName context accounts working = .ok metas) :
    metas.length = accounts.length ∧ ∀ i account, accounts[i]? = some account →
      ∃ before after entry,
        contextAfter d idl instrName context (accounts.take i) working = .ok before ∧
        idl.resolveAccount d instrName context before account = .ok (entry, after) ∧
        metas[i]? = some entry ∧
        (FlagsMatch account entry ↔ KeepsFlags context (earlier ++ accounts.take i) account) := by
  induction accounts generalizing earlier working metas with
  | nil =>
      cases h
      exact ⟨rfl, fun i account hi => by cases hi⟩
  | cons first rest ih =>
      obtain ⟨⟨entry, working'⟩, hfirst, h⟩ := bind_eq_ok.mp h
      obtain ⟨entries, hrest, h⟩ := bind_eq_ok.mp h
      cases h
      have hknown' : knowsFeeRecipient working' =
          !derivesFeeRecipient context (earlier ++ [first]) := by
        rw [knowsFeeRecipient_resolveAccount hfirst, derivesFeeRecipient_concat, hknown,
          Bool.not_and, Bool.not_not]
      obtain ⟨hlength, hentries⟩ := ih hknown' hrest
      refine ⟨by rw [List.length_cons, List.length_cons, hlength], ?_⟩
      intro i account hi
      cases i with
      | zero =>
          cases hi
          refine ⟨working, working', entry, rfl, hfirst, rfl, ?_⟩
          rw [List.take_zero, List.append_nil]
          exact flagsMatch_iff hknown hfirst
      | succ i =>
          obtain ⟨before, after, found, hbefore, hresolve, hfound, hmatch⟩ := hentries i account hi
          refine ⟨before, after, found, ?_, hresolve, hfound, ?_⟩
          · rw [List.take_succ_cons, contextAfter, hfirst]
            exact hbefore
          · rw [hmatch, List.take_succ_cons, List.append_assoc, List.singleton_append]

end

/-! ## The administrator of the fee program -/

def updateFeeConfigAccounts : List Json := [
  pdaAccount "feeConfig" true false [constSeed feeConfigName, accountSeed "configProgramId"],
  namedAccount "admin" false true,
  namedAccount "configProgramId" false false,
  eventAuthorityEntry,
  namedAccount "program" false false]

/-- An instruction of `idl/pumpfunfees.json` whose signer is not writable. -/
def updateFeeConfigEntry : Json :=
  .object [
    ("name", .string "update_fee_config"),
    ("discriminator", bytesJson [104, 184, 103, 242, 88, 151, 107, 20]),
    ("accounts", .array updateFeeConfigAccounts)]

def pumpFunFeesIdl : SimpleIdl where
  address := keyOf feeProgram
  raw := .object [
    ("address", .string feeProgram),
    ("version", .string "0.1.0"),
    ("name", .string "pump_fees"),
    ("instructions", .array [updateFeeConfigEntry])]

theorem resolve_listed {d : Derivation} {idl : SimpleIdl} {instrName name : String}
    {context working : Context} {isWritable isSigner : Bool} {pk : Pubkey}
    (hpk : working.lookup name = some pk) (hname : name = "admin" ∨ name = "configProgramId") :
    idl.resolveAccount d instrName context working (namedAccount name isWritable isSigner) =
      .ok (flagged isSigner isWritable pk, working) := by
  rw [resolveAccount_named]
  rcases hname with rfl | rfl <;> simp [SimpleIdl.resolveNamed, hpk]

def adminKey : Pubkey := List.replicate 32 7

def feeContext : Context := [("admin", adminKey), ("configProgramId", keyOf pumpFunProgram)]

def updateFeeConfigMetas : List AccountMeta := [
  .writable (Derivation.transcript.findProgramAddress
    [feeConfigName, keyOf pumpFunProgram] (keyOf feeProgram)) false,
  .writable adminKey true,
  .readonly (keyOf pumpFunProgram) false,
  .readonly (Derivation.transcript.eventAuthority (keyOf feeProgram)) false,
  .readonly (keyOf feeProgram) false]

theorem build_updateFeeConfig :
    pumpFunFeesIdl.buildAccountsFor .transcript "update_fee_config" feeContext =
      .ok updateFeeConfigMetas := by
  change pumpFunFeesIdl.resolveAccounts .transcript "update_fee_config" feeContext
    updateFeeConfigAccounts feeContext = _
  have hprogram : feeContext.lookup "configProgramId" = some (keyOf pumpFunProgram) := rfl
  apply SimpleIdl.resolveAccounts_cons
    (resolveAccount_pda (mapM_two (seedBytes_constSeed _) (seedBytes_accountSeed hprogram))
      (by decide))
  apply SimpleIdl.resolveAccounts_cons (resolve_listed rfl (Or.inl rfl))
  apply SimpleIdl.resolveAccounts_cons (resolve_listed rfl (Or.inr rfl))
  apply SimpleIdl.resolveAccounts_cons resolve_eventAuthorityEntry
  apply SimpleIdl.resolveAccounts_cons resolve_program
  rfl

/-! ## The metas and the flags of the listed accounts -/

def SimpleIdl.listedAccounts (idl : SimpleIdl) (instrName : String) : Option (List Json) :=
  (idl.findInstruction instrName).toOption.bind fun instr => arrayAt instr "accounts"

/--
The metas stand for the listed accounts in their order.  A meta has the flags of
its account exactly under a condition on how the account is resolved.
-/
theorem buildAccountsFor_flags_iff {d : Derivation} {idl : SimpleIdl} {instrName : String}
    {context : Context} {metas : List AccountMeta}
    (h : idl.buildAccountsFor d instrName context = .ok metas) :
    ∃ accounts, idl.listedAccounts instrName = some accounts ∧ metas.length = accounts.length ∧
      ∀ i account, accounts[i]? = some account → ∃ before after entry,
        contextAfter d idl instrName context (accounts.take i) context = .ok before ∧
        idl.resolveAccount d instrName context before account = .ok (entry, after) ∧
        metas[i]? = some entry ∧
        (FlagsMatch account entry ↔ KeepsFlags context (accounts.take i) account) := by
  obtain ⟨instr, hinstr, h⟩ := bind_eq_ok.mp h
  split at h
  case h_2 => cases h
  case h_1 accounts haccounts =>
    change idl.resolveAccounts d instrName context accounts context = .ok metas at h
    have hstart : knowsFeeRecipient context = !derivesFeeRecipient context [] := by
      simp only [knowsFeeRecipient, derivesFeeRecipient, feeRecipientNames, List.all_cons,
        List.all_nil, Bool.and_true]
      cases context.lookup "fee_recipient" <;> cases context.lookup "feeRecipient" <;> rfl
    obtain ⟨hlength, hentries⟩ := resolveAccounts_entries hstart h
    refine ⟨accounts, ?_, hlength, hentries⟩
    rw [SimpleIdl.listedAccounts, hinstr]
    exact haccounts

theorem buildAccountsFor_flags_iff_update :
    ∃ accounts, pumpFunFeesIdl.listedAccounts "update_fee_config" = some accounts ∧
      updateFeeConfigMetas.length = accounts.length ∧
      ∀ i account, accounts[i]? = some account → ∃ before after entry,
        contextAfter .transcript pumpFunFeesIdl "update_fee_config" feeContext
          (accounts.take i) feeContext = .ok before ∧
        pumpFunFeesIdl.resolveAccount .transcript "update_fee_config" feeContext before account =
          .ok (entry, after) ∧
        updateFeeConfigMetas[i]? = some entry ∧
        (FlagsMatch account entry ↔ KeepsFlags feeContext (accounts.take i) account) :=
  buildAccountsFor_flags_iff build_updateFeeConfig

theorem signer_made_writable :
    pumpFunFeesIdl.buildAccountsFor .transcript "update_fee_config" feeContext =
        .ok updateFeeConfigMetas ∧
      pumpFunFeesIdl.listedAccounts "update_fee_config" = some updateFeeConfigAccounts ∧
      updateFeeConfigAccounts[1]? = some (namedAccount "admin" false true) ∧
      updateFeeConfigMetas[1]? = some (.writable adminKey true) ∧
      ¬ FlagsMatch (namedAccount "admin" false true) (.writable adminKey true) := by
  refine ⟨build_updateFeeConfig, rfl, rfl, rfl, fun hmatch => ?_⟩
  have hwritable := hmatch.2
  cases hwritable

end Girasol
