import Girasol.Build.Derivation
import Girasol.Foundation.Json

/-!
# Accounts from an IDL

`buildAccountsFor` interprets the description of an instruction: it resolves its
accounts in order, from a fixed address, from the seeds of a program address, or
by name from a context that grows with every account.
-/

namespace Girasol

open Foundation

structure SimpleIdl where
  address : Pubkey
  raw : Json

/-- A key is looked up where it was inserted last. -/
abbrev Context := List (String × Pubkey)

/-- The names in a context, for the messages; a hash map lists them in any order. -/
def Context.keys (context : Context) : String :=
  "[" ++ ", ".intercalate (context.map fun entry => "\"" ++ entry.1 ++ "\"") ++ "]"

def remember (name : String) (pk : Pubkey) (context : Context) : Context :=
  if name.isEmpty then context else (name, pk) :: context

def flagged (isSigner isWritable : Bool) (pk : Pubkey) : AccountMeta :=
  if isSigner then .writable pk true
  else if isWritable then .writable pk false
  else .readonly pk false

def jsonBytes (items : List Json) : List UInt8 :=
  items.filterMap fun n => n.asU64.map Nat.toUInt8

def stringAt (v : Json) (key : String) : Option String := (v.get? key).bind Json.asStr

def arrayAt (v : Json) (key : String) : Option (List Json) := (v.get? key).bind Json.asArray

def flagAt (v : Json) (key : String) : Bool := ((v.get? key).bind Json.asBool).getD false

namespace SimpleIdl

variable (d : Derivation) (idl : SimpleIdl) (instrName : String) (context : Context)

def load (raw : Json) : Except String SimpleIdl := do
  let addrStr ← match stringAt raw "address" with
    | some addr => .ok addr
    | none => .error "IDL missing address field"
  let address ← parsePubkeyBytes addrStr
  return ⟨address, raw⟩

def pdaProgram (pda : Json) : Except String Pubkey :=
  match pda.get? "program" with
  | none => .ok idl.address
  | some prog =>
      match stringAt prog "address" with
      | some addr => parsePubkeyBytes addr
      | none =>
          match stringAt prog "kind" with
          | none => .ok idl.address
          | some kind =>
              if kind = "const" then
                match arrayAt prog "value" with
                | none => .error "Program const missing value array"
                | some arr =>
                    let bytes := jsonBytes arr
                    if bytes.length = 32 then .ok bytes
                    else .error s!"Program const value has wrong length: {bytes.length}"
              else if kind = "account" then
                match stringAt prog "path" with
                | none => .error "Program account missing path"
                | some path =>
                    match context.lookup path with
                    | some pk => .ok pk
                    | none => .error s!"Context missing program account path: {path}"
              else .ok idl.address

def seedBytes (accountName : String) (working : Context) (seed : Json) :
    Except String (List UInt8) :=
  let kind := (stringAt seed "kind").getD "const"
  if kind = "const" then
    match arrayAt seed "value" with
    | some arr => .ok (jsonBytes arr)
    | none => .error "const seed missing value"
  else if kind = "account" then
    match stringAt seed "path" with
    | none => .error "account seed missing path"
    | some path =>
        match working.lookup path with
        | some pk => .ok pk
        | none =>
            .error (s!"Cannot resolve account '{accountName}' for instruction '{instrName}': " ++
              s!"seed path '{path}' not found in context. Available keys: {working.keys}")
  else .error s!"Unsupported seed kind {kind}"

def resolvePda (accountName : String) (working : Context) (pda : Json) :
    Except String Pubkey := do
  let programId ← idl.pdaProgram context pda
  let seedsVal ← match arrayAt pda "seeds" with
    | some seeds => .ok seeds
    | none => .error "pda.seeds missing"
  let seeds ← seedsVal.mapM (seedBytes instrName accountName working)
  return d.findProgramAddress seeds programId

def contextTokenProgram (working : Context) : Pubkey :=
  ((working.lookup "token_program").or (working.lookup "tokenProgram")).getD
    (keyOf token2022Program)

def resolveNamed (name : String) (isSigner isWritable : Bool) (working : Context) :
    Except String (AccountMeta × Context) :=
  if name = "system_program" ∨ name = "systemProgram" then
    .ok (.readonly (keyOf systemProgram) false, working)
  else if name = "token_program" ∨ name = "tokenProgram" then
    let pk := contextTokenProgram working
    .ok (.readonly pk false, (name, pk) :: working)
  else if name = "associated_token_program" ∨ name = "associatedTokenProgram" then
    .ok (.readonly (keyOf associatedTokenProgram) false, working)
  else if name = "associated_user" ∨ name = "associatedUser" then
    match working.lookup "user", working.lookup "mint" with
    | some user, some mint =>
        let ata := d.associatedTokenAddress user mint (contextTokenProgram working)
        .ok (flagged isSigner isWritable ata, (name, ata) :: working)
    | _, _ =>
        .error (s!"Cannot resolve account '{name}' for instruction '{instrName}': " ++
          "Missing user or mint in context")
  else if name = "associated_bonding_curve" ∨ name = "associatedBondingCurve" then
    match (working.lookup "bondingCurve").or (working.lookup "bonding_curve"),
      working.lookup "mint" with
    | some bondingCurve, some mint =>
        let ata := d.associatedTokenAddress bondingCurve mint (contextTokenProgram working)
        .ok (flagged isSigner isWritable ata, (name, ata) :: working)
    | _, _ =>
        .error (s!"Cannot resolve account '{name}' for instruction '{instrName}': " ++
          "Missing bondingCurve or mint in context")
  else if name = "fee_recipient" ∨ name = "feeRecipient" then
    match (working.lookup "fee_recipient").or (working.lookup "feeRecipient") with
    | some pk => .ok (flagged isSigner isWritable pk, working)
    | none =>
        -- the global account stands in, and never signs
        let global := d.global idl.address
        .ok (flagged false isWritable global, (name, global) :: working)
  else if name = "program" then
    .ok (.readonly idl.address false, (name, idl.address) :: working)
  else
    match working.lookup name with
    | some pk => .ok (flagged isSigner isWritable pk, working)
    | none =>
        .error (s!"Cannot resolve account '{name}' for instruction '{instrName}': " ++
          s!"not found in context. Available keys: {working.keys}")

def resolveAccount (working : Context) (account : Json) :
    Except String (AccountMeta × Context) :=
  let accountName := (stringAt account "name").getD "<unnamed>"
  let isWritable := flagAt account "writable"
  let isSigner := flagAt account "signer"
  match stringAt account "address" with
  | some addr => do
      let pk ← parsePubkeyBytes addr
      return (flagged isSigner isWritable pk, remember accountName pk working)
  | none =>
      match account.get? "pda" with
      | some pda => do
          let pk ← idl.resolvePda d instrName context accountName working pda
          return (flagged isSigner isWritable pk, remember accountName pk working)
      | none =>
          match stringAt account "name" with
          | some name => idl.resolveNamed d instrName name isSigner isWritable working
          | none => .error "Unhandled account entry in IDL"

def resolveAccounts : List Json → Context → Except String (List AccountMeta)
  | [], _ => .ok []
  | account :: rest, working => do
      let (entry, working) ← idl.resolveAccount d instrName context working account
      let metas ← resolveAccounts rest working
      return entry :: metas

def findInstruction : Except String Json :=
  match arrayAt idl.raw "instructions" with
  | none => .error s!"IDL for program {encodeBase58 idl.address} missing instructions array"
  | some instructions =>
      match instructions.find? fun instr => stringAt instr "name" == some instrName with
      | some instr => .ok instr
      | none =>
          .error (s!"Instruction '{instrName}' not found in IDL for program " ++
            s!"{encodeBase58 idl.address}")

def buildAccountsFor : Except String (List AccountMeta) := do
  let instr ← idl.findInstruction instrName
  let accounts ← match arrayAt instr "accounts" with
    | some accounts => .ok accounts
    | none => .error s!"Instruction '{instrName}' missing accounts array in IDL"
  idl.resolveAccounts d instrName context accounts context

def discriminatorOf (instr : Json) : Option (List UInt8) :=
  ((arrayAt instr "discriminator").filter fun items => items.length == 8).map fun items =>
    items.map fun item => (item.asU64.map Nat.toUInt8).getD 0

def getInstructionDiscriminator : Except String (List UInt8) :=
  match arrayAt idl.raw "instructions" with
  | none => .error "IDL missing instructions array"
  | some instructions =>
      match instructions.find? fun instr => stringAt instr "name" == some instrName with
      | some instr => .ok ((discriminatorOf instr).getD (d.anchorDiscriminator instrName))
      | none => .error s!"Instruction {instrName} not found in IDL"

/-! ## What a resolved account adds to the context -/

section

variable {d idl instrName context} {name : String} {isSigner isWritable : Bool}
  {working working' : Context} {entry : AccountMeta} {account : Json}

private theorem resolveNamed_working
    (h : idl.resolveNamed d instrName name isSigner isWritable working = .ok (entry, working')) :
    working' = working ∨ ∃ pk, working' = (name, pk) :: working := by
  unfold resolveNamed at h
  split_ifs at h
  case pos => cases h; exact Or.inl rfl
  case pos => cases h; exact Or.inr ⟨_, rfl⟩
  case pos => cases h; exact Or.inl rfl
  case pos =>
    split at h
    case h_1 => cases h; exact Or.inr ⟨_, rfl⟩
    case h_2 => cases h
  case pos =>
    split at h
    case h_1 => cases h; exact Or.inr ⟨_, rfl⟩
    case h_2 => cases h
  case pos =>
    split at h
    case h_1 => cases h; exact Or.inl rfl
    case h_2 => cases h; exact Or.inr ⟨_, rfl⟩
  case pos => cases h; exact Or.inr ⟨_, rfl⟩
  case neg =>
    split at h
    case h_1 => cases h; exact Or.inl rfl
    case h_2 => cases h

private theorem resolveAccount_working
    (h : idl.resolveAccount d instrName context working account = .ok (entry, working')) :
    working' = working ∨
      ∃ pk, working' = ((stringAt account "name").getD "<unnamed>", pk) :: working := by
  unfold resolveAccount at h
  split at h
  case h_1 addr =>
    obtain ⟨pk, -, hpk⟩ := bind_eq_ok.mp h
    cases hpk
    unfold remember
    split
    · exact Or.inl rfl
    · exact Or.inr ⟨pk, rfl⟩
  case h_2 =>
    split at h
    case h_1 pda =>
      obtain ⟨pk, -, hpk⟩ := bind_eq_ok.mp h
      cases hpk
      unfold remember
      split
      · exact Or.inl rfl
      · exact Or.inr ⟨pk, rfl⟩
    case h_2 =>
      split at h
      case h_1 name hname =>
        rw [hname]
        exact resolveNamed_working h
      case h_2 => cases h

theorem lookup_resolveAccount {path : String}
    (h : idl.resolveAccount d instrName context working account = .ok (entry, working'))
    (hname : (stringAt account "name").getD "<unnamed>" ≠ path) :
    working'.lookup path = working.lookup path := by
  rcases resolveAccount_working h with rfl | ⟨pk, rfl⟩
  · rfl
  · have hne : (path == (stringAt account "name").getD "<unnamed>") = false := by
      exact beq_eq_false_iff_ne.mpr (Ne.symm hname)
    rw [List.lookup_cons, hne]

theorem resolveAccounts_missing {path : String} {accounts : List Json}
    (hnames : ∀ account ∈ accounts, (stringAt account "name").getD "<unnamed>" ≠ path)
    (hneeds : ∃ account ∈ accounts, ∀ working : Context, working.lookup path = none →
      (idl.resolveAccount d instrName context working account).toOption = none)
    (hmissing : working.lookup path = none) :
    (idl.resolveAccounts d instrName context accounts working).toOption = none := by
  induction accounts generalizing working with
  | nil => simp at hneeds
  | cons account rest ih =>
      obtain ⟨needy, hmem, hfails⟩ := hneeds
      rw [resolveAccounts]
      cases hfirst : idl.resolveAccount d instrName context working account with
      | error e => rfl
      | ok resolved =>
          obtain ⟨entry, working'⟩ := resolved
          have hlookup := lookup_resolveAccount hfirst (hnames account List.mem_cons_self)
          rcases List.mem_cons.mp hmem with rfl | hrest
          · have hnone := hfails working hmissing
            rw [hfirst] at hnone
            cases hnone
          · have hnone := ih (fun other hother => hnames other (List.mem_cons_of_mem _ hother))
              ⟨needy, hrest, hfails⟩ (hlookup.trans hmissing)
            cases hmetas : idl.resolveAccounts d instrName context rest working' with
            | error e => simp [bind, Except.bind, hmetas, Except.toOption]
            | ok metas =>
                rw [hmetas] at hnone
                cases hnone

end

end SimpleIdl

end Girasol
