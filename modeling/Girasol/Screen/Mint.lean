import Girasol.Foundation.Bytes
import Girasol.Rpc.Price
import Girasol.Settings

/-!
# The safety screen of a mint

Before a buy the bot fetches the mint account, reads from its raw bytes who can
still change the token and what its transfers cost, and rejects what the
settings do not allow.
-/

namespace Girasol

open Foundation

structure TokenSafetyReport where
  mintAuthority : Option Pubkey
  freezeAuthority : Option Pubkey
  isMutable : Option Bool
  transferFeeBps : Option Nat
  isToken2022 : Bool
  decimals : Nat
  supply : Nat
  deriving DecidableEq, Repr

inductive ScreenDecision where
  | allow
  | warn (message : String)
  | reject (message : String)
  deriving DecidableEq, Repr

/-! ## Reading the accounts -/

/-- `data[start..start + length]`. -/
def bytesAt (data : List UInt8) (start length : Nat) : List UInt8 := (data.drop start).take length

def parseCoptionPubkey (data : List UInt8) : Option Pubkey :=
  if leValue (bytesAt data 0 4) = 1 then some (bytesAt data 4 32) else none

def parseSplMint (data : List UInt8) :
    Except String (Option Pubkey × Nat × Nat × Option Pubkey) :=
  if data.length < 82 then
    .error s!"SPL mint data too short: expected at least 82 bytes, got {data.length}"
  else
    .ok (parseCoptionPubkey (bytesAt data 0 36), (data.getD 44 0).toNat,
      leValue (bytesAt data 36 8), parseCoptionPubkey (bytesAt data 46 36))

def transferFeeOfExtensions : List UInt8 → Option Nat
  | t0 :: t1 :: l0 :: l1 :: rest =>
      let length := leValue [l0, l1]
      if rest.length < length then none
      else if leValue [t0, t1] = 1 then
        -- 106 bytes in, the fee of the newer of the two records
        if length < 108 then none else some (leValue (bytesAt rest 106 2))
      else transferFeeOfExtensions (rest.drop length)
  | _ => none
termination_by data => data.length
decreasing_by simp only [List.length_drop, List.length_cons]; omega

def parseToken2022TransferFeeBps (data : List UInt8) : Option Nat :=
  if data.length < 166 || data.getD 165 0 != 1 then none
  else transferFeeOfExtensions (data.drop 166)

def readU32 (data : List UInt8) : Option (Nat × List UInt8) :=
  if data.length < 4 then none else some (leValue (data.take 4), data.drop 4)

def skipBytes (n : Nat) (data : List UInt8) : Option (List UInt8) :=
  if data.length < n then none else some (data.drop n)

/-- The flag behind the three strings, the royalty and the creators of the metadata. -/
def parseMetaplexIsMutable (data : List UInt8) : Option Bool := do
  if data.head? ≠ some 4 then none
  else
    let (nameLen, rest) ← readU32 (data.drop 65)
    let rest ← skipBytes nameLen rest
    let (symbolLen, rest) ← readU32 rest
    let rest ← skipBytes symbolLen rest
    let (uriLen, rest) ← readU32 rest
    let rest ← skipBytes uriLen rest
    let creatorsTag ← rest[2]?
    let rest := rest.drop 3
    let rest ←
      if creatorsTag = 0 then pure rest
      else if creatorsTag = 1 then do
        let (count, rest) ← readU32 rest
        skipBytes (count * 34) rest
      else none
    rest[1]?.map (· != 0)

/-! ## The report -/

def token2022ProgramId : String := "TokenzQdBNbLqP5VEhdkAS6EPFLC1PHnBqCXEpPxuEb"

inductive ReportError where
  | rpc (error : FetchError)
  | undecodable (data : String)
  | message (text : String)

section

variable (p : Platform) (mint : String) (mintInfo metadataInfo : Except FetchError RpcResponse)

def fetchedIsMutable : Option Bool :=
  match metadataInfo with
  | .ok response =>
      ((response.result.bind accountData).bind decodeBase64).bind parseMetaplexIsMutable
  | .error _ => none

def fetchTokenSafetyReport : Except ReportError TokenSafetyReport := do
  let response ← mintInfo.mapError .rpc
  let result ← match response.result with
    | some result => .ok result
    | none => .error (.message "mint account is missing")
  if (accountObject result).isNull then .error (.message "mint account is missing")
  else
    let encodedData ← match accountData result with
      | some encoded => .ok encoded
      | none => .error (.message "mint account data is missing")
    let data ← match decodeBase64 encodedData with
      | some data => .ok data
      | none => .error (.undecodable encodedData)
    let (mintAuthority, decimals, supply, freezeAuthority) ←
      (parseSplMint data).mapError .message
    let isToken2022 :=
      ((accountObject result).get? "owner").bind Json.asStr == some token2022ProgramId
    let transferFeeBps := if isToken2022 then parseToken2022TransferFeeBps data else none
    let _ ← (p.parsePubkey mint).mapError .message
    return {
      mintAuthority := mintAuthority
      freezeAuthority := freezeAuthority
      isMutable := fetchedIsMutable metadataInfo
      transferFeeBps := transferFeeBps
      isToken2022 := isToken2022
      decimals := decimals
      supply := supply }

end

/-! ## The screen -/

def evaluateSafety (report : TokenSafetyReport) (cfg : Settings) : ScreenDecision :=
  if cfg.rejectMintAuthority && report.mintAuthority.isSome then
    .reject "mint authority still active"
  else if cfg.rejectFreezeAuthority && report.freezeAuthority.isSome then
    .reject "freeze authority still active"
  else if report.isMutable == some true && cfg.rejectMutableMetadata then
    .reject "metadata is mutable"
  else if cfg.rejectTransferFee &&
      decide (cfg.maxTransferFeeBps % 2 ^ 16 < report.transferFeeBps.getD 0) then
    .reject (s!"transfer fee {report.transferFeeBps.getD 0} bps exceeds maximum " ++
      s!"{cfg.maxTransferFeeBps} bps")
  else if report.isMutable == some true then .warn "metadata is mutable"
  else .allow

def ScreenDecision.accepts : ScreenDecision → Bool
  | .reject _ => false
  | _ => true

/-- The check before a buy; `gates` is what the gates on size and liquidity decide. -/
def preBuySafetyCheck (blacklisted : Bool) (report : Except ReportError TokenSafetyReport)
    (gates : ScreenDecision) (cfg : Settings) : Except String Unit :=
  if blacklisted then .error "mint is blacklisted"
  else
    match report with
    -- without a report the buy is allowed
    | .error _ => .ok ()
    | .ok report =>
        match evaluateSafety report cfg, gates with
        | .reject message, _ => .error message
        | _, .reject message => .error message
        | _, _ => .ok ()

theorem evaluateSafety_accepts {report : TokenSafetyReport} {cfg : Settings}
    (hfee : cfg.rejectTransferFee = true) (hmax : cfg.maxTransferFeeBps ≤ 65535)
    (haccepts : (evaluateSafety report cfg).accepts = true) :
    report.transferFeeBps.getD 0 ≤ cfg.maxTransferFeeBps := by
  have hcast : cfg.maxTransferFeeBps % 2 ^ 16 = cfg.maxTransferFeeBps :=
    Nat.mod_eq_of_lt (by omega)
  by_contra hlt
  have hexceeds : cfg.maxTransferFeeBps < report.transferFeeBps.getD 0 := not_le.mp hlt
  simp only [evaluateSafety, hfee, hcast, hexceeds, decide_true, Bool.and_self, if_true]
    at haccepts
  split_ifs at haccepts <;> simp [ScreenDecision.accepts] at haccepts

theorem accepts_of_preBuySafetyCheck {blacklisted : Bool} {report : TokenSafetyReport}
    {gates : ScreenDecision} {cfg : Settings}
    (hok : preBuySafetyCheck blacklisted (.ok report) gates cfg = .ok ()) :
    (evaluateSafety report cfg).accepts = true := by
  cases hdecision : evaluateSafety report cfg with
  | allow => rfl
  | warn message => rfl
  | reject message =>
      cases blacklisted <;> simp [preBuySafetyCheck, hdecision] at hok

end Girasol
