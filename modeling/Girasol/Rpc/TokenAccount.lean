import Girasol.Rpc.Fetch
import Girasol.Settings

/-!
# The wallet's token account for a mint

`findTokenAccountOwnedByOwner` asks for an account under Token-2022 and then
under the legacy token program.  An error of either request is only logged.
-/

namespace Girasol

open Foundation

def firstPubkey : List Json → Option String
  | [] => none
  | entry :: _ => (entry.get? "pubkey").bind Json.asStr

def accountEntries (resultVal : Json) : Option (List Json) :=
  match resultVal.asArray with
  | some arr => some arr
  | none =>
      match (resultVal.get? "accounts").bind Json.asArray with
      | some arr => some arr
      | none => (resultVal.get? "value").bind Json.asArray

def extractFirstPubkeyFromValue (resultVal : Json) : Option String :=
  (accountEntries resultVal).bind firstPubkey

abbrev AccountAnswer := Except FetchError RpcResponse

def AccountAnswer.account : AccountAnswer → Option String
  | .ok resp => resp.result.bind extractFirstPubkeyFromValue
  | .error _ => none

def findTokenAccountOwnedByOwner (token2022 legacy : AccountAnswer) : Option String :=
  token2022.account <|> legacy.account

/-! ## What an answer says -/

def AccountAnswer.saysNone : AccountAnswer → Bool
  | .ok resp =>
      match resp.result.bind accountEntries with
      | some [] => true
      | _ => false
  | .error _ => false

def AccountAnswer.failed (answer : AccountAnswer) : Bool :=
  answer.account.isNone && !answer.saysNone

theorem AccountAnswer.account_of_saysNone {answer : AccountAnswer}
    (h : answer.saysNone = true) : answer.account = none := by
  unfold saysNone at h
  split at h
  case h_2 => cases h
  case h_1 resp =>
    split at h
    case h_2 => cases h
    case h_1 hentries =>
      obtain ⟨resultVal, hresult, hempty⟩ := Option.bind_eq_some_iff.mp hentries
      simp [account, hresult, extractFirstPubkeyFromValue, hempty, firstPubkey]

theorem AccountAnswer.cases (answer : AccountAnswer) :
    (∃ pk, answer.account = some pk ∧ answer.saysNone = false ∧ answer.failed = false) ∨
      (answer.account = none ∧ answer.saysNone = true ∧ answer.failed = false) ∨
      (answer.account = none ∧ answer.saysNone = false ∧ answer.failed = true) := by
  cases hsays : answer.saysNone with
  | true =>
      have hnone := account_of_saysNone hsays
      simp [failed, hsays, hnone]
  | false =>
      cases haccount : answer.account with
      | some pk => simp [failed, hsays, haccount]
      | none => simp [failed, hsays, haccount]

/-! ## The balance query -/

/-- `get_token_account_balance` run on a blocking thread. -/
inductive BalanceAnswer where
  | joinFailed (error : String)
  | clientError (error : String)
  | amount (text : String)

def BalanceAnswer.value : BalanceAnswer → Option Nat
  | .amount text => (parseUnsigned (2 ^ 64) text).toOption
  | .joinFailed _ | .clientError _ => none

theorem BalanceAnswer.value_lt {answer : BalanceAnswer} {n : Nat}
    (hvalue : answer.value = some n) : n < 2 ^ 64 := by
  cases answer with
  | joinFailed e => cases hvalue
  | clientError e => cases hvalue
  | amount text =>
      rw [value, toOption_eq_some] at hvalue
      exact parseUnsigned_lt hvalue

end Girasol
