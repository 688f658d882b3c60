import Girasol.Vault.ApiKeyVault

/-!
# What the panel shows of the vault

The status of each slot with its key masked, and the health of the file.
-/

namespace Girasol

open Foundation

structure ApiKeySlotStatus where
  id : String
  label : String
  purpose : String
  signupUrl : String
  pricing : String
  envVar : String
  placeholder : String
  network : String
  configured : Bool
  masked : Option String
  source : Option String

def maskSecret (value : String) : String :=
  let v := (trim value).toList
  if v.length ≤ 8 then "••••"
  else String.ofList (v.take 2) ++ "…" ++ String.ofList (v.drop (v.length - 4))

namespace ApiKeyVault

variable (c : VaultCrypto)

/-- The status of one slot; `none` is a panic. -/
def status (env : VaultEnv) (files : VaultFiles) (slot : ApiKeySlot) :
    Option ApiKeySlotStatus × VaultFiles :=
  let (secret, files) := loadSecret env files
  let fromVault := match secret with
    | .error _ => some none
    | .ok secret => readSlot c secret (load env files) slot.id
  let envVal := ((env.envVar slot.envVar).map trim).filter fun s => !s.isEmpty
  (fromVault.map fun fromVault =>
    let value := fromVault.or envVal
    { id := slot.id
      label := slot.label
      purpose := slot.purpose
      signupUrl := slot.signupUrl
      pricing := slot.pricing.asStr
      envVar := slot.envVar
      placeholder := slot.placeholder
      network := slot.network.asStr
      configured := value.isSome
      masked := value.map maskSecret
      source :=
        if fromVault.isSome then some "vault"
        else if envVal.isSome then some "env"
        else none }, files)

def statusesOf (env : String → VaultEnv) (files : VaultFiles) :
    List ApiKeySlot → Option (List ApiKeySlotStatus) × VaultFiles
  | [] => (some [], files)
  | slot :: slots =>
      match status c (env slot.id) files slot with
      | (none, files) => (none, files)
      | (some first, files) =>
          let (rest, files) := statusesOf env files slots
          (rest.map fun rest => first :: rest, files)

def statuses (env : String → VaultEnv) (files : VaultFiles) :
    Option (List ApiKeySlotStatus) × VaultFiles :=
  statusesOf c env files apiKeySlots

structure FileMode where
  found : Bool
  tight : Bool

def vaultHealth (dir : String) (files : VaultFiles) (mode : FileMode) : Json :=
  let file := .string (dir ++ "/apikeys.enc.json")
  if files.vault.isSome && mode.found then
    .object [
      ("file", file),
      ("exists", .bool true),
      ("permissions_ok", .bool mode.tight),
      ("warning",
        if mode.tight then .null
        else .string "vault file is group/world-readable — chmod 600 recommended")]
  else .object [("file", file), ("exists", .bool false)]

end ApiKeyVault

end Girasol
