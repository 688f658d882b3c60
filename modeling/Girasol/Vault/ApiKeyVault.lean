import Girasol.Foundation.Bytes
import Girasol.Foundation.Checks
import Girasol.Foundation.Hex
import Girasol.Vault.Format
import Girasol.Vault.Slots

/-!
# The key vault

The stored keys are encrypted with AES-GCM under a key derived from a secret.
Every operation reads the secret and the whole vault file, and a change writes
the whole file anew.  What the operating system answers to one operation and the
random bytes it draws are in its `VaultEnv`.
-/

namespace Girasol

open Foundation

/-- The cryptography of third-party crates; a sealed text ends with its tag. -/
structure VaultCrypto where
  scrypt : List UInt8 → List UInt8 → List UInt8
  sha256 : List UInt8 → List UInt8
  encrypt : List UInt8 → List UInt8 → List UInt8 → Option (List UInt8)
  decrypt : List UInt8 → List UInt8 → List UInt8 → Option (List UInt8)

/-- What the vault relies on: decryption gives back what was encrypted. -/
def VaultCrypto.Inverts (c : VaultCrypto) : Prop :=
  ∀ key iv plain sealed, c.encrypt key iv plain = some sealed → c.decrypt key iv sealed = some plain

/-- The content of the vault file: text that spells a JSON value, other text, or neither. -/
inductive VaultContent where
  | json (v : Json)
  | text (s : String)
  | binary (bytes : List UInt8)

inductive SecretContent where
  | text (s : String)
  | binary (bytes : List UInt8)
  deriving DecidableEq, Repr

structure VaultFiles where
  vault : Option VaultContent
  secret : Option SecretContent

/-- The layout of the vault file, where it has a known one. -/
def VaultFiles.parsed (files : VaultFiles) : Option VaultFileAny :=
  match files.vault with
  | some (.json v) => VaultFileAny.parse v
  | _ => none

/-- A write that fails may leave the file as it was or something else in its place. -/
inductive WriteOutcome where
  | written
  | failed (error : String) (left : Option SecretContent)

abbrev RandomBytes (n : Nat) := { bytes : List UInt8 // bytes.length = n }

structure VaultEnv where
  dir : String
  passphrase : Option String
  envVar : String → Option String
  secretReadFails : Bool
  vaultReadFails : Bool
  createSecretDir : Except String Unit
  writeSecret : WriteOutcome
  createVaultDir : Except String Unit
  writeTmp : Except String Unit
  rename : Except String Unit
  freshSecret : RandomBytes 32
  freshSalt : RandomBytes 32
  iv : RandomBytes 12
  migrationIv : String → RandomBytes 12

namespace ApiKeyVault

/-! ## The secret -/

section

variable (env : VaultEnv) (files : VaultFiles)

def passphrase : Option String := (env.passphrase.map trim).filter fun p => !p.isEmpty

def existingSecret : Option String :=
  if env.secretReadFails then none
  else
    match files.secret with
    | some (.text s) => if (trim s).isEmpty then none else some (trim s)
    | _ => none

def loadSecret : Except String String × VaultFiles :=
  match passphrase env with
  | some p => (.ok p, files)
  | none =>
      match existingSecret env files with
      | some s => (.ok s, files)
      | none =>
          match env.createSecretDir with
          | .error e => (.error s!"cannot create vault dir {env.dir}: {e}", files)
          | .ok () =>
              let secret := encodeHex env.freshSecret.val
              match env.writeSecret with
              | .written => (.ok secret, { files with secret := some (.text secret) })
              | .failed e left =>
                  (.error s!"cannot write vault secret: {e}",
                    { files with secret := left.or files.secret })

end

/-! ## Encryption -/

section

variable (c : VaultCrypto) (secret : String)

def deriveKeyV2 (saltHex : String) : Except String (List UInt8) :=
  match decodeHex saltHex with
  | none => .error "malformed vault salt"
  | some salt => .ok (c.scrypt (utf8 secret) salt)

def encryptV2 (plain saltHex : String) (iv : RandomBytes 12) : Except String SlotBlobV2 := do
  let key ← deriveKeyV2 c secret saltHex
  match c.encrypt key iv.val (utf8 plain) with
  | none => .error "vault encrypt failed"
  | some ct =>
      let (body, tag) := ct.splitAt (ct.length - 16)
      return { iv := encodeHex iv.val, ct := encodeHex body, tag := encodeHex tag }

/-- `Nonce::from_slice` panics unless the nonce has 12 bytes: then there is no result at all. -/
def openSealed (key iv sealed : List UInt8) : Option (Option (List UInt8)) :=
  if iv.length = 12 then some (c.decrypt key iv sealed) else none

/-- `none` is a panic. -/
def decryptV2 (blob : SlotBlobV2) (saltHex : String) : Option (Except String String) :=
  match deriveKeyV2 c secret saltHex with
  | .error e => some (.error e)
  | .ok key =>
      match decodeHex blob.iv, decodeHex blob.tag, decodeHex blob.ct with
      | none, _, _ => some (.error "malformed iv")
      | _, none, _ => some (.error "malformed tag")
      | _, _, none => some (.error "malformed ciphertext")
      | some iv, some tag, some ct =>
          (openSealed c key iv (ct ++ tag)).map fun
            | none => .error "vault decrypt failed (wrong passphrase?)"
            | some plain =>
                match ofUtf8 plain with
                | none => .error "vault plaintext not utf8"
                | some text => .ok text

def deriveKeyV1Rust (salt : List UInt8) : List UInt8 :=
  (List.range 4096).foldl (fun block i => c.sha256 (block ++ leBytes 4 i))
    (c.sha256 (utf8 "girasol-vault-v1" ++ utf8 secret ++ salt))

/-- A blob `iv:tag:ct`; the outer `none` is a panic. -/
def decryptV1Blob (key : List UInt8) (blob : String) : Option (Option String) :=
  match (blob.toList.splitOn ':').map String.ofList with
  | [iv, tag, ct] =>
      match decodeHex iv, decodeHex tag, decodeHex ct with
      | some iv, some tag, some ct =>
          (openSealed c key iv (ct ++ tag)).map fun plain => plain.bind ofUtf8
      | _, _, _ => some none
  | _ => some none

def decryptLegacySha256 (blob : String) (salt : List UInt8) : Option (Option String) :=
  decryptV1Blob c (deriveKeyV1Rust c secret salt) blob

def decryptLegacyScrypt (blob saltHex : String) : Option (Option String) :=
  match decodeHex saltHex with
  | none => some none
  | some salt => decryptV1Blob c (c.scrypt (utf8 secret) salt) blob

/-! ## Reading -/

/-- The stored value of a slot, without the environment. -/
def readSlot (file : VaultFileAny) (slotId : String) : Option (Option String) :=
  match file with
  | .v2 v =>
      match v.slots.lookup slotId with
      | none => some none
      | some blob => (decryptV2 c secret blob v.salt).map Except.toOption
  | .v1Rust v1 =>
      match v1.data.lookup slotId, v1.salts.lookup slotId with
      | some blob, some saltHex =>
          match decodeHex saltHex with
          | none => some none
          | some salt => decryptLegacySha256 c secret blob salt
      | _, _ => some none
  | .v1Ts v1 =>
      match v1.data.lookup slotId with
      | none => some none
      | some blob => decryptLegacyScrypt c secret blob v1.salt

end

section

variable (env : VaultEnv) (files : VaultFiles)

def emptyV2 : VaultFileV2 where
  version := vaultVersionV2
  kdf := "scrypt"
  kdfParams := {}
  salt := encodeHex env.freshSalt.val
  slots := ∅

def load : VaultFileAny :=
  if env.vaultReadFails then .v2 (emptyV2 env)
  else files.parsed.getD (.v2 (emptyV2 env))

end

/-! ## Writing -/

section

variable (c : VaultCrypto) (env : VaultEnv)

def migrateEntry (secret slot : String) (plain : Option String) (migrated : VaultFileV2) :
    VaultFileV2 :=
  match plain with
  | none => migrated
  | some plain =>
      match encryptV2 c secret plain migrated.salt (env.migrationIv slot) with
      | .error _ => migrated
      | .ok blob => { migrated with slots := migrated.slots.insert slot blob }

/-- `none` is a panic. -/
def loadOrMigrate (files : VaultFiles) (secret : String) : Option VaultFileV2 :=
  match load env files with
  | .v2 v => some v
  | .v1Rust v1 =>
      v1.data.entries.foldlM (fun migrated entry =>
        match (v1.salts.lookup entry.1).map decodeHex with
        | some (some salt) =>
            (decryptLegacySha256 c secret entry.2 salt).map fun plain =>
              migrateEntry c env secret entry.1 plain migrated
        | _ => some migrated) (emptyV2 env)
  | .v1Ts v1 =>
      v1.data.entries.foldlM (fun migrated entry =>
        (decryptLegacyScrypt c secret entry.2 v1.salt).map fun plain =>
          migrateEntry c env secret entry.1 plain migrated) (emptyV2 env)

def save (files : VaultFiles) (v : VaultFileV2) : Except String Unit × VaultFiles :=
  match env.createVaultDir, env.writeTmp, env.rename with
  | .error e, _, _ => (.error s!"cannot create vault dir: {e}", files)
  | _, .error e, _ => (.error s!"vault write failed: {e}", files)
  | _, _, .error e => (.error s!"vault rename failed: {e}", files)
  | .ok (), .ok (), .ok () => (.ok (), { files with vault := some (.json v.toJson) })

def updateSlot (secret slotId value : String) (v : VaultFileV2) : Except String VaultFileV2 :=
  if (trim value).isEmpty then .ok { v with slots := v.slots.erase slotId }
  else do
    let blob ← encryptV2 c secret (trim value) v.salt env.iv
    return { v with slots := v.slots.insert slotId blob }

/-- `none` is a panic. -/
def setApiKey (files : VaultFiles) (slotId value : String) :
    Option (Except String Unit) × VaultFiles :=
  match findSlot slotId with
  | none => (some (.error "unknown slot"), files)
  | some _ =>
      match loadSecret env files with
      | (.error e, files) => (some (.error e), files)
      | (.ok secret, files) =>
          match loadOrMigrate c env files secret with
          | none => (none, files)
          | some v =>
              match updateSlot c env secret slotId value v with
              | .error e => (some (.error e), files)
              | .ok v =>
                  let (result, files) := save env files v
                  (some result, files)

def fallback (slotId : String) : Option String := do
  let slot ← findSlot slotId
  ((env.envVar slot.envVar).map trim).filter fun s => !s.isEmpty

/-- The stored value, or else that of the environment; the outer `none` is a panic. -/
def getApiKey (files : VaultFiles) (slotId : String) : Option (Option String) × VaultFiles :=
  match loadSecret env files with
  | (.error _, files) => (some (fallback env slotId), files)
  | (.ok secret, files) =>
      ((readSlot c secret (load env files) slotId).map fun stored =>
        stored.or (fallback env slotId), files)

end

/-! ## What the operations do -/

variable {c : VaultCrypto} {env : VaultEnv} {files : VaultFiles} {secret : String}

@[simp] theorem decryptV2_encryptV2 (hc : c.Inverts) {plain saltHex : String} {iv : RandomBytes 12}
    {blob : SlotBlobV2} (h : encryptV2 c secret plain saltHex iv = .ok blob) :
    decryptV2 c secret blob saltHex = some (.ok plain) := by
  simp only [encryptV2, bind_eq_ok] at h
  obtain ⟨key, hkey, h⟩ := h
  split at h
  case h_1 => cases h
  case h_2 sealed hsealed =>
    cases h
    simp [decryptV2, hkey, openSealed, iv.property, hc _ _ _ _ hsealed]

theorem load_of_parsed {file : VaultFileAny} (hread : env.vaultReadFails = false)
    (hparsed : files.parsed = some file) : load env files = file := by
  simp [load, hread, hparsed]

theorem supported_emptyV2 (env : VaultEnv) : (emptyV2 env).Supported := ⟨rfl, rfl, rfl⟩

@[simp] theorem loadSecret_vault (env : VaultEnv) (files : VaultFiles) :
    (loadSecret env files).2.vault = files.vault := by
  unfold loadSecret
  split
  · rfl
  · split
    · rfl
    · split
      · rfl
      · dsimp only
        split <;> rfl

theorem save_eq (env : VaultEnv) (files : VaultFiles) (v : VaultFileV2) :
    save env files v = (.ok (), { files with vault := some (.json v.toJson) }) ∨
      ∃ e, save env files v = (.error e, files) := by
  unfold save
  split
  · exact .inr ⟨_, rfl⟩
  · exact .inr ⟨_, rfl⟩
  · exact .inr ⟨_, rfl⟩
  · exact .inl rfl

/--
A call for a known slot fails before the vault file is written, panics while it
migrates a legacy file, or writes the file.
-/
theorem setApiKey_cases (c : VaultCrypto) (env : VaultEnv) (files : VaultFiles) (value : String)
    {slotId : String} {slot : ApiKeySlot} (hslot : findSlot slotId = some slot)
    {loaded : Except String String} {files₁ : VaultFiles}
    (hload : loadSecret env files = (loaded, files₁)) :
    (∃ e, setApiKey c env files slotId value = (some (.error e), files₁)) ∨
    (∃ secret, loaded = .ok secret ∧ loadOrMigrate c env files₁ secret = none ∧
      setApiKey c env files slotId value = (none, files₁)) ∨
    ∃ secret v v', loaded = .ok secret ∧ loadOrMigrate c env files₁ secret = some v ∧
      updateSlot c env secret slotId value v = .ok v' ∧ (save env files₁ v').1 = .ok () ∧
      setApiKey c env files slotId value =
        (some (.ok ()), { files₁ with vault := some (.json v'.toJson) }) := by
  cases loaded with
  | error e => exact .inl ⟨e, by simp [setApiKey, hslot, hload]⟩
  | ok secret =>
      cases hv : loadOrMigrate c env files₁ secret with
      | none => exact .inr (.inl ⟨secret, rfl, hv, by simp [setApiKey, hslot, hload, hv]⟩)
      | some v =>
          cases hupdate : updateSlot c env secret slotId value v with
          | error e => exact .inl ⟨e, by simp [setApiKey, hslot, hload, hv, hupdate]⟩
          | ok v' =>
              rcases save_eq env files₁ v' with hsave | ⟨e, hsave⟩
              · exact .inr (.inr ⟨secret, v, v', rfl, hv, hupdate, by rw [hsave],
                  by simp [setApiKey, hslot, hload, hv, hupdate, hsave]⟩)
              · exact .inl ⟨e, by simp [setApiKey, hslot, hload, hv, hupdate, hsave]⟩

theorem updateSlot_fields {slotId value : String} {v v' : VaultFileV2}
    (h : updateSlot c env secret slotId value v = .ok v') :
    v' = { v with slots := v'.slots } := by
  unfold updateSlot at h
  split at h
  · cases h
    rfl
  · obtain ⟨blob, -, h⟩ := bind_eq_ok.mp h
    cases h
    rfl

@[simp] theorem lookup_updateSlot_ne {slotId value t : String} {v v' : VaultFileV2}
    (h : updateSlot c env secret slotId value v = .ok v') (ht : t ≠ slotId) :
    v'.slots.lookup t = v.slots.lookup t := by
  unfold updateSlot at h
  split at h
  · cases h
    exact AList.lookup_erase_ne ht
  · obtain ⟨blob, -, h⟩ := bind_eq_ok.mp h
    cases h
    exact AList.lookup_insert_ne ht

theorem readSlot_updateSlot_ne {slotId value t : String} {v v' : VaultFileV2}
    (h : updateSlot c env secret slotId value v = .ok v') (ht : t ≠ slotId) :
    readSlot c secret (.v2 v') t = readSlot c secret (.v2 v) t := by
  have hsalt : v'.salt = v.salt := by rw [updateSlot_fields h]
  simp only [readSlot, lookup_updateSlot_ne h ht, hsalt]

@[simp] theorem readSlot_updateSlot (hc : c.Inverts) {slotId value : String} {v v' : VaultFileV2}
    (h : updateSlot c env secret slotId value v = .ok v') :
    readSlot c secret (.v2 v') slotId =
      some (if (trim value).isEmpty then none else some (trim value)) := by
  unfold updateSlot at h
  split at h
  case isTrue hblank =>
    cases h
    simp [readSlot, hblank]
  case isFalse hvalue =>
    obtain ⟨blob, hblob, h⟩ := bind_eq_ok.mp h
    cases h
    simp [readSlot, decryptV2_encryptV2 hc hblob, hvalue, Except.toOption]

end ApiKeyVault

/-! ## A concrete environment -/

def plainTag (key iv : List UInt8) : List UInt8 := (key ++ iv ++ List.replicate 16 0).take 16

/-- The text in the clear, with a tag made of the key and the nonce. -/
def VaultCrypto.plain : VaultCrypto where
  scrypt := fun passphrase salt => salt ++ passphrase
  sha256 := fun bytes => bytes
  encrypt := fun key iv plain => some (plain ++ plainTag key iv)
  decrypt := fun key iv sealed =>
    let (body, tag) := sealed.splitAt (sealed.length - 16)
    if tag = plainTag key iv then some body else none

theorem VaultCrypto.plain_inverts : VaultCrypto.plain.Inverts := by
  intro key iv plain sealed h
  cases h
  have hlength : (plain ++ plainTag key iv).length - 16 = plain.length := by
    simp [plainTag]
    omega
  simp only [VaultCrypto.plain, hlength, List.splitAt_eq, List.drop_left, List.take_left, if_true]

def VaultEnv.plain : VaultEnv where
  dir := "data"
  passphrase := some "test-passphrase-123"
  envVar := fun _ => none
  secretReadFails := false
  vaultReadFails := false
  createSecretDir := .ok ()
  writeSecret := .written
  createVaultDir := .ok ()
  writeTmp := .ok ()
  rename := .ok ()
  freshSecret := ⟨List.replicate 32 1, rfl⟩
  freshSalt := ⟨List.replicate 32 2, rfl⟩
  iv := ⟨List.replicate 12 3, rfl⟩
  migrationIv := fun _ => ⟨List.replicate 12 4, rfl⟩

end Girasol
