import Girasol.Vault.Migration

/-!
# Malformed entries of the vault file

The strings of an entry come from the file as they are.  What is not
hexadecimal is reported; what is, reaches the cipher, whose nonce has a fixed
size.
-/

namespace Girasol

open Foundation

structure SealedEntry where
  nonce : List UInt8
  sealedText : List UInt8

def SealedEntry.ofHex (iv tag ct : String) : Option SealedEntry := do
  let iv ← decodeHex iv
  let tag ← decodeHex tag
  let ct ← decodeHex ct
  return ⟨iv, ct ++ tag⟩

def SealedEntry.ofBlob (blob : String) : Option SealedEntry :=
  match (blob.toList.splitOn ':').map String.ofList with
  | [iv, tag, ct] => ofHex iv tag ct
  | _ => none

namespace VaultFileAny

def sealedEntry (file : VaultFileAny) (slotId : String) : Option (List UInt8 × SealedEntry) :=
  match file with
  | .v2 v => do
      let blob ← v.slots.lookup slotId
      let salt ← decodeHex v.salt
      let entry ← SealedEntry.ofHex blob.iv blob.tag blob.ct
      return (salt, entry)
  | .v1Rust v1 => do
      let blob ← v1.data.lookup slotId
      let saltHex ← v1.salts.lookup slotId
      let salt ← decodeHex saltHex
      let entry ← SealedEntry.ofBlob blob
      return (salt, entry)
  | .v1Ts v1 => do
      let blob ← v1.data.lookup slotId
      let salt ← decodeHex v1.salt
      let entry ← SealedEntry.ofBlob blob
      return (salt, entry)

/-- Every entry that is hexadecimal throughout has a nonce of 12 bytes. -/
def NoncesFit (file : VaultFileAny) : Prop :=
  ∀ slotId salt entry, file.sealedEntry slotId = some (salt, entry) → entry.nonce.length = 12

variable (c : VaultCrypto) (secret : String)

def keyUnder (salt : List UInt8) : VaultFileAny → List UInt8
  | .v1Rust _ => ApiKeyVault.deriveKeyV1Rust c secret salt
  | .v2 _ | .v1Ts _ => c.scrypt (utf8 secret) salt

def plainText (file : VaultFileAny) (slotId : String) : Option String := do
  let (salt, entry) ← file.sealedEntry slotId
  if entry.nonce.length = 12 then
    (c.decrypt (file.keyUnder c secret salt) entry.nonce entry.sealedText).bind ofUtf8
  else none

end VaultFileAny

namespace ApiKeyVault

/--
No string of the file stops reading or migrating: an entry that is malformed or
does not decrypt reads as nothing and is skipped.
-/
structure Tolerates (c : VaultCrypto) (secret : String) (file : VaultFileAny) : Prop where
  reads : ∀ slotId, readSlot c secret file slotId = some (file.plainText c secret slotId)
  keeps : ∀ env files v, load env files = file → file = .v2 v →
    loadOrMigrate c env files secret = some v
  migrates : ∀ env files data, load env files = file → file.legacy = some data →
    ∃ v, loadOrMigrate c env files secret = some v ∧ ∀ slotId, v.slots.lookup slotId =
      (file.plainText c secret slotId).bind fun plain =>
        (encryptV2 c secret plain v.salt (env.migrationIv slotId)).toOption

section

variable {c : VaultCrypto} {secret : String}

/-- What the cipher makes of an entry; `none` is a panic. -/
def opened (c : VaultCrypto) (key : List UInt8) (entry : SealedEntry) : Option (Option String) :=
  (openSealed c key entry.nonce entry.sealedText).map fun plain => plain.bind ofUtf8

private theorem decryptV2_eq (blob : SlotBlobV2) (saltHex : String) :
    (decryptV2 c secret blob saltHex).map Except.toOption =
      match decodeHex saltHex, SealedEntry.ofHex blob.iv blob.tag blob.ct with
      | some salt, some entry => opened c (c.scrypt (utf8 secret) salt) entry
      | _, _ => some none := by
  unfold decryptV2 deriveKeyV2 SealedEntry.ofHex
  cases decodeHex saltHex with
  | none => rfl
  | some salt =>
      cases decodeHex blob.iv <;> cases decodeHex blob.tag <;> cases decodeHex blob.ct <;>
        try rfl
      case some.some.some iv tag ct =>
        simp only [Option.map_map, opened]
        refine congrArg (fun f => Option.map f _) (funext fun plain => ?_)
        cases plain with
        | none => rfl
        | some plain =>
            simp only [Function.comp, Option.bind_some]
            cases ofUtf8 plain <;> rfl

private theorem decryptV1Blob_eq (key : List UInt8) (blob : String) :
    decryptV1Blob c key blob =
      match SealedEntry.ofBlob blob with
      | none => some none
      | some entry => opened c key entry := by
  unfold decryptV1Blob SealedEntry.ofBlob
  generalize (blob.toList.splitOn ':').map String.ofList = parts
  match parts with
  | [iv, tag, ct] =>
      simp only [SealedEntry.ofHex]
      cases decodeHex iv <;> cases decodeHex tag <;> cases decodeHex ct <;> rfl
  | [] | [_] | [_, _] | _ :: _ :: _ :: _ :: _ => rfl

theorem readSlot_eq (c : VaultCrypto) (secret : String) (file : VaultFileAny) (slotId : String) :
    readSlot c secret file slotId =
      match file.sealedEntry slotId with
      | none => some none
      | some (salt, entry) => opened c (file.keyUnder c secret salt) entry := by
  cases file with
  | v2 v =>
      simp only [readSlot, VaultFileAny.sealedEntry]
      cases v.slots.lookup slotId with
      | none => rfl
      | some blob =>
          simp only [decryptV2_eq, Option.bind_eq_bind, Option.bind_some]
          cases decodeHex v.salt <;> cases SealedEntry.ofHex blob.iv blob.tag blob.ct <;> rfl
  | v1Rust v1 =>
      simp only [readSlot, VaultFileAny.sealedEntry, decryptLegacySha256]
      cases v1.data.lookup slotId with
      | none => rfl
      | some blob =>
          cases v1.salts.lookup slotId with
          | none => rfl
          | some saltHex =>
              simp only [decryptV1Blob_eq]
              cases hsalt : decodeHex saltHex <;> cases hblob : SealedEntry.ofBlob blob <;>
                simp [hsalt, hblob]
              rfl
  | v1Ts v1 =>
      simp only [readSlot, VaultFileAny.sealedEntry, decryptLegacyScrypt]
      cases v1.data.lookup slotId with
      | none => rfl
      | some blob =>
          simp only [decryptV1Blob_eq, Option.bind_eq_bind, Option.bind_some]
          cases decodeHex v1.salt <;> cases SealedEntry.ofBlob blob <;> rfl

theorem opened_eq (key : List UInt8) (entry : SealedEntry) :
    opened c key entry =
      if entry.nonce.length = 12 then
        some ((c.decrypt key entry.nonce entry.sealedText).bind ofUtf8)
      else none := by
  unfold opened openSealed
  split <;> rfl

private theorem readSlot_eq_plainText {file : VaultFileAny} (hfit : file.NoncesFit)
    (slotId : String) :
    readSlot c secret file slotId = some (file.plainText c secret slotId) := by
  rw [readSlot_eq]
  unfold VaultFileAny.plainText
  cases hentry : file.sealedEntry slotId with
  | none => rfl
  | some found =>
      obtain ⟨salt, entry⟩ := found
      have hlength := hfit slotId salt entry hentry
      simp [opened_eq, hlength]

private theorem noncesFit_of_reads {file : VaultFileAny}
    (h : ∀ slotId, (readSlot c secret file slotId).isSome = true) : file.NoncesFit := by
  intro slotId salt entry hentry
  have hreads := h slotId
  rw [readSlot_eq, hentry] at hreads
  simp only [opened_eq] at hreads
  by_contra hlength
  rw [if_neg hlength] at hreads
  cases hreads

end

/-- Reading and migrating put up with a file exactly if its nonces have the size of the cipher. -/
theorem tolerates_iff (c : VaultCrypto) (secret : String) (file : VaultFileAny) :
    Tolerates c secret file ↔ file.NoncesFit := by
  constructor
  · intro h
    have hreads (slotId : String) : (readSlot c secret file slotId).isSome = true := by
      rw [h.reads slotId]
      rfl
    exact noncesFit_of_reads hreads
  · intro hfit
    refine ⟨readSlot_eq_plainText hfit, ?_, ?_⟩
    · intro env files v hload hv2
      simp [loadOrMigrate, hload, hv2]
    · intro env files data hload hlegacy
      have hsome : (loadOrMigrate c env files secret).isSome = true := by
        rw [loadOrMigrate_legacy hload hlegacy, isSome_migrateSlots, List.all_eq_true]
        intro slot _
        rw [readSlot_eq_plainText hfit]
        rfl
      obtain ⟨v, hv⟩ := Option.isSome_iff_exists.mp hsome
      obtain ⟨hfields, hlookup⟩ := lookup_loadOrMigrate hload hlegacy hv
      refine ⟨v, hv, fun slotId => ?_⟩
      have hsalt : v.salt = (emptyV2 env).salt := by rw [hfields]
      rw [hlookup, migratedBlob, readSlot_eq_plainText hfit, hsalt]
      rfl

/-! ## A nonce of one byte -/

def shortNonceFile : VaultFileV2 where
  version := vaultVersionV2
  kdf := "scrypt"
  kdfParams := {}
  salt := "0102"
  slots := AList.singleton "zerox" ⟨"00", "", ""⟩

def shortNonceTs : VaultFileV1Ts where
  version := vaultVersionV1
  salt := "0102"
  data := AList.singleton "zerox" "00::"

def shortNonceFiles : VaultFiles where
  vault := some (.json (.object [("version", .posInt shortNonceTs.version),
    ("salt", .string shortNonceTs.salt),
    ("data", .object (shortNonceTs.data.entries.map fun entry => (entry.1, .string entry.2)))]))
  secret := none

private theorem parse_shortNonceFile :
    VaultFileAny.parse shortNonceFile.toJson = some (.v2 shortNonceFile) :=
  VaultFileAny.parse_toJson ⟨rfl, rfl, rfl⟩

theorem short_nonce_panics :
    (∃ raw, VaultFileAny.parse raw = some (.v2 shortNonceFile)) ∧
      readSlot .plain "test-passphrase-123" (.v2 shortNonceFile) "zerox" = none ∧
      (VaultFileAny.v1Ts shortNonceTs).legacy = some shortNonceTs.data ∧
      readSlot .plain "test-passphrase-123" (.v1Ts shortNonceTs) "zerox" = none ∧
      loadOrMigrate .plain .plain shortNonceFiles "test-passphrase-123" = none ∧
      ¬Tolerates .plain "test-passphrase-123" (.v2 shortNonceFile) := by
  have hpanic : readSlot .plain "test-passphrase-123" (.v2 shortNonceFile) "zerox" = none := by
    decide +kernel
  refine ⟨⟨_, parse_shortNonceFile⟩, hpanic, rfl, by decide +kernel, by decide +kernel, ?_⟩
  intro htolerates
  have hreads := htolerates.reads "zerox"
  rw [hpanic] at hreads
  cases hreads

end ApiKeyVault

end Girasol
