import Girasol.Vault.ApiKeyVault

/-!
# Migration of the legacy layouts

The first change of a vault file of version 1 writes it anew in version 2.  An
entry is migrated when the read path can decrypt it, and reads as before.
-/

namespace Girasol

open Foundation

/-- The entries of a file of version 1. -/
def VaultFileAny.legacy : VaultFileAny → Option (Store String String)
  | .v2 _ => none
  | .v1Rust v1 => some v1.data
  | .v1Ts v1 => some v1.data

/-- Length alone limits encryption, and what was decrypted is within the limit. -/
def VaultCrypto.Reencrypts (c : VaultCrypto) : Prop :=
  ∀ key iv sealed plain, c.decrypt key iv sealed = some plain →
    ∀ key' iv', (c.encrypt key' iv' plain).isSome

namespace ApiKeyVault

variable {c : VaultCrypto} {env : VaultEnv} {files : VaultFiles} {secret : String}

/-! ## One entry -/

def migratedBlob (c : VaultCrypto) (env : VaultEnv) (secret : String) (file : VaultFileAny)
    (slot : String) : Option SlotBlobV2 := do
  let plain ← (readSlot c secret file slot).join
  (encryptV2 c secret plain (emptyV2 env).salt (env.migrationIv slot)).toOption

theorem migrateEntry_fields (c : VaultCrypto) (env : VaultEnv) (secret slot : String)
    (plain : Option String) (v : VaultFileV2) :
    migrateEntry c env secret slot plain v =
      { v with slots := (migrateEntry c env secret slot plain v).slots } := by
  unfold migrateEntry
  split
  · rfl
  · split <;> rfl

theorem lookup_migrateEntry {file : VaultFileAny} {slot : String} {plain : Option String}
    (hplain : readSlot c secret file slot = some plain) {v : VaultFileV2}
    (hsalt : v.salt = (emptyV2 env).salt) (t : String) :
    (migrateEntry c env secret slot plain v).slots.lookup t =
      if t = slot then (migratedBlob c env secret file slot).or (v.slots.lookup t)
      else v.slots.lookup t := by
  simp only [migratedBlob, hplain, migrateEntry, hsalt]
  cases plain with
  | none => simp
  | some plain =>
      cases hblob : encryptV2 c secret plain (emptyV2 env).salt (env.migrationIv slot) with
      | error e => simp [hblob, Except.toOption]
      | ok blob => simp [hblob, Store.lookup_insert_eq, Except.toOption]

/-! ## All entries -/

def migrateSlots (c : VaultCrypto) (env : VaultEnv) (secret : String) (file : VaultFileAny)
    (slots : List String) (v : VaultFileV2) : Option VaultFileV2 :=
  slots.foldlM (fun migrated slot => (readSlot c secret file slot).map fun plain =>
    migrateEntry c env secret slot plain migrated) v

theorem loadOrMigrate_legacy {file : VaultFileAny} {data : Store String String}
    (hload : load env files = file) (hlegacy : file.legacy = some data) :
    loadOrMigrate c env files secret = migrateSlots c env secret file data.keys (emptyV2 env) := by
  have hlookup (entry : Sigma fun _ : String => String) (h : entry ∈ data.entries) :
      data.lookup entry.1 = some entry.2 := AList.mem_lookup_iff.mpr h
  subst hload
  unfold loadOrMigrate migrateSlots AList.keys List.keys
  rw [List.foldlM_map]
  split
  case h_1 v hv => simp [hv, VaultFileAny.legacy] at hlegacy
  case h_2 v1 hv =>
    rw [hv] at hlegacy ⊢
    cases hlegacy
    refine foldlM_congr (fun entry hentry migrated => ?_) _
    simp only [readSlot, hlookup entry hentry]
    cases v1.salts.lookup entry.1 with
    | none => rfl
    | some saltHex => cases hsalt : decodeHex saltHex <;> simp [hsalt, migrateEntry]
  case h_3 v1 hv =>
    rw [hv] at hlegacy ⊢
    cases hlegacy
    refine foldlM_congr (fun entry hentry migrated => ?_) _
    simp only [readSlot, hlookup entry hentry]

theorem isSome_migrateSlots (file : VaultFileAny) (slots : List String) (v : VaultFileV2) :
    (migrateSlots c env secret file slots v).isSome =
      slots.all fun slot => (readSlot c secret file slot).isSome := by
  refine isSome_foldlM (fun migrated slot => ?_) slots v
  exact Option.isSome_map

private theorem lookup_migrateSlots {file : VaultFileAny} {slots : List String} {v v' : VaultFileV2}
    (hsalt : v.salt = (emptyV2 env).salt)
    (h : migrateSlots c env secret file slots v = some v') :
    v' = { v with slots := v'.slots } ∧ ∀ t, v'.slots.lookup t =
      if t ∈ slots then (migratedBlob c env secret file t).or (v.slots.lookup t)
      else v.slots.lookup t := by
  induction slots generalizing v with
  | nil =>
      cases h
      exact ⟨rfl, fun t => by simp⟩
  | cons slot slots ih =>
      obtain ⟨v₁, hfirst, hrest⟩ := Option.bind_eq_some_iff.mp h
      obtain ⟨plain, hplain, rfl⟩ := Option.map_eq_some_iff.mp hfirst
      have hfields := migrateEntry_fields c env secret slot plain v
      have hsalt₁ : (migrateEntry c env secret slot plain v).salt = (emptyV2 env).salt := by
        rw [hfields]
        exact hsalt
      obtain ⟨hv', hlookup⟩ := ih hsalt₁ hrest
      refine ⟨?_, fun t => ?_⟩
      · rw [hv', hfields]
      · simp only [hlookup t, lookup_migrateEntry hplain hsalt, List.mem_cons]
        by_cases ht : t = slot
        · subst ht
          cases migratedBlob c env secret file t <;> simp
        · simp [ht]

/-! ## Reading a migrated file -/

theorem readSlot_of_lookup_none {file : VaultFileAny} {data : Store String String}
    (hlegacy : file.legacy = some data) {t : String} (ht : data.lookup t = none) :
    readSlot c secret file t = some none := by
  cases file with
  | v2 v => cases hlegacy
  | v1Rust v1 =>
      cases hlegacy
      simp [readSlot, ht]
  | v1Ts v1 =>
      cases hlegacy
      simp [readSlot, ht]

theorem lookup_loadOrMigrate {file : VaultFileAny} {data : Store String String}
    (hload : load env files = file) (hlegacy : file.legacy = some data) {v : VaultFileV2}
    (h : loadOrMigrate c env files secret = some v) :
    v = { emptyV2 env with slots := v.slots } ∧
      ∀ t, v.slots.lookup t = migratedBlob c env secret file t := by
  rw [loadOrMigrate_legacy hload hlegacy] at h
  obtain ⟨hv, hlookup⟩ := lookup_migrateSlots rfl h
  refine ⟨hv, fun t => ?_⟩
  rw [hlookup t]
  split
  case isTrue => simp [emptyV2]
  case isFalse ht =>
    have habsent : data.lookup t = none := AList.lookup_eq_none.mpr ht
    simp [migratedBlob, readSlot_of_lookup_none hlegacy habsent, emptyV2]

private theorem decrypt_of_decryptV1Blob {key : List UInt8} {blob plain : String}
    (h : decryptV1Blob c key blob = some (some plain)) :
    ∃ iv sealed, c.decrypt key iv sealed = some (utf8 plain) := by
  unfold decryptV1Blob at h
  split at h
  case h_2 => cases h
  case h_1 =>
    split at h
    case h_2 => cases h
    case h_1 iv tag ct _ _ _ =>
      obtain ⟨opened, hopened, h⟩ := Option.map_eq_some_iff.mp h
      obtain ⟨bytes, rfl, htext⟩ := Option.bind_eq_some_iff.mp h
      unfold openSealed at hopened
      split at hopened
      case isFalse => cases hopened
      case isTrue =>
        rw [utf8_of_ofUtf8 htext]
        exact ⟨iv, ct ++ tag, Option.some.inj hopened⟩

private theorem decrypt_of_readSlot {file : VaultFileAny} {data : Store String String}
    (hlegacy : file.legacy = some data) {t plain : String}
    (h : readSlot c secret file t = some (some plain)) :
    ∃ key iv sealed, c.decrypt key iv sealed = some (utf8 plain) := by
  cases file with
  | v2 v => cases hlegacy
  | v1Rust v1 =>
      simp only [readSlot] at h
      split at h
      case h_2 => cases h
      case h_1 =>
        split at h
        · cases h
        · exact ⟨_, decrypt_of_decryptV1Blob h⟩
  | v1Ts v1 =>
      simp only [readSlot, decryptLegacyScrypt] at h
      split at h
      · cases h
      · split at h
        · cases h
        · exact ⟨_, decrypt_of_decryptV1Blob h⟩

theorem encryptV2_emptyV2 {plain : String} {iv : RandomBytes 12} :
    (∃ blob, encryptV2 c secret plain (emptyV2 env).salt iv = .ok blob) ↔
      (c.encrypt (c.scrypt (utf8 secret) env.freshSalt.val) iv.val (utf8 plain)).isSome := by
  have hkey : deriveKeyV2 c secret (emptyV2 env).salt =
      .ok (c.scrypt (utf8 secret) env.freshSalt.val) := by
    simp [deriveKeyV2, emptyV2]
  cases hsealed : c.encrypt (c.scrypt (utf8 secret) env.freshSalt.val) iv.val (utf8 plain) with
  | none => simp [encryptV2, hkey, bind, Except.bind, hsealed]
  | some sealed => simp [encryptV2, hkey, bind, Except.bind, pure, Except.pure, hsealed]

theorem isSome_readSlot {file : VaultFileAny} {data : Store String String}
    (hload : load env files = file) (hlegacy : file.legacy = some data) {v : VaultFileV2}
    (h : loadOrMigrate c env files secret = some v) (t : String) :
    (readSlot c secret file t).isSome = true := by
  by_cases ht : t ∈ data
  · have hsome : (migrateSlots c env secret file data.keys (emptyV2 env)).isSome = true := by
      rw [← loadOrMigrate_legacy hload hlegacy, h]
      rfl
    rw [isSome_migrateSlots, List.all_eq_true] at hsome
    exact hsome t (AList.mem_keys.mp ht)
  · rw [readSlot_of_lookup_none hlegacy (AList.lookup_eq_none.mpr ht)]
    rfl

theorem readSlot_loadOrMigrate (hc : c.Inverts) (hr : c.Reencrypts) {file : VaultFileAny}
    {data : Store String String} (hload : load env files = file)
    (hlegacy : file.legacy = some data) {v : VaultFileV2}
    (h : loadOrMigrate c env files secret = some v) (t : String) :
    readSlot c secret (.v2 v) t = readSlot c secret file t := by
  obtain ⟨hv, hlookup⟩ := lookup_loadOrMigrate hload hlegacy h
  have hsalt : v.salt = (emptyV2 env).salt := by rw [hv]
  cases hread : readSlot c secret file t with
  | none =>
      have hsome := isSome_readSlot hload hlegacy h t
      rw [hread] at hsome
      cases hsome
  | some stored =>
      cases stored with
      | none =>
          have habsent : v.slots.lookup t = none := by
            rw [hlookup]
            simp [migratedBlob, hread]
          simp [readSlot, habsent]
      | some plain =>
          obtain ⟨key, iv, sealed, hopens⟩ := decrypt_of_readSlot hlegacy hread
          obtain ⟨blob, hblob⟩ := encryptV2_emptyV2.mpr (hr _ _ _ _ hopens
            (c.scrypt (utf8 secret) env.freshSalt.val) (env.migrationIv t).val)
          have hstored : v.slots.lookup t = some blob := by
            rw [hlookup]
            simp [migratedBlob, hread, hblob, Except.toOption]
          simp [readSlot, hstored, hsalt, decryptV2_encryptV2 hc hblob, Except.toOption]

/-! ## The first change of a legacy vault -/

/--
When the first change of a legacy vault is written, every other slot reads as
it did; otherwise the call fails and the vault is as it was.
-/
theorem migration_preserves (hc : c.Inverts) (hr : c.Reencrypts) (env : VaultEnv)
    (files : VaultFiles) (file : VaultFileAny) (data : Store String String)
    (hparsed : files.parsed = some file) (hlegacy : file.legacy = some data)
    (hread : env.vaultReadFails = false) (secret : String)
    (hsecret : (loadSecret env files).1 = .ok secret)
    (hdecrypts : ∀ t ∈ data.keys, ∃ plain, readSlot c secret file t = some (some plain))
    (slotId value : String) :
    match setApiKey c env files slotId value with
    | (some (.ok ()), files') => ∃ v, files'.parsed = some (.v2 v) ∧
        ∀ t, t ≠ slotId → readSlot c secret (.v2 v) t = readSlot c secret file t
    | (some (.error _), files') => files'.vault = files.vault
    | (none, _) => False := by
  obtain ⟨files₁, hload⟩ : ∃ files₁, loadSecret env files = (.ok secret, files₁) :=
    ⟨_, Prod.ext hsecret rfl⟩
  have hvault : files₁.vault = files.vault := by
    have hkept := loadSecret_vault env files
    rwa [hload] at hkept
  have hfile : load env files₁ = file := by
    refine load_of_parsed hread ?_
    simp only [VaultFiles.parsed, hvault] at hparsed ⊢
    exact hparsed
  have hmigrates : (loadOrMigrate c env files₁ secret).isSome := by
    rw [loadOrMigrate_legacy hfile hlegacy, isSome_migrateSlots, List.all_eq_true]
    intro t ht
    obtain ⟨plain, hplain⟩ := hdecrypts t ht
    rw [hplain]
    rfl
  cases hslot : findSlot slotId with
  | none => simp [setApiKey, hslot]
  | some slot =>
      rcases setApiKey_cases c env files value hslot hload with ⟨e, herror⟩ |
        ⟨_, hused, hpanics, -⟩ | ⟨_, v, v', hused, hv, hupdate, -, hwritten⟩
      · rw [herror]
        exact hvault
      · cases hused
        rw [hpanics] at hmigrates
        cases hmigrates
      · cases hused
        rw [hwritten]
        have hsupported : v'.Supported := by
          rw [updateSlot_fields hupdate, (lookup_loadOrMigrate hfile hlegacy hv).1]
          exact ⟨rfl, rfl, rfl⟩
        refine ⟨v', VaultFileAny.parse_toJson hsupported, fun t ht => ?_⟩
        rw [readSlot_updateSlot_ne hupdate ht]
        exact readSlot_loadOrMigrate hc hr hfile hlegacy hv t

/-! ## A migrated key -/

def legacyBlob (iv tag ct : List UInt8) : String :=
  encodeHex iv ++ ":" ++ encodeHex tag ++ ":" ++ encodeHex ct

/-- The key of one slot under `plain`, with the salt 01 02. -/
def legacyTs : VaultFileV1Ts where
  version := vaultVersionV1
  salt := "0102"
  data := AList.singleton "zerox"
    (legacyBlob (List.replicate 12 7)
      (plainTag (1 :: 2 :: utf8 "test-passphrase-123") (List.replicate 12 7))
      (utf8 "legacy-evm-key"))

def legacyFiles : VaultFiles where
  vault := some (.json (.object [("version", .posInt legacyTs.version),
    ("salt", .string legacyTs.salt),
    ("data", .object (legacyTs.data.entries.map fun entry => (entry.1, .string entry.2)))]))
  secret := none

theorem parsed_legacyFiles : legacyFiles.parsed = some (.v1Ts legacyTs) := rfl

theorem plain_reencrypts : VaultCrypto.plain.Reencrypts := fun _ _ _ _ _ _ _ => rfl

theorem readSlot_legacyTs : readSlot .plain "test-passphrase-123" (.v1Ts legacyTs) "zerox" =
    some (some "legacy-evm-key") := by
  decide +kernel

theorem migration_preserves_zerox :
    ∃ v, (setApiKey .plain .plain legacyFiles "helius" "fresh-helius").2.parsed = some (.v2 v) ∧
      readSlot .plain "test-passphrase-123" (.v2 v) "zerox" = some (some "legacy-evm-key") := by
  have hset := migration_preserves VaultCrypto.plain_inverts plain_reencrypts .plain legacyFiles
    (.v1Ts legacyTs) legacyTs.data parsed_legacyFiles rfl rfl "test-passphrase-123"
    (by decide +kernel) (by simpa [legacyTs] using ⟨_, readSlot_legacyTs⟩) "helius" "fresh-helius"
  have hok : (setApiKey .plain .plain legacyFiles "helius" "fresh-helius").1.map Except.isOk =
      some true := by
    decide +kernel
  generalize setApiKey .plain .plain legacyFiles "helius" "fresh-helius" = outcome at hset hok ⊢
  obtain ⟨result, files'⟩ := outcome
  match result with
  | none => simp at hok
  | some (.error e) => simp [Except.isOk, Except.toBool] at hok
  | some (.ok ()) =>
      obtain ⟨v, hv, hsame⟩ := hset
      exact ⟨v, hv, (hsame "zerox" (by decide)).trans readSlot_legacyTs⟩

end ApiKeyVault

end Girasol
