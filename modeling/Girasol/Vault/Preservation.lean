import Girasol.Vault.Migration

/-!
# What a failure leaves of the vault

A change of one slot is meant to leave the entries of the others and the secret
as they are.  A file that is not read, not understood or not decrypted counts as
empty, though, and is then replaced.
-/

namespace Girasol

open Foundation

def SecretContent.Blank : SecretContent → Prop
  | .text s => (trim s).isEmpty = true
  | .binary _ => False

def VaultFileAny.HasEntry : VaultFileAny → String → Prop
  | .v2 v, t => t ∈ v.slots
  | .v1Rust v1, t => t ∈ v1.data
  | .v1Ts v1, t => t ∈ v1.data

namespace ApiKeyVault

/-! ## What is to be kept -/

section

-- `holds` is any reading of a file that has none of the known layouts
variable (c : VaultCrypto) (holds : VaultContent → String → Prop)

def Stores (files : VaultFiles) (t : String) : Prop :=
  match files.parsed with
  | some file => file.HasEntry t
  | none => ∃ content, files.vault = some content ∧ holds content t

def KeepsBlob (file : VaultFileAny) (v : VaultFileV2) (t : String) : Prop :=
  match file with
  | .v2 old => v.salt = old.salt ∧ v.slots.lookup t = old.slots.lookup t
  | legacy => ∃ secret plain, readSlot c secret legacy t = some (some plain) ∧
      readSlot c secret (.v2 v) t = some (some plain)

def KeepsEntry (old new : VaultFiles) (t : String) : Prop :=
  new.vault = old.vault ∨ (Stores holds old t →
    ∃ file v, old.parsed = some file ∧ new.parsed = some (.v2 v) ∧ KeepsBlob c file v t)

def KeepsSecret (old new : VaultFiles) : Prop :=
  ∀ content, old.secret = some content → ¬content.Blank → new.secret = some content

structure Preserves (slotId : String) (old new : VaultFiles) : Prop where
  entries : ∀ t, t ≠ slotId → KeepsEntry c holds old new t
  secret : KeepsSecret old new

end

/-! ## When something is lost -/

section

variable (c : VaultCrypto) (env : VaultEnv) (files : VaultFiles)

/-- A secret that is there but cannot be read as text is replaced by a fresh one. -/
def ReplacesSecret : Prop :=
  passphrase env = none ∧ ∃ content, files.secret = some content ∧ ¬content.Blank ∧
    (env.secretReadFails = true ∨ ∃ bytes, content = .binary bytes) ∧
    env.createSecretDir = .ok () ∧
    match env.writeSecret with
    | .written => content ≠ .text (encodeHex env.freshSecret.val)
    | .failed _ left => ∃ other, left = some other ∧ other ≠ content

def usedSecret : Option String :=
  (passphrase env).or ((existingSecret env files).or
    (match env.createSecretDir, env.writeSecret with
    | .ok (), .written => some (encodeHex env.freshSecret.val)
    | _, _ => none))

def Unreadable (secret t : String) : Prop :=
  env.vaultReadFails = true ∨ ∀ file, files.parsed = some file →
    file.legacy ≠ none ∧ readSlot c secret file t = some none

def Saves : Prop := env.createVaultDir = .ok () ∧ env.writeTmp = .ok () ∧ env.rename = .ok ()

/-- Nothing keeps a vault that is started anew from being written. -/
structure Writes (secret value : String) : Prop where
  used : usedSecret env files = some secret
  opens : env.vaultReadFails = false → ∀ file data, files.parsed = some file →
    file.legacy = some data → ∀ t ∈ data.keys, (readSlot c secret file t).isSome = true
  encrypts : (trim value).isEmpty = true ∨ (c.encrypt (c.scrypt (utf8 secret) env.freshSalt.val)
    env.iv.val (utf8 (trim value))).isSome = true
  saves : Saves env

def LosesEntry (holds : VaultContent → String → Prop) (slotId value : String) : Prop :=
  ∃ secret, Writes c env files secret value ∧
    ∃ t, t ≠ slotId ∧ Stores holds files t ∧ Unreadable c env files secret t

end

variable {c : VaultCrypto} {holds : VaultContent → String → Prop} {env : VaultEnv}
  {files : VaultFiles} {secret slotId value : String}

/-! ## The secret -/

theorem toOption_loadSecret (env : VaultEnv) (files : VaultFiles) :
    (loadSecret env files).1.toOption = usedSecret env files := by
  unfold loadSecret usedSecret
  cases passphrase env with
  | some p => rfl
  | none =>
      cases existingSecret env files with
      | some s => rfl
      | none =>
          cases env.createSecretDir with
          | error e => rfl
          | ok _ => cases env.writeSecret <;> rfl

private theorem existingSecret_eq_none {content : SecretContent} (h : files.secret = some content)
    (hblank : ¬content.Blank) : existingSecret env files = none ↔
      env.secretReadFails = true ∨ ∃ bytes, content = .binary bytes := by
  cases content with
  | text s =>
      have hs : ¬(trim s).isEmpty = true := hblank
      cases hfails : env.secretReadFails <;> simp [existingSecret, h, hs, hfails]
  | binary bytes => simp [existingSecret, h]

theorem keepsSecret_loadSecret_iff (env : VaultEnv) (files : VaultFiles) :
    KeepsSecret files (loadSecret env files).2 ↔ ¬ReplacesSecret env files := by
  have hkept : KeepsSecret files files := fun _ h _ => h
  unfold loadSecret ReplacesSecret
  cases passphrase env with
  | some p => simpa using hkept
  | none =>
      cases hexisting : existingSecret env files with
      | some s =>
          refine iff_of_true hkept ?_
          rintro ⟨-, content, hcontent, hblank, hunread, -⟩
          rw [(existingSecret_eq_none hcontent hblank).mpr hunread] at hexisting
          cases hexisting
      | none =>
          cases env.createSecretDir with
          | error e => simpa using hkept
          | ok _ =>
              cases env.writeSecret with
              | written =>
                  constructor
                  · rintro hkeeps ⟨-, content, hcontent, hblank, -, -, hother⟩
                    exact hother (Option.some.inj (hkeeps content hcontent hblank)).symm
                  · intro hreplaces content hcontent hblank
                    by_contra hlost
                    exact hreplaces ⟨rfl, content, hcontent, hblank,
                      (existingSecret_eq_none hcontent hblank).mp hexisting, rfl,
                      fun hsame => hlost (congrArg some hsame.symm)⟩
              | failed e left =>
                  constructor
                  · rintro hkeeps ⟨-, content, hcontent, hblank, -, -, other, rfl, hother⟩
                    exact hother (Option.some.inj (hkeeps content hcontent hblank))
                  · intro hreplaces content hcontent hblank
                    by_contra hlost
                    cases left with
                    | none => exact hlost hcontent
                    | some other =>
                        exact hreplaces ⟨rfl, content, hcontent, hblank,
                          (existingSecret_eq_none hcontent hblank).mp hexisting, rfl, other, rfl,
                          fun hsame => hlost (congrArg some hsame)⟩

/-! ## The entries -/

theorem loadOrMigrate_congr {files' : VaultFiles} (h : files'.vault = files.vault) :
    loadOrMigrate c env files' secret = loadOrMigrate c env files secret := by
  simp only [loadOrMigrate, load, VaultFiles.parsed, h]

theorem fresh_of_unreadable {t : String} {v : VaultFileV2}
    (ht : Unreadable c env files secret t) (hv : loadOrMigrate c env files secret = some v) :
    v = { emptyV2 env with slots := v.slots } ∧ v.slots.lookup t = none := by
  have hempty (hload : load env files = .v2 (emptyV2 env)) :
      v = { emptyV2 env with slots := v.slots } ∧ v.slots.lookup t = none := by
    simp only [loadOrMigrate, hload] at hv
    cases hv
    exact ⟨rfl, rfl⟩
  cases hfails : env.vaultReadFails with
  | true => exact hempty (by simp [load, hfails])
  | false =>
      cases hparsed : files.parsed with
      | none => exact hempty (by simp [load, hfails, hparsed])
      | some file =>
          have hfile : file.legacy ≠ none ∧ readSlot c secret file t = some none := by
            rcases ht with hread | hfile
            · rw [hfails] at hread
              cases hread
            · exact hfile file hparsed
          obtain ⟨data, hlegacy⟩ := Option.ne_none_iff_exists'.mp hfile.1
          obtain ⟨hv, hlookup⟩ := lookup_loadOrMigrate (load_of_parsed hfails hparsed) hlegacy hv
          exact ⟨hv, by rw [hlookup, migratedBlob, hfile.2]; rfl⟩

theorem updateSlot_emptyV2 {v : VaultFileV2} (hsalt : v.salt = (emptyV2 env).salt) :
    (∃ v', updateSlot c env secret slotId value v = .ok v') ↔ (trim value).isEmpty = true ∨
      (c.encrypt (c.scrypt (utf8 secret) env.freshSalt.val) env.iv.val
        (utf8 (trim value))).isSome = true := by
  rw [← encryptV2_emptyV2]
  by_cases hblank : (trim value).isEmpty = true
  · simp [updateSlot, hblank]
  · cases hblob : encryptV2 c secret (trim value) (emptyV2 env).salt env.iv with
    | error e => simp [updateSlot, hblank, hsalt, hblob, bind, Except.bind]
    | ok blob => simp [updateSlot, hblank, hsalt, hblob, bind, Except.bind, pure, Except.pure]

/-! ## One call -/

theorem loadSecret_of_used (h : usedSecret env files = some secret) :
    ∃ files₁, loadSecret env files = (.ok secret, files₁) ∧ files₁.vault = files.vault := by
  rw [← toOption_loadSecret, toOption_eq_some] at h
  exact ⟨_, Prod.ext h rfl, loadSecret_vault env files⟩

theorem save_of_saves (h : Saves env) (v : VaultFileV2) :
    save env files v = (.ok (), { files with vault := some (.json v.toJson) }) := by
  obtain ⟨hdir, htmp, hrename⟩ := h
  simp [save, hdir, htmp, hrename]

private theorem saves_of_save {v : VaultFileV2} (h : (save env files v).1 = .ok ()) :
    Saves env := by
  unfold save at h
  split at h
  case h_4 hdir htmp hrename => exact ⟨hdir, htmp, hrename⟩
  all_goals cases h

@[simp] theorem setApiKey_unknown (h : findSlot slotId = none) :
    setApiKey c env files slotId value = (some (.error "unknown slot"), files) := by
  simp [setApiKey, h]

theorem setApiKey_secret {slot : ApiKeySlot} (hslot : findSlot slotId = some slot) :
    (setApiKey c env files slotId value).2.secret = (loadSecret env files).2.secret := by
  rcases hload : loadSecret env files with ⟨loaded, files₁⟩
  rcases setApiKey_cases c env files value hslot hload with ⟨e, herror⟩ |
    ⟨_, -, -, hpanics⟩ | ⟨_, _, _, -, -, -, -, hwritten⟩
  · rw [herror]
  · rw [hpanics]
  · rw [hwritten]

theorem setApiKey_vault (c : VaultCrypto) (env : VaultEnv) (files : VaultFiles) (value : String)
    {slot : ApiKeySlot} (hslot : findSlot slotId = some slot) :
    (setApiKey c env files slotId value).2.vault = files.vault ∨
      ∃ secret v v', usedSecret env files = some secret ∧
        loadOrMigrate c env files secret = some v ∧
        updateSlot c env secret slotId value v = .ok v' ∧ Saves env ∧
        (setApiKey c env files slotId value).2.vault = some (.json v'.toJson) := by
  rcases hload : loadSecret env files with ⟨loaded, files₁⟩
  have hvault : files₁.vault = files.vault := by
    rw [← loadSecret_vault env files, hload]
  rcases setApiKey_cases c env files value hslot hload with ⟨e, herror⟩ |
    ⟨_, -, -, hpanics⟩ | ⟨secret, v, v', rfl, hv, hupdate, hsave, hwritten⟩
  · left
    rw [herror, hvault]
  · left
    rw [hpanics, hvault]
  · right
    rw [loadOrMigrate_congr hvault] at hv
    have hused : usedSecret env files = some secret := by
      rw [← toOption_loadSecret, hload]
      rfl
    exact ⟨secret, v, v', hused, hv, hupdate, saves_of_save hsave, by rw [hwritten]⟩

theorem setApiKey_written {slot : ApiKeySlot} (hslot : findSlot slotId = some slot)
    (hused : usedSecret env files = some secret) {v v' : VaultFileV2}
    (hv : loadOrMigrate c env files secret = some v)
    (hupdate : updateSlot c env secret slotId value v = .ok v') (hsaves : Saves env) :
    (setApiKey c env files slotId value).2.vault = some (.json v'.toJson) := by
  obtain ⟨files₁, hload, hvault⟩ := loadSecret_of_used hused
  simp [setApiKey, hslot, hload, loadOrMigrate_congr hvault, hv, hupdate, save_of_saves hsaves]

private theorem supported_loadOrMigrate {v : VaultFileV2}
    (h : loadOrMigrate c env files secret = some v) : v.Supported := by
  cases hload : load env files with
  | v2 v₀ =>
      simp only [loadOrMigrate, hload] at h
      cases h
      unfold load at hload
      split at hload
      · cases hload
        exact supported_emptyV2 env
      · cases hparsed : files.parsed with
        | none =>
            rw [hparsed] at hload
            cases hload
            exact supported_emptyV2 env
        | some file =>
            rw [hparsed] at hload
            cases hload
            unfold VaultFiles.parsed at hparsed
            split at hparsed
            · exact VaultFileV2.supported_of_parse hparsed
            · cases hparsed
  | v1Rust v1 =>
      rw [(lookup_loadOrMigrate hload rfl h).1]
      exact ⟨rfl, rfl, rfl⟩
  | v1Ts v1 =>
      rw [(lookup_loadOrMigrate hload rfl h).1]
      exact ⟨rfl, rfl, rfl⟩

theorem parsed_of_written {files' : VaultFiles} {v v' : VaultFileV2}
    (hv : loadOrMigrate c env files secret = some v)
    (hupdate : updateSlot c env secret slotId value v = .ok v')
    (hwritten : files'.vault = some (.json v'.toJson)) : files'.parsed = some (.v2 v') := by
  have hsupported : v'.Supported := by
    rw [updateSlot_fields hupdate]
    obtain ⟨hversion, hkdf, hparams⟩ := supported_loadOrMigrate hv
    exact ⟨hversion, hkdf, hparams⟩
  simp only [VaultFiles.parsed, hwritten, VaultFileAny.parse_toJson hsupported]

theorem keepsBlob_of_readable (hc : c.Inverts) (hr : c.Reencrypts) {t : String}
    {v v' : VaultFileV2} (hreadable : ¬Unreadable c env files secret t)
    (hv : loadOrMigrate c env files secret = some v)
    (hupdate : updateSlot c env secret slotId value v = .ok v') (ht : t ≠ slotId) :
    ∃ file, files.parsed = some file ∧ KeepsBlob c file v' t := by
  simp only [Unreadable, not_or, not_forall] at hreadable
  obtain ⟨hfails, file, hparsed, hfile⟩ := hreadable
  have hload : load env files = file := load_of_parsed (by simpa using hfails) hparsed
  refine ⟨file, hparsed, ?_⟩
  cases hlegacy : file.legacy with
  | none =>
      cases file with
      | v2 old =>
          simp only [loadOrMigrate, hload] at hv
          cases hv
          have hsalt : v'.salt = v.salt := by rw [updateSlot_fields hupdate]
          exact ⟨hsalt, lookup_updateSlot_ne hupdate ht⟩
      | v1Rust v1 => cases hlegacy
      | v1Ts v1 => cases hlegacy
  | some data =>
      have hread := readSlot_loadOrMigrate hc hr hload hlegacy hv t
      rw [← readSlot_updateSlot_ne hupdate ht] at hread
      obtain ⟨plain, hplain⟩ : ∃ plain, readSlot c secret file t = some (some plain) := by
        cases hold : readSlot c secret file t with
        | none =>
            have hsome := isSome_readSlot hload hlegacy hv t
            rw [hold] at hsome
            cases hsome
        | some stored =>
            cases stored with
            | none => exact absurd ⟨by simp [hlegacy], hold⟩ hfile
            | some plain => exact ⟨plain, rfl⟩
      have hnew := hread.trans hplain
      cases file with
      | v2 old => cases hlegacy
      | v1Rust v1 => exact ⟨secret, plain, hplain, hnew⟩
      | v1Ts v1 => exact ⟨secret, plain, hplain, hnew⟩

theorem not_keepsEntry_of_unreadable {files' : VaultFiles} {t : String} {v v' : VaultFileV2}
    (hstored : Stores holds files t) (hunread : Unreadable c env files secret t)
    (hv : loadOrMigrate c env files secret = some v)
    (hupdate : updateSlot c env secret slotId value v = .ok v') (ht : t ≠ slotId)
    (hwritten : files'.vault = some (.json v'.toJson)) : ¬KeepsEntry c holds files files' t := by
  have hparsed' := parsed_of_written hv hupdate hwritten
  have hgone : v'.slots.lookup t = none :=
    (lookup_updateSlot_ne hupdate ht).trans (fresh_of_unreadable hunread hv).2
  rintro (hsame | hkept)
  · have hparsed : files.parsed = some (.v2 v') := by
      rw [← hparsed']
      simp only [VaultFiles.parsed, hsame]
    simp only [Stores, hparsed] at hstored
    exact AList.lookup_eq_none.mp hgone hstored
  · obtain ⟨file, v'', hparsed, hparsed'', hblob⟩ := hkept hstored
    rw [hparsed'] at hparsed''
    cases hparsed''
    simp only [Stores, hparsed] at hstored
    cases file with
    | v2 old =>
        have hold : old.slots.lookup t = none := hblob.2.symm.trans hgone
        exact AList.lookup_eq_none.mp hold hstored
    | v1Rust v1 =>
        obtain ⟨secret', plain, -, hnew⟩ := hblob
        simp [readSlot, hgone] at hnew
    | v1Ts v1 =>
        obtain ⟨secret', plain, -, hnew⟩ := hblob
        simp [readSlot, hgone] at hnew

theorem Writes.isSome_loadOrMigrate (h : Writes c env files secret value) :
    (loadOrMigrate c env files secret).isSome = true := by
  cases hlegacy : (load env files).legacy with
  | none =>
      cases hload : load env files with
      | v2 v => simp [loadOrMigrate, hload]
      | v1Rust v1 => simp [hload, VaultFileAny.legacy] at hlegacy
      | v1Ts v1 => simp [hload, VaultFileAny.legacy] at hlegacy
  | some data =>
      rw [loadOrMigrate_legacy rfl hlegacy, isSome_migrateSlots, List.all_eq_true]
      unfold load at hlegacy ⊢
      split at hlegacy
      · cases hlegacy
      case isFalse hfails =>
        simp only [hfails]
        cases hparsed : files.parsed with
        | none => simp [hparsed, VaultFileAny.legacy] at hlegacy
        | some file =>
            rw [hparsed] at hlegacy
            exact h.opens (by simpa using hfails) file data hparsed hlegacy

theorem Writes.exists_written (h : Writes c env files secret value) (slotId : String) {t : String}
    (ht : Unreadable c env files secret t) :
    ∃ v v', loadOrMigrate c env files secret = some v ∧
      updateSlot c env secret slotId value v = .ok v' := by
  obtain ⟨v, hv⟩ := Option.isSome_iff_exists.mp h.isSome_loadOrMigrate
  have hsalt : v.salt = (emptyV2 env).salt := by rw [(fresh_of_unreadable ht hv).1]
  obtain ⟨v', hupdate⟩ := (updateSlot_emptyV2 hsalt).mpr h.encrypts
  exact ⟨v, v', hv, hupdate⟩

theorem writes_of_written {v : VaultFileV2} (hused : usedSecret env files = some secret)
    (hv : loadOrMigrate c env files secret = some v)
    (hencrypts : (trim value).isEmpty = true ∨
      (c.encrypt (c.scrypt (utf8 secret) env.freshSalt.val) env.iv.val
        (utf8 (trim value))).isSome = true)
    (hsaves : Saves env) : Writes c env files secret value where
  used := hused
  opens hfails _ _ hparsed hlegacy t _ :=
    isSome_readSlot (load_of_parsed hfails hparsed) hlegacy hv t
  encrypts := hencrypts
  saves := hsaves

private theorem keepsEntries_iff (hc : c.Inverts) (hr : c.Reencrypts) {slot : ApiKeySlot}
    (hslot : findSlot slotId = some slot) :
    (∀ t, t ≠ slotId → KeepsEntry c holds files (setApiKey c env files slotId value).2 t) ↔
      ¬LosesEntry c env files holds slotId value := by
  constructor
  · rintro hkeeps ⟨secret, hwrites, t, ht, hstored, hunread⟩
    obtain ⟨v, v', hv, hupdate⟩ := hwrites.exists_written slotId hunread
    have hwritten := setApiKey_written hslot hwrites.used hv hupdate hwrites.saves
    exact not_keepsEntry_of_unreadable hstored hunread hv hupdate ht hwritten (hkeeps t ht)
  · intro hloses t ht
    rcases setApiKey_vault c env files value hslot with hsame |
      ⟨secret, v, v', hused, hv, hupdate, hsaves, hwritten⟩
    · exact .inl hsame
    · refine .inr fun hstored => ?_
      have hreadable : ¬Unreadable c env files secret t := by
        intro hunread
        have hsalt : v.salt = (emptyV2 env).salt := by rw [(fresh_of_unreadable hunread hv).1]
        have hencrypts := (updateSlot_emptyV2 hsalt).mp ⟨v', hupdate⟩
        exact hloses ⟨secret, writes_of_written hused hv hencrypts hsaves, t, ht, hstored, hunread⟩
      obtain ⟨file, hparsed, hblob⟩ := keepsBlob_of_readable hc hr hreadable hv hupdate ht
      exact ⟨file, v', hparsed, parsed_of_written hv hupdate hwritten, hblob⟩

/--
A call keeps the secret and every other entry, or fails with both files as they
were, unless it replaces the secret or starts anew a vault with entries of others.
-/
theorem set_preserves_iff (hc : c.Inverts) (hr : c.Reencrypts)
    (holds : VaultContent → String → Prop) (env : VaultEnv) (files : VaultFiles)
    (slotId value : String) :
    (KeepsSecret files (loadSecret env files).2 ↔ ¬ReplacesSecret env files) ∧
      (Preserves c holds slotId files (setApiKey c env files slotId value).2 ∨
          (∃ e, (setApiKey c env files slotId value).1 = some (.error e)) ∧
            (setApiKey c env files slotId value).2 = files ↔
        ((findSlot slotId).isSome = true →
          ¬ReplacesSecret env files ∧ ¬LosesEntry c env files holds slotId value)) := by
  refine ⟨keepsSecret_loadSecret_iff env files, ?_⟩
  cases hslot : findSlot slotId with
  | none => simp [setApiKey_unknown hslot]
  | some slot =>
      have hsecret : KeepsSecret files (setApiKey c env files slotId value).2 ↔
          ¬ReplacesSecret env files := by
        rw [← keepsSecret_loadSecret_iff]
        simp only [KeepsSecret, setApiKey_secret hslot]
      have hunchanged (h : (setApiKey c env files slotId value).2 = files) :
          Preserves c holds slotId files (setApiKey c env files slotId value).2 := by
        rw [h]
        exact ⟨fun _ _ => .inl rfl, fun _ hcontent _ => hcontent⟩
      rw [← hsecret, ← keepsEntries_iff hc hr hslot]
      constructor
      · rintro (hkeeps | ⟨-, hsame⟩) -
        · exact ⟨hkeeps.secret, hkeeps.entries⟩
        · exact ⟨(hunchanged hsame).secret, (hunchanged hsame).entries⟩
      · intro hkeeps
        exact .inl ⟨(hkeeps rfl).2, (hkeeps rfl).1⟩

/-! ## A legacy vault kept, and a newer one overwritten -/

def slotsHold : VaultContent → String → Prop
  | .json v, t => ((v.get? "slots").bind fun slots => slots.get? t).isSome = true
  | _, _ => False

theorem set_preserves_iff_legacy :
    Preserves .plain slotsHold "helius" legacyFiles
        (setApiKey .plain .plain legacyFiles "helius" "fresh-helius").2 ∨
      (∃ e, (setApiKey .plain .plain legacyFiles "helius" "fresh-helius").1 = some (.error e)) ∧
        (setApiKey .plain .plain legacyFiles "helius" "fresh-helius").2 = legacyFiles := by
  refine (set_preserves_iff VaultCrypto.plain_inverts plain_reencrypts slotsHold .plain
    legacyFiles "helius" "fresh-helius").2.mpr fun _ => ⟨?_, ?_⟩
  · rintro ⟨hpassphrase, -⟩
    revert hpassphrase
    decide +kernel
  · rintro ⟨secret, hwrites, t, -, hstored, hunread⟩
    have hsecret : usedSecret .plain legacyFiles = some "test-passphrase-123" := by decide +kernel
    have hused := hwrites.used
    rw [hsecret] at hused
    cases hused
    have ht : t = "zerox" := by
      simp only [Stores, parsed_legacyFiles] at hstored
      simpa [legacyTs] using AList.mem_keys.mp hstored
    subst ht
    rcases hunread with hfails | hfile
    · cases hfails
    · have hread := (hfile _ parsed_legacyFiles).2
      rw [readSlot_legacyTs] at hread
      cases hread

def newerFiles : VaultFiles where
  vault := some (.json (.object
    [("version", .posInt 3), ("slots", .object [("jito", .string "sealed")])]))
  secret := none

theorem newer_version_overwritten :
    ¬(Preserves .plain slotsHold "helius" newerFiles
        (setApiKey .plain .plain newerFiles "helius" "fresh-helius").2 ∨
      (∃ e, (setApiKey .plain .plain newerFiles "helius" "fresh-helius").1 = some (.error e)) ∧
        (setApiKey .plain .plain newerFiles "helius" "fresh-helius").2 = newerFiles) := by
  have hnewer : newerFiles.parsed = none := rfl
  have hwritten : (setApiKey .plain .plain newerFiles "helius" "fresh-helius").2.parsed.isSome =
      true := by
    decide +kernel
  rintro (hkeeps | ⟨-, hsame⟩)
  · rcases hkeeps.entries "jito" (by decide) with hsame | hkept
    · simp only [VaultFiles.parsed, hsame] at hwritten
      cases hwritten
    · obtain ⟨file, v, hparsed, -, -⟩ := hkept ⟨_, rfl, rfl⟩
      rw [hnewer] at hparsed
      cases hparsed
  · rw [hsame, hnewer] at hwritten
    cases hwritten

end ApiKeyVault

end Girasol
