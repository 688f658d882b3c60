import Girasol.Panel.Route
import Girasol.Vault.Preservation

/-!
# Changes through the panel

A posted body without a value counts as one with an empty value, and an empty
value deletes the key.
-/

namespace Girasol

open Foundation

/-- What the vault file has for a slot, with the salt that belongs to it. -/
inductive StoredKey where
  | v2 (salt : String) (blob : SlotBlobV2)
  | v1 (salt : Option String) (blob : String)

def VaultFiles.storedKey (files : VaultFiles) (slotId : String) : Option StoredKey :=
  match files.parsed with
  | some (.v2 v) => (v.slots.lookup slotId).map (.v2 v.salt)
  | some (.v1Rust v1) => (v1.data.lookup slotId).map (.v1 (v1.salts.lookup slotId))
  | some (.v1Ts v1) => (v1.data.lookup slotId).map (.v1 (some v1.salt))
  | none => none

namespace ApiKeyVault

variable {c : VaultCrypto} {env : VaultEnv} {files files' : VaultFiles} {slotId value : String}

private theorem storedKey_congr (h : files'.vault = files.vault) (t : String) :
    files'.storedKey t = files.storedKey t := by
  simp only [VaultFiles.storedKey, VaultFiles.parsed, h]

@[simp] theorem updateSlot_blank {secret : String} (hblank : (trim value).isEmpty = true)
    (v : VaultFileV2) :
    updateSlot c env secret slotId value v = .ok { v with slots := v.slots.erase slotId } := by
  simp [updateSlot, hblank]

private theorem storedKey_of_written {secret : String} {v v' : VaultFileV2}
    (hblank : (trim value).isEmpty = true) (hv : loadOrMigrate c env files secret = some v)
    (hupdate : updateSlot c env secret slotId value v = .ok v')
    (hwritten : files'.vault = some (.json v'.toJson)) : files'.storedKey slotId = none := by
  have hparsed := parsed_of_written hv hupdate hwritten
  rw [updateSlot_blank hblank] at hupdate
  cases hupdate
  simp [VaultFiles.storedKey, hparsed]

private theorem setApiKey_blank_keeps_iff (hblank : (trim value).isEmpty = true) :
    (setApiKey c env files slotId value).2.storedKey slotId = files.storedKey slotId ↔
      ((findSlot slotId).isSome = true → (files.storedKey slotId).isSome = true →
        ¬∃ secret, Writes c env files secret value) := by
  cases hslot : findSlot slotId with
  | none => simp [setApiKey_unknown hslot]
  | some slot =>
      constructor
      · rintro hkept - hstored ⟨secret, hwrites⟩
        obtain ⟨v, hv⟩ := Option.isSome_iff_exists.mp hwrites.isSome_loadOrMigrate
        have hupdate : updateSlot c env secret slotId value v =
            .ok { v with slots := v.slots.erase slotId } := updateSlot_blank hblank v
        have hwritten := setApiKey_written hslot hwrites.used hv hupdate hwrites.saves
        rw [← hkept, storedKey_of_written hblank hv hupdate hwritten] at hstored
        cases hstored
      · intro hkeeps
        rcases setApiKey_vault c env files value hslot with hsame |
          ⟨secret, v, v', hused, hv, hupdate, hsaves, hwritten⟩
        · exact storedKey_congr hsame slotId
        · have hwrites := writes_of_written hused hv (.inl hblank) hsaves
          rw [storedKey_of_written hblank hv hupdate hwritten]
          cases hstored : files.storedKey slotId with
          | none => rfl
          | some key => exact absurd ⟨secret, hwrites⟩ (hkeeps rfl (by rw [hstored]; rfl))

end ApiKeyVault

namespace KeyPanel

open ApiKeyVault

variable {c : VaultCrypto} {sha256 : Digest} {parse : List UInt8 → Option Json}
  {panel : KeyPanel} {env : PanelEnv} {files : VaultFiles} {reads : List StreamRead}
  {req : Request}

private theorem changeKey_files (key slotId value : String) :
    (changeKey c env files key slotId value).2 = (setApiKey c env.change files slotId value).2 :=
  rfl

theorem handleConnection_post (hreq : Panel.readRequest reads = some req)
    (hpost : req.method = "POST") (hpath : (stripPrefix req.path keysPath).isSome = true)
    (hauth : panel.authorize sha256 req = true) :
    handleConnection c sha256 parse panel env files reads =
      changeKey c env files "slot" (trimStartMatches req.path keysPath)
        ((givenValue parse req.body).getD "") := by
  simp [handleConnection, hreq, route, guarded, hpost, hpath, hauth]

/--
A post without a value leaves the key of its slot as it was if there is none, if
the slot is unknown, or if the vault cannot be written; else the key is deleted.
-/
theorem post_without_value_keeps_iff (c : VaultCrypto) (sha256 : Digest)
    (parse : List UInt8 → Option Json) (panel : KeyPanel) (env : PanelEnv) (files : VaultFiles)
    (reads : List StreamRead) (req : Request) (hreq : Panel.readRequest reads = some req)
    (hpost : req.method = "POST") (hpath : (stripPrefix req.path keysPath).isSome = true)
    (hauth : panel.authorize sha256 req = true) (hbody : givenValue parse req.body = none) :
    (handleConnection c sha256 parse panel env files reads).2.storedKey
          (trimStartMatches req.path keysPath) =
        files.storedKey (trimStartMatches req.path keysPath) ↔
      ((findSlot (trimStartMatches req.path keysPath)).isSome = true →
        (files.storedKey (trimStartMatches req.path keysPath)).isSome = true →
          ¬∃ secret, Writes c env.change files secret "") := by
  rw [handleConnection_post hreq hpost hpath hauth, hbody, Option.getD_none, changeKey_files]
  have hblank : (trim "").isEmpty = true := by decide +kernel
  exact setApiKey_blank_keeps_iff hblank

/-! ## A body cut short -/

def truncatedPost : List StreamRead := [
  .data (utf8 ("POST /api/panel/keys/zerox HTTP/1.1\r\nAuthorization: Bearer secret-token-1\r\n" ++
    "Content-Length: 20\r\n\r\n")),
  .data (utf8 "\x7b\"val")]

def truncatedRequest : Request :=
  ⟨"POST", "/api/panel/keys/zerox", some "Bearer secret-token-1", utf8 "\x7b\"val"⟩

theorem readRequest_truncatedPost :
    Panel.readRequest truncatedPost = some truncatedRequest := by
  decide +kernel

theorem authorize_truncatedRequest : samplePanel.authorize plainDigest truncatedRequest = true := by
  decide +kernel

theorem path_truncatedRequest : (stripPrefix truncatedRequest.path keysPath).isSome = true := by
  decide +kernel

theorem slot_truncatedRequest : trimStartMatches truncatedRequest.path keysPath = "zerox" := by
  decide +kernel

def fullDisk : PanelEnv :=
  { samplePanelEnv with change := { samplePanelEnv.change with writeTmp := .error "disk full" } }

theorem post_without_value_keeps_fullDisk :
    (legacyFiles.storedKey "zerox").isSome = true ∧
      (handleConnection .plain plainDigest (fun _ => none) samplePanel fullDisk legacyFiles
        truncatedPost).2.storedKey "zerox" = legacyFiles.storedKey "zerox" := by
  have hkeeps := (post_without_value_keeps_iff .plain plainDigest (fun _ => none) samplePanel
    fullDisk legacyFiles truncatedPost truncatedRequest readRequest_truncatedPost rfl
    path_truncatedRequest authorize_truncatedRequest rfl).mpr
  rw [slot_truncatedRequest] at hkeeps
  refine ⟨by decide +kernel, hkeeps ?_⟩
  rintro - - ⟨secret, hwrites⟩
  cases hwrites.saves.2.1

theorem truncated_post_deletes :
    Panel.readRequest truncatedPost = some truncatedRequest ∧
      samplePanel.authorize plainDigest truncatedRequest = true ∧
      (handleConnection .plain plainDigest (fun _ => none) samplePanel samplePanelEnv legacyFiles
        truncatedPost).2.storedKey "zerox" ≠ legacyFiles.storedKey "zerox" := by
  refine ⟨readRequest_truncatedPost, authorize_truncatedRequest, fun hsame => ?_⟩
  have hrun : handleConnection .plain plainDigest (fun _ => none) samplePanel samplePanelEnv
      legacyFiles truncatedPost =
        changeKey .plain samplePanelEnv legacyFiles "slot" "zerox" "" := by
    rw [handleConnection_post readRequest_truncatedPost rfl path_truncatedRequest
      authorize_truncatedRequest, slot_truncatedRequest]
    rfl
  have hbefore : (legacyFiles.storedKey "zerox").isSome = true := by decide +kernel
  have hafter : ((changeKey .plain samplePanelEnv legacyFiles "slot" "zerox" "").2.storedKey
      "zerox").isSome = false := by
    decide +kernel
  rw [← hrun, hsame, hbefore] at hafter
  cases hafter

end KeyPanel

end Girasol
