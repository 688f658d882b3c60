import Girasol.Panel.Route

/-!
# What the key listing reveals

Of every slot the listing shows where its key comes from, and of a key of more
than eight characters its first two and its last four.
-/

namespace Girasol

open Foundation

inductive KeySource where
  | vault
  | env
  deriving DecidableEq, Repr

def KeySource.asStr : KeySource → String
  | .vault => "vault"
  | .env => "env"

def keyEnds (value : String) : Option (List Char × List Char) :=
  let v := (trim value).toList
  if v.length ≤ 8 then none else some (v.take 2, v.drop (v.length - 4))

structure KeyObservation where
  source : KeySource
  ends : Option (List Char × List Char)
  deriving DecidableEq, Repr

namespace ApiKeyVault

variable (c : VaultCrypto)

/-- The key of a slot and where it comes from; the outer `none` is a panic. -/
def effectiveKey (env : VaultEnv) (files : VaultFiles) (slot : ApiKeySlot) :
    Option (Option (KeySource × String)) :=
  let (secret, files) := loadSecret env files
  let fromVault := match secret with
    | .error _ => some none
    | .ok secret => readSlot c secret (load env files) slot.id
  let envVal := ((env.envVar slot.envVar).map trim).filter fun s => !s.isEmpty
  fromVault.map fun fromVault =>
    (fromVault.map fun value => (.vault, value)).or (envVal.map fun value => (.env, value))

def observe (env : VaultEnv) (files : VaultFiles) (slot : ApiKeySlot) :
    Option (Option KeyObservation) :=
  (effectiveKey c env files slot).map fun key =>
    key.map fun (source, value) => ⟨source, keyEnds value⟩

/-- The observations of the slots, each where the listing comes to it. -/
def observations (env : String → VaultEnv) (files : VaultFiles) :
    List ApiKeySlot → List (Option (Option KeyObservation))
  | [] => []
  | slot :: slots =>
      observe c (env slot.id) files slot ::
        observations env (loadSecret (env slot.id) files).2 slots

def maskOf : Option (List Char × List Char) → String
  | none => "••••"
  | some (head, tail) => String.ofList head ++ "…" ++ String.ofList tail

private theorem maskSecret_eq (value : String) : maskSecret value = maskOf (keyEnds value) := by
  unfold maskSecret keyEnds
  dsimp only
  split <;> rfl

def statusOf (slot : ApiKeySlot) (key : Option KeyObservation) : ApiKeySlotStatus where
  id := slot.id
  label := slot.label
  purpose := slot.purpose
  signupUrl := slot.signupUrl
  pricing := slot.pricing.asStr
  envVar := slot.envVar
  placeholder := slot.placeholder
  network := slot.network.asStr
  configured := key.isSome
  masked := key.map fun o => maskOf o.ends
  source := key.map fun o => o.source.asStr

variable {c}

private theorem status_eq (env : VaultEnv) (files : VaultFiles) (slot : ApiKeySlot) :
    status c env files slot =
      ((observe c env files slot).map (statusOf slot), (loadSecret env files).2) := by
  unfold status observe effectiveKey
  dsimp only
  rw [Option.map_map, Option.map_map]
  congr 2
  funext fromVault
  cases fromVault with
  | some value => simp [statusOf, maskSecret_eq, KeySource.asStr]
  | none =>
      cases ((env.envVar slot.envVar).map trim).filter fun s => !s.isEmpty with
      | none => rfl
      | some value => simp [statusOf, maskSecret_eq, KeySource.asStr]

private theorem statusesOf_congr {env env' : String → VaultEnv} {files files' : VaultFiles}
    {slots : List ApiKeySlot}
    (h : observations c env files slots = observations c env' files' slots) :
    (statusesOf c env files slots).1 = (statusesOf c env' files' slots).1 := by
  induction slots generalizing files files' with
  | nil => rfl
  | cons slot slots ih =>
      obtain ⟨hfirst, hrest⟩ := List.cons_eq_cons.mp h
      simp only [statusesOf, status_eq, hfirst]
      cases observe c (env' slot.id) files' slot with
      | none => rfl
      | some key =>
          simp only [Option.map_some]
          rw [ih hrest]

end ApiKeyVault

namespace KeyPanel

/--
The answer to a request for the listing is the same over any two vaults and
environments of which the same may be seen.
-/
theorem listing_reveals (c : VaultCrypto) (sha256 : Digest) (parse : List UInt8 → Option Json)
    (panel : KeyPanel) {req : Request} (hmethod : req.method = "GET")
    (hpath : req.path = "/api/panel/keys") {env env' : PanelEnv} {files files' : VaultFiles}
    (h : ApiKeyVault.observations c env.status files apiKeySlots =
      ApiKeyVault.observations c env'.status files' apiKeySlots) :
    (route c sha256 parse panel env files req).1 =
      (route c sha256 parse panel env' files' req).1 := by
  have hroute (env : PanelEnv) (files : VaultFiles) :
      route c sha256 parse panel env files req =
        guarded sha256 panel files req (listKeys c env files) := by
    simp only [route, hmethod, hpath]
    rfl
  have hlist : (listKeys c env files).1 = (listKeys c env' files').1 := by
    simp only [listKeys, ApiKeyVault.statuses]
    rw [ApiKeyVault.statusesOf_congr h]
  rw [hroute, hroute]
  unfold guarded
  split
  · exact hlist
  · rfl

/-! ## Two keys that look alike -/

def heliusEnv (value : String) : PanelEnv where
  change := .plain
  status := fun _ => { VaultEnv.plain with
    envVar := fun name => if name = "HELIUS_API_KEY" then some value else none }
  mode := ⟨true, true⟩

def listRequest : Request := ⟨"GET", "/api/panel/keys", some "Bearer secret-token-1", []⟩

theorem listing_reveals_helius :
    (route .plain plainDigest (fun _ => none) samplePanel (heliusEnv "sk-one-key-1234") ⟨none, none⟩
        listRequest).1 =
      (route .plain plainDigest (fun _ => none) samplePanel (heliusEnv " sk-other-1234")
        ⟨none, none⟩ listRequest).1 :=
  listing_reveals .plain plainDigest (fun _ => none) samplePanel rfl rfl (by decide +kernel)

end KeyPanel

end Girasol
