import Girasol.Panel.Request
import Girasol.Vault.Statuses
import Mathlib.Data.List.Sort

/-!
# Routes of the key panel

Every route but the page itself asks for the bearer token.  The token is compared
by its SHA-256 digest.
-/

namespace Girasol

open Foundation

/-- SHA-256 of a third-party crate. -/
abbrev Digest := List UInt8 → Vector UInt8 32

structure KeyPanel where
  authToken : String

/-- The page is made of the slot table alone. -/
inductive ResponseBody where
  | json (v : Json)
  | page (slots : List ApiKeySlot)

structure Response where
  status : Nat
  contentType : String
  body : ResponseBody

/-- What one request meets: a change of a key, the status of each slot, the mode of the file. -/
structure PanelEnv where
  change : VaultEnv
  status : String → VaultEnv
  mode : ApiKeyVault.FileMode

namespace KeyPanel

def constantTimeEq (sha256 : Digest) (a b : String) : Bool :=
  let ha := sha256 (utf8 a)
  let hb := sha256 (utf8 b)
  (List.finRange 32).foldl (fun diff i => diff ||| (ha[i] ^^^ hb[i])) 0 == 0

def authorize (sha256 : Digest) (panel : KeyPanel) (req : Request) : Bool :=
  match req.auth with
  | some a =>
      match stripPrefix a "Bearer " with
      | some token => constantTimeEq sha256 (trim token) panel.authToken
      | none => false
  | none => false

def jsonResponse (status : Nat) (v : Json) : Response := ⟨status, "application/json", .json v⟩

def errorResponse (status : Nat) (error : String) : Response :=
  jsonResponse status (.object [("error", .string error)])

def unauthorized : Response := errorResponse 401 "unauthorized"

def renderIndex : Response := ⟨200, "text/html; charset=utf-8", .page apiKeySlots⟩

/-- Tips-friendly slots first, then free, then freemium, then subscription. -/
def rank (pricing : String) : Nat :=
  if pricing = "tips" then 0 else if pricing = "free" then 1
  else if pricing = "freemium" then 2 else 3

def optionalText : Option String → Json
  | none => .null
  | some s => .string s

def statusJson (s : ApiKeySlotStatus) : Json :=
  .object [("id", .string s.id), ("label", .string s.label), ("purpose", .string s.purpose),
    ("signup_url", .string s.signupUrl), ("pricing", .string s.pricing),
    ("env_var", .string s.envVar), ("placeholder", .string s.placeholder),
    ("network", .string s.network), ("configured", .bool s.configured),
    ("masked", optionalText s.masked), ("source", optionalText s.source)]

def slotJson (s : ApiKeySlot) : Json :=
  .object [("id", .string s.id), ("label", .string s.label), ("pricing", .string s.pricing.asStr)]

def keysPath : String := "/api/panel/keys/"

section

variable (c : VaultCrypto) (sha256 : Digest) (parse : List UInt8 → Option Json)
  (panel : KeyPanel) (env : PanelEnv) (files : VaultFiles)

/-- `none` is a panic. -/
def listKeys : Option Response × VaultFiles :=
  let (found, files) := ApiKeyVault.statuses c env.status files
  (found.map fun found =>
    let sorted := found.insertionSort fun s t : ApiKeySlotStatus => rank s.pricing ≤ rank t.pricing
    jsonResponse 200 (.object [("keys", .array (sorted.map statusJson))]), files)

/-- The answer to a change names the slot under `key`. -/
def changeKey (key slotId value : String) : Option Response × VaultFiles :=
  let (result, files) := ApiKeyVault.setApiKey c env.change files slotId value
  (result.map fun
    | .ok () => jsonResponse 200 (.object [("ok", .bool true), (key, .string slotId)])
    | .error e => errorResponse 400 e, files)

/-- The string member `value` of a body that is a complete JSON object. -/
def givenValue (body : List UInt8) : Option String :=
  (parse body).bind fun v => (v.get? "value").bind Json.asStr

def guarded (req : Request) (answer : Option Response × VaultFiles) :
    Option Response × VaultFiles :=
  if panel.authorize sha256 req then answer else (some unauthorized, files)

def route (req : Request) : Option Response × VaultFiles :=
  let guarded := guarded sha256 panel files req
  let slotId := trimStartMatches req.path keysPath
  let underKeys := (stripPrefix req.path keysPath).isSome
  if req.method = "GET" ∧ (req.path = "/" ∨ req.path = "/index.html") then
    (some renderIndex, files)
  else if req.method = "GET" ∧ req.path = "/api/panel/keys" then
    guarded (listKeys c env files)
  else if req.method = "GET" ∧ req.path = "/api/panel/health" then
    guarded (some (jsonResponse 200 (ApiKeyVault.vaultHealth env.change.dir files env.mode)), files)
  else if req.method = "POST" ∧ underKeys then
    guarded (changeKey c env files "slot" slotId ((givenValue parse req.body).getD ""))
  else if req.method = "DELETE" ∧ underKeys then
    guarded (changeKey c env files "deleted" slotId "")
  else if req.method = "GET" ∧ req.path = "/api/panel/slots" then
    guarded
      (some (jsonResponse 200 (.object [("slots", .array (apiKeySlots.map slotJson))])), files)
  else (some (errorResponse 404 "not found"), files)

/-- A connection without a complete request is closed without an answer. -/
def handleConnection (reads : List StreamRead) : Option Response × VaultFiles :=
  match Panel.readRequest reads with
  | none => (none, files)
  | some req => route c sha256 parse panel env files req

end

/-! ## The token -/

private theorem foldl_or_xor (ha hb : Vector UInt8 32) (is : List (Fin 32)) (diff : UInt8) :
    is.foldl (fun diff i => diff ||| (ha[i] ^^^ hb[i])) diff = 0 ↔
      diff = 0 ∧ ∀ i ∈ is, ha[i] = hb[i] := by
  induction is generalizing diff with
  | nil => simp
  | cons i is ih =>
      rw [List.foldl_cons, ih, UInt8.or_eq_zero_iff, UInt8.xor_eq_zero_iff, List.forall_mem_cons,
        and_assoc]

private theorem constantTimeEq_iff {sha256 : Digest} {a b : String} :
    constantTimeEq sha256 a b = true ↔ sha256 (utf8 a) = sha256 (utf8 b) := by
  simp only [constantTimeEq, beq_iff_eq, foldl_or_xor, List.mem_finRange, true_and, true_imp_iff]
  constructor
  · intro h
    exact Vector.ext fun i hi => h ⟨i, hi⟩
  · intro h i
    rw [h]

/-- The panel token after `Bearer `, up to blanks around it. -/
def Authorized (panel : KeyPanel) (req : Request) : Prop :=
  ∃ token, req.auth = some ("Bearer " ++ token) ∧ trim token = panel.authToken

section

variable (c : VaultCrypto) {sha256 : Digest} (parse : List UInt8 → Option Json)
  {panel : KeyPanel} {req : Request}

private theorem authorize_iff : panel.authorize sha256 req = true ↔
    ∃ token, req.auth = some ("Bearer " ++ token) ∧
      sha256 (utf8 (trim token)) = sha256 (utf8 panel.authToken) := by
  unfold authorize
  split
  case h_2 hauth => simp [hauth]
  case h_1 a hauth =>
    split
    case h_1 token htoken =>
      obtain rfl := stripPrefix_eq_some.mp htoken
      simp [constantTimeEq_iff, hauth]
    case h_2 hnone =>
      refine iff_of_false Bool.false_ne_true ?_
      rintro ⟨token, hsome, -⟩
      obtain rfl : a = "Bearer " ++ token := Option.some.inj (hauth.symm.trans hsome)
      rw [stripPrefix_eq_some.mpr rfl] at hnone
      cases hnone

theorem route_of_not_authorize (h : panel.authorize sha256 req = false) :
    ∃ answer, ∀ env files, route c sha256 parse panel env files req = (some answer, files) := by
  have hguarded (files : VaultFiles) (inner : Option Response × VaultFiles) :
      guarded sha256 panel files req inner = (some unauthorized, files) := by
    simp [guarded, h]
  simp only [route, hguarded]
  split_ifs <;> exact ⟨_, fun _ _ => rfl⟩

theorem handleConnection_of_not_authorize {reads : List StreamRead}
    (h : ∀ req, Panel.readRequest reads = some req → panel.authorize sha256 req = false) :
    ∃ answer, ∀ env files, handleConnection c sha256 parse panel env files reads =
      (answer, files) := by
  unfold handleConnection
  cases hreq : Panel.readRequest reads with
  | none => exact ⟨none, fun _ _ => rfl⟩
  | some req =>
      obtain ⟨answer, hanswer⟩ := route_of_not_authorize c parse (h req hreq)
      exact ⟨some answer, hanswer⟩

end

/--
A request without the token leaves the files of the vault alone, and its answer
is the same for any two vaults.
-/
theorem unauthorized_learns_nothing (c : VaultCrypto) (sha256 : Digest)
    (parse : List UInt8 → Option Json) (panel : KeyPanel) (req : Request)
    (hcollision : ∀ token, req.auth = some ("Bearer " ++ token) →
      sha256 (utf8 (trim token)) = sha256 (utf8 panel.authToken) → trim token = panel.authToken)
    (hreq : ¬Authorized panel req) :
    (∀ env files, (route c sha256 parse panel env files req).2 = files) ∧
      ∀ env files env' files', (route c sha256 parse panel env files req).1 =
        (route c sha256 parse panel env' files' req).1 := by
  have hrefused : panel.authorize sha256 req = false := by
    rw [← Bool.not_eq_true, authorize_iff]
    rintro ⟨token, hauth, hdigest⟩
    exact hreq ⟨token, hauth, hcollision token hauth hdigest⟩
  obtain ⟨answer, hanswer⟩ := route_of_not_authorize c parse hrefused
  constructor
  · intro env files
    rw [hanswer]
  · intro env files env' files'
    rw [hanswer, hanswer]

/-! ## A wrong token -/

def plainDigest : Digest := fun bytes => Vector.ofFn fun i => bytes.getD i 0

def samplePanel : KeyPanel := ⟨"secret-token-1"⟩

def wrongToken : Request := ⟨"DELETE", "/api/panel/keys/jito", some "Bearer wrong", []⟩

def samplePanelEnv : PanelEnv := ⟨.plain, fun _ => .plain, ⟨true, true⟩⟩

def sealedFiles : VaultFiles where
  vault := some (.json (.object [("v", .posInt 3)]))
  secret := some (.text "test-passphrase-123")

theorem unauthorized_learns_nothing_wrong :
    (route .plain plainDigest (fun _ => none) samplePanel samplePanelEnv sealedFiles
        wrongToken).2 = sealedFiles ∧
      (route .plain plainDigest (fun _ => none) samplePanel samplePanelEnv sealedFiles
        wrongToken).1 =
        (route .plain plainDigest (fun _ => none) samplePanel samplePanelEnv ⟨none, none⟩
          wrongToken).1 := by
  have htoken {token : String} (h : wrongToken.auth = some ("Bearer " ++ token)) :
      token = "wrong" := by
    have hrest := stripPrefix_eq_some.mpr (Option.some.inj h)
    have hwrong : stripPrefix "Bearer wrong" "Bearer " = some "wrong" := by decide +kernel
    exact Option.some.inj (hrest.symm.trans hwrong)
  have hcollision (token : String) (h : wrongToken.auth = some ("Bearer " ++ token)) :
      plainDigest (utf8 (trim token)) = plainDigest (utf8 samplePanel.authToken) →
        trim token = samplePanel.authToken := by
    rw [htoken h]
    decide +kernel
  have hwrong : ¬Authorized samplePanel wrongToken := by
    rintro ⟨token, hauth, hsame⟩
    rw [htoken hauth] at hsame
    revert hsame
    decide +kernel
  have hnothing := unauthorized_learns_nothing .plain plainDigest (fun _ => none) samplePanel
    wrongToken hcollision hwrong
  exact ⟨hnothing.1 _ _, hnothing.2 _ _ _ _⟩

end KeyPanel

end Girasol
