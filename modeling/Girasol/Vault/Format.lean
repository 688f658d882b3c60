import Girasol.Foundation.Json
import Girasol.Foundation.Store

/-!
# The formats of the vault file

Version 2 is written and read; the two layouts of version 1 are read only.  A
file is represented by the JSON value its text spells, where it spells one.
-/

namespace Girasol

open Foundation

def vaultVersionV2 : Nat := 2

def vaultVersionV1 : Nat := 1

structure SlotBlobV2 where
  iv : String
  ct : String
  tag : String
  deriving DecidableEq, Repr

structure ScryptParamsV2 where
  N : Nat := 16384
  r : Nat := 8
  p : Nat := 1
  deriving DecidableEq, Repr

structure VaultFileV2 where
  version : Nat
  kdf : String
  kdfParams : ScryptParamsV2
  salt : String
  slots : Store String SlotBlobV2

/-- A salt for each slot, and the blobs `iv:tag:ciphertext`. -/
structure VaultFileV1Rust where
  version : Nat
  salts : Store String String
  data : Store String String

structure VaultFileV1Ts where
  version : Nat
  salt : String
  data : Store String String

inductive VaultFileAny where
  | v2 (v : VaultFileV2)
  | v1Rust (v : VaultFileV1Rust)
  | v1Ts (v : VaultFileV1Ts)

/-! ## Reading a value as serde does -/

def structFields (names : List String) : Json → Option (List Json)
  | .object fields => names.mapM fun name => fields.lookup name
  | .array items => if items.length = names.length then some items else none
  | _ => none

def asU32 (v : Json) : Option Nat := v.asU64.filter (· < 2 ^ 32)

@[simp] theorem asU32_eq_some {v : Json} {n : Nat} :
    asU32 v = some n ↔ v = .posInt n ∧ n < 2 ^ 32 := by
  cases v <;> simp [asU32, Json.asU64, Option.filter_eq_some_iff]

def storeOf {α : Type} (read : Json → Option α) : List (String × Json) → Option (Store String α)
  | [] => some ∅
  | (key, v) :: fields => do
      let value ← read v
      let store ← storeOf read fields
      return store.insert key value

def asMap {α : Type} (read : Json → Option α) : Json → Option (Store String α)
  | .object fields => storeOf read fields
  | _ => none

def SlotBlobV2.ofJson (v : Json) : Option SlotBlobV2 := do
  match ← structFields ["iv", "ct", "tag"] v with
  | [iv, ct, tag] => return { iv := ← iv.asStr, ct := ← ct.asStr, tag := ← tag.asStr }
  | _ => none

def ScryptParamsV2.ofJson (v : Json) : Option ScryptParamsV2 := do
  match ← structFields ["N", "r", "p"] v with
  | [n, r, p] => return { N := ← asU32 n, r := ← asU32 r, p := ← asU32 p }
  | _ => none

def VaultFileV2.ofJson (v : Json) : Option VaultFileV2 := do
  match ← structFields ["version", "kdf", "kdf_params", "salt", "slots"] v with
  | [version, kdf, kdfParams, salt, slots] =>
      return {
        version := ← asU32 version
        kdf := ← kdf.asStr
        kdfParams := ← ScryptParamsV2.ofJson kdfParams
        salt := ← salt.asStr
        slots := ← asMap SlotBlobV2.ofJson slots }
  | _ => none

def VaultFileV1Rust.ofJson (v : Json) : Option VaultFileV1Rust := do
  match ← structFields ["version", "salts", "data"] v with
  | [version, salts, data] =>
      return {
        version := ← asU32 version
        salts := ← asMap Json.asStr salts
        data := ← asMap Json.asStr data }
  | _ => none

def VaultFileV1Ts.ofJson (v : Json) : Option VaultFileV1Ts := do
  match ← structFields ["version", "salt", "data"] v with
  | [version, salt, data] =>
      return {
        version := ← asU32 version
        salt := ← salt.asStr
        data := ← asMap Json.asStr data }
  | _ => none

def isObject : Json → Bool
  | .object _ => true
  | _ => false

def isString : Json → Bool
  | .string _ => true
  | _ => false

/-- A value that matches no known layout is an error, whose text only goes to the log. -/
def VaultFileAny.parse (raw : Json) : Option VaultFileAny :=
  let version := ((raw.get? "version").bind Json.asU64).getD 0 % 2 ^ 32
  if version = vaultVersionV2 then do
    let v ← VaultFileV2.ofJson raw
    if v.kdf = "scrypt" ∧ v.kdfParams = {} then return .v2 v else none
  else if version = vaultVersionV1 then
    -- both legacy layouts have a `data` object; the one with `salts` is tried first
    if ((raw.get? "salts").map isObject).getD false then
      (VaultFileV1Rust.ofJson raw).map .v1Rust
    else if ((raw.get? "salt").map isString).getD false then
      (VaultFileV1Ts.ofJson raw).map .v1Ts
    else none
  else none

/-! ## Writing -/

def SlotBlobV2.toJson (b : SlotBlobV2) : Json :=
  .object [("iv", .string b.iv), ("ct", .string b.ct), ("tag", .string b.tag)]

def ScryptParamsV2.toJson (params : ScryptParamsV2) : Json :=
  .object [("N", .posInt params.N), ("r", .posInt params.r), ("p", .posInt params.p)]

def VaultFileV2.toJson (v : VaultFileV2) : Json :=
  .object
    [("version", .posInt v.version), ("kdf", .string v.kdf), ("kdf_params", v.kdfParams.toJson),
      ("salt", .string v.salt),
      ("slots", .object (v.slots.entries.map fun entry => (entry.1, entry.2.toJson)))]

structure VaultFileV2.Supported (v : VaultFileV2) : Prop where
  version : v.version = vaultVersionV2
  kdf : v.kdf = "scrypt"
  kdfParams : v.kdfParams = {}

@[simp] theorem SlotBlobV2.ofJson_toJson (b : SlotBlobV2) : ofJson b.toJson = some b := rfl

private theorem storeOf_map {α : Type} {read : Json → Option α} {write : α → Json}
    (hread : ∀ a, read (write a) = some a) (store : Store String α) :
    storeOf read (store.entries.map fun entry => (entry.1, write entry.2)) = some store := by
  obtain ⟨entries, hnodup⟩ := store
  induction entries with
  | nil => rfl
  | cons entry entries ih =>
      obtain ⟨key, value⟩ := entry
      have hkeys := List.nodupKeys_cons.mp hnodup
      simp only [List.map_cons, storeOf, hread]
      rw [ih hkeys.2]
      have hfresh : key ∉ (⟨entries, hkeys.2⟩ : Store String α) := hkeys.1
      simp only [Option.bind_eq_bind, Option.bind_some]
      congr 1
      exact AList.ext (AList.entries_insert_of_notMem hfresh)

@[simp] theorem VaultFileV2.ofJson_toJson {v : VaultFileV2} (hv : v.Supported) :
    ofJson v.toJson = some v := by
  obtain ⟨version, kdf, kdfParams, salt, slots⟩ := v
  obtain ⟨rfl, rfl, rfl⟩ := hv
  have hslots : asMap SlotBlobV2.ofJson
      (.object (slots.entries.map fun entry => (entry.1, entry.2.toJson))) = some slots :=
    storeOf_map SlotBlobV2.ofJson_toJson slots
  simp only [ofJson, toJson, structFields, List.mapM_cons, List.lookup_cons]
  have hu32 (n : Nat) (hn : n < 2 ^ 32) : asU32 (.posInt n) = some n := asU32_eq_some.mpr ⟨rfl, hn⟩
  simp [hslots, hu32, Json.asStr, vaultVersionV2, ScryptParamsV2.ofJson, ScryptParamsV2.toJson,
    structFields, List.lookup_cons]

@[simp] theorem VaultFileAny.parse_toJson {v : VaultFileV2} (hv : v.Supported) :
    parse v.toJson = some (.v2 v) := by
  have hversion : ((v.toJson.get? "version").bind Json.asU64).getD 0 % 2 ^ 32 = vaultVersionV2 := by
    simp [VaultFileV2.toJson, Json.get?, Json.asU64, hv.version, vaultVersionV2]
  simp only [parse, hversion, if_true, VaultFileV2.ofJson_toJson hv]
  simp [hv.kdf, hv.kdfParams]

theorem VaultFileV2.version_of_ofJson {fields : List (String × Json)} {v : VaultFileV2}
    (h : ofJson (.object fields) = some v) :
    fields.lookup "version" = some (.posInt v.version) ∧ v.version < 2 ^ 32 := by
  simp only [ofJson, structFields, List.mapM_cons, List.mapM_nil, Option.bind_eq_bind,
    Option.pure_def, Option.bind_eq_some_iff] at h
  obtain ⟨values, ⟨version, hversion, rest, -, hvalues⟩, h⟩ := h
  cases hvalues
  split at h
  case h_2 => cases h
  case h_1 heq =>
    cases heq
    simp only [Option.bind_eq_some_iff] at h
    obtain ⟨n, hn, _, -, _, -, _, -, _, -, h⟩ := h
    cases h
    obtain ⟨rfl, hlt⟩ := asU32_eq_some.mp hn
    exact ⟨hversion, hlt⟩

theorem VaultFileV2.supported_of_parse {raw : Json} {v : VaultFileV2}
    (h : VaultFileAny.parse raw = some (.v2 v)) : v.Supported := by
  unfold VaultFileAny.parse at h
  simp only at h
  split at h
  case isTrue hversion =>
    obtain ⟨v', hread, h⟩ := Option.bind_eq_some_iff.mp h
    simp only [Option.ite_none_right_eq_some] at h
    obtain ⟨⟨hkdf, hparams⟩, h⟩ := h
    cases h
    refine ⟨?_, hkdf, hparams⟩
    cases raw with
    | object fields =>
        obtain ⟨hlookup, hlt⟩ := VaultFileV2.version_of_ofJson hread
        have hmod : v.version % 2 ^ 32 = vaultVersionV2 := by
          simpa [Json.get?, hlookup, Json.asU64] using hversion
        rwa [Nat.mod_eq_of_lt hlt] at hmod
    | _ => cases hversion
  case isFalse =>
    split at h
    · split at h
      · simp at h
      · split at h <;> simp at h
    · cases h

end Girasol
