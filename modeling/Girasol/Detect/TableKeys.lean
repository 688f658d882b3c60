import Girasol.Detect.TopLevel

/-!
# Keys of a message over the tables on chain

A table only grows on chain, so that a cached copy is a prefix of it.  The
canonical keys of a message are its static keys, the writable entries of all
lookups and then the readonly ones.
-/

namespace Girasol.Shreds

open Foundation

/-! ## The canonical keys -/

def entriesOnChain (chain : Pubkey → List Pubkey) (indexes : AddressTableLookup → List UInt8)
    (lookup : AddressTableLookup) : List (Option Pubkey) :=
  (indexes lookup).map fun i => (chain lookup.accountKey)[i.toNat]?

/-- An index beyond the end of its table has a place in the order and no key. -/
def canonicalKeys (chain : Pubkey → List Pubkey) : VersionedMessage → List (Option Pubkey)
  | .legacy accountKeys _ => accountKeys.map some
  | .v0 accountKeys _ lookups =>
      accountKeys.map some ++
        lookups.flatMap (entriesOnChain chain AddressTableLookup.writableIndexes) ++
          lookups.flatMap (entriesOnChain chain AddressTableLookup.readonlyIndexes)

def VersionedMessage.addressTableLookups : VersionedMessage → List AddressTableLookup
  | .legacy _ _ => []
  | .v0 _ _ lookups => lookups

/-- The cached copy of the table of every lookup reaches all its indexes. -/
def AllCached (altCache : AltCache) (message : VersionedMessage) : Prop :=
  ∀ n lookup, message.addressTableLookups[n]? = some lookup →
    ∃ addresses, altCache n lookup.accountKey = some addresses ∧
      ∀ i ∈ lookup.writableIndexes ++ lookup.readonlyIndexes, i.toNat < addresses.length

/-! ## The resolved keys -/

section

variable {altCache : AltCache} {chain : Pubkey → List Pubkey}

theorem selected_onChain {addresses onChain keys : List Pubkey} {indexes : List UInt8}
    (honchain : addresses <+: onChain) (h : selected addresses indexes = some keys) :
    (indexes.map fun i => onChain[i.toNat]?) = keys.map some := by
  have hkeys := mapM_eq_some_iff.mp h
  induction hkeys with
  | nil => rfl
  | @cons i k indexes keys hi hrest ih =>
      have hhere : onChain[i.toNat]? = some k := by
        obtain ⟨rest, rfl⟩ := honchain
        obtain ⟨hlt, -⟩ := List.getElem?_eq_some_iff.mp hi
        rw [List.getElem?_append_left hlt, hi]
      rw [List.map_cons, List.map_cons, hhere, ih (mapM_eq_some_iff.mpr hrest)]

def TableOf (chain : Pubkey → List Pubkey) (lookup : AddressTableLookup)
    (table : List Pubkey × AddressTableLookup) : Prop :=
  table.2 = lookup ∧ table.1 <+: chain lookup.accountKey

def cachedTable (altCache : AltCache) (p : AddressTableLookup × Nat) :
    Option (List Pubkey × AddressTableLookup) :=
  (altCache p.2 p.1.accountKey).map fun addresses => (addresses, p.1)

def segment (indexes : AddressTableLookup → List UInt8)
    (table : List Pubkey × AddressTableLookup) : Option (List Pubkey) :=
  selected table.1 (indexes table.2)

theorem resolveKeys_v0 (altCache : AltCache) (accountKeys : List Pubkey)
    (instructions : List CompiledInstruction) (lookups : List AddressTableLookup) :
    resolveKeys altCache (.v0 accountKeys instructions lookups) =
      (lookups.zipIdx.mapM (cachedTable altCache)).bind fun tables =>
        (tables.mapM (segment AddressTableLookup.writableIndexes)).bind fun writable =>
          (tables.mapM (segment AddressTableLookup.readonlyIndexes)).bind fun readonly =>
            some (accountKeys ++ writable.flatten ++ readonly.flatten) := rfl

private theorem tables_onChain
    (honchain : ∀ n key addresses, altCache n key = some addresses → addresses <+: chain key)
    {lookups : List AddressTableLookup} {k : Nat}
    {tables : List (List Pubkey × AddressTableLookup)}
    (h : (lookups.zipIdx k).mapM (cachedTable altCache) = some tables) :
    List.Forall₂ (TableOf chain) lookups tables := by
  induction lookups generalizing k tables with
  | nil =>
      cases h
      exact .nil
  | cons lookup lookups ih =>
      rw [List.zipIdx_cons, mapM_eq_some_iff, List.forall₂_cons_left_iff] at h
      obtain ⟨table, rest, htable, hrest, rfl⟩ := h
      obtain ⟨addresses, hcached, rfl⟩ := Option.map_eq_some_iff.mp htable
      exact .cons ⟨rfl, honchain _ _ _ hcached⟩ (ih (mapM_eq_some_iff.mpr hrest))

private theorem segments_onChain {indexes : AddressTableLookup → List UInt8}
    {lookups : List AddressTableLookup} {tables : List (List Pubkey × AddressTableLookup)}
    (htables : List.Forall₂ (TableOf chain) lookups tables) {segments : List (List Pubkey)}
    (h : tables.mapM (segment indexes) = some segments) :
    lookups.flatMap (entriesOnChain chain indexes) = segments.flatten.map some := by
  induction htables generalizing segments with
  | nil =>
      cases h
      rfl
  | @cons lookup table lookups tables htable hrest ih =>
      rw [mapM_eq_some_iff, List.forall₂_cons_left_iff] at h
      obtain ⟨keys, segments, hkeys, hsegments, rfl⟩ := h
      obtain ⟨rfl, honchain⟩ := htable
      rw [List.flatMap_cons, List.flatten_cons, List.map_append,
        ih (mapM_eq_some_iff.mpr hsegments)]
      congr 1
      exact selected_onChain honchain hkeys

theorem resolveKeys_onChain
    (honchain : ∀ n key addresses, altCache n key = some addresses → addresses <+: chain key)
    {message : VersionedMessage} {full : List Pubkey}
    (h : resolveKeys altCache message = some full) :
    canonicalKeys chain message = full.map some := by
  cases message with
  | legacy accountKeys instructions => cases h
  | v0 accountKeys instructions lookups =>
      simp only [resolveKeys_v0, Option.bind_eq_some_iff, Option.some.injEq] at h
      obtain ⟨tables, htables, writable, hwritable, readonly, hreadonly, rfl⟩ := h
      have hchain := tables_onChain honchain htables
      rw [canonicalKeys, segments_onChain hchain hwritable, segments_onChain hchain hreadonly,
        List.map_append, List.map_append]

theorem canonicalKeys_static {message : VersionedMessage} {idx : Nat}
    (hstatic : idx < message.staticAccountKeys.length) :
    (canonicalKeys chain message)[idx]? = some message.staticAccountKeys[idx]? := by
  cases message with
  | legacy accountKeys instructions =>
      change idx < accountKeys.length at hstatic
      change (accountKeys.map some)[idx]? = some accountKeys[idx]?
      simp [hstatic]
  | v0 accountKeys instructions lookups =>
      change idx < accountKeys.length at hstatic
      change _ = some accountKeys[idx]?
      rw [canonicalKeys, List.append_assoc, List.getElem?_append_left (by simpa using hstatic)]
      simp [hstatic]

private theorem selected_isSome {addresses : List Pubkey} {indexes : List UInt8}
    (hreach : ∀ i ∈ indexes, i.toNat < addresses.length) :
    (selected addresses indexes).isSome = true := by
  apply isSome_mapM
  intro i hi
  simpa using hreach i hi

private theorem resolveKeys_isSome {accountKeys : List Pubkey}
    {instructions : List CompiledInstruction} {lookups : List AddressTableLookup}
    (hcached : AllCached altCache (.v0 accountKeys instructions lookups)) :
    ∃ full, resolveKeys altCache (.v0 accountKeys instructions lookups) = some full := by
  have htables : (lookups.zipIdx.mapM (cachedTable altCache)).isSome = true := by
    apply isSome_mapM
    intro (lookup, n) hp
    obtain ⟨addresses, haddresses, -⟩ := hcached n lookup (List.mk_mem_zipIdx_iff_getElem?.mp hp)
    simp [cachedTable, haddresses]
  obtain ⟨tables, htables⟩ := Option.isSome_iff_exists.mp htables
  have hreach (table : List Pubkey × AddressTableLookup) (hmem : table ∈ tables) :
      ∀ i ∈ table.2.writableIndexes ++ table.2.readonlyIndexes, i.toNat < table.1.length := by
    obtain ⟨⟨lookup, n⟩, hp, htable⟩ := exists_of_mem_mapM htables hmem
    obtain ⟨addresses, haddresses, hlong⟩ :=
      hcached n lookup (List.mk_mem_zipIdx_iff_getElem?.mp hp)
    simp only [cachedTable, haddresses, Option.map_some, Option.some.injEq] at htable
    subst htable
    exact hlong
  have hsegments (indexes : AddressTableLookup → List UInt8)
      (hsub : ∀ lookup, indexes lookup ⊆ lookup.writableIndexes ++ lookup.readonlyIndexes) :
      (tables.mapM (segment indexes)).isSome = true := by
    apply isSome_mapM
    intro table hmem
    exact selected_isSome fun i hi => hreach table hmem i (hsub table.2 hi)
  obtain ⟨writable, hwritable⟩ := Option.isSome_iff_exists.mp
    (hsegments AddressTableLookup.writableIndexes fun _ => List.subset_append_left _ _)
  obtain ⟨readonly, hreadonly⟩ := Option.isSome_iff_exists.mp
    (hsegments AddressTableLookup.readonlyIndexes fun _ => List.subset_append_right _ _)
  refine ⟨accountKeys ++ writable.flatten ++ readonly.flatten, ?_⟩
  rw [resolveKeys_v0, htables, Option.bind_some, hwritable, Option.bind_some, hreadonly]
  rfl

end

/--
A resolved key is the canonical one, and once the tables are cached as far as the
message uses them, every index of the message is resolved.
-/
theorem resolvedKey_canonical {altCache : AltCache} {chain : Pubkey → List Pubkey}
    (honchain : ∀ n key addresses, altCache n key = some addresses → addresses <+: chain key)
    (message : VersionedMessage) :
    (∀ idx k, resolvedKey altCache message idx = some k →
      (canonicalKeys chain message)[idx]? = some (some k)) ∧
    (AllCached altCache message → ∀ idx < (canonicalKeys chain message).length,
      (resolvedKey altCache message idx).isSome = true) := by
  constructor
  · intro idx k h
    unfold resolvedKey at h
    split at h
    case isTrue hstatic => rw [canonicalKeys_static hstatic, h]
    case isFalse =>
      obtain ⟨full, hfull, hk⟩ := Option.bind_eq_some_iff.mp h
      rw [resolveKeys_onChain honchain hfull, List.getElem?_map, hk, Option.map_some]
  · intro hcached idx hidx
    unfold resolvedKey
    split
    case isTrue hstatic =>
      simpa using hstatic
    case isFalse hdynamic =>
      cases message with
      | legacy accountKeys instructions =>
          change idx < (accountKeys.map some).length at hidx
          rw [List.length_map] at hidx
          exact absurd hidx hdynamic
      | v0 accountKeys instructions lookups =>
          obtain ⟨full, hfull⟩ := resolveKeys_isSome hcached
          rw [resolveKeys_onChain honchain hfull, List.length_map] at hidx
          simpa [hfull] using hidx

/-! ## A table that has grown -/

def grownTable : List Pubkey := [List.replicate 32 1, List.replicate 32 2, List.replicate 32 3]

def grownMessage : VersionedMessage :=
  .v0 [List.replicate 32 9] [] [⟨List.replicate 32 8, [1], [0]⟩]

theorem resolvedKey_canonical_grown :
    (∀ idx k, resolvedKey (fun _ _ => some (grownTable.take 2)) grownMessage idx = some k →
      (canonicalKeys (fun _ => grownTable) grownMessage)[idx]? = some (some k)) ∧
    ∀ idx < 3,
      (resolvedKey (fun _ _ => some (grownTable.take 2)) grownMessage idx).isSome = true := by
  have honchain (n : Nat) (key : Pubkey) (addresses : List Pubkey)
      (h : some (grownTable.take 2) = some addresses) : addresses <+: grownTable := by
    cases h
    exact List.take_prefix 2 grownTable
  have hcanonical := resolvedKey_canonical honchain grownMessage
  refine ⟨hcanonical.1, hcanonical.2 ?_⟩
  rintro (_ | n) lookup hlookup
  · cases hlookup
    exact ⟨_, rfl, by decide +kernel⟩
  · cases hlookup

end Girasol.Shreds
