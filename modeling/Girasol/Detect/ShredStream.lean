import Girasol.Detect.AltCache
import Girasol.Detect.TableKeys
import Girasol.Foundation.Recency

/-!
# The stream of entries beside the cache of the lookup tables

The listener asks the cache for one table after the other while the tables grow
on chain and the tasks of the cache read them.  A session ends only between two
entries, and the cache outlives it.
-/

namespace Girasol.Shreds

open Foundation

structure ShredRules where
  platform : Platform
  targetPubkey : Pubkey
  pumpPubkey : Pubkey
  /-- `AddressLookupTable::deserialize`. -/
  deserialize : List UInt8 → Option (List Pubkey)

structure Received where
  slot : Nat
  vtx : VersionedTransaction

/-- What the cache answered for a table. -/
structure TableAnswer where
  table : Pubkey
  addresses : Option (List Pubkey)

inductive ShredPhase where
  | resolving (tx : Received) (answers : List TableAnswer)
  | sending (rest : List Signal)

structure ShredStream where
  /-- The tables as they are on chain. -/
  chain : Pubkey → List Pubkey
  alts : SharedAltCache
  /-- What is left of the entry at hand. -/
  queue : List Received
  phase : ShredPhase

inductive ShredEvent where
  | extend (table : Pubkey) (added : List Pubkey)
  /-- An entry that is not decoded has no transactions. -/
  | entry (slot : Nat) (transactions : Option (List VersionedTransaction))
  | next
  | lookup
  | parse
  | send
  | alts (e : AltEvent)

def altCacheOf (answers : List TableAnswer) : AltCache := fun n table =>
  answers[n]?.bind fun answer => if answer.table = table then answer.addresses else none

/-- A transaction with what the cache answered for it. -/
structure Parsed where
  tx : Received
  answers : List TableAnswer

def Parsed.altCache (parsed : Parsed) : AltCache := altCacheOf parsed.answers

def outgrows (indexes : AddressTableLookup → List UInt8)
    (entry : AddressTableLookup × List Pubkey) : Bool :=
  (indexes entry.1).any fun i => entry.2.length ≤ i.toNat

def staleTable (lookups : List AddressTableLookup) (answers : List TableAnswer) :
    Option Pubkey :=
  (answers.mapM TableAnswer.addresses).bind fun tables =>
    let resolved := lookups.zip tables
    ((resolved.find? (outgrows AddressTableLookup.writableIndexes)).or
      (resolved.find? (outgrows AddressTableLookup.readonlyIndexes))).map
        fun entry => entry.1.accountKey

namespace ShredStream

def start (chain : Pubkey → List Pubkey) : ShredStream := ⟨chain, .start, [], .sending []⟩

section

variable (rules : ShredRules) (s : ShredStream)

def involvesTarget (tx : Received) : Bool :=
  tx.vtx.message.staticAccountKeys.any fun k => k == rules.targetPubkey

def signalsOf (parsed : Parsed) : List Signal :=
  (handleTransaction rules.platform rules.targetPubkey rules.pumpPubkey parsed.tx.slot
    parsed.altCache parsed.tx.vtx).map Emission.signal

/-- `get`, and `prefetch` when the table is not there. -/
def askFor (table : Pubkey) : SharedAltCache :=
  let found := (s.alts.cache.get table).1.isSome
  { s.alts with
    cache := (s.alts.cache.get table).2
    tasks := if found then s.alts.tasks else s.alts.tasks ++ [⟨table, .spawned⟩] }

def invalidate : Option Pubkey → SharedAltCache
  | none => s.alts
  | some table => { s.alts with
      cache := s.alts.cache.pop table
      tasks := s.alts.tasks ++ [⟨table, .spawned⟩] }

def next : Option ShredStream :=
  match s.phase, s.queue with
  | .sending [], tx :: rest => some { s with
      queue := rest
      phase := if involvesTarget rules tx then .resolving tx [] else .sending [] }
  | _, _ => none

def lookup : Option ShredStream :=
  match s.phase with
  | .resolving tx answers =>
      (tx.vtx.message.addressTableLookups[answers.length]?).map fun lookup =>
        let table := lookup.accountKey
        let addresses := (s.alts.cache.get table).1.map ResolvedAlt.addresses
        { s with
          alts := s.askFor table
          phase := .resolving tx (answers ++ [⟨table, addresses⟩]) }
  | .sending _ => none

def parse : Option ShredStream :=
  match s.phase with
  | .resolving tx answers =>
      let lookups := tx.vtx.message.addressTableLookups
      if answers.length = lookups.length then some { s with
        alts := s.invalidate (staleTable lookups answers)
        phase := .sending (signalsOf rules ⟨tx, answers⟩) }
      else none
  | .sending _ => none

def send : Option ShredStream :=
  match s.phase with
  | .sending (_ :: rest) => some { s with phase := .sending rest }
  | _ => none

def step : ShredEvent → Option ShredStream
  | .extend table added =>
      some { s with chain := Function.update s.chain table (s.chain table ++ added) }
  | .entry slot transactions =>
      match s.phase, s.queue with
      | .sending [], [] =>
          some { s with queue := (transactions.getD []).map fun vtx => ⟨slot, vtx⟩ }
      | _, _ => none
  | .next => s.next rules
  | .lookup => s.lookup
  | .parse => s.parse rules
  | .send => s.send
  | .alts e =>
      if e.task?.isSome then
        (s.alts.step rules.deserialize e).map fun alts => { s with alts := alts }
      else none

/-- The RPC gives a table as it is on chain, or as it was before it grew. -/
def Faithful : ShredEvent → Prop
  | .alts (.answer i (.account data)) =>
      ∀ task ∈ s.alts.tasks[i]?, ∀ addresses ∈ rules.deserialize data,
        addresses <+: s.chain task.alt
  | _ => True

instance (e : ShredEvent) : Decidable (Faithful rules s e) := by
  unfold Faithful
  split <;> infer_instance

/-! ## What a run shows -/

def received (_ : ShredStream) (e : ShredEvent) (_ : ShredStream) : List Received :=
  match e with
  | .entry slot transactions => (transactions.getD []).map fun vtx => ⟨slot, vtx⟩
  | _ => []

def parsed (s : ShredStream) (e : ShredEvent) (_ : ShredStream) : List Parsed :=
  match e, s.phase with
  | .parse, .resolving tx answers => [⟨tx, answers⟩]
  | _, _ => []

def sent (s : ShredStream) (e : ShredEvent) (_ : ShredStream) : List Signal :=
  match e, s.phase with
  | .send, .sending (signal :: _) => [signal]
  | _, _ => []

def underWay : List Received :=
  match s.phase with
  | .resolving tx _ => [tx]
  | .sending _ => []

def pending : List Signal :=
  match s.phase with
  | .resolving _ _ => []
  | .sending rest => rest

end

end ShredStream

/-! ## The cache and the chain -/

def Grows (chain chain' : Pubkey → List Pubkey) : Prop := ∀ table, chain table <+: chain' table

theorem grows_update (chain : Pubkey → List Pubkey) (table : Pubkey) (added : List Pubkey) :
    Grows chain (Function.update chain table (chain table ++ added)) := by
  intro table'
  by_cases h : table' = table
  · subst h
    rw [Function.update_self]
    exact List.prefix_append _ _
  · rw [Function.update_of_ne h]

namespace SharedAltCache

structure OnChain (deserialize : List UInt8 → Option (List Pubkey))
    (chain : Pubkey → List Pubkey) (s : SharedAltCache) : Prop where
  cached : ∀ table resolved, (table, resolved) ∈ s.cache.entries →
    resolved.addresses <+: chain table
  fetched : ∀ task ∈ s.tasks, ∀ data, task.phase = .fetched (.account data) →
    ∀ addresses ∈ deserialize data, addresses <+: chain task.alt

variable {deserialize : List UInt8 → Option (List Pubkey)} {chain chain' : Pubkey → List Pubkey}
  {s s' : SharedAltCache} {e : AltEvent} {i : Nat}

theorem onChain_start : start.OnChain deserialize chain :=
  ⟨fun _ _ hmem => (nomatch hmem), fun _ hmem => (nomatch hmem)⟩

theorem OnChain.mono (hgrows : Grows chain chain') (hs : s.OnChain deserialize chain) :
    s.OnChain deserialize chain' := by
  refine ⟨fun table resolved hmem => ?_, fun task hmem data hphase addresses haddresses => ?_⟩
  · exact (hs.cached table resolved hmem).trans (hgrows table)
  · exact (hs.fetched task hmem data hphase addresses haddresses).trans (hgrows task.alt)

theorem OnChain.spawn (hs : s.OnChain deserialize chain)
    {cache : LruCache Pubkey ResolvedAlt altCacheSize} {spawned : List Prefetch}
    (hcache : ∀ entry ∈ cache.entries, entry ∈ s.cache.entries)
    (hspawned : ∀ task ∈ spawned, task.phase = .spawned) :
    ({ s with cache := cache, tasks := s.tasks ++ spawned } : SharedAltCache).OnChain deserialize
      chain := by
  refine ⟨fun table resolved hmem => hs.cached table resolved (hcache _ hmem),
    fun task hmem data hphase addresses haddresses => ?_⟩
  rcases List.mem_append.mp hmem with hbefore | hnew
  · exact hs.fetched task hbefore data hphase addresses haddresses
  · rw [hspawned task hnew] at hphase
    cases hphase

/-- The phase a task goes to, and what it does to the cache. -/
inductive CacheMove (deserialize : List UInt8 → Option (List Pubkey)) (s : SharedAltCache)
    (i : Nat) (task : Prefetch) :
    AltEvent → PrefetchPhase → LruCache Pubkey ResolvedAlt altCacheSize → Prop
  | quiet (e : AltEvent) (phase : PrefetchPhase) : (∀ result, phase ≠ .fetched result) →
      CacheMove deserialize s i task e phase s.cache
  | answer (result : FetchResult) :
      CacheMove deserialize s i task (.answer i result) (.fetched result) s.cache
  | settle (e : AltEvent) (result : FetchResult) : task.phase = .fetched result →
      CacheMove deserialize s i task e .settled (s.store deserialize task.alt result)

theorem cache_step (he : e.task? = some i) (h : step deserialize s e = some s') :
    ∃ task phase cache, s.tasks[i]? = some task ∧
      CacheMove deserialize s i task e phase cache ∧
      s'.cache = cache ∧ s'.tasks = s.moveTo i phase := by
  cases e with
  | get | pop | prefetch => cases he
  | lock j =>
      cases he
      simp only [step, lock] at h
      split at h
      case h_1 alt htask =>
        split_ifs at h with hholder hmark <;> cases h <;>
          exact ⟨_, _, _, htask, .quiet _ _ (by simp), rfl, rfl⟩
      case h_2 => cases h
  | check j =>
      cases he
      simp only [step, check] at h
      split at h
      case h_1 alt htask =>
        split_ifs at h with hcached <;> cases h <;>
          exact ⟨_, _, _, htask, .quiet _ _ (by simp), rfl, rfl⟩
      case h_2 => cases h
  | request j =>
      cases he
      simp only [step, request] at h
      split at h
      case h_1 alt htask =>
        cases h
        exact ⟨_, _, _, htask, .quiet _ _ (by simp), rfl, rfl⟩
      case h_2 => cases h
  | answer j result =>
      cases he
      simp only [step, answer] at h
      split at h
      case h_1 alt htask =>
        cases h
        exact ⟨_, _, _, htask, .answer result, rfl, rfl⟩
      case h_2 => cases h
  | settle j =>
      cases he
      simp only [step, settle] at h
      split at h
      case h_1 alt result htask =>
        cases h
        exact ⟨_, _, _, htask, .settle _ result rfl, rfl, rfl⟩
      case h_2 => cases h
  | unmark j =>
      cases he
      simp only [step, unmark] at h
      split at h
      case h_1 alt htask =>
        split_ifs at h with hholder
        cases h
        exact ⟨_, _, _, htask, .quiet _ _ (by simp), rfl, rfl⟩
      case h_2 => cases h

private theorem mem_moveTo {phase : PrefetchPhase} {task task' : Prefetch}
    (htask : s.tasks[i]? = some task) (hmem : task' ∈ s.moveTo i phase) :
    task' ∈ s.tasks ∨ task' = ⟨task.alt, phase⟩ := by
  obtain ⟨j, hj⟩ := List.mem_iff_getElem?.mp hmem
  rw [getElem?_moveTo phase j htask] at hj
  split at hj
  case isTrue => exact .inr (Option.some.inj hj).symm
  case isFalse => exact .inl (List.mem_of_getElem? hj)

private theorem onChain_store (hs : s.OnChain deserialize chain) {task : Prefetch}
    (htask : task ∈ s.tasks) {result : FetchResult} (hphase : task.phase = .fetched result) :
    ∀ table resolved, (table, resolved) ∈ (s.store deserialize task.alt result).entries →
      resolved.addresses <+: chain table := by
  intro table resolved hmem
  unfold store at hmem
  split at hmem
  case h_1 data =>
    split at hmem
    case h_1 addresses haddresses =>
      rcases LruCache.mem_of_mem_put hmem with heq | hkept
      · cases heq
        exact hs.fetched task htask data hphase addresses haddresses
      · exact hs.cached table resolved hkept
    case h_2 => exact hs.cached table resolved hmem
  case h_2 => exact hs.cached table resolved hmem
  case h_3 => exact hs.cached table resolved hmem

theorem onChain_step (he : e.task? = some i) (h : step deserialize s e = some s')
    (hs : s.OnChain deserialize chain)
    (hanswer : ∀ data, e = .answer i (.account data) → ∀ task ∈ s.tasks[i]?,
      ∀ addresses ∈ deserialize data, addresses <+: chain task.alt) :
    s'.OnChain deserialize chain := by
  obtain ⟨task, phase, cache, htask, hmove, hcache, htasks⟩ := cache_step he h
  have hmem : task ∈ s.tasks := List.mem_of_getElem? htask
  constructor
  · rw [hcache]
    cases hmove with
    | quiet | answer => exact hs.cached
    | settle _ result hphase => exact onChain_store hs hmem hphase
  · intro task' htask' data hphase addresses haddresses
    rw [htasks] at htask'
    rcases mem_moveTo htask htask' with hbefore | rfl
    · exact hs.fetched task' hbefore data hphase addresses haddresses
    · cases hmove with
      | quiet _ _ hquiet => exact absurd hphase (hquiet _)
      | answer result =>
          cases hphase
          exact hanswer data rfl task htask addresses haddresses
      | settle => cases hphase

end SharedAltCache

def Grounded (chain : Pubkey → List Pubkey) (answers : List TableAnswer) : Prop :=
  ∀ answer ∈ answers, ∀ addresses ∈ answer.addresses, addresses <+: chain answer.table

theorem Grounded.mono {chain chain' : Pubkey → List Pubkey} {answers : List TableAnswer}
    (hgrows : Grows chain chain') (h : Grounded chain answers) : Grounded chain' answers :=
  fun answer hmem addresses haddresses =>
    (h answer hmem addresses haddresses).trans (hgrows answer.table)

def AsksFor (tx : Received) (answers : List TableAnswer) : Prop :=
  answers.map TableAnswer.table <+:
    tx.vtx.message.addressTableLookups.map AddressTableLookup.accountKey

theorem AsksFor.next {tx : Received} {answers : List TableAnswer} {lookup : AddressTableLookup}
    (h : AsksFor tx answers)
    (hlookup : tx.vtx.message.addressTableLookups[answers.length]? = some lookup)
    (addresses : Option (List Pubkey)) :
    AsksFor tx (answers ++ [⟨lookup.accountKey, addresses⟩]) := by
  obtain ⟨rest, hrest⟩ := h
  have hhead : rest.head? = some lookup.accountKey := by
    have hat := congrArg (fun keys => keys[answers.length]?) hrest
    simpa [List.getElem?_append, hlookup, ← List.head?_eq_getElem?] using hat
  obtain ⟨later, rfl⟩ := List.head?_eq_some_iff.mp hhead
  exact ⟨later, by simpa using hrest⟩

theorem AsksFor.all {tx : Received} {answers : List TableAnswer} (h : AsksFor tx answers)
    (hall : answers.length = tx.vtx.message.addressTableLookups.length) :
    answers.map TableAnswer.table =
      tx.vtx.message.addressTableLookups.map AddressTableLookup.accountKey :=
  h.eq_of_length (by simp [hall])

theorem altCacheOf_onChain {chain : Pubkey → List Pubkey} {answers : List TableAnswer}
    (h : Grounded chain answers) (n : Nat) (table : Pubkey) (addresses : List Pubkey)
    (hcached : altCacheOf answers n table = some addresses) : addresses <+: chain table := by
  obtain ⟨answer, hanswer, hif⟩ := Option.bind_eq_some_iff.mp hcached
  rw [Option.ite_none_right_eq_some] at hif
  obtain ⟨rfl, haddresses⟩ := hif
  exact h answer (List.mem_of_getElem? hanswer) addresses haddresses

namespace ShredStream

variable {rules : ShredRules} {s s' t : ShredStream} {e : ShredEvent}

/-! ## What a step does -/

/-- Everything that a step can do. -/
inductive Step (rules : ShredRules) (s : ShredStream) : ShredEvent → ShredStream → Prop
  | extend (table : Pubkey) (added : List Pubkey) : Step rules s (.extend table added)
      { s with chain := Function.update s.chain table (s.chain table ++ added) }
  | entry (slot : Nat) (transactions : Option (List VersionedTransaction)) :
      s.phase = .sending [] → s.queue = [] →
      Step rules s (.entry slot transactions)
        { s with queue := (transactions.getD []).map fun vtx => ⟨slot, vtx⟩ }
  | take (tx : Received) (rest : List Received) : s.phase = .sending [] → s.queue = tx :: rest →
      involvesTarget rules tx = true →
      Step rules s .next { s with queue := rest, phase := .resolving tx [] }
  | skip (tx : Received) (rest : List Received) : s.phase = .sending [] → s.queue = tx :: rest →
      involvesTarget rules tx = false →
      Step rules s .next { s with queue := rest, phase := .sending [] }
  | lookup (tx : Received) (answers : List TableAnswer) (lookup : AddressTableLookup) :
      s.phase = .resolving tx answers →
      tx.vtx.message.addressTableLookups[answers.length]? = some lookup →
      Step rules s .lookup { s with
        alts := s.askFor lookup.accountKey
        phase := .resolving tx (answers ++ [⟨lookup.accountKey,
          (s.alts.cache.get lookup.accountKey).1.map ResolvedAlt.addresses⟩]) }
  | parse (tx : Received) (answers : List TableAnswer) : s.phase = .resolving tx answers →
      answers.length = tx.vtx.message.addressTableLookups.length →
      Step rules s .parse { s with
        alts := s.invalidate (staleTable tx.vtx.message.addressTableLookups answers)
        phase := .sending (signalsOf rules ⟨tx, answers⟩) }
  | send (signal : Signal) (rest : List Signal) : s.phase = .sending (signal :: rest) →
      Step rules s .send { s with phase := .sending rest }
  | alts (e : AltEvent) (i : Nat) (alts : SharedAltCache) : e.task? = some i →
      s.alts.step rules.deserialize e = some alts →
      Step rules s (.alts e) { s with alts := alts }

theorem step_cases (hstep : s.step rules e = some s') : Step rules s e s' := by
  cases e with
  | extend table added =>
      cases hstep
      exact .extend table added
  | entry slot transactions =>
      simp only [step] at hstep
      split at hstep
      case h_1 hphase hqueue =>
        cases hstep
        exact .entry slot transactions hphase hqueue
      case h_2 => cases hstep
  | next =>
      simp only [step, next] at hstep
      split at hstep
      case h_1 tx rest hphase hqueue =>
        cases hstep
        cases htarget : involvesTarget rules tx with
        | true => exact .take tx rest hphase hqueue htarget
        | false => exact .skip tx rest hphase hqueue htarget
      case h_2 => cases hstep
  | lookup =>
      simp only [step, lookup] at hstep
      split at hstep
      case h_1 tx answers hphase =>
        obtain ⟨lookup, hlookup, rfl⟩ := Option.map_eq_some_iff.mp hstep
        exact .lookup tx answers lookup hphase hlookup
      case h_2 => cases hstep
  | parse =>
      simp only [step, parse] at hstep
      split at hstep
      case h_1 tx answers hphase =>
        rw [Option.ite_none_right_eq_some] at hstep
        obtain ⟨hall, heq⟩ := hstep
        cases heq
        exact .parse tx answers hphase hall
      case h_2 => cases hstep
  | send =>
      simp only [step, send] at hstep
      split at hstep
      case h_1 signal rest hphase =>
        cases hstep
        exact .send signal rest hphase
      case h_2 => cases hstep
  | alts e =>
      simp only [step, Option.ite_none_right_eq_some] at hstep
      obtain ⟨htask, hstep⟩ := hstep
      obtain ⟨i, hi⟩ := Option.isSome_iff_exists.mp htask
      obtain ⟨alts, halts, rfl⟩ := Option.map_eq_some_iff.mp hstep
      exact .alts e i alts hi halts

/-! ## Every copy of a table -/

structure Inv (rules : ShredRules) (s : ShredStream) (done : List Parsed) : Prop where
  alts : s.alts.OnChain rules.deserialize s.chain
  underWay : ∀ tx answers, s.phase = .resolving tx answers →
    AsksFor tx answers ∧ Grounded s.chain answers
  done : ∀ parsed ∈ done,
    parsed.answers.map TableAnswer.table =
        parsed.tx.vtx.message.addressTableLookups.map AddressTableLookup.accountKey ∧
      Grounded s.chain parsed.answers

theorem inv_start (chain : Pubkey → List Pubkey) : (start chain).Inv rules [] :=
  ⟨SharedAltCache.onChain_start, fun _ _ hphase => (nomatch hphase), fun _ hmem => (nomatch hmem)⟩

private theorem onChain_askFor {done : List Parsed} (hs : s.Inv rules done) (table : Pubkey) :
    (s.askFor table).OnChain rules.deserialize s.chain := by
  have hcache (entry : Pubkey × ResolvedAlt) (hmem : entry ∈ (s.alts.cache.get table).2.entries) :
      entry ∈ s.alts.cache.entries := LruCache.mem_of_mem_get hmem
  unfold askFor
  dsimp only
  split
  case isTrue =>
    have hnone : ∀ task ∈ ([] : List Prefetch), task.phase = .spawned := by simp
    simpa using hs.alts.spawn hcache hnone
  case isFalse => exact hs.alts.spawn hcache (by simp)

private theorem onChain_invalidate {done : List Parsed} (hs : s.Inv rules done)
    (stale : Option Pubkey) :
    (s.invalidate stale).OnChain rules.deserialize s.chain := by
  cases stale with
  | none => exact hs.alts
  | some table =>
      exact hs.alts.spawn (fun entry hmem => (s.alts.cache.others_sublist table).subset hmem)
        (by simp)

theorem inv_step {done : List Parsed} (hfaithful : Faithful rules s e)
    (hstep : s.step rules e = some s') (hs : s.Inv rules done) :
    s'.Inv rules (done ++ parsed s e s') := by
  cases step_cases hstep with
  | extend table added =>
      have hgrows := grows_update s.chain table added
      refine ⟨hs.alts.mono hgrows, fun tx answers hphase => ?_, fun parsed hmem => ?_⟩
      · obtain ⟨hasks, hgrounded⟩ := hs.underWay tx answers hphase
        exact ⟨hasks, hgrounded.mono hgrows⟩
      · obtain ⟨hasks, hgrounded⟩ := hs.done parsed (by simpa [ShredStream.parsed] using hmem)
        exact ⟨hasks, hgrounded.mono hgrows⟩
  | entry => exact ⟨hs.alts, hs.underWay, by simpa [parsed] using hs.done⟩
  | take tx rest hphase hqueue =>
      refine ⟨hs.alts, fun tx' answers heq => ?_, by simpa [parsed] using hs.done⟩
      cases heq
      exact ⟨List.nil_prefix, fun _ hmem => nomatch hmem⟩
  | skip tx rest hphase hqueue =>
      exact ⟨hs.alts, fun _ _ heq => (nomatch heq), by simpa [parsed] using hs.done⟩
  | lookup tx answers lookup hphase hlookup =>
      refine ⟨onChain_askFor hs _, fun tx' answers' heq => ?_, by simpa [parsed] using hs.done⟩
      cases heq
      obtain ⟨hasks, hgrounded⟩ := hs.underWay tx answers hphase
      refine ⟨hasks.next hlookup _, fun answer hmem addresses haddresses => ?_⟩
      rcases List.mem_append.mp hmem with hbefore | hnew
      · exact hgrounded answer hbefore addresses haddresses
      · rw [List.mem_singleton.mp hnew] at haddresses ⊢
        obtain ⟨resolved, hget, rfl⟩ := Option.map_eq_some_iff.mp haddresses
        exact hs.alts.cached _ _ (LruCache.get_fst_eq_some_iff.mp hget)
  | parse tx answers hphase hall =>
      refine ⟨onChain_invalidate hs _, fun _ _ heq => (nomatch heq), fun parsed hmem => ?_⟩
      simp only [ShredStream.parsed, hphase, List.mem_append, List.mem_singleton] at hmem
      rcases hmem with hbefore | rfl
      · exact hs.done parsed hbefore
      · obtain ⟨hasks, hgrounded⟩ := hs.underWay tx answers hphase
        exact ⟨hasks.all hall, hgrounded⟩
  | send signal rest hphase =>
      exact ⟨hs.alts, fun _ _ heq => (nomatch heq), by simpa [parsed] using hs.done⟩
  | alts e i alts hi halts =>
      have hanswer (data : List UInt8) (heq : e = .answer i (.account data)) :
          ∀ task ∈ s.alts.tasks[i]?, ∀ addresses ∈ rules.deserialize data,
            addresses <+: s.chain task.alt := by
        subst heq
        exact hfaithful
      exact ⟨SharedAltCache.onChain_step hi halts hs.alts hanswer, hs.underWay,
        by simpa [parsed] using hs.done⟩

/-! ## What becomes of a transaction -/

theorem transactions_step (hstep : s.step rules e = some s') :
    (s.underWay ++ s.queue.filter (involvesTarget rules)) ++
        (received s e s').filter (involvesTarget rules) =
      (parsed s e s').map Parsed.tx ++
        (s'.underWay ++ s'.queue.filter (involvesTarget rules)) := by
  cases step_cases hstep with
  | extend => simp [received, parsed, underWay]
  | entry slot transactions hphase hqueue => simp [received, parsed, underWay, hphase, hqueue]
  | take tx rest hphase hqueue htarget =>
      simp [received, parsed, underWay, hphase, hqueue, htarget]
  | skip tx rest hphase hqueue htarget =>
      simp [received, parsed, underWay, hphase, hqueue, htarget]
  | lookup tx answers lookup hphase => simp [received, parsed, underWay, hphase]
  | parse tx answers hphase => simp [received, parsed, underWay, hphase]
  | send signal rest hphase => simp [received, parsed, underWay, hphase]
  | alts => simp [received, parsed, underWay]

theorem signals_step (hstep : s.step rules e = some s') :
    s.pending ++ (parsed s e s').flatMap (signalsOf rules) = sent s e s' ++ s'.pending := by
  cases step_cases hstep with
  | extend => simp [parsed, sent, pending]
  | entry slot transactions hphase hqueue => simp [parsed, sent, pending]
  | take tx rest hphase => simp [parsed, sent, pending, hphase]
  | skip tx rest hphase => simp [parsed, sent, pending, hphase]
  | lookup tx answers lookup hphase => simp [parsed, sent, pending, hphase]
  | parse tx answers hphase => simp [parsed, sent, pending, hphase]
  | send signal rest hphase => simp [parsed, sent, pending, hphase]
  | alts => simp [parsed, sent, pending]

end ShredStream

/-! ## What a signal says -/

theorem canonicalKeys_of_resolvedKey {altCache : AltCache} {chain : Pubkey → List Pubkey}
    (honchain : ∀ n table addresses, altCache n table = some addresses →
      addresses <+: chain table)
    {message : VersionedMessage} {idx : Nat} {key : Pubkey}
    (h : resolvedKey altCache message idx = some key) :
    (canonicalKeys chain message)[idx]? = some (some key) := by
  unfold resolvedKey at h
  split at h
  case isTrue hstatic => rw [canonicalKeys_static hstatic, h]
  case isFalse =>
    obtain ⟨full, hfull, hkey⟩ := Option.bind_eq_some_iff.mp h
    rw [resolveKeys_onChain honchain hfull, List.getElem?_map, hkey, Option.map_some]

/--
A signal reports a pump.fun instruction of the transaction, with the mint that
the instruction names on chain.
-/
def TradeOnChain (rules : ShredRules) (chain : Pubkey → List Pubkey) (tx : Received)
    (signal : Signal) : Prop :=
  rules.targetPubkey ∈ tx.vtx.message.staticAccountKeys ∧
    ∃ ix ∈ tx.vtx.message.instructions, ∃ isBuy position mint,
      tx.vtx.message.staticAccountKeys[ix.programIdIndex.toNat]? = some rules.pumpPubkey ∧
      hasDiscriminator (discriminatorOf isBuy) ix.data = true ∧
      ix.accounts[2]? = some position ∧
      (canonicalKeys chain tx.vtx.message)[position.toNat]? = some (some mint) ∧
      signal.report = reportOf isBuy ix.data mint

theorem tradeOnChain_of_mem {rules : ShredRules} {chain : Pubkey → List Pubkey} {parsed : Parsed}
    (hgrounded : Grounded chain parsed.answers) {signal : Signal}
    (hmem : signal ∈ ShredStream.signalsOf rules parsed) :
    TradeOnChain rules chain parsed.tx signal := by
  obtain ⟨emission, hemission, rfl⟩ := List.mem_map.mp hmem
  simp only [handleTransaction] at hemission
  split at hemission
  case isFalse => cases hemission
  case isTrue htarget =>
    split at hemission
    case h_1 => cases hemission
    case h_2 pumpIdx hpump =>
      rw [parsePumpFromVtx_eq, Option.mem_toList, Option.bind_eq_some_iff] at hemission
      obtain ⟨ix, hfind, htrade⟩ := hemission
      obtain ⟨mint, hmint, rfl⟩ := Option.map_eq_some_iff.mp htrade
      obtain ⟨position, hposition, hkey⟩ := Option.bind_eq_some_iff.mp hmint
      have hshape := List.find?_some hfind
      simp only [isPumpTrade, Bool.and_eq_true, beq_iff_eq, Bool.or_eq_true] at hshape
      obtain ⟨⟨hprogram, -⟩, hside⟩ := hshape
      refine ⟨htarget, ix, List.mem_of_find?_eq_some hfind,
        hasDiscriminator buyDiscriminator ix.data, position, mint, ?_, ?_, hposition,
        canonicalKeys_of_resolvedKey (altCacheOf_onChain hgrounded) hkey,
        ResolvedTransaction.report_tradeSignal _ _ _ _ _ _⟩
      · obtain ⟨hlt, hkey, -⟩ := List.findIdx?_eq_some_iff_getElem.mp hpump
        rw [hprogram, List.getElem?_eq_getElem hlt, beq_iff_eq.mp hkey]
      · cases hbuy : hasDiscriminator buyDiscriminator ix.data with
        | true => exact hbuy
        | false => simpa [hbuy, discriminatorOf] using hside

/-! ## Runs -/

namespace ShredStream

variable (rules : ShredRules) (chain : Pubkey → List Pubkey) (events : List ShredEvent)

def receivedIn : List Received := gather (step rules) received (start chain) events

def parsedIn : List Parsed := gather (step rules) parsed (start chain) events

def sentIn : List Signal := gather (step rules) sent (start chain) events

variable {rules chain events} {t : ShredStream}

theorem inv_run (hrun : Run (step rules) (Faithful rules) (start chain) events t) :
    t.Inv rules (parsedIn rules chain events) := by
  have hmove (s : ShredStream) (e : ShredEvent) (s' : ShredStream) (done : List Parsed)
      (hfaithful : Faithful rules s e) (hnext : s.step rules e = some s')
      (hs : s.Inv rules done) : s'.Inv rules (done ++ parsed s e s') :=
    inv_step hfaithful hnext hs
  have hinv := hrun.invariant_gather hmove (inv_start chain)
  rwa [List.nil_append] at hinv

theorem transactions_run (hrun : Run (step rules) (Faithful rules) (start chain) events t) :
    (receivedIn rules chain events).filter (involvesTarget rules) =
      (parsedIn rules chain events).map Parsed.tx ++ t.underWay ++
        t.queue.filter (involvesTarget rules) := by
  have hmove (s : ShredStream) (e : ShredEvent) (s' : ShredStream)
      (hnext : s.step rules e = some s') := transactions_step hnext
  have hconserved := hrun.conserve hmove
  rw [receivedIn, parsedIn, gather_hom (List.filter (involvesTarget rules)) rfl (by simp),
    gather_hom (List.map Parsed.tx) rfl (by simp), List.append_assoc]
  exact hconserved

theorem signals_run (hrun : Run (step rules) (Faithful rules) (start chain) events t) :
    (parsedIn rules chain events).flatMap (signalsOf rules) =
      sentIn rules chain events ++ t.pending := by
  have hmove (s : ShredStream) (e : ShredEvent) (s' : ShredStream)
      (hnext : s.step rules e = some s') := signals_step hnext
  have hconserved := hrun.conserve hmove
  rw [parsedIn, sentIn, gather_hom (List.flatMap (signalsOf rules)) rfl (by simp)]
  exact hconserved

private theorem isSome_lookup_or_parse {done : List Parsed} (hs : t.Inv rules done) {tx : Received}
    {answers : List TableAnswer} (hphase : t.phase = .resolving tx answers) :
    (t.step rules .lookup).isSome = true ∨ (t.step rules .parse).isSome = true := by
  have hle := (hs.underWay tx answers hphase).1.length_le
  rw [List.length_map, List.length_map] at hle
  by_cases hall : answers.length = tx.vtx.message.addressTableLookups.length
  · right
    simp [step, parse, hphase, hall]
  · left
    have hlt : answers.length < tx.vtx.message.addressTableLookups.length := by omega
    simp [step, lookup, hphase, hlt]

end ShredStream

open ShredStream in
/--
In every interleaving of the listener with the tasks of the cache, while the
tables grow on chain: each transaction of the target that arrives is parsed
once and in order, with the answers for its own tables; its signals are sent
once and in order; every key it resolves is the key on chain, and every signal
reports a pump.fun instruction of it, with the mint this names on chain; and a
transaction under way never waits for the RPC.
-/
theorem shred_signals_on_chain (rules : ShredRules) (chain : Pubkey → List Pubkey)
    (events : List ShredEvent) (t : ShredStream)
    (hrun : Run (step rules) (Faithful rules) (start chain) events t) :
    (receivedIn rules chain events).filter (involvesTarget rules) =
        (parsedIn rules chain events).map Parsed.tx ++ t.underWay ++
          t.queue.filter (involvesTarget rules) ∧
      (parsedIn rules chain events).flatMap (signalsOf rules) =
        sentIn rules chain events ++ t.pending ∧
      (∀ parsed ∈ parsedIn rules chain events,
        parsed.answers.map TableAnswer.table =
            parsed.tx.vtx.message.addressTableLookups.map AddressTableLookup.accountKey ∧
          (∀ idx key, resolvedKey parsed.altCache parsed.tx.vtx.message idx = some key →
            (canonicalKeys t.chain parsed.tx.vtx.message)[idx]? = some (some key)) ∧
          ∀ signal ∈ signalsOf rules parsed, TradeOnChain rules t.chain parsed.tx signal) ∧
      ∀ tx answers, t.phase = .resolving tx answers →
        (t.step rules .lookup).isSome = true ∨ (t.step rules .parse).isSome = true := by
  have hinv := inv_run hrun
  refine ⟨transactions_run hrun, signals_run hrun, fun parsed hmem => ?_, fun tx answers hphase =>
    isSome_lookup_or_parse hinv hphase⟩
  obtain ⟨hasks, hgrounded⟩ := hinv.done parsed hmem
  exact ⟨hasks, fun idx key hkey =>
      canonicalKeys_of_resolvedKey (altCacheOf_onChain hgrounded) hkey,
    fun signal hsignal => tradeOnChain_of_mem hgrounded hsignal⟩

/-! ## A table that is read between two buys -/

def laterRules : ShredRules where
  platform := .plain
  targetPubkey := List.replicate 32 1
  pumpPubkey := List.replicate 32 2
  deserialize := fun data => some (data.map fun b => List.replicate 32 b)

def laterTable : Pubkey := List.replicate 32 8

def tableBuy : VersionedTransaction where
  signatures := [List.replicate 64 7]
  message := .v0 [laterRules.targetPubkey, laterRules.pumpPubkey]
    [⟨1, [0, 0, 2], buyDiscriminator⟩] [⟨laterTable, [1], []⟩]

def twoBuys : List ShredEvent :=
  [.entry 1 (some [tableBuy]), .next, .lookup, .parse, .alts (.lock 0), .alts (.check 0),
    .alts (.request 0), .extend laterTable [List.replicate 32 7],
    .alts (.answer 0 (.account [5, 6])), .alts (.settle 0), .entry 2 none,
    .entry 3 (some [tableBuy]), .next, .lookup, .alts (.unmark 0), .parse, .send]

def laterChain : Pubkey → List Pubkey := fun _ => [List.replicate 32 5, List.replicate 32 6]

theorem shred_signals_on_chain_twoBuys :
    ∃ t, Run (ShredStream.step laterRules) (ShredStream.Faithful laterRules)
        (.start laterChain) twoBuys t ∧
      (ShredStream.sentIn laterRules laterChain twoBuys).length = 1 ∧
      ∀ parsed ∈ ShredStream.parsedIn laterRules laterChain twoBuys,
        ∀ signal ∈ ShredStream.signalsOf laterRules parsed,
          TradeOnChain laterRules t.chain parsed.tx signal := by
  have hexec : (exec (ShredStream.step laterRules) (ShredStream.Faithful laterRules)
      (.start laterChain) twoBuys).map (fun t => t.pending.isEmpty) = some true := by
    decide +kernel
  obtain ⟨t, hrun, -⟩ := exists_run_of_exec hexec
  obtain ⟨-, -, hparsed, -⟩ :=
    shred_signals_on_chain laterRules laterChain twoBuys t hrun
  exact ⟨t, hrun, by decide +kernel, fun parsed hmem => (hparsed parsed hmem).2.2⟩

end Girasol.Shreds
