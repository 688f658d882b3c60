import Girasol.Foundation.Base58
import Girasol.Foundation.Runs
import Girasol.Send.Circuit

/-!
# One concurrent send

`send_concurrent` picks the active providers, spawns a task for each and takes
the first signature that arrives.  The tasks, the collector and the calls of
others take steps in any order; how long a task waits for a permit of the
semaphore is one more of these choices.
-/

namespace Girasol

open Foundation

/-- The kinds of endpoints; the endpoints themselves only matter to what they reply. -/
inductive SwqosProvider where
  | defaultRpc
  | jito
  | helius
  | bloxroute
  | nextBlock
  | zeroSlot
  | temporal
  deriving DecidableEq, Repr

namespace SwqosProvider

def name : SwqosProvider → String
  | defaultRpc => "default_rpc"
  | jito => "jito"
  | helius => "helius"
  | bloxroute => "bloxroute"
  | nextBlock => "nextblock"
  | zeroSlot => "zeroslot"
  | temporal => "temporal"

def identityPubkey (mapping : LeaderMapping) (provider : SwqosProvider) : Option Pubkey :=
  let owner := match provider with
    | defaultRpc => mapping.swqosDefaultRpcEndpointOwner
    | jito => mapping.swqosJitoEndpointOwner
    | helius => mapping.swqosHeliusEndpointOwner
    | bloxroute => mapping.swqosBloxrouteEndpointOwner
    | nextBlock => mapping.swqosNextblockEndpointOwner
    | zeroSlot => mapping.swqosZeroslotEndpointOwner
    | temporal => mapping.swqosTemporalEndpointOwner
  owner.bind fun s => (parsePubkeyBytes s).toOption

end SwqosProvider

/-! ## Log lines -/

def isCharBoundary : List Char → Nat → Bool
  | _, 0 => true
  | [], _ + 1 => false
  | c :: rest, n + 1 =>
      if c.utf8Size ≤ n + 1 then isCharBoundary rest (n + 1 - c.utf8Size) else false

/-- `&sig[..sig.len().min(16)]` panics inside a character. -/
def loggable (sig : String) : Bool :=
  isCharBoundary sig.toList (min (sig.toList.map Char.utf8Size).sum 16)

/-! ## The call -/

structure SendRequest where
  cfg : Settings
  currentLeader : Option Pubkey

namespace SendRequest

variable (req : SendRequest)

def skipsAsLeader (provider : SwqosProvider) : Bool :=
  req.cfg.ownLeaderStrategyEnabled && req.cfg.swqosSkipLeaderProvider &&
    (req.currentLeader.bind fun leader =>
      (provider.identityPubkey req.cfg.leaderMapping).map fun owner => owner == leader).getD false

def isActive (entry : SwqosProvider × CircuitState) : Bool :=
  entry.2 != .opened && !req.skipsAsLeader entry.1

def fallbackUrl : Option String :=
  if req.cfg.ownLeaderStrategyEnabled && req.cfg.ownLeaderFallbackDirectRpc then
    req.cfg.solanaRpcUrls.head?
  else none

def plain : SendRequest where
  cfg := .plain
  currentLeader := none

end SendRequest

/-- Either a signature or an error; the code keeps one `Option` for each. -/
structure ProviderResult where
  provider : String
  outcome : Except String String

def ProviderResult.ofReply (provider : SwqosProvider) (circuitState : CircuitState)
    (reply : Except String String) : ProviderResult where
  provider := provider.name
  outcome := reply.mapError fun e =>
    let stateLabel := match circuitState with
      | .halfOpen => "HALF-OPEN→FAIL"
      | .closed => "FAIL"
      | .opened => "OPEN"
    s!"[{stateLabel}] {e}"

inductive SendPhase where
  | waiting
  | sending
  /-- The reply is in the breaker, and not yet in the channel. -/
  | recorded (reply : Except String String)
  | finished (reply : Except String String)
  | aborted

def SendPhase.isDone : SendPhase → Bool
  | .finished _ | .aborted => true
  | _ => false

structure SpawnedSend where
  provider : SwqosProvider
  circuitState : CircuitState
  phase : SendPhase

def SpawnedSend.result (t : SpawnedSend) (reply : Except String String) : ProviderResult :=
  .ofReply t.provider t.circuitState reply

inductive CollectPhase where
  | querying (remaining : List SwqosProvider)
  | fallingBack
  | collecting
  /-- The first signature is there; the others are aborted, and what has arrived is drained. -/
  | draining (firstSig : String)
  | returned (result : Except String String)
  | panicked

structure ConcurrentSend where
  providers : List SwqosProvider
  health : ProviderHealthTracker
  startedAt : Nat
  now : Nat
  phase : CollectPhase
  /-- The providers whose circuits the call has read, and what they were then. -/
  queried : List (SwqosProvider × CircuitState)
  tasks : List SpawnedSend
  /-- The results in the channel, with the tasks that sent them. -/
  channel : List (Nat × ProviderResult)
  allResults : List (Nat × ProviderResult)
  directReply : Option (Except String String)

inductive ConcurrentEvent where
  | elapse (nanos : Nat)
  /-- A task of another call records an outcome. -/
  | other (event : HealthEvent)
  | query
  | spawn
  | directReply (reply : Except String String)
  | acquire (task : Nat)
  | reply (task : Nat) (reply : Except String String)
  | deliver (task : Nat)
  | abort (task : Nat)
  | receive
  | drain
  | finish

def ConcurrentEvent.ofCollector : ConcurrentEvent → Bool
  | .receive | .drain | .finish => true
  | _ => false

namespace ConcurrentSend

def start (providers : List SwqosProvider) (health : ProviderHealthTracker) (now : Nat) :
    ConcurrentSend where
  providers := providers
  health := health
  startedAt := now
  now := now
  phase := .querying providers
  queried := []
  tasks := []
  channel := []
  allResults := []
  directReply := none

section

variable (req : SendRequest) (s : ConcurrentSend)

def totalMs : Nat := (s.now - s.startedAt) / 1000000

def skippedOpen : Nat := s.queried.countP fun entry => entry.2 == .opened

def allOpenError : String :=
  s!"All {s.providers.length} SWQoS providers are in OPEN circuit state ({s.totalMs}ms) — " ++
    "skipping send entirely"

def allFailedError : String :=
  let errors := s.allResults.filterMap fun entry =>
    match entry.2.outcome with
    | .ok _ => none
    | .error e => some s!"{entry.2.provider}: {e}"
  s!"All {s.tasks.length} active SWQoS providers failed in {s.totalMs}ms " ++
    s!"({s.skippedOpen} circuits open, skipped); [" ++ "; ".intercalate errors ++ "]"

def query : Option ConcurrentSend :=
  match s.phase with
  | .querying (provider :: remaining) =>
      some { s with
        phase := .querying remaining
        queried := s.queried ++ [(provider, s.health.state provider.name s.now)] }
  | _ => none

def spawn : Option ConcurrentSend :=
  match s.phase with
  | .querying [] =>
      let active := s.queried.filter req.isActive
      if active.isEmpty then
        match req.fallbackUrl with
        | some _ => some { s with phase := .fallingBack }
        | none => some { s with phase := .returned (.error s.allOpenError) }
      else
        some { s with
          phase := .collecting
          tasks := active.map fun entry => ⟨entry.1, entry.2, .waiting⟩ }
  | _ => none

def fallBack (reply : Except String String) : Option ConcurrentSend :=
  match s.phase with
  | .fallingBack =>
      some { s with
        phase := .returned (reply.mapError fun e => s!"Direct RPC fallback failed: {e}")
        directReply := some reply }
  | _ => none

/-! ### The tasks -/

def setPhase (task : Nat) (phase : SendPhase) : List SpawnedSend :=
  s.tasks.modify task fun t => { t with phase := phase }

def acquire (task : Nat) : Option ConcurrentSend :=
  match s.tasks[task]? with
  | some ⟨_, _, .waiting⟩ => some { s with tasks := s.setPhase task .sending }
  | _ => none

def recordReply (task : Nat) (reply : Except String String) : Option ConcurrentSend :=
  match s.tasks[task]? with
  | some ⟨provider, _, .sending⟩ =>
      some { s with
        health :=
          match reply with
          | .ok _ => s.health.recordSuccess provider.name
          | .error _ => s.health.recordFailure provider.name s.now
        tasks := s.setPhase task (.recorded reply) }
  | _ => none

def listening : Bool :=
  match s.phase with
  | .collecting | .draining _ => true
  | _ => false

def deliver (task : Nat) : Option ConcurrentSend :=
  match s.tasks[task]? with
  | some ⟨provider, circuitState, .recorded reply⟩ =>
      some { s with
        channel :=
          if s.listening then s.channel ++ [(task, .ofReply provider circuitState reply)]
          else s.channel
        tasks := s.setPhase task (.finished reply) }
  | _ => none

/-- The collector has called `abort` on every task. -/
def aborting : Bool :=
  match s.phase with
  | .draining _ | .returned (.ok _) => true
  | _ => false

def abort (task : Nat) : Option ConcurrentSend :=
  match s.tasks[task]? with
  | some t =>
      if s.aborting && !t.phase.isDone then some { s with tasks := s.setPhase task .aborted }
      else none
  | none => none

/-! ### The collector -/

def receive : Option ConcurrentSend :=
  match s.phase, s.channel with
  | .collecting, entry :: rest =>
      match entry.2.outcome with
      | .ok sig =>
          if loggable sig then
            some { s with
              phase := .draining sig
              channel := rest
              allResults := s.allResults ++ [entry] }
          else some { s with phase := .panicked }
      | .error _ => some { s with channel := rest, allResults := s.allResults ++ [entry] }
  | _, _ => none

def drain : Option ConcurrentSend :=
  match s.phase, s.channel with
  | .draining _, entry :: rest =>
      some { s with channel := rest, allResults := s.allResults ++ [entry] }
  | _, _ => none

def finish : Option ConcurrentSend :=
  match s.phase, s.channel with
  | .draining sig, [] => some { s with phase := .returned (.ok sig) }
  | .collecting, [] =>
      if s.tasks.all fun t => t.phase.isDone then
        some { s with phase := .returned (.error s.allFailedError) }
      else none
  | _, _ => none

def step : ConcurrentEvent → Option ConcurrentSend
  | .elapse nanos => some { s with now := s.now + nanos }
  | .other event => some { s with health := s.health.record (s.now, event) }
  | .query => s.query
  | .spawn => s.spawn req
  | .directReply reply => s.fallBack reply
  | .acquire task => s.acquire task
  | .reply task reply => s.recordReply task reply
  | .deliver task => s.deliver task
  | .abort task => s.abort task
  | .receive => s.receive
  | .drain => s.drain
  | .finish => s.finish

end

/-! ## What a call promises -/

section

variable (req : SendRequest) (s : ConcurrentSend)

def isOver : Bool :=
  match s.phase with
  | .returned _ | .panicked => true
  | _ => false

def Delivers (sig : String) : Prop :=
  (∃ entry ∈ s.allResults ++ s.channel, entry.2.outcome = .ok sig) ∨
    s.directReply = some (.ok sig)

def SentBy (entry : Nat × ProviderResult) : Prop :=
  ∃ t reply, s.tasks[entry.1]? = some t ∧ t.phase = .finished reply ∧ entry.2 = t.result reply

def ReportsError (task : Nat) : Prop :=
  ∃ entry ∈ s.allResults, entry.1 = task ∧ ∃ e, entry.2.outcome = .error e

def firstSig : Option String :=
  s.channel.findSome? fun entry => entry.2.outcome.toOption

def receivedSig : Option String :=
  match s.phase, s.channel with
  | .collecting, entry :: _ => entry.2.outcome.toOption
  | _, _ => none

/-- The first signature to be received has a character boundary where the log cuts it. -/
def logsFirst : ConcurrentEvent → Bool
  | .receive => s.receivedSig.all loggable
  | _ => true

def CanReturn (sig : String) : Prop :=
  ∃ events t, Run (step req) (fun _ e => e.ofCollector = true) s events t ∧
    t.phase = .returned (.ok sig)

structure Sound : Prop where
  targets : ∀ t ∈ s.tasks, (t.provider, t.circuitState) ∈ s.queried ∧
    t.circuitState ≠ .opened ∧ req.skipsAsLeader t.provider = false
  delivered : ∀ entry ∈ s.allResults ++ s.channel, s.SentBy entry
  fallback : s.phase = .fallingBack ∨ s.directReply ≠ none →
    s.queried.map Prod.fst = s.providers ∧ s.queried.filter req.isActive = [] ∧
      req.fallbackUrl ≠ none
  ok_iff : s.isOver = true →
    ((∃ sig, s.phase = .returned (.ok sig)) ↔ ∃ sig, s.Delivers sig)
  ok_delivered : ∀ sig, s.phase = .returned (.ok sig) → s.Delivers sig
  answers : ∀ sig, s.phase = .collecting → s.firstSig = some sig → loggable sig = true →
    s.CanReturn req sig
  drains : ∀ sig, s.phase = .draining sig → s.CanReturn req sig
  error_reported : ∀ e, s.phase = .returned (.error e) →
    ∀ task < s.tasks.length, s.ReportsError task

end

end ConcurrentSend

/-! ## What a call does to the breakers -/

def HealthEvent.ofReply (provider : SwqosProvider) : Except String String → HealthEvent
  | .ok _ => .success provider.name
  | .error _ => .failure provider.name

structure BreakerRecord where
  task : Option Nat
  recordedAt : Nat
  outcome : HealthEvent

def recordsOf (task : Nat) (records : List BreakerRecord) : List HealthEvent :=
  (records.filter fun record => record.task == some task).map (·.outcome)

def SpawnedSend.Recorded (t : SpawnedSend) (outcomes : List HealthEvent) : Prop :=
  match t.phase with
  | .waiting | .sending => outcomes = []
  | .recorded reply | .finished reply => outcomes = [.ofReply t.provider reply]
  | .aborted => outcomes = [] ∨ ∃ reply, outcomes = [.ofReply t.provider reply]

namespace ConcurrentSend

/-- What a step records: what a task was replied, or an outcome of another call. -/
def records (s : ConcurrentSend) (e : ConcurrentEvent) (_ : ConcurrentSend) :
    List BreakerRecord :=
  match e with
  | .other event => [⟨none, s.now, event⟩]
  | .reply task reply =>
      (s.tasks[task]?).toList.map fun t => ⟨some task, s.now, .ofReply t.provider reply⟩
  | _ => []

/--
The breakers are what these outcomes make of them, and each task has recorded
what it had to.
-/
structure Updates (health : ProviderHealthTracker) (records : List BreakerRecord)
    (s : ConcurrentSend) : Prop where
  health : s.health = health.after (records.map fun record => (record.recordedAt, record.outcome))
  tasks : ∀ task (t : SpawnedSend), s.tasks[task]? = some t → t.Recorded (recordsOf task records)

/-! ## The invariant -/

section

variable (req : SendRequest) (s : ConcurrentSend)

def Listed (task : Nat) (t : SpawnedSend) : Prop :=
  match t.phase with
  | .finished reply => (task, t.result reply) ∈ s.allResults ++ s.channel
  | .aborted => False
  | _ => True

def Untouched : Prop :=
  s.tasks = [] ∧ s.channel = [] ∧ s.allResults = [] ∧ s.directReply = none

def Collected : Prop :=
  match s.phase with
  | .querying _ | .fallingBack => s.Untouched
  | .collecting =>
      s.directReply = none ∧ (∀ entry ∈ s.allResults, ∃ e, entry.2.outcome = .error e) ∧
        ∀ task t, s.tasks[task]? = some t → s.Listed task t
  | .draining sig => ∃ entry ∈ s.allResults, entry.2.outcome = .ok sig
  | .returned (.ok sig) => s.Delivers sig
  | .returned (.error _) =>
      (∀ sig, ¬ s.Delivers sig) ∧ ∀ task < s.tasks.length, s.ReportsError task
  | .panicked => False

def remaining : List SwqosProvider :=
  match s.phase with
  | .querying remaining => remaining
  | _ => []

def isQuerying : Bool :=
  match s.phase with
  | .querying _ => true
  | _ => false

structure Spawned : Prop where
  queried : s.queried.map Prod.fst ++ s.remaining = s.providers
  tasks : s.isQuerying = false →
    s.tasks.map (fun t => (t.provider, t.circuitState)) = s.queried.filter req.isActive
  fallback : s.phase = .fallingBack ∨ s.directReply ≠ none →
    s.queried.filter req.isActive = [] ∧ req.fallbackUrl ≠ none

structure Inv : Prop where
  spawned : s.Spawned req
  sent : ∀ entry ∈ s.allResults ++ s.channel, s.SentBy entry
  collected : s.Collected

end

variable {req : SendRequest} {s s' : ConcurrentSend} {task : Nat} {phase : SendPhase}
  {t : SpawnedSend}

/-! ### One task moves on -/

theorem getElem?_setPhase (i : Nat) :
    (s.setPhase task phase)[i]? =
      if task = i then s.tasks[i]?.map fun t => { t with phase := phase } else s.tasks[i]? := by
  rw [setPhase, List.getElem?_modify]
  split <;> cases s.tasks[i]? <;> rfl

theorem getElem?_setPhase_cases {i : Nat} {t' : SpawnedSend} (htask : s.tasks[task]? = some t)
    (h : (s.setPhase task phase)[i]? = some t') :
    (i = task ∧ t' = { t with phase := phase }) ∨ (i ≠ task ∧ s.tasks[i]? = some t') := by
  rw [getElem?_setPhase] at h
  split at h
  case isTrue heq =>
    subst heq
    rw [htask] at h
    exact Or.inl ⟨rfl, (Option.some.inj h).symm⟩
  case isFalse hne => exact Or.inr ⟨Ne.symm hne, h⟩

@[simp] theorem length_setPhase : (s.setPhase task phase).length = s.tasks.length := by
  rw [setPhase, List.length_modify]

theorem map_setPhase {α : Type} {f : SpawnedSend → α}
    (hf : ∀ t : SpawnedSend, f { t with phase := phase } = f t) :
    (s.setPhase task phase).map f = s.tasks.map f := by
  apply List.ext_getElem?
  intro i
  rw [List.getElem?_map, List.getElem?_map, getElem?_setPhase]
  split
  · cases s.tasks[i]? <;> simp [hf]
  · rfl

theorem SentBy.setPhase {entry : Nat × ProviderResult} (htask : s.tasks[task]? = some t)
    (hdone : t.phase.isDone = false) (h : s.SentBy entry)
    (htasks : s'.tasks = s.setPhase task phase) :
    s'.SentBy entry := by
  obtain ⟨t', reply, ht', hfinished, hresult⟩ := h
  refine ⟨t', reply, ?_, hfinished, hresult⟩
  rw [htasks, getElem?_setPhase, if_neg, ht']
  rintro rfl
  rw [htask] at ht'
  cases ht'
  rw [hfinished] at hdone
  cases hdone

theorem Listed.mono {i : Nat} {t' : SpawnedSend} (h : s.Listed i t')
    (hmem : ∀ entry ∈ s.allResults ++ s.channel, entry ∈ s'.allResults ++ s'.channel) :
    s'.Listed i t' := by
  unfold Listed at h ⊢
  cases hphase : t'.phase with
  | finished reply =>
      rw [hphase] at h
      exact hmem _ h
  | aborted =>
      rw [hphase] at h
      exact h
  | waiting => trivial
  | sending => trivial
  | recorded reply => trivial

theorem Collected.move {health : ProviderHealthTracker} {sent : List (Nat × ProviderResult)}
    (hcollected : s.Collected) (htask : s.tasks[task]? = some t)
    (hquiet : s.listening = false → sent = [])
    (hlisted : s.listening = true → Listed { s with channel := s.channel ++ sent } task
      { t with phase := phase } ∨ phase = .aborted ∧ s.aborting = true) :
    Collected { s with
      health := health
      channel := s.channel ++ sent
      tasks := s.setPhase task phase } := by
  unfold Collected at hcollected ⊢
  cases hphase : s.phase with
  | querying remaining =>
      rw [hphase] at hcollected
      rw [hcollected.1] at htask
      cases htask
  | fallingBack =>
      rw [hphase] at hcollected
      rw [hcollected.1] at htask
      cases htask
  | collecting =>
      rw [hphase] at hcollected
      refine ⟨hcollected.1, hcollected.2.1, fun i t' ht' => ?_⟩
      rcases getElem?_setPhase_cases htask ht' with ⟨rfl, rfl⟩ | ⟨-, hold⟩
      · rcases hlisted (by simp [listening, hphase]) with hlisted | ⟨-, haborting⟩
        · exact hlisted
        · simp [aborting, hphase] at haborting
      · apply (hcollected.2.2 i t' hold).mono
        intro entry hentry
        rw [← List.append_assoc]
        exact List.mem_append_left _ hentry
  | draining sig =>
      rw [hphase] at hcollected
      exact hcollected
  | returned result =>
      rw [hphase] at hcollected
      rw [hquiet (by simp [listening, hphase])]
      cases result with
      | ok sig => simpa [Delivers] using hcollected
      | error e =>
          refine ⟨by simpa [Delivers] using hcollected.1, fun i hi => ?_⟩
          exact hcollected.2 i (by rwa [length_setPhase] at hi)
  | panicked =>
      rw [hphase] at hcollected
      exact hcollected

theorem Inv.move {health : ProviderHealthTracker} {sent : List (Nat × ProviderResult)}
    (hs : s.Inv req) (htask : s.tasks[task]? = some t) (hdone : t.phase.isDone = false)
    (hsent : ∀ entry ∈ sent, s.listening = true ∧ ∃ reply, phase = .finished reply ∧
      entry = (task, t.result reply))
    (hlisted : s.listening = true → Listed { s with channel := s.channel ++ sent } task
      { t with phase := phase } ∨ phase = .aborted ∧ s.aborting = true) :
    Inv req { s with
      health := health
      channel := s.channel ++ sent
      tasks := s.setPhase task phase } := by
  constructor
  case spawned =>
    refine ⟨hs.spawned.queried, fun hquerying => ?_, hs.spawned.fallback⟩
    exact (map_setPhase fun _ => rfl).trans (hs.spawned.tasks hquerying)
  case sent =>
    intro entry hentry
    rw [← List.append_assoc] at hentry
    rcases List.mem_append.mp hentry with hold | hnew
    · exact (hs.sent entry hold).setPhase htask hdone rfl
    · obtain ⟨-, reply, rfl, rfl⟩ := hsent entry hnew
      refine ⟨{ t with phase := .finished reply }, reply, ?_, rfl, rfl⟩
      simp [getElem?_setPhase, htask]
  case collected =>
    apply hs.collected.move htask ?_ hlisted
    intro hlistening
    apply List.eq_nil_iff_forall_not_mem.mpr
    intro entry hentry
    rw [(hsent entry hentry).1] at hlistening
    cases hlistening

theorem Inv.move_quiet {health : ProviderHealthTracker} (hs : s.Inv req)
    (htask : s.tasks[task]? = some t) (hdone : t.phase.isDone = false)
    (hphase : phase = .sending ∨ (∃ reply, phase = .recorded reply) ∨
      phase = .aborted ∧ s.aborting = true) :
    Inv req { s with health := health, tasks := s.setPhase task phase } := by
  have hmoved := @Inv.move req s task phase t health [] hs htask hdone (by simp) (fun _ => ?_)
  · simpa only [List.append_nil] using hmoved
  · rcases hphase with rfl | ⟨reply, rfl⟩ | haborted
    · exact Or.inl trivial
    · exact Or.inl trivial
    · exact Or.inr haborted

theorem Inv.acquire (hs : s.Inv req) (hstep : s.acquire task = some s') : s'.Inv req := by
  unfold ConcurrentSend.acquire at hstep
  split at hstep
  case h_2 => cases hstep
  case h_1 provider circuitState htask =>
    cases hstep
    exact hs.move_quiet htask rfl (Or.inl rfl)

theorem Inv.recordReply {reply : Except String String} (hs : s.Inv req)
    (hstep : s.recordReply task reply = some s') : s'.Inv req := by
  unfold ConcurrentSend.recordReply at hstep
  split at hstep
  case h_2 => cases hstep
  case h_1 provider circuitState htask =>
    cases hstep
    exact hs.move_quiet htask rfl (Or.inr (Or.inl ⟨reply, rfl⟩))

theorem Inv.abort (hs : s.Inv req) (hstep : s.abort task = some s') : s'.Inv req := by
  unfold ConcurrentSend.abort at hstep
  split at hstep
  case h_2 => cases hstep
  case h_1 t htask =>
    simp only [Option.ite_none_right_eq_some, Bool.and_eq_true, Bool.not_eq_true'] at hstep
    obtain ⟨⟨haborting, hdone⟩, hstep⟩ := hstep
    cases hstep
    exact hs.move_quiet htask hdone (Or.inr (Or.inr ⟨rfl, haborting⟩))

theorem Inv.deliver (hs : s.Inv req) (hstep : s.deliver task = some s') : s'.Inv req := by
  unfold ConcurrentSend.deliver at hstep
  split at hstep
  case h_2 => cases hstep
  case h_1 provider circuitState reply htask =>
    cases hstep
    have hmoved := @Inv.move req s task (.finished reply) _ s.health
      (if s.listening then [(task, .ofReply provider circuitState reply)] else []) hs htask rfl
      ?_ ?_
    · cases hlistening : s.listening <;> simpa [hlistening] using hmoved
    · intro entry hentry
      simp only [List.mem_ite_nil_right, List.mem_singleton] at hentry
      exact ⟨hentry.1, reply, rfl, hentry.2⟩
    · intro hlistening
      simp [Listed, SpawnedSend.result, hlistening]

/-! ### The collector moves on -/

theorem Inv.of_untouched (h : s.Untouched) (hspawned : s.Spawned req)
    (hcollected : s.Collected) : s.Inv req := by
  have ⟨htasks, hchannel, hresults, _⟩ := h
  constructor
  case spawned => exact hspawned
  case sent => simp [hchannel, hresults]
  case collected => exact hcollected

theorem inv_start (providers : List SwqosProvider) (health : ProviderHealthTracker) (now : Nat) :
    (start providers health now).Inv req :=
  .of_untouched ⟨rfl, rfl, rfl, rfl⟩ ⟨rfl, by simp [isQuerying, start], by simp [start]⟩
    ⟨rfl, rfl, rfl, rfl⟩

theorem Inv.untouched (hs : s.Inv req)
    (hphase : (∃ remaining, s.phase = .querying remaining) ∨ s.phase = .fallingBack) :
    s.Untouched := by
  have hcollected := hs.collected
  unfold Collected at hcollected
  rcases hphase with ⟨remaining, hphase⟩ | hphase <;> rwa [hphase] at hcollected

theorem Inv.query (hs : s.Inv req) (hstep : s.query = some s') : s'.Inv req := by
  unfold ConcurrentSend.query at hstep
  split at hstep
  case h_2 => cases hstep
  case h_1 provider remaining hphase =>
    cases hstep
    have huntouched := hs.untouched (Or.inl ⟨_, hphase⟩)
    have hqueried := hs.spawned.queried
    simp only [ConcurrentSend.remaining, hphase] at hqueried
    refine .of_untouched huntouched ⟨?_, by simp [isQuerying], ?_⟩ huntouched
    · simpa [ConcurrentSend.remaining] using hqueried
    · have hnone : s.directReply = none := huntouched.2.2.2
      simp [hnone]

private theorem not_delivers_of_untouched (h : s.Untouched) (sig : String) : ¬ s.Delivers sig := by
  obtain ⟨-, hchannel, hresults, hreply⟩ := h
  simp [Delivers, hchannel, hresults, hreply]

theorem Inv.spawn (hs : s.Inv req) (hstep : s.spawn req = some s') : s'.Inv req := by
  unfold ConcurrentSend.spawn at hstep
  split at hstep
  case h_2 => cases hstep
  case h_1 hphase =>
    have huntouched := hs.untouched (Or.inl ⟨_, hphase⟩)
    have ⟨htasks, hchannel, hresults, hreply⟩ := huntouched
    have hqueried := hs.spawned.queried
    simp only [remaining, hphase] at hqueried
    dsimp only at hstep
    split at hstep
    case isTrue hempty =>
      have hnone := List.isEmpty_iff.mp hempty
      have hspawned (phase : CollectPhase) (hremaining : remaining { s with phase := phase } = [])
          (hurl : phase = .fallingBack → req.fallbackUrl ≠ none) :
          Spawned req { s with phase := phase } := by
        refine ⟨by rw [hremaining]; exact hqueried, fun _ => by rw [hnone, htasks]; rfl, ?_⟩
        rintro (hfalling | hreplied)
        · exact ⟨hnone, hurl hfalling⟩
        · exact absurd hreply hreplied
      split at hstep
      case h_1 url hurl =>
        cases hstep
        exact .of_untouched huntouched (hspawned _ rfl fun _ => by simp [hurl]) huntouched
      case h_2 =>
        cases hstep
        refine .of_untouched huntouched (hspawned _ rfl (by simp))
          ⟨not_delivers_of_untouched huntouched, fun i hi => ?_⟩
        simp [htasks] at hi
    case isFalse =>
      cases hstep
      constructor
      case spawned =>
        refine ⟨hqueried, fun _ => by simp [Function.comp_def], ?_⟩
        rintro (hfalling | hreplied)
        · cases hfalling
        · exact absurd hreply hreplied
      case sent => simp [hchannel, hresults]
      case collected =>
        refine ⟨hreply, by simp [hresults], fun i t ht => ?_⟩
        obtain ⟨entry, -, rfl⟩ := List.mem_map.mp (List.mem_of_getElem? ht)
        trivial

theorem Inv.fallBack {reply : Except String String} (hs : s.Inv req)
    (hstep : s.fallBack reply = some s') : s'.Inv req := by
  unfold ConcurrentSend.fallBack at hstep
  split at hstep
  case h_2 => cases hstep
  case h_1 hphase =>
    cases hstep
    obtain ⟨htasks, hchannel, hresults, -⟩ := hs.untouched (Or.inr hphase)
    have hqueried := hs.spawned.queried
    simp only [remaining, hphase] at hqueried
    constructor
    case spawned =>
      exact ⟨hqueried, fun _ => hs.spawned.tasks (by simp [isQuerying, hphase]),
        fun _ => hs.spawned.fallback (Or.inl hphase)⟩
    case sent => simp [hchannel, hresults]
    case collected =>
      cases reply with
      | ok sig => exact Or.inr rfl
      | error e => exact ⟨by simp [Delivers, hchannel, hresults], by simp [htasks]⟩

private theorem remaining_of_listening (h : s.listening = true) :
    s.remaining = [] ∧ s.isQuerying = false := by
  unfold listening at h
  unfold remaining isQuerying
  split at h
  case h_1 hphase => simp [hphase]
  case h_2 sig hphase => simp [hphase]
  case h_3 => cases h

theorem Spawned.collect {phase : CollectPhase} {channel allResults : List (Nat × ProviderResult)}
    (hs : s.Spawned req) (hlistening : s.listening = true)
    (hafter : ∀ providers, phase ≠ .querying providers) (hrunning : phase ≠ .fallingBack) :
    Spawned req { s with phase := phase, channel := channel, allResults := allResults } := by
  have ⟨hremaining, hquerying⟩ := remaining_of_listening hlistening
  constructor
  case queried =>
    have hqueried := hs.queried
    rw [hremaining] at hqueried
    cases phase with
    | querying providers => exact absurd rfl (hafter providers)
    | _ => exact hqueried
  case tasks => exact fun _ => hs.tasks hquerying
  case fallback =>
    intro hfallback
    apply hs.fallback
    exact Or.inr (hfallback.resolve_left hrunning)

theorem Inv.take {entry : Nat × ProviderResult} {rest : List (Nat × ProviderResult)}
    {phase : CollectPhase} (hs : s.Inv req) (hchannel : s.channel = entry :: rest)
    (hspawned : Spawned req { s with
      phase := phase, channel := rest, allResults := s.allResults ++ [entry] })
    (hcollected : Collected { s with
      phase := phase, channel := rest, allResults := s.allResults ++ [entry] }) :
    Inv req { s with
      phase := phase, channel := rest, allResults := s.allResults ++ [entry] } where
  spawned := hspawned
  sent := by
    intro taken htaken
    apply hs.sent taken
    rw [hchannel]
    simpa using htaken
  collected := hcollected

theorem Inv.receive (hs : s.Inv req) (hlog : s.logsFirst .receive = true)
    (hstep : s.receive = some s') : s'.Inv req := by
  unfold ConcurrentSend.receive at hstep
  split at hstep
  case h_2 => cases hstep
  case h_1 entry rest hphase hchannel =>
    have hlistening : s.listening = true := by simp [listening, hphase]
    split at hstep
    case h_1 sig houtcome =>
      simp only [logsFirst, receivedSig, hphase, hchannel, houtcome, Except.toOption,
        Option.all_some] at hlog
      rw [if_pos hlog] at hstep
      cases hstep
      apply hs.take hchannel
      · exact hs.spawned.collect hlistening (by simp) (by simp)
      · exact ⟨entry, by simp, houtcome⟩
    case h_2 e houtcome =>
      cases hstep
      have hcollected := hs.collected
      simp only [Collected, hphase] at hcollected
      apply hs.take hchannel
      · exact hs.spawned.collect hlistening (by simp [hphase]) (by simp [hphase])
      simp only [Collected, hphase]
      refine ⟨hcollected.1, ?_, fun i t ht => ?_⟩
      · intro taken htaken
        rcases List.mem_append.mp htaken with hold | hnew
        · exact hcollected.2.1 taken hold
        · rw [List.mem_singleton.mp hnew]
          exact ⟨e, houtcome⟩
      · apply (hcollected.2.2 i t ht).mono
        intro listed hlisted
        rw [hchannel] at hlisted
        simpa using hlisted

theorem Inv.drain (hs : s.Inv req) (hstep : s.drain = some s') : s'.Inv req := by
  unfold ConcurrentSend.drain at hstep
  split at hstep
  case h_2 => cases hstep
  case h_1 sig entry rest hphase hchannel =>
    cases hstep
    have hcollected := hs.collected
    simp only [Collected, hphase] at hcollected
    obtain ⟨winner, hwinner, hsig⟩ := hcollected
    apply hs.take hchannel
    · apply hs.spawned.collect <;> simp [listening, hphase]
    simp only [Collected, hphase]
    exact ⟨winner, List.mem_append_left _ hwinner, hsig⟩

private theorem reportsError_of_listed (hchannel : s.channel = [])
    (herrors : ∀ entry ∈ s.allResults, ∃ e, entry.2.outcome = .error e)
    (hdone : t.phase.isDone = true) (hlisted : s.Listed task t) : s.ReportsError task := by
  unfold Listed at hlisted
  cases hphase : t.phase with
  | finished reply =>
      rw [hphase] at hlisted
      simp only [hchannel, List.append_nil] at hlisted
      exact ⟨_, hlisted, rfl, herrors _ hlisted⟩
  | aborted =>
      rw [hphase] at hlisted
      exact hlisted.elim
  | waiting => simp [hphase, SendPhase.isDone] at hdone
  | sending => simp [hphase, SendPhase.isDone] at hdone
  | recorded reply => simp [hphase, SendPhase.isDone] at hdone

theorem Inv.finish (hs : s.Inv req) (hstep : s.finish = some s') : s'.Inv req := by
  have hcollected := hs.collected
  unfold ConcurrentSend.finish at hstep
  split at hstep
  case h_3 => cases hstep
  case h_1 sig hphase hchannel =>
    cases hstep
    simp only [Collected, hphase] at hcollected
    obtain ⟨winner, hwinner, hsig⟩ := hcollected
    constructor
    case spawned => apply hs.spawned.collect <;> simp [listening, hphase]
    case sent => exact hs.sent
    case collected => exact Or.inl ⟨winner, List.mem_append_left _ hwinner, hsig⟩
  case h_2 hphase hchannel =>
    simp only [Option.ite_none_right_eq_some, List.all_eq_true] at hstep
    obtain ⟨hdone, hstep⟩ := hstep
    cases hstep
    simp only [Collected, hphase] at hcollected
    obtain ⟨hreply, herrors, hlisted⟩ := hcollected
    constructor
    case spawned => apply hs.spawned.collect <;> simp [listening, hphase]
    case sent => exact hs.sent
    case collected =>
      refine ⟨fun sig => ?_, fun i hi => ?_⟩
      · rintro (⟨entry, hentry, hsig⟩ | hsig)
        · simp only [hchannel, List.append_nil] at hentry
          obtain ⟨e, he⟩ := herrors entry hentry
          rw [hsig] at he
          cases he
        · simp [hreply] at hsig
      · apply reportsError_of_listed hchannel herrors (hdone _ (List.getElem_mem hi))
        exact hlisted i _ (List.getElem?_eq_getElem hi)

theorem Inv.step {e : ConcurrentEvent} (hs : s.Inv req) (hlog : s.logsFirst e = true)
    (hstep : s.step req e = some s') : s'.Inv req := by
  cases e with
  | elapse nanos =>
      cases hstep
      exact ⟨⟨hs.spawned.queried, hs.spawned.tasks, hs.spawned.fallback⟩, hs.sent, hs.collected⟩
  | other event =>
      cases hstep
      exact ⟨⟨hs.spawned.queried, hs.spawned.tasks, hs.spawned.fallback⟩, hs.sent, hs.collected⟩
  | query => exact hs.query hstep
  | spawn => exact hs.spawn hstep
  | directReply reply => exact hs.fallBack hstep
  | acquire task => exact hs.acquire hstep
  | reply task reply => exact hs.recordReply hstep
  | deliver task => exact hs.deliver hstep
  | abort task => exact hs.abort hstep
  | receive => exact hs.receive hlog hstep
  | drain => exact hs.drain hstep
  | finish => exact hs.finish hstep

/-! ### The collector answers -/

theorem canReturn_of_draining {sig : String} (hphase : s.phase = .draining sig) :
    s.CanReturn req sig := by
  induction hchannel : s.channel generalizing s with
  | nil =>
      refine ⟨[.finish], { s with phase := .returned (.ok sig) }, ?_, rfl⟩
      refine .cons rfl ?_ (.nil _)
      simp [step, finish, hphase, hchannel]
  | cons entry rest ih =>
      obtain ⟨events, t, hrun, ht⟩ := ih
        (s := { s with channel := rest, allResults := s.allResults ++ [entry] }) hphase rfl
      refine ⟨.drain :: events, t, .cons rfl ?_ hrun, ht⟩
      simp [step, drain, hphase, hchannel]

theorem canReturn_of_collecting {sig : String} (hphase : s.phase = .collecting)
    (hfirst : s.firstSig = some sig) (hlog : loggable sig = true) : s.CanReturn req sig := by
  induction hchannel : s.channel generalizing s with
  | nil => simp [firstSig, hchannel] at hfirst
  | cons entry rest ih =>
      simp only [firstSig, hchannel, List.findSome?_cons] at hfirst
      cases houtcome : entry.2.outcome with
      | ok first =>
          simp only [houtcome, Except.toOption, Option.some.injEq] at hfirst
          subst hfirst
          have hdrains : CanReturn req { s with
              phase := .draining first, channel := rest,
              allResults := s.allResults ++ [entry] } first := canReturn_of_draining rfl
          obtain ⟨events, t, hrun, ht⟩ := hdrains
          refine ⟨.receive :: events, t, .cons rfl ?_ hrun, ht⟩
          simp [step, receive, hphase, hchannel, houtcome, hlog]
      | error e =>
          simp only [houtcome, Except.toOption] at hfirst
          obtain ⟨events, t, hrun, ht⟩ := ih
            (s := { s with channel := rest, allResults := s.allResults ++ [entry] })
            hphase hfirst rfl
          refine ⟨.receive :: events, t, .cons rfl ?_ hrun, ht⟩
          simp [step, receive, hphase, hchannel, houtcome]

/-! ### The promises hold -/

theorem remaining_of_not_querying (h : s.isQuerying = false) : s.remaining = [] := by
  unfold isQuerying at h
  unfold remaining
  split
  case h_1 providers hphase => simp [hphase] at h
  case h_2 => rfl

theorem Inv.untouched_of_querying (hs : s.Inv req) (h : s.isQuerying = true) : s.Untouched := by
  unfold isQuerying at h
  split at h
  case h_1 providers hphase => exact hs.untouched (Or.inl ⟨providers, hphase⟩)
  case h_2 => cases h

theorem Spawned.targets (hs : s.Spawned req) (hquerying : s.isQuerying = false)
    (ht : t ∈ s.tasks) :
    (t.provider, t.circuitState) ∈ s.queried ∧ t.circuitState ≠ .opened ∧
      req.skipsAsLeader t.provider = false := by
  have hmem : (t.provider, t.circuitState) ∈ s.queried.filter req.isActive := by
    rw [← hs.tasks hquerying]
    exact List.mem_map_of_mem ht
  simpa [SendRequest.isActive] using hmem

theorem Inv.targets (hs : s.Inv req) (ht : t ∈ s.tasks) :
    (t.provider, t.circuitState) ∈ s.queried ∧ t.circuitState ≠ .opened ∧
      req.skipsAsLeader t.provider = false := by
  apply hs.spawned.targets ?_ ht
  apply eq_false_of_ne_true
  intro hquerying
  rw [(hs.untouched_of_querying hquerying).1] at ht
  cases ht

theorem Inv.fallback (hs : s.Inv req) (h : s.phase = .fallingBack ∨ s.directReply ≠ none) :
    s.queried.map Prod.fst = s.providers ∧ s.queried.filter req.isActive = [] ∧
      req.fallbackUrl ≠ none := by
  have hquerying : s.isQuerying = false := by
    apply eq_false_of_ne_true
    intro hquerying
    rcases h with hfalling | hreply
    · simp [isQuerying, hfalling] at hquerying
    · exact hreply (hs.untouched_of_querying hquerying).2.2.2
  have hqueried := hs.spawned.queried
  rw [remaining_of_not_querying hquerying, List.append_nil] at hqueried
  exact ⟨hqueried, hs.spawned.fallback h⟩

theorem Inv.ok_delivered {sig : String} (hs : s.Inv req)
    (hphase : s.phase = .returned (.ok sig)) : s.Delivers sig := by
  have hcollected := hs.collected
  simpa only [Collected, hphase] using hcollected

theorem Inv.of_error {e : String} (hs : s.Inv req) (hphase : s.phase = .returned (.error e)) :
    (∀ sig, ¬ s.Delivers sig) ∧ ∀ task < s.tasks.length, s.ReportsError task := by
  have hcollected := hs.collected
  simpa only [Collected, hphase] using hcollected

theorem Inv.ok_iff (hs : s.Inv req) (hover : s.isOver = true) :
    (∃ sig, s.phase = .returned (.ok sig)) ↔ ∃ sig, s.Delivers sig := by
  constructor
  · rintro ⟨sig, hphase⟩
    exact ⟨sig, hs.ok_delivered hphase⟩
  · rintro ⟨sig, hdelivers⟩
    have hcollected := hs.collected
    cases hphase : s.phase with
    | returned result =>
        cases result with
        | ok first => exact ⟨first, rfl⟩
        | error e => exact absurd hdelivers ((hs.of_error hphase).1 sig)
    | panicked =>
        simp only [Collected, hphase] at hcollected
    | _ => simp [isOver, hphase] at hover

theorem Inv.sound (hs : s.Inv req) : s.Sound req where
  targets := fun _ => hs.targets
  delivered := hs.sent
  fallback := hs.fallback
  ok_iff := hs.ok_iff
  ok_delivered := fun _ => hs.ok_delivered
  answers := fun _ => canReturn_of_collecting
  drains := fun _ => canReturn_of_draining
  error_reported := fun _ hphase => (hs.of_error hphase).2

private theorem not_sound_of_receive {sig : String} (hreceived : s.receivedSig = some sig)
    (hlog : loggable sig = false) (hstep : s.receive = some s') : ¬ s'.Sound req := by
  intro hsound
  unfold receivedSig at hreceived
  unfold receive at hstep
  split at hreceived
  case h_2 => cases hreceived
  case h_1 entry rest hphase hchannel =>
    have houtcome : entry.2.outcome = .ok sig := by
      cases h : entry.2.outcome with
      | ok first => simpa [h, Except.toOption] using hreceived
      | error e => simp [h, Except.toOption] at hreceived
    simp only [hphase, hchannel, houtcome, hlog, Bool.false_eq_true, if_false] at hstep
    cases hstep
    have hdelivers : Delivers { s with phase := .panicked, channel := entry :: rest } sig :=
      Or.inl ⟨entry, by simp, houtcome⟩
    obtain ⟨first, hreturned⟩ := (hsound.ok_iff rfl).mpr ⟨sig, hdelivers⟩
    cases hreturned

private theorem logsFirst_of_sound {e : ConcurrentEvent} (hsound : s'.Sound req)
    (hstep : s.step req e = some s') : s.logsFirst e = true := by
  cases e with
  | receive =>
      simp only [logsFirst]
      cases hreceived : s.receivedSig with
      | none => rfl
      | some sig =>
          apply Bool.of_not_eq_false
          intro hlog
          exact not_sound_of_receive hreceived hlog hstep hsound
  | _ => rfl

theorem along_logsFirst_of_sound {events : List ConcurrentEvent}
    (hsound : Along (step req) (fun _ _ s' => s'.Sound req) s events) :
    Along (step req) (fun s e _ => s.logsFirst e = true) s events := by
  have hlogs : ∀ (s : ConcurrentSend) e (s' : ConcurrentSend), True → s'.Sound req →
      s.step req e = some s' → True ∧ s.logsFirst e = true :=
    fun _ _ _ _ hsound hstep => ⟨trivial, logsFirst_of_sound hsound hstep⟩
  exact Along.of_invariant hlogs trivial hsound

/-! ### The breakers -/

structure Tallies (health : ProviderHealthTracker) (records : List BreakerRecord)
    (s : ConcurrentSend) : Prop where
  updates : s.Updates health records
  unspawned : ∀ task, s.tasks[task]? = none → recordsOf task records = []
  querying : s.isQuerying = true → s.tasks = []

section

variable {health : ProviderHealthTracker} {before : List BreakerRecord}

@[simp]
theorem recordsOf_append (later : List BreakerRecord) :
    recordsOf task (before ++ later) = recordsOf task before ++ recordsOf task later := by
  simp [recordsOf]

@[simp] theorem recordsOf_none {i recordedAt : Nat} {outcome : HealthEvent} :
    recordsOf i [⟨none, recordedAt, outcome⟩] = [] := rfl

private theorem recordsOf_some {i recordedAt : Nat} {outcome : HealthEvent} :
    recordsOf i [⟨some task, recordedAt, outcome⟩] = if task = i then [outcome] else [] := by
  by_cases h : task = i <;> simp [recordsOf, h]

theorem Tallies.keep (hs : s.Tallies health before) (hhealth : s'.health = s.health)
    (htasks : s'.tasks = s.tasks) (hquerying : s'.isQuerying = true → s.isQuerying = true) :
    s'.Tallies health before := by
  refine ⟨⟨hhealth.trans hs.updates.health, ?_⟩, ?_, fun h => ?_⟩
  · rw [htasks]
    exact hs.updates.tasks
  · rw [htasks]
    exact hs.unspawned
  · rw [htasks]
    exact hs.querying (hquerying h)

theorem Tallies.move {later : List BreakerRecord} (hs : s.Tallies health before)
    (htask : s.tasks[task]? = some t) (hphase : s'.phase = s.phase)
    (htasks : s'.tasks = s.setPhase task phase)
    (hhealth : s'.health =
      s.health.after (later.map fun record => (record.recordedAt, record.outcome)))
    (hown : t.Recorded (recordsOf task before) →
      SpawnedSend.Recorded { t with phase := phase } (recordsOf task (before ++ later)))
    (hothers : ∀ i, i ≠ task → recordsOf i later = []) : s'.Tallies health (before ++ later) := by
  constructor
  case updates =>
    refine ⟨?_, fun i t' ht' => ?_⟩
    · rw [hhealth, hs.updates.health, List.map_append, ProviderHealthTracker.after_append]
    · rw [htasks] at ht'
      rcases getElem?_setPhase_cases htask ht' with ⟨rfl, rfl⟩ | ⟨hne, hold⟩
      · exact hown (hs.updates.tasks i t htask)
      · rw [recordsOf_append, hothers i hne, List.append_nil]
        exact hs.updates.tasks i t' hold
  case unspawned =>
    intro i hi
    rw [htasks, getElem?_setPhase] at hi
    have hne : i ≠ task := by
      rintro rfl
      simp [htask] at hi
    rw [if_neg (Ne.symm hne)] at hi
    rw [recordsOf_append, hothers i hne, List.append_nil]
    exact hs.unspawned i hi
  case querying =>
    intro hquerying
    have hsame : s'.isQuerying = s.isQuerying := by simp only [isQuerying, hphase]
    rw [hs.querying (hsame ▸ hquerying)] at htask
    cases htask

theorem Tallies.recordReply {reply : Except String String} (hs : s.Tallies health before)
    (hstep : s.recordReply task reply = some s') :
    s'.Tallies health (before ++ s.records (.reply task reply) s') := by
  unfold ConcurrentSend.recordReply at hstep
  split at hstep
  case h_2 => cases hstep
  case h_1 provider circuitState htask =>
    cases hstep
    simp only [records, htask, Option.toList_some, List.map_cons, List.map_nil]
    refine hs.move htask rfl rfl ?_ (fun hown => ?_) (fun i hne => ?_)
    · cases reply <;> rfl
    · have hnone : recordsOf task before = [] := hown
      simp [SpawnedSend.Recorded, hnone, recordsOf_some]
    · rw [recordsOf_some, if_neg (Ne.symm hne)]

theorem Tallies.quiet_move (hs : s.Tallies health before) (htask : s.tasks[task]? = some t)
    (hphase : s'.phase = s.phase) (htasks : s'.tasks = s.setPhase task phase)
    (hhealth : s'.health = s.health)
    (hown : t.Recorded (recordsOf task before) →
      SpawnedSend.Recorded { t with phase := phase } (recordsOf task before)) :
    s'.Tallies health before := by
  have hmoved : s'.Tallies health (before ++ []) :=
    hs.move htask hphase htasks hhealth (by rwa [List.append_nil]) (fun _ _ => rfl)
  rwa [List.append_nil] at hmoved

theorem Tallies.spawn (hs : s.Tallies health before) (hstep : s.spawn req = some s') :
    s'.Tallies health before := by
  unfold ConcurrentSend.spawn at hstep
  split at hstep
  case h_2 => cases hstep
  case h_1 hphase =>
    have hempty : s.tasks = [] := hs.querying (by simp [isQuerying, hphase])
    dsimp only at hstep
    split at hstep
    case isTrue =>
      split at hstep <;> cases hstep <;> exact hs.keep rfl rfl (by simp [isQuerying])
    case isFalse =>
      cases hstep
      have hnone (i : Nat) : recordsOf i before = [] := hs.unspawned i (by simp [hempty])
      refine ⟨⟨hs.updates.health, fun i t ht => ?_⟩, fun i _ => hnone i, by simp [isQuerying]⟩
      obtain ⟨entry, -, rfl⟩ := List.mem_map.mp (List.mem_of_getElem? ht)
      exact hnone i

theorem Tallies.abort (hs : s.Tallies health before) (hstep : s.abort task = some s') :
    s'.Tallies health before := by
  unfold ConcurrentSend.abort at hstep
  split at hstep
  case h_1 t htask =>
    simp only [Option.ite_none_right_eq_some] at hstep
    cases hstep.2
    refine hs.quiet_move htask rfl rfl rfl fun hown => ?_
    unfold SpawnedSend.Recorded at hown ⊢
    cases hphase : t.phase with
    | waiting | sending =>
        rw [hphase] at hown
        exact .inl hown
    | recorded reply | finished reply =>
        rw [hphase] at hown
        exact .inr ⟨reply, hown⟩
    | aborted =>
        rw [hphase] at hown
        exact hown
  case h_2 => cases hstep

theorem Tallies.receive (hs : s.Tallies health before) (hstep : s.receive = some s') :
    s'.Tallies health before := by
  unfold ConcurrentSend.receive at hstep
  split at hstep
  case h_1 hphase _ =>
    split at hstep
    case h_1 => split at hstep <;> cases hstep <;> exact hs.keep rfl rfl (by simp [isQuerying])
    case h_2 =>
      cases hstep
      exact hs.keep rfl rfl (by simp [isQuerying])
  case h_2 => cases hstep

theorem Tallies.finish (hs : s.Tallies health before) (hstep : s.finish = some s') :
    s'.Tallies health before := by
  unfold ConcurrentSend.finish at hstep
  split at hstep
  case h_1 =>
    cases hstep
    exact hs.keep rfl rfl (by simp [isQuerying])
  case h_2 =>
    simp only [Option.ite_none_right_eq_some] at hstep
    cases hstep.2
    exact hs.keep rfl rfl (by simp [isQuerying])
  case h_3 => cases hstep

theorem Tallies.step {e : ConcurrentEvent} (hs : s.Tallies health before)
    (hstep : s.step req e = some s') : s'.Tallies health (before ++ s.records e s') := by
  have hquiet (h : s'.Tallies health before) : s'.Tallies health (before ++ []) := by
    rwa [List.append_nil]
  cases e with
  | reply task reply => exact hs.recordReply hstep
  | other event =>
      cases hstep
      refine ⟨⟨?_, fun i t ht => ?_⟩, fun i hi => ?_, hs.querying⟩
      · rw [List.map_append, ProviderHealthTracker.after_append, ← hs.updates.health]
        rfl
      · rw [recordsOf_append, records, recordsOf_none, List.append_nil]
        exact hs.updates.tasks i t ht
      · rw [recordsOf_append, records, recordsOf_none, List.append_nil]
        exact hs.unspawned i hi
  | elapse nanos =>
      cases hstep
      exact hquiet (hs.keep rfl rfl id)
  | query =>
      simp only [ConcurrentSend.step, query] at hstep
      split at hstep
      case h_1 hphase =>
        cases hstep
        exact hquiet (hs.keep rfl rfl (by simp [isQuerying, hphase]))
      case h_2 => cases hstep
  | spawn => exact hquiet (hs.spawn hstep)
  | directReply reply =>
      simp only [ConcurrentSend.step, fallBack] at hstep
      split at hstep
      case h_1 =>
        cases hstep
        exact hquiet (hs.keep rfl rfl (by simp [isQuerying]))
      case h_2 => cases hstep
  | acquire task =>
      simp only [ConcurrentSend.step, ConcurrentSend.acquire] at hstep
      split at hstep
      case h_1 htask =>
        cases hstep
        exact hquiet (hs.quiet_move htask rfl rfl rfl id)
      case h_2 => cases hstep
  | deliver task =>
      simp only [ConcurrentSend.step, ConcurrentSend.deliver] at hstep
      split at hstep
      case h_1 reply htask =>
        cases hstep
        exact hquiet (hs.quiet_move htask rfl rfl rfl id)
      case h_2 => cases hstep
  | abort task => exact hquiet (hs.abort hstep)
  | receive => exact hquiet (hs.receive hstep)
  | drain =>
      simp only [ConcurrentSend.step, ConcurrentSend.drain] at hstep
      split at hstep
      case h_1 hphase _ =>
        cases hstep
        exact hquiet (hs.keep rfl rfl (by simp [isQuerying, hphase]))
      case h_2 => cases hstep
  | finish => exact hquiet (hs.finish hstep)

theorem updates_run {providers : List SwqosProvider} {startedAt : Nat}
    {events : List ConcurrentEvent}
    (hrun : Run (ConcurrentSend.step req) (fun _ _ => True) (start providers health startedAt)
      events s) :
    s.Updates health
      (gather (ConcurrentSend.step req) records (start providers health startedAt) events) := by
  have hstart : (start providers health startedAt).Tallies health [] :=
    ⟨⟨rfl, fun _ _ ht => by simp [start] at ht⟩, fun _ _ => rfl, fun _ => rfl⟩
  have htallies : s.Tallies health ([] ++ gather (ConcurrentSend.step req) records
      (start providers health startedAt) events) :=
    hrun.invariant_gather
      (fun s _ _ shown _ hstep (hs : s.Tallies health shown) => hs.step hstep) hstart
  rw [List.nil_append] at htallies
  exact htallies.updates

end

/--
Every order of steps of a call keeps its promises exactly while the signatures
can be logged; and in every order each task that runs to completion updates its
provider's breaker once, and an aborted one at most once.
-/
theorem along_sound_iff (req : SendRequest) (providers : List SwqosProvider)
    (health : ProviderHealthTracker) (now : Nat) (events : List ConcurrentEvent) :
    (Along (step req) (fun _ _ s' => s'.Sound req) (start providers health now) events ↔
      Along (step req) (fun s e _ => s.logsFirst e = true) (start providers health now)
        events) ∧
    ∀ t, Run (step req) (fun _ _ => True) (start providers health now) events t →
      t.Updates health (gather (step req) records (start providers health now) events) := by
  refine ⟨⟨along_logsFirst_of_sound, fun hlogs => ?_⟩, fun _ => updates_run⟩
  have hkeeps : ∀ (s : ConcurrentSend) e (s' : ConcurrentSend), s.Inv req →
      s.logsFirst e = true → s.step req e = some s' → s'.Inv req ∧ s'.Sound req := by
    intro s e s' hs hlog hstep
    have hs' := hs.step hlog hstep
    exact ⟨hs', hs'.sound⟩
  exact Along.of_invariant hkeeps (inv_start providers health now) hlogs

def accented : String := String.ofList ('a' :: List.replicate 8 'é')

def oneReply (sig : String) : List ConcurrentEvent :=
  [.query, .spawn, .acquire 0, .reply 0 (.ok sig), .deliver 0, .receive]

theorem not_along_sound :
    ¬ Along (step .plain) (fun _ _ s' => s'.Sound .plain) (start [.jito] (.new 3 30) 0)
        (oneReply accented) := by
  intro hsound
  have hlogs := along_logsFirst_of_sound hsound
  revert hlogs
  decide

end ConcurrentSend

end Girasol
