import Girasol.Foundation.Counting
import Girasol.Foundation.Runs
import Girasol.Send.Circuit

/-!
# Concurrent calls of the sender

Buys and sells send at the same time.  Each call of `send_concurrent` reads the
circuits of all providers, then spawns a task for each provider that is not
open; the tasks wait for a permit, send and record the outcome.
-/

namespace Girasol

open Foundation

/-- A call reads the circuits one by one, keeping those that are not open, then collects results. -/
inductive SendCall where
  | querying (remaining : List String) (active : List (String × CircuitState))
  | collecting

inductive TaskPhase where
  | waiting
  | sending
  | finished (ok : Bool)
  | aborted
  deriving DecidableEq, Repr

structure ProviderTask where
  call : Nat
  provider : String
  circuitState : CircuitState
  phase : TaskPhase

structure SwqosSender where
  providers : List String
  health : ProviderHealthTracker
  permits : Nat
  now : Nat
  calls : List SendCall
  tasks : List ProviderTask

inductive SendEvent where
  | elapse (nanos : Nat)
  | sendConcurrent
  | query (call : Nat)
  /-- The tasks are spawned, but for the providers run by the slot leader when these are skipped. -/
  | spawn (call : Nat) (skipped : String → Bool)
  | acquire (task : Nat)
  | finish (task : Nat) (ok : Bool)
  | abort (task : Nat)

def SendCall.probes (provider : String) : SendCall → Nat
  | .querying _ active => active.countP fun entry => entry == (provider, .halfOpen)
  | .collecting => 0

def ProviderTask.isProbe (provider : String) (t : ProviderTask) : Bool :=
  t.provider == provider && t.circuitState == .halfOpen &&
    (t.phase == .waiting || t.phase == .sending)

namespace SwqosSender

def new (providers : List String) (failureThreshold cooldownSecs maxConcurrent : Nat) :
    SwqosSender where
  providers := providers
  health := .new failureThreshold cooldownSecs
  permits := maxConcurrent
  now := 0
  calls := []
  tasks := []

section

variable (s : SwqosSender)

def query (call : Nat) : Option SwqosSender :=
  match s.calls[call]? with
  | some (.querying (provider :: remaining) active) =>
      let state := s.health.state provider s.now
      let active := if state = .opened then active else active ++ [(provider, state)]
      some { s with calls := s.calls.set call (.querying remaining active) }
  | _ => none

def spawn (call : Nat) (skipped : String → Bool) : Option SwqosSender :=
  match s.calls[call]? with
  | some (.querying [] active) =>
      let tasks := (active.filter fun entry => !skipped entry.1).map fun entry =>
        { call := call, provider := entry.1, circuitState := entry.2, phase := .waiting }
      some { s with
        calls := s.calls.set call .collecting
        tasks := s.tasks ++ tasks }
  | _ => none

def setPhase (task : Nat) (phase : TaskPhase) : List ProviderTask :=
  s.tasks.modify task fun t => { t with phase := phase }

def acquire (task : Nat) : Option SwqosSender :=
  match s.tasks[task]? with
  | some t =>
      if t.phase = .waiting ∧ 0 < s.permits then
        some { s with permits := s.permits - 1, tasks := s.setPhase task .sending }
      else none
  | none => none

def finish (task : Nat) (ok : Bool) : Option SwqosSender :=
  match s.tasks[task]? with
  | some t =>
      if t.phase = .sending then
        some { s with
          health :=
            if ok then s.health.recordSuccess t.provider
            else s.health.recordFailure t.provider s.now
          permits := s.permits + 1
          tasks := s.setPhase task (.finished ok) }
      else none
  | none => none

def abort (task : Nat) : Option SwqosSender :=
  match s.tasks[task]? with
  | some t =>
      if s.tasks.any fun winner => winner.call == t.call && winner.phase == .finished true then
        match t.phase with
        | .waiting => some { s with tasks := s.setPhase task .aborted }
        | .sending =>
            some { s with permits := s.permits + 1, tasks := s.setPhase task .aborted }
        | _ => none
      else none
  | none => none

def step : SendEvent → Option SwqosSender
  | .elapse nanos => some { s with now := s.now + nanos }
  | .sendConcurrent => some { s with calls := s.calls ++ [.querying s.providers []] }
  | .query call => s.query call
  | .spawn call skipped => s.spawn call skipped
  | .acquire task => s.acquire task
  | .finish task ok => s.finish task ok
  | .abort task => s.abort task

/-! ## Probes -/

def probesInFlight (provider : String) : Nat :=
  s.tasks.countP fun t =>
    t.provider == provider && t.circuitState == .halfOpen && t.phase == .sending

def AtMostOneProbe : Prop :=
  ∀ provider, s.health.state provider s.now = .halfOpen → s.probesInFlight provider ≤ 1

def openProbes (provider : String) : Nat :=
  (s.calls.map (SendCall.probes provider)).sum + s.tasks.countP (ProviderTask.isProbe provider)

def nextQuery (call : Nat) : Option String :=
  match s.calls[call]? with
  | some (.querying (provider :: _) _) => some provider
  | _ => none

/-- A call reads a half-open circuit only when no probe to the provider is open. -/
def ProbesAlone : SendEvent → Prop
  | .query call =>
      ∀ provider ∈ s.nextQuery call,
        s.health.state provider s.now = .halfOpen → s.openProbes provider = 0
  | _ => True

instance (e : SendEvent) : Decidable (s.ProbesAlone e) := by
  induction e using SendEvent.casesOn with
  | query call =>
      exact inferInstanceAs (Decidable (∀ provider ∈ s.nextQuery call,
        s.health.state provider s.now = .halfOpen → s.openProbes provider = 0))
  | _ => exact isTrue trivial

def Inv : Prop := ∀ provider, s.openProbes provider ≤ 1

end

variable {s s' : SwqosSender}

theorem Inv.atMostOneProbe (hs : s.Inv) : s.AtMostOneProbe := by
  intro provider _
  have hle : s.probesInFlight provider ≤ s.tasks.countP (ProviderTask.isProbe provider) := by
    refine List.countP_mono_left fun t _ hprobe => ?_
    simp only [Bool.and_eq_true] at hprobe
    simp [ProviderTask.isProbe, hprobe]
  exact (hle.trans (Nat.le_add_left _ _)).trans (hs provider)

private theorem countP_active (provider provider' : String) (state : CircuitState)
    (active : List (String × CircuitState)) :
    (if state = .opened then active else active ++ [(provider, state)]).countP
        (fun entry => entry == (provider', .halfOpen)) =
      active.countP (fun entry => entry == (provider', .halfOpen)) +
        (provider == provider' && state == .halfOpen).toNat := by
  cases state with
  | closed =>
      have hclosed : (CircuitState.closed == .halfOpen) = false := rfl
      simp [List.countP_append, hclosed]
  | opened =>
      have hopened : (CircuitState.opened == .halfOpen) = false := rfl
      simp [hopened]
  | halfOpen => simp [List.countP_append, List.countP_singleton, Bool.toNat]

theorem Inv.query {call : Nat} (hs : s.Inv) (halone : s.ProbesAlone (.query call))
    (hstep : s.query call = some s') : s'.Inv := by
  simp only [SwqosSender.query] at hstep
  split at hstep
  case h_2 => cases hstep
  case h_1 provider remaining active hcall =>
    cases hstep
    intro provider'
    have hopen := hs provider'
    have hset := sum_map_set (SendCall.probes provider') hcall (.querying remaining
      (if s.health.state provider s.now = .opened then active
        else active ++ [(provider, s.health.state provider s.now)]))
    simp only [SendCall.probes, countP_active] at hset
    simp only [openProbes] at hopen ⊢
    by_cases hprobe : provider = provider' ∧ s.health.state provider s.now = .halfOpen
    · obtain ⟨rfl, hhalf⟩ := hprobe
      have hnone := halone provider (by simp [nextQuery, hcall]) hhalf
      have hone : (provider == provider && s.health.state provider s.now == .halfOpen).toNat ≤ 1 :=
        Bool.toNat_le _
      simp only [openProbes] at hnone
      omega
    · have hnot : (provider == provider' &&
          s.health.state provider s.now == .halfOpen) = false := by
        simpa using hprobe
      rw [hnot, Bool.toNat_false] at hset
      omega

theorem Inv.spawn {call : Nat} {skipped : String → Bool} (hs : s.Inv)
    (hstep : s.spawn call skipped = some s') : s'.Inv := by
  simp only [SwqosSender.spawn] at hstep
  split at hstep
  case h_2 => cases hstep
  case h_1 active hcall =>
    cases hstep
    intro provider
    have hopen := hs provider
    have hset := sum_map_set (SendCall.probes provider) hcall .collecting
    have hspawned :
        ((active.filter fun entry => !skipped entry.1).map fun entry =>
          ({ call := call, provider := entry.1, circuitState := entry.2, phase := .waiting } :
            ProviderTask)).countP (ProviderTask.isProbe provider) ≤
          active.countP fun entry => entry == (provider, .halfOpen) := by
      rw [List.countP_map, List.countP_filter]
      refine List.countP_mono_left fun entry _ hprobe => ?_
      simp only [Function.comp_apply, ProviderTask.isProbe, Bool.and_eq_true, beq_iff_eq] at hprobe
      simp [Prod.ext_iff, hprobe]
    simp only [openProbes, SendCall.probes, List.countP_append] at hopen hset ⊢
    omega

theorem Inv.acquire {task : Nat} (hs : s.Inv) (hstep : s.acquire task = some s') : s'.Inv := by
  simp only [SwqosSender.acquire] at hstep
  split at hstep
  case h_2 => cases hstep
  case h_1 t htask =>
    simp only [Option.ite_none_right_eq_some] at hstep
    obtain ⟨⟨hwaiting, -⟩, hstep⟩ := hstep
    cases hstep
    intro provider
    have hopen := hs provider
    have hcount := countP_modify (ProviderTask.isProbe provider)
      (fun t => { t with phase := .sending }) htask
    simp only [openProbes, setPhase, ProviderTask.isProbe, hwaiting] at hopen hcount ⊢
    simp at hcount
    omega

theorem Inv.setPhase {task : Nat} {phase : TaskPhase} {health : ProviderHealthTracker}
    {permits : Nat} (hs : s.Inv) (hdone : phase ≠ .waiting ∧ phase ≠ .sending) :
    Inv { s with health := health, permits := permits, tasks := s.setPhase task phase } := by
  intro provider
  have hopen := hs provider
  have hle : (s.setPhase task phase).countP (ProviderTask.isProbe provider) ≤
      s.tasks.countP (ProviderTask.isProbe provider) := by
    cases htask : s.tasks[task]? with
    | none =>
        rw [SwqosSender.setPhase, List.modify_eq_self (List.getElem?_eq_none_iff.mp htask)]
    | some t =>
        have hcount := countP_modify (ProviderTask.isProbe provider)
          (fun t => { t with phase := phase }) htask
        have hnot : ProviderTask.isProbe provider { t with phase := phase } = false := by
          simp [ProviderTask.isProbe, hdone]
        rw [hnot, Bool.toNat_false] at hcount
        rw [SwqosSender.setPhase]
        omega
  simp only [openProbes] at hopen ⊢
  omega

theorem Inv.finish {task : Nat} {ok : Bool} (hs : s.Inv) (hstep : s.finish task ok = some s') :
    s'.Inv := by
  simp only [SwqosSender.finish] at hstep
  split at hstep
  case h_2 => cases hstep
  case h_1 t htask =>
    simp only [Option.ite_none_right_eq_some] at hstep
    cases hstep.2
    exact hs.setPhase ⟨by simp, by simp⟩

theorem Inv.abort {task : Nat} (hs : s.Inv) (hstep : s.abort task = some s') : s'.Inv := by
  simp only [SwqosSender.abort] at hstep
  split at hstep
  case h_2 => cases hstep
  case h_1 t htask =>
    simp only [Option.ite_none_right_eq_some] at hstep
    obtain ⟨-, hstep⟩ := hstep
    split at hstep
    case h_1 =>
      cases hstep
      exact hs.setPhase ⟨by simp, by simp⟩
    case h_2 =>
      cases hstep
      exact hs.setPhase ⟨by simp, by simp⟩
    case h_3 => cases hstep

theorem Inv.step {e : SendEvent} (hs : s.Inv) (halone : s.ProbesAlone e)
    (hstep : s.step e = some s') : s'.Inv := by
  cases e with
  | elapse nanos =>
      cases hstep
      exact hs
  | sendConcurrent =>
      cases hstep
      intro provider
      have hopen := hs provider
      simpa [openProbes, SendCall.probes] using hopen
  | query call => exact hs.query halone hstep
  | spawn call skipped => exact hs.spawn hstep
  | acquire task => exact hs.acquire hstep
  | finish task ok => exact hs.finish hstep
  | abort task => exact hs.abort hstep

theorem inv_new (providers : List String) (failureThreshold cooldownSecs maxConcurrent : Nat) :
    (new providers failureThreshold cooldownSecs maxConcurrent).Inv :=
  fun _ => Nat.zero_le 1

/-- While no call reads a half-open circuit next to an open probe, one probe is in flight. -/
theorem at_most_one_probe (providers : List String)
    (failureThreshold cooldownSecs maxConcurrent : Nat) (events : List SendEvent)
    (halone : Along step (fun s e _ => s.ProbesAlone e)
      (new providers failureThreshold cooldownSecs maxConcurrent) events) :
    Along step (fun _ _ s' => s'.AtMostOneProbe)
      (new providers failureThreshold cooldownSecs maxConcurrent) events := by
  refine halone.of_invariant (fun _ _ _ hs hcond hstep => ?_) (inv_new _ _ _ _)
  have hs' := hs.step hcond hstep
  exact ⟨hs', hs'.atMostOneProbe⟩

/-! ## A probe of one call, and of two -/

/-- A call reads the circuit of the only provider and its task, the `task`-th, starts to send. -/
def oneSend (call task : Nat) : List SendEvent :=
  [.sendConcurrent, .query call, .spawn call fun _ => false, .acquire task]

def failsOnce : List SendEvent := oneSend 0 0 ++ [.finish 0 false, .elapse (30 * nanosPerSec)]

theorem at_most_one_probe_once :
    Along step (fun _ _ s' => s'.AtMostOneProbe) (new ["jito"] 1 30 8)
      (failsOnce ++ oneSend 1 1) :=
  at_most_one_probe ["jito"] 1 30 8 _ (by decide)

theorem two_probes_in_flight :
    ∃ t, Run step (fun _ _ => True) (new ["jito"] 1 30 8)
        (failsOnce ++ oneSend 1 1 ++ oneSend 2 2) t ∧ ¬ t.AtMostOneProbe := by
  have hexec : (exec step (fun _ _ => True) (new ["jito"] 1 30 8)
      (failsOnce ++ oneSend 1 1 ++ oneSend 2 2)).map
        (fun t => decide (t.health.state "jito" t.now = .halfOpen) &&
          decide (t.probesInFlight "jito" = 2)) = some true := by
    decide
  obtain ⟨t, hrun, htwo⟩ := exists_run_of_exec hexec
  refine ⟨t, hrun, fun hone => ?_⟩
  simp only [Bool.and_eq_true, decide_eq_true_eq] at htwo
  have hle := hone "jito" htwo.1
  omega

end SwqosSender

end Girasol
