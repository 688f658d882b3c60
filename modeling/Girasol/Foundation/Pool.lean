import Girasol.Foundation.Counting
import Girasol.Foundation.Runs

/-!
# A pool of tasks with permits

A receiver takes items from a bounded channel and starts a task for each it
accepts.  A task waits for one of the permits, asks until an answer is final,
sends what the answer says into bounded channels, and gives the permit back.
-/

namespace Girasol.Foundation

variable {ι ρ ω κ : Type*}

structure PoolRules (ι ρ ω κ : Type*) where
  /-- How many items wait for the receiver at most. -/
  inbox : Nat
  permits : Nat
  outbox : κ → Nat
  accepts : ι → Bool
  /-- What follows from the replies so far; without an answer the task asks again. -/
  answer : ι → List ρ → Option (List ω)
  channel : ω → κ

inductive PoolPhase (ρ ω : Type*) where
  | waiting
  | working (replies : List ρ)
  | sending (replies : List ρ) (rest : List ω)
  | done (replies : List ρ)

structure PoolTask (ι ρ ω : Type*) where
  item : ι
  phase : PoolPhase ρ ω

/-- All channels in one list; a receiver takes the first entry of its own. -/
structure Pool (ι ρ ω : Type*) where
  inbox : List ι
  tasks : List (PoolTask ι ρ ω)
  outbox : List ω

inductive PoolEvent (ι ρ κ : Type*) where
  | offer (item : ι)
  | receive
  | acquire (task : Nat)
  | reply (task : Nat) (reply : ρ)
  | send (task : Nat)
  | finish (task : Nat)
  | consume (channel : κ)

def PoolEvent.offered? : PoolEvent ι ρ κ → Option ι
  | .offer item => some item
  | _ => none

def PoolPhase.holdsPermit : PoolPhase ρ ω → Bool
  | .working _ | .sending _ _ => true
  | .waiting | .done _ => false

def PoolPhase.isDone : PoolPhase ρ ω → Bool
  | .done _ => true
  | .waiting | .working _ | .sending _ _ => false

namespace Pool

def empty : Pool ι ρ ω := ⟨[], [], []⟩

variable [DecidableEq κ]

def running (s : Pool ι ρ ω) : Nat := s.tasks.countP fun task => task.phase.holdsPermit

def waitingIn (rules : PoolRules ι ρ ω κ) (s : Pool ι ρ ω) (channel : κ) : List ω :=
  s.outbox.filter fun output => rules.channel output == channel

def setPhase (s : Pool ι ρ ω) (k : Nat) (phase : PoolPhase ρ ω) : List (PoolTask ι ρ ω) :=
  s.tasks.modify k fun task => { task with phase := phase }

section

variable (rules : PoolRules ι ρ ω κ) (s : Pool ι ρ ω)

def receive : Option (Pool ι ρ ω) :=
  match s.inbox with
  | [] => none
  | item :: rest => some { s with
      inbox := rest
      tasks := if rules.accepts item then s.tasks ++ [⟨item, .waiting⟩] else s.tasks }

def acquire (k : Nat) : Option (Pool ι ρ ω) :=
  match s.tasks[k]? with
  | some ⟨_, .waiting⟩ =>
      if s.running < rules.permits then some { s with tasks := s.setPhase k (.working []) }
      else none
  | _ => none

def reply (k : Nat) (r : ρ) : Option (Pool ι ρ ω) :=
  match s.tasks[k]? with
  | some ⟨item, .working replies⟩ =>
      match rules.answer item (replies ++ [r]) with
      | none => some { s with tasks := s.setPhase k (.working (replies ++ [r])) }
      | some outputs => some { s with tasks := s.setPhase k (.sending (replies ++ [r]) outputs) }
  | _ => none

def send (k : Nat) : Option (Pool ι ρ ω) :=
  match s.tasks[k]? with
  | some ⟨_, .sending replies (output :: rest)⟩ =>
      if (s.waitingIn rules (rules.channel output)).length < rules.outbox (rules.channel output)
      then some { s with
        tasks := s.setPhase k (.sending replies rest)
        outbox := s.outbox ++ [output] }
      else none
  | _ => none

def finish (k : Nat) : Option (Pool ι ρ ω) :=
  match s.tasks[k]? with
  | some ⟨_, .sending replies []⟩ => some { s with tasks := s.setPhase k (.done replies) }
  | _ => none

def consume (channel : κ) : Option (Pool ι ρ ω) :=
  match s.waitingIn rules channel with
  | [] => none
  | _ :: _ => some { s with
      outbox := s.outbox.eraseP fun output => rules.channel output == channel }

def step : PoolEvent ι ρ κ → Option (Pool ι ρ ω)
  | .offer item =>
      if s.inbox.length < rules.inbox then some { s with inbox := s.inbox ++ [item] } else none
  | .receive => s.receive rules
  | .acquire k => s.acquire rules k
  | .reply k r => s.reply rules k r
  | .send k => s.send rules k
  | .finish k => s.finish k
  | .consume channel => s.consume rules channel

end

/-! ## What a step does -/

/-- The moves of one task. -/
inductive TaskMove (rules : PoolRules ι ρ ω κ) (s : Pool ι ρ ω) (k : Nat) (item : ι) :
    PoolEvent ι ρ κ → PoolPhase ρ ω → PoolPhase ρ ω → List ω → Prop
  | acquire : s.running < rules.permits →
      TaskMove rules s k item (.acquire k) .waiting (.working []) []
  | again (replies : List ρ) (r : ρ) : rules.answer item (replies ++ [r]) = none →
      TaskMove rules s k item (.reply k r) (.working replies) (.working (replies ++ [r])) []
  | answered (replies : List ρ) (r : ρ) (outputs : List ω) :
      rules.answer item (replies ++ [r]) = some outputs →
      TaskMove rules s k item (.reply k r) (.working replies) (.sending (replies ++ [r]) outputs) []
  | send (replies : List ρ) (output : ω) (rest : List ω) :
      (s.waitingIn rules (rules.channel output)).length < rules.outbox (rules.channel output) →
      TaskMove rules s k item (.send k) (.sending replies (output :: rest)) (.sending replies rest)
        [output]
  | finish (replies : List ρ) :
      TaskMove rules s k item (.finish k) (.sending replies []) (.done replies) []

/-- Everything that a step can do. -/
inductive Step (rules : PoolRules ι ρ ω κ) (s : Pool ι ρ ω) :
    PoolEvent ι ρ κ → Pool ι ρ ω → Prop
  | offer (item : ι) : s.inbox.length < rules.inbox →
      Step rules s (.offer item) { s with inbox := s.inbox ++ [item] }
  | receive (item : ι) (rest : List ι) : s.inbox = item :: rest →
      Step rules s .receive { s with
        inbox := rest
        tasks := if rules.accepts item then s.tasks ++ [⟨item, .waiting⟩] else s.tasks }
  | task (k : Nat) (item : ι) (e : PoolEvent ι ρ κ) (before after : PoolPhase ρ ω)
      (sent : List ω) : s.tasks[k]? = some ⟨item, before⟩ →
      TaskMove rules s k item e before after sent →
      Step rules s e { s with tasks := s.setPhase k after, outbox := s.outbox ++ sent }
  | consume (channel : κ) (output : ω) (later : List ω) :
      s.waitingIn rules channel = output :: later →
      Step rules s (.consume channel) { s with
        outbox := s.outbox.eraseP fun output => rules.channel output == channel }

variable {rules : PoolRules ι ρ ω κ} {s s' t : Pool ι ρ ω} {e : PoolEvent ι ρ κ}

theorem step_cases (hstep : s.step rules e = some s') : Step rules s e s' := by
  cases e with
  | offer item =>
      simp only [step, Option.ite_none_right_eq_some] at hstep
      obtain ⟨hroom, heq⟩ := hstep
      cases heq
      exact .offer item hroom
  | receive =>
      simp only [step, receive] at hstep
      split at hstep
      case h_1 => cases hstep
      case h_2 item rest hinbox =>
        cases hstep
        exact .receive item rest hinbox
  | acquire k =>
      simp only [step, acquire] at hstep
      split at hstep
      case h_2 => cases hstep
      case h_1 item htask =>
        simp only [Option.ite_none_right_eq_some] at hstep
        obtain ⟨hfree, heq⟩ := hstep
        cases heq
        simpa using Step.task k item _ _ _ [] htask (.acquire hfree)
  | reply k r =>
      simp only [step, reply] at hstep
      split at hstep
      case h_2 => cases hstep
      case h_1 item replies htask =>
        split at hstep <;> cases hstep
        case h_1 hnone => simpa using Step.task k item _ _ _ [] htask (.again replies r hnone)
        case h_2 outputs hsome =>
          simpa using Step.task k item _ _ _ [] htask (.answered replies r outputs hsome)
  | send k =>
      simp only [step, send] at hstep
      split at hstep
      case h_2 => cases hstep
      case h_1 item replies output rest htask =>
        simp only [Option.ite_none_right_eq_some] at hstep
        obtain ⟨hroom, heq⟩ := hstep
        cases heq
        exact Step.task k item _ _ _ [output] htask (.send replies output rest hroom)
  | finish k =>
      simp only [step, finish] at hstep
      split at hstep
      case h_2 => cases hstep
      case h_1 item replies htask =>
        cases hstep
        simpa using Step.task k item _ _ _ [] htask (.finish replies)
  | consume channel =>
      simp only [step, consume] at hstep
      split at hstep
      case h_1 => cases hstep
      case h_2 output later hwaiting =>
        cases hstep
        exact .consume channel output later hwaiting

theorem getElem?_setPhase {k j : Nat} {phase : PoolPhase ρ ω} {task : PoolTask ι ρ ω}
    (hj : (s.setPhase k phase)[j]? = some task) :
    j ≠ k ∧ s.tasks[j]? = some task ∨
      j = k ∧ ∃ before, s.tasks[j]? = some before ∧ task = { before with phase := phase } := by
  rw [setPhase, List.getElem?_modify] at hj
  split at hj
  case isTrue heq =>
    obtain ⟨before, hbefore, rfl⟩ := Option.map_eq_some_iff.mp hj
    exact .inr ⟨heq.symm, before, hbefore, rfl⟩
  case isFalse hne =>
    obtain ⟨before, hbefore, rfl⟩ := Option.map_eq_some_iff.mp hj
    exact .inl ⟨fun h => hne h.symm, hbefore⟩

/-! ## Permits -/

theorem running_setPhase {k : Nat} {task : PoolTask ι ρ ω} (htask : s.tasks[k]? = some task)
    (phase : PoolPhase ρ ω) (outbox : List ω) :
    ({ s with tasks := s.setPhase k phase, outbox := outbox } : Pool ι ρ ω).running +
        task.phase.holdsPermit.toNat = s.running + phase.holdsPermit.toNat :=
  countP_modify (fun task : PoolTask ι ρ ω => task.phase.holdsPermit) _ htask

theorem running_le_step (hstep : s.step rules e = some s') (hs : s.running ≤ rules.permits) :
    s'.running ≤ rules.permits := by
  cases step_cases hstep with
  | offer => exact hs
  | consume => exact hs
  | receive item rest hinbox =>
      simp only [running]
      split
      · simpa [running, List.countP_append, PoolPhase.holdsPermit] using hs
      · exact hs
  | task k item e before after sent htask hmove =>
      have hcount := running_setPhase htask after (s.outbox ++ sent)
      cases hmove with
      | acquire hfree =>
          simp only [PoolPhase.holdsPermit, Bool.toNat_true, Bool.toNat_false] at hcount
          omega
      | _ =>
          simp only [PoolPhase.holdsPermit, Bool.toNat_true, Bool.toNat_false] at hcount
          omega

/-! ## Items -/

def offered (_ : Pool ι ρ ω) (e : PoolEvent ι ρ κ) (_ : Pool ι ρ ω) : List ι := e.offered?.toList

def Received (rules : PoolRules ι ρ ω κ) (s : Pool ι ρ ω) (items : List ι) : Prop :=
  ∃ taken, items = taken ++ s.inbox ∧ s.tasks.map PoolTask.item = taken.filter rules.accepts

@[simp] theorem items_setPhase (k : Nat) (phase : PoolPhase ρ ω) :
    (s.setPhase k phase).map PoolTask.item = s.tasks.map PoolTask.item := by
  refine List.ext_getElem? fun j => ?_
  rw [List.getElem?_map, List.getElem?_map, setPhase, List.getElem?_modify]
  split <;> simp [Function.comp_def]

theorem received_step {items : List ι} (hstep : s.step rules e = some s')
    (hs : s.Received rules items) : s'.Received rules (items ++ offered s e s') := by
  obtain ⟨taken, hitems, htasks⟩ := hs
  cases step_cases hstep with
  | offer item =>
      exact ⟨taken, by simp [offered, PoolEvent.offered?, hitems], htasks⟩
  | receive item rest hinbox =>
      refine ⟨taken ++ [item], by simp [offered, PoolEvent.offered?, hitems, hinbox], ?_⟩
      cases haccepts : rules.accepts item <;> simp [haccepts, htasks]
  | task k item e before after sent htask hmove =>
      have hnone : e.offered? = none := by cases hmove <;> rfl
      refine ⟨taken, by simp [offered, hnone, hitems], ?_⟩
      rw [items_setPhase]
      exact htasks
  | consume => exact ⟨taken, by simp [offered, PoolEvent.offered?, hitems], htasks⟩

/-! ## Outputs -/

def sends (s : Pool ι ρ ω) (e : PoolEvent ι ρ κ) (_ : Pool ι ρ ω) : List (Nat × ω) :=
  match e with
  | .send k =>
      match s.tasks[k]? with
      | some ⟨_, .sending _ (output :: _)⟩ => [(k, output)]
      | _ => []
  | _ => []

def sentBy (k : Nat) (sent : List (Nat × ω)) : List ω :=
  (sent.filter fun entry => entry.1 == k).map Prod.snd

end Pool

structure PoolRules.Settles (rules : PoolRules ι ρ ω κ) (item : ι) (replies : List ρ)
    (outputs : List ω) : Prop where
  answered : rules.answer item replies = some outputs
  asked : ∀ n < replies.length, 0 < n → rules.answer item (replies.take n) = none

def PoolTask.Sent (rules : PoolRules ι ρ ω κ) (task : PoolTask ι ρ ω) (sent : List ω) : Prop :=
  match task.phase with
  | .waiting => sent = []
  | .working replies => sent = [] ∧
      ∀ n ≤ replies.length, 0 < n → rules.answer task.item (replies.take n) = none
  | .sending replies rest => rules.Settles task.item replies (sent ++ rest)
  | .done replies => rules.Settles task.item replies sent

namespace Pool

variable [DecidableEq κ] {rules : PoolRules ι ρ ω κ} {s s' t : Pool ι ρ ω} {e : PoolEvent ι ρ κ}

structure Delivered (rules : PoolRules ι ρ ω κ) (s : Pool ι ρ ω) (sent : List (Nat × ω)) :
    Prop where
  tasks : ∀ (k : Nat) (task : PoolTask ι ρ ω), s.tasks[k]? = some task →
    task.Sent rules (sentBy k sent)
  senders : ∀ entry ∈ sent, entry.1 < s.tasks.length

@[simp] theorem sentBy_append (k : Nat) (sent later : List (Nat × ω)) :
    sentBy k (sent ++ later) = sentBy k sent ++ sentBy k later := by
  simp [sentBy]

theorem sends_of_move {k : Nat} {item : ι} {before after : PoolPhase ρ ω} {sent : List ω}
    (htask : s.tasks[k]? = some ⟨item, before⟩)
    (hmove : TaskMove rules s k item e before after sent) (s' : Pool ι ρ ω) :
    sends s e s' = sent.map fun output => (k, output) := by
  cases hmove <;> simp [sends, htask]

@[simp] theorem sentBy_self (k : Nat) (sent : List ω) :
    sentBy k (sent.map fun output => (k, output)) = sent := by
  simp [sentBy, List.filter_map, Function.comp_def]

@[simp] theorem sentBy_other {k j : Nat} (hne : j ≠ k) (sent : List ω) :
    sentBy j (sent.map fun output => (k, output)) = [] := by
  simp [sentBy, List.filter_map, Function.comp_def, hne.symm]

theorem sent_move {k : Nat} {item : ι} {before after : PoolPhase ρ ω} {sent outputs : List ω}
    (hmove : TaskMove rules s k item e before after sent)
    (hsent : (⟨item, before⟩ : PoolTask ι ρ ω).Sent rules outputs) :
    (⟨item, after⟩ : PoolTask ι ρ ω).Sent rules (outputs ++ sent) := by
  cases hmove with
  | acquire =>
      refine ⟨by simpa [PoolTask.Sent] using hsent, fun n hn hpos => ?_⟩
      simp only [List.length_nil] at hn
      omega
  | again replies r hnone =>
      obtain ⟨hempty, hasked⟩ := hsent
      refine ⟨by simpa using hempty, fun n hn hpos => ?_⟩
      rw [List.length_append, List.length_singleton] at hn
      by_cases hlast : n ≤ replies.length
      · rw [List.take_append_of_le_length hlast]
        exact hasked n hlast hpos
      · rw [List.take_of_length_le (by simp; omega)]
        exact hnone
  | answered replies r answers hsome =>
      obtain ⟨hempty, hasked⟩ := hsent
      refine ⟨by simpa [hempty] using hsome, fun n hn hpos => ?_⟩
      rw [List.length_append, List.length_singleton] at hn
      have hle : n ≤ replies.length := by omega
      rw [List.take_append_of_le_length hle]
      exact hasked n hle hpos
  | send replies output rest hroom => simpa [PoolTask.Sent, List.append_assoc] using hsent
  | finish replies => simpa [PoolTask.Sent] using hsent

theorem delivered_step {sent : List (Nat × ω)} (hstep : s.step rules e = some s')
    (hs : s.Delivered rules sent) : s'.Delivered rules (sent ++ sends s e s') := by
  cases step_cases hstep with
  | offer item =>
      simp only [sends, List.append_nil]
      exact ⟨hs.tasks, hs.senders⟩
  | consume channel output later hwaiting =>
      simp only [sends, List.append_nil]
      exact ⟨hs.tasks, hs.senders⟩
  | receive item rest hinbox =>
      simp only [sends, List.append_nil]
      split
      case isFalse => exact ⟨hs.tasks, hs.senders⟩
      case isTrue =>
        refine ⟨fun k task htask => ?_, fun entry hentry => ?_⟩
        · rw [List.getElem?_append] at htask
          split at htask
          case isTrue => exact hs.tasks k task htask
          case isFalse hlength =>
            have hnew : task = ⟨item, .waiting⟩ := by
              have hmem := List.mem_of_getElem? htask
              simpa using hmem
            subst hnew
            have hfresh : sentBy k sent = [] := by
              simp only [sentBy, List.map_eq_nil_iff, List.filter_eq_nil_iff, beq_iff_eq]
              intro entry hentry heq
              have := hs.senders entry hentry
              omega
            exact hfresh
        · have := hs.senders entry hentry
          rw [List.length_append]
          omega
  | task k item e before after new htask hmove =>
      rw [sends_of_move htask hmove]
      refine ⟨fun j task hj => ?_, fun entry hentry => ?_⟩
      · rw [sentBy_append]
        obtain ⟨hne, hj⟩ | ⟨rfl, before', hbefore, rfl⟩ := getElem?_setPhase hj
        · rw [sentBy_other hne, List.append_nil]
          exact hs.tasks j task hj
        · cases htask.symm.trans hbefore
          rw [sentBy_self]
          exact sent_move hmove (hs.tasks j _ htask)
      · rw [setPhase, List.length_modify]
        rcases List.mem_append.mp hentry with hold | hnew
        · exact hs.senders entry hold
        · obtain ⟨output, -, rfl⟩ := List.mem_map.mp hnew
          exact (List.getElem?_eq_some_iff.mp htask).1

/-! ## Channels -/

/-- The output that a step takes from a channel. -/
def taken (rules : PoolRules ι ρ ω κ) (channel : κ) (s : Pool ι ρ ω) (e : PoolEvent ι ρ κ)
    (_ : Pool ι ρ ω) : List ω :=
  match e with
  | .consume other =>
      if other = channel then (s.waitingIn rules channel).head?.toList else []
  | _ => []

/-- The outputs among those sent that go into a channel. -/
def sentOn (rules : PoolRules ι ρ ω κ) (channel : κ) (sent : List (Nat × ω)) : List ω :=
  (sent.map Prod.snd).filter fun output => rules.channel output == channel

theorem filter_eraseP {α : Type*} {check erased : α → Bool} {xs : List α}
    (h : ∀ x ∈ xs, erased x = true → check x = false) :
    (xs.eraseP erased).filter check = xs.filter check := by
  induction xs with
  | nil => rfl
  | cons x xs ih =>
      have hrest := ih fun y hy => h y (List.mem_cons_of_mem x hy)
      cases herased : erased x with
      | true => simp [herased, h x List.mem_cons_self herased]
      | false => cases hcheck : check x <;> simp [herased, hcheck, hrest]

theorem filter_eraseP_self {α : Type*} (check : α → Bool) (xs : List α) :
    (xs.eraseP check).filter check = (xs.filter check).tail := by
  induction xs with
  | nil => rfl
  | cons x xs ih => cases hcheck : check x <;> simp [hcheck, ih]

theorem channel_step (channel : κ) (hstep : s.step rules e = some s') :
    s.waitingIn rules channel ++ sentOn rules channel (sends s e s') =
      taken rules channel s e s' ++ s'.waitingIn rules channel := by
  cases step_cases hstep with
  | offer item => simp [sends, taken, sentOn, waitingIn]
  | receive item rest hinbox => simp [sends, taken, sentOn, waitingIn]
  | task k item e before after sent htask hmove =>
      have htaken : taken rules channel s e
          { s with tasks := s.setPhase k after, outbox := s.outbox ++ sent } = [] := by
        cases hmove <;> rfl
      rw [htaken, sends_of_move htask hmove]
      simp [sentOn, waitingIn, Function.comp_def]
  | consume other output later hwaiting =>
      simp only [sends, sentOn, List.map_nil, List.filter_nil, List.append_nil, taken]
      split
      case isTrue heq =>
        subst heq
        simp only [waitingIn] at hwaiting ⊢
        rw [filter_eraseP_self, hwaiting]
        rfl
      case isFalse hne =>
        rw [List.nil_append, waitingIn, waitingIn, filter_eraseP]
        intro x _ hx
        rw [beq_iff_eq] at hx
        exact beq_false_of_ne (hx ▸ hne)

theorem channel_run {allowed : Pool ι ρ ω → PoolEvent ι ρ κ → Prop} (channel : κ)
    {events : List (PoolEvent ι ρ κ)} (hrun : Run (step rules) allowed s events t) :
    s.waitingIn rules channel ++ sentOn rules channel (gather (step rules) sends s events) =
      gather (step rules) (taken rules channel) s events ++ t.waitingIn rules channel := by
  rw [gather_hom (sentOn rules channel) rfl (by simp [sentOn])]
  have hmove (s : Pool ι ρ ω) (e : PoolEvent ι ρ κ) (s' : Pool ι ρ ω)
      (hnext : s.step rules e = some s') := channel_step channel hnext
  exact hrun.conserve hmove

/-! ## Progress -/

def AtRest (s : Pool ι ρ ω) : Prop :=
  s.inbox = [] ∧ s.outbox = [] ∧ ∀ task ∈ s.tasks, task.phase.isDone = true

theorem exists_holder (hrunning : 0 < s.running) :
    ∃ (j : Nat) (task : PoolTask ι ρ ω), s.tasks[j]? = some task ∧
      task.phase.holdsPermit = true := by
  obtain ⟨task, hmem, hholds⟩ := List.countP_pos_iff.mp hrunning
  obtain ⟨j, hj⟩ := List.mem_iff_getElem?.mp hmem
  exact ⟨j, task, hj, hholds⟩

theorem exists_step_of_holder [Nonempty ρ] (hroom : ∀ channel, 0 < rules.outbox channel)
    (houtbox : s.outbox = []) {j : Nat} {task : PoolTask ι ρ ω} (hj : s.tasks[j]? = some task)
    (hholds : task.phase.holdsPermit = true) :
    ∃ e, e.offered? = none ∧ (s.step rules e).isSome = true := by
  obtain ⟨item, phase⟩ := task
  cases phase with
  | waiting => cases hholds
  | done replies => cases hholds
  | working replies =>
      obtain ⟨r⟩ := ‹Nonempty ρ›
      refine ⟨.reply j r, rfl, ?_⟩
      simp only [step, reply, hj]
      split <;> rfl
  | sending replies rest =>
      cases rest with
      | nil => exact ⟨.finish j, rfl, by simp only [step, finish, hj, Option.isSome_some]⟩
      | cons output rest =>
          have hfits : (s.waitingIn rules (rules.channel output)).length <
              rules.outbox (rules.channel output) := by
            rw [waitingIn, houtbox]
            exact hroom _
          exact ⟨.send j, rfl, by simp only [step, send, hj, if_pos hfits, Option.isSome_some]⟩

theorem exists_step [Nonempty ρ] (hpermits : 0 < rules.permits)
    (hroom : ∀ channel, 0 < rules.outbox channel) (hbusy : ¬ s.AtRest) :
    ∃ e, e.offered? = none ∧ (s.step rules e).isSome = true := by
  cases houtbox : s.outbox with
  | cons output later =>
      refine ⟨.consume (rules.channel output), rfl, ?_⟩
      simp [step, consume, waitingIn, houtbox]
  | nil =>
      cases hinbox : s.inbox with
      | cons item rest => exact ⟨.receive, rfl, by simp [step, receive, hinbox]⟩
      | nil =>
          have hwaits : ∃ task ∈ s.tasks, task.phase.isDone = false := by
            by_contra hnone
            refine hbusy ⟨hinbox, houtbox, fun task hmem => ?_⟩
            by_contra hdone
            exact hnone ⟨task, hmem, by simpa using hdone⟩
          obtain ⟨task, hmem, hdone⟩ := hwaits
          obtain ⟨k, hk⟩ := List.mem_iff_getElem?.mp hmem
          cases hholds : task.phase.holdsPermit with
          | true => exact exists_step_of_holder hroom houtbox hk hholds
          | false =>
              obtain ⟨item, phase⟩ := task
              cases phase with
              | working | sending => cases hholds
              | done => cases hdone
              | waiting =>
                  by_cases hfree : s.running < rules.permits
                  · exact ⟨.acquire k, rfl, by simp [step, acquire, hk, hfree]⟩
                  · have hfull : 0 < s.running := by omega
                    obtain ⟨j, holder, hj, hholder⟩ := exists_holder hfull
                    exact exists_step_of_holder hroom houtbox hj hholder

end Pool

structure PoolRules.Bounded (rules : PoolRules ι ρ ω κ) (attempts most : Nat) : Prop where
  final : ∀ item replies, attempts ≤ replies.length → (rules.answer item replies).isSome = true
  short : ∀ item replies outputs, rules.answer item replies = some outputs →
    outputs.length ≤ most

theorem PoolRules.Settles.length_le {rules : PoolRules ι ρ ω κ} {attempts most : Nat} {item : ι}
    {replies : List ρ} {outputs : List ω} (hbounded : rules.Bounded attempts most)
    (hpos : 0 < attempts) (hsettles : rules.Settles item replies outputs) :
    replies.length ≤ attempts := by
  by_contra hmore
  have hnone := hsettles.asked attempts (not_le.mp hmore) hpos
  have hlength : attempts ≤ (replies.take attempts).length := by
    rw [List.length_take]
    omega
  have hsome := hbounded.final item _ hlength
  rw [hnone] at hsome
  cases hsome

def PoolPhase.rank (attempts most : Nat) : PoolPhase ρ ω → Nat
  | .waiting => attempts + 2 * most + 3
  | .working replies => attempts - replies.length + 2 * most + 2
  | .sending _ rest => 2 * rest.length + 1
  | .done _ => 0

namespace Pool

variable [DecidableEq κ] {rules : PoolRules ι ρ ω κ} {s s' t : Pool ι ρ ω} {e : PoolEvent ι ρ κ}
  {attempts most : Nat}

def rank (attempts most : Nat) (s : Pool ι ρ ω) : Nat :=
  s.inbox.length * (attempts + 2 * most + 4) +
    (s.tasks.map fun task => task.phase.rank attempts most).sum + s.outbox.length

theorem rank_move {k : Nat} {item : ι} {before after : PoolPhase ρ ω} {sent : List ω}
    (hbounded : rules.Bounded attempts most)
    (hmove : TaskMove rules s k item e before after sent) :
    after.rank attempts most + sent.length + 1 ≤ before.rank attempts most := by
  cases hmove with
  | acquire => simp [PoolPhase.rank]
  | again replies r hnone =>
      have hmore : (replies ++ [r]).length < attempts := by
        by_contra hle
        have hsome := hbounded.final item _ (not_lt.mp hle)
        rw [hnone] at hsome
        cases hsome
      simp only [PoolPhase.rank, List.length_nil]
      rw [List.length_append, List.length_singleton] at hmore ⊢
      omega
  | answered replies r outputs hsome =>
      have hshort := hbounded.short item _ _ hsome
      simp only [PoolPhase.rank, List.length_nil]
      omega
  | send replies output rest hroom =>
      simp only [PoolPhase.rank, List.length_cons, List.length_nil]
      omega
  | finish replies => simp [PoolPhase.rank]

theorem rank_step (hbounded : rules.Bounded attempts most) (hstep : s.step rules e = some s')
    (hquiet : e.offered? = none) : s'.rank attempts most + 1 ≤ s.rank attempts most := by
  cases step_cases hstep with
  | offer item => cases hquiet
  | receive item rest hinbox =>
      simp only [rank, hinbox, List.length_cons, Nat.succ_mul]
      split
      · simp only [List.map_append, List.sum_append, List.map_cons, List.map_nil,
          List.sum_singleton, PoolPhase.rank]
        omega
      · omega
  | task k item e before after sent htask hmove =>
      have hsum := sum_map_modify (fun task : PoolTask ι ρ ω => task.phase.rank attempts most)
        (fun task => { task with phase := after }) htask
      have hrank := rank_move hbounded hmove
      simp only [rank, setPhase, List.length_append]
      dsimp only at hsum
      omega
  | consume channel output later hwaiting =>
      have hmem : output ∈ s.waitingIn rules channel := by
        rw [hwaiting]
        exact List.mem_cons_self
      obtain ⟨hin, hchannel⟩ := List.mem_filter.mp hmem
      have hpos := List.length_pos_of_mem hin
      simp only [rank]
      rw [List.length_eraseP_of_mem hin hchannel]
      omega

theorem length_le_rank (hbounded : rules.Bounded attempts most)
    {events : List (PoolEvent ι ρ κ)}
    (hrun : Run (step rules) (fun _ e => e.offered? = none) s events t) :
    events.length + t.rank attempts most ≤ s.rank attempts most := by
  induction hrun with
  | nil => simp
  | cons hquiet hnext _ ih =>
      have hstep := rank_step hbounded hnext hquiet
      rw [List.length_cons]
      omega

end Pool

end Girasol.Foundation
