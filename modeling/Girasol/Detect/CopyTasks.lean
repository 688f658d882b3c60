import Girasol.Detect.Raydium
import Girasol.Foundation.Pool

/-!
# The tasks of the copy engine

`run_copy_engine` starts a task for every notification that looks like a trade.
A semaphore bounds how many of them ask the RPC at a time, and each sends the
signals of its transaction into the channels of the bot.
-/

namespace Girasol.CopyEngine

open Foundation

def maxConcurrentRpc : Nat := 8

def retryDelaysMs : List Nat := [200, 500, 1000]

def wsCapacity : Nat := 1000

def signalCapacity : Nat := 100

inductive SignalChannel where
  | buys
  | sells
  deriving DecidableEq, Repr

def signalChannel : Signal → SignalChannel
  | .buy _ => .buys
  | .sell _ => .sells

structure Engine where
  platform : Platform
  hash : HashOrder
  targetWallet : String
  sellDetect : Bool
  parseJson : String → Option Json
  render : Json → String

namespace Engine

variable (engine : Engine)

/-- The notification of a message that is worth fetching its transaction. -/
def trade (message : String) : Option LogsNotification :=
  ((engine.parseJson message).bind parseLogsNotification).filter accepted

def isTrade (message : String) : Bool := (engine.trade message).isSome

def signalsIn (notif : LogsNotification) (result : Json) : List Signal :=
  let keys := extractAccountKeys result
  if keys.isEmpty then []
  else
    let trades :=
      (parseTransaction engine.platform engine.hash result keys engine.targetWallet).2
    (signals engine.sellDetect notif trades).map Emission.signal

/-- The last reply decides, unless it is a rate limit that leaves another attempt. -/
def answer (message : String) (replies : List HttpReply) : Option (List Signal) :=
  match replies.getLast? with
  | none => none
  | some reply =>
      match transactionResult engine.render reply with
      | .ok result =>
          some ((engine.trade message).toList.flatMap fun notif => engine.signalsIn notif result)
      | .error e =>
          if isRateLimit e && decide (replies.length ≤ retryDelaysMs.length) then none
          else some []

def rules : PoolRules String HttpReply Signal SignalChannel where
  inbox := wsCapacity
  permits := maxConcurrentRpc
  outbox := fun _ => signalCapacity
  accepts := engine.isTrade
  answer := engine.answer
  channel := signalChannel

/-- What the listener sends for a message, given the replies to its attempts. -/
def signalsOf (message : String) (replies : List HttpReply) : List Signal :=
  match engine.parseJson message with
  | none => []
  | some json => (detectSignals engine.platform engine.hash engine.targetWallet engine.sellDetect
      engine.render json replies).map Prod.snd

end Engine

/-! ## Answers -/

variable {engine : Engine} {message : String} {replies : List HttpReply} {outputs : List Signal}

private theorem length_signals_le (sellDetect : Bool) (notif : LogsNotification)
    (trades : ParsedTransaction) : (signals sellDetect notif trades).length ≤ 2 := by
  have htoList {α : Type} (x : Option α) : x.toList.length ≤ 1 := by cases x <;> simp
  have hbuy := htoList trades.buy
  have hsell := htoList trades.sell
  simp only [signals, List.length_append, List.length_map]
  split
  · rw [List.length_map]
    omega
  · rw [List.length_nil]
    omega

private theorem length_signalsIn_le (notif : LogsNotification) (result : Json) :
    (engine.signalsIn notif result).length ≤ 2 := by
  simp only [Engine.signalsIn]
  split
  · exact Nat.zero_le 2
  · rw [List.length_map]
    exact length_signals_le _ _ _

theorem answer_bounded (engine : Engine) : engine.rules.Bounded 4 2 where
  final := by
    intro message replies hlength
    have hlast : ¬ replies.length ≤ retryDelaysMs.length := by
      simp only [retryDelaysMs, List.length_cons, List.length_nil]
      omega
    cases hreply : replies.getLast? with
    | none =>
        rw [List.getLast?_eq_none_iff.mp hreply, List.length_nil] at hlength
        omega
    | some reply =>
        simp only [Engine.rules, Engine.answer, hreply, hlast]
        split <;> simp
  short := by
    intro message replies outputs hanswer
    simp only [Engine.rules, Engine.answer] at hanswer
    split at hanswer
    · cases hanswer
    · split at hanswer
      · cases hanswer
        cases engine.trade message with
        | none => exact Nat.zero_le 2
        | some notif => simpa using length_signalsIn_le notif _
      · split at hanswer <;> cases hanswer
        exact Nat.zero_le 2

private theorem fetchWithRetry_append {render : Json → String} {earlier : List HttpReply}
    (hlimited : ∀ reply ∈ earlier, ∃ e, transactionResult render reply = .error e ∧
      isRateLimit e = true) (last : HttpReply) :
    fetchWithRetry render (earlier ++ [last]) = transactionResult render last := by
  induction earlier with
  | nil => rfl
  | cons reply earlier ih =>
      obtain ⟨e, herror, hlimit⟩ := hlimited reply List.mem_cons_self
      have hrest := ih fun r hr => hlimited r (List.mem_cons_of_mem reply hr)
      obtain ⟨next, more, hmore⟩ : ∃ next more, earlier ++ [last] = next :: more := by
        cases earlier with
        | nil => exact ⟨last, [], rfl⟩
        | cons next more => exact ⟨next, more ++ [last], rfl⟩
      rw [hmore] at hrest
      rw [List.cons_append, hmore]
      simp only [fetchWithRetry, herror, hlimit, if_true]
      exact hrest

private theorem limited_of_answer {reply : HttpReply} {earlier : List HttpReply}
    (hnone : engine.answer message (earlier ++ [reply]) = none) :
    ∃ e, transactionResult engine.render reply = .error e ∧ isRateLimit e = true := by
  simp only [Engine.answer, List.getLast?_concat] at hnone
  split at hnone
  · cases hnone
  case h_2 e herror =>
    split at hnone
    case isTrue hlimit =>
      rw [Bool.and_eq_true] at hlimit
      exact ⟨e, herror, hlimit.1⟩
    case isFalse => cases hnone

private theorem exists_of_isTrade (htrade : engine.isTrade message = true) :
    ∃ json notif, engine.parseJson message = some json ∧ parseLogsNotification json = some notif ∧
      accepted notif = true ∧ engine.trade message = some notif := by
  obtain ⟨notif, hnotif⟩ := Option.isSome_iff_exists.mp htrade
  obtain ⟨hbind, haccepted⟩ := Option.filter_eq_some_iff.mp hnotif
  obtain ⟨json, hjson, hparse⟩ := Option.bind_eq_some_iff.mp hbind
  exact ⟨json, notif, hjson, hparse, haccepted, hnotif⟩

private theorem fetchWithRetry_of_settles
    (hsettles : engine.rules.Settles message replies outputs) :
    ∃ last, replies.getLast? = some last ∧
      fetchWithRetry engine.render replies = transactionResult engine.render last := by
  obtain rfl | ⟨earlier, last, rfl⟩ := List.eq_nil_or_concat' replies
  · have hnone : engine.answer message [] = some outputs := hsettles.answered
    cases hnone
  · refine ⟨last, List.getLast?_concat, fetchWithRetry_append (fun reply hmem => ?_) last⟩
    obtain ⟨n, hn, rfl⟩ := List.mem_iff_getElem.mp hmem
    have hasked := hsettles.asked (n + 1)
      (by rw [List.length_append, List.length_singleton]; omega) (Nat.succ_pos n)
    rw [List.take_append_of_le_length (by omega), List.take_succ_eq_append_getElem hn] at hasked
    exact limited_of_answer hasked

theorem signalsOf_of_settles (htrade : engine.isTrade message = true)
    (hsettles : engine.rules.Settles message replies outputs) :
    engine.signalsOf message replies = outputs := by
  obtain ⟨json, notif, hjson, hparse, haccepted, hnotif⟩ := exists_of_isTrade htrade
  obtain ⟨last, hlast, hfetch⟩ := fetchWithRetry_of_settles hsettles
  have hanswer : engine.answer message replies = some outputs := hsettles.answered
  simp only [Engine.answer, hlast, hnotif] at hanswer
  simp only [Engine.signalsOf, hjson, detectSignals, hparse, haccepted, if_true, fetched, hfetch]
  cases hresult : transactionResult engine.render last with
  | error e =>
      simp only [hresult] at hanswer
      split at hanswer <;> cases hanswer
      rfl
  | ok result =>
      simp only [hresult, Option.toList_some, List.flatMap_cons, List.flatMap_nil,
        List.append_nil, Option.some.injEq] at hanswer
      rw [← hanswer, Engine.signalsIn]
      cases hempty : (extractAccountKeys result).isEmpty with
      | true => simp only [hempty, if_true, List.map_nil]
      | false =>
          simp only [hempty, Bool.false_eq_true, if_false, List.map_map]
          rfl

/-! ## Runs -/

/-- What the tasks have sent in a run. -/
def sentIn (engine : Engine) (events : List (PoolEvent String HttpReply SignalChannel)) :
    List (Nat × Signal) :=
  gather (Pool.step engine.rules) Pool.sends Pool.empty events

/-- What the bot has received through a channel in a run. -/
def receivedFrom (engine : Engine) (channel : SignalChannel)
    (events : List (PoolEvent String HttpReply SignalChannel)) : List Signal :=
  gather (Pool.step engine.rules) (Pool.taken engine.rules channel) Pool.empty events

/-- A task sends the signals of its message in order, all of them before it is done. -/
def TaskReports (engine : Engine) (task : PoolTask String HttpReply Signal)
    (sent : List Signal) : Prop :=
  engine.isTrade task.item = true ∧ ∃ replies, replies.length ≤ 4 ∧
    sent <+: engine.signalsOf task.item replies ∧
    (task.phase.isDone = true → sent = engine.signalsOf task.item replies)

private theorem taskReports_of_sent {task : PoolTask String HttpReply Signal} {sent : List Signal}
    (htrade : engine.isTrade task.item = true) (hsent : task.Sent engine.rules sent) :
    TaskReports engine task sent := by
  obtain ⟨item, phase⟩ := task
  refine ⟨htrade, ?_⟩
  cases phase with
  | waiting =>
      cases hsent
      exact ⟨[], Nat.zero_le 4, List.nil_prefix, fun hdone => nomatch hdone⟩
  | working replies =>
      obtain ⟨rfl, -⟩ := hsent
      exact ⟨[], Nat.zero_le 4, List.nil_prefix, fun hdone => nomatch hdone⟩
  | sending replies rest =>
      have hsettles : engine.rules.Settles item replies (sent ++ rest) := hsent
      refine ⟨replies, hsettles.length_le (answer_bounded engine) (by decide), ?_,
        fun hdone => nomatch hdone⟩
      rw [signalsOf_of_settles htrade hsettles]
      exact List.prefix_append sent rest
  | done replies =>
      have hsettles : engine.rules.Settles item replies sent := hsent
      have hsignals := signalsOf_of_settles htrade hsettles
      exact ⟨replies, hsettles.length_le (answer_bounded engine) (by decide),
        hsignals ▸ List.prefix_refl sent, fun _ => hsignals.symm⟩

private theorem gather_offered {s t : Pool String HttpReply Signal}
    {events : List (PoolEvent String HttpReply SignalChannel)}
    (hrun : Run (Pool.step engine.rules) (fun _ _ => True) s events t) :
    gather (Pool.step engine.rules) Pool.offered s events =
      events.filterMap PoolEvent.offered? := by
  rw [List.filterMap_eq_flatMap_toList]
  exact hrun.gather_events

/--
In every interleaving of messages, replies, sends and receives: at most eight
tasks ask the RPC, a task is there for every trade in the order of the messages,
each sends the signals of its message in order and nothing else, the channels
lose and invent nothing, and without new messages everything is delivered.
-/
theorem copy_tasks_report (engine : Engine)
    (events : List (PoolEvent String HttpReply SignalChannel)) (t : Pool String HttpReply Signal)
    (hrun : Run (Pool.step engine.rules) (fun _ _ => True) .empty events t) :
    t.running ≤ maxConcurrentRpc ∧
    (∃ taken, events.filterMap PoolEvent.offered? = taken ++ t.inbox ∧
      t.tasks.map PoolTask.item = taken.filter engine.isTrade) ∧
    (∀ (k : Nat) (task : PoolTask String HttpReply Signal), t.tasks[k]? = some task →
      TaskReports engine task (Pool.sentBy k (sentIn engine events))) ∧
    (∀ channel, Pool.sentOn engine.rules channel (sentIn engine events) =
      receivedFrom engine channel events ++ t.waitingIn engine.rules channel) ∧
    (¬ t.AtRest → ∃ e, e.offered? = none ∧ (t.step engine.rules e).isSome = true) ∧
    ∀ later u, Run (Pool.step engine.rules) (fun _ e => e.offered? = none) t later u →
      later.length ≤ t.rank 4 2 := by
  have hitems : t.Received engine.rules (events.filterMap PoolEvent.offered?) := by
    have hempty : (Pool.empty : Pool String HttpReply Signal).Received engine.rules [] :=
      ⟨[], rfl, rfl⟩
    have hstep (s : Pool String HttpReply Signal) (e : PoolEvent String HttpReply SignalChannel)
        (s' : Pool String HttpReply Signal) (items : List String)
        (_ : True) (hnext : s.step engine.rules e = some s') (hs : s.Received engine.rules items) :
        s'.Received engine.rules (items ++ Pool.offered s e s') := Pool.received_step hnext hs
    have hgather := hrun.invariant_gather hstep hempty
    rwa [List.nil_append, gather_offered hrun] at hgather
  have hsent : t.Delivered engine.rules (sentIn engine events) := by
    have hempty : (Pool.empty : Pool String HttpReply Signal).Delivered engine.rules [] :=
      ⟨fun _ _ h => (nomatch h), fun _ h => (nomatch h)⟩
    have hstep (s : Pool String HttpReply Signal) (e : PoolEvent String HttpReply SignalChannel)
        (s' : Pool String HttpReply Signal) (sent : List (Nat × Signal))
        (_ : True) (hnext : s.step engine.rules e = some s') (hs : s.Delivered engine.rules sent) :
        s'.Delivered engine.rules (sent ++ Pool.sends s e s') := Pool.delivered_step hnext hs
    exact hrun.invariant_gather hstep hempty
  refine ⟨?_, hitems, fun k task htask => ?_, fun channel => ?_, fun hbusy => ?_,
    fun later u hlater => ?_⟩
  · exact hrun.invariant (fun _ _ _ _ hstep hs => Pool.running_le_step hstep hs)
      (Nat.zero_le maxConcurrentRpc)
  · obtain ⟨taken, -, htasks⟩ := hitems
    have hmem : task.item ∈ t.tasks.map PoolTask.item :=
      List.mem_map_of_mem (List.mem_of_getElem? htask)
    rw [htasks] at hmem
    exact taskReports_of_sent (List.mem_filter.mp hmem).2 (hsent.tasks k task htask)
  · have hchannel := Pool.channel_run channel hrun
    have hempty : (Pool.empty : Pool String HttpReply Signal).waitingIn engine.rules channel = [] :=
      rfl
    rwa [hempty, List.nil_append] at hchannel
  · have : Nonempty HttpReply := ⟨.tooManyRequests⟩
    exact Pool.exists_step (Nat.zero_lt_succ 7) (fun _ => Nat.zero_lt_succ 99) hbusy
  · have hbound := Pool.length_le_rank (answer_bounded engine) hlater
    omega

end Girasol.CopyEngine
