import Girasol.Detect.CopyTasks
import Girasol.Detect.Labels
import Girasol.Detect.WsListener

/-!
# From the WebSocket to the channels of the bot

The listener and the copy engine run side by side, with a bounded channel
between them.  A text is forwarded in the moment in which the channel takes it.
-/

namespace Girasol.CopyEngine

open Foundation WsListener

abbrev EngineEvent := PoolEvent String HttpReply SignalChannel

structure WsPath where
  listener : Listener
  pool : Pool String HttpReply Signal

def WsPath.start : WsPath := ⟨.start, .empty⟩

inductive WsPathEvent where
  | listener (e : WsEvent)
  | engine (e : EngineEvent)

section

variable (engine : Engine) (cfg : Config)

/-- The engine only stops with the bot, so that its end of the channel stays open. -/
def WsPath.step (s : WsPath) : WsPathEvent → Option WsPath
  | .listener (.forward false) => none
  | .listener (.forward true) =>
      match s.listener.phase with
      | .forwarding _ text => do
          let pool ← s.pool.step engine.rules (.offer text)
          let listener ← s.listener.forward true
          return ⟨listener, pool⟩
      | _ => none
  | .listener e => (s.listener.step cfg e).map fun listener => { s with listener := listener }
  | .engine (.offer _) => none
  | .engine e => (s.pool.step engine.rules e).map fun pool => { s with pool := pool }

def engineEvents (s : WsPath) (e : WsPathEvent) (_ : WsPath) : List EngineEvent :=
  match e with
  | .engine e => [e]
  | .listener (.forward true) =>
      match s.listener.phase with
      | .forwarding _ text => [.offer text]
      | _ => []
  | .listener _ => []

def notification (e : WsPathEvent) : List String :=
  match e with
  | .listener (.message (.text text)) =>
      if cfg.logs text && !isConfirmation text then [text] else []
  | _ => []

def notifications (events : List WsPathEvent) : List String := events.flatMap (notification cfg)

/-- The events of the engine in a run. -/
def engineRun (events : List WsPathEvent) : List EngineEvent :=
  gather (WsPath.step engine cfg) engineEvents .start events

end

/-- The text that waits for room in the channel. -/
def WsPath.pending (s : WsPath) : List String :=
  match s.listener.phase with
  | .forwarding _ text => [text]
  | .connecting | .streaming _ | .reconnecting _ | .panicked => []

variable {engine : Engine} {cfg : Config} {s s' t : WsPath}

/-- Everything that a step can do, by the parts that take it. -/
inductive PathStep (engine : Engine) (cfg : Config) (s : WsPath) : WsPathEvent → WsPath → Prop
  | engine (e : EngineEvent) (pool : Pool String HttpReply Signal) : e.offered? = none →
      s.pool.step engine.rules e = some pool →
      PathStep engine cfg s (.engine e) { s with pool := pool }
  | forward (session : WsListener.Session) (text : String) (pool : Pool String HttpReply Signal) :
      s.listener.phase = .forwarding session text →
      s.pool.step engine.rules (.offer text) = some pool →
      PathStep engine cfg s (.listener (.forward true))
        ⟨{ s.listener with phase := .streaming session }, pool⟩
  | listener (e : WsEvent) (listener : Listener) : (∀ ok, e ≠ .forward ok) →
      s.listener.step cfg e = some listener →
      PathStep engine cfg s (.listener e) { s with listener := listener }

theorem WsPath.step_cases {e : WsPathEvent} (hstep : s.step engine cfg e = some s') :
    PathStep engine cfg s e s' := by
  cases e with
  | engine e =>
      cases e with
      | offer item => cases hstep
      | receive | acquire | reply | send | finish | consume =>
          obtain ⟨pool, hpool, rfl⟩ := Option.map_eq_some_iff.mp hstep
          exact .engine _ pool rfl hpool
  | listener e =>
      cases e with
      | forward ok =>
          cases ok with
          | false => cases hstep
          | true =>
              simp only [WsPath.step] at hstep
              split at hstep
              case h_2 => cases hstep
              case h_1 session text hphase =>
                simp only [Listener.forward, hphase, Option.bind_eq_bind,
                  Option.bind_eq_some_iff] at hstep
                obtain ⟨pool, hpool, listener, hlistener, heq⟩ := hstep
                cases hlistener
                cases heq
                exact .forward session text pool hphase hpool
      | wait | connect | message | tick | pongTimeout | retry =>
          simp only [WsPath.step] at hstep
          obtain ⟨listener, hlistener, rfl⟩ := Option.map_eq_some_iff.mp hstep
          exact .listener _ listener (by simp) hlistener

/-! ## The engine's part of a run -/

theorem engine_step {e : WsPathEvent} (hstep : s.step engine cfg e = some s') :
    Run (Pool.step engine.rules) (fun _ _ => True) s.pool (engineEvents s e s') s'.pool := by
  cases WsPath.step_cases hstep with
  | engine e pool _ hpool => exact .cons trivial hpool (.nil pool)
  | forward session text pool hphase hpool =>
      simp only [engineEvents, hphase]
      exact .cons trivial hpool (.nil pool)
  | listener e listener hforward hlistener =>
      have hnone : engineEvents s (.listener e) { s with listener := listener } = [] := by
        cases e with
        | forward ok => exact absurd rfl (hforward ok)
        | wait | connect | message | tick | pongTimeout | retry => rfl
      rw [hnone]
      exact .nil s.pool

def handed (s : WsPath) (e : WsPathEvent) (s' : WsPath) : List String :=
  (engineEvents s e s').filterMap PoolEvent.offered?

private theorem pending_listener {e : WsEvent} {listener : Listener}
    (hforward : ∀ ok, e ≠ .forward ok) (hlistener : s.listener.step cfg e = some listener) :
    s.pending ++ notification cfg (.listener e) =
      ({ s with listener := listener } : WsPath).pending := by
  cases Listener.step_cases hlistener with
  | wait ms => simp [WsPath.pending, notification]
  | connect hphase | pong session hphase | retry after hphase =>
      simp [WsPath.pending, notification, hphase]
  | panic session text hphase hlogs => simp [WsPath.pending, notification, hphase, hlogs]
  | text session text hphase hlogs hconfirms =>
      simp [WsPath.pending, notification, hphase, hlogs, hconfirms]
  | forwarded => exact absurd rfl (hforward true)
  | lost => exact absurd rfl (hforward false)
  | ping session hphase | skip session ok deadline hphase =>
      simp [WsPath.pending, notification, hphase]
  | ignore message hpong hconfirms =>
      cases message with
      | text text => simp [notification, hconfirms text rfl]
      | pong | ping | closed | other => simp [notification]
  | disconnect _ hmessage hphase =>
      have hquiet : notification cfg (.listener e) = [] := by
        cases e with
        | message message =>
            cases message with
            | text text => exact absurd rfl (hmessage text)
            | pong | ping | closed | other => rfl
        | wait | connect | forward | tick | pongTimeout | retry => rfl
      have hpending : s.pending = [] := by
        cases hcase : s.listener.phase with
        | forwarding session text => exact absurd hcase (hphase session text)
        | connecting | streaming | reconnecting | panicked => simp [WsPath.pending, hcase]
      rw [hquiet, hpending]
      rfl

theorem handed_step {e : WsPathEvent} (hstep : s.step engine cfg e = some s') :
    s.pending ++ notification cfg e = handed s e s' ++ s'.pending := by
  cases WsPath.step_cases hstep with
  | engine e pool hoffered _ =>
      simp [handed, engineEvents, notification, hoffered, WsPath.pending]
  | forward session text pool hphase _ =>
      simp [handed, engineEvents, notification, hphase, WsPath.pending, PoolEvent.offered?]
  | listener e listener hforward hlistener =>
      have hnone : handed s (.listener e) { s with listener := listener } = [] := by
        cases e with
        | forward ok => exact absurd rfl (hforward ok)
        | wait | connect | message | tick | pongTimeout | retry => rfl
      rw [hnone, List.nil_append]
      exact pending_listener hforward hlistener

theorem notifications_run {events : List WsPathEvent}
    (hrun : Run (WsPath.step engine cfg) (fun _ _ => True) .start events t) :
    notifications cfg events =
      (engineRun engine cfg events).filterMap PoolEvent.offered? ++ t.pending := by
  have hmove (s : WsPath) (e : WsPathEvent) (s' : WsPath)
      (hnext : s.step engine cfg e = some s') := handed_step hnext
  have hconserved := hrun.conserve hmove
  rw [hrun.gather_events] at hconserved
  rw [engineRun, gather_hom (List.filterMap PoolEvent.offered?) rfl (by simp)]
  exact hconserved

def mixedEngine : Engine where
  platform := .plain
  hash := .listed
  targetWallet := encodeBase58 (List.replicate 32 1)
  sellDetect := true
  parseJson := fun text => if text == "mixed" then some mixedMessage else none
  render := fun _ => ""

def mixedConfig : Config := ⟨mixedEngine.parseJson, true⟩

def mixedEvents : List WsPathEvent :=
  [.listener (.connect true), .listener (.message (.text "\"result\": 7")),
    .listener (.message .closed), .listener (.wait 5000), .listener .retry,
    .listener (.connect true), .listener (.message (.text "mixed")), .listener (.forward true),
    .engine .receive, .engine (.acquire 0), .engine (.reply 0 .tooManyRequests),
    .engine (.reply 0 mixedReply), .engine (.send 0), .engine (.finish 0),
    .engine (.consume .buys)]

end Girasol.CopyEngine
