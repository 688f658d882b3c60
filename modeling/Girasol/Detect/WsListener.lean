import Girasol.Detect.CopyEngine
import Girasol.Send.Concurrent

/-!
# The WebSocket listener

`run_ws_listener` subscribes to the logs of the target wallet and forwards the
notifications to the copy engine.  It pings the server every thirty seconds,
takes ten seconds without a pong for a dead connection, and connects again five
seconds after a session has ended.  Times are milliseconds.
-/

namespace Girasol.WsListener

open Foundation

def pingInterval : Nat := 30000

def pongTimeout : Nat := 10000

def reconnectDelay : Nat := 5000

structure Config where
  parseJson : String → Option Json
  /-- The log level writes the lines of `debug!` too. -/
  debugLog : Bool

def isConfirmation (text : String) : Bool :=
  containsText text "\"result\"" && !containsText text "\"params\""

/-- `&text[..text.len().min(100)]` panics inside a character. -/
def quotable (text : String) : Bool :=
  isCharBoundary text.toList (min (text.toList.map Char.utf8Size).sum 100)

def signatureOf (json : Json) : Option String :=
  (CopyEngine.path ["params", "result", "value", "signature"] json).bind Json.asStr

/-- The lines logged about a text cut its strings only between characters. -/
def Config.logs (cfg : Config) (text : String) : Bool :=
  if isConfirmation text then !cfg.debugLog || quotable text
  else (((cfg.parseJson text).bind signatureOf).map loggable).getD true

inductive WsMessage where
  | text (text : String)
  | pong
  | ping
  /-- A close frame, a read error, or the end of the stream. -/
  | closed
  | other

/-- A pong is waited for exactly while there is a deadline for it. -/
structure Session where
  nextPing : Nat
  pongDeadline : Option Nat

inductive Phase where
  | connecting
  | streaming (session : Session)
  /-- The channel to the copy engine has no room yet. -/
  | forwarding (session : Session) (text : String)
  | reconnecting (after : Nat)
  | panicked

structure Listener where
  now : Nat
  phase : Phase

def Listener.start : Listener := ⟨0, .connecting⟩

/-- What happens to the listener; a flag says whether the call that is made succeeds. -/
inductive WsEvent where
  | wait (ms : Nat)
  | connect (ok : Bool)
  | message (message : WsMessage)
  | forward (ok : Bool)
  | tick (ok : Bool)
  | pongTimeout
  | retry

namespace Listener

variable (cfg : Config) (s : Listener)

def disconnected : Listener := { s with phase := .reconnecting (s.now + reconnectDelay) }

def connect (ok : Bool) : Option Listener :=
  match s.phase with
  | .connecting =>
      some (if ok then { s with phase := .streaming ⟨s.now + pingInterval, none⟩ }
        else s.disconnected)
  | _ => none

def receive (message : WsMessage) : Option Listener :=
  match s.phase with
  | .streaming session =>
      match message with
      | .text text =>
          if !cfg.logs text then some { s with phase := .panicked }
          else if isConfirmation text then some s
          else some { s with phase := .forwarding session text }
      | .pong => some { s with phase := .streaming { session with pongDeadline := none } }
      | .ping | .other => some s
      | .closed => some s.disconnected
  | _ => none

def forward (ok : Bool) : Option Listener :=
  match s.phase with
  | .forwarding session _ =>
      some (if ok then { s with phase := .streaming session } else s.disconnected)
  | _ => none

def tick (ok : Bool) : Option Listener :=
  match s.phase with
  | .streaming session =>
      if session.nextPing ≤ s.now then
        let session := { session with nextPing := session.nextPing + pingInterval }
        match session.pongDeadline with
        | some _ => some { s with phase := .streaming session }
        | none =>
            some (if ok then
                { s with phase := .streaming { session with
                    pongDeadline := some (s.now + WsListener.pongTimeout) } }
              else s.disconnected)
      else none
  | _ => none

def timeOut : Option Listener :=
  match s.phase with
  | .streaming ⟨_, some deadline⟩ => if deadline ≤ s.now then some s.disconnected else none
  | _ => none

def retry : Option Listener :=
  match s.phase with
  | .reconnecting after => if after ≤ s.now then some { s with phase := .connecting } else none
  | _ => none

def step : WsEvent → Option Listener
  | .wait ms => some { s with now := s.now + ms }
  | .connect ok => s.connect ok
  | .message message => s.receive cfg message
  | .forward ok => s.forward ok
  | .tick ok => s.tick ok
  | .pongTimeout => s.timeOut
  | .retry => s.retry

end Listener

/-! ## What a step does -/

/-- Everything that a step can do. -/
inductive Step (cfg : Config) (s : Listener) : WsEvent → Listener → Prop
  | wait (ms : Nat) : Step cfg s (.wait ms) { s with now := s.now + ms }
  | connect : s.phase = .connecting →
      Step cfg s (.connect true) { s with phase := .streaming ⟨s.now + pingInterval, none⟩ }
  | panic (session : Session) (text : String) : s.phase = .streaming session →
      cfg.logs text = false → Step cfg s (.message (.text text)) { s with phase := .panicked }
  | text (session : Session) (text : String) : s.phase = .streaming session →
      cfg.logs text = true → isConfirmation text = false →
      Step cfg s (.message (.text text)) { s with phase := .forwarding session text }
  | pong (session : Session) : s.phase = .streaming session →
      Step cfg s (.message .pong)
        { s with phase := .streaming { session with pongDeadline := none } }
  | forwarded (session : Session) (text : String) : s.phase = .forwarding session text →
      Step cfg s (.forward true) { s with phase := .streaming session }
  | ping (session : Session) : s.phase = .streaming session → session.nextPing ≤ s.now →
      session.pongDeadline = none →
      Step cfg s (.tick true) { s with
        phase := .streaming
          ⟨session.nextPing + pingInterval, some (s.now + WsListener.pongTimeout)⟩ }
  | skip (session : Session) (ok : Bool) (deadline : Nat) : s.phase = .streaming session →
      session.nextPing ≤ s.now → session.pongDeadline = some deadline →
      Step cfg s (.tick ok) { s with
        phase := .streaming ⟨session.nextPing + pingInterval, some deadline⟩ }
  | ignore (message : WsMessage) : message ≠ .pong →
      (∀ text, message = .text text → isConfirmation text = true) →
      Step cfg s (.message message) s
  | lost (session : Session) (text : String) : s.phase = .forwarding session text →
      Step cfg s (.forward false) s.disconnected
  | disconnect (e : WsEvent) : (∀ text, e ≠ .message (.text text)) →
      (∀ session text, s.phase ≠ .forwarding session text) → Step cfg s e s.disconnected
  | retry (after : Nat) : s.phase = .reconnecting after → after ≤ s.now →
      Step cfg s .retry { s with phase := .connecting }

namespace Listener

variable {cfg : Config} {s s' t : Listener} {e : WsEvent}

theorem step_cases (hstep : s.step cfg e = some s') : Step cfg s e s' := by
  cases e with
  | wait ms =>
      cases hstep
      exact .wait ms
  | connect ok =>
      simp only [step, connect] at hstep
      split at hstep
      case h_2 => cases hstep
      case h_1 hphase =>
        cases ok <;> cases hstep
        · exact .disconnect _ (by simp) (by simp [hphase])
        · exact .connect hphase
  | message message =>
      simp only [step, receive] at hstep
      split at hstep
      case h_2 => cases hstep
      case h_1 session hphase =>
        cases message with
        | text text =>
            cases hlogs : cfg.logs text with
            | false =>
                simp only [hlogs, Bool.not_false, if_true] at hstep
                cases hstep
                exact .panic session text hphase hlogs
            | true =>
                cases hconfirms : isConfirmation text with
                | true =>
                    simp only [hlogs, hconfirms, Bool.not_true, Bool.false_eq_true, if_false,
                      if_true] at hstep
                    cases hstep
                    exact .ignore _ (by simp) (by simp [hconfirms])
                | false =>
                    simp only [hlogs, hconfirms, Bool.not_true, Bool.false_eq_true, if_false]
                      at hstep
                    cases hstep
                    exact .text session text hphase hlogs hconfirms
        | pong =>
            cases hstep
            exact .pong session hphase
        | closed =>
            cases hstep
            exact .disconnect _ (by simp) (by simp [hphase])
        | ping | other =>
            cases hstep
            exact .ignore _ (by simp) (by simp)
  | forward ok =>
      simp only [step, forward] at hstep
      split at hstep
      case h_2 => cases hstep
      case h_1 session text hphase =>
        cases ok <;> cases hstep
        · exact .lost session text hphase
        · exact .forwarded session text hphase
  | tick ok =>
      simp only [step, tick] at hstep
      split at hstep
      case h_2 => cases hstep
      case h_1 session hphase =>
        split at hstep
        case isFalse => cases hstep
        case isTrue hdue =>
          split at hstep
          case h_1 deadline hdeadline =>
            cases hstep
            simp only [hdeadline]
            exact .skip session ok deadline hphase hdue hdeadline
          case h_2 hnone =>
            cases ok <;> cases hstep
            · exact .disconnect _ (by simp) (by simp [hphase])
            · exact .ping session hphase hdue hnone
  | pongTimeout =>
      simp only [step, timeOut] at hstep
      split at hstep
      case h_2 => cases hstep
      case h_1 hphase =>
        split at hstep <;> cases hstep
        exact .disconnect _ (by simp) (by simp [hphase])
  | retry =>
      simp only [step, retry] at hstep
      split at hstep
      case h_2 => cases hstep
      case h_1 after hphase =>
        split at hstep <;> cases hstep
        case isTrue hafter => exact .retry after hphase hafter

end Listener

/-! ## Keeping the connection alive -/

/-- What can be seen of a session: time passes while it listens or while it is blocked. -/
inductive Sign where
  | connected
  | pinged
  | ponged
  | listened (ms : Nat)
  | blocked (ms : Nat)
  deriving DecidableEq

def signs (s : Listener) (e : WsEvent) (_ : Listener) : List Sign :=
  match e, s.phase with
  | .wait ms, .streaming _ => [.listened ms]
  | .wait ms, .forwarding _ _ => [.blocked ms]
  | .connect true, _ => [.connected]
  | .message .pong, _ => [.ponged]
  | .tick true, .streaming ⟨_, none⟩ => [.pinged]
  | _, _ => []

/-- For how long the session has listened without a pong. -/
def silence (seen : List Sign) : Nat :=
  seen.foldl (fun ms sign => match sign with
    | .connected | .ponged => 0
    | .listened more => ms + more
    | .pinged | .blocked _ => ms) 0

/-- How many pings were sent since the last pong. -/
def unanswered (seen : List Sign) : Nat :=
  seen.foldl (fun pings sign => match sign with
    | .connected | .ponged => 0
    | .pinged => pings + 1
    | .listened _ | .blocked _ => pings) 0

/-- How long ago the last ping was sent. -/
def sincePing (seen : List Sign) : Nat :=
  seen.foldl (fun ms sign => match sign with
    | .pinged => 0
    | .listened more | .blocked more => ms + more
    | .connected | .ponged => ms) 0

def Session.due (session : Session) : Nat :=
  min session.nextPing (session.pongDeadline.getD session.nextPing)

/-- While the session listens, time goes no further than to the next timer. -/
def Punctual (s : Listener) (e : WsEvent) : Prop :=
  match s.phase, e with
  | .streaming session, .wait ms => ms = 0 ∨ s.now + ms ≤ session.due
  | _, _ => True

instance : ∀ s e, Decidable (Punctual s e)
  | ⟨now, .streaming session⟩, .wait ms =>
      inferInstanceAs (Decidable (ms = 0 ∨ now + ms ≤ session.due))
  | ⟨_, .streaming _⟩, .connect _ | ⟨_, .streaming _⟩, .message _ | ⟨_, .streaming _⟩, .forward _
  | ⟨_, .streaming _⟩, .tick _ | ⟨_, .streaming _⟩, .pongTimeout | ⟨_, .streaming _⟩, .retry
  | ⟨_, .connecting⟩, _ | ⟨_, .forwarding _ _⟩, _ | ⟨_, .reconnecting _⟩, _ | ⟨_, .panicked⟩, _ =>
      isTrue trivial

def Listener.session? (s : Listener) : Option Session :=
  match s.phase with
  | .streaming session | .forwarding session _ => some session
  | .connecting | .reconnecting _ | .panicked => none

structure Session.Alive (session : Session) (now : Nat) (seen : List Sign) : Prop where
  nextPing_le : session.nextPing ≤ now + pingInterval
  quiet : session.pongDeadline = none → unanswered seen = 0 ∧
    silence seen + (session.nextPing - now) ≤ pingInterval
  pinged : ∀ deadline, session.pongDeadline = some deadline → unanswered seen = 1 ∧
    now + WsListener.pongTimeout = deadline + sincePing seen ∧
    silence seen + (deadline - now) ≤ pingInterval + WsListener.pongTimeout

def Listener.Alive (s : Listener) (seen : List Sign) : Prop :=
  ∀ session, s.session? = some session → session.Alive s.now seen

@[simp]
theorem silence_concat (seen : List Sign) (sign : Sign) :
    silence (seen ++ [sign]) = match sign with
      | .connected | .ponged => 0
      | .listened ms => silence seen + ms
      | .pinged | .blocked _ => silence seen := by
  rw [silence, List.foldl_append]
  rfl

@[simp]
theorem unanswered_concat (seen : List Sign) (sign : Sign) :
    unanswered (seen ++ [sign]) = match sign with
      | .connected | .ponged => 0
      | .pinged => unanswered seen + 1
      | .listened _ | .blocked _ => unanswered seen := by
  rw [unanswered, List.foldl_append]
  rfl

@[simp]
theorem sincePing_concat (seen : List Sign) (sign : Sign) :
    sincePing (seen ++ [sign]) = match sign with
      | .pinged => 0
      | .listened ms | .blocked ms => sincePing seen + ms
      | .connected | .ponged => sincePing seen := by
  rw [sincePing, List.foldl_append]
  rfl

namespace Session

variable {session : Session} {now : Nat} {seen : List Sign}

theorem Alive.blocked (h : session.Alive now seen) (ms : Nat) :
    session.Alive (now + ms) (seen ++ [.blocked ms]) where
  nextPing_le := by
    have := h.nextPing_le
    omega
  quiet := by
    intro hnone
    obtain ⟨hpings, hsilence⟩ := h.quiet hnone
    simp only [unanswered_concat, silence_concat]
    omega
  pinged := by
    intro deadline hdeadline
    obtain ⟨hpings, hsince, hsilence⟩ := h.pinged deadline hdeadline
    simp only [unanswered_concat, silence_concat, sincePing_concat]
    omega

theorem Alive.listened (h : session.Alive now seen) {ms : Nat}
    (hms : ms = 0 ∨ now + ms ≤ session.due) :
    session.Alive (now + ms) (seen ++ [.listened ms]) where
  nextPing_le := by
    have := h.nextPing_le
    omega
  quiet := by
    intro hnone
    obtain ⟨hpings, hsilence⟩ := h.quiet hnone
    have hdue : session.due = session.nextPing := by simp [due, hnone]
    simp only [unanswered_concat, silence_concat]
    omega
  pinged := by
    intro deadline hdeadline
    obtain ⟨hpings, hsince, hsilence⟩ := h.pinged deadline hdeadline
    have hdue : session.due ≤ deadline := by simp [due, hdeadline]
    simp only [unanswered_concat, silence_concat, sincePing_concat]
    omega

theorem alive_connected (now : Nat) (seen : List Sign) :
    (⟨now + pingInterval, none⟩ : Session).Alive now (seen ++ [.connected]) where
  nextPing_le := le_rfl
  quiet := by
    intro _
    simp only [unanswered_concat, silence_concat, Nat.add_sub_cancel_left, Nat.zero_add]
    exact ⟨trivial, le_rfl⟩
  pinged := by simp

theorem Alive.ponged (h : session.Alive now seen) :
    ({ session with pongDeadline := none } : Session).Alive now (seen ++ [.ponged]) where
  nextPing_le := h.nextPing_le
  quiet := by
    intro _
    simp only [unanswered_concat, silence_concat, Nat.zero_add]
    exact ⟨trivial, Nat.sub_le_iff_le_add'.mpr h.nextPing_le⟩
  pinged := by simp

theorem Alive.ticked (h : session.Alive now seen) (hdue : session.nextPing ≤ now)
    (hnone : session.pongDeadline = none) :
    (⟨session.nextPing + pingInterval, some (now + WsListener.pongTimeout)⟩ : Session).Alive now
      (seen ++ [.pinged]) where
  nextPing_le := Nat.add_le_add_right hdue pingInterval
  quiet := by simp
  pinged := by
    rintro deadline ⟨⟩
    obtain ⟨hpings, hsilence⟩ := h.quiet hnone
    simp only [unanswered_concat, silence_concat, sincePing_concat]
    omega

theorem Alive.skipped (h : session.Alive now seen) (hdue : session.nextPing ≤ now) {deadline : Nat}
    (hdeadline : session.pongDeadline = some deadline) :
    (⟨session.nextPing + pingInterval, some deadline⟩ : Session).Alive now seen where
  nextPing_le := Nat.add_le_add_right hdue pingInterval
  quiet := by simp
  pinged := by
    rintro _ ⟨⟩
    exact h.pinged deadline hdeadline

end Session

namespace Listener

variable {cfg : Config} {s s' t : Listener} {e : WsEvent} {seen : List Sign}

theorem alive_step (hpunctual : Punctual s e) (hstep : s.step cfg e = some s')
    (hs : s.Alive seen) : s'.Alive (seen ++ signs s e s') := by
  intro session hsession
  cases step_cases hstep with
  | wait ms =>
      cases hphase : s.phase with
      | streaming session' =>
          simp only [session?, hphase, Option.some.injEq] at hsession
          subst hsession
          simp only [signs, hphase]
          simp only [Punctual, hphase] at hpunctual
          exact (hs session' (by simp [session?, hphase])).listened hpunctual
      | forwarding session' text =>
          simp only [session?, hphase, Option.some.injEq] at hsession
          subst hsession
          simp only [signs, hphase]
          exact (hs session' (by simp [session?, hphase])).blocked ms
      | connecting | reconnecting _ | panicked =>
          simp only [session?, hphase] at hsession
          cases hsession
  | connect hphase =>
      cases hsession
      exact Session.alive_connected s.now seen
  | panic | lost | disconnect | retry => cases hsession
  | text session' text hphase =>
      cases hsession
      simp only [signs, List.append_nil]
      exact hs session (by simp [session?, hphase])
  | pong session' hphase =>
      cases hsession
      exact (hs session' (by simp [session?, hphase])).ponged
  | forwarded session' text hphase =>
      cases hsession
      simp only [signs, List.append_nil]
      exact hs session (by simp [session?, hphase])
  | ping session' hphase hdue hnone =>
      cases hsession
      obtain ⟨nextPing, pongDeadline⟩ := session'
      cases hnone
      simp only [signs, hphase]
      exact (hs _ (by simp [session?, hphase])).ticked hdue rfl
  | skip session' ok deadline hphase hdue hdeadline =>
      cases hsession
      obtain ⟨nextPing, pongDeadline⟩ := session'
      cases hdeadline
      have hskipped := (hs _ (by simp [session?, hphase])).skipped hdue rfl
      cases ok <;> simpa [signs, hphase] using hskipped
  | ignore message hpong =>
      have hsigns : signs s (.message message) s = [] := by
        cases message with
        | pong => exact absurd rfl hpong
        | text | ping | closed | other => rfl
      rw [hsigns, List.append_nil]
      exact hs session hsession

theorem alive_run {events : List WsEvent}
    (hrun : Run (step cfg) Punctual s events t) (hs : s.Alive seen) :
    t.Alive (seen ++ gather (step cfg) signs s events) := by
  have hstep (s : Listener) (e : WsEvent) (s' : Listener) (seen : List Sign)
      (hpunctual : Punctual s e) (hnext : s.step cfg e = some s') (hs : s.Alive seen) :
      s'.Alive (seen ++ signs s e s') := alive_step hpunctual hnext hs
  exact hrun.invariant_gather hstep hs

private theorem deadline_of_timeOut (htimeOut : s.timeOut.isSome = true) {session : Session}
    (hsession : s.session? = some session) :
    ∃ deadline, session.pongDeadline = some deadline ∧ deadline ≤ s.now := by
  simp only [timeOut] at htimeOut
  split at htimeOut
  case h_2 => cases htimeOut
  case h_1 nextPing deadline hphase =>
    simp only [session?, hphase, Option.some.injEq] at hsession
    subst hsession
    refine ⟨deadline, rfl, ?_⟩
    by_contra hlate
    rw [if_neg hlate] at htimeOut
    cases htimeOut

end Listener

def keepaliveEvents : List WsEvent :=
  [.connect true, .wait 30000, .tick true, .wait 200, .message .pong, .wait 29800, .tick true,
    .wait 10000]

def plainConfig : Config := ⟨fun _ => none, false⟩

end Girasol.WsListener
