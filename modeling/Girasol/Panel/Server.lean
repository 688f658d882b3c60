import Girasol.Panel.Request

/-!
# Starting the key panel

The start of the panel binds its address and then serves connections itself.
`main` waits for it before it creates the RPC client and spawns the listeners.
-/

namespace Girasol

open Foundation

structure PanelStart where
  bindAddr : String
  /-- `PANEL_AUTH_TOKEN`, where it is set. -/
  authToken : Option String
  bind : Except String Unit

abbrev AcceptResult := Except String (List StreamRead)

/-- The call of `start_panel`: done, or in its loop with the connections handed to tasks. -/
inductive PanelServer where
  | returned (result : Except String Unit)
  | accepting (spawned : List (List StreamRead))

namespace PanelServer

def startPanel (start : PanelStart) : PanelServer :=
  match start.authToken with
  | some t =>
      if 8 ≤ (utf8 (trim t)).length then
        match start.bind with
        | .error e => .returned (.error s!"panel bind {start.bindAddr} failed: {e}")
        | .ok () => .accepting []
      else .returned (.error "PANEL_AUTH_TOKEN is set but too short (min 8 chars)")
  | none => .returned (.ok ())

def acceptNext (accepted : AcceptResult) : PanelServer → PanelServer
  | .returned result => .returned result
  | .accepting spawned =>
      match accepted with
      | .ok stream => .accepting (spawned ++ [stream])
      | .error _ => .accepting spawned

/-- The call after the first `n` rounds. -/
def after (start : PanelStart) (accepts : Nat → AcceptResult) : Nat → PanelServer
  | 0 => startPanel start
  | n + 1 => (after start accepts n).acceptNext (accepts n)

end PanelServer

/-- `main` around the start of the panel. -/
inductive Startup where
  | awaitingPanel (panel : PanelServer)
  | spawningListeners

namespace Startup

/-- Once the call has returned, `main` goes on whatever it returned. -/
def next (accepted : AcceptResult) : Startup → Startup
  | .awaitingPanel (.returned _) => .spawningListeners
  | .awaitingPanel panel => .awaitingPanel (panel.acceptNext accepted)
  | .spawningListeners => .spawningListeners

def after (start : PanelStart) (accepts : Nat → AcceptResult) : Nat → Startup
  | 0 => .awaitingPanel (PanelServer.startPanel start)
  | n + 1 => (after start accepts n).next (accepts n)

end Startup

variable {start : PanelStart} {accepts : Nat → AcceptResult}

/-- The panel is enabled and its address can be bound. -/
def PanelStart.Serves (start : PanelStart) : Prop :=
  (∃ t, start.authToken = some t ∧ 8 ≤ (utf8 (trim t)).length) ∧ start.bind = .ok ()

def PanelStart.Returns (start : PanelStart) (accepts : Nat → AcceptResult) : Prop :=
  ∃ n result, PanelServer.after start accepts n = .returned result

def PanelStart.ReachesListeners (start : PanelStart) (accepts : Nat → AcceptResult) : Prop :=
  ∃ n, Startup.after start accepts n = .spawningListeners

namespace PanelServer

private theorem startPanel_of_serves (h : start.Serves) : startPanel start = .accepting [] := by
  obtain ⟨⟨t, htoken, hlength⟩, hbind⟩ := h
  simp [startPanel, htoken, hlength, hbind]

theorem startPanel_of_not_serves (h : ¬start.Serves) :
    ∃ result, startPanel start = .returned result := by
  unfold startPanel
  split
  case h_1 t htoken =>
    split
    case isTrue hlength =>
      split
      case h_1 e _ => exact ⟨_, rfl⟩
      case h_2 hbind => exact absurd ⟨⟨t, htoken, hlength⟩, hbind⟩ h
    case isFalse => exact ⟨_, rfl⟩
  case h_2 => exact ⟨_, rfl⟩

theorem after_of_serves (h : start.Serves) (n : Nat) : after start accepts n =
    .accepting ((List.range n).filterMap fun i => (accepts i).toOption) := by
  induction n with
  | zero => exact startPanel_of_serves h
  | succ n ih =>
      rw [after, ih, List.range_succ, List.filterMap_append]
      cases hn : accepts n with
      | error e => simp [acceptNext, hn, Except.toOption]
      | ok stream => simp [acceptNext, hn, Except.toOption]

private theorem returns_iff : start.Returns accepts ↔ ¬start.Serves := by
  constructor
  · rintro ⟨n, result, hreturned⟩ hserves
    rw [after_of_serves hserves] at hreturned
    cases hreturned
  · intro h
    obtain ⟨result, hresult⟩ := startPanel_of_not_serves h
    exact ⟨0, result, hresult⟩

end PanelServer

namespace Startup

private theorem after_of_serves (h : start.Serves) (n : Nat) :
    after start accepts n = .awaitingPanel (PanelServer.after start accepts n) := by
  induction n with
  | zero => rfl
  | succ n ih =>
      rw [after, ih, PanelServer.after, PanelServer.after_of_serves h]
      rfl

theorem reachesListeners_iff : start.ReachesListeners accepts ↔ ¬start.Serves := by
  constructor
  · rintro ⟨n, hreached⟩ hserves
    rw [after_of_serves hserves] at hreached
    cases hreached
  · intro h
    obtain ⟨result, hresult⟩ := PanelServer.startPanel_of_not_serves h
    refine ⟨1, ?_⟩
    rw [after, after, hresult]
    rfl

/-- A panel that serves never gives control back, and the listeners are never spawned. -/
theorem panel_keeps_control (start : PanelStart) (accepts : Nat → AcceptResult)
    (h : start.Serves) : ¬start.Returns accepts ∧ ¬start.ReachesListeners accepts := by
  rw [PanelServer.returns_iff, reachesListeners_iff, not_not]
  exact ⟨h, h⟩

/-! ## The default address with a token set -/

def samplePanelStart : PanelStart := ⟨"127.0.0.1:8078", some "a-long-random-string", .ok ()⟩

theorem serves_samplePanelStart : samplePanelStart.Serves :=
  ⟨⟨_, rfl, by decide +kernel⟩, rfl⟩

theorem panel_keeps_control_silent : ¬samplePanelStart.Returns (fun _ => .ok []) ∧
    ¬samplePanelStart.ReachesListeners (fun _ => .ok []) :=
  panel_keeps_control samplePanelStart _ serves_samplePanelStart

theorem listeners_not_spawned :
    samplePanelStart.Serves ∧ ¬(samplePanelStart.Returns (fun _ => .ok []) ∧
      samplePanelStart.ReachesListeners (fun _ => .ok [])) := by
  refine ⟨serves_samplePanelStart, fun hreaches => ?_⟩
  exact reachesListeners_iff.mp hreaches.2 serves_samplePanelStart

end Startup

end Girasol
