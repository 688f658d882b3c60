import Girasol.Send.Helius

/-!
# Concurrent sending

`sendConcurrent` offers one signed transaction to all active providers and
returns the first signature that one of them answers.
-/

namespace Girasol

open Foundation

inductive CircuitState where
  | closed
  | opened
  | halfOpen
  deriving DecidableEq, Repr

structure SendReply where
  accepts : Bool
  reply : Except String String

def SendReply.takes (r : SendReply) : Bool := r.accepts || r.reply.isOk

structure Provider where
  name : String
  circuit : CircuitState
  isLeader : Bool
  send : SendReply

structure SwqosEnv where
  providers : List Provider
  directRpc : SendReply

section

variable (cfg : Settings) (leaderKnown : Bool) (env : SwqosEnv)

def activeProviders : List Provider :=
  let skipLeaderProvider := cfg.ownLeaderStrategyEnabled && cfg.swqosSkipLeaderProvider
  env.providers.filter fun pr =>
    pr.circuit != .opened && !(skipLeaderProvider && leaderKnown && pr.isLeader)

def offers : List (String × SendReply) :=
  let active := activeProviders cfg leaderKnown env
  if active.isEmpty then
    if cfg.ownLeaderStrategyEnabled && cfg.ownLeaderFallbackDirectRpc then
      cfg.solanaRpcUrls.head?.toList.map fun url => (url, env.directRpc)
    else []
  else active.map fun pr => (pr.name, pr.send)

def sendConcurrent (tx : VersionedTransaction) : Traced Submission SendError String := do
  let offered := offers cfg leaderKnown env
  .emit ((offered.filter fun offer => offer.2.takes).map fun offer => ⟨offer.1, tx⟩)
  .lift <| match offered.findSome? fun offer => offer.2.reply.toOption with
    | some sig => .ok sig
    | none =>
        .error (.failed (if offered.isEmpty then "All SWQoS providers are in OPEN circuit state"
          else "All active SWQoS providers failed"))

def SwqosEnv.taken : Bool := (offers cfg leaderKnown env).any fun offer => offer.2.takes

def SwqosEnv.acknowledged : Bool :=
  (offers cfg leaderKnown env).any fun offer => offer.2.reply.isOk

end

variable {cfg : Settings} {leaderKnown : Bool} {env : SwqosEnv} {tx : VersionedTransaction}

theorem SwqosEnv.taken_of_acknowledged (h : env.acknowledged cfg leaderKnown = true) :
    env.taken cfg leaderKnown = true := by
  simp only [acknowledged, taken, List.any_eq_true] at h ⊢
  obtain ⟨offer, hmem, hok⟩ := h
  exact ⟨offer, hmem, by simp [SendReply.takes, hok]⟩

theorem mem_sendConcurrent_trace {tx' : VersionedTransaction} :
    (∃ s ∈ (sendConcurrent cfg leaderKnown env tx).trace, s.transaction = tx') ↔
      env.taken cfg leaderKnown = true ∧ tx' = tx := by
  simp only [sendConcurrent, Traced.emit_bind, Traced.after_trace, Traced.lift_trace,
    List.append_nil, List.mem_map, List.mem_filter, SwqosEnv.taken, List.any_eq_true]
  constructor
  · rintro ⟨s, ⟨offer, hoffer, rfl⟩, rfl⟩
    exact ⟨⟨offer, hoffer⟩, rfl⟩
  · rintro ⟨⟨offer, hoffer⟩, rfl⟩
    exact ⟨⟨offer.1, tx'⟩, ⟨offer, hoffer, rfl⟩, rfl⟩

theorem sendConcurrent_isOk :
    (sendConcurrent cfg leaderKnown env tx).result.isOk = env.acknowledged cfg leaderKnown := by
  simp only [sendConcurrent, Traced.emit_bind, Traced.after_result, Traced.lift_result,
    SwqosEnv.acknowledged]
  cases hfirst : (offers cfg leaderKnown env).findSome? fun offer => offer.2.reply.toOption with
  | none =>
      rw [List.findSome?_eq_none_iff] at hfirst
      symm
      simp only [Except.isOk, Except.toBool, List.any_eq_false]
      intro offer hmem
      have hnone := hfirst offer hmem
      cases hreply : offer.2.reply <;> simp_all [Except.toOption]
  | some sig =>
      obtain ⟨offer, hmem, hsig⟩ := List.exists_of_findSome?_eq_some hfirst
      symm
      simp only [Except.isOk, Except.toBool, List.any_eq_true]
      refine ⟨offer, hmem, ?_⟩
      cases hreply : offer.2.reply <;> simp_all [Except.toOption]

end Girasol
