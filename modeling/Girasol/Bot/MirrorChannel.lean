import Girasol.Foundation.Counting
import Girasol.Bot.MirrorSteps
import Girasol.Detect.Signal
import Girasol.Foundation.Runs

/-!
# Listeners and the mirror-sell channel

A listener sends the signals of one update before it reads the next.  The
mirror-sell channel is made when the bot starts, but the loop receives from it
only when the settings in force mirror sells as it enters `select!`.
-/

namespace Girasol

open Foundation

variable {p : Platform}

structure Listening (p : Platform) where
  bot : Bot p
  buyChannel : List DetectedBuy
  listeners : List (List Signal)

inductive ListenEvent (p : Platform) where
  | hear (listener : Nat) (signals : List Signal)
  | deliver (listener : Nat)
  | dispatch (now : Nat)
  | bot (e : Event p)

def Event.fromListener : Event p → Bool
  | .listenerSell _ | .detectBuy _ _ => true
  | _ => false

namespace Listening

def start (settings : ValidSettings p) (hasPayer : Bool) (loaded : Positions)
    (listeners : Nat) : Listening p :=
  ⟨.start settings hasPayer loaded, [], List.replicate listeners []⟩

def deliver (s : Listening p) (listener : Nat) : Option (Listening p) :=
  match s.listeners[listener]? with
  | some (.buy detected :: rest) =>
      if s.buyChannel.length < channelCapacity then
        some { s with
          buyChannel := s.buyChannel ++ [detected]
          listeners := s.listeners.set listener rest }
      else none
  | some (.sell detected :: rest) =>
      if s.bot.mirrorOpen then
        (s.bot.listenerSell detected).map fun bot =>
          { s with bot := bot, listeners := s.listeners.set listener rest }
      else some { s with listeners := s.listeners.set listener rest }
  | _ => none

def dispatch (s : Listening p) (now : Nat) : Option (Listening p) :=
  match s.buyChannel with
  | [] => none
  | detected :: rest =>
      (s.bot.detectBuy detected now).map fun bot => { s with bot := bot, buyChannel := rest }

def step (s : Listening p) : ListenEvent p → Option (Listening p)
  | .hear listener signals =>
      match s.listeners[listener]? with
      | some [] => some { s with listeners := s.listeners.set listener signals }
      | _ => none
  | .deliver listener => s.deliver listener
  | .dispatch now => s.dispatch now
  | .bot e =>
      if e.fromListener then none else (s.bot.step e).map fun bot => { s with bot := bot }

end Listening

/-- The loop waits in `select!`, and its guard was off when it entered. -/
def MainLoop.armOff : MainLoop → Bool
  | .selecting armed => !armed
  | .gotSell _ | .holdsMint _ | .sendingOrder _ _ => false

namespace ListenEvent

def heard : ListenEvent p → Option (List Signal)
  | .hear _ signals => some signals
  | .deliver _ | .dispatch _ | .bot _ => none

/-- The loop may enter `select!` in this step. -/
def entersSelect : ListenEvent p → Bool
  | .dispatch _ | .bot .mirrorCheck | .bot .mirrorLoad | .bot .mirrorSend => true
  | _ => false

end ListenEvent

namespace Listening

/-! ## Jams -/

def sellNext : List Signal → Bool
  | .sell _ :: _ => true
  | _ => false

/-- A listener waits to send a sell into the full channel, and the loop does not receive from it. -/
def Jammed (s : Listening p) : Prop :=
  s.bot.mirrorOpen = true ∧ channelCapacity ≤ s.bot.mirrorSells.length ∧
    s.bot.main.armOff = true ∧ ∃ signals ∈ s.listeners, sellNext signals = true

def sells (signals : List Signal) : Nat := (signals.filterMap Signal.asSell).length

def waitingSells (s : Listening p) : Nat :=
  s.bot.mirrorSells.length + (s.listeners.map sells).sum

/--
What a listener hears while the arm is off fits in the channel, and so do the
sells that wait when the loop enters `select!` with mirroring switched off.
-/
def FitsChannel (s : Listening p) (e : ListenEvent p) : Prop :=
  s.bot.mirrorOpen = true →
    (∀ signals ∈ e.heard, s.bot.main.armOff = true →
        s.waitingSells + sells signals ≤ channelCapacity) ∧
      (e.entersSelect = true → s.bot.settings.val.mirrorSells = false →
        s.waitingSells ≤ channelCapacity)

instance (s : Listening p) : Decidable s.Jammed :=
  inferInstanceAs (Decidable (_ ∧ _))

instance (s : Listening p) (e : ListenEvent p) : Decidable (s.FitsChannel e) :=
  inferInstanceAs (Decidable (_ → _))

end Listening

/-! ## Where the loop enters `select!` -/

namespace Bot

variable {s s' : Bot p}

/-- Where the loop enters `select!`, the guard is what the settings in force say. -/
structure Enters (s s' : Bot p) : Prop where
  channel : s.SameChannel s'
  guard : s'.main.armOff = true → s.settings.val.mirrorSells = false

theorem MirrorStep.enters {e : Event p} (hmove : s.MirrorStep e s')
    (hlistener : ∀ sell, e ≠ .listenerSell sell) (hrecv : e ≠ .mirrorRecv) : s.Enters s' := by
  cases hmove with
  | detected sell => exact absurd rfl (hlistener sell)
  | entered detected now armed _ _ hmain' hchannel =>
      refine ⟨hchannel, ?_⟩
      rw [hmain']
      simp [MainLoop.armOff]
  | received => exact absurd rfl hrecv
  | found | loaded => exact ⟨⟨rfl, rfl⟩, by simp [MainLoop.armOff]⟩
  | missed | vanished | sent => exact ⟨⟨rfl, rfl⟩, by simp [mirrorDone, MainLoop.armOff]⟩

theorem MirrorStep.armOff {e : Event p} (hmove : s.MirrorStep e s')
    (hlistener : e.fromListener = false) : s.main.armOff = false := by
  cases hmove with
  | detected | entered => cases hlistener
  | received _ _ hmain | found _ hmain | missed _ hmain | loaded _ _ hmain | vanished _ hmain
  | sent _ _ hmain => rw [hmain]; rfl

end Bot

/-! ## Runs -/

namespace Listening

variable {s s' : Listening p}

private theorem sells_pos_of_sellNext {signals : List Signal} (hnext : sellNext signals = true) :
    0 < sells signals := by
  unfold sellNext at hnext
  split at hnext
  · simp [sells, Signal.asSell]
  · cases hnext

def Inv (s : Listening p) : Prop :=
  s.bot.mirrorOpen = true → s.bot.main.armOff = true → s.waitingSells ≤ channelCapacity

theorem Inv.not_jammed (hs : s.Inv) : ¬ s.Jammed := by
  rintro ⟨hopen, hfull, hoff, signals, hmem, hnext⟩
  have hwaiting := hs hopen hoff
  have hpos := sells_pos_of_sellNext hnext
  have hle : sells signals ≤ (s.listeners.map sells).sum :=
    List.single_le_sum (by simp) _ (List.mem_map_of_mem hmem)
  unfold waitingSells at hwaiting
  omega

theorem inv_hear {listener : Nat} {signals : List Signal}
    (hfits : s.FitsChannel (.hear listener signals))
    (hstep : s.step (.hear listener signals) = some s') : s'.Inv := by
  simp only [step] at hstep
  split at hstep <;> cases hstep
  case h_1 hnone =>
    intro hopen hoff
    have hroom := (hfits hopen).1 signals rfl hoff
    have hset := sum_map_set sells hnone signals
    simp only [waitingSells, sells, List.filterMap_nil, List.length_nil] at hroom hset ⊢
    omega

theorem Inv.deliver {listener : Nat} (hs : s.Inv) (hstep : s.deliver listener = some s') :
    s'.Inv := by
  simp only [Listening.deliver] at hstep
  split at hstep
  case h_3 => cases hstep
  case h_1 detected rest hi =>
    simp only [Option.ite_none_right_eq_some] at hstep
    cases hstep.2
    intro hopen hoff
    have hwaiting := hs hopen hoff
    have hset := sum_map_set sells hi rest
    simp only [waitingSells, sells, List.filterMap_cons, Signal.asSell] at hwaiting hset ⊢
    omega
  case h_2 detected rest hi =>
    have hset := sum_map_set sells hi rest
    have hone : sells (.sell detected :: rest) = sells rest + 1 := by simp [sells, Signal.asSell]
    split at hstep
    · obtain ⟨bot, hbot, rfl⟩ := Option.map_eq_some_iff.mp hstep
      simp only [Bot.listenerSell, Option.ite_none_right_eq_some] at hbot
      cases hbot.2
      intro hopen hoff
      have hwaiting := hs hopen hoff
      simp only [waitingSells, List.length_append, List.length_singleton] at hwaiting ⊢
      omega
    · cases hstep
      intro hopen hoff
      have hwaiting := hs hopen hoff
      simp only [waitingSells] at hwaiting ⊢
      omega

theorem inv_enters {bot : Bot p} {buys : List DetectedBuy} {e : ListenEvent p}
    (hfits : s.FitsChannel e) (he : e.entersSelect = true) (henters : s.bot.Enters bot) :
    Inv { s with bot := bot, buyChannel := buys } := by
  intro hopen hoff
  dsimp only at hopen hoff
  rw [henters.channel.mirrorOpen] at hopen
  have hwaiting := (hfits hopen).2 he (henters.guard hoff)
  simpa only [waitingSells, henters.channel.mirrorSells] using hwaiting

theorem Inv.bot {e : Event p} {bot : Bot p} (hs : s.Inv) (hfits : s.FitsChannel (.bot e))
    (hlistener : e.fromListener = false) (hbot : s.bot.step e = some bot) :
    Inv { s with bot := bot } := by
  cases hmirror : e.onMirror with
  | false =>
      have hsame := Bot.mirror_untouched hbot hmirror
      simpa only [Inv, waitingSells, hsame.mirrorOpen, hsame.mirrorSells, hsame.main] using hs
  | true =>
      have hmove := Bot.step_mirror hbot hmirror
      cases e with
      | mirrorRecv =>
          cases hmove
          intro _ hoff
          cases hoff
      | mirrorCheck | mirrorLoad | mirrorSend =>
          exact inv_enters hfits rfl (hmove.enters (by simp) (by simp))
      | listenerSell _ | detectBuy _ _ => cases hlistener
      | _ => cases hmirror

theorem Inv.step {e : ListenEvent p} (hs : s.Inv) (hfits : s.FitsChannel e)
    (hstep : s.step e = some s') : s'.Inv := by
  cases e with
  | hear listener signals => exact inv_hear hfits hstep
  | deliver listener => exact hs.deliver hstep
  | dispatch now =>
      simp only [Listening.step, Listening.dispatch] at hstep
      split at hstep
      · cases hstep
      · obtain ⟨bot, hbot, rfl⟩ := Option.map_eq_some_iff.mp hstep
        exact inv_enters hfits rfl
          ((Bot.step_mirror (e := .detectBuy _ now) hbot rfl).enters (by simp) (by simp))
  | bot e =>
      simp only [Listening.step] at hstep
      split at hstep
      case isTrue => cases hstep
      case isFalse hlistener =>
        obtain ⟨bot, hbot, rfl⟩ := Option.map_eq_some_iff.mp hstep
        exact hs.bot hfits (by simpa using hlistener) hbot

theorem inv_start (settings : ValidSettings p) (hasPayer : Bool) (loaded : Positions)
    (listeners : Nat) : (start settings hasPayer loaded listeners).Inv := by
  intro _ _
  simp [start, waitingSells, Bot.start, sells]

/-- While the sells that wait fit in the channel, no listener is ever jammed. -/
theorem never_jammed (settings : ValidSettings p) (hasPayer : Bool) (loaded : Positions)
    (listeners : Nat) (events : List (ListenEvent p))
    (hfits : Along step (fun s e _ => s.FitsChannel e)
      (start settings hasPayer loaded listeners) events) :
    Along step (fun _ _ s' => ¬ s'.Jammed) (start settings hasPayer loaded listeners) events := by
  refine hfits.of_invariant (fun s e s' hs hcond hstep => ?_)
    (inv_start settings hasPayer loaded listeners)
  have hs' : s'.Inv := Inv.step hs hcond hstep
  exact ⟨hs', hs'.not_jammed⟩

/-! ## A jam does not end -/

structure Stuck (s : Listening p) : Prop where
  jammed : s.Jammed
  noBuys : s.buyChannel = []
  blocked : ∀ signals ∈ s.listeners, sellNext signals = true

theorem Stuck.step {e : ListenEvent p} (hs : s.Stuck) (hstep : s.step e = some s') :
    s'.Stuck ∧ s'.listeners = s.listeners := by
  obtain ⟨⟨hopen, hfull, hoff, hwaits⟩, hbuys, hblocked⟩ := hs
  have hhead {listener : Nat} {signals : List Signal}
      (hi : s.listeners[listener]? = some signals) : sellNext signals = true :=
    hblocked signals (List.mem_of_getElem? hi)
  cases e with
  | hear listener signals =>
      simp only [Listening.step] at hstep
      split at hstep
      case h_1 hi => cases hhead hi
      case h_2 => cases hstep
  | deliver listener =>
      simp only [Listening.step, Listening.deliver] at hstep
      split at hstep
      case h_1 hi => cases hhead hi
      case h_2 hi =>
        simp [hopen, Bot.listenerSell, not_lt.mpr hfull] at hstep
      case h_3 => cases hstep
  | dispatch now => simp [Listening.step, Listening.dispatch, hbuys] at hstep
  | bot e =>
      simp only [Listening.step] at hstep
      split at hstep
      case isTrue => cases hstep
      case isFalse hlistener =>
        obtain ⟨bot, hbot, rfl⟩ := Option.map_eq_some_iff.mp hstep
        have hmirror : e.onMirror = false := by
          by_contra hon
          have hmove := Bot.step_mirror hbot (Bool.not_eq_false _ ▸ hon)
          rw [hmove.armOff (by simpa using hlistener)] at hoff
          cases hoff
        have hsame := Bot.mirror_untouched hbot hmirror
        refine ⟨⟨⟨?_, ?_, ?_, hwaits⟩, hbuys, hblocked⟩, rfl⟩
        · rw [hsame.mirrorOpen]
          exact hopen
        · rw [hsame.mirrorSells]
          exact hfull
        · rw [hsame.main]
          exact hoff

theorem Stuck.run {later : List (ListenEvent p)} (hs : s.Stuck)
    (hrun : Run Listening.step (fun _ _ => True) s later s') : s'.listeners = s.listeners := by
  have hstays (t : Listening p) (e : ListenEvent p) (t' : Listening p) (_ : True)
      (hstep : t.step e = some t') (ht : t.Stuck ∧ t.listeners = s.listeners) :
      t'.Stuck ∧ t'.listeners = s.listeners := by
    obtain ⟨ht', hsame⟩ := ht.1.step hstep
    exact ⟨ht', hsame.trans ht.2⟩
  exact (hrun.invariant hstays ⟨hs, rfl⟩).2

/-! ## Mirroring switched off at run time -/

theorem mirrorOff_valid : { Settings.plain with mirrorSells := false }.validate .plain = .ok () :=
  Settings.plain_valid

def mirrorOff : ValidSettings .plain := ⟨_, mirrorOff_valid⟩

def plain : Listening .plain := start .plain false .single 1

/-- A buy brings the loop back to `select!` after mirroring was switched off. -/
def switchOff : List (ListenEvent .plain) :=
  [.hear 0 [.buy .plain], .deliver 0, .bot (.reload mirrorOff), .dispatch 0]

def hearSell : List (ListenEvent .plain) := [.hear 0 [.sell (.plain "sell" 10)], .deliver 0]

theorem never_jammed_one :
    Along step (fun s e _ => s.FitsChannel e) plain (switchOff ++ hearSell) ∧
      Along step (fun _ _ s' => ¬ s'.Jammed) plain (switchOff ++ hearSell) :=
  have hfits : Along step (fun s e _ => s.FitsChannel e) plain (switchOff ++ hearSell) := by
    decide +kernel
  ⟨hfits, never_jammed .plain false .single 1 _ hfits⟩

def overfill : List (ListenEvent .plain) :=
  switchOff ++ (List.replicate channelCapacity hearSell).flatten ++
    [.hear 0 [.sell (.plain "last" 10), .buy .plain]]

theorem switched_off_jams :
    ∃ t, Run step (fun _ _ => True) plain overfill t ∧ t.Jammed ∧
      ∀ later u, Run step (fun _ _ => True) t later u → u.listeners = t.listeners := by
  have hexec : (exec step (fun _ _ => True) plain overfill).map (fun t =>
      decide t.Jammed && t.buyChannel.isEmpty && t.listeners.all sellNext) = some true := by
    decide +kernel
  obtain ⟨t, hrun, hcheck⟩ := exists_run_of_exec hexec
  simp only [Bool.and_eq_true, decide_eq_true_eq, List.isEmpty_iff, List.all_eq_true] at hcheck
  have hstuck : t.Stuck := ⟨hcheck.1.1, hcheck.1.2, hcheck.2⟩
  exact ⟨t, hrun, hstuck.jammed, fun later u hlater => hstuck.run hlater⟩

end Listening

end Girasol
