import Girasol.Bot.Step

/-!
# Deduplication of detections

The loop reads the clock twice for one arrival: when the signature is entered,
and again for the eviction when that runs.  A duplicate refreshes the time its
signature was seen.
-/

namespace Girasol

open Foundation

variable {p : Platform}

structure Arrival where
  signature : String
  now : Nat
  cleanupNow : Nat
  deriving DecidableEq

/-- The clock does not run backwards, within an arrival and from one to the next. -/
def InOrder : Nat → List Arrival → Prop
  | _, [] => True
  | clock, a :: as => clock ≤ a.now ∧ a.now ≤ a.cleanupNow ∧ InOrder a.cleanupNow as

instance decidableInOrder : ∀ (clock : Nat) (as : List Arrival), Decidable (InOrder clock as)
  | _, [] => isTrue trivial
  | clock, a :: as =>
      let _ : Decidable (InOrder a.cleanupNow as) := decidableInOrder a.cleanupNow as
      inferInstanceAs (Decidable (clock ≤ a.now ∧ a.now ≤ a.cleanupNow ∧ _))

theorem InOrder.le_now {clock : Nat} {as : List Arrival} (hin : InOrder clock as)
    {b : Arrival} (hb : b ∈ as) : clock ≤ b.now := by
  induction as generalizing clock with
  | nil => cases hb
  | cons a as ih =>
      rcases List.mem_cons.mp hb with rfl | hrest
      · exact hin.1
      · have hle : a.cleanupNow ≤ b.now := ih hin.2.2 hrest
        exact (hin.1.trans hin.2.1).trans hle

structure Dedup where
  seenSigs : Store String Nat
  cleanupCounter : Nat

namespace Dedup

def empty : Dedup := ⟨∅, 0⟩

def isNew (d : Dedup) (a : Arrival) : Bool := (d.seenSigs.lookup a.signature).isNone

def receive (d : Dedup) (a : Arrival) : Dedup :=
  let seen := AList.insert a.signature a.now d.seenSigs
  if d.isNew a then
    let (kept, counter) := Bot.cleanSeenSigs a.cleanupNow (d.cleanupCounter + 1) seen
    ⟨kept, counter⟩
  else ⟨seen, d.cleanupCounter⟩

def receiveAll (d : Dedup) (as : List Arrival) : Dedup := as.foldl receive d

def dispatches : Dedup → List Arrival → List Arrival
  | _, [] => []
  | d, a :: as =>
      if d.isNew a then a :: dispatches (d.receive a) as else dispatches (d.receive a) as

/-! ## What one arrival does to the map -/

private theorem lookup_cleanSeenSigs (now counter : Nat) (seen : Store String Nat) (sig : String) :
    (Bot.cleanSeenSigs now counter seen).1.lookup sig = seen.lookup sig ∨
      (Bot.cleanSeenSigs now counter seen).1.lookup sig = none ∧
        ∃ t, seen.lookup sig = some t ∧ Bot.seenSigTtl ≤ now - t := by
  unfold Bot.cleanSeenSigs
  by_cases hcounter : 100 < counter
  · simp only [if_pos hcounter, Store.lookup_eraseIf]
    split_ifs with hdrop
    · obtain ⟨-, hold⟩ := hdrop
      split at hold
      case h_1 t hlook => exact .inr ⟨rfl, t, hlook, of_decide_eq_true hold⟩
      case h_2 => cases hold
    · exact .inl rfl
  · rw [if_neg hcounter]
    exact .inl rfl

theorem lookup_receive (d : Dedup) (a : Arrival) (sig : String) :
    (d.receive a).seenSigs.lookup sig =
        (if sig = a.signature then some a.now else d.seenSigs.lookup sig) ∨
      (d.receive a).seenSigs.lookup sig = none ∧
        ∃ t, (if sig = a.signature then some a.now else d.seenSigs.lookup sig) = some t ∧
          Bot.seenSigTtl ≤ a.cleanupNow - t := by
  rw [← Store.lookup_insert_eq]
  unfold receive
  split
  · exact lookup_cleanSeenSigs _ _ _ sig
  · exact .inl rfl

/-! ## Runs -/

theorem mem_of_mem_dispatches {d : Dedup} {as : List Arrival} {b : Arrival}
    (hb : b ∈ d.dispatches as) : b ∈ as := by
  induction as generalizing d with
  | nil => cases hb
  | cons a as ih =>
      rw [dispatches] at hb
      split at hb
      · rcases List.mem_cons.mp hb with rfl | hrest
        · exact List.mem_cons_self
        · exact List.mem_cons_of_mem _ (ih hrest)
      · exact List.mem_cons_of_mem _ (ih hb)

private theorem seen_le_dispatch {d : Dedup} {clock t : Nat} {as : List Arrival} {b : Arrival}
    (hin : InOrder clock as) (hseen : d.seenSigs.lookup b.signature = some t)
    (ht : t ≤ clock) (hb : b ∈ d.dispatches as) : t + Bot.seenSigTtl ≤ b.now := by
  induction as generalizing d clock t with
  | nil => cases hb
  | cons a as ih =>
      obtain ⟨hclock, hclean, hin'⟩ := hin
      have hlater : b ∈ (d.receive a).dispatches as := by
        rw [dispatches] at hb
        split at hb
        case isTrue hnew =>
          rcases List.mem_cons.mp hb with rfl | hrest
          · simp [isNew, hseen] at hnew
          · exact hrest
        case isFalse => exact hb
      obtain ⟨t', ht', hold⟩ : ∃ t', t ≤ t' ∧ t' ≤ a.cleanupNow ∧
          (if b.signature = a.signature then some a.now
            else d.seenSigs.lookup b.signature) = some t' := by
        split
        · exact ⟨a.now, ht.trans hclock, hclean, rfl⟩
        · exact ⟨t, le_refl t, (ht.trans hclock).trans hclean, hseen⟩
      rcases lookup_receive d a b.signature with hkept | ⟨-, t'', heq, hexpired⟩
      · have hgap := ih hin' (hkept.trans hold.2) hold.1 hlater
        omega
      · have hsame : t' = t'' := Option.some.inj (hold.2.symm.trans heq)
        have hle := hin'.le_now (mem_of_mem_dispatches hlater)
        have hpos : 0 < Bot.seenSigTtl := by decide
        omega

private theorem pairwise_dispatches {d : Dedup} {clock : Nat} {as : List Arrival}
    (hin : InOrder clock as) :
    (d.dispatches as).Pairwise fun a b =>
      a.signature = b.signature → a.now + Bot.seenSigTtl ≤ b.now := by
  induction as generalizing d clock with
  | nil => exact .nil
  | cons a as ih =>
      obtain ⟨hclock, hclean, hin'⟩ := hin
      rw [dispatches]
      split
      case isFalse => exact ih hin'
      case isTrue =>
        refine List.pairwise_cons.mpr ⟨fun b hb hsig => ?_, ih hin'⟩
        rcases lookup_receive d a b.signature with hkept | ⟨-, t, heq, hexpired⟩
        · rw [if_pos hsig.symm] at hkept
          exact seen_le_dispatch hin' hkept hclean hb
        · rw [if_pos hsig.symm] at heq
          cases heq
          have hle := hin'.le_now (mem_of_mem_dispatches hb)
          have hpos : 0 < Bot.seenSigTtl := by decide
          omega

private theorem lookup_receiveAll_of_absent {d : Dedup} {sig : String} {as : List Arrival}
    (hd : d.seenSigs.lookup sig = none) (hsig : ∀ a ∈ as, a.signature ≠ sig) :
    (d.receiveAll as).seenSigs.lookup sig = none := by
  induction as generalizing d with
  | nil => exact hd
  | cons a as ih =>
      have hne : sig ≠ a.signature := (hsig a List.mem_cons_self).symm
      refine ih ?_ fun b hb => hsig b (List.mem_cons_of_mem _ hb)
      rcases lookup_receive d a sig with hkept | ⟨hnone, -⟩
      · rw [hkept, if_neg hne, hd]
      · exact hnone

private theorem dispatches_append (d : Dedup) (xs ys : List Arrival) :
    d.dispatches (xs ++ ys) = d.dispatches xs ++ (d.receiveAll xs).dispatches ys := by
  induction xs generalizing d with
  | nil => rfl
  | cons a xs ih =>
      have hnext : d.receiveAll (a :: xs) = (d.receive a).receiveAll xs := rfl
      rw [List.cons_append, dispatches, dispatches, hnext, ih]
      split <;> rfl

/--
Dispatches of one signature are `seenSigTtl` apart, and a signature that did
not arrive before is dispatched.
-/
theorem dispatches_spaced (clock : Nat) (as : List Arrival) (hin : InOrder clock as) :
    ((empty.dispatches as).Pairwise fun a b =>
        a.signature = b.signature → a.now + Bot.seenSigTtl ≤ b.now) ∧
      ∀ before a after, as = before ++ a :: after →
        (∀ b ∈ before, b.signature ≠ a.signature) →
        empty.dispatches as = empty.dispatches before ++
          a :: ((empty.receiveAll before).receive a).dispatches after := by
  constructor
  · exact pairwise_dispatches hin
  · rintro before a after rfl hfirst
    have hnone : (empty.receiveAll before).seenSigs.lookup a.signature = none :=
      lookup_receiveAll_of_absent rfl hfirst
    have hnew : (empty.receiveAll before).isNew a = true := by
      rw [isNew, hnone]
      rfl
    rw [dispatches_append, dispatches, if_pos hnew]

def twoListeners : List Arrival := [⟨"buy", 0, 0⟩, ⟨"buy", 5, 5⟩, ⟨"sell", 7, 9⟩]

theorem dispatches_spaced_twoListeners :
    InOrder 0 twoListeners ∧
      (empty.dispatches twoListeners).Pairwise fun a b =>
        a.signature = b.signature → a.now + Bot.seenSigTtl ≤ b.now :=
  have hin : InOrder 0 twoListeners := by decide
  ⟨hin, (dispatches_spaced 0 twoListeners hin).1⟩

end Dedup

/-! ## The dispatching step of the bot -/

theorem Bot.detectBuy_dedup (s : Bot p) (detected : DetectedBuy) (now : Nat) (armed : Bool)
    (hmain : s.main = .selecting armed) :
    s.detectBuy detected now =
      let d : Dedup := ⟨s.seenSigs, s.seenSigsCleanupCounter⟩
      let a : Arrival := ⟨detected.signature, now, now⟩
      some { s with
        seenSigs := (d.receive a).seenSigs
        seenSigsCleanupCounter := (d.receive a).cleanupCounter
        buys := if d.isNew a then s.buys ++ [⟨detected, .spawned⟩] else s.buys
        main := .selecting s.settings.val.mirrorSells } := by
  cases hlook : s.seenSigs.lookup detected.signature with
  | none => simp [detectBuy, hmain, Dedup.receive, Dedup.isNew, hlook]
  | some seenAt => simp [detectBuy, hmain, Dedup.receive, Dedup.isNew, hlook]

end Girasol
