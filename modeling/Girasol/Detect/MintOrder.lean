import Girasol.Detect.PairedSwap
import Mathlib.Data.Set.Subsingleton

/-!
# Raydium swaps in any order of the mints

The parsers collect the target's mints in a hash set and stop at the first whose
balance moved.  Every mint that moved is the first in some order.
-/

namespace Girasol

open Foundation

/-! ## What a scan finds in some order -/

section

variable {β : Type} {f : String → Option β} {items : List String}

theorem forall_orders_found_iff (items : List String) (good : β → Prop)
    (hf : ∀ item, f item ≠ none → item ∈ items) :
    (∀ hash : HashOrder, ∀ b ∈ (hash.order items).findSome? f, good b) ↔
      ∀ item, ∀ b ∈ f item, good b := by
  constructor
  · intro hall item b hb
    have hmem := hf item (Option.ne_none_iff_exists'.mpr ⟨b, hb⟩)
    exact hall (HashOrder.first item) b (findSome?_first hmem hb)
  · intro hall hash b hb
    obtain ⟨item, hitem⟩ := exists_of_findSome?_order hb
    exact hall item b hitem

theorem forall_orders_getD_iff (items : List String) (default : β)
    (hf : ∀ item, f item ≠ none → item ∈ items) :
    (∀ hash hash' : HashOrder, ((hash.order items).findSome? f).getD default =
        ((hash'.order items).findSome? f).getD default) ↔
      ∀ item item', ∀ b ∈ f item, ∀ b' ∈ f item', b = b' := by
  constructor
  · intro hall item item' b hb b' hb'
    have hsame := hall (HashOrder.first item) (HashOrder.first item')
    rw [findSome?_first (hf item (Option.ne_none_iff_exists'.mpr ⟨b, hb⟩)) hb,
      findSome?_first (hf item' (Option.ne_none_iff_exists'.mpr ⟨b', hb'⟩)) hb'] at hsame
    exact hsame
  · intro hall hash hash'
    cases hfound : (hash.order items).findSome? f with
    | none =>
        have hnone : (hash'.order items).findSome? f = none := by
          rw [List.findSome?_eq_none_iff] at hfound ⊢
          intro item hitem
          exact hfound item ((hash.perm items).mem_iff.mpr ((hash'.perm items).mem_iff.mp hitem))
        rw [hnone]
    | some b =>
        obtain ⟨item, hitem⟩ := exists_of_findSome?_order hfound
        have hmem := hf item (Option.ne_none_iff_exists'.mpr ⟨b, hitem⟩)
        cases hfound' : (hash'.order items).findSome? f with
        | none =>
            have hnone := List.findSome?_eq_none_iff.mp hfound' item
              ((hash'.perm items).mem_iff.mpr hmem)
            cases hnone.symm.trans hitem
        | some b' =>
            obtain ⟨item', hitem'⟩ := exists_of_findSome?_order hfound'
            exact hall item item' b hitem b' hitem'

theorem forall_orders_getD_iff_subsingleton (items : List String) (default : β) (moved : Set String)
    (hf : ∀ item, f item ≠ none → item ∈ items) (hmoved : ∀ item, f item ≠ none ↔ item ∈ moved)
    (hown : ∀ item item' b, f item = some b → f item' = some b → item = item') :
    (∀ hash hash' : HashOrder, ((hash.order items).findSome? f).getD default =
        ((hash'.order items).findSome? f).getD default) ↔ moved.Subsingleton := by
  rw [forall_orders_getD_iff items default hf]
  constructor
  · intro hsame item hitem item' hitem'
    obtain ⟨b, hb⟩ := Option.ne_none_iff_exists'.mp ((hmoved item).mpr hitem)
    obtain ⟨b', hb'⟩ := Option.ne_none_iff_exists'.mp ((hmoved item').mpr hitem')
    apply hown item item' b hb
    rw [hsame item item' b hb b' hb', hb']
  · intro hone item item' b hb b' hb'
    have hitem := (hmoved item).mp (Option.ne_none_iff_exists'.mpr ⟨b, hb⟩)
    have hitem' := (hmoved item').mp (Option.ne_none_iff_exists'.mpr ⟨b', hb'⟩)
    obtain rfl := hone hitem hitem'
    exact Option.some.inj (hb.symm.trans hb')

end

/-! ## The WebSocket listener -/

namespace CopyEngine

section

variable (ammPool : Option String) (delta : Option (ℚ × ℚ)) (mint : String) (pre post : Nat)

def mintSwap : Option ParsedTransaction :=
  if pre < post then some
    { buy := some
        { parsed :=
            { mint := mint
              solAmount := (delta.map Prod.snd).filter fun spent => 0 < spent
              tokenAmount := some (post - pre)
              ammPool := ammPool
              targetPumpAccounts := none }
          trader := none }
      sell := none }
  else if post < pre then some
    { buy := none
      sell := some
        { parsed :=
            { mint := mint
              tokenAmount := some (pre - post)
              solReceived := (delta.map Prod.fst).filter fun received => 0 < received
              ammPool := ammPool }
          trader := none } }
  else none

private theorem mintSwap_ne_none_iff :
    mintSwap ammPool delta mint pre post ≠ none ↔ pre ≠ post := by
  unfold mintSwap
  by_cases hgained : pre < post
  · simp [hgained, hgained.ne]
  · by_cases hlost : post < pre
    · simp [hgained, hlost, hlost.ne']
    · have hsame : pre = post := by omega
      simp [hsame]

private theorem mint_of_mintSwap {swap : ParsedTransaction}
    (h : mintSwap ammPool delta mint pre post = some swap) :
    (swap.swapReport.map fun report => report.mint) = some mint := by
  unfold mintSwap at h
  split at h
  · cases h
    rfl
  · split at h
    · cases h
      rfl
    · cases h

end

private theorem tryParseRaydiumSwap_eq (p : Platform) (hash : HashOrder) (result : Json)
    (keys : List String) (targetWallet : String) (ammPool : Option String) :
    tryParseRaydiumSwap p hash result keys targetWallet ammPool =
      match targetBalances result keys targetWallet with
      | none => ⟨none, none⟩
      | some (pre, post) =>
          ((allMints hash pre post).findSome? fun mint =>
            mintSwap ammPool (computeSolDelta p.rounding result keys targetWallet) mint
              (amountOf pre mint) (amountOf post mint)).getD ⟨none, none⟩ := rfl

theorem tryParseRaydiumSwap_order_iff (p : Platform) (result : Json) (keys : List String)
    (targetWallet : String) (ammPool : Option String) :
    (∀ hash hash', tryParseRaydiumSwap p hash result keys targetWallet ammPool =
        tryParseRaydiumSwap p hash' result keys targetWallet ammPool) ↔
      ∀ balances, targetBalances result keys targetWallet = some balances →
        {mint | amountOf balances.1 mint ≠ amountOf balances.2 mint}.Subsingleton := by
  simp only [tryParseRaydiumSwap_eq]
  cases targetBalances result keys targetWallet with
  | none => simp
  | some balances =>
      obtain ⟨pre, post⟩ := balances
      simp only [Option.some.injEq, forall_eq']
      apply forall_orders_getD_iff_subsingleton ((pre ++ post).map Prod.fst).dedup
      · intro mint hmint
        change mint ∈ allMints .listed pre post
        exact mem_allMints ((mintSwap_ne_none_iff ..).mp hmint)
      · intro mint
        exact mintSwap_ne_none_iff ..
      · intro mint mint' swap h h'
        have hmint := mint_of_mintSwap _ _ _ _ _ h
        have hmint' := mint_of_mintSwap _ _ _ _ _ h'
        exact Option.some.inj (hmint.symm.trans hmint')

end CopyEngine

/-! ## The Geyser listener -/

namespace Geyser

section

variable {sellTx : Bool} {slot : Nat} {info : SubscribeUpdateTransactionInfo} {dex : DexType}
  {ammPool : Option String} {received spent : ℚ}

private theorem mints_of_swapSignals {mint : String} {pre post : Nat} {sent : List Signal}
    (h : swapSignals sellTx slot info dex ammPool received spent mint pre post = some sent)
    (hsent : 0 < received → sellTx = true) :
    sent.map (fun signal => signal.report.mint) = [mint] := by
  obtain ⟨-, buy, rfl, -, rfl, -⟩ | ⟨hlost, sell, rfl, -, rfl, -⟩ := swapSignals_cases h
  · rfl
  · rw [if_pos (hsent hlost.2)]
    rfl

end

section

variable (p : Platform) (ids : ProgramIds) (targetBytes : List UInt8) (sellTx : Bool)
  (slot : Nat) (info : SubscribeUpdateTransactionInfo)

private theorem scan_order_iff (dex : DexType) (ammPool : Option String) {received spent : ℚ}
    (hdelta : received = 0 ∨ spent = 0) (pre post : List (String × Nat)) :
    (∀ hash hash' : HashOrder,
        ((allMints hash pre post).findSome? fun mint => swapSignals sellTx slot info dex ammPool
          received spent mint (amountOf pre mint) (amountOf post mint)).getD [] =
        ((allMints hash' pre post).findSome? fun mint => swapSignals sellTx slot info dex ammPool
          received spent mint (amountOf pre mint) (amountOf post mint)).getD []) ↔
      (0 < spent → {mint | amountOf pre mint < amountOf post mint}.Subsingleton) ∧
        (0 < received → sellTx = true →
          {mint | amountOf post mint < amountOf pre mint}.Subsingleton) := by
  by_cases hsent : 0 < received → sellTx = true
  · refine (forall_orders_getD_iff_subsingleton ((pre ++ post).map Prod.fst).dedup []
      {mint | (amountOf pre mint < amountOf post mint ∧ 0 < spent) ∨
        (amountOf post mint < amountOf pre mint ∧ 0 < received)}
      (fun _ => mem_allMints_of_swapSignals .listed)
      (fun _ => swapSignals_ne_none_iff) ?_).trans ?_
    · intro mint mint' signals h h'
      have hmint := mints_of_swapSignals h hsent
      have hmint' := mints_of_swapSignals h' hsent
      exact List.singleton_injective (hmint.symm.trans hmint')
    · rcases hdelta with rfl | rfl
      · by_cases hspent : 0 < spent <;> simp [hspent]
      · by_cases hreceived : 0 < received <;> simp [hreceived, hsent]
  · push Not at hsent
    obtain ⟨hreceived, hchannel⟩ := hsent
    obtain rfl : spent = 0 := hdelta.resolve_left hreceived.ne'
    have hnothing (mint : String) (signals : List Signal)
        (h : swapSignals sellTx slot info dex ammPool received 0 mint (amountOf pre mint)
          (amountOf post mint) = some signals) : signals = [] := by
      simp only [swapSignals, lt_irrefl, and_false, if_false, hchannel] at h
      split at h
      · cases h
        rfl
      · cases h
    refine iff_of_true ?_ ⟨fun hspent => absurd hspent (lt_irrefl 0), fun _ h => absurd h hchannel⟩
    apply (forall_orders_getD_iff ((pre ++ post).map Prod.fst).dedup [] fun _ =>
      mem_allMints_of_swapSignals .listed).mpr
    intro mint mint' signals h signals' h'
    rw [hnothing mint signals h, hnothing mint' signals' h']

private theorem parseRaydiumFromProto_order_iff (keys : List (List UInt8)) (dex : DexType) :
    (∀ hash hash', parseRaydiumFromProto p hash ids targetBytes sellTx slot info keys dex =
        parseRaydiumFromProto p hash' ids targetBytes sellTx slot info keys dex) ↔
      ∀ status, info.meta = some status → ∀ received spent,
        computeSolDelta p.rounding info keys targetBytes = some (received, spent) →
          (raydiumProgram ids dex).isSome = true →
            let pre := amountOf (tokenAmounts (encodeBase58 targetBytes) status.preTokenBalances)
            let post := amountOf (tokenAmounts (encodeBase58 targetBytes) status.postTokenBalances)
            (0 < spent → {mint | pre mint < post mint}.Subsingleton) ∧
              (0 < received → sellTx = true → {mint | post mint < pre mint}.Subsingleton) := by
  unfold parseRaydiumFromProto
  cases info.meta with
  | none => simp
  | some status =>
      cases hdelta : computeSolDelta p.rounding info keys targetBytes with
      | none => simp
      | some delta =>
          cases raydiumProgram ids dex with
          | none => simp
          | some program =>
              obtain ⟨received, spent⟩ := delta
              simpa using scan_order_iff sellTx slot info dex (extractAmmPool info keys program)
                (solDelta_one_sided hdelta)
                (tokenAmounts (encodeBase58 targetBytes) status.preTokenBalances)
                (tokenAmounts (encodeBase58 targetBytes) status.postTokenBalances)

end

end Geyser

/-! ## Both listeners -/

/--
What the listeners make of a Raydium swap is the same in every order of the
mints exactly if at most one of them moved in a direction that is reported.
-/
theorem raydium_order_free_iff (p : Platform) :
    (∀ (result : Json) (keys : List String) (targetWallet : String) (ammPool : Option String),
      (∀ hash hash',
          CopyEngine.tryParseRaydiumSwap p hash result keys targetWallet ammPool =
            CopyEngine.tryParseRaydiumSwap p hash' result keys targetWallet ammPool) ↔
        ∀ balances, CopyEngine.targetBalances result keys targetWallet = some balances →
          {mint | amountOf balances.1 mint ≠ amountOf balances.2 mint}.Subsingleton) ∧
      ∀ (ids : Geyser.ProgramIds) (targetBytes : List UInt8) (sellTx : Bool) (slot : Nat)
        (info : Geyser.SubscribeUpdateTransactionInfo) (keys : List (List UInt8))
        (dex : DexType),
        (∀ hash hash',
            Geyser.parseRaydiumFromProto p hash ids targetBytes sellTx slot info keys dex =
              Geyser.parseRaydiumFromProto p hash' ids targetBytes sellTx slot info keys dex) ↔
          ∀ status, info.meta = some status → ∀ received spent,
            Geyser.computeSolDelta p.rounding info keys targetBytes = some (received, spent) →
              (Geyser.raydiumProgram ids dex).isSome = true →
                let wallet := encodeBase58 targetBytes
                let pre := amountOf (Geyser.tokenAmounts wallet status.preTokenBalances)
                let post := amountOf (Geyser.tokenAmounts wallet status.postTokenBalances)
                (0 < spent → {mint | pre mint < post mint}.Subsingleton) ∧
                  (0 < received → sellTx = true → {mint | post mint < pre mint}.Subsingleton) :=
  ⟨CopyEngine.tryParseRaydiumSwap_order_iff p, fun ids targetBytes sellTx slot info =>
    Geyser.parseRaydiumFromProto_order_iff p ids targetBytes sellTx slot info⟩

namespace PairedSwap

def boughtTwo : Geyser.TransactionStatusMeta where
  err := none
  preBalances := [1000000000, 0, 0, 0]
  postBalances := [500000000, 0, 0, 0]
  innerInstructions := []
  loadedWritableAddresses := []
  loadedReadonlyAddresses := []
  postTokenBalances :=
    [{ mint := "first", owner := sampleWallet, uiTokenAmount := some "100" },
      { mint := "second", owner := sampleWallet, uiTokenAmount := some "7" }]

def boughtTwoMessage : Geyser.TransactionMessage where
  accountKeys := sampleKeys
  instructions := [sampleInstruction]

theorem raydium_order_matters :
    CopyEngine.tryParseRaydiumSwap .plain (HashOrder.first "first")
        (swapJson 3 boughtTwoMessage boughtTwo) (sampleKeys.map encodeBase58) sampleWallet none ≠
      CopyEngine.tryParseRaydiumSwap .plain (HashOrder.first "second")
        (swapJson 3 boughtTwoMessage boughtTwo) (sampleKeys.map encodeBase58) sampleWallet none ∧
    Geyser.parseRaydiumFromProto .plain (HashOrder.first "first") Geyser.programIds
        (List.replicate 32 1) true 1
        { signature := [1]
          transaction := some { message := some boughtTwoMessage }
          «meta» := some boughtTwo } sampleKeys .raydiumV4 ≠
      Geyser.parseRaydiumFromProto .plain (HashOrder.first "second") Geyser.programIds
        (List.replicate 32 1) true 1
        { signature := [1]
          transaction := some { message := some boughtTwoMessage }
          «meta» := some boughtTwo } sampleKeys .raydiumV4 := by
  constructor
  · decide +kernel
  · decide +kernel

end PairedSwap

end Girasol
