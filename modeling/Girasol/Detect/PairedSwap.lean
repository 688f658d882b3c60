import Girasol.Detect.PairedTransaction
import Girasol.Detect.Raydium

/-!
# One Raydium swap as JSON and as protocol buffer

Both Raydium parsers scan the token balances of the target.  They differ in the
entries they count for the target, in what they ask of its SOL balance, and in
the instructions they search for the pool.
-/

namespace Girasol

open Foundation

structure TokenBalanceJson (entry : Json) (balance : Geyser.TokenBalance) : Prop where
  owner : ((entry.get? "owner").bind Json.asStr).getD "" = balance.owner
  mint : (entry.get? "mint").bind Json.asStr = some balance.mint
  amount : (CopyEngine.path ["uiTokenAmount", "amount"] entry).bind Json.asStr =
    balance.uiTokenAmount

structure PairedSwap extends PairedTransaction where
  preEntries : List Json
  postEntries : List Json
  pre_listed : CopyEngine.path ["meta", "preTokenBalances"] result = some (.array preEntries)
  post_listed : CopyEngine.path ["meta", "postTokenBalances"] result = some (.array postEntries)
  pre_json : List.Forall₂ TokenBalanceJson preEntries status.preTokenBalances
  post_json : List.Forall₂ TokenBalanceJson postEntries status.postTokenBalances

structure SwapReport extends TradeReport where
  ammPool : Option String
  deriving DecidableEq

def Signal.swapReport (signal : Signal) : SwapReport := ⟨signal.report, signal.ammPool⟩

def CopyEngine.ParsedTransaction.swapReport (trades : CopyEngine.ParsedTransaction) :
    Option SwapReport :=
  (trades.buy.map fun found =>
    { isBuy := true, mint := found.parsed.mint, tokenAmount := found.parsed.tokenAmount
      ammPool := found.parsed.ammPool }).or
  (trades.sell.map fun found =>
    { isBuy := false, mint := found.parsed.mint, tokenAmount := found.parsed.tokenAmount
      ammPool := found.parsed.ammPool })

def movement (pre post : Nat) : Option (Bool × Nat) :=
  if pre < post then some (true, post - pre)
  else if post < pre then some (false, pre - post)
  else none

def reportMove (ammPool : Option String) (mint : String) (moved : Bool × Nat) : SwapReport where
  isBuy := moved.1
  mint := mint
  tokenAmount := some moved.2
  ammPool := ammPool

theorem reportMove_inj {ammPool ammPool' : Option String} {mint mint' : String}
    {moved moved' : Bool × Nat} :
    reportMove ammPool mint moved = reportMove ammPool' mint' moved' ↔
      ammPool = ammPool' ∧ mint = mint' ∧ moved = moved' := by
  obtain ⟨side, amount⟩ := moved
  obtain ⟨side', amount'⟩ := moved'
  simp [reportMove, and_comm, and_assoc]

theorem mem_allMints_of_movement (hash : HashOrder) {pre post : List (String × Nat)}
    {mint : String} (h : movement (amountOf pre mint) (amountOf post mint) ≠ none) :
    mint ∈ allMints hash pre post := by
  refine mem_allMints fun hsame => h ?_
  simp [movement, hsame]

def opposed (delta : ℚ × ℚ) (moved : Bool × Nat) : Bool :=
  if moved.1 then 0 < delta.2 else 0 < delta.1

/-! ## What each parser reports -/

namespace CopyEngine

def raydiumAddress : DexType → Option String
  | .raydiumV4 => some raydiumV4
  | .raydiumCpmm => some raydiumCpmm
  | _ => none

theorem swapReport_tryParseRaydiumSwap (p : Platform) (hash : HashOrder) (result : Json)
    (keys : List String) (targetWallet : String) (ammPool : Option String) :
    (tryParseRaydiumSwap p hash result keys targetWallet ammPool).swapReport =
      (targetBalances result keys targetWallet).bind fun balances =>
        (allMints hash balances.1 balances.2).findSome? fun mint =>
          (movement (amountOf balances.1 mint) (amountOf balances.2 mint)).map
            (reportMove ammPool mint) := by
  unfold tryParseRaydiumSwap
  cases targetBalances result keys targetWallet with
  | none => rfl
  | some balances =>
      obtain ⟨pre, post⟩ := balances
      rw [Option.bind_some]
      dsimp only
      induction allMints hash pre post with
      | nil => rfl
      | cons mint mints ih =>
          rw [List.findSome?_cons, List.findSome?_cons]
          by_cases hgained : amountOf pre mint < amountOf post mint
          · simp [hgained, movement, ParsedTransaction.swapReport, reportMove]
          · by_cases hlost : amountOf post mint < amountOf pre mint
            · simp [hgained, hlost, movement, ParsedTransaction.swapReport, reportMove]
            · simpa [hgained, hlost, movement] using ih

end CopyEngine

namespace Geyser

private theorem swapReports_swapSignals (slot : Nat) (info : SubscribeUpdateTransactionInfo)
    (dex : DexType) (ammPool : Option String) (delta : ℚ × ℚ) (mint : String) (pre post : Nat) :
    (swapSignals true slot info dex ammPool delta.1 delta.2 mint pre post).map
        (List.map Signal.swapReport) =
      (((movement pre post).filter (opposed delta)).map (reportMove ammPool mint)).map
        fun report => [report] := by
  by_cases hgained : pre < post
  · by_cases hspent : 0 < delta.2
    · simp [swapSignals, hgained, hspent, movement, opposed, reportMove, Signal.swapReport,
        Signal.report, Signal.ammPool]
    · simp [swapSignals, hgained, hgained.not_gt, hspent, movement, opposed]
  · by_cases hlost : post < pre
    · by_cases hreceived : 0 < delta.1
      · simp [swapSignals, hgained, hlost, hreceived, movement, opposed, reportMove,
          Signal.swapReport, Signal.report, Signal.ammPool]
      · simp [swapSignals, hgained, hlost, hreceived, movement, opposed]
    · simp [swapSignals, hgained, hlost, movement]

theorem swapReports_parseRaydiumFromProto (p : Platform) (hash : HashOrder) (ids : ProgramIds)
    (targetBytes : List UInt8) (slot : Nat) (info : SubscribeUpdateTransactionInfo)
    (keys : List (List UInt8)) {dex : DexType} {program : List UInt8}
    (hdex : raydiumProgram ids dex = some program) {status : TransactionStatusMeta}
    (hstatus : info.meta = some status) {pre post : List (String × Nat)}
    (hpre : tokenAmounts (encodeBase58 targetBytes) status.preTokenBalances = pre)
    (hpost : tokenAmounts (encodeBase58 targetBytes) status.postTokenBalances = post) :
    (parseRaydiumFromProto p hash ids targetBytes true slot info keys dex).map
        Signal.swapReport =
      ((computeSolDelta p.rounding info keys targetBytes).bind fun delta =>
        (allMints hash pre post).findSome? fun mint =>
          ((movement (amountOf pre mint) (amountOf post mint)).filter (opposed delta)).map
            (reportMove (extractAmmPool info keys program) mint)).toList := by
  unfold parseRaydiumFromProto
  rw [hstatus, hdex]
  cases computeSolDelta p.rounding info keys targetBytes with
  | none => rfl
  | some delta =>
      obtain ⟨received, spent⟩ := delta
      rw [Option.bind_some]
      dsimp only
      rw [hpre, hpost]
      generalize extractAmmPool info keys program = ammPool
      have hmint : (Option.map (List.map Signal.swapReport) ∘ fun mint =>
          swapSignals true slot info dex ammPool received spent mint (amountOf pre mint)
            (amountOf post mint)) = Option.map (fun report => [report]) ∘ fun mint =>
          ((movement (amountOf pre mint) (amountOf post mint)).filter
            (opposed (received, spent))).map (reportMove ammPool mint) :=
        funext fun mint => swapReports_swapSignals slot info dex ammPool (received, spent) mint
          (amountOf pre mint) (amountOf post mint)
      rw [← Option.getD_map (List.map Signal.swapReport), List.map_findSome?, hmint,
        ← List.map_findSome?]
      cases (allMints hash pre post).findSome? _ <;> rfl

end Geyser

/-! ## Scans in any order -/

def HashOrder.first (item : String) : HashOrder where
  order items := if item ∈ items then item :: items.erase item else items
  perm items := by
    split
    case isTrue hmem => exact (List.perm_cons_erase hmem).symm
    case isFalse => rfl

section

variable {β : Type} {f : String → Option β} {items : List String}

@[simp] theorem findSome?_first {item : String} {b : β} (hmem : item ∈ items)
    (hitem : f item = some b) :
    ((HashOrder.first item).order items).findSome? f = some b := by
  simp only [HashOrder.first, if_pos hmem, List.findSome?_cons, hitem]

theorem exists_of_findSome?_order {hash : HashOrder} {b : β}
    (hfound : (hash.order items).findSome? f = some b) : ∃ item, f item = some b := by
  obtain ⟨item, -, hitem⟩ := List.exists_of_findSome?_eq_some hfound
  exact ⟨item, hitem⟩

end

theorem forall_orders_findSome?_iff {β : Type} {f g : String → Option β} (item : String)
    (items items' : List String) (hf : ∀ i, f i ≠ none → i ∈ items)
    (hg : ∀ i, g i ≠ none → i ∈ items') (hone : ∀ i, g i ≠ none → i = item)
    (hdistinct : ∀ i j b, f i = some b → g j = some b → i = j) :
    (∀ hash hash' : HashOrder,
        (hash.order items).findSome? f = (hash'.order items').findSome? g) ↔ ∀ i, f i = g i := by
  have hlast (hash : HashOrder) : (hash.order items').findSome? g = g item :=
    findSome?_of_unique _ hone fun hne => (hash.perm items').mem_iff.mpr (hg item hne)
  constructor
  · intro hscan i
    cases hi : f i with
    | some b =>
        have hfirst := (hscan (HashOrder.first i) .listed).trans (hlast .listed)
        rw [findSome?_first (hf i (by simp [hi])) hi] at hfirst
        rw [hdistinct i item b hi hfirst.symm, ← hfirst]
    | none =>
        by_contra hne
        obtain rfl := hone i (Ne.symm hne)
        obtain ⟨b, hb⟩ := Option.ne_none_iff_exists'.mp (Ne.symm hne)
        have hlisted := (hscan .listed .listed).trans (hlast .listed)
        rw [hb] at hlisted
        obtain ⟨j, hj⟩ := exists_of_findSome?_order hlisted
        rw [hdistinct j i b hj hb, hi] at hj
        cases hj
  · intro hfg hash hash'
    obtain rfl : f = g := funext hfg
    rw [hlast hash']
    exact findSome?_of_unique _ hone fun hne => (hash.perm items).mem_iff.mpr (hf item hne)

/-! ## The two forms of one swap -/

namespace PairedSwap

variable (tx : PairedSwap)

def ListsPool (program : List UInt8) (ix : Geyser.CompiledInstruction) : Prop :=
  tx.keys.idxOf? program = some ix.programIdIndex ∧
    (Geyser.accountKey tx.keys 1 ix).isSome = true

def SamePool (program : List UInt8) : Prop :=
  (∃ ix ∈ tx.message.instructions, tx.ListsPool program ix) ∨
    ∀ ix ∈ tx.status.innerInstructions.flatten, ¬tx.ListsPool program ix

section

variable (targetWallet mint : String)

/-- How a balance of the target moved, by the owner of its token accounts. -/
def ownerMove : Option (Bool × Nat) :=
  movement (amountOf (Geyser.tokenAmounts targetWallet tx.status.preTokenBalances) mint)
    (amountOf (Geyser.tokenAmounts targetWallet tx.status.postTokenBalances) mint)

def webSocketMove : Option (Bool × Nat) :=
  let keys := tx.keys.map encodeBase58
  movement (amountOf (CopyEngine.tokenAmounts keys targetWallet tx.preEntries) mint)
    (amountOf (CopyEngine.tokenAmounts keys targetWallet tx.postEntries) mint)

end

/-- The balances read for the WebSocket move as those by owner do where SOL moved against them. -/
structure ReadAlike (program : List UInt8) (targetWallet : String) (delta : ℚ × ℚ) : Prop where
  moves : ∀ mint, tx.webSocketMove targetWallet mint =
    (tx.ownerMove targetWallet mint).filter (opposed delta)
  pool : (∃ mint, ((tx.ownerMove targetWallet mint).filter (opposed delta)).isSome = true) →
    tx.SamePool program

def webSocketPool (dex : DexType) : Option String := do
  let keys := CopyEngine.extractAccountKeys tx.result
  let programIdx ← (CopyEngine.raydiumAddress dex).bind fun program => keys.idxOf? program
  CopyEngine.extractRaydiumAmmPool keys programIdx (CopyEngine.allInstructions tx.result)

def webSocketMint (targetWallet : String) (dex : DexType) (mint : String) : Option SwapReport :=
  (tx.webSocketMove targetWallet mint).map (reportMove (tx.webSocketPool dex) mint)

def geyserMint (targetWallet : String) (program : List UInt8) (delta : ℚ × ℚ) (mint : String) :
    Option SwapReport :=
  ((tx.ownerMove targetWallet mint).filter (opposed delta)).map
    (reportMove (Geyser.extractAmmPool tx.info tx.keys program) mint)

def webSocketReport (p : Platform) (hash : HashOrder) (targetWallet : String) (dex : DexType) :
    Option SwapReport :=
  (CopyEngine.tryParseRaydiumSwap p hash tx.result (CopyEngine.extractAccountKeys tx.result)
    targetWallet (tx.webSocketPool dex)).swapReport

def geyserReports (p : Platform) (hash : HashOrder) (ids : Geyser.ProgramIds)
    (targetBytes : List UInt8) (slot : Nat) (dex : DexType) : List SwapReport :=
  (Geyser.parseRaydiumFromProto p hash ids targetBytes true slot tx.info tx.keys dex).map
    Signal.swapReport

/-! ## Pools -/

private theorem extractRaydiumAmmPool_json (keys : List (List UInt8)) (programIdx : Nat)
    {instrs : List Json} {ixs : List Geyser.CompiledInstruction}
    (h : List.Forall₂ InstructionJson instrs ixs) :
    CopyEngine.extractRaydiumAmmPool (keys.map encodeBase58) programIdx instrs =
      ixs.findSome? fun ix =>
        if ix.programIdIndex = programIdx then (Geyser.accountKey keys 1 ix).map encodeBase58
        else none := by
  induction h with
  | nil => rfl
  | @cons instr ix _ _ hinstr _ ih =>
      rw [CopyEngine.extractRaydiumAmmPool, List.findSome?_cons, hinstr.programIdIndex,
        hinstr.accounts, ih]
      by_cases hprogram : ix.programIdIndex = programIdx
      · cases hi : ix.accounts[1]? with
        | none => simp [Json.asU64, Json.asArray, hprogram, Geyser.accountKey, hi]
        | some i =>
            cases hkey : keys[i.toNat]? <;>
              simp [Json.asU64, Json.asArray, hprogram, Geyser.accountKey, hi, hkey]
      · simp [Json.asU64, hprogram]

variable {tx} {p : Platform} {ids : Geyser.ProgramIds} {targetWallet : String}
  {targetBytes : List UInt8} {dex : DexType} {program : List UInt8}

private theorem decode_raydiumAddress (hids : Geyser.ProgramIds.new = some ids)
    (hdex : Geyser.raydiumProgram ids dex = some program) :
    ∃ address, CopyEngine.raydiumAddress dex = some address ∧
      decodeBase58 address = some program := by
  simp only [Geyser.ProgramIds.new, Option.bind_eq_bind, Option.bind_eq_some_iff] at hids
  obtain ⟨_, -, _, -, v4, hv4, cpmm, hcpmm, heq⟩ := hids
  cases heq
  cases dex with
  | raydiumV4 =>
      cases hdex
      exact ⟨_, rfl, hv4⟩
  | raydiumCpmm =>
      cases hdex
      exact ⟨_, rfl, hcpmm⟩
  | _ => cases hdex

theorem pools_eq_iff (hids : Geyser.ProgramIds.new = some ids)
    (hdex : Geyser.raydiumProgram ids dex = some program) :
    tx.webSocketPool dex = Geyser.extractAmmPool tx.info tx.keys program ↔
      tx.SamePool program := by
  obtain ⟨address, haddress, hdecode⟩ := decode_raydiumAddress hids hdex
  unfold webSocketPool Geyser.extractAmmPool SamePool ListsPool
  simp only [PairedTransaction.extractAccountKeys_result, haddress, Option.bind_some,
    PairedTransaction.idxOf?_map_encodeBase58 hdecode]
  cases tx.keys.idxOf? program with
  | none => simp
  | some programIdx =>
      simp only [Option.bind_eq_bind, Option.bind_some,
        extractRaydiumAmmPool_json tx.keys programIdx tx.allInstructions_json]
      change (tx.message.instructions ++ tx.status.innerInstructions.flatten).findSome? _ =
        tx.message.instructions.findSome? _ ↔ _
      have hlists (ix : Geyser.CompiledInstruction) :
          (if ix.programIdIndex = programIdx then
              (Geyser.accountKey tx.keys 1 ix).map encodeBase58 else none).isSome = true ↔
            some programIdx = some ix.programIdIndex ∧
              (Geyser.accountKey tx.keys 1 ix).isSome = true := by
        by_cases hprogram : ix.programIdIndex = programIdx
        · simp [hprogram]
        · simp [hprogram, eq_comm (a := programIdx)]
      simp only [← hlists, List.findSome?_append]
      generalize hpool : (fun ix : Geyser.CompiledInstruction =>
        if ix.programIdIndex = programIdx then (Geyser.accountKey tx.keys 1 ix).map encodeBase58
        else none) = pool
      simp only [funext_iff] at hpool
      simp only [hpool]
      rw [← List.findSome?_isSome_iff]
      cases tx.message.instructions.findSome? pool with
      | some key => simp
      | none => simp [List.findSome?_eq_none_iff]

theorem webSocketReport_eq (hash : HashOrder)
    (hwallet : decodeBase58 targetWallet = some targetBytes) :
    tx.webSocketReport p hash targetWallet dex =
      (tx.keys.idxOf? targetBytes).bind fun _ =>
        (allMints hash (CopyEngine.tokenAmounts (tx.keys.map encodeBase58) targetWallet
            tx.preEntries)
          (CopyEngine.tokenAmounts (tx.keys.map encodeBase58) targetWallet
            tx.postEntries)).findSome? (tx.webSocketMint targetWallet dex) := by
  have hbalances : CopyEngine.targetBalances tx.result (tx.keys.map encodeBase58) targetWallet =
      (tx.keys.idxOf? targetBytes).map fun _ =>
        (CopyEngine.tokenAmounts (tx.keys.map encodeBase58) targetWallet tx.preEntries,
          CopyEngine.tokenAmounts (tx.keys.map encodeBase58) targetWallet tx.postEntries) := by
    rw [CopyEngine.targetBalances, PairedTransaction.idxOf?_map_encodeBase58 hwallet,
      tx.pre_listed, tx.post_listed]
    cases tx.keys.idxOf? targetBytes <;> rfl
  rw [webSocketReport, CopyEngine.swapReport_tryParseRaydiumSwap,
    PairedTransaction.extractAccountKeys_result, hbalances]
  cases tx.keys.idxOf? targetBytes <;> rfl

theorem swapReport_parseRaydium (hash : HashOrder) {address : String}
    (h : CopyEngine.raydiumProgram (CopyEngine.extractAccountKeys tx.result) =
      some (dex, address)) :
    (CopyEngine.parseRaydium p hash tx.result (CopyEngine.extractAccountKeys tx.result)
      targetWallet).swapReport = tx.webSocketReport p hash targetWallet dex := by
  have haddress : CopyEngine.raydiumAddress dex = some address := by
    unfold CopyEngine.raydiumProgram at h
    split at h
    · cases h
      rfl
    · split at h
      · cases h
        rfl
      · cases h
  simp only [CopyEngine.parseRaydium, h, webSocketReport, webSocketPool, haddress]
  rfl

theorem geyserReports_eq (hash : HashOrder) (slot : Nat)
    (hwallet : decodeBase58 targetWallet = some targetBytes)
    (hdex : Geyser.raydiumProgram ids dex = some program) :
    tx.geyserReports p hash ids targetBytes slot dex =
      ((Geyser.computeSolDelta p.rounding tx.info tx.keys targetBytes).bind fun delta =>
        (allMints hash (Geyser.tokenAmounts targetWallet tx.status.preTokenBalances)
          (Geyser.tokenAmounts targetWallet tx.status.postTokenBalances)).findSome?
            (tx.geyserMint targetWallet program delta)).toList := by
  have howner : encodeBase58 targetBytes = targetWallet := encodeBase58_eq_iff.mpr hwallet
  exact Geyser.swapReports_parseRaydiumFromProto p hash ids targetBytes slot tx.info tx.keys hdex
    (rfl : tx.info.meta = some tx.status) (by rw [howner]) (by rw [howner])

theorem readAlike_iff {delta : ℚ × ℚ} (hids : Geyser.ProgramIds.new = some ids)
    (hdex : Geyser.raydiumProgram ids dex = some program) :
    (∀ mint, tx.webSocketMint targetWallet dex mint =
        tx.geyserMint targetWallet program delta mint) ↔
      tx.ReadAlike program targetWallet delta := by
  constructor
  · intro hreports
    have hmint (mint : String) : tx.webSocketMove targetWallet mint =
        (tx.ownerMove targetWallet mint).filter (opposed delta) ∧
          (((tx.ownerMove targetWallet mint).filter (opposed delta)).isSome = true →
            tx.webSocketPool dex = Geyser.extractAmmPool tx.info tx.keys program) := by
      have hreport := hreports mint
      unfold webSocketMint geyserMint at hreport
      cases hsocket : tx.webSocketMove targetWallet mint <;>
        cases howner : (tx.ownerMove targetWallet mint).filter (opposed delta) <;>
          simp_all [reportMove_inj]
    refine ⟨fun mint => (hmint mint).1, ?_⟩
    rintro ⟨mint, hsome⟩
    exact (pools_eq_iff hids hdex).mp ((hmint mint).2 hsome)
  · rintro ⟨hmoves, hpool⟩ mint
    rw [webSocketMint, geyserMint, hmoves mint]
    cases hsome : (tx.ownerMove targetWallet mint).filter (opposed delta) with
    | none => rfl
    | some moved => rw [(pools_eq_iff hids hdex).mpr (hpool ⟨mint, by rw [hsome]; rfl⟩)]

private theorem mem_of_webSocketMint (hash : HashOrder) {mint : String}
    (h : tx.webSocketMint targetWallet dex mint ≠ none) :
    mint ∈ allMints hash
      (CopyEngine.tokenAmounts (tx.keys.map encodeBase58) targetWallet tx.preEntries)
      (CopyEngine.tokenAmounts (tx.keys.map encodeBase58) targetWallet tx.postEntries) :=
  mem_allMints_of_movement hash (mt Option.map_eq_none_iff.mpr h)

private theorem ownerMove_of_geyserMint {delta : ℚ × ℚ} {mint : String}
    (h : tx.geyserMint targetWallet program delta mint ≠ none) :
    tx.ownerMove targetWallet mint ≠ none := by
  intro hnone
  exact h (by rw [geyserMint, hnone]; rfl)

private theorem mint_eq_of_reports {delta : ℚ × ℚ} {mint mint' : String} {report : SwapReport}
    (h : tx.webSocketMint targetWallet dex mint = some report)
    (h' : tx.geyserMint targetWallet program delta mint' = some report) : mint = mint' := by
  obtain ⟨moved, -, rfl⟩ := Option.map_eq_some_iff.mp h
  obtain ⟨moved', -, hsame⟩ := Option.map_eq_some_iff.mp h'
  exact (reportMove_inj.mp hsame).2.1.symm

/--
Both listeners report the same side, mint, amount and pool exactly if they read
the balances alike and the pool is not in an inner instruction alone.
-/
theorem swap_reports_agree_iff {p : Platform} {ids : Geyser.ProgramIds}
    (hids : Geyser.ProgramIds.new = some ids) {targetWallet : String} {targetBytes : List UInt8}
    (hwallet : decodeBase58 targetWallet = some targetBytes) (slot : Nat) {dex : DexType}
    {program : List UInt8} (hdex : Geyser.raydiumProgram ids dex = some program) (tx : PairedSwap)
    (hone : ∃! mint, tx.ownerMove targetWallet mint ≠ none) :
    (∀ hash hash', tx.geyserReports p hash' ids targetBytes slot dex =
        (tx.webSocketReport p hash targetWallet dex).toList) ↔
      ∀ delta, Geyser.computeSolDelta p.rounding tx.info tx.keys targetBytes = some delta →
        tx.ReadAlike program targetWallet delta := by
  have htoList (a b : Option SwapReport) : a.toList = b.toList ↔ b = a := by
    cases a <;> cases b <;> simp [eq_comm]
  simp only [geyserReports_eq _ slot hwallet hdex, webSocketReport_eq _ hwallet, htoList]
  cases hidx : tx.keys.idxOf? targetBytes with
  | none =>
      have hdelta : Geyser.computeSolDelta p.rounding tx.info tx.keys targetBytes = none := by
        simp [Geyser.computeSolDelta, hidx]
      simp [hdelta]
  | some idx =>
      obtain ⟨delta, hdelta⟩ : ∃ delta,
          Geyser.computeSolDelta p.rounding tx.info tx.keys targetBytes = some delta := by
        simp [Geyser.computeSolDelta, hidx, PairedTransaction.info]
      obtain ⟨item, -, hitem⟩ := hone
      simp only [hdelta, Option.bind_some, Option.some.injEq, forall_eq']
      rw [← readAlike_iff hids hdex]
      exact forall_orders_findSome?_iff item _ _
        (fun _ hne => mem_of_webSocketMint .listed hne)
        (fun _ hne => mem_allMints_of_movement .listed (ownerMove_of_geyserMint hne))
        (fun mint hne => hitem mint (ownerMove_of_geyserMint hne))
        (fun _ _ _ hreport hreport' => mint_eq_of_reports hreport hreport')

end PairedSwap

/-! ## Every swap has a JSON form -/

def tokenBalanceJson (accountIndex : Nat) (balance : Geyser.TokenBalance) : Json :=
  .object
    [("accountIndex", .posInt accountIndex),
      ("mint", .string balance.mint),
      ("owner", .string balance.owner),
      ("uiTokenAmount", .object
        (balance.uiTokenAmount.toList.map fun amount => ("amount", .string amount)))]

private theorem tokenBalanceJson_represents (accountIndex : Nat) (balance : Geyser.TokenBalance) :
    TokenBalanceJson (tokenBalanceJson accountIndex balance) balance := by
  obtain ⟨mint, owner, amount⟩ := balance
  cases amount <;> exact ⟨rfl, rfl, rfl⟩

theorem forall₂_tokenBalanceJson (accountIndex : Nat) (balances : List Geyser.TokenBalance) :
    List.Forall₂ TokenBalanceJson (balances.map (tokenBalanceJson accountIndex)) balances := by
  induction balances with
  | nil => exact .nil
  | cons balance balances ih => exact .cons (tokenBalanceJson_represents accountIndex balance) ih

def swapJson (accountIndex : Nat) (message : Geyser.TransactionMessage)
    (status : Geyser.TransactionStatusMeta) : Json :=
  match transactionJson message status with
  | .object [transaction, (_, .object fields)] =>
      .object [transaction, ("meta", .object (fields ++
        [("preTokenBalances",
            .array (status.preTokenBalances.map (tokenBalanceJson accountIndex))),
          ("postTokenBalances",
            .array (status.postTokenBalances.map (tokenBalanceJson accountIndex)))]))]
  | v => v

theorem swapJson_represents (accountIndex : Nat) (message : Geyser.TransactionMessage)
    (status : Geyser.TransactionStatusMeta) :
    TransactionJson (swapJson accountIndex message status) message status := by
  obtain ⟨hkeys, hwritable, hreadonly, hinstructions, hinner, hpre, hpost⟩ :=
    transactionJson_represents message status
  exact ⟨hkeys, hwritable, hreadonly, hinstructions, hinner, hpre, hpost⟩

namespace PairedSwap

def sampleKeys : List (List UInt8) :=
  [List.replicate 32 1, List.replicate 32 2, Geyser.programIds.raydiumV4, List.replicate 32 3]

def sampleWallet : String := encodeBase58 (List.replicate 32 1)

def sampleInstruction : Geyser.CompiledInstruction :=
  { programIdIndex := 2, accounts := [0, 1], data := [] }

def gained (postBalance : Nat) (instructions : List Geyser.CompiledInstruction)
    (innerInstructions : List (List Geyser.CompiledInstruction)) : PairedSwap where
  result := swapJson 3 _ _
  signature := [1]
  message := { accountKeys := sampleKeys, instructions := instructions }
  status :=
    { err := none, preBalances := [1000000000, 0, 0, 0], postBalances := [postBalance, 0, 0, 0]
      innerInstructions := innerInstructions
      loadedWritableAddresses := [], loadedReadonlyAddresses := []
      postTokenBalances :=
        [{ mint := "token", owner := sampleWallet, uiTokenAmount := some "100" }] }
  json := swapJson_represents _ _ _
  keys_length := (by decide +kernel : ∀ key ∈ sampleKeys ++ [] ++ [], key.length = 32)
  pre_complete := Nat.le_refl 4
  post_complete := Nat.le_refl 4
  preEntries := _
  postEntries := _
  pre_listed := rfl
  post_listed := rfl
  pre_json := forall₂_tokenBalanceJson 3 _
  post_json := forall₂_tokenBalanceJson 3 _

theorem move_gained (mint : String) :
    movement (amountOf [] mint) (amountOf [("token", 100)] mint) =
      if mint = "token" then some (true, 100) else none := by
  by_cases hmint : mint = "token"
  · simp [hmint, movement, amountOf]
  · have hne : (mint == "token") = false := beq_eq_false_iff_ne.mpr hmint
    simp [hmint, movement, amountOf, List.lookup_cons, hne]

theorem ownerMove_gained (postBalance : Nat) (instructions : List Geyser.CompiledInstruction)
    (innerInstructions : List (List Geyser.CompiledInstruction)) (mint : String) :
    (gained postBalance instructions innerInstructions).ownerMove sampleWallet mint =
      if mint = "token" then some (true, 100) else none := by
  have hpost : Geyser.tokenAmounts sampleWallet
      [{ mint := "token", owner := sampleWallet, uiTokenAmount := some "100" }] =
        [("token", 100)] := by
    decide +kernel
  change movement (amountOf [] mint) (amountOf (Geyser.tokenAmounts sampleWallet
    [{ mint := "token", owner := sampleWallet, uiTokenAmount := some "100" }]) mint) = _
  rw [hpost, move_gained]

theorem one_gained (postBalance : Nat) (instructions : List Geyser.CompiledInstruction)
    (innerInstructions : List (List Geyser.CompiledInstruction)) :
    ∃! mint, (gained postBalance instructions innerInstructions).ownerMove sampleWallet mint ≠
      none := by
  refine ⟨"token", by simp [ownerMove_gained], fun mint hmint => ?_⟩
  by_contra hother
  exact hmint (by simp [ownerMove_gained, hother])

def paidSwap : PairedSwap := gained 500000000 [sampleInstruction] []

theorem swap_reports_agree_iff_paid :
    paidSwap.geyserReports .plain .listed Geyser.programIds (List.replicate 32 1) 1 .raydiumV4 =
      (paidSwap.webSocketReport .plain .listed sampleWallet .raydiumV4).toList := by
  refine (swap_reports_agree_iff Geyser.new_eq_programIds (decodeBase58_encodeBase58 _) 1 rfl
    paidSwap (one_gained _ _ _)).mpr ?_ .listed .listed
  intro delta hdelta
  have hspent : Geyser.computeSolDelta .exact paidSwap.info paidSwap.keys (List.replicate 32 1) =
      some (0, 1 / 2) := by
    decide +kernel
  obtain rfl : (0, 1 / 2) = delta := Option.some.inj (hspent.symm.trans hdelta)
  have hsocket : CopyEngine.tokenAmounts (paidSwap.keys.map encodeBase58) sampleWallet
      paidSwap.postEntries = [("token", 100)] := by
    decide +kernel
  refine ⟨fun mint => ?_, fun _ => ?_⟩
  · have howner : paidSwap.ownerMove sampleWallet mint =
        if mint = "token" then some (true, 100) else none := ownerMove_gained _ _ _ mint
    change movement (amountOf [] mint) (amountOf (CopyEngine.tokenAmounts
      (paidSwap.keys.map encodeBase58) sampleWallet paidSwap.postEntries) mint) =
        (paidSwap.ownerMove sampleWallet mint).filter _
    rw [hsocket, howner, move_gained]
    have hopposed : opposed (0, 1 / 2) (true, 100) = true := by simp [opposed]
    by_cases hmint : mint = "token"
    · rw [if_pos hmint, Option.filter_some, if_pos hopposed]
    · rw [if_neg hmint]
      rfl
  · refine .inl ⟨sampleInstruction, List.mem_singleton_self _, ?_⟩
    unfold ListsPool
    decide +kernel

theorem swap_reports_differ :
    ((∃! mint, (gained 1000000000 [sampleInstruction] []).ownerMove sampleWallet mint ≠ none) ∧
      (gained 1000000000 [sampleInstruction] []).geyserReports .plain .listed Geyser.programIds
          (List.replicate 32 1) 1 .raydiumV4 ≠
        ((gained 1000000000 [sampleInstruction] []).webSocketReport .plain .listed sampleWallet
          .raydiumV4).toList) ∧
      (∃! mint, (gained 500000000 [] [[sampleInstruction]]).ownerMove sampleWallet mint ≠ none) ∧
      (gained 500000000 [] [[sampleInstruction]]).geyserReports .plain .listed Geyser.programIds
          (List.replicate 32 1) 1 .raydiumV4 ≠
        ((gained 500000000 [] [[sampleInstruction]]).webSocketReport .plain .listed sampleWallet
          .raydiumV4).toList := by
  refine ⟨⟨one_gained _ _ _, ?_⟩, one_gained _ _ _, ?_⟩
  · decide +kernel
  · decide +kernel

end PairedSwap

end Girasol
