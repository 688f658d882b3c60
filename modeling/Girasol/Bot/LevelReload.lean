import Girasol.Bot.BuySteps
import Girasol.Bot.Levels

/-!
# Levels across reloads

A position remembers the levels it sold by their index in the settings.  The
record kept here says what stood at the index when the order was made: the pair
of trigger and size that was sold.
-/

namespace Girasol

open Foundation

variable {p : Platform}

inductive LevelTerms where
  | takeProfit (level : TpLevel)
  | stopLoss (level : SlLevel)
  deriving DecidableEq

def LevelTerms.reached (pnl : ℚ) : LevelTerms → Prop
  | .takeProfit level => level.triggerPercent ≤ pnl
  | .stopLoss level => pnl ≤ level.triggerPercent

def Settings.termsAt (cfg : Settings) : Level → Option LevelTerms
  | .takeProfit index => cfg.tpLevels[index]?.map .takeProfit
  | .stopLoss index => cfg.slLevels[index]?.map .stopLoss

def Holding.markedLevels (h : Holding) : List Level :=
  h.triggeredTpLevels.map .takeProfit ++ h.triggeredSlLevels.map .stopLoss

@[simp] theorem Holding.mem_markedLevels {h : Holding} {l : Level} :
    l ∈ h.markedLevels ↔ h.marked l := by
  cases l <;> simp [markedLevels, marked]

def Monitor.tickConfig : Monitor p → Option (ValidSettings p)
  | .ticking cfg _ | .probing cfg _ _ _ _ | .sending cfg _ _ _ | .marking cfg _ _ _ => some cfg
  | .idle | .revalidating _ _ => none

/-! ## The record of the pairs sold -/

/--
The pairs of the orders in the channel and at the executor, those sold for the
open positions, and those that were sold when the tick took its snapshot.
-/
structure Sales where
  queued : List (Option LevelTerms)
  running : Option LevelTerms
  sold : List (Mint × LevelTerms)
  soldAtTick : List (Mint × LevelTerms)

structure Recorded (p : Platform) where
  bot : Bot p
  sales : Sales

namespace Bot

def termsToSend (s : Bot p) : Option LevelTerms :=
  match s.monitor with
  | .sending cfg order _ _ => order.level.bind cfg.val.termsAt
  | _ => none

def openedBy (s : Bot p) (task : Nat) : Option Mint :=
  match s.buys[task]? with
  | some ⟨detected, .registering false _⟩ => some detected.mint
  | _ => none

def record (s : Bot p) (sales : Sales) : Event p → Sales
  | .tickStart _ => { sales with soldAtTick := sales.sold }
  | .tickSend => { sales with queued := sales.queued ++ [s.termsToSend] }
  | .mirrorSend => { sales with queued := sales.queued ++ [none] }
  | .execRecv =>
      { sales with queued := sales.queued.tail, running := sales.queued.head?.join }
  | .execFinish .executed =>
      let done := s.executor.held.flatMap fun queued =>
        sales.running.toList.map fun terms => (queued.order.mint, terms)
      { sales with sold := done ++ sales.sold }
  | .buyRegister task =>
      { sales with sold := sales.sold.filter fun entry => s.openedBy task ≠ some entry.1 }
  | _ => sales

end Bot

namespace Recorded

def step (s : Recorded p) (e : Event p) : Option (Recorded p) :=
  (s.bot.step e).map fun bot => ⟨bot, s.bot.record s.sales e⟩

/-- The loaded positions come with the pairs that were sold for them before. -/
def start (settings : ValidSettings p) (hasPayer : Bool) (loaded : Positions)
    (earlier : List (Mint × LevelTerms)) : Recorded p :=
  ⟨.start settings hasPayer loaded, ⟨[], none, earlier, []⟩⟩

def inFlight (s : Recorded p) : List (SellOrder × Option LevelTerms) :=
  (s.bot.executor.held.map fun queued => (queued.order, s.sales.running)) ++
    (s.bot.orders.map QueuedOrder.order).zip s.sales.queued

/-! ## The condition -/

/-- At a marked index the settings list no level or one that was sold; for an order, its own. -/
def KeepsTerms (s : Recorded p) (cfg : Settings) : Prop :=
  (∀ mint ∈ s.bot.positions.keys, ∀ h ∈ s.bot.positions.lookup mint, ∀ l ∈ h.markedLevels,
      ∀ terms ∈ cfg.termsAt l, (mint, terms) ∈ s.sales.sold) ∧
    ∀ entry ∈ s.inFlight, ∀ l ∈ entry.1.level, ∀ terms ∈ cfg.termsAt l,
      entry.2 = some terms

def SendsCurrentTerms (s : Recorded p) : Prop :=
  ∀ order ∈ s.bot.monitor.unsent.head?, ∀ l ∈ order.level,
    ∀ terms ∈ s.bot.settings.val.termsAt l, s.bot.termsToSend = some terms

instance (s : Recorded p) (cfg : Settings) : Decidable (s.KeepsTerms cfg) :=
  inferInstanceAs (Decidable (_ ∧ _))

instance (s : Recorded p) : Decidable s.SendsCurrentTerms :=
  inferInstanceAs (Decidable (∀ order ∈ s.bot.monitor.unsent.head?, _))

def KeepsLevels (s : Recorded p) : Event p → Prop
  | .reload cfg => s.KeepsTerms cfg.val
  | .tickSend => s.SendsCurrentTerms
  | _ => True

instance (s : Recorded p) (e : Event p) : Decidable (s.KeepsLevels e) := by
  induction e using Event.casesOn with
  | reload cfg => exact inferInstanceAs (Decidable (s.KeepsTerms cfg.val))
  | tickSend => exact inferInstanceAs (Decidable s.SendsCurrentTerms)
  | _ => exact isTrue trivial

/--
When a tick sees a level of its settings reached whose pair was not sold for the
position, the position does not carry the level's mark.
-/
def Unsuppressed (s : Recorded p) (e : Event p) : Prop :=
  ∀ cfg mint h rest price now, s.bot.monitor = .ticking cfg ((mint, h) :: rest) →
    e = .tickPrice (.price price) now → ∀ l terms, cfg.val.termsAt l = some terms →
      terms.reached (pnlPercent p.rounding h price) → (mint, terms) ∉ s.sales.soldAtTick →
        ¬ h.marked l

/-! ## The invariant -/

theorem keepsTerms_iff {s : Recorded p} {cfg : Settings} : s.KeepsTerms cfg ↔
    (∀ mint h l terms, s.bot.positions.lookup mint = some h → h.marked l →
        cfg.termsAt l = some terms → (mint, terms) ∈ s.sales.sold) ∧
      ∀ order pair l terms, (order, pair) ∈ s.inFlight → order.level = some l →
        cfg.termsAt l = some terms → pair = some terms := by
  constructor
  · rintro ⟨hmarks, hflight⟩
    refine ⟨fun mint h l terms hlook hmarked hterms => ?_,
      fun order pair l terms hmem hlevel hterms => hflight _ hmem l hlevel terms hterms⟩
    have hkey : mint ∈ s.bot.positions.keys :=
      AList.mem_keys.mp (AList.lookup_isSome.mp (by simp [hlook]))
    exact hmarks mint hkey h hlook l (Holding.mem_markedLevels.mpr hmarked) terms hterms
  · rintro ⟨hmarks, hflight⟩
    exact ⟨fun mint _ h hlook l hmarked terms hterms =>
        hmarks mint h l terms hlook (Holding.mem_markedLevels.mp hmarked) hterms,
      fun entry hmem l hlevel terms hterms => hflight entry.1 entry.2 l terms hmem hlevel hterms⟩

def MarksFrom (before after : Positions) : Prop :=
  ∀ mint h', after.lookup mint = some h' →
    ∃ h, before.lookup mint = some h ∧ ∀ l, h'.marked l → h.marked l

theorem marksFrom_of_keepsTrade {before after : Positions} (hkeeps : before.KeepsTrade after) :
    MarksFrom before after := by
  intro mint h' hlook'
  obtain ⟨h, hlook, hsame⟩ := hkeeps mint h' hlook'
  exact ⟨h, hlook, fun l hmarked => (hsame.marked l).mp hmarked⟩

theorem KeepsTerms.mono {s s' : Recorded p} {cfg : Settings} (hs : s.KeepsTerms cfg)
    (hmarks : MarksFrom s.bot.positions s'.bot.positions)
    (hsold : s'.sales.sold = s.sales.sold) (hflight : s'.inFlight ⊆ s.inFlight) :
    s'.KeepsTerms cfg := by
  rw [keepsTerms_iff] at hs ⊢
  refine ⟨fun mint h' l terms hlook' hmarked hterms => ?_,
    fun order pair l terms hmem => hs.2 order pair l terms (hflight hmem)⟩
  obtain ⟨h, hlook, hfrom⟩ := hmarks mint h' hlook'
  rw [hsold]
  exact hs.1 mint h l terms hlook (hfrom l hmarked) hterms

structure Inv (s : Recorded p) : Prop where
  terms : s.KeepsTerms s.bot.settings.val
  aligned : s.bot.orders.length = s.sales.queued.length
  main : ∀ o ∈ s.bot.main.unsent, o.level = none
  watched : ∀ cfg ∈ s.bot.monitor.tickConfig, ∀ mint h, (mint, h) ∈ s.bot.monitor.watched →
    ∀ l terms, h.marked l → cfg.val.termsAt l = some terms →
      (mint, terms) ∈ s.sales.soldAtTick

theorem Inv.keep {s s' : Recorded p} (hs : s.Inv)
    (hsettings : s'.bot.settings = s.bot.settings) (hsales : s'.sales = s.sales)
    (hmarks : MarksFrom s.bot.positions s'.bot.positions)
    (horders : s'.bot.orders = s.bot.orders) (hexec : s'.bot.executor = s.bot.executor)
    (hmain : ∀ o ∈ s'.bot.main.unsent, o.level = none)
    (hconfig : ∀ cfg ∈ s'.bot.monitor.tickConfig, cfg ∈ s.bot.monitor.tickConfig ∧
      s'.bot.monitor.watched ⊆ s.bot.monitor.watched) : s'.Inv := by
  have hflight : s'.inFlight = s.inFlight := by
    simp only [inFlight, horders, hexec, hsales]
  refine ⟨?_, by rw [horders, hsales, hs.aligned], hmain, ?_⟩
  · rw [hsettings]
    exact hs.terms.mono hmarks (by rw [hsales]) (by rw [hflight]; exact List.Subset.refl _)
  · intro cfg hcfg mint h hmem
    obtain ⟨hcfg', hsub⟩ := hconfig cfg hcfg
    rw [hsales]
    exact hs.watched cfg hcfg' mint h (hsub hmem)

@[simp] theorem tickConfig_atRest {monitor : Monitor p} (hrest : monitor.atRest) :
    monitor.tickConfig = none := by
  cases monitor <;> first | rfl | cases hrest

theorem tickConfig_proceed {cfg cfg' : ValidSettings p} {rest : List (Mint × Holding)}
    (h : cfg' ∈ (Monitor.proceed cfg rest).tickConfig) : cfg' = cfg := by
  cases rest with
  | nil => cases h
  | cons entry rest => exact (Option.some.inj h).symm

theorem tickConfig_emit {cfg cfg' : ValidSettings p} {rest : List (Mint × Holding)}
    {orders : List SellOrder} (h : cfg' ∈ (Monitor.emit cfg rest orders).tickConfig) :
    cfg' = cfg := by
  cases orders with
  | nil => exact tickConfig_proceed h
  | cons order later => exact (Option.some.inj h).symm

theorem settings_of_step {s s' : Bot p} {e : Event p} (hstep : s.step e = some s')
    (hreload : ∀ cfg, e ≠ .reload cfg) : s'.settings = s.settings := by
  cases htask : e.task with
  | none => exact (Bot.step_outside hstep htask).settings.resolve_right (hreload _)
  | some i =>
      obtain ⟨task, phase, -, hmove⟩ := Bot.step_task hstep htask
      exact hmove.settings

theorem record_of_quiet {s : Bot p} {e : Event p} (sales : Sales) (hquiet : e.quiet = true) :
    s.record sales e = sales := by
  cases e <;> first | rfl | cases hquiet

theorem tickConfig_of_tickPrice {s s' : Bot p} {reading : PriceReading} {now : Int}
    (hstep : s.tickPrice reading now = some s') :
    ∀ cfg ∈ s'.monitor.tickConfig, cfg ∈ s.monitor.tickConfig := by
  simp only [Bot.tickPrice] at hstep
  split at hstep
  case h_2 => cases hstep
  case h_1 config mint h rest hmon =>
    have hproceed : ∀ cfg ∈ (Monitor.proceed config rest).tickConfig,
        cfg ∈ s.monitor.tickConfig := by
      intro cfg hcfg
      rw [hmon, tickConfig_proceed hcfg]
      rfl
    cases reading with
    | error text =>
        cases hstep
        exact hproceed
    | price price =>
        simp only at hstep
        split at hstep
        · cases hstep
          exact hproceed
        · split at hstep
          · cases hstep
            exact hproceed
          · split at hstep
            · cases hstep
              rw [hmon]
              exact fun _ hcfg => hcfg
            · split at hstep
              · cases hstep
                rw [hmon]
                exact fun _ hcfg => hcfg
              · cases hstep
                intro cfg hcfg
                rw [hmon, tickConfig_emit hcfg]
                rfl

theorem tickConfig_of_tickCurve {s s' : Bot p} {liquidity : Option ℚ}
    (hstep : s.tickCurve liquidity = some s') :
    ∀ cfg ∈ s'.monitor.tickConfig, cfg ∈ s.monitor.tickConfig := by
  simp only [Bot.tickCurve] at hstep
  split at hstep
  case h_2 => cases hstep
  case h_1 config mint h price rest hmon =>
    rw [hmon]
    split at hstep <;> cases hstep
    · exact fun _ hcfg => hcfg
    · exact fun cfg hcfg => congrArg some (tickConfig_emit hcfg).symm

/-! ## One step -/

theorem Inv.evaluates {s s' : Bot p} {sales : Sales} {mint : Mint} {h : Holding}
    {rest : List (Mint × Holding)} (hs : Inv ⟨s, sales⟩)
    (hsettings : s'.settings = s.settings) (heval : Bot.Evaluates s s' mint h rest)
    (hconfig : ∀ cfg ∈ s'.monitor.tickConfig, cfg ∈ s.monitor.tickConfig) :
    Inv ⟨s', sales⟩ := by
  refine hs.keep hsettings rfl (marksFrom_of_keepsTrade heval.positions) heval.orders
    heval.executor (by simpa only [heval.main] using hs.main) fun cfg hcfg =>
      ⟨hconfig cfg hcfg, ?_⟩
  show s'.monitor.watched ⊆ s.monitor.watched
  rw [heval.entry]
  rcases heval.result with ⟨hwatched, -⟩ | ⟨hwatched, -⟩
  · rw [hwatched]
    exact List.Subset.refl _
  · rw [hwatched]
    exact List.subset_cons_self _ _

theorem Inv.quiet {s s' : Bot p} {sales : Sales} (hs : Inv ⟨s, sales⟩)
    (hsettings : s'.settings = s.settings) (hquiet : s.Quiet s') : Inv ⟨s', sales⟩ := by
  refine hs.keep hsettings rfl (marksFrom_of_keepsTrade hquiet.positions) hquiet.orders
    hquiet.executor (by simpa only [hquiet.main_unsent] using hs.main) fun cfg hcfg => ?_
  rcases hquiet.monitor with heq | ⟨-, hrest⟩
  · dsimp only at hcfg ⊢
    rw [heq] at hcfg ⊢
    exact ⟨hcfg, List.Subset.refl _⟩
  · rw [tickConfig_atRest hrest] at hcfg
    cases hcfg

theorem Inv.send {s s' : Bot p} {sales : Sales} {queued : QueuedOrder} {pair : Option LevelTerms}
    (hs : Inv ⟨s, sales⟩) (hsettings : s'.settings = s.settings)
    (hpos : s'.positions = s.positions) (horders : s'.orders = s.orders ++ [queued])
    (hexec : s'.executor = s.executor) (hmain : ∀ o ∈ s'.main.unsent, o.level = none)
    (hconfig : ∀ cfg ∈ s'.monitor.tickConfig, cfg ∈ s.monitor.tickConfig)
    (hwatched : s'.monitor.watched = s.monitor.watched)
    (hpair : ∀ l terms, queued.order.level = some l → s.settings.val.termsAt l = some terms →
      pair = some terms) :
    Inv ⟨s', { sales with queued := sales.queued ++ [pair] }⟩ := by
  have haligned : (s.orders.map QueuedOrder.order).length = sales.queued.length := by
    rw [List.length_map]
    exact hs.aligned
  have hflight : inFlight ⟨s', { sales with queued := sales.queued ++ [pair] }⟩ =
      inFlight ⟨s, sales⟩ ++ [(queued.order, pair)] := by
    simp [inFlight, horders, hexec, List.zip_append haligned]
  have hterms := keepsTerms_iff.mp hs.terms
  refine ⟨?_, ?_, hmain, fun cfg hcfg mint h hmem => ?_⟩
  · rw [hsettings, keepsTerms_iff, hpos, hflight]
    refine ⟨hterms.1, fun order other l terms hmem hlevel hat => ?_⟩
    rcases List.mem_append.mp hmem with hold | hnew
    · exact hterms.2 order other l terms hold hlevel hat
    · cases List.mem_singleton.mp hnew
      exact hpair l terms hlevel hat
  · simp only [horders, List.length_append, List.length_singleton]
    exact congrArg (· + 1) hs.aligned
  · exact hs.watched cfg (hconfig cfg hcfg) mint h (hwatched ▸ hmem)

@[simp] theorem level_mirrorOrder (r : Rounding) (sell : DetectedSell) (h : Holding) :
    (mirrorOrder r sell h).level = none := rfl

theorem Inv.buyRegister {s s' : Bot p} {sales : Sales} {task : Nat} (hs : Inv ⟨s, sales⟩)
    (hstep : s.buyRegister task = some s') :
    Inv ⟨s', s.record sales (.buyRegister task)⟩ := by
  have hterms := keepsTerms_iff.mp hs.terms
  obtain ⟨detected, result, ⟨hbuy, rfl⟩ | ⟨hbuy, rfl⟩⟩ := Bot.buyRegister_inv hstep
  · have hopened : s.openedBy task = none := by rw [Bot.openedBy, hbuy]
    have hrecord : s.record sales (.buyRegister task) = sales := by
      simp [Bot.record, hopened]
    rw [hrecord]
    refine hs.keep rfl rfl ?_ rfl rfl hs.main fun cfg hcfg => ⟨hcfg, List.Subset.refl _⟩
    intro mint h' hlook'
    simp only [Positions.accumulatePosition, Store.lookup_update] at hlook'
    split at hlook'
    · obtain ⟨h, hlook, heq⟩ := Option.bind_eq_some_iff.mp hlook'
      cases heq
      exact ⟨h, hlook, fun l => by cases l <;> exact id⟩
    · exact ⟨h', hlook', fun _ => id⟩
  · have hopened : s.openedBy task = some detected.mint := by rw [Bot.openedBy, hbuy]
    refine ⟨keepsTerms_iff.mpr ⟨fun mint h l terms hlook hmarked hat => ?_, hterms.2⟩,
      hs.aligned, hs.main, hs.watched⟩
    simp only [Positions.addPosition, Store.lookup_insert_eq] at hlook
    split at hlook
    case isTrue =>
      cases hlook
      obtain ⟨htp, hsl, -⟩ := result.untouched
      cases l <;> simp [Holding.marked, Bot.registered, htp, hsl] at hmarked
    case isFalse hne =>
      have hsold := hterms.1 mint h l terms hlook hmarked hat
      simpa [Bot.record, hopened, Ne.symm hne] using hsold

theorem Inv.tickStart {s s' : Bot p} {sales : Sales} {order : List Mint} (hs : Inv ⟨s, sales⟩)
    (hstep : s.tickStart order = some s') :
    Inv ⟨s', { sales with soldAtTick := sales.sold }⟩ := by
  obtain ⟨-, -, rfl⟩ := Bot.tickStart_inv hstep
  have hterms := keepsTerms_iff.mp hs.terms
  refine ⟨hs.terms, hs.aligned, hs.main, fun cfg hcfg mint h hmem l terms hmarked hat => ?_⟩
  cases tickConfig_proceed hcfg
  rw [Monitor.watched_proceed] at hmem
  exact hterms.1 mint h l terms (Positions.mem_snapshot (List.mem_filter.mp hmem).1) hmarked hat

theorem Inv.execRecv {s s' : Bot p} {sales : Sales} (hs : Inv ⟨s, sales⟩)
    (hstep : s.execRecv = some s') : Inv ⟨s', s.record sales .execRecv⟩ := by
  obtain ⟨queued, rest, hidle, horders, rfl⟩ := Bot.execRecv_inv hstep
  have haligned := hs.aligned
  obtain ⟨pairs, running, sold, soldAtTick⟩ := sales
  cases pairs with
  | nil => simp [horders] at haligned
  | cons pair pairs =>
      have hflight : inFlight ⟨{ s with orders := rest, executor := .checking queued },
          s.record ⟨pair :: pairs, running, sold, soldAtTick⟩ .execRecv⟩ =
            inFlight ⟨s, ⟨pair :: pairs, running, sold, soldAtTick⟩⟩ := by
        simp [inFlight, Bot.record, horders, hidle, Executor.held]
      refine ⟨?_, ?_, hs.main, hs.watched⟩
      · refine hs.terms.mono (fun mint h hlook => ⟨h, hlook, fun _ => id⟩) rfl ?_
        rw [hflight]
        exact List.Subset.refl _
      · simpa [Bot.record, horders] using haligned

theorem Inv.execCheck {s s' : Bot p} {sales : Sales} (hs : Inv ⟨s, sales⟩)
    (hstep : s.execCheck = some s') : Inv ⟨s', sales⟩ := by
  obtain ⟨queued, hexec, ⟨-, rfl⟩ | ⟨-, rfl⟩⟩ := Bot.execCheck_inv hstep
  · refine ⟨hs.terms.mono (fun mint h hlook => ⟨h, hlook, fun _ => id⟩) rfl ?_, hs.aligned,
      hs.main, hs.watched⟩
    simp [inFlight, hexec, Executor.held]
  · refine ⟨hs.terms.mono (fun mint h hlook => ⟨h, hlook, fun _ => id⟩) rfl ?_, hs.aligned,
      hs.main, hs.watched⟩
    simp [inFlight, hexec, Executor.held]

theorem Inv.execFinish {s s' : Bot p} {sales : Sales} {outcome : SellOutcome}
    (hs : Inv ⟨s, sales⟩) (hstep : s.execFinish outcome = some s') :
    Inv ⟨s', s.record sales (.execFinish outcome)⟩ := by
  obtain ⟨queued, hexec, rfl⟩ := Bot.execFinish_inv hstep
  have hterms := keepsTerms_iff.mp hs.terms
  have hmem : (queued.order, sales.running) ∈ inFlight ⟨s, sales⟩ := by
    simp [inFlight, hexec, Executor.held]
  have hsold : ∀ entry ∈ sales.sold, entry ∈ (s.record sales (.execFinish outcome)).sold := by
    intro entry hentry
    cases outcome with
    | executed => exact List.mem_append_right _ hentry
    | _ => exact hentry
  have hqueued : (s.record sales (.execFinish outcome)).queued = sales.queued := by
    cases outcome <;> rfl
  have hsnapshot : (s.record sales (.execFinish outcome)).soldAtTick = sales.soldAtTick := by
    cases outcome <;> rfl
  refine ⟨keepsTerms_iff.mpr ⟨fun mint h' l terms hlook' hmarked hat => ?_,
    fun order pair l terms hflight hlevel hat => ?_⟩, ?_, hs.main, ?_⟩
  · by_cases hmint : mint = queued.order.mint
    · subst hmint
      obtain ⟨h, hlook, hmarks, -⟩ := Positions.lookup_settle hlook'
      rcases (hmarks l).mp hmarked with hold | ⟨rfl, hlevel⟩
      · exact hsold _ (hterms.1 _ h l terms hlook hold hat)
      · have hrunning : sales.running = some terms :=
          hterms.2 _ _ l terms hmem hlevel hat
        simp [Bot.record, hexec, Executor.held, hrunning]
    · have hlook : s.positions.lookup mint = some h' := by
        rw [← Positions.lookup_settle_ne hmint outcome s.positions]
        exact hlook'
      exact hsold _ (hterms.1 mint h' l terms hlook hmarked hat)
  · refine hterms.2 order pair l terms ?_ hlevel hat
    simp only [inFlight, hqueued, Executor.held, List.map_nil, List.nil_append] at hflight
    exact List.mem_append_right _ hflight
  · rw [hqueued]
    exact hs.aligned
  · rw [hsnapshot]
    exact hs.watched

theorem Inv.step {s s' : Recorded p} {e : Event p} (hs : s.Inv) (hkeeps : s.KeepsLevels e)
    (hstep : s.step e = some s') : s'.Inv := by
  obtain ⟨t, ht, rfl⟩ := Option.map_eq_some_iff.mp hstep
  obtain ⟨s, sales⟩ := s
  cases hquiet : e.quiet with
  | true =>
      by_cases hreload : ∃ cfg, e = .reload cfg
      · obtain ⟨cfg, rfl⟩ := hreload
        cases ht
        exact ⟨hkeeps, hs.aligned, hs.main, hs.watched⟩
      · rw [record_of_quiet sales hquiet]
        exact hs.quiet (settings_of_step ht fun cfg heq => hreload ⟨cfg, heq⟩)
          (Bot.step_quiet ht hquiet)
  | false =>
      cases e with
      | mirrorLoad =>
          obtain ⟨mirror, hmain, ⟨h, -, rfl⟩ | ⟨-, rfl⟩⟩ := Bot.mirrorLoad_inv ht
          · refine hs.keep rfl rfl (fun mint h hlook => ⟨h, hlook, fun _ => id⟩) rfl rfl ?_
              fun cfg hcfg => ⟨hcfg, List.Subset.refl _⟩
            intro o ho
            cases List.mem_singleton.mp ho
            exact level_mirrorOrder _ _ _
          · exact hs.keep rfl rfl (fun mint h hlook => ⟨h, hlook, fun _ => id⟩) rfl rfl
              (by simp [Bot.mirrorDone, MainLoop.unsent])
              fun cfg hcfg => ⟨hcfg, List.Subset.refl _⟩
      | mirrorSend =>
          obtain ⟨mirror, order, hmain, rfl⟩ := Bot.mirrorSend_inv ht
          have hlevel : order.level = none := by
            refine hs.main order ?_
            rw [hmain]
            exact List.mem_cons_self
          exact hs.send rfl rfl rfl rfl (by simp [Bot.mirrorDone, MainLoop.unsent])
            (fun _ hcfg => hcfg) rfl (by simp [hlevel])
      | buyRegister task => exact hs.buyRegister ht
      | tickStart order => exact hs.tickStart ht
      | tickPrice reading now =>
          obtain ⟨mint, h, rest, heval⟩ := Bot.tickPrice_inv ht
          exact hs.evaluates (settings_of_step ht (by simp)) heval (tickConfig_of_tickPrice ht)
      | tickCurve liquidity =>
          obtain ⟨mint, h, rest, heval⟩ := Bot.tickCurve_inv ht
          exact hs.evaluates (settings_of_step ht (by simp)) heval (tickConfig_of_tickCurve ht)
      | tickSend =>
          obtain ⟨cfg, order, later, rest, hmon, rfl⟩ := Bot.tickSend_inv ht
          refine hs.send rfl rfl rfl rfl hs.main (fun _ hcfg => ?_) ?_ ?_
          · rw [hmon]
            exact hcfg
          · rw [hmon]
            rfl
          · intro l terms hlevel hat
            refine hkeeps order ?_ l hlevel terms hat
            rw [hmon]
            rfl
      | tickMark =>
          obtain ⟨cfg, mint, later, rest, hmon, rfl⟩ := Bot.tickMark_inv ht
          refine hs.keep rfl rfl ?_ rfl rfl hs.main fun cfg' hcfg => ?_
          · intro mint' h' hlook'
            simp only [Positions.setPendingSell, Store.lookup_update] at hlook'
            split at hlook'
            · obtain ⟨h, hlook, heq⟩ := Option.bind_eq_some_iff.mp hlook'
              cases heq
              exact ⟨h, hlook, fun l => by cases l <;> exact id⟩
            · exact ⟨h', hlook', fun _ => id⟩
          · dsimp only at hcfg ⊢
            rw [hmon, Monitor.watched_emit, tickConfig_emit hcfg]
            exact ⟨rfl, List.Subset.refl _⟩
      | execRecv => exact hs.execRecv ht
      | execCheck => exact hs.execCheck ht
      | execFinish outcome => exact hs.execFinish ht
      | _ => cases hquiet

theorem Inv.unsuppressed {s : Recorded p} (hs : s.Inv) (e : Event p) : s.Unsuppressed e := by
  rintro cfg mint h rest price now hmon - l terms hat - hunsold hmarked
  refine hunsold (hs.watched cfg ?_ mint h ?_ l terms hmarked hat)
  · rw [hmon]
    rfl
  · rw [hmon]
    exact List.mem_cons_self

theorem inv_start {settings : ValidSettings p} {hasPayer : Bool} {loaded : Positions}
    {earlier : List (Mint × LevelTerms)}
    (hstart : (start settings hasPayer loaded earlier).KeepsTerms settings.val) :
    (start settings hasPayer loaded earlier).Inv :=
  ⟨hstart, rfl, by simp [start, Bot.start, MainLoop.unsent],
    by simp [start, Bot.start, Monitor.tickConfig]⟩

/-- While the settings keep the levels that were sold at their index, no other is suppressed. -/
theorem levels_unsuppressed (settings : ValidSettings p) (hasPayer : Bool) (loaded : Positions)
    (earlier : List (Mint × LevelTerms)) (events : List (Event p))
    (hstart : (start settings hasPayer loaded earlier).KeepsTerms settings.val)
    (hkeeps : Along step (fun s e _ => s.KeepsLevels e) (start settings hasPayer loaded earlier)
      events) :
    Along step (fun s e _ => s.Unsuppressed e) (start settings hasPayer loaded earlier)
      events :=
  hkeeps.of_invariant
    (fun _ e _ hs hcond hstep => ⟨hs.step hcond hstep, hs.unsuppressed e⟩) (inv_start hstart)

/-! ## A level moved and a level added -/

theorem movedLevel_valid :
    { Settings.plain with tpLevels := [⟨60, 50⟩] }.validate .plain = .ok () :=
  Settings.validate_tpLevels Settings.plain_valid (by decide +kernel)

theorem addedLevel_valid :
    { Settings.plain with tpLevels := [⟨30, 50⟩, ⟨60, 50⟩] }.validate .plain = .ok () :=
  Settings.validate_tpLevels Settings.plain_valid (by decide +kernel)

def movedLevel : ValidSettings .plain := ⟨_, movedLevel_valid⟩

def addedLevel : ValidSettings .plain := ⟨_, addedLevel_valid⟩

def plain : Recorded .plain := start .plain false .single []

def soldThenReload (cfg : ValidSettings .plain) : List (Event .plain) :=
  [.tickStart ["mint"], .tickPrice (.price (14 / 10)) 0, .tickSend, .tickMark, .execRecv,
    .execCheck, .execFinish .executed, .reload cfg, .tickStart ["mint"]]

def doubled : Event .plain := .tickPrice (.price 2) 0

theorem levels_unsuppressed_added :
    Along step (fun s e _ => s.KeepsLevels e) plain (soldThenReload addedLevel ++ [doubled]) ∧
      Along step (fun s e _ => s.Unsuppressed e) plain
        (soldThenReload addedLevel ++ [doubled]) :=
  have hstart : plain.KeepsTerms Settings.plain := by decide +kernel
  have hkeeps : Along step (fun s e _ => s.KeepsLevels e) plain
      (soldThenReload addedLevel ++ [doubled]) := by
    decide +kernel
  ⟨hkeeps, levels_unsuppressed .plain false .single [] _ hstart hkeeps⟩

def findsMark (s : Recorded .plain) : Bool :=
  match s.bot.monitor with
  | .ticking cfg ((mint, h) :: _) =>
      decide (cfg.val.termsAt (.takeProfit 0) = some (.takeProfit ⟨60, 50⟩)) &&
        decide (60 ≤ pnlPercent .exact h 2) &&
        decide ((mint, LevelTerms.takeProfit ⟨60, 50⟩) ∉ s.sales.soldAtTick) &&
        h.triggeredTpLevels.contains 0
  | _ => false

private theorem not_unsuppressed_of_findsMark {s : Recorded .plain} (hfinds : findsMark s = true) :
    ¬ s.Unsuppressed doubled := by
  unfold findsMark at hfinds
  split at hfinds
  case h_1 cfg mint h rest hmon =>
    simp only [Bool.and_eq_true, decide_eq_true_eq] at hfinds
    obtain ⟨⟨⟨hat, hreached⟩, hunsold⟩, hmarked⟩ := hfinds
    intro hfree
    exact hfree cfg mint h rest 2 0 hmon rfl (.takeProfit 0) _ hat hreached hunsold
      (by simpa [Holding.marked] using hmarked)
  case h_2 => cases hfinds

theorem moved_level_suppressed :
    ∃ t, Run step (fun _ _ => True) plain (soldThenReload movedLevel) t ∧
      ¬ t.Unsuppressed doubled := by
  have hexec : (exec step (fun _ _ => True) plain (soldThenReload movedLevel)).map
      findsMark = some true := by
    decide +kernel
  obtain ⟨t, hrun, hfinds⟩ := exists_run_of_exec hexec
  exact ⟨t, hrun, not_unsuppressed_of_findsMark hfinds⟩

end Recorded

end Girasol
