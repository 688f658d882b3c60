import Girasol.Bot.Step
import Girasol.Rpc.Price

/-!
# When a position is marked migrated

The monitor looks for five words in the text of a price error.  Two of the
source's own texts carry one; any other occurrence comes from a text that the
error takes over: the mint, an address, a provider's error.
-/

namespace Girasol

open Foundation

def PriceReading.ofResult : Except String ℚ → PriceReading
  | .ok value => .price value
  | .error text => .error text

/-! ## Words in the error texts -/

def migrationWords : List String := ["complete", "migrated", "reserves", "not found", "no data"]

theorem signalsMigration_iff (text : String) :
    signalsMigration text ↔ ∃ word ∈ migrationWords, containsText text word := by
  rw [signalsMigration, List.any_eq_true, migrationWords]

def Inert (sep : String) : Prop :=
  ∀ word ∈ migrationWords, Separates sep.toList word.toList

instance (sep : String) : Decidable (Inert sep) :=
  inferInstanceAs (Decidable (∀ word ∈ migrationWords, Separates sep.toList word.toList))

theorem signalsMigration_formatText {parts : List (String × String)} {last : String}
    (hparts : ∀ part ∈ parts, Inert part.1) (hlast : last = "" ∨ Inert last) :
    signalsMigration (formatText parts last) ↔ ∃ part ∈ parts, signalsMigration part.2 := by
  have hword : ∀ word ∈ migrationWords,
      (containsText (formatText parts last) word ↔
        ∃ part ∈ parts, containsText part.2 word) := by
    intro word hmem
    have hne : word ≠ "" := by
      rintro rfl
      exact absurd hmem (by decide)
    exact containsText_formatText hne (fun part hpart => hparts part hpart word hmem)
      (hlast.imp_right fun hinert => hinert word hmem)
  simp only [signalsMigration_iff]
  constructor
  · rintro ⟨word, hmem, htext⟩
    obtain ⟨part, hpart, hcontains⟩ := (hword word hmem).mp htext
    exact ⟨part, hpart, word, hmem, hcontains⟩
  · rintro ⟨part, hpart, word, hmem, hcontains⟩
    exact ⟨word, hmem, (hword word hmem).mpr ⟨part, hpart, hcontains⟩⟩

theorem signalsMigration_of_word {text word : String} (hmem : word ∈ migrationWords)
    (hcontains : containsText text word) : signalsMigration text :=
  (signalsMigration_iff text).mpr ⟨word, hmem, hcontains⟩

/-! ## The texts an error takes over -/

section

variable (env : PriceEnv)

def FetchError.given : FetchError → List String
  | .noEndpoint | .allFailed => []
  | .bodyLost error => [error]
  | .rpcError url error => [url, env.debug error]

theorem FetchError.signalsMigration_text (e : FetchError) :
    signalsMigration (e.text env) ↔ ∃ text ∈ e.given env, signalsMigration text := by
  cases e with
  | noEndpoint =>
      have htext : ¬ signalsMigration (text env .noEndpoint) := by
        rw [text]
        decide +kernel
      simpa [given] using htext
  | allFailed =>
      have htext : ¬ signalsMigration (text env .allFailed) := by
        rw [text]
        decide +kernel
      simpa [given] using htext
  | bodyLost error => simp [text, given]
  | rpcError url error =>
      rw [text, signalsMigration_formatText (by simp; decide +kernel) (.inl rfl)]
      simp [given]

variable (mint : Mint) (curvePda : String)

def failedAttemptGiven : FailedAttempt → List String
  | (_, _, .undecodable data) => [curvePda, mint, env.decodeError data]
  | (_, _, .noData _) | (_, _, .noResult) => [curvePda]
  | (_, _, .rpc error) => curvePda :: error.given env

theorem signalsMigration_failedAttemptText (failure : FailedAttempt) :
    signalsMigration (failedAttemptText mint env curvePda failure) ↔
      ∃ text ∈ failedAttemptGiven env mint curvePda failure, signalsMigration text := by
  obtain ⟨c, n, failure⟩ := failure
  have hcommitment : ¬ signalsMigration c.text := by cases c <;> decide +kernel
  have hattempt : ¬ signalsMigration (toString n) := by
    revert n
    decide
  cases failure with
  | undecodable data =>
      rw [failedAttemptText, signalsMigration_formatText (by simp; decide +kernel) (.inl rfl)]
      simp [failedAttemptGiven]
  | noData resultVal =>
      rw [failedAttemptText, signalsMigration_formatText (by simp; decide +kernel)
        (.inr (by decide +kernel))]
      simp [failedAttemptGiven, hcommitment, hattempt]
  | noResult =>
      rw [failedAttemptText, signalsMigration_formatText (by simp; decide +kernel)
        (.inr (by decide +kernel))]
      simp [failedAttemptGiven, hcommitment, hattempt]
  | rpc error =>
      rw [failedAttemptText, signalsMigration_formatText (by simp; decide +kernel) (.inl rfl)]
      simp [failedAttemptGiven, hcommitment, hattempt, error.signalsMigration_text env]

theorem CurveError.signalsMigration_text (e : CurveError) :
    signalsMigration (e.text mint) ↔ signalsMigration mint := by
  cases e with
  | tooShort =>
      rw [text, signalsMigration_formatText (by simp; decide +kernel) (.inl rfl)]
      simp
  | unexpectedDiscriminator =>
      rw [text, signalsMigration_formatText (by simp; decide +kernel) (.inr (by decide +kernel))]
      simp

end

/-! ## What the curve shows -/

namespace CurveLookup

variable (r : Rounding) (env : PriceEnv) (mint : Mint)

def Shows : CurveLookup → Prop
  | .cached state decimals => curvePrice r state decimals ≤ 0
  | .read decoded => ∃ state, parseCurve decoded = .ok state ∧
      (state.complete = true ∨ r.ofU64 state.virtualTokenReserves ≤ 0 ∨
        curvePrice r state env.decimals ≤ 0)
  | .badKey _ | .unread _ _ => False

def Absent : CurveLookup → Prop
  | .unread _ (some (_, _, .noData resultVal)) => accountObject resultVal = .null
  | .cached _ _ | .badKey _ | .read _ | .unread _ _ => False

def given : CurveLookup → List String
  | .cached _ _ => []
  | .badKey error => [error]
  | .read decoded =>
      match parseCurve decoded with
      | .error _ => [mint]
      | .ok _ => []
  | .unread curvePda lastErr =>
      mint :: (lastErr.map (failedAttemptGiven env mint curvePda)).getD []

theorem given_eq_nil_of_shows {lookup : CurveLookup} (hshows : lookup.Shows r env) :
    lookup.given env mint = [] := by
  cases lookup with
  | cached state decimals => rfl
  | badKey error => cases hshows
  | read decoded =>
      obtain ⟨state, hparse, -⟩ := hshows
      simp [given, hparse]
  | unread curvePda lastErr => cases hshows

end CurveLookup

private theorem readAttempts_error {read : Commitment → Fin 3 → Except AttemptFailure (List UInt8)}
    {tried : List (Commitment × Fin 3)} {before lastErr : Option FailedAttempt}
    (herror : readAttempts read tried before = .error lastErr)
    (htried : tried ≠ [] ∨ before.isSome) : lastErr.isSome := by
  induction tried generalizing before with
  | nil =>
      cases herror
      exact htried.resolve_left fun hne => hne rfl
  | cons attempt rest ih =>
      obtain ⟨c, n⟩ := attempt
      rw [readAttempts] at herror
      split at herror
      · cases herror
      · exact ih herror (.inr rfl)

section

variable {p : Platform} {cfg : Settings} {mint : Mint} {env : PriceEnv}

theorem isSome_of_lookupCurve {curvePda : String} {lastErr : Option FailedAttempt}
    (hlookup : lookupCurve p cfg mint env = .unread curvePda lastErr) : lastErr.isSome := by
  unfold lookupCurve at hlookup
  split at hlookup
  case h_1 => cases hlookup
  case h_2 =>
    split at hlookup
    case h_1 => cases hlookup
    case h_2 => cases hlookup
    case h_3 =>
      split at hlookup
      case h_1 => cases hlookup
      case h_2 herror =>
        split at hlookup
        · cases hlookup
        · cases hlookup
          exact readAttempts_error herror (.inl (by decide))

/-! ## What the monitor makes of the result -/

def PriceReading.marks : PriceReading → Prop
  | .price value => value ≤ 0
  | .error text => signalsMigration text

private theorem marks_priceOfCurve (decoded : List UInt8) :
    (PriceReading.ofResult (priceOfCurve p mint env decoded)).marks ↔
      (CurveLookup.read decoded).Shows p.rounding env ∨
        ∃ text ∈ (CurveLookup.read decoded).given env mint, signalsMigration text := by
  unfold priceOfCurve
  cases hparse : parseCurve decoded with
  | error e =>
      simp [PriceReading.ofResult, PriceReading.marks, CurveLookup.Shows, CurveLookup.given,
        hparse, e.signalsMigration_text mint]
  | ok state =>
      have hgiven : (CurveLookup.read decoded).given env mint = [] := by
        simp [CurveLookup.given, hparse]
      have hshows : (CurveLookup.read decoded).Shows p.rounding env ↔
          state.complete = true ∨ p.rounding.ofU64 state.virtualTokenReserves ≤ 0 ∨
            curvePrice p.rounding state env.decimals ≤ 0 := by
        simp [CurveLookup.Shows, hparse]
      rw [hgiven, hshows]
      simp only [List.not_mem_nil, false_and, exists_false, or_false]
      split
      case isTrue hcomplete =>
        refine iff_of_true ?_ (.inl hcomplete)
        have hword : containsText " migrated to Raydium" "migrated" := by decide +kernel
        exact signalsMigration_of_word (by decide) (containsText_formatText_of_last hword _)
      case isFalse hlive =>
        split
        case isTrue hreserves =>
          simp [PriceReading.ofResult, PriceReading.marks, hlive, hreserves]
        case isFalse hempty =>
          refine iff_of_true ?_ (.inr (.inl (not_lt.mp hempty)))
          have hword : containsText "Invalid reserves for " "reserves" := by decide +kernel
          exact signalsMigration_of_word (by decide)
            (containsText_formatText_of_fixed hword mint [] ": zero tokens")

private theorem signalsMigration_unreadText {curvePda : String} {failure : FailedAttempt} :
    signalsMigration (unreadText mint env curvePda (some failure)) ↔
      ∃ text ∈ (CurveLookup.unread curvePda (some failure)).given env mint,
        signalsMigration text := by
  rw [unreadText, signalsMigration_formatText (by simp; decide +kernel) (.inl rfl)]
  simp [CurveLookup.given, signalsMigration_failedAttemptText]

theorem marks_fetchCurrentPrice :
    (PriceReading.ofResult (fetchCurrentPrice p cfg mint env)).marks ↔
      (lookupCurve p cfg mint env).Shows p.rounding env ∨
        ∃ text ∈ (lookupCurve p cfg mint env).given env mint, signalsMigration text := by
  unfold fetchCurrentPrice
  cases hlookup : lookupCurve p cfg mint env with
  | cached state decimals =>
      simp [PriceReading.ofResult, PriceReading.marks, CurveLookup.Shows, CurveLookup.given]
  | badKey error =>
      simp [PriceReading.ofResult, PriceReading.marks, CurveLookup.Shows, CurveLookup.given]
  | read decoded => exact marks_priceOfCurve decoded
  | unread curvePda lastErr =>
      obtain ⟨failure, rfl⟩ := Option.isSome_iff_exists.mp (isSome_of_lookupCurve hlookup)
      exact signalsMigration_unreadText.trans (or_iff_right id).symm

end

/-! ## The step of the monitor -/

def Positions.isMigrated (positions : Positions) (mint : Mint) : Bool :=
  (positions.lookup mint).any (·.migrated)

theorem Positions.isMigrated_markMigrated {positions : Positions} {mint : Mint} {h : Holding}
    (hopen : positions.lookup mint = some h) :
    (positions.markMigrated mint).isMigrated mint = true := by
  rw [isMigrated, markMigrated, Store.lookup_update_self, hopen]
  rfl

@[simp] theorem Positions.isMigrated_setHighWatermark (positions : Positions) (mint : Mint)
    (watermark : ℚ) :
    (positions.setHighWatermark mint watermark).isMigrated mint = positions.isMigrated mint := by
  rw [isMigrated, setHighWatermark, Store.lookup_update_self, isMigrated]
  cases positions.lookup mint <;> rfl

namespace Bot

variable {p : Platform} {s s' : Bot p} {cfg : ValidSettings p} {mint : Mint} {h : Holding}
  {rest : List (Mint × Holding)} {reading : PriceReading} {now : Int}

theorem isMigrated_tickPrice (hmon : s.monitor = .ticking cfg ((mint, h) :: rest))
    (hopen : s.positions.hasPosition mint = true) (hfresh : s.positions.isMigrated mint = false)
    (hstep : s.tickPrice reading now = some s') :
    s'.positions.isMigrated mint = true ↔ reading.marks := by
  obtain ⟨stored, hlook⟩ := Option.isSome_iff_exists.mp hopen
  have hmark := Positions.isMigrated_markMigrated hlook
  simp only [tickPrice, hmon] at hstep
  cases reading with
  | error text =>
      cases hstep
      by_cases hsignals : signalsMigration text = true
      · simp [hsignals, hmark, PriceReading.marks]
      · simp [hsignals, hfresh, PriceReading.marks]
  | price price =>
      simp only at hstep
      split at hstep
      case isTrue hle =>
        cases hstep
        exact iff_of_true hmark hle
      case isFalse hpos =>
        have hkept : s'.positions.isMigrated mint = false := by
          split at hstep
          · cases hstep
            exact hfresh
          · split at hstep
            · cases hstep
              exact (Positions.isMigrated_setHighWatermark _ _ _).trans hfresh
            · split at hstep <;> cases hstep <;>
                exact (Positions.isMigrated_setHighWatermark _ _ _).trans hfresh
        exact iff_of_false (by simp [hkept]) hpos

theorem exists_tickPrice (hmon : s.monitor = .ticking cfg ((mint, h) :: rest))
    (reading : PriceReading) (now : Int) : ∃ s', s.tickPrice reading now = some s' := by
  simp only [tickPrice, hmon]
  cases reading with
  | error text => exact ⟨_, rfl⟩
  | price price =>
      dsimp only
      split
      · exact ⟨_, rfl⟩
      · split
        · exact ⟨_, rfl⟩
        · split
          · exact ⟨_, rfl⟩
          · split <;> exact ⟨_, rfl⟩

/--
A position is marked only when the curve shows the migration or the account is
absent, exactly when no text from outside brings one of the words into the error.
-/
theorem marked_only_if_shown_iff (s : Bot p) (cfg : ValidSettings p) (mint : Mint) (h : Holding)
    (rest : List (Mint × Holding)) (env : PriceEnv) (now : Int)
    (hmon : s.monitor = .ticking cfg ((mint, h) :: rest))
    (hopen : s.positions.hasPosition mint = true)
    (hfresh : s.positions.isMigrated mint = false) :
    let lookup := lookupCurve p cfg.val mint env
    let reading := PriceReading.ofResult (fetchCurrentPrice p cfg.val mint env)
    (∀ s', s.step (.tickPrice reading now) = some s' →
        s'.positions.isMigrated mint = true → lookup.Shows p.rounding env ∨ lookup.Absent) ↔
      lookup.Absent ∨ ∀ text ∈ lookup.given env mint, ¬ signalsMigration text := by
  intro lookup reading
  have hmarks : reading.marks ↔ lookup.Shows p.rounding env ∨
      ∃ text ∈ lookup.given env mint, signalsMigration text := marks_fetchCurrentPrice
  constructor
  · intro honly
    obtain ⟨s', hstep⟩ := exists_tickPrice hmon reading now
    refine or_iff_not_imp_left.mpr fun hpresent text hgiven hsignals => ?_
    have hmarked := (isMigrated_tickPrice hmon hopen hfresh hstep).mpr
      (hmarks.mpr (.inr ⟨text, hgiven, hsignals⟩))
    have hshows := (honly s' hstep hmarked).resolve_right hpresent
    simp [lookup, CurveLookup.given_eq_nil_of_shows p.rounding env mint hshows] at hgiven
  · intro hquiet s' hstep hmarked
    rcases hquiet with habsent | hquiet
    · exact .inr habsent
    · have hmarks := hmarks.mp ((isMigrated_tickPrice hmon hopen hfresh hstep).mp hmarked)
      refine .inl (hmarks.resolve_right ?_)
      rintro ⟨text, hgiven, hsignals⟩
      exact hquiet text hgiven hsignals

/-! ## A provider that does not know the method -/

def curveMint : Mint := "So11111111111111111111111111111111111111112"

def pricing : Bot .plain :=
  { plain with
    positions := Positions.addPosition curveMint ∅ .plain
    monitor := .ticking .plain [(curveMint, .plain)] }

def always (outcome : HttpOutcome) (debug : String) : PriceEnv where
  cached := none
  curvePda := fun _ _ => List.replicate 32 0
  attempt := fun _ _ => ⟨0, fun _ => outcome⟩
  search := ⟨0, fun _ => outcome⟩
  found := fun _ => ⟨0, fun _ => outcome⟩
  probe := fun _ => outcome
  decimals := 6
  debug := fun _ => debug
  decodeError := fun _ => "Invalid padding"

def timedOut : PriceEnv := always (.unreachable "operation timed out") ""

theorem marked_only_if_shown_timedOut :
    (pricing.step (.tickPrice (.ofResult (fetchCurrentPrice .plain
        ValidSettings.plain.val curveMint timedOut)) 0)).isSome = true ∧
    ∀ s', pricing.step (.tickPrice (.ofResult (fetchCurrentPrice .plain
        ValidSettings.plain.val curveMint timedOut)) 0) = some s' →
      s'.positions.isMigrated curveMint = true →
      (lookupCurve .plain ValidSettings.plain.val curveMint timedOut).Shows .exact timedOut ∨
        (lookupCurve .plain ValidSettings.plain.val curveMint timedOut).Absent := by
  have hmon : pricing.monitor = .ticking .plain [(curveMint, .plain)] := rfl
  constructor
  · obtain ⟨s', hstep⟩ := exists_tickPrice hmon (.ofResult (fetchCurrentPrice .plain
      ValidSettings.plain.val curveMint timedOut)) 0
    exact Option.isSome_iff_exists.mpr ⟨s', hstep⟩
  · exact (marked_only_if_shown_iff pricing .plain curveMint .plain [] timedOut 0 hmon rfl rfl).mpr
      (.inr (by decide +kernel))

def methodError : Json :=
  .object [("code", .negInt 32601), ("message", .string "Method not found")]

def unknownMethod : PriceEnv :=
  always (.replied true (some ⟨none, some methodError⟩))
    ("Some(Object \x7b\"code\": Number(-32601), " ++
      "\"message\": String(\"Method not found\")\x7d)")

private theorem lookupCurve_unknownMethod :
    lookupCurve .plain ValidSettings.plain.val curveMint unknownMethod =
      .unread (String.ofList (List.replicate 32 '1'))
        (some (.finalized, 2, .rpc (.rpcError "https://rpc.example.com" methodError))) := by
  rfl

theorem unknownMethod_marked :
    ∃ s', pricing.step (.tickPrice (.ofResult (fetchCurrentPrice .plain
        ValidSettings.plain.val curveMint unknownMethod)) 0) = some s' ∧
      s'.positions.isMigrated curveMint = true ∧
      ¬ ((lookupCurve .plain ValidSettings.plain.val curveMint unknownMethod).Shows .exact
          unknownMethod ∨
        (lookupCurve .plain ValidSettings.plain.val curveMint unknownMethod).Absent) := by
  have hmarks := @marks_fetchCurrentPrice .plain ValidSettings.plain.val curveMint unknownMethod
  rw [lookupCurve_unknownMethod] at hmarks ⊢
  obtain ⟨s', hstep⟩ := exists_tickPrice (s := pricing) rfl (.ofResult (fetchCurrentPrice .plain
    ValidSettings.plain.val curveMint unknownMethod)) 0
  refine ⟨s', hstep, (isMigrated_tickPrice rfl rfl rfl hstep).mpr (hmarks.mpr (.inr ?_)), ?_⟩
  · refine ⟨unknownMethod.debug methodError, ?_, by decide +kernel⟩
    simp [CurveLookup.given, failedAttemptGiven, FetchError.given]
  · simp [CurveLookup.Shows, CurveLookup.Absent]

end Bot

end Girasol
