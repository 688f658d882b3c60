import Girasol.Screen.Mint

/-!
# The limit of the transfer fee

The screen rejects for the first enabled check that a report violates.  The
limit of the transfer fee is a 64-bit setting, and is cut to 16 bits before it is
compared.
-/

namespace Girasol

open Foundation

section

variable (report : TokenSafetyReport) (cfg : Settings)

def EarlierRejects : Prop :=
  (cfg.rejectMintAuthority = true ∧ report.mintAuthority.isSome = true) ∨
    (cfg.rejectFreezeAuthority = true ∧ report.freezeAuthority.isSome = true) ∨
      (cfg.rejectMutableMetadata = true ∧ report.isMutable = some true)

def feeBps : Nat := report.transferFeeBps.getD 0

def FeeViolated : Prop := cfg.rejectTransferFee = true ∧ cfg.maxTransferFeeBps < feeBps report

def feeMessage : String :=
  s!"transfer fee {feeBps report} bps exceeds maximum " ++ s!"{cfg.maxTransferFeeBps} bps"

/-- The screen decides by the integers of the report and the settings. -/
structure ScreensExactly : Prop where
  fee : evaluateSafety report cfg = .reject (feeMessage report cfg) ↔
    ¬EarlierRejects report cfg ∧ FeeViolated report cfg
  reject : (∃ message, evaluateSafety report cfg = .reject message) ↔
    EarlierRejects report cfg ∨ FeeViolated report cfg
  warn : (∃ message, evaluateSafety report cfg = .warn message) ↔
    ¬(EarlierRejects report cfg ∨ FeeViolated report cfg) ∧ report.isMutable = some true ∧
      cfg.rejectMutableMetadata = false

/-- The limit is within 16 bits, or the fee is within what is left of the limit. -/
def FeeFits : Prop :=
  ¬EarlierRejects report cfg → cfg.rejectTransferFee = true →
    cfg.maxTransferFeeBps < 2 ^ 16 ∨ feeBps report ≤ cfg.maxTransferFeeBps % 2 ^ 16

def FeeRejects : Prop :=
  cfg.rejectTransferFee = true ∧ cfg.maxTransferFeeBps % 2 ^ 16 < feeBps report

end

def Settings.withMaxFee (cfg : Settings) (max : Nat) : Settings :=
  { cfg with maxTransferFeeBps := max }

section

variable {report : TokenSafetyReport} {cfg : Settings}

def earlierMessages : List String :=
  ["mint authority still active", "freeze authority still active", "metadata is mutable"]

private theorem feeMessage_notMem : feeMessage report cfg ∉ earlierMessages := by
  have hhead : (feeMessage report cfg).toList.head? = some 't' := by
    simp only [feeMessage, String.toList_append, List.append_assoc]
    rfl
  intro hmem
  have hothers : ∀ message ∈ earlierMessages, message.toList.head? ≠ some 't' := by decide
  exact hothers _ hmem hhead

theorem evaluateSafety_cases (report : TokenSafetyReport) (cfg : Settings) :
    (EarlierRejects report cfg ∧
      ∃ message ∈ earlierMessages, evaluateSafety report cfg = .reject message) ∨
    (¬EarlierRejects report cfg ∧ FeeRejects report cfg ∧
      evaluateSafety report cfg = .reject (feeMessage report cfg)) ∨
    (¬EarlierRejects report cfg ∧ ¬FeeRejects report cfg ∧ report.isMutable = some true ∧
      evaluateSafety report cfg = .warn "metadata is mutable") ∨
    (¬EarlierRejects report cfg ∧ ¬FeeRejects report cfg ∧ report.isMutable ≠ some true ∧
      evaluateSafety report cfg = .allow) := by
  unfold evaluateSafety
  simp only [Bool.and_eq_true, beq_iff_eq, decide_eq_true_eq]
  split_ifs with hmint hfreeze hmutable hfee hwarn
  · exact .inl ⟨.inl hmint, _, List.mem_cons_self, rfl⟩
  · exact .inl ⟨.inr (.inl hfreeze), _, by simp [earlierMessages], rfl⟩
  · exact .inl ⟨.inr (.inr hmutable.symm), _, by simp [earlierMessages], rfl⟩
  all_goals
    have hearlier : ¬EarlierRejects report cfg := by
      rintro (h | h | h)
      · exact hmint h
      · exact hfreeze h
      · exact hmutable h.symm
  · exact .inr (.inl ⟨hearlier, hfee, rfl⟩)
  · exact .inr (.inr (.inl ⟨hearlier, hfee, hwarn, rfl⟩))
  · exact .inr (.inr (.inr ⟨hearlier, hfee, hwarn, rfl⟩))

private theorem evaluateSafety_iff (report : TokenSafetyReport) (cfg : Settings) :
    (evaluateSafety report cfg = .reject (feeMessage report cfg) ↔
      ¬EarlierRejects report cfg ∧ FeeRejects report cfg) ∧
    ((∃ message, evaluateSafety report cfg = .reject message) ↔
      EarlierRejects report cfg ∨ FeeRejects report cfg) ∧
    ((∃ message, evaluateSafety report cfg = .warn message) ↔
      ¬(EarlierRejects report cfg ∨ FeeRejects report cfg) ∧ report.isMutable = some true) := by
  rcases evaluateSafety_cases report cfg with
    ⟨hearlier, message, hmem, h⟩ | ⟨hearlier, hfee, h⟩ | ⟨hearlier, hfee, hmutable, h⟩ |
      ⟨hearlier, hfee, hmutable, h⟩
  · have hother : message ≠ feeMessage report cfg := by
      rintro rfl
      exact feeMessage_notMem hmem
    simp [h, hearlier, hother]
  · simp [h, hearlier, hfee]
  · simp [h, hearlier, hfee, hmutable]
  · simp [h, hearlier, hfee, hmutable]

private theorem feeRejects_iff (hu16 : feeBps report < 2 ^ 16)
    (hearlier : ¬EarlierRejects report cfg) :
    (FeeRejects report cfg ↔ FeeViolated report cfg) ↔ FeeFits report cfg := by
  have hmod := Nat.mod_le cfg.maxTransferFeeBps (2 ^ 16)
  constructor
  · intro hsame _ hreject
    by_contra hnot
    have hlimit : 2 ^ 16 ≤ cfg.maxTransferFeeBps := by omega
    have hrejects : FeeRejects report cfg := ⟨hreject, by omega⟩
    have hviolated := (hsame.mp hrejects).2
    omega
  · intro hfits
    refine and_congr_right fun hreject => ?_
    rcases hfits hearlier hreject with hsmall | hle
    · rw [Nat.mod_eq_of_lt hsmall]
    · exact iff_of_false (by omega) (by omega)

private theorem screensExactly_iff_fits (hu16 : feeBps report < 2 ^ 16) :
    ScreensExactly report cfg ↔ FeeFits report cfg := by
  obtain ⟨hfee, hreject, hwarn⟩ := evaluateSafety_iff report cfg
  by_cases hearlier : EarlierRejects report cfg
  · refine iff_of_true ⟨?_, ?_, ?_⟩ fun hnot => absurd hearlier hnot
    · simp [hfee, hearlier]
    · simp [hreject, hearlier]
    · simp [hwarn, hearlier]
  · rw [← feeRejects_iff hu16 hearlier]
    constructor
    · intro h
      have hsame := hreject.symm.trans h.reject
      simpa [hearlier] using hsame
    · intro hsame
      refine ⟨?_, ?_, ?_⟩
      · rw [hfee, hsame]
      · rw [hreject, hsame]
      · rw [hwarn, hsame]
        refine and_congr_right fun hnone => ⟨fun hmutable => ⟨hmutable, ?_⟩, And.left⟩
        rw [← Bool.not_eq_true]
        exact fun hrejected => hearlier (.inr (.inr ⟨hrejected, hmutable⟩))

private theorem accepts_iff : (evaluateSafety report cfg).accepts = true ↔
    ¬ ∃ message, evaluateSafety report cfg = .reject message := by
  cases evaluateSafety report cfg <;> simp [ScreenDecision.accepts]

theorem ScreensExactly.accepts_of_raised {raised : Nat} (h : ScreensExactly report cfg)
    (hraised : ScreensExactly report (cfg.withMaxFee raised))
    (hle : cfg.maxTransferFeeBps ≤ raised) (haccepts : (evaluateSafety report cfg).accepts = true) :
    (evaluateSafety report (cfg.withMaxFee raised)).accepts = true := by
  rw [accepts_iff, h.reject] at haccepts
  rw [accepts_iff, hraised.reject]
  rintro (hearlier | ⟨hreject, hexceeds⟩)
  · exact haccepts (.inl hearlier)
  · exact haccepts (.inr ⟨hreject, Nat.lt_of_le_of_lt hle hexceeds⟩)

end

/--
The screen decides by the integers under a limit and a higher one, and accepts
no less under the higher one, exactly if the fee fits both limits.
-/
theorem screensExactly_iff {report : TokenSafetyReport}
    (hu16 : ∀ bps ∈ report.transferFeeBps, bps < 2 ^ 16) {cfg : Settings} {raised : Nat}
    (hle : cfg.maxTransferFeeBps ≤ raised) :
    (ScreensExactly report cfg ∧ ScreensExactly report (cfg.withMaxFee raised) ∧
      ((evaluateSafety report cfg).accepts = true →
        (evaluateSafety report (cfg.withMaxFee raised)).accepts = true)) ↔
    FeeFits report cfg ∧ FeeFits report (cfg.withMaxFee raised) := by
  have hfee : feeBps report < 2 ^ 16 := by
    unfold feeBps
    cases hbps : report.transferFeeBps with
    | none => norm_num
    | some bps => exact hu16 bps hbps
  rw [← screensExactly_iff_fits hfee, ← screensExactly_iff_fits hfee]
  constructor
  · rintro ⟨h, hraised, -⟩
    exact ⟨h, hraised⟩
  · rintro ⟨h, hraised⟩
    exact ⟨h, hraised, h.accepts_of_raised hraised hle⟩

/-! ## A limit of 65536 -/

def smallFeeReport : TokenSafetyReport where
  mintAuthority := none
  freezeAuthority := none
  isMutable := some false
  transferFeeBps := some 1
  isToken2022 := true
  decimals := 6
  supply := 12345

theorem screensExactly_iff_small :
    (ScreensExactly smallFeeReport (Settings.plain.withMaxFee 1) ∧
      ScreensExactly smallFeeReport ((Settings.plain.withMaxFee 1).withMaxFee 100) ∧
      ((evaluateSafety smallFeeReport (Settings.plain.withMaxFee 1)).accepts = true →
        (evaluateSafety smallFeeReport ((Settings.plain.withMaxFee 1).withMaxFee 100)).accepts =
          true)) ↔
    FeeFits smallFeeReport (Settings.plain.withMaxFee 1) ∧
      FeeFits smallFeeReport ((Settings.plain.withMaxFee 1).withMaxFee 100) :=
  screensExactly_iff (by simp [smallFeeReport]) (by decide)

theorem raised_limit_rejects :
    (Settings.plain.withMaxFee 65536).validate .plain = .ok () ∧
      (evaluateSafety smallFeeReport (Settings.plain.withMaxFee 1)).accepts = true ∧
      evaluateSafety smallFeeReport (Settings.plain.withMaxFee 65536) =
        .reject "transfer fee 1 bps exceeds maximum 65536 bps" ∧
      ¬ScreensExactly smallFeeReport (Settings.plain.withMaxFee 65536) := by
  have hrejects : evaluateSafety smallFeeReport (Settings.plain.withMaxFee 65536) =
      .reject "transfer fee 1 bps exceeds maximum 65536 bps" := by decide +kernel
  refine ⟨Settings.plain_valid, by decide +kernel, hrejects, ?_⟩
  intro h
  rcases h.reject.mp ⟨_, hrejects⟩ with (⟨-, h⟩ | ⟨-, h⟩ | ⟨-, h⟩) | ⟨-, h⟩
  · cases h
  · cases h
  · cases h
  · exact absurd h (by decide)

end Girasol
