import Retrywise.Simulator.Metrics

/-!
# Paired comparisons

`evaluator.py`, `_paired_comparison` and `_clustered_bootstrap_interval`. Two results are compared
case by case, by the ids of the scenarios. An interval for the sum of the differences is drawn from
samples of merchants, with keyed hashes for random numbers.

> `low_le_high`: an interval that is drawn is one.

> `sum_caseDeltas`: if every scenario has an id of its own, the differences of the cases add up to
> the difference of the results.
-/

namespace Retrywise.Simulator

open Retrywise.Foundation Retrywise.Domain Retrywise.ControlPlane

/-! ## Keyed hashes -/

/-- The value of a lowercase hexadecimal digit. -/
def hexValue (digit : Char) : Nat :=
  if digit.isDigit then digit.toNat - 48 else digit.toNat - 87

/-- `keyed_u64`: the first eight bytes of the digest, which are its first sixteen digits. -/
def keyedU64 [Hashlib] (seed : Int) (parts : List String) : Nat :=
  let material := String.intercalate "|" (toString seed :: parts)
  let digest := Hashlib.sha256Hexdigest material.toUTF8
  (digest.toList.take 16).foldl (fun value digit => 16 * value + hexValue digit) 0

/-! ## Differences of cases -/

structure CaseDelta where
  scenarioId : String
  merchantId : String
  delta : Int

/-- The keys of a dictionary by scenario, in order. -/
def caseIds (outcomes : List CaseOutcome) : List String :=
  (outcomes.map fun outcome => outcome.scenarioId).dedup.mergeSort fun a b => decide (a ≤ b)

/-- The outcome that a dictionary by scenario keeps: the last one. -/
def outcomeOf (outcomes : List CaseOutcome) (scenarioId : String) : Option CaseOutcome :=
  outcomes.reverse.find? fun outcome => outcome.scenarioId = scenarioId

def caseDeltas (candidate reference : List CaseOutcome) : Except EngineError (List CaseDelta) :=
  (caseIds candidate).mapM fun scenarioId => do
    let candidateOutcome ← someOr (outcomeOf candidate scenarioId) (.key scenarioId)
    let referenceOutcome ← someOr (outcomeOf reference scenarioId) (.key scenarioId)
    return {
      scenarioId
      merchantId := candidateOutcome.merchantId
      delta := candidateOutcome.netIncrementalValueMinor -
        referenceOutcome.netIncrementalValueMinor }

/-! ## Intervals -/

structure ConfidenceInterval where
  lowMinor : Int
  highMinor : Int
  confidence : Rat
  bootstrapSamples : Int
  clusterUnit : String

/-- `by_merchant`. -/
def byMerchant (deltas : List CaseDelta) (merchantId : String) : Int :=
  ((deltas.filter fun delta => delta.merchantId = merchantId).map fun delta => delta.delta).sum

/-- One replicate of the bootstrap: as many merchants as there are, drawn with replacement. -/
def replicateTotal [Hashlib] (seed : Int) (candidateKey referenceKey : String)
    (deltas : List CaseDelta) (merchants : List String) (replicate : Nat) : Int :=
  ((List.range merchants.length).map fun position =>
    let selected := keyedU64 seed ["bootstrap", candidateKey, referenceKey, toString replicate,
      toString position] % merchants.length
    byMerchant deltas (merchants.getD selected "")).sum

/-- `samples`, before they are put in order. -/
def bootstrapTotals [Hashlib] (seed : Int) (candidateKey referenceKey : String)
    (deltas : List CaseDelta) (bootstrapSamples : Int) : List Int :=
  let merchants := (deltas.map fun delta => delta.merchantId).dedup.mergeSort
    fun a b => decide (a ≤ b)
  if merchants = [] then [0]
  else (List.range bootstrapSamples.toNat).map
    (replicateTotal seed candidateKey referenceKey deltas merchants)

/-- `int(quantile * (count - 1))`. -/
def quantileIndex (quantile : Rat) (count : Nat) : Nat :=
  (truncated (nearest64 (nearest64 quantile * nearest64 ((count : Int) - 1 : Int)))).toNat

/-- `_clustered_bootstrap_interval`. -/
def clusteredBootstrapInterval [Hashlib] (seed : Int) (candidateKey referenceKey : String)
    (deltas : List CaseDelta) (bootstrapSamples : Int) : Except EngineError ConfidenceInterval := do
  let samples := (bootstrapTotals seed candidateKey referenceKey deltas bootstrapSamples).mergeSort
    fun a b => decide (a ≤ b)
  let low ← someOr samples[quantileIndex (25 / 1000) samples.length]? .index
  let high ← someOr samples[quantileIndex (975 / 1000) samples.length]? .index
  return {
    lowMinor := low
    highMinor := high
    confidence := nearest64 (95 / 100)
    bootstrapSamples
    clusterUnit := "merchant_id" }

/-! ## Comparisons -/

structure PairedComparison where
  candidate : String
  reference : String
  pairedOn : String
  deltaNetValueMinor : Int
  deltaIncrementalRecoveredOrders : Int
  deltaHardSafetyViolations : Int
  wins : Nat
  losses : Nat
  ties : Nat
  confidenceInterval : ConfidenceInterval
  supportsImprovement : Bool
  conclusion : String

/-- `_paired_comparison`. -/
def pairedComparison [Hashlib] (seed : Int) (candidate reference : PolicyResult)
    (bootstrapSamples : Int) : Except EngineError PairedComparison := do
  raiseIf (caseIds candidate.caseOutcomes ≠ caseIds reference.caseOutcomes)
    (.value "paired policies must evaluate identical scenario IDs")
  let deltas ← caseDeltas candidate.caseOutcomes reference.caseOutcomes
  let interval ← clusteredBootstrapInterval seed candidate.policyKey reference.policyKey deltas
    bootstrapSamples
  let deltaSafety : Int :=
    candidate.metrics.hardSafetyViolations - reference.metrics.hardSafetyViolations
  return {
    candidate := candidate.policyKey
    reference := reference.policyKey
    pairedOn := "scenario_id_and_precomputed_potential_outcomes"
    deltaNetValueMinor := candidate.metrics.netSimulatedIncrementalValueMinor -
      reference.metrics.netSimulatedIncrementalValueMinor
    deltaIncrementalRecoveredOrders := candidate.metrics.incrementalRecoveredOrders -
      reference.metrics.incrementalRecoveredOrders
    deltaHardSafetyViolations := deltaSafety
    wins := deltas.countP fun delta => 0 < delta.delta
    losses := deltas.countP fun delta => delta.delta < 0
    ties := deltas.countP fun delta => delta.delta = 0
    confidenceInterval := interval
    supportsImprovement := decide (deltaSafety ≤ 0) && decide (0 < interval.lowMinor)
    conclusion :=
      if 0 < deltaSafety then "worse_safety_no_improvement_claim"
      else if 0 < interval.lowMinor then "paired_interval_supports_improvement"
      else if interval.highMinor < 0 then "paired_interval_supports_regression"
      else "paired_interval_inconclusive" }

/-! ## What the interval is -/

/-- The lower index is not above the higher one, with the floats that they are computed with. -/
theorem quantileIndex_mono {p q : Rat} {count : Nat} (hp : 0 ≤ p) (h : p ≤ q) (hcount : 0 < count) :
    quantileIndex p count ≤ quantileIndex q count := by
  have hlast : (0 : Rat) ≤ nearest64 ((count : Int) - 1 : Int) :=
    nearest64_nonneg (by exact_mod_cast (show (0 : Int) ≤ (count : Int) - 1 by omega))
  have hproduct : nearest64 p * nearest64 ((count : Int) - 1 : Int) ≤
      nearest64 q * nearest64 ((count : Int) - 1 : Int) :=
    mul_le_mul_of_nonneg_right (nearest64_mono hp h) hlast
  have hzero : 0 ≤ nearest64 p * nearest64 ((count : Int) - 1 : Int) :=
    mul_nonneg (nearest64_nonneg hp) hlast
  have hindex := truncated_mono (nearest64_nonneg hzero) (nearest64_mono hzero hproduct)
  unfold quantileIndex
  omega

section

variable [Hashlib] {seed : Int} {candidateKey referenceKey : String} {deltas : List CaseDelta}
  {bootstrapSamples : Int} {interval : ConfidenceInterval}

/-- **An interval that is drawn is one.** -/
theorem low_le_high
    (h : clusteredBootstrapInterval seed candidateKey referenceKey deltas bootstrapSamples =
      .ok interval) : interval.lowMinor ≤ interval.highMinor := by
  unfold clusteredBootstrapInterval at h
  simp only [bind_ok_iff, pure_ok_iff, someOr_ok_iff] at h
  obtain ⟨low, hlow, high, hhigh, rfl⟩ := h
  obtain ⟨hlowLt, hlowEq⟩ := List.getElem?_eq_some_iff.mp hlow
  obtain ⟨hhighLt, hhighEq⟩ := List.getElem?_eq_some_iff.mp hhigh
  have hindex := quantileIndex_mono (p := 25 / 1000) (q := 975 / 1000) (by norm_num) (by norm_num)
    (Nat.zero_lt_of_lt hlowLt)
  show low ≤ high
  rw [← hlowEq, ← hhighEq]
  rcases Nat.eq_or_lt_of_le hindex with heq | hlt
  · exact le_of_eq (getElem_congr_idx heq)
  · -- the samples are in order
    have hsorted : ∀ samples : List Int, (samples.mergeSort fun a b => decide (a ≤ b)).Pairwise
        fun a b => decide (a ≤ b) = true :=
      List.pairwise_mergeSort
        (fun a b c hab hbc => decide_eq_true (le_trans (of_decide_eq_true hab)
          (of_decide_eq_true hbc)))
        (fun a b => by simpa using le_total a b)
    exact of_decide_eq_true (List.pairwise_iff_getElem.mp (hsorted _) _ _ hlowLt hhighLt hlt)

end

/-! ## What the differences add up to -/

section

variable {outcomes candidate reference : List CaseOutcome} {deltas : List CaseDelta}

/-- The net value that a dictionary by scenario keeps. -/
def netOf (outcomes : List CaseOutcome) (scenarioId : String) : Int :=
  ((outcomeOf outcomes scenarioId).map fun outcome => outcome.netIncrementalValueMinor).getD 0

theorem map_delta (h : caseDeltas candidate reference = .ok deltas) :
    (deltas.map fun delta => delta.delta) =
      (caseIds candidate).map fun scenarioId =>
        netOf candidate scenarioId - netOf reference scenarioId := by
  have hall := mapM_ok_iff_forall₂.mp h
  generalize caseIds candidate = ids at hall ⊢
  clear h
  induction hall with
  | nil => rfl
  | cons hfirst hrest ih =>
    simp only [bind_ok_iff, pure_ok_iff, someOr_ok_iff] at hfirst
    obtain ⟨candidateOutcome, hcandidate, referenceOutcome, hreference, rfl⟩ := hfirst
    rw [List.map_cons, List.map_cons, ih, netOf, netOf, hcandidate, hreference]
    rfl

/-- Every case is won, lost or tied. -/
theorem countP_outcomes (deltas : List CaseDelta) :
    (deltas.countP fun delta => decide (0 < delta.delta)) +
        (deltas.countP fun delta => decide (delta.delta < 0)) +
        (deltas.countP fun delta => decide (delta.delta = 0)) = deltas.length := by
  induction deltas with
  | nil => rfl
  | cons delta deltas ih =>
    simp only [List.countP_cons, List.length_cons, decide_eq_true_eq]
    rcases lt_trichotomy delta.delta 0 with hlost | htied | hwon
    · rw [if_neg (by omega), if_pos hlost, if_neg (by omega)]
      omega
    · rw [if_neg (by omega), if_neg (by omega), if_pos htied]
      omega
    · rw [if_pos hwon, if_neg (by omega), if_neg (by omega)]
      omega

/-- An outcome is kept, if no other has its scenario. -/
theorem outcomeOf_of_mem (hdistinct : (outcomes.map fun outcome => outcome.scenarioId).Nodup)
    {outcome : CaseOutcome} (hmem : outcome ∈ outcomes) :
    outcomeOf outcomes outcome.scenarioId = some outcome := by
  unfold outcomeOf
  cases hfound : outcomes.reverse.find? fun other => other.scenarioId = outcome.scenarioId with
  | none =>
    have hnone := List.find?_eq_none.mp hfound outcome (List.mem_reverse.mpr hmem)
    exact absurd (decide_eq_true rfl) hnone
  | some other =>
    have hother := List.mem_reverse.mp (List.mem_of_find?_eq_some hfound)
    have hsame : other.scenarioId = outcome.scenarioId := by
      simpa using List.find?_some hfound
    rw [List.inj_on_of_nodup_map hdistinct hother hmem hsame]

/-- **The values that the dictionary keeps add up** to those of all cases. -/
theorem sum_netOf (hdistinct : (outcomes.map fun outcome => outcome.scenarioId).Nodup) :
    ((caseIds outcomes).map (netOf outcomes)).sum =
      (outcomes.map fun outcome => outcome.netIncrementalValueMinor).sum := by
  have hperm : (caseIds outcomes).Perm (outcomes.map fun outcome => outcome.scenarioId) := by
    unfold caseIds
    rw [List.Nodup.dedup hdistinct]
    exact List.mergeSort_perm _ _
  have hkept : (outcomes.map fun outcome => outcome.scenarioId).map (netOf outcomes) =
      outcomes.map fun outcome => outcome.netIncrementalValueMinor := by
    rw [List.map_map]
    refine List.map_congr_left fun outcome hmem => ?_
    show netOf outcomes outcome.scenarioId = _
    rw [netOf, outcomeOf_of_mem hdistinct hmem]
    rfl
  rw [(hperm.map (netOf outcomes)).sum_eq, hkept]

theorem sum_map_sub (f g : String → Int) (ids : List String) :
    (ids.map fun scenarioId => f scenarioId - g scenarioId).sum =
      (ids.map f).sum - (ids.map g).sum := by
  induction ids with
  | nil => rfl
  | cons scenarioId ids ih =>
    rw [List.map_cons, List.map_cons, List.map_cons, List.sum_cons, List.sum_cons, List.sum_cons, ih]
    omega

/-- **The differences of the cases add up** to the difference of the results. -/
theorem sum_caseDeltas (hdistinct : (candidate.map fun outcome => outcome.scenarioId).Nodup)
    (hsame : (candidate.map fun outcome => outcome.scenarioId) =
      reference.map fun outcome => outcome.scenarioId)
    (h : caseDeltas candidate reference = .ok deltas) :
    (deltas.map fun delta => delta.delta).sum =
      (candidate.map fun outcome => outcome.netIncrementalValueMinor).sum -
        (reference.map fun outcome => outcome.netIncrementalValueMinor).sum := by
  have hids : caseIds candidate = caseIds reference := by
    unfold caseIds
    rw [hsame]
  rw [map_delta h, sum_map_sub, sum_netOf hdistinct, hids, sum_netOf (hsame ▸ hdistinct)]

theorem length_caseDeltas (h : caseDeltas candidate reference = .ok deltas) :
    deltas.length = (candidate.map fun outcome => outcome.scenarioId).dedup.length := by
  have hlength := congrArg List.length (map_delta h)
  rw [List.length_map, List.length_map] at hlength
  rw [hlength]
  exact (List.mergeSort_perm _ _).length_eq

theorem exists_outcomeOf {scenarioId : String} (h : scenarioId ∈ caseIds outcomes) :
    ∃ outcome, outcomeOf outcomes scenarioId = some outcome := by
  have hmem : scenarioId ∈ outcomes.map fun outcome => outcome.scenarioId :=
    List.mem_dedup.mp ((List.mergeSort_perm _ _).mem_iff.mp h)
  obtain ⟨outcome, houtcome, rfl⟩ := List.mem_map.mp hmem
  refine Option.isSome_iff_exists.mp (List.find?_isSome.mpr ⟨outcome, ?_, ?_⟩)
  · exact List.mem_reverse.mpr houtcome
  · exact decide_eq_true rfl

theorem exists_forall₂ {α β : Type} {R : α → β → Prop} {as : List α}
    (h : ∀ a ∈ as, ∃ b, R a b) : ∃ bs, List.Forall₂ R as bs := by
  induction as with
  | nil => exact ⟨[], .nil⟩
  | cons a as ih =>
    obtain ⟨hfirst, hrest⟩ := List.forall_mem_cons.mp h
    obtain ⟨b, hb⟩ := hfirst
    obtain ⟨bs, hbs⟩ := ih hrest
    exact ⟨b :: bs, .cons hb hbs⟩

/-- A result can be compared with itself, case by case. -/
theorem exists_caseDeltas (outcomes : List CaseOutcome) :
    ∃ deltas, caseDeltas outcomes outcomes = .ok deltas := by
  unfold caseDeltas
  simp only [mapM_ok_iff_forall₂]
  refine exists_forall₂ fun scenarioId hmem => ?_
  obtain ⟨outcome, houtcome⟩ := exists_outcomeOf hmem
  simp only [bind_ok_iff, pure_ok_iff, someOr_ok_iff]
  exact ⟨_, outcome, houtcome, outcome, houtcome, rfl⟩

theorem quantileIndex_one (quantile : Rat) : quantileIndex quantile 1 = 0 := by
  have hzero : nearest64 0 = 0 := if_pos rfl
  have hlast : (((1 : Nat) : Int) - 1 : Int) = 0 := rfl
  unfold quantileIndex
  rw [hlast, Int.cast_zero, hzero, mul_zero, hzero]
  rfl

/-- An interval can be drawn from one sample. -/
theorem exists_interval [Hashlib] (seed : Int) (candidateKey referenceKey : String)
    (deltas : List CaseDelta) :
    ∃ interval, clusteredBootstrapInterval seed candidateKey referenceKey deltas 1 =
      .ok interval := by
  have hlength : ((bootstrapTotals seed candidateKey referenceKey deltas 1).mergeSort
      fun a b => decide (a ≤ b)).length = 1 := by
    rw [List.length_mergeSort]
    unfold bootstrapTotals
    dsimp only
    split
    next => rfl
    next => rfl
  obtain ⟨sample, hsample⟩ := List.length_eq_one_iff.mp hlength
  unfold clusteredBootstrapInterval
  simp only [bind_ok_iff, pure_ok_iff, someOr_ok_iff, hsample, List.length_singleton,
    quantileIndex_one]
  exact ⟨_, sample, rfl, sample, rfl, rfl⟩

end

end Retrywise.Simulator
