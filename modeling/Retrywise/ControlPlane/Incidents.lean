import Retrywise.Foundation.DecimalContext
import Retrywise.ControlPlane.Boundary
import Retrywise.Domain.States
import Retrywise.Domain.Values

/-!
# The incident detector

`incidents.py`: the windows of one payment method are evaluated one after the other, and each
evaluation moves the projection of the incident, or leaves it and takes down that there was
evidence.

> `evaluate_ok`: everything one evaluation can do to a projection, with what it asks of the
> window.
-/

namespace Retrywise.ControlPlane

open Retrywise.Foundation Retrywise.Domain

/-! ## Windows -/

/-- The scope of an incident: the three labels that windows and projections carry. -/
structure IncidentScope where
  scopeId : String
  merchantId : String
  paymentMethod : String
  scopeId_ok : isIdentifier scopeId = true
  merchantId_ok : isIdentifier merchantId = true
  paymentMethod_ok : isPaymentMethod paymentMethod = true
deriving DecidableEq

structure MethodHealthWindow extends IncidentScope where
  windowStartedAt : Timestamp
  observedAt : Timestamp
  successes : Nat
  failures : Nat
  baselineSuccessRate : Probability
  providerDowntimeActive : Bool := false
  started_le : windowStartedAt ≤ observedAt

/-- The value of a `Probability`. -/
abbrev Share := {q : Rat // 0 ≤ q ∧ q ≤ 1}

namespace MethodHealthWindow

variable (window : MethodHealthWindow)

def volume : Nat := window.successes + window.failures

/-- `Decimal(self.successes) / Decimal(self.volume)`, before it is rounded. -/
def successShare : Rat := window.successes / window.volume

theorem successShare_nonneg : 0 ≤ window.successShare :=
  div_nonneg (Nat.cast_nonneg _) (Nat.cast_nonneg _)

theorem successShare_le_one : window.successShare ≤ 1 := by
  refine div_le_one_of_le₀ ?_ (Nat.cast_nonneg _)
  exact_mod_cast Nat.le_add_right window.successes window.failures

theorem abs_successShare_le : |window.successShare| ≤ 1 := by
  rw [abs_of_nonneg window.successShare_nonneg]
  exact window.successShare_le_one

/-- The division is in range (`fix_defaultContext`), and so is the probability made of it. -/
def observedSuccessRate : Share :=
  if window.volume = 0 then ⟨0, le_refl _, zero_le_one⟩
  else ⟨defaultContext.nearest window.successShare,
    DecimalContext.nearest_nonneg window.successShare_nonneg,
    le_trans (le_abs_self _) (fix_defaultContext window.abs_successShare_le).2⟩

/-- `drop`, before it is rounded. -/
def exactDrop : Rat := window.baselineSuccessRate.value.value - window.observedSuccessRate.val

theorem abs_exactDrop_le : |window.exactDrop| ≤ 1 := by
  have hnonneg := window.baselineSuccessRate.nonneg
  have hle := window.baselineSuccessRate.le_one
  obtain ⟨hlow, hhigh⟩ := window.observedSuccessRate.property
  unfold exactDrop
  rw [abs_le]
  constructor <;> linarith

/-- `max(drop, Decimal(0))`. -/
def degradation : Share :=
  ⟨max (defaultContext.nearest window.exactDrop) 0, le_max_right _ _,
    max_le (le_trans (le_abs_self _) (fix_defaultContext window.abs_exactDrop_le).2) zero_le_one⟩

end MethodHealthWindow

/-! ## Configuration -/

/-- So many hundredths. -/
def hundredths (n : Nat) (h : n ≤ 100) : Probability where
  value := ⟨false, n, -2⟩
  nonneg := by
    simp only [Decimal.value, Bool.false_eq_true, if_false, one_mul]
    positivity
  le_one := by
    have hle : (n : Rat) ≤ 100 := by exact_mod_cast h
    simp only [Decimal.value]
    norm_num
    linarith

def defaultSuspectDrop : Probability := hundredths 15 (by decide)

def defaultConfirmDrop : Probability := hundredths 25 (by decide)

def defaultHealthyDrop : Probability := hundredths 5 (by decide)

theorem defaultDrops_le :
    defaultHealthyDrop.value.value ≤ defaultSuspectDrop.value.value ∧
      defaultSuspectDrop.value.value ≤ defaultConfirmDrop.value.value := by
  simp only [defaultHealthyDrop, defaultSuspectDrop, defaultConfirmDrop, hundredths, Decimal.value]
  norm_num

structure IncidentDetectorConfig where
  version : String
  minimumVolume : Nat := 20
  suspectDrop : Probability := defaultSuspectDrop
  confirmDrop : Probability := defaultConfirmDrop
  healthyDrop : Probability := defaultHealthyDrop
  ttl : Timedelta := minutes 10
  coolingPeriod : Timedelta := minutes 3
  version_ok : isIdentifier version = true
  minimumVolume_pos : 0 < minimumVolume
  suspect_le_confirm : suspectDrop.value.value ≤ confirmDrop.value.value
  healthy_le_suspect : healthyDrop.value.value ≤ suspectDrop.value.value
  ttl_pos : 0 < ttl
  coolingPeriod_pos : 0 < coolingPeriod

namespace IncidentDetectorConfig

variable (config : IncidentDetectorConfig) (window : MethodHealthWindow)

def enoughVolume : Bool := decide (config.minimumVolume ≤ window.volume)

def suspected : Bool :=
  config.enoughVolume window && decide (config.suspectDrop.value.value ≤ window.degradation.val)

def strong : Bool :=
  config.enoughVolume window && decide (config.minimumVolume * 2 ≤ window.volume) &&
    decide (config.confirmDrop.value.value ≤ window.degradation.val)

def healthy : Bool :=
  config.enoughVolume window && decide (window.degradation.val ≤ config.healthyDrop.value.value)

/-- `window.provider_downtime_active or strong`. -/
def corroborated : Bool := window.providerDowntimeActive || config.strong window

/-- The window itself shows a degraded method. -/
def shows : Bool := window.providerDowntimeActive || config.suspected window

variable {config window}

end IncidentDetectorConfig

/-! ## Projections -/

structure IncidentProjection extends IncidentScope where
  state : IncidentState := .normal
  version : Nat := 0
  stateSince : Option Timestamp := none
  lastEvidenceAt : Option Timestamp := none
  expiresAt : Option Timestamp := none
  coolingUntil : Option Timestamp := none
deriving DecidableEq

structure IncidentEvaluation where
  projection : IncidentProjection
  changed : Bool
  reasonCode : String
  observedSuccessRate : Share
  baselineSuccessRate : Probability
  degradation : Share
  providerCorroborated : Bool
  minimumVolumeMet : Bool

/-- `evidence_expired`. -/
def IncidentProjection.evidenceExpired (p : IncidentProjection) (window : MethodHealthWindow) :
    Bool :=
  p.expiresAt.any fun expiry => decide (expiry ≤ window.observedAt)

/-- `cooling_until` is there and has passed. -/
def IncidentProjection.cooled (p : IncidentProjection) (window : MethodHealthWindow) : Bool :=
  p.coolingUntil.any fun until' => decide (until' ≤ window.observedAt)

theorem IncidentProjection.cooled_iff {p : IncidentProjection} {window : MethodHealthWindow} :
    p.cooled window = true ↔
      ∃ until', p.coolingUntil = some until' ∧ until' ≤ window.observedAt := by
  unfold cooled
  cases p.coolingUntil with
  | none => simp
  | some until' => simp

/-- `target`, `reason` and `cooling_until` of an evaluation. -/
structure IncidentMove where
  target : IncidentState
  reason : String := "NO_MATERIAL_CHANGE"
  coolingUntil : Option Timestamp
deriving DecidableEq

namespace IncidentDetectorConfig

variable (config : IncidentDetectorConfig)

/-- The branches of `evaluate`. -/
def move (p : IncidentProjection) (window : MethodHealthWindow) :
    Except ControlPlaneError IncidentMove :=
  match p.state with
  | .normal =>
    if config.shows window then
      .ok { target := .suspected
            reason := if window.providerDowntimeActive then "PROVIDER_DOWNTIME_SUSPECTED"
              else "STATISTICAL_DEGRADATION_SUSPECTED"
            coolingUntil := p.coolingUntil }
    else .ok { target := p.state, coolingUntil := p.coolingUntil }
  | .suspected =>
    if config.corroborated window then
      .ok { target := .confirmed
            reason := if window.providerDowntimeActive then "PROVIDER_DOWNTIME_CONFIRMED"
              else "STRONG_CORROBORATION_CONFIRMED"
            coolingUntil := p.coolingUntil }
    else if config.healthy window || p.evidenceExpired window then
      .ok { target := .normal
            reason := if p.evidenceExpired window then "SUSPECTED_EVIDENCE_EXPIRED"
              else "SUSPECTED_EVIDENCE_DECAYED"
            coolingUntil := p.coolingUntil }
    else .ok { target := p.state, coolingUntil := p.coolingUntil }
  | .confirmed =>
    if !window.providerDowntimeActive && (config.healthy window || p.evidenceExpired window) then do
      let coolingUntil ← liftDomain (shift window.observedAt config.coolingPeriod)
      return { target := .cooling
               reason := "RECOVERY_SIGNAL_ENTERED_COOLING"
               coolingUntil := some coolingUntil }
    else .ok { target := p.state, coolingUntil := p.coolingUntil }
  | .cooling =>
    if config.corroborated window then
      .ok { target := .confirmed, reason := "DEGRADATION_RESUMED", coolingUntil := none }
    else if config.healthy window && p.cooled window then
      .ok { target := .normal, reason := "HYSTERESIS_WINDOW_PASSED", coolingUntil := none }
    else .ok { target := p.state, coolingUntil := p.coolingUntil }

/-- The states in which there is evidence to expire. -/
def expiring (state : IncidentState) : Bool := state = .suspected || state = .confirmed

/-- `observed_at + ttl`, where there is something to expire, else what `otherwise` says. -/
def expiry (renewed : Bool) (window : MethodHealthWindow) (otherwise : Option Timestamp) :
    Except ControlPlaneError (Option Timestamp) :=
  if renewed then do
    let expiresAt ← liftDomain (shift window.observedAt config.ttl)
    return some expiresAt
  else .ok otherwise

/-- `next_projection`. -/
def next (p : IncidentProjection) (window : MethodHealthWindow) (move : IncidentMove)
    (changed : Bool) : Except ControlPlaneError IncidentProjection :=
  if changed then do
    let expiresAt ← config.expiry (expiring move.target) window none
    return { p with
      state := move.target
      version := p.version + 1
      stateSince := some window.observedAt
      lastEvidenceAt := some window.observedAt
      expiresAt
      coolingUntil := move.coolingUntil }
  else if p.lastEvidenceAt ≠ some window.observedAt then do
    let expiresAt ← config.expiry
      (expiring p.state && (config.shows window || config.strong window)) window p.expiresAt
    return { p with lastEvidenceAt := some window.observedAt, expiresAt }
  else .ok p

/-- `IncidentDetector.evaluate`. -/
def evaluate (p : IncidentProjection) (window : MethodHealthWindow) :
    Except ControlPlaneError IncidentEvaluation := do
  raiseIf (p.scopeId ≠ window.scopeId ∨ p.merchantId ≠ window.merchantId ∨
      p.paymentMethod ≠ window.paymentMethod)
    (.invalidValue "health window belongs to another incident scope")
  raiseIf (p.lastEvidenceAt.any fun last => window.observedAt < last)
    (.invalidValue "incident evidence cannot move backwards in time")
  let move ← config.move p window
  let changed ← liftDomain (validateIncidentTransition p.state move.target)
  let projection ← config.next p window move changed
  return {
    projection
    changed
    reasonCode := move.reason
    observedSuccessRate := window.observedSuccessRate
    baselineSuccessRate := window.baselineSuccessRate
    degradation := window.degradation
    providerCorroborated := window.providerDowntimeActive
    minimumVolumeMet := config.enoughVolume window }

end IncidentDetectorConfig

/-! ## What one evaluation can do -/

namespace IncidentDetectorConfig

variable {config : IncidentDetectorConfig} {p q : IncidentProjection}
  {window : MethodHealthWindow}

/-- The moves, with what each asks of the state and the window. -/
inductive Moves (config : IncidentDetectorConfig) (p : IncidentProjection)
    (window : MethodHealthWindow) : IncidentState → Option Timestamp → Prop where
  | stay : Moves config p window p.state p.coolingUntil
  | suspect (state : p.state = .normal) (shown : config.shows window = true) :
    Moves config p window .suspected p.coolingUntil
  | confirm (state : p.state = .suspected) (shown : config.corroborated window = true) :
    Moves config p window .confirmed p.coolingUntil
  | decay (state : p.state = .suspected) (weak : config.corroborated window = false)
    (past : (config.healthy window || p.evidenceExpired window) = true) :
    Moves config p window .normal p.coolingUntil
  | cool (state : p.state = .confirmed) (quiet : window.providerDowntimeActive = false)
    (past : (config.healthy window || p.evidenceExpired window) = true) {coolingUntil : Timestamp}
    (cooling : coolingUntil.micros = window.observedAt.micros + config.coolingPeriod) :
    Moves config p window .cooling (some coolingUntil)
  | resume (state : p.state = .cooling) (shown : config.corroborated window = true) :
    Moves config p window .confirmed none
  | settle (state : p.state = .cooling) (weak : config.corroborated window = false)
    (past : (config.healthy window && p.cooled window) = true) :
    Moves config p window .normal none

theorem moves_of_move {move : IncidentMove} (h : config.move p window = .ok move) :
    Moves config p window move.target move.coolingUntil := by
  unfold IncidentDetectorConfig.move at h
  split at h
  next hstate =>
    split at h
    next hshown => obtain rfl := Except.ok.inj h; exact .suspect hstate hshown
    next => obtain rfl := Except.ok.inj h; exact .stay
  next hstate =>
    split at h
    next hshown => obtain rfl := Except.ok.inj h; exact .confirm hstate hshown
    next hweak =>
      split at h
      next hover =>
        obtain rfl := Except.ok.inj h
        exact .decay hstate (Bool.eq_false_iff.mpr hweak) hover
      next => obtain rfl := Except.ok.inj h; exact .stay
  next hstate =>
    split at h
    next hover =>
      simp only [bind_ok_iff, liftDomain_ok_iff, shift_ok_iff, pure_ok_iff] at h
      obtain ⟨coolingUntil, hcooling, rfl⟩ := h
      rw [Bool.and_eq_true, Bool.not_eq_true'] at hover
      exact .cool hstate hover.1 hover.2 hcooling
    next => obtain rfl := Except.ok.inj h; exact .stay
  next hstate =>
    split at h
    next hshown => obtain rfl := Except.ok.inj h; exact .resume hstate hshown
    next hweak =>
      split at h
      next hover =>
        obtain rfl := Except.ok.inj h
        exact .settle hstate (Bool.eq_false_iff.mpr hweak) hover
      next => obtain rfl := Except.ok.inj h; exact .stay

/-- What is written when the state stays. -/
structure Kept (p q : IncidentProjection) : Prop where
  state : q.state = p.state
  version : q.version = p.version
  stateSince : q.stateSince = p.stateSince
  coolingUntil : q.coolingUntil = p.coolingUntil
  expiresAt : q.expiresAt = p.expiresAt ∨ expiring p.state = true ∧ q.expiresAt.isSome = true

/-- What is written when it changes. -/
structure Changed (p : IncidentProjection) (window : MethodHealthWindow)
    (coolingUntil : Option Timestamp) (q : IncidentProjection) : Prop where
  state : q.state ≠ p.state
  version : q.version = p.version + 1
  stateSince : q.stateSince = some window.observedAt
  coolingUntil : q.coolingUntil = coolingUntil
  expiresAt : q.expiresAt.isSome = expiring q.state

theorem expiry_ok {renewed : Bool} {otherwise expiresAt : Option Timestamp}
    (h : config.expiry renewed window otherwise = .ok expiresAt) :
    (renewed = true ∧ expiresAt.isSome = true) ∨ (renewed = false ∧ expiresAt = otherwise) := by
  unfold expiry at h
  split at h
  next hrenewed =>
    simp only [bind_ok_iff, pure_ok_iff] at h
    obtain ⟨_, -, rfl⟩ := h
    exact Or.inl ⟨hrenewed, rfl⟩
  next hrenewed => exact Or.inr ⟨Bool.eq_false_iff.mpr hrenewed, (Except.ok.inj h).symm⟩

/-- **One evaluation**: a move of the state, and what it writes. -/
theorem evaluate_ok {e : IncidentEvaluation} (h : config.evaluate p window = .ok e) :
    ∃ move, config.move p window = .ok move ∧ e.projection.state = move.target ∧
      (Kept p e.projection ∨ Changed p window move.coolingUntil e.projection) := by
  unfold evaluate at h
  simp only [bind_ok_iff, raiseIf_ok_iff, liftDomain_ok_iff, pure_ok_iff] at h
  obtain ⟨_, -, _, -, move, hmove, changed, hchanged, projection, hnext, rfl⟩ := h
  refine ⟨move, hmove, ?_⟩
  unfold next at hnext
  rcases validateTransition_ok_iff.mp hchanged with ⟨hsame, rfl⟩ | ⟨hne, -, rfl⟩
  · rw [if_neg (by decide)] at hnext
    split at hnext
    next =>
      simp only [bind_ok_iff, pure_ok_iff] at hnext
      obtain ⟨expiresAt, hexpires, rfl⟩ := hnext
      refine ⟨hsame, Or.inl ⟨rfl, rfl, rfl, rfl, ?_⟩⟩
      rcases expiry_ok hexpires with ⟨hrenewed, hsome⟩ | ⟨-, hkept⟩
      · exact Or.inr ⟨(Bool.and_eq_true_iff.mp hrenewed).1, hsome⟩
      · exact Or.inl hkept
    next =>
      obtain rfl := Except.ok.inj hnext
      exact ⟨hsame, Or.inl ⟨rfl, rfl, rfl, rfl, Or.inl rfl⟩⟩
  · rw [if_pos rfl] at hnext
    simp only [bind_ok_iff, pure_ok_iff] at hnext
    obtain ⟨expiresAt, hexpires, rfl⟩ := hnext
    refine ⟨rfl, Or.inr ⟨fun h => hne h.symm, rfl, rfl, rfl, ?_⟩⟩
    rcases expiry_ok hexpires with ⟨htarget, hsome⟩ | ⟨htarget, hnone⟩
    · rw [hsome, htarget]
    · rw [hnone, htarget]
      rfl

/-- An evaluation that changes the state. -/
theorem exists_evaluate {move : IncidentMove} {expiresAt : Option Timestamp}
    (hscope : p.toIncidentScope = window.toIncidentScope)
    (hforward : ∀ last, p.lastEvidenceAt = some last → last ≤ window.observedAt)
    (hmove : config.move p window = .ok move) (hne : p.state ≠ move.target)
    (hedge : move.target ∈ incidentTransitions p.state)
    (hexpiry : config.expiry (expiring move.target) window none = .ok expiresAt) :
    ∃ e, config.evaluate p window = .ok e ∧ e.projection = { p with
      state := move.target
      version := p.version + 1
      stateSince := some window.observedAt
      lastEvidenceAt := some window.observedAt
      expiresAt
      coolingUntil := move.coolingUntil } := by
  have hlast : ¬p.lastEvidenceAt.any (fun last => window.observedAt < last) = true := by
    cases hsome : p.lastEvidenceAt with
    | none => simp
    | some last => simpa using hforward last hsome
  have hchanged : liftDomain (validateIncidentTransition p.state move.target) = .ok true :=
    liftDomain_ok_iff.mpr (validateTransition_ok_iff.mpr (Or.inr ⟨hne, hedge, rfl⟩))
  unfold evaluate
  rw [raiseIf_of_not _ (by rw [hscope]; simp), raiseIf_of_not _ hlast]
  simp only [bind_ok_iff, pure_ok_iff, hmove, hchanged, Except.ok.injEq, exists_eq_left',
    exists_const, next, if_true, hexpiry]
  exact ⟨_, ⟨trivial, trivial, rfl⟩, rfl⟩

end IncidentDetectorConfig

end Retrywise.ControlPlane
