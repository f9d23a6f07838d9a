import Retrywise.ControlPlane.Incidents

/-!
# Hysteresis of incidents

A run of windows of one scope, from a projection at rest. Its timers are set where they belong,
`CONFIRMED` is left for `NORMAL` only over a full cooling period, and the version counts the
changes of the state. What does not always hold is that a window that shows a degraded method
keeps the severity: in `SUSPECTED` and in `CONFIRMED` the age of the evidence is asked for
first, and the fresh evidence of the very window is not credited.

> `hysteresis_iff`: a run keeps all of it exactly if none of its windows slips.
-/

namespace Retrywise.ControlPlane

open Retrywise.Foundation Retrywise.Domain

namespace IncidentDetectorConfig

variable {config : IncidentDetectorConfig} {p q : IncidentProjection}
  {window : MethodHealthWindow} {e : IncidentEvaluation}

/-! ## The timers -/

/-- The timers are set where they belong, and cooling ends a full period after it began. -/
structure Sound (config : IncidentDetectorConfig) (p : IncidentProjection) : Prop where
  expiresAt : p.expiresAt.isSome = expiring p.state
  coolingUntil : p.coolingUntil.isSome = decide (p.state = .cooling)
  period : ∀ until' since : Timestamp, p.coolingUntil = some until' → p.stateSince = some since →
    until'.micros = since.micros + config.coolingPeriod

/-- Where a move changes the state, it sets the cooling timer where it belongs. -/
theorem Moves.coolingUntil {target : IncidentState} {coolingUntil : Option Timestamp}
    (h : Moves config p window target coolingUntil) (hp : Sound config p)
    (hne : target ≠ p.state) :
    coolingUntil.isSome = decide (target = .cooling) ∧
      ∀ until' : Timestamp, coolingUntil = some until' →
        until'.micros = window.observedAt.micros + config.coolingPeriod := by
  have hrest : p.state ≠ .cooling → p.coolingUntil = none := by
    intro hstate
    have hnone := hp.coolingUntil
    rw [decide_eq_false hstate] at hnone
    exact Option.isNone_iff_eq_none.mp (Option.isSome_eq_false_iff.mp hnone)
  cases h with
  | stay => exact absurd rfl hne
  | suspect hstate _ =>
    rw [hrest (by rw [hstate]; decide)]
    exact ⟨rfl, fun _ h => nomatch h⟩
  | confirm hstate _ =>
    rw [hrest (by rw [hstate]; decide)]
    exact ⟨rfl, fun _ h => nomatch h⟩
  | decay hstate _ _ =>
    rw [hrest (by rw [hstate]; decide)]
    exact ⟨rfl, fun _ h => nomatch h⟩
  | cool _ _ _ hcooling =>
    refine ⟨rfl, fun until' h => ?_⟩
    obtain rfl := Option.some.inj h
    exact hcooling
  | resume => exact ⟨rfl, fun _ h => nomatch h⟩
  | settle => exact ⟨rfl, fun _ h => nomatch h⟩

/-- **One evaluation keeps the timers.** -/
theorem Sound.evaluate (hp : Sound config p) (h : config.evaluate p window = .ok e) :
    Sound config e.projection := by
  obtain ⟨move, hmove, hstate, hkept | hchanged⟩ := evaluate_ok h
  · refine ⟨?_, ?_, ?_⟩
    · rw [hkept.state]
      rcases hkept.expiresAt with hsame | ⟨hexpiring, hsome⟩
      · rw [hsame, hp.expiresAt]
      · rw [hsome, hexpiring]
    · rw [hkept.coolingUntil, hkept.state, hp.coolingUntil]
    · rw [hkept.coolingUntil, hkept.stateSince]
      exact hp.period
  · have hmoves := moves_of_move hmove
    rw [← hstate] at hmoves
    obtain ⟨hwhere, hwhen⟩ := hmoves.coolingUntil hp hchanged.state
    refine ⟨hchanged.expiresAt, ?_, ?_⟩
    · rw [hchanged.coolingUntil, hwhere]
    · intro until' since huntil hsince
      rw [hchanged.coolingUntil] at huntil
      rw [hchanged.stateSince] at hsince
      obtain rfl := Option.some.inj hsince
      exact hwhen until' huntil

/-! ## Severity -/

/-- `CONFIRMED` to `COOLING`, or either of `SUSPECTED` and `COOLING` to `NORMAL`. -/
def Lowers (state state' : IncidentState) : Prop :=
  (state = .confirmed ∧ state' = .cooling) ∨
    ((state = .suspected ∨ state = .cooling) ∧ state' = .normal)

/-- The window shows statistical degradation without provider downtime, and meets a branch that
does not credit it: it is too weak to confirm and the suspicion is over, it finds the
confirmation over, or it is healthy by the threshold at the end of cooling. -/
def Slips (config : IncidentDetectorConfig) (p : IncidentProjection)
    (window : MethodHealthWindow) : Prop :=
  window.providerDowntimeActive = false ∧ config.suspected window = true ∧
    ((p.state = .suspected ∧ config.strong window = false ∧
        (config.healthy window || p.evidenceExpired window) = true) ∨
      (p.state = .confirmed ∧ (config.healthy window || p.evidenceExpired window) = true) ∨
      (p.state = .cooling ∧ config.strong window = false ∧
        (config.healthy window && p.cooled window) = true))

theorem corroborated_eq_false_iff :
    config.corroborated window = false ↔
      window.providerDowntimeActive = false ∧ config.strong window = false := by
  unfold corroborated
  rw [Bool.or_eq_false_iff]

/-- **A window that shows a degraded method lowers the severity exactly if it slips.** -/
theorem lowers_iff (h : config.evaluate p window = .ok e) :
    (config.shows window = true ∧ Lowers p.state e.projection.state) ↔ Slips config p window := by
  obtain ⟨move, hmove, hstate, -⟩ := evaluate_ok h
  rw [hstate]
  constructor
  · rintro ⟨hshows, hlowers⟩
    have hmoves := moves_of_move hmove
    generalize move.target = target at hmoves hlowers
    generalize move.coolingUntil = coolingUntil at hmoves
    -- without provider downtime it is the statistics that the window shows
    have hsuspected : window.providerDowntimeActive = false → config.suspected window = true := by
      intro hquiet
      rw [shows, hquiet, Bool.false_or] at hshows
      exact hshows
    cases hmoves with
    | stay =>
      rcases hlowers with ⟨hfrom, hto⟩ | ⟨hfrom | hfrom, hto⟩ <;>
        rw [hfrom] at hto <;> exact absurd hto (by decide)
    | suspect => exact absurd hlowers (by simp [Lowers])
    | confirm => exact absurd hlowers (by simp [Lowers])
    | decay hfrom hweak hover =>
      obtain ⟨hquiet, hweak⟩ := corroborated_eq_false_iff.mp hweak
      exact ⟨hquiet, hsuspected hquiet, Or.inl ⟨hfrom, hweak, hover⟩⟩
    | cool hfrom hquiet hover _ =>
      exact ⟨hquiet, hsuspected hquiet, Or.inr (Or.inl ⟨hfrom, hover⟩)⟩
    | resume => exact absurd hlowers (by simp [Lowers])
    | settle hfrom hweak hover =>
      obtain ⟨hquiet, hweak⟩ := corroborated_eq_false_iff.mp hweak
      exact ⟨hquiet, hsuspected hquiet, Or.inr (Or.inr ⟨hfrom, hweak, hover⟩)⟩
  · rintro ⟨hquiet, hsuspected, hbranch⟩
    refine ⟨by rw [shows, hsuspected, Bool.or_true], ?_⟩
    unfold IncidentDetectorConfig.move at hmove
    rcases hbranch with ⟨hfrom, hweak, hover⟩ | ⟨hfrom, hover⟩ | ⟨hfrom, hweak, hover⟩
    · rw [hfrom] at hmove ⊢
      dsimp only at hmove
      rw [corroborated_eq_false_iff.mpr ⟨hquiet, hweak⟩, if_neg (by decide), if_pos hover] at hmove
      obtain rfl := Except.ok.inj hmove
      exact Or.inr ⟨Or.inl rfl, rfl⟩
    · rw [hfrom] at hmove ⊢
      dsimp only at hmove
      rw [hquiet, Bool.not_false, Bool.true_and, if_pos hover] at hmove
      simp only [bind_ok_iff, pure_ok_iff] at hmove
      obtain ⟨_, -, rfl⟩ := hmove
      exact Or.inl ⟨rfl, rfl⟩
    · rw [hfrom] at hmove ⊢
      dsimp only at hmove
      rw [corroborated_eq_false_iff.mpr ⟨hquiet, hweak⟩, if_neg (by decide), if_pos hover] at hmove
      obtain rfl := Except.ok.inj hmove
      exact Or.inr ⟨Or.inr rfl, rfl⟩

end IncidentDetectorConfig

/-! ## Runs -/

open IncidentDetectorConfig

/-- Windows evaluated one after the other, from a projection at rest. -/
structure IncidentRun (config : IncidentDetectorConfig) (p : Nat → IncidentProjection)
    (w : Nat → MethodHealthWindow) (n : Nat) : Prop where
  normal : (p 0).state = .normal
  noExpiry : (p 0).expiresAt = none
  noCooling : (p 0).coolingUntil = none
  evaluated : ∀ i < n, ∃ e, config.evaluate (p i) (w i) = .ok e ∧ e.projection = p (i + 1)

/-- Between `i` and `j` the incident was confirmed, cooled for a full period and came to rest:
it cooled from the window `k` to the window `m`. -/
def CooledDown (config : IncidentDetectorConfig) (p : Nat → IncidentProjection)
    (w : Nat → MethodHealthWindow) (i j : Nat) : Prop :=
  ∃ k m, i ≤ k ∧ k < m ∧ m < j ∧ (p k).state = .confirmed ∧
    (∀ l, k < l → l ≤ m → (p l).state = .cooling) ∧ (p (m + 1)).state = .normal ∧
    (w k).observedAt.micros + config.coolingPeriod ≤ ((w m).observedAt.micros : Int)

section

variable {config : IncidentDetectorConfig} {p : Nat → IncidentProjection}
  {w : Nat → MethodHealthWindow} {n : Nat}

theorem CooledDown.succ {i j : Nat} (h : CooledDown config p w i j) :
    CooledDown config p w i (j + 1) := by
  obtain ⟨k, m, hik, hkm, hmj, hrest⟩ := h
  exact ⟨k, m, hik, hkm, by omega, hrest⟩

namespace IncidentRun

theorem sound (run : IncidentRun config p w n) : ∀ i ≤ n, Sound config (p i) := by
  intro i
  induction i with
  | zero =>
    intro _
    refine ⟨?_, ?_, fun until' since huntil _ => ?_⟩
    · rw [run.noExpiry, run.normal]; rfl
    · rw [run.noCooling, run.normal]; rfl
    · exact absurd (run.noCooling.symm.trans huntil) (by simp)
  | succ i ih =>
    intro hi
    obtain ⟨e, hevaluated, hnext⟩ := run.evaluated i hi
    rw [← hnext]
    exact (ih (by omega)).evaluate hevaluated

/-- One step of a run. -/
theorem step (run : IncidentRun config p w n) {i : Nat} (hi : i < n) :
    ∃ coolingUntil, Moves config (p i) (w i) (p (i + 1)).state coolingUntil ∧
      (Kept (p i) (p (i + 1)) ∨ Changed (p i) (w i) coolingUntil (p (i + 1))) := by
  obtain ⟨e, hevaluated, hnext⟩ := run.evaluated i hi
  obtain ⟨move, hmove, hstate, hwritten⟩ := evaluate_ok hevaluated
  rw [hnext] at hstate hwritten
  rw [hstate]
  exact ⟨_, moves_of_move hmove, hwritten⟩

theorem version_succ (run : IncidentRun config p w n) {i : Nat} (hi : i < n) :
    (p (i + 1)).version =
      (p i).version + if (p (i + 1)).state = (p i).state then 0 else 1 := by
  obtain ⟨_, -, hkept | hchanged⟩ := run.step hi
  · rw [hkept.version, if_pos hkept.state, Nat.add_zero]
  · rw [hchanged.version, if_neg hchanged.state]

/-- `CONFIRMED` is entered from `SUSPECTED` or `COOLING`. -/
theorem confirmed_from (run : IncidentRun config p w n) {i : Nat} (hi : i < n)
    (h : (p (i + 1)).state = .confirmed) (hne : (p i).state ≠ .confirmed) :
    (p i).state = .suspected ∨ (p i).state = .cooling := by
  obtain ⟨_, hmoves, -⟩ := run.step hi
  rw [h] at hmoves
  generalize hgoal : IncidentState.confirmed = target at hmoves
  cases hmoves with
  | stay => exact absurd hgoal.symm hne
  | suspect => exact absurd hgoal (by decide)
  | confirm hstate _ => exact Or.inl hstate
  | decay => exact absurd hgoal (by decide)
  | cool => exact absurd hgoal (by decide)
  | resume hstate _ => exact Or.inr hstate
  | settle => exact absurd hgoal (by decide)

/-- The incident cools since the window `k`, at which it was confirmed. -/
def CoolsSince (p : Nat → IncidentProjection) (w : Nat → MethodHealthWindow) (i j : Nat) : Prop :=
  ∃ k, i ≤ k ∧ k < j ∧ (p k).state = .confirmed ∧
    (∀ l, k < l → l ≤ j → (p l).state = .cooling) ∧
    (p j).stateSince = some (w k).observedAt

/-- **After a confirmation** the incident is still confirmed, or it cools, or it has cooled
down. The induction is on the later place, and its step on the move made there. -/
theorem after_confirmed (run : IncidentRun config p w n) {i : Nat}
    (hi : (p i).state = .confirmed) :
    ∀ j, i ≤ j → j ≤ n →
      (p j).state = .confirmed ∨ CoolsSince p w i j ∨ CooledDown config p w i j := by
  intro j hij
  induction j, hij using Nat.le_induction with
  | base => intro _; exact Or.inl hi
  | succ j hij ih =>
    intro hj
    have hsound := run.sound j (by omega)
    obtain ⟨coolingUntil, hmoves, hwritten⟩ := run.step (i := j) (by omega)
    rcases ih (by omega) with hconfirmed | hcools | hdown
    · rcases hwritten with hkept | hchanged
      · exact Or.inl (hkept.state.trans hconfirmed)
      · -- the only way out of `CONFIRMED` is into cooling
        have hcooling : (p (j + 1)).state = .cooling := by
          have hne := hchanged.state
          generalize (p (j + 1)).state = target at hmoves hne
          cases hmoves with
          | stay => exact absurd rfl hne
          | suspect hstate _ => exact absurd (hstate.symm.trans hconfirmed) (by decide)
          | confirm hstate _ => exact absurd (hstate.symm.trans hconfirmed) (by decide)
          | decay hstate _ _ => exact absurd (hstate.symm.trans hconfirmed) (by decide)
          | cool => rfl
          | resume hstate _ => exact absurd (hstate.symm.trans hconfirmed) (by decide)
          | settle hstate _ _ => exact absurd (hstate.symm.trans hconfirmed) (by decide)
        refine Or.inr (Or.inl ⟨j, hij, by omega, hconfirmed, fun l hl hl' => ?_,
          hchanged.stateSince⟩)
        obtain rfl : l = j + 1 := by omega
        exact hcooling
    · obtain ⟨k, hik, hkj, hk, hall, hsince⟩ := hcools
      have hstate : (p j).state = .cooling := hall j hkj (le_refl j)
      rcases hwritten with hkept | hchanged
      · refine Or.inr (Or.inl ⟨k, hik, by omega, hk, fun l hl hl' => ?_, ?_⟩)
        · rcases Nat.lt_or_eq_of_le hl' with hlt | rfl
          · exact hall l hl (by omega)
          · exact hkept.state.trans hstate
        · exact hkept.stateSince.trans hsince
      · have hne := hchanged.state
        generalize htarget : (p (j + 1)).state = target at hmoves hne
        cases hmoves with
        | stay => exact absurd rfl hne
        | suspect h _ => exact absurd (h.symm.trans hstate) (by decide)
        | confirm h _ => exact absurd (h.symm.trans hstate) (by decide)
        | decay h _ _ => exact absurd (h.symm.trans hstate) (by decide)
        | cool h _ _ _ => exact absurd (h.symm.trans hstate) (by decide)
        | resume => exact Or.inl rfl
        | settle _ _ hover =>
          -- the period is over by the timer that was set when cooling began
          refine Or.inr (Or.inr ⟨k, j, hik, hkj, by omega, hk, hall, htarget, ?_⟩)
          obtain ⟨until', huntil, hpassed⟩ :=
            IncidentProjection.cooled_iff.mp (Bool.and_eq_true_iff.mp hover).2
          rw [← hsound.period until' _ huntil hsince]
          exact Timestamp.le_iff.mp hpassed
    · exact Or.inr (Or.inr hdown.succ)

theorem cooledDown (run : IncidentRun config p w n) {i j : Nat} (hij : i ≤ j) (hj : j ≤ n)
    (hconfirmed : (p i).state = .confirmed) (hnormal : (p j).state = .normal) :
    CooledDown config p w i j := by
  rcases run.after_confirmed hconfirmed j hij hj with h | ⟨k, -, hkj, -, hall, -⟩ | h
  · exact absurd (h.symm.trans hnormal) (by decide)
  · exact absurd ((hall j hkj (le_refl j)).symm.trans hnormal) (by decide)
  · exact h

/-- **What a run keeps.** The timers are set where they belong and the version counts the
changes; `CONFIRMED` is entered from `SUSPECTED` or `COOLING` and left for `NORMAL` over a full
cooling period; and a window that shows a degraded method never lowers the severity. The last
holds exactly if no window of the run slips, and the others always do. -/
theorem hysteresis_iff (run : IncidentRun config p w n) :
    ((∀ i ≤ n, ((p i).expiresAt.isSome = true ↔
          (p i).state = .suspected ∨ (p i).state = .confirmed) ∧
        ((p i).coolingUntil.isSome = true ↔ (p i).state = .cooling)) ∧
      (∀ i < n, (p (i + 1)).version =
        (p i).version + if (p (i + 1)).state = (p i).state then 0 else 1) ∧
      (∀ i < n, (p (i + 1)).state = .confirmed → (p i).state ≠ .confirmed →
        (p i).state = .suspected ∨ (p i).state = .cooling) ∧
      (∀ i j, i ≤ j → j ≤ n → (p i).state = .confirmed → (p j).state = .normal →
        CooledDown config p w i j) ∧
      ∀ i < n, config.shows (w i) = true → ¬Lowers (p i).state (p (i + 1)).state) ↔
    ∀ i < n, ¬Slips config (p i) (w i) := by
  have hlast : ∀ i < n, (config.shows (w i) = true ∧ Lowers (p i).state (p (i + 1)).state) ↔
      Slips config (p i) (w i) := by
    intro i hi
    obtain ⟨e, hevaluated, hnext⟩ := run.evaluated i hi
    rw [← hnext]
    exact lowers_iff hevaluated
  constructor
  · rintro ⟨-, -, -, -, hkeeps⟩ i hi hslips
    obtain ⟨hshows, hlowers⟩ := (hlast i hi).mpr hslips
    exact hkeeps i hi hshows hlowers
  · intro hnone
    refine ⟨fun i hi => ?_, fun i hi => run.version_succ hi, fun i hi => run.confirmed_from hi,
      fun i j hij hj => run.cooledDown hij hj,
      fun i hi hshows hlowers => hnone i hi ((hlast i hi).mp ⟨hshows, hlowers⟩)⟩
    have hsound := run.sound i hi
    rw [hsound.expiresAt, hsound.coolingUntil]
    unfold expiring
    rw [Bool.or_eq_true, decide_eq_true_eq, decide_eq_true_eq, decide_eq_true_eq]
    exact ⟨Iff.rfl, Iff.rfl⟩

end IncidentRun

end

/-! ## A suspicion that is not renewed -/

namespace FadedSuspicion

def config : IncidentDetectorConfig where
  version := "incident-detector-v1"
  version_ok := by decide
  minimumVolume_pos := by decide
  suspect_le_confirm := defaultDrops_le.2
  healthy_le_suspect := defaultDrops_le.1
  ttl_pos := by decide
  coolingPeriod_pos := by decide

def scope : IncidentScope where
  scopeId := "scope-upi-hdfc"
  merchantId := "merchant-1"
  paymentMethod := "upi"
  scopeId_ok := by decide
  merchantId_ok := by decide
  paymentMethod_ok := by decide

def start : Timestamp := ⟨62135596800000000, by decide, by decide⟩

/-- Ten minutes later. -/
def later : Timestamp := ⟨62135597400000000, by decide, by decide⟩

def always : Probability := ⟨⟨false, 1, 0⟩, Decimal.nonneg_one, Decimal.one_le_one⟩

/-- The provider reports downtime. -/
def downtime : MethodHealthWindow where
  toIncidentScope := scope
  windowStartedAt := start
  observedAt := start
  successes := 0
  failures := 0
  baselineSuccessRate := always
  providerDowntimeActive := true
  started_le := by decide

/-- Twenty attempts, and none of them a success. -/
def degraded : MethodHealthWindow where
  toIncidentScope := scope
  windowStartedAt := start
  observedAt := later
  successes := 0
  failures := 20
  baselineSuccessRate := always
  started_le := by decide

def rest : IncidentProjection where
  toIncidentScope := scope

def suspicion : IncidentProjection where
  toIncidentScope := scope
  state := .suspected
  version := 1
  stateSince := some start
  lastEvidenceAt := some start
  expiresAt := some later

def faded : IncidentProjection where
  toIncidentScope := scope
  version := 2
  stateSince := some later
  lastEvidenceAt := some later

def projections : Nat → IncidentProjection
  | 0 => rest
  | 1 => suspicion
  | _ => faded

def windows : Nat → MethodHealthWindow
  | 0 => downtime
  | _ => degraded

theorem evaluate_downtime :
    ∃ e, config.evaluate rest downtime = .ok e ∧ e.projection = suspicion := by
  have hforward : ∀ last, rest.lastEvidenceAt = some last → last ≤ downtime.observedAt :=
    fun _ h => nomatch h
  exact exists_evaluate rfl hforward rfl (by decide) (by decide) rfl

theorem degradation_degraded : degraded.degradation.val = 1 := by
  have hshare : degraded.successShare = 0 := by
    show ((0 : Nat) : Rat) / _ = 0
    rw [Nat.cast_zero, zero_div]
  have hrate : degraded.observedSuccessRate.val = 0 := by
    unfold MethodHealthWindow.observedSuccessRate
    rw [if_neg (by decide)]
    show defaultContext.nearest degraded.successShare = 0
    rw [hshare, DecimalContext.nearest_zero]
  have hdrop : degraded.exactDrop = 1 := by
    unfold MethodHealthWindow.exactDrop
    rw [hrate, sub_zero]
    show Decimal.value ⟨false, 1, 0⟩ = 1
    simp [Decimal.value]
  show max (defaultContext.nearest degraded.exactDrop) 0 = 1
  rw [hdrop, DecimalContext.nearest_one (by decide) (by decide), max_eq_left zero_le_one]

theorem suspected_degraded : config.suspected degraded = true := by
  have hle := config.suspectDrop.le_one
  unfold suspected
  rw [degradation_degraded, decide_eq_true hle]
  decide

theorem move_degraded : config.move suspicion degraded = .ok {
    target := .normal, reason := "SUSPECTED_EVIDENCE_EXPIRED", coolingUntil := none } := by
  have hweak : config.corroborated degraded = false := rfl
  have hexpired : suspicion.evidenceExpired degraded = true := by decide
  unfold IncidentDetectorConfig.move
  rw [hweak, hexpired, Bool.or_true]
  rfl

theorem evaluate_degraded :
    ∃ e, config.evaluate suspicion degraded = .ok e ∧ e.projection = faded :=
  exists_evaluate rfl (fun last h => by obtain rfl := Option.some.inj h; decide) move_degraded
    (by decide) (by decide) rfl

theorem run (n : Nat) (hn : n ≤ 2) : IncidentRun config projections windows n where
  normal := rfl
  noExpiry := rfl
  noCooling := rfl
  evaluated i hi := by
    rcases i with _ | _ | i
    · exact evaluate_downtime
    · exact evaluate_degraded
    · omega

/-- The first window alone keeps everything. -/
theorem hysteresis_downtime :
    config.shows (windows 0) = true ∧ ¬Lowers (projections 0).state (projections 1).state := by
  have hshows : config.shows (windows 0) = true := by decide
  refine ⟨hshows, ((IncidentRun.hysteresis_iff (run 1 (by decide))).mpr
    fun i hi hslips => ?_).2.2.2.2 0 (by decide) hshows⟩
  obtain rfl : i = 0 := by omega
  exact absurd hslips.1 (by decide)

/-- Ten minutes on, a method without a single success is taken for a healthy one. -/
theorem degraded_lowers :
    ¬∀ (config : IncidentDetectorConfig) (p : Nat → IncidentProjection)
      (w : Nat → MethodHealthWindow) (n : Nat), IncidentRun config p w n →
      ∀ i < n, config.shows (w i) = true → ¬Lowers (p i).state (p (i + 1)).state := by
  intro h
  refine h config projections windows 2 (run 2 (by decide)) 1 (by decide) ?_ ?_
  · unfold shows
    rw [show windows 1 = degraded from rfl, suspected_degraded, Bool.or_true]
  · exact Or.inr ⟨Or.inl rfl, rfl⟩

end FadedSuspicion

end Retrywise.ControlPlane
