import Retrywise.Domain.Progress

/-!
# One action key, one instrument

An action key names one collection attempt, so it should never stand for two
payment links. `oneInstrument`: along every run that avoids three kinds of step,
once a reference was recorded under a key, that reference is what is on record
whenever the key is active, and recording it again changes nothing.

The three kinds are `KeepsInstruments`. Two are ways past the commands' checks:
`record_action_active` in `ACTIVE` with another reference (the validator lets
the self-transition through), and a requeue from `ASSESSING` of a key that is
still on record there. The third, a later proposal with a key that was used
before, is not a way the code offers: `reusesKey_collision` shows that it takes
two different key documents with one SHA-256 digest.
-/

namespace Retrywise.Domain

open Retrywise.Foundation

/-! ## What the steps do -/

/-- The step records (or repeats) an instrument reference under a key. -/
def Records (key ref : String) (s : CaseStep) : Prop :=
  s.cmd.command = .recordActionActive key ref

/-- The step takes up a new proposal. -/
def TakesUp (p : ActionProposal) (s : CaseStep) : Prop :=
  s.pre.state = .assessing ∧
    ∃ d, s.cmd.command = .requestApproval p d ∨ s.cmd.command = .authorizeAction p d

/-- `record_action_active` in `ACTIVE`, with a reference that is not the one on
record. -/
def RebindsActive (s : CaseStep) : Prop :=
  s.pre.state = .active ∧
    ∃ key ref, Records key ref s ∧ s.pre.activeInstrumentReference ≠ some ref

/-- A requeue applied to a case in assessment. -/
def RequeuesAssessing (s : CaseStep) : Prop :=
  s.pre.state = .assessing ∧ ∃ key, s.cmd.command = .requeueAfterAbsenceProven key

/-- A new proposal has a key an instrument was recorded under before. -/
def ReusesKey [Hashlib] (past : List CaseStep) (s : CaseStep) : Prop :=
  ∃ p, TakesUp p s ∧ ∃ earlier ∈ past, ∃ ref, Records p.actionKey ref earlier

/-- None of the three. -/
structure KeepsInstruments [Hashlib] (past : List CaseStep) (s : CaseStep) : Prop where
  rebinds : ¬RebindsActive s
  requeues : ¬RequeuesAssessing s
  reuses : ¬ReusesKey past s

/-- What holds of a step. -/
structure OneInstrumentLaw (past : List CaseStep) (s : CaseStep) : Prop where
  /-- Under an active key, the reference recorded for it is on record. -/
  kept : ∀ earlier ∈ past ++ [s], ∀ key ref, Records key ref earlier →
    s.post.activeActionKey = some key → s.post.activeInstrumentReference = some ref
  /-- No other reference is recorded under the same key. -/
  single : ∀ earlier ∈ past, ∀ key ref ref', Records key ref earlier → Records key ref' s →
    ref' = ref
  /-- In `ACTIVE`, only the reference on record is accepted, and changes nothing. -/
  repeated : ∀ key ref, Records key ref s → s.pre.state = .active →
    s.pre.activeInstrumentReference = some ref ∧ s.post = s.pre ∧ s.out = []

/-! ## The branches -/

/-- The states a case is in while a recorded reference is on record. -/
def Settled (state : RecoveryState) : Prop :=
  state ∈ RecoveryState.active :: .assessing :: .waiting :: collectionTerminalStates

instance (state : RecoveryState) : Decidable (Settled state) :=
  inferInstanceAs (Decidable (_ ∈ _))

theorem Settled.active {state : RecoveryState} (h : Settled state)
    (hadmits : Admits state .active) : state = .active := by
  revert h hadmits
  cases state <;> decide

section

variable [Hashlib] {a b : AggregateFields} {t : Timestamp} {command : Command}
  {moved : Option RecoveryState} {key ref : String}

/-- Recording a new reference leaves it on record, under the active key. -/
theorem Effect.recorded (h : Effect a t (.recordActionActive key ref) b moved) :
    a.activeActionKey = some key ∧ Admits a.state .active ∧
      ¬(a.state = .active ∧ a.activeInstrumentReference = some ref) ∧
      b.activeInstrumentReference = some ref ∧ b.state = .active := by
  cases h with
  | recordActionActive hkey hadmits hnew => exact ⟨hkey, hadmits, hnew, rfl, rfl⟩

/-- A settled reference stays settled, as long as its key is active and the step
is of none of the three kinds. -/
theorem Effect.settled (h : Effect a t command b moved) (hsettled : Settled a.state)
    (href : a.activeInstrumentReference = some ref) (hkey : b.activeActionKey ≠ none)
    (hrebinds : ∀ k r, command = .recordActionActive k r → a.state = .active → r = ref)
    (hrequeues : ∀ k, command = .requeueAfterAbsenceProven k → a.state ≠ .assessing)
    (htakes : ∀ p d, command = .requestApproval p d ∨ command = .authorizeAction p d →
      a.state ≠ .assessing) :
    b.activeInstrumentReference = some ref ∧ Settled b.state := by
  -- a branch accepted in another state is not taken, one into a settled state keeps the reference
  have hout : ∀ {target : RecoveryState}, target ∉ RecoveryState.active :: .assessing ::
      .waiting :: collectionTerminalStates → a.state ≠ target := by
    intro target hnot hs
    exact hnot (hs ▸ hsettled)
  have hto : ∀ target : RecoveryState, Settled target →
      a.activeInstrumentReference = some ref ∧ Settled target := fun _ htarget => ⟨href, htarget⟩
  cases h with
  | observeFailure hsource =>
    rcases hsource with hs | hs
    · exact absurd hs (hout (by decide))
    · exact absurd hs (hout (by decide))
  | reconcilePaymentTruth => exact ⟨href, hsettled⟩
  | updateIncidentState => exact ⟨href, hsettled⟩
  | markReadyForEvaluation => exact hto .assessing (by decide)
  | wait => exact hto .waiting (by decide)
  | wake => exact hto .assessing (by decide)
  | requestApproval hs => exact absurd hs (htakes _ _ (.inl rfl))
  | authorizeAction hsource =>
    rcases hsource with ⟨hs, -⟩ | ⟨hs, -⟩
    · exact absurd hs (htakes _ _ (.inr rfl))
    · exact absurd hs (hout (by decide))
  | @recordInternalDecision p =>
    refine ⟨href, ?_⟩
    show Settled (RecoveryAggregate.internalTarget p.actionType)
    cases p.actionType <;> decide
  | beginExecution hs => exact absurd hs (hout (by decide))
  | recordActionActive _ hadmits =>
    rw [hrebinds _ _ rfl (hsettled.active hadmits)]
    exact ⟨rfl, (by decide : Settled .active)⟩
  | recordActionUncertain _ hadmits =>
    have hnot : ¬Admits a.state .actionUncertain := by
      revert hsettled
      cases a.state <;> decide
    exact absurd hadmits hnot
  | requeueAfterAbsenceProven _ hadmits =>
    have hs : a.state = .assessing := by
      revert hsettled hadmits
      cases a.state <;> decide
    exact absurd hs (hrequeues _ rfl)
  | escalateUncertainAction => exact hto .escalated (by decide)
  | recordActionFailedSafe => exact hto .failedSafe (by decide)
  | recordActiveExpired => exact absurd rfl hkey
  | originalPaidOpen => exact absurd rfl hkey
  | originalPaidClosed => exact ⟨href, hsettled⟩
  | originalPaidTwice => exact absurd rfl hkey
  | recoveryPaid => exact hto .recovered (by decide)
  | recoveryPaidTwice => exact absurd rfl hkey
  | duplicateCollection => exact absurd rfl hkey

end

/-! ## Along a run -/

/-- Whatever was recorded under the active key is on record. -/
def OnRecord (past : List CaseStep) (a : RecoveryAggregate) : Prop :=
  ∀ earlier ∈ past, ∀ key ref, Records key ref earlier → a.activeActionKey = some key →
    a.activeInstrumentReference = some ref ∧ Settled a.state

section

variable [Hashlib] {past : List CaseStep} {s : CaseStep} {key ref : String}

/-- What an accepted recording found, and what it left. -/
theorem records_cases (h : recovery.Takes s) (hrec : Records key ref s) :
    s.pre.activeActionKey = some key ∧
      ((s.pre.state = .active ∧ s.pre.activeInstrumentReference = some ref ∧ s.post = s.pre ∧
          s.out = []) ∨
        (Admits s.pre.state .active ∧
          ¬(s.pre.state = .active ∧ s.pre.activeInstrumentReference = some ref) ∧
          s.post.activeInstrumentReference = some ref ∧ s.post.state = .active)) := by
  unfold Records at hrec
  cases (takes_cases h).2 with
  | idle hidle hpost hout =>
    rw [hrec] at hidle
    cases hidle with
    | recordActionActive hkey hactive href => exact ⟨hkey, .inl ⟨hactive, href, hpost, hout⟩⟩
  | effective _ heff =>
    rw [hrec] at heff
    obtain ⟨hkey, hadmits, hnew, href, hstate⟩ := heff.recorded
    exact ⟨hkey, .inr ⟨hadmits, hnew, href, hstate⟩⟩

/-- The reference is on record right after a recording. -/
theorem onRecord_of_records (h : recovery.Takes s) (hrec : Records key ref s) :
    s.post.activeInstrumentReference = some ref ∧ Settled s.post.state := by
  obtain ⟨-, ⟨hactive, href, hpost, -⟩ | ⟨-, -, href, hstate⟩⟩ := records_cases h hrec
  · rw [hpost, hactive]
    exact ⟨href, by decide⟩
  · rw [hstate]
    exact ⟨href, by decide⟩

theorem onRecord_step (h : recovery.Takes s) (hpast : OnRecord past s.pre)
    (hguard : KeepsInstruments past s) : OnRecord (past ++ [s]) s.post := by
  intro earlier hmem key ref hrec hkey
  rcases List.mem_append.mp hmem with hearlier | hlast
  · cases (takes_cases h).2 with
    | idle _ hpost =>
      rw [hpost] at hkey ⊢
      exact hpast earlier hearlier key ref hrec hkey
    | effective _ heff =>
      -- the key was active before: a proposal with this key would reuse it
      have hreuse : ∀ p, p.actionKey = key → ¬TakesUp p s := fun p hp htakes =>
        hguard.reuses ⟨p, htakes, earlier, hearlier, ref, hp ▸ hrec⟩
      have hpre : s.pre.activeActionKey = some key := by
        rcases heff.activeActionKey_cases hkey with
          ⟨p, d, hcmd, hs, -, hp, -⟩ | ⟨p, d, hcmd, -, hp, -, hs | hs⟩ | hkept
        · exact absurd ⟨hs, d, .inl hcmd⟩ (hreuse p hp)
        · exact absurd ⟨hs, d, .inr hcmd⟩ (hreuse p hp)
        · exact hs
        · exact hkept
      obtain ⟨href, hsettled⟩ := hpast earlier hearlier key ref hrec hpre
      refine heff.settled hsettled href (by simp [hkey]) ?_ ?_ ?_
      · intro k r hcmd hactive
        by_contra hne
        refine hguard.rebinds ⟨hactive, k, r, hcmd, ?_⟩
        rw [href]
        exact fun he => hne (Option.some.inj he).symm
      · intro k hcmd hassessing
        exact hguard.requeues ⟨hassessing, k, hcmd⟩
      · intro p d hcmd hassessing
        have hp : p.actionKey = key := by
          generalize s.post.toAggregateFields = b at heff hkey
          rcases hcmd with hcmd | hcmd <;>
            (rw [hcmd] at heff; cases heff; exact Option.some.inj hkey)
        exact hreuse p hp ⟨hassessing, d, hcmd⟩
  · rw [List.mem_singleton.mp hlast] at hrec
    exact onRecord_of_records h hrec

theorem oneInstrumentLaw_step (h : recovery.Takes s) (hpast : OnRecord past s.pre)
    (hguard : KeepsInstruments past s) : OneInstrumentLaw past s := by
  refine ⟨?_, ?_, ?_⟩
  · intro earlier hmem key ref hrec hkey
    exact (onRecord_step h hpast hguard earlier hmem key ref hrec hkey).1
  · intro earlier hmem key ref ref' hrec hrec'
    obtain ⟨hkey, hcases⟩ := records_cases h hrec'
    obtain ⟨href, hsettled⟩ := hpast earlier hmem key ref hrec hkey
    have hactive : s.pre.state = .active := by
      rcases hcases with ⟨hactive, -⟩ | ⟨hadmits, -⟩
      · exact hactive
      · exact hsettled.active hadmits
    by_contra hne
    refine hguard.rebinds ⟨hactive, key, ref', hrec', ?_⟩
    rw [href]
    exact fun he => hne (Option.some.inj he).symm
  · intro key ref hrec hactive
    have href : s.pre.activeInstrumentReference = some ref := by
      by_contra hne
      exact hguard.rebinds ⟨hactive, key, ref, hrec, hne⟩
    obtain ⟨-, ⟨-, -, hpost, hout⟩ | ⟨-, hnew, -⟩⟩ := records_cases h hrec
    · exact ⟨href, hpost, hout⟩
    · exact absurd ⟨hactive, href⟩ hnew

/-- **One action key yields at most one instrument**, along every run that keeps
clear of the three kinds of step. -/
theorem oneInstrument {a b : RecoveryAggregate} {steps : List CaseStep}
    (hrun : recovery.Run a steps b) (hguard : Along KeepsInstruments steps) :
    Along OneInstrumentLaw steps :=
  hrun.along (H := OnRecord) (fun _ hmem => absurd hmem (by simp))
    (fun _ _ _ hpast h hg => onRecord_step h hpast hg)
    (fun _ _ _ hpast h hg => oneInstrumentLaw_step h hpast hg) hguard

/-! ## Reusing a key takes a collision -/

/-- Every key in use belongs to a proposal taken up in the run, of a decision
version that is not ahead of the case's. -/
def KeysDecided (past : List CaseStep) (a : RecoveryAggregate) : Prop :=
  ∀ key, (a.activeActionKey = some key ∨ ∃ earlier ∈ past, ∃ ref, Records key ref earlier) →
    ∃ q, (∃ earlier ∈ past, TakesUp q earlier) ∧ q.actionKey = key ∧
      q.decisionVersion ≤ a.decisionVersion

theorem keysDecided_step (h : recovery.Takes s) (hpast : KeysDecided past s.pre) :
    KeysDecided (past ++ [s]) s.post := by
  have hdv : s.pre.decisionVersion ≤ s.post.decisionVersion := by
    cases (takes_cases h).2 with
    | idle _ hpost => rw [hpost]
    | effective _ heff => rcases heff.decisionVersion_cases with hdv | hdv <;> omega
  have hkeep : ∀ key, (∃ q, (∃ earlier ∈ past, TakesUp q earlier) ∧ q.actionKey = key ∧
      q.decisionVersion ≤ s.pre.decisionVersion) →
      ∃ q, (∃ earlier ∈ past ++ [s], TakesUp q earlier) ∧ q.actionKey = key ∧
        q.decisionVersion ≤ s.post.decisionVersion := by
    rintro key ⟨q, ⟨earlier, hmem, htakes⟩, hq, hle⟩
    exact ⟨q, ⟨earlier, List.mem_append_left _ hmem, htakes⟩, hq, hle.trans hdv⟩
  rintro key (hkey | ⟨earlier, hmem, ref, hrec⟩)
  · cases (takes_cases h).2 with
    | idle _ hpost =>
      rw [hpost] at hkey
      exact hkeep key (hpast key (.inl hkey))
    | effective _ heff =>
      rcases heff.activeActionKey_cases hkey with
        ⟨p, d, hcmd, hs, -, hp, hversion⟩ | ⟨p, d, hcmd, -, hp, hversion, hs | hs⟩ | hkept
      · exact ⟨p, ⟨s, by simp, hs, d, .inl hcmd⟩, hp, hversion.ge⟩
      · exact ⟨p, ⟨s, by simp, hs, d, .inr hcmd⟩, hp, hversion.ge⟩
      · exact hkeep key (hpast key (.inl hs))
      · exact hkeep key (hpast key (.inl hkept))
  · rcases List.mem_append.mp hmem with hearlier | hlast
    · exact hkeep key (hpast key (.inr ⟨earlier, hearlier, ref, hrec⟩))
    · rw [List.mem_singleton.mp hlast] at hrec
      exact hkeep key (hpast key (.inl (records_cases h hrec).1))

/-- Keys are decided along every run. -/
theorem keysDecided_of_run {a b : RecoveryAggregate} {steps : List CaseStep} (hfresh : Fresh a)
    (hrun : recovery.Run a steps b) : KeysDecided steps b := by
  have h0 : KeysDecided [] a := by
    obtain ⟨_, _, _, _, _, hfields⟩ := hfresh.fields
    rintro key (hkey | ⟨_, hmem, -⟩)
    · rw [hfields] at hkey
      exact nomatch hkey
    · exact absurd hmem (by simp)
  exact hrun.history (H := KeysDecided) (G := fun _ _ => True) h0
    (fun _ _ _ hpast ht _ => keysDecided_step ht hpast) fun _ _ _ _ => trivial

/-- A proposal is only taken up as the next decision, and to collect. -/
theorem of_takesUp {p : ActionProposal} (h : recovery.Takes s) (htakes : TakesUp p s) :
    p.decisionVersion = s.pre.decisionVersion + 1 ∧ p.actionType ∈ collectionActions := by
  obtain ⟨hs, d, hcmd⟩ := htakes
  rcases hcmd with hcmd | hcmd
  · obtain ⟨t, b, moved, -, -, heff, -⟩ := exists_effect h hcmd nofun
    cases heff with
    | requestApproval _ _ hdv _ _ _ hcollection => exact ⟨hdv, hcollection⟩
  · obtain ⟨t, b, moved, -, -, heff, -⟩ := exists_effect h hcmd nofun
    cases heff with
    | authorizeAction hsource _ _ hcollection =>
      rcases hsource with ⟨-, hdv⟩ | ⟨happroval, -⟩
      · exact ⟨hdv, hcollection⟩
      · exact absurd (hs.symm.trans happroval) (by decide)

/-- **A reused key is a digest collision**: the proposal and an earlier one of
the run hash different key documents to the same digest. -/
theorem reusesKey_collision {a : RecoveryAggregate} (hfresh : Fresh a)
    (hrun : recovery.Run a past s.pre) (h : recovery.Takes s) (hreuse : ReusesKey past s) :
    ∃ p q : ActionProposal, TakesUp p s ∧ (∃ earlier ∈ past, TakesUp q earlier) ∧
      canonicalJsonBytes p.keyMaterial ≠ canonicalJsonBytes q.keyMaterial ∧
      sha256Json p.keyMaterial = sha256Json q.keyMaterial := by
  obtain ⟨p, htakes, earlier, hmem, ref, hrec⟩ := hreuse
  obtain ⟨q, hq, hkey, hle⟩ :=
    keysDecided_of_run hfresh hrun p.actionKey (.inr ⟨earlier, hmem, ref, hrec⟩)
  refine ⟨p, q, htakes, hq, ?_, ?_⟩
  · -- equal documents have equal decision versions, and a proposal taken up is the next one
    intro hbytes
    have hdv := decisionVersion_eq_of_keyMaterial (canonicalJsonBytes_inj hbytes)
    have hnext := (of_takesUp h htakes).1
    omega
  · exact (String.append_right_inj _).mp hkey.symm

/-- Two proposals taken up hash different key documents to one digest. -/
def DigestsCollide (steps : List CaseStep) : Prop :=
  ∃ p q : ActionProposal, (∃ s ∈ steps, TakesUp p s) ∧ (∃ s ∈ steps, TakesUp q s) ∧
    canonicalJsonBytes p.keyMaterial ≠ canonicalJsonBytes q.keyMaterial ∧
    sha256Json p.keyMaterial = sha256Json q.keyMaterial

/-- **Keys are fresh**: along every run of a new case no proposal is taken up under a key that an
instrument was recorded under before, unless digests collide. -/
theorem keys_fresh {a b : RecoveryAggregate} {steps : List CaseStep} (hfresh : Fresh a)
    (hrun : recovery.Run a steps b) :
    Along (fun past s => ¬ReusesKey past s) steps ∨ DigestsCollide steps := by
  refine or_iff_not_imp_right.mpr fun hdiffer past s rest hsplit hreuse => hdiffer ?_
  obtain ⟨hpast, htakes, -⟩ := hrun.cut past s rest hsplit
  obtain ⟨p, q, hp, ⟨earlier, hmem, hq⟩, hcollide⟩ :=
    reusesKey_collision hfresh hpast htakes hreuse
  rw [hsplit]
  exact ⟨p, q, ⟨s, by simp, hp⟩, ⟨earlier, by simp [hmem], hq⟩, hcollide⟩

/-! ## Runs of both kinds -/

/-- The step has nothing to do with an instrument that was recorded. -/
def Quiet (s : CaseStep) : Prop :=
  (∀ key ref, s.cmd.command ≠ .recordActionActive key ref) ∧
    ∀ key, s.cmd.command ≠ .requeueAfterAbsenceProven key

theorem not_reusesKey_of_quiet (hpast : ∀ e ∈ past, Quiet e) : ¬ReusesKey past s := by
  intro ⟨p, _, earlier, hmem, ref, hrec⟩
  exact (hpast earlier hmem).1 _ _ hrec

theorem along_of_quiet {steps : List CaseStep} (hquiet : ∀ e ∈ steps, Quiet e) :
    Along KeepsInstruments steps := by
  intro past s rest hsplit
  have hs : Quiet s := hquiet s (by rw [hsplit]; simp)
  have hpast : ∀ e ∈ past, Quiet e := fun e he => hquiet e (by rw [hsplit]; simp [he])
  refine ⟨?_, ?_, not_reusesKey_of_quiet hpast⟩
  · intro ⟨_, key, ref, hrec, _⟩
    exact hs.1 key ref hrec
  · intro ⟨_, key, hrequeue⟩
    exact hs.2 key hrequeue

/-- In an active case the reference on record can be replaced. -/
theorem exists_run_rebound {init : RecoveryAggregate} {sc : Scenario} {link : String}
    (hfresh : Fresh init) (hsc : sc.Suits init.toAggregateFields)
    (hlink : isIdentifier link = true) (hne : link ≠ sc.link) :
    ∃ (past : List CaseStep) (s : CaseStep), recovery.Run init (past ++ [s]) s.post ∧
      (past ++ [s]).map Step.cmd =
        sc.toActive ++ [sc.request 6 (.recordActionActive sc.proposal.actionKey link)] ∧
      s.pre.state = .active ∧ s.pre.activeInstrumentReference = some sc.link ∧
      s.cmd.command = .recordActionActive sc.proposal.actionKey link ∧
      s.post.activeActionKey = some sc.proposal.actionKey ∧
      s.post.activeInstrumentReference = some link := by
  obtain ⟨steps, a, hrun, hcmds, ha⟩ := exists_run_active hfresh hsc
  have hadmits : Admits a.state .active := by rw [ha.state_eq]; decide
  have hnew : ¬(a.state = .active ∧ a.activeInstrumentReference = some link) := by
    rw [ha.ref_eq]
    exact fun he => hne (Option.some.inj he.2).symm
  obtain ⟨s, hpre, hcmd, hpost, -, hnext, hcmds'⟩ := ha.exists_next hrun hcmds
    (.recordActionActive ha.key_eq hadmits hnew) (Command.wellFormed_singleton rfl hlink)
  refine ⟨steps, s, hnext, hcmds', by rw [hpre, ha.state_eq], by rw [hpre, ha.ref_eq], hcmd, ?_,
    by rw [hpost]⟩
  rw [hpost]
  exact ha.key_eq

end

/-- The run of the sample case to its link. -/
theorem keys_fresh_sample : ∃ steps b, recovery.Run sampleCase steps b ∧
    steps.map Step.cmd = sampleScenario.toActive ∧
      (Along (fun past s => ¬ReusesKey past s) steps ∨ DigestsCollide steps) := by
  obtain ⟨steps, b, hrun, hcmds, -⟩ := exists_run_active fresh_sampleCase sampleScenario_suits
  exact ⟨steps, b, hrun, hcmds, keys_fresh fresh_sampleCase hrun⟩

/-- The sample case records its link, and records it again. -/
theorem oneInstrument_repeated :
    ∃ steps b, recovery.Run sampleCase steps b ∧
      steps.map Step.cmd = sampleScenario.toActive ++
        [sampleScenario.request 6 (.recordActionActive sampleProposal.actionKey "plink_1")] ∧
      Along OneInstrumentLaw steps := by
  obtain ⟨steps, a, hrun, hcmds, ha⟩ := exists_run_executing fresh_sampleCase sampleScenario_suits
  have hadmits : Admits a.state .active := by rw [ha.state_eq]; decide
  have hnew : ¬(a.state = .active ∧ a.activeInstrumentReference = some "plink_1") := by
    rw [ha.state_eq]
    simp
  have hargs : (Command.recordActionActive sampleProposal.actionKey "plink_1").WellFormed :=
    Command.wellFormed_singleton rfl rfl
  obtain ⟨s, hpre, -, hpost, -, hnext, hcmds'⟩ := ha.exists_next hrun hcmds
    (.recordActionActive ha.key_eq hadmits hnew) hargs
  have hidle : Idle s.post.toAggregateFields
      (.recordActionActive sampleProposal.actionKey "plink_1") := by
    rw [hpost]
    exact .recordActionActive ha.key_eq rfl rfl
  have hversion : s.post.version = 6 := by
    rw [hpost]
    exact congrArg (· + 1) ha.version_eq
  have hagain := run_next_idle sampleDeadline.toDatetime hnext hidle hargs
  refine ⟨_, _, hagain, map_cmd_concat hcmds' (by rw [hversion]; rfl), oneInstrument hagain ?_⟩
  have hquiet : ∀ e ∈ steps, Quiet e := by
    intro e he
    have hmem : e.cmd ∈ sampleScenario.toExecuting := hcmds ▸ List.mem_map_of_mem he
    rcases Scenario.mem_toExecuting hmem with h | h | h | h | h <;>
      (rw [Quiet, h]; exact ⟨nofun, nofun⟩)
  -- the quiet path, then the recording from `EXECUTING`, then the same one in `ACTIVE`
  refine along_concat.mpr ⟨along_concat.mpr ⟨along_of_quiet hquiet, ?_⟩, ?_⟩
  · have hexecuting : s.pre.state = .executing := by rw [hpre, ha.state_eq]
    refine ⟨?_, ?_, not_reusesKey_of_quiet hquiet⟩
    · intro ⟨hactive, _⟩
      exact absurd (hexecuting.symm.trans hactive) (by decide)
    · intro ⟨hassessing, _⟩
      exact absurd (hexecuting.symm.trans hassessing) (by decide)
  · have hactive : s.post.state = .active := by rw [hpost]
    have hnot : s.post.state ≠ .assessing := by rw [hactive]; decide
    refine ⟨?_, fun h => hnot h.1, ?_⟩
    · intro ⟨_, key, ref, hrec, hne⟩
      obtain ⟨-, rfl⟩ := Command.recordActionActive.inj hrec
      exact hne (by rw [hpost])
    · intro ⟨p, htakes, _⟩
      exact hnot htakes.1

/-- The sample case replaces its active link. -/
theorem oneInstrument_broken :
    ∃ steps b, Fresh sampleCase ∧ recovery.Run sampleCase steps b ∧
      steps.map Step.cmd = sampleScenario.toActive ++
        [sampleScenario.request 6 (.recordActionActive sampleProposal.actionKey "plink_2")] ∧
      b.activeActionKey = some sampleProposal.actionKey ∧
      b.activeInstrumentReference = some "plink_2" ∧ ¬Along OneInstrumentLaw steps := by
  have hlink : isIdentifier "plink_2" = true := rfl
  obtain ⟨past, s, hrun, hcmds, hactive, href, hrec, hkey, hnew⟩ :=
    exists_run_rebound fresh_sampleCase sampleScenario_suits hlink (by decide)
  refine ⟨_, _, fresh_sampleCase, hrun, hcmds, hkey, hnew, fun hlaw => ?_⟩
  have hsame := ((hlaw past s [] rfl).repeated _ _ hrec hactive).1
  exact absurd (href.symm.trans hsame) (by decide)

end Retrywise.Domain
