import Retrywise.Domain.Progress
import Retrywise.Foundation.Optimistic

/-!
# Optimistic versioning of a case

The aggregate as a versioned machine (`versioned`), and what any interleaving of
its clients can count on (`optimisticVersioning`): every accepted change emits
one event, the events number the versions in the order of their times, at most
one of the commands written for one version takes effect, the decision version
goes up one at a time, and a gate decision is accepted once.

The last is not a check of its own. An accepted decision is bound to the version
it was evaluated at, and the command that consumes it leaves that version behind.
-/

namespace Retrywise.Domain

open Retrywise.Foundation

/-- The gate decision a command presents. -/
def Command.gateDecision : Command → Option GateDecision
  | .requestApproval _ d => some d
  | .authorizeAction _ d => some d
  | .recordInternalDecision _ d => some d
  | .beginExecution _ d => some d
  | _ => none

/-- The request a client writes for the version it read. -/
def submit (version : Nat) (c : Datetime × Command) : Request := ⟨version, c.1, c.2⟩

/-- All events of a run, in order. -/
def events (steps : List CaseStep) : List AggregateEvent := steps.flatMap Step.out

section

variable [Hashlib]

/-- The aggregate is optimistically versioned. -/
def versioned : Versioned recovery where
  version a := a.version
  expected r := r.expectedVersion
  checked _ h := (takes_cases h).1
  same_or_next s h := by
    cases (takes_cases h).2 with
    | idle _ hpost => exact .inl hpost
    | effective _ heff => exact .inr heff.version_eq

/-- What the clients of a case can count on. -/
structure VersioningLaw (init : RecoveryAggregate) (steps : List CaseStep) : Prop where
  /-- A step changes nothing, or emits the one event of the next version. -/
  oneEvent : ∀ s ∈ steps, (s.post = s.pre ∧ s.out = []) ∨
    ∃ event, s.out = [event] ∧ event.version = s.post.version ∧
      s.post.version = s.pre.version + 1
  /-- The events number the versions. -/
  consecutive : (events steps).map AggregateEvent.version =
    List.range' (init.version + 1) (events steps).length
  /-- Their times do not go back. -/
  ordered : (events steps).Pairwise fun e e' => e.occurredAt ≤ e'.occurredAt
  /-- Of the commands written for one version, at most one changes the case. -/
  once : steps.Pairwise fun s s' => s.out ≠ [] → s'.out ≠ [] →
    s.cmd.expectedVersion ≠ s'.cmd.expectedVersion
  /-- Decisions are counted one at a time, and never ahead of the version. -/
  decisions : ∀ s ∈ steps, s.pre.decisionVersion ≤ s.post.decisionVersion ∧
    s.post.decisionVersion ≤ s.pre.decisionVersion + 1 ∧
    s.post.decisionVersion ≤ s.post.version
  /-- No gate decision is accepted twice. -/
  noReplay : steps.Pairwise fun s s' => ∀ d, s.cmd.command.gateDecision = some d →
    s'.cmd.command.gateDecision ≠ some d

/-! ## One step -/

/-- A command that consumes a gate decision changes the case, and the decision
is bound to the version it changes. -/
theorem gateDecision_bound {s : CaseStep} {d : GateDecision} (h : recovery.Takes s)
    (hd : s.cmd.command.gateDecision = some d) :
    d.aggregateVersion = s.pre.version ∧ versioned.Changes s := by
  cases (takes_cases h).2 with
  | idle hidle =>
    exfalso
    generalize s.cmd.command = command at hidle hd
    cases hidle <;> exact nomatch hd
  | effective _ heff =>
    refine ⟨?_, heff.version_eq⟩
    generalize s.cmd.command = command at heff hd
    generalize s.post.toAggregateFields = b at heff
    cases heff with
    | requestApproval _ _ _ hbound => exact Option.some.inj hd ▸ hbound.aggregateVersion
    | authorizeAction _ _ hbound => exact Option.some.inj hd ▸ hbound.aggregateVersion
    | recordInternalDecision _ _ hbound => exact Option.some.inj hd ▸ hbound.aggregateVersion
    | beginExecution _ _ hbound => exact Option.some.inj hd ▸ hbound.aggregateVersion
    | _ => exact nomatch hd

/-- A step that emits something changes the case. -/
theorem changes_of_out {s : CaseStep} (h : recovery.Takes s) (hout : s.out ≠ []) :
    versioned.Changes s := by
  cases (takes_cases h).2 with
  | idle _ _ hnone => exact absurd hnone hout
  | effective _ heff => exact heff.version_eq

/-! ## The events of a run -/

/-- The events so far number the versions of the case, in the order of their
times, and none is later than the case's last transition. -/
structure EventsSoFar (init : RecoveryAggregate) (past : List CaseStep) (a : RecoveryAggregate) :
    Prop where
  version : a.version = init.version + (events past).length
  consecutive : (events past).map AggregateEvent.version =
    List.range' (init.version + 1) (events past).length
  ordered : (events past).Pairwise fun e e' => e.occurredAt ≤ e'.occurredAt
  last : ∀ e ∈ events past, ∃ last, a.lastTransitionAt = some last ∧ e.occurredAt ≤ last

omit [Hashlib] in
theorem events_concat (past : List CaseStep) (s : CaseStep) :
    events (past ++ [s]) = events past ++ s.out := by
  simp [events]

theorem eventsSoFar_step {init : RecoveryAggregate} {past : List CaseStep} {s : CaseStep}
    (h : recovery.Takes s) (hpast : EventsSoFar init past s.pre) :
    EventsSoFar init (past ++ [s]) s.post := by
  cases (takes_cases h).2 with
  | idle _ hpost hout =>
    have hsame : events (past ++ [s]) = events past := by
      rw [events_concat, hout, List.append_nil]
    rw [hpost]
    constructor
    · rw [hsame]
      exact hpast.version
    · rw [hsame]
      exact hpast.consecutive
    · rw [hsame]
      exact hpast.ordered
    · rw [hsame]
      exact hpast.last
  | @effective t event moved ht heff hout hversion hat _ =>
    have hnext : events (past ++ [s]) = events past ++ [event] := by rw [events_concat, hout]
    have hlast : s.post.lastTransitionAt = some t := heff.lastTransitionAt_eq
    -- every earlier event is no later than the last transition, and that is no later than now
    have hearlier : ∀ e ∈ events past, e.occurredAt ≤ t := by
      intro e he
      obtain ⟨last, hbefore, hle⟩ := hpast.last e he
      exact hle.trans (ht.2 last hbefore)
    constructor
    · rw [hnext, List.length_append, List.length_singleton, ← Nat.add_assoc, ← hpast.version]
      exact heff.version_eq
    · rw [hnext, List.map_append, List.length_append, List.length_singleton, hpast.consecutive,
        List.map_singleton, hversion, hpast.version, List.range'_1_concat,
        Nat.add_right_comm init.version 1]
    · rw [hnext, List.pairwise_append]
      refine ⟨hpast.ordered, List.pairwise_singleton _ _, ?_⟩
      intro e he e' he'
      rw [List.mem_singleton.mp he', hat]
      exact hearlier e he
    · rw [hnext]
      intro e he
      refine ⟨t, hlast, ?_⟩
      rcases List.mem_append.mp he with hmem | hmem
      · exact hearlier e hmem
      · rw [List.mem_singleton.mp hmem, hat]

theorem eventsSoFar_of_run {init final : RecoveryAggregate} {steps : List CaseStep}
    (hrun : recovery.Run init steps final) : EventsSoFar init steps final := by
  have h0 : EventsSoFar init [] init :=
    ⟨rfl, rfl, List.Pairwise.nil, fun e he => absurd he (by simp [events])⟩
  exact hrun.history (H := EventsSoFar init) (G := fun _ _ => True) h0
    (fun _ _ _ hpast h _ => eventsSoFar_step h hpast) fun _ _ _ _ => trivial

/-! ## All laws -/

theorem versioningLaw_of_run {init final : RecoveryAggregate} {steps : List CaseStep}
    (hrun : recovery.Run init steps final) : VersioningLaw init steps := by
  have hevents := eventsSoFar_of_run hrun
  have htakes : ∀ s ∈ steps, recovery.Takes s := by
    intro s hs
    obtain ⟨_, _, _, _, h⟩ := hrun.of_mem hs
    exact h
  have hlt := versioned.changing_lt hrun
  have hpairs : steps.Pairwise fun s s' => recovery.Takes s ∧ recovery.Takes s' ∧
      (versioned.Changes s → s.cmd.expectedVersion < s'.cmd.expectedVersion) :=
    hlt.imp_of_mem fun hs hs' hchange => ⟨htakes _ hs, htakes _ hs', hchange⟩
  constructor
  · intro s hs
    cases (takes_cases (htakes s hs)).2 with
    | idle _ hpost hout => exact .inl ⟨hpost, hout⟩
    | effective _ heff hout hversion =>
      exact .inr ⟨_, hout, hversion.trans heff.version_eq.symm, heff.version_eq⟩
  · exact hevents.consecutive
  · exact hevents.ordered
  · refine hpairs.imp fun ⟨h, _, hchange⟩ hout _ => ?_
    exact ne_of_lt (hchange (changes_of_out h hout))
  · intro s hs
    have hdv : s.post.decisionVersion = s.pre.decisionVersion ∨
        s.post.decisionVersion = s.pre.decisionVersion + 1 := by
      cases (takes_cases (htakes s hs)).2 with
      | idle _ hpost => exact .inl (by rw [hpost])
      | effective _ heff => exact heff.decisionVersion_cases
    exact ⟨by omega, by omega, s.post.valid.decisionVersion⟩
  · refine hpairs.imp fun ⟨h, h', hchange⟩ d hd hd' => ?_
    -- both steps would be bound to one version, and the first left it behind
    obtain ⟨hbound, hchanges⟩ := gateDecision_bound h hd
    have hbound' := (gateDecision_bound h' hd').1
    have hlater := hchange hchanges
    rw [(takes_cases h).1, (takes_cases h').1] at hlater
    omega

/-- **Optimistic versioning and no authorization replay**, for every interleaving
of any number of clients: the laws hold of what was accepted, no client is ahead
of the case, and a client that is behind it is refused whatever it submits. -/
theorem optimisticVersioning {ι : Type} [DecidableEq ι] {init final : RecoveryAggregate}
    {steps : List CaseStep} {seen : ι → Option Nat}
    (hsession : Session recovery versioned.version submit init steps final seen) :
    VersioningLaw init steps ∧ ∀ i v, seen i = some v → v ≤ final.version ∧
      (v < final.version → ∀ c, ∃ e, final.execute (submit v c) = .error e) := by
  refine ⟨versioningLaw_of_run hsession.run, ?_⟩
  intro i v hseen
  refine ⟨Session.seen_le versioned hsession hseen, ?_⟩
  intro hstale c
  have hlate : versioned.expected (submit v c) < versioned.version final :=
    Int.ofNat_lt.mpr hstale
  obtain ⟨e, he⟩ := Session.refused_of_stale versioned hlate
  cases hexec : final.execute (submit v c) with
  | error e' => exact ⟨e', rfl⟩
  | ok r =>
    have hok : recovery.exec final (submit v c) = .ok (r.aggregate, r.events) :=
      map_ok_iff.mpr ⟨r, hexec, rfl⟩
    exact absurd (hok.symm.trans he) (by simp)

end

/-- Two clients of the sample case: one takes it to collection, the other read
version 0 and never again, and is refused from then on. -/
theorem optimisticVersioning_active :
    ∃ steps b, ∃ seen : Bool → Option Nat,
      Session recovery versioned.version submit sampleCase steps b seen ∧
      steps.map Step.cmd = sampleScenario.toActive ∧ VersioningLaw sampleCase steps ∧
      seen true = some 0 ∧ ∀ c, ∃ e, b.execute (submit 0 c) = .error e := by
  obtain ⟨steps, b, hrun, hcmds, hb⟩ := exists_run_active fresh_sampleCase sampleScenario_suits
  have hread : Session recovery versioned.version submit sampleCase [] sampleCase
      (Function.update (fun _ : Bool => none) true (some 0)) := .read true .start
  have hwritten : ∀ s ∈ steps, ∃ c, s.cmd = submit (versioned.version s.pre) c := by
    intro s hs
    obtain ⟨_, _, _, _, htakes⟩ := hrun.of_mem hs
    refine ⟨(s.cmd.atTime, s.cmd.command), ?_⟩
    show s.cmd = ⟨(s.pre.version : Int), s.cmd.atTime, s.cmd.command⟩
    rw [← (takes_cases htakes).1]
  obtain ⟨seen, hsession, hothers⟩ := hread.extend false hrun hwritten
  have htrue : seen true = some 0 := hothers true (by decide)
  have hlaws := optimisticVersioning hsession
  have hstale : 0 < b.version := by rw [hb.version_eq]; decide
  exact ⟨steps, b, seen, hsession, hcmds, hlaws.1, htrue, (hlaws.2 true 0 htrue).2 hstale⟩

end Retrywise.Domain
