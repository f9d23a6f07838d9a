import Retrywise.ControlPlane.BoundedDeliveries
import Retrywise.ControlPlane.PostgresOutbox
import Retrywise.Foundation.Traced

/-!
# A poll of the outbox

`OutboxWorker.poll_once`: a batch is claimed, each command of it goes to the handler of its
type, and what the handler asks for is written behind the lease. A lost lease is counted and
the poll goes on; any other exception ends the poll, and the commands after it keep their
leases.

The reason of a retry on the last attempt is written behind a prefix, and cut to what is left
of 500 characters. The cut can leave a blank at the end, and such a text is not written.

> `poll_settles_iff`: a poll makes one call for each command and returns, unless an exception's
> name makes no clean reason, or a last attempt is given up for a reason cut behind a blank.
-/

namespace Retrywise.ControlPlane

open Retrywise.Foundation Retrywise.Domain

/-! ## The batch -/

/-- `OutboxClaimBatch`. -/
structure OutboxClaimBatch where
  selectedCount : Nat
  commands : List ClaimedOutboxCommand
  expiredDeadLettered : Nat
  accounted : selectedCount = commands.length + expiredDeadLettered

/-! ## The handlers -/

/-- A handler result, as its constructor lets it through. -/
structure CheckedResult where
  result : HandlerResult
  valid : result.check = .ok ()

def HandlerResult.build (result : HandlerResult) : Except ControlPlaneError CheckedResult :=
  construct HandlerResult.check CheckedResult.mk result

/-- How the call of a handler ends. -/
inductive HandlerOutcome where
  | returned (answer : CheckedResult)
  /-- A value that is no `HandlerResult`. -/
  | other
  | raised (name : String)

/-- A registered handler; it is told where in the batch it is called, since it may answer one
command differently after another. -/
abbrev CommandHandler := Nat → ClaimedOutboxCommand → HandlerOutcome

/-- The result that the call of a handler comes to. -/
def HandlerOutcome.instruction : HandlerOutcome → Except ControlPlaneError CheckedResult
  | .returned answer => .ok answer
  | .other => (HandlerResult.deadLetter "invalid_handler_result").build
  | .raised name => (HandlerResult.retry s!"handler_exception:{name}" .reconcileOnly).build

/-- The result `poll_once` settles with. -/
def instruction (handlers : String → Option CommandHandler) (position : Nat)
    (command : ClaimedOutboxCommand) : Except ControlPlaneError CheckedResult :=
  match handlers command.commandType with
  | none => (HandlerResult.deadLetter s!"unregistered_command_type:{command.commandType}").build
  | some handler => (handler position command).instruction

/-! ## The repository -/

section

variable (claim : ClaimFields) (held : Bool)

/-- `_settle`, for its caller: the row is written if it is held, and else the fence is lost. -/
def fenced (operation : String) : Except ControlPlaneError Unit :=
  if held then .ok () else .error (.outboxFenceLost s!"{operation} lost its fenced lease")

/-- `complete`, `retry` and `dead_letter`. -/
def settlement : HandlerResult → Except ControlPlaneError Unit
  | .succeeded reference => do
    requireCleanText reference "completion_reference" 500
    fenced held "complete"
  | .retry reason _ => do
    requireCleanText reason "reason" 500
    if claim.attemptCount ≥ claim.maxAttempts then
      requireCleanText (OutboxRow.prefixedReason "max_attempts_exhausted" reason) "reason" 500
      fenced held "dead_letter"
    else fenced held "retry"
  | .deadLetter reason => do
    requireCleanText reason "reason" 500
    fenced held "dead_letter"

/-- The call under `except OutboxFenceLost`: whether the row has been written. -/
def settled (asked : HandlerResult) : Except ControlPlaneError Bool :=
  match settlement claim held asked with
  | .ok _ => .ok true
  | .error (.outboxFenceLost _) => .ok false
  | .error e => .error e

end

/-! ## The poll -/

/-- A call of the repository. -/
structure RepositoryCall where
  command : ClaimedOutboxCommand
  asked : HandlerResult

structure PollCounts where
  succeeded : Nat := 0
  retried : Nat := 0
  deadLettered : Nat := 0
  fenceLost : Nat := 0

namespace PollCounts

def total (counts : PollCounts) : Nat :=
  counts.succeeded + counts.retried + counts.deadLettered + counts.fenceLost

/-- Count one settlement. -/
def count (counts : PollCounts) (asked : HandlerResult) (written : Bool) : PollCounts :=
  if written then
    match asked with
    | .succeeded _ => { counts with succeeded := counts.succeeded + 1 }
    | .retry _ _ => { counts with retried := counts.retried + 1 }
    | .deadLetter _ => { counts with deadLettered := counts.deadLettered + 1 }
  else { counts with fenceLost := counts.fenceLost + 1 }

/-- Every settlement is counted once. -/
theorem total_count (counts : PollCounts) (asked : HandlerResult) (written : Bool) :
    (counts.count asked written).total = counts.total + 1 := by
  cases written with
  | false => exact (Nat.add_assoc ..).symm
  | true =>
    cases asked with
    | succeeded => simp only [count, if_true, total]; omega
    | retry => simp only [count, if_true, total]; omega
    | deadLetter => simp only [count, if_true, total]; omega

end PollCounts

structure PollFields extends PollCounts where
  selected : Nat
  claimed : Nat

/-- `PollResult.__post_init__`. -/
def PollFields.postInit (fields : PollFields) : Except ControlPlaneError Unit := do
  raiseIf (fields.claimed > fields.selected) (.invalidValue "claimed cannot exceed selected")
  raiseIf (fields.total ≠ fields.selected)
    (.invalidValue "every selected row must have exactly one poll outcome")

structure PollResult extends PollFields where
  valid : toPollFields.postInit = .ok ()

/-- The part of the worker that a poll reads. -/
structure OutboxWorker where
  handlers : String → Option CommandHandler

namespace OutboxWorker

-- whether the lease of the command at each place is still there when it is settled
variable (worker : OutboxWorker) (held : Nat → Bool)

/-- One command of the batch. -/
def serve (position : Nat) (command : ClaimedOutboxCommand) (counts : PollCounts) :
    Traced RepositoryCall ControlPlaneError PollCounts := do
  let asked ← Traced.lift (instruction worker.handlers position command)
  Traced.note ⟨command, asked.result⟩
  let written ← Traced.lift (settled command.toClaimFields (held position) asked.result)
  pure (counts.count asked.result written)

/-- The commands from a place of the batch on. -/
def serveAll (position : Nat) (counts : PollCounts) :
    List ClaimedOutboxCommand → Traced RepositoryCall ControlPlaneError PollCounts
  | [] => pure counts
  | command :: rest => do
    let counts ← worker.serve held position command counts
    serveAll (position + 1) counts rest

/-- `poll_once`, after the claim. -/
def pollOnce (batch : OutboxClaimBatch) : Traced RepositoryCall ControlPlaneError PollResult := do
  let counts ← worker.serveAll held 0 { deadLettered := batch.expiredDeadLettered } batch.commands
  Traced.lift <| construct PollFields.postInit PollResult.mk
    { counts with selected := batch.selectedCount, claimed := batch.commands.length }

end OutboxWorker

/-! ## Reasons -/

/-- The reason is cut to the 477 characters the prefix leaves, and the last of them is a
blank. -/
def CutAtBlank (reason : String) : Prop :=
  477 < reason.toList.length ∧ reason.toList[476]?.any isSpace = true

instance (reason : String) : Decidable (CutAtBlank reason) :=
  inferInstanceAs (Decidable (_ ∧ _))

/-- What the cut leaves ends as the reason does, or where it was cut. -/
theorem getLast?_cut {reason : String} (h : isCleanText 500 reason = true) :
    (reason.toList.take 477).getLast?.any isSpace = true ↔ CutAtBlank reason := by
  simp only [isCleanText, Bool.and_eq_true, Bool.not_eq_true'] at h
  obtain ⟨⟨⟨-, hlast⟩, -⟩, -⟩ := h
  by_cases hlong : 477 < reason.toList.length
  · have hin : 476 < reason.toList.length := by omega
    rw [List.getLast?_take, if_neg (by decide), List.getElem?_eq_getElem hin, Option.some_or]
    rw [CutAtBlank, List.getElem?_eq_getElem hin]
    exact ⟨fun hblank => ⟨hlong, hblank⟩, fun hcut => hcut.2⟩
  · rw [List.take_of_length_le (by omega), hlast]
    exact ⟨fun hblank => absurd hblank (by decide), fun hcut => absurd hcut.1 hlong⟩

/-- A reason is written behind the prefix unless it is cut at a blank. -/
theorem isCleanText_prefixedReason_iff {reason : String} (h : isCleanText 500 reason = true) :
    isCleanText 500 (OutboxRow.prefixedReason "max_attempts_exhausted" reason) = true ↔
      ¬CutAtBlank reason := by
  have hcut := getLast?_cut h
  simp only [isCleanText, Bool.and_eq_true, decide_eq_true_eq, Bool.not_eq_true',
    List.all_eq_true] at h
  obtain ⟨⟨⟨⟨hsome, hhead⟩, -⟩, -⟩, hall⟩ := h
  have hlead : "max_attempts_exhausted:".toList.length = 23 := by decide
  have htext : OutboxRow.prefixedReason "max_attempts_exhausted" reason =
      "max_attempts_exhausted:" ++ String.ofList (reason.toList.take 477) := rfl
  have htaken : reason.toList.take 477 ≠ [] := by
    intro hnil
    rcases List.take_eq_nil_iff.mp hnil with hzero | hnone
    · exact absurd hzero (by decide)
    · exact hsome hnone
  have hkept : (String.ofList (reason.toList.take 477)).toList ≠ [] := by
    rw [String.toList_ofList]
    exact htaken
  rw [htext, ← hcut]
  constructor
  · intro hclean
    simp only [isCleanText, Bool.and_eq_true, Bool.not_eq_true'] at hclean
    obtain ⟨⟨⟨-, hlast⟩, -⟩, -⟩ := hclean
    rw [String.toList_append, List.getLast?_append_of_ne_nil _ hkept, String.toList_ofList]
      at hlast
    exact fun hblank => absurd (hblank.symm.trans hlast) (by decide)
  · intro hend
    have hshort : (reason.toList.take 477).length ≤ 477 := List.length_take_le ..
    have hroom : "max_attempts_exhausted:".toList.length + 477 ≤ 500 := by rw [hlead]
    refine isCleanText_append (by decide) (by decide) ?_ hroom
    simp only [isCleanText, Bool.and_eq_true, decide_eq_true_eq, Bool.not_eq_true',
      List.all_eq_true, String.toList_ofList]
    refine ⟨⟨⟨⟨htaken, ?_⟩, Bool.eq_false_iff.mpr hend⟩, hshort⟩, ?_⟩
    · rw [List.head?_take, if_neg (by decide)]
      exact hhead
    · intro c hc
      exact hall c (List.mem_of_mem_take hc)

/-! ## One settlement -/

/-- A last attempt is given up for a reason that is cut at a blank. -/
def GivenUpAtBlank (claim : ClaimFields) (reason : String) : Prop :=
  claim.maxAttempts ≤ claim.attemptCount ∧ CutAtBlank reason

instance (claim : ClaimFields) (reason : String) : Decidable (GivenUpAtBlank claim reason) :=
  inferInstanceAs (Decidable (_ ∧ _))

section

variable {claim : ClaimFields} {held : Bool} {asked : HandlerResult}

/-- A call that only the fence can refuse is written or counted. -/
theorem settled_of_fenced {operation : String}
    (h : settlement claim held asked = fenced held operation) :
    settled claim held asked = .ok held := by
  unfold settled
  rw [h]
  cases held with
  | true => rfl
  | false => rfl

theorem settled_of_invalid {message : String}
    (h : settlement claim held asked = .error (.invalidValue message)) :
    settled claim held asked = .error (.invalidValue message) := by
  unfold settled
  rw [h]

theorem requireCleanText_of_clean {value field : String} (h : isCleanText 500 value = true) :
    requireCleanText value field 500 = .ok () := requireCleanText_ok_iff.mpr h

theorem clean_of_retry {reason : String} {mode : RetryMode}
    (h : (HandlerResult.retry reason mode).check = .ok ()) : isCleanText 500 reason = true := by
  obtain ⟨_, hclean, -⟩ := bind_ok_iff.mp h
  exact requireCleanText_ok_iff.mp hclean

/-- A retry is written or counted, unless the last attempt is given up at a blank. -/
theorem settled_retry_iff {reason : String} {mode : RetryMode}
    (h : isCleanText 500 reason = true) :
    (∃ written, settled claim held (.retry reason mode) = .ok written) ↔
      ¬GivenUpAtBlank claim reason := by
  have hstart : settlement claim held (.retry reason mode) =
      if claim.attemptCount ≥ claim.maxAttempts then do
        requireCleanText (OutboxRow.prefixedReason "max_attempts_exhausted" reason) "reason" 500
        fenced held "dead_letter"
      else fenced held "retry" := bind_of_ok (requireCleanText_of_clean h) _
  by_cases hlast : claim.attemptCount ≥ claim.maxAttempts
  · rw [if_pos hlast] at hstart
    by_cases hcut : CutAtBlank reason
    · have hunclean := (isCleanText_prefixedReason_iff h).not.mpr (not_not.mpr hcut)
      have hraises := settled_of_invalid (hstart.trans (bind_of_error (raiseIf_of _ hunclean) _))
      constructor
      · rintro ⟨written, hwritten⟩
        exact absurd (hraises.symm.trans hwritten) (by simp)
      · exact fun hnot => absurd ⟨hlast, hcut⟩ hnot
    · have hclean := (isCleanText_prefixedReason_iff h).mpr hcut
      have hsettled :=
        settled_of_fenced (hstart.trans (bind_of_ok (requireCleanText_of_clean hclean) _))
      exact ⟨fun _ hgiven => hcut hgiven.2, fun _ => ⟨held, hsettled⟩⟩
  · rw [if_neg hlast] at hstart
    exact ⟨fun _ hgiven => hlast hgiven.1, fun _ => ⟨held, settled_of_fenced hstart⟩⟩

theorem exists_settled_succeeded {reference : String}
    (h : (HandlerResult.succeeded reference).check = .ok ()) :
    ∃ written, settled claim held (.succeeded reference) = .ok written := by
  have hfence : settlement claim held (.succeeded reference) = fenced held "complete" :=
    bind_of_ok h _
  exact ⟨held, settled_of_fenced hfence⟩

theorem exists_settled_deadLetter {reason : String}
    (h : (HandlerResult.deadLetter reason).check = .ok ()) :
    ∃ written, settled claim held (.deadLetter reason) = .ok written := by
  have hfence : settlement claim held (.deadLetter reason) = fenced held "dead_letter" :=
    bind_of_ok h _
  exact ⟨held, settled_of_fenced hfence⟩

end

/-! ## One command -/

/-- The reason of the retry that an outcome asks for. -/
def HandlerOutcome.retryReason : HandlerOutcome → Option String
  | .returned answer =>
    match answer.result with
    | .retry reason _ => some reason
    | _ => none
  | .other => none
  | .raised name => some s!"handler_exception:{name}"

/-- What the handler does with the command ends in a settlement: its retry has a clean reason,
and gives no last attempt up for a reason cut at a blank. -/
def Settleable (worker : OutboxWorker) (position : Nat) (command : ClaimedOutboxCommand) : Prop :=
  ∀ handler reason, worker.handlers command.commandType = some handler →
    (handler position command).retryReason = some reason →
      isCleanText 500 reason = true ∧ ¬GivenUpAtBlank command.toClaimFields reason

section

variable {worker : OutboxWorker} {held : Nat → Bool} {position : Nat}
  {command : ClaimedOutboxCommand} {counts next : PollCounts}

theorem build_ok_iff {result : HandlerResult} {asked : CheckedResult} :
    result.build = .ok asked ↔ asked.result = result := by
  refine construct_ok_iff.trans ⟨?_, ?_⟩
  · rintro ⟨_, rfl⟩
    rfl
  · rintro rfl
    exact ⟨asked.valid, rfl⟩

/-- The reason for an unregistered type is clean: a command's type is. -/
theorem unregistered_checks :
    (HandlerResult.deadLetter s!"unregistered_command_type:{command.commandType}").check =
      .ok () := by
  have hvalid := command.valid
  simp only [ClaimFields.postInit, bind_ok_iff, requireCleanText_ok_iff] at hvalid
  obtain ⟨-, -, -, -, -, -, -, -, -, htype, -⟩ := hvalid
  have hroom : "unregistered_command_type:".toList.length + 100 ≤ 500 := by decide
  exact requireCleanText_of_clean (isCleanText_append (by decide) (by decide) htype hroom)

theorem result_serve : (worker.serve held position command counts).result =
    instruction worker.handlers position command >>= fun asked =>
      settled command.toClaimFields (held position) asked.result >>= fun written =>
        .ok (counts.count asked.result written) := by
  unfold OutboxWorker.serve
  simp only [Traced.result_lift_bind, Traced.result_note_bind, Traced.result_pure]

/-- A command that is settled is called for once, and counted once. -/
theorem serve_ok (h : (worker.serve held position command counts).result = .ok next) :
    (worker.serve held position command counts).log.map RepositoryCall.command = [command] ∧
      next.total = counts.total + 1 := by
  rw [result_serve] at h
  obtain ⟨asked, hasked, h⟩ := bind_ok_iff.mp h
  obtain ⟨written, hwritten, h⟩ := bind_ok_iff.mp h
  constructor
  · unfold OutboxWorker.serve
    rw [Traced.log_bind _ hasked, Traced.log_bind _ (Traced.result_note _),
      Traced.log_bind _ hwritten]
    rfl
  · rw [← Except.ok.inj h]
    exact PollCounts.total_count ..

/-- The instruction can be had, and it can be settled. -/
def Comes (claim : ClaimFields) (held : Bool)
    (asked : Except ControlPlaneError CheckedResult) : Prop :=
  ∃ result written, asked = .ok result ∧ settled claim held result.result = .ok written

theorem exists_serve_comes_iff :
    (∃ next, (worker.serve held position command counts).result = .ok next) ↔
      Comes command.toClaimFields (held position)
        (instruction worker.handlers position command) := by
  rw [result_serve]
  constructor
  · rintro ⟨next, hnext⟩
    obtain ⟨asked, hasked, hnext⟩ := bind_ok_iff.mp hnext
    obtain ⟨written, hwritten, -⟩ := bind_ok_iff.mp hnext
    exact ⟨asked, written, hasked, hwritten⟩
  · rintro ⟨asked, written, hasked, hwritten⟩
    exact ⟨_, bind_ok_iff.mpr ⟨asked, hasked, bind_ok_iff.mpr ⟨written, hwritten, rfl⟩⟩⟩

/-- A result that is built comes to a settlement if its checks pass and it can be written. -/
theorem comes_build_iff {claim : ClaimFields} {kept : Bool} {result : HandlerResult} :
    Comes claim kept result.build ↔
      result.check = .ok () ∧ ∃ written, settled claim kept result = .ok written := by
  constructor
  · rintro ⟨asked, written, hasked, hwritten⟩
    rw [build_ok_iff] at hasked
    rw [hasked] at hwritten
    exact ⟨hasked ▸ asked.valid, written, hwritten⟩
  · rintro ⟨hchecks, written, hwritten⟩
    exact ⟨⟨result, hchecks⟩, written, build_ok_iff.mpr rfl, hwritten⟩

theorem comes_deadLetter {claim : ClaimFields} {kept : Bool} {reason : String}
    (h : (HandlerResult.deadLetter reason).check = .ok ()) :
    Comes claim kept (HandlerResult.deadLetter reason).build :=
  comes_build_iff.mpr ⟨h, exists_settled_deadLetter h⟩

/-- A retry comes to a settlement if its reason is clean and not cut at a blank. -/
theorem comes_retry_iff {claim : ClaimFields} {kept : Bool} {reason : String} {mode : RetryMode}
    (hmode : mode ≠ .normal) :
    Comes claim kept (HandlerResult.retry reason mode).build ↔
      isCleanText 500 reason = true ∧ ¬GivenUpAtBlank claim reason := by
  rw [comes_build_iff]
  constructor
  · rintro ⟨hchecks, hwritten⟩
    have hclean := clean_of_retry hchecks
    exact ⟨hclean, (settled_retry_iff hclean).mp hwritten⟩
  · rintro ⟨hclean, hnot⟩
    refine ⟨?_, (settled_retry_iff hclean).mpr hnot⟩
    exact (bind_of_ok (requireCleanText_of_clean hclean) _).trans (raiseIf_of_not _ hmode)

/-- An outcome comes to a settlement if the retry it asks for does. -/
theorem comes_outcome_iff {claim : ClaimFields} {kept : Bool} (outcome : HandlerOutcome) :
    Comes claim kept outcome.instruction ↔
      ∀ reason, outcome.retryReason = some reason →
        isCleanText 500 reason = true ∧ ¬GivenUpAtBlank claim reason := by
  have hnone {asked : HandlerOutcome} (hcomes : Comes claim kept asked.instruction)
      (hasks : asked.retryReason = none) : Comes claim kept asked.instruction ↔
        ∀ reason, asked.retryReason = some reason →
          isCleanText 500 reason = true ∧ ¬GivenUpAtBlank claim reason :=
    ⟨fun _ reason h => absurd (hasks.symm.trans h) (by simp), fun _ => hcomes⟩
  have hsome {asked : HandlerOutcome} {reason : String} (hasks : asked.retryReason = some reason)
      (hiff : Comes claim kept asked.instruction ↔
        isCleanText 500 reason = true ∧ ¬GivenUpAtBlank claim reason) :
      Comes claim kept asked.instruction ↔ ∀ reason, asked.retryReason = some reason →
        isCleanText 500 reason = true ∧ ¬GivenUpAtBlank claim reason := by
    rw [hiff]
    refine ⟨fun h other hother => ?_, fun h => h reason hasks⟩
    rw [← Option.some.inj (hasks.symm.trans hother)]
    exact h
  cases outcome with
  | other => exact hnone (comes_deadLetter (by decide)) rfl
  | raised name => exact hsome rfl (comes_retry_iff (by decide))
  | returned answer =>
    obtain ⟨result, hchecks⟩ := answer
    have hbuilt : result.build = .ok ⟨result, hchecks⟩ := build_ok_iff.mpr rfl
    cases result with
    | succeeded reference =>
      obtain ⟨written, hwritten⟩ := exists_settled_succeeded hchecks
      exact hnone ⟨_, written, rfl, hwritten⟩ rfl
    | deadLetter reason =>
      obtain ⟨written, hwritten⟩ := exists_settled_deadLetter hchecks
      exact hnone ⟨_, written, rfl, hwritten⟩ rfl
    | retry reason mode =>
      refine hsome rfl ?_
      show Comes claim kept (.ok ⟨_, hchecks⟩) ↔ _
      rw [← hbuilt]
      obtain ⟨_, -, hmode⟩ := bind_ok_iff.mp hchecks
      exact comes_retry_iff (raiseIf_ok_iff.mp hmode)

/-- A command is settled exactly when what its handler does can be. -/
theorem exists_serve_iff :
    (∃ next, (worker.serve held position command counts).result = .ok next) ↔
      Settleable worker position command := by
  rw [exists_serve_comes_iff]
  unfold instruction Settleable
  cases hhandler : worker.handlers command.commandType with
  | none =>
    exact ⟨fun _ handler reason h => absurd h (by simp),
      fun _ => comes_deadLetter unregistered_checks⟩
  | some handler =>
    refine (comes_outcome_iff (handler position command)).trans ⟨?_, ?_⟩
    · rintro h other reason hother
      rw [← Option.some.inj hother]
      exact h reason
    · exact fun h reason => h handler reason rfl

end

/-! ## The batch, command by command -/

section

variable {worker : OutboxWorker} {held : Nat → Bool}

/-- A poll that gets through its commands has called for each of them, and counted each. -/
theorem serveAll_ok {commands : List ClaimedOutboxCommand} :
    ∀ {position : Nat} {counts last : PollCounts},
      (worker.serveAll held position counts commands).result = .ok last →
        (worker.serveAll held position counts commands).log.map RepositoryCall.command =
            commands ∧
          last.total = counts.total + commands.length := by
  induction commands with
  | nil =>
    intro position counts last h
    rw [← Except.ok.inj h]
    exact ⟨rfl, rfl⟩
  | cons command rest ih =>
    intro position counts last h
    unfold OutboxWorker.serveAll at h ⊢
    rw [Traced.result_bind] at h
    obtain ⟨next, hnext, hrest⟩ := bind_ok_iff.mp h
    obtain ⟨hcalled, hcounted⟩ := serve_ok hnext
    obtain ⟨hcalls, htotal⟩ := ih hrest
    constructor
    · rw [Traced.log_bind _ hnext, List.map_append, hcalled, hcalls]
      rfl
    · rw [htotal, hcounted, List.length_cons]
      omega

/-- A poll gets through its commands exactly when each of them is settled. -/
theorem exists_serveAll_iff {commands : List ClaimedOutboxCommand} :
    ∀ {position : Nat} {counts : PollCounts},
      (∃ last, (worker.serveAll held position counts commands).result = .ok last) ↔
        ∀ i command, commands[i]? = some command → Settleable worker (position + i) command := by
  induction commands with
  | nil =>
    intro position counts
    exact ⟨fun _ i command h => absurd h (by simp), fun _ => ⟨counts, rfl⟩⟩
  | cons command rest ih =>
    intro position counts
    unfold OutboxWorker.serveAll
    rw [Traced.result_bind]
    constructor
    · rintro ⟨last, hlast⟩
      obtain ⟨next, hnext, hrest⟩ := bind_ok_iff.mp hlast
      intro i other hother
      cases i with
      | zero =>
        rw [← Option.some.inj hother]
        exact exists_serve_iff.mp ⟨next, hnext⟩
      | succ i =>
        have hlater := ih.mp ⟨last, hrest⟩ i other hother
        rwa [Nat.add_assoc, Nat.add_comm 1 i] at hlater
    · intro h
      obtain ⟨next, hnext⟩ : ∃ next, (worker.serve held position command counts).result =
          .ok next := exists_serve_iff.mpr (h 0 command rfl)
      have hrest : ∀ i other, rest[i]? = some other → Settleable worker (position + 1 + i) other := by
        intro i other hother
        rw [Nat.add_assoc, Nat.add_comm 1 i]
        exact h (i + 1) other hother
      obtain ⟨last, hlast⟩ : ∃ last, (worker.serveAll held (position + 1) next rest).result =
          .ok last := ih.mpr hrest
      exact ⟨last, bind_ok_iff.mpr ⟨next, hnext, hlast⟩⟩

/-- What a poll owes the batch: one call for each command, in order, and a result that accounts
for every selected row. -/
def SettlesEach (polled : Traced RepositoryCall ControlPlaneError PollResult)
    (batch : OutboxClaimBatch) : Prop :=
  polled.log.map RepositoryCall.command = batch.commands ∧
    ∃ result, polled.result = .ok result ∧
      result.succeeded + result.retried + result.deadLettered + result.fenceLost =
        batch.selectedCount

/-- A poll that does what it owes has settled every command. -/
theorem settleable_of_settlesEach {batch : OutboxClaimBatch}
    (h : SettlesEach (worker.pollOnce held batch) batch) {i : Nat}
    {command : ClaimedOutboxCommand} (hcommand : batch.commands[i]? = some command) :
    Settleable worker i command := by
  obtain ⟨-, result, hresult, -⟩ := h
  unfold OutboxWorker.pollOnce at hresult
  rw [Traced.result_bind] at hresult
  obtain ⟨last, hlast, -⟩ := bind_ok_iff.mp hresult
  have hsettles := exists_serveAll_iff.mp ⟨last, hlast⟩ i command hcommand
  rwa [Nat.zero_add] at hsettles

/-- **A poll settles each command of its batch once**, and returns counters that add up to the
selected rows, exactly when what each handler does can be settled. -/
theorem poll_settles_iff (worker : OutboxWorker) (held : Nat → Bool) (batch : OutboxClaimBatch) :
    SettlesEach (worker.pollOnce held batch) batch ↔
      ∀ i command, batch.commands[i]? = some command → Settleable worker i command := by
  constructor
  · exact fun h i command => settleable_of_settlesEach h
  · intro h
    have hsettles : ∀ i command, batch.commands[i]? = some command →
        Settleable worker (0 + i) command := by
      intro i command hcommand
      rw [Nat.zero_add]
      exact h i command hcommand
    obtain ⟨last, hlast⟩ : ∃ last, (worker.serveAll held 0
        { deadLettered := batch.expiredDeadLettered } batch.commands).result = .ok last :=
      exists_serveAll_iff.mpr hsettles
    obtain ⟨hcalls, htotal⟩ := serveAll_ok hlast
    have hstart : ({ deadLettered := batch.expiredDeadLettered } : PollCounts).total =
        batch.expiredDeadLettered := by
      simp only [PollCounts.total, Nat.zero_add, Nat.add_zero]
    have hsum : last.total = batch.selectedCount := by
      rw [htotal, hstart, batch.accounted, Nat.add_comm]
    have hvalid : PollFields.postInit
        { last with selected := batch.selectedCount, claimed := batch.commands.length } =
          .ok () := by
      have hclaimed : ¬batch.commands.length > batch.selectedCount := by
        rw [batch.accounted]
        omega
      exact (bind_of_ok (raiseIf_of_not _ hclaimed) _).trans
        (raiseIf_of_not _ (not_not.mpr hsum))
    refine ⟨?_, ⟨_, hvalid⟩, ?_, hsum⟩
    · unfold OutboxWorker.pollOnce
      rw [Traced.log_bind _ hlast, Traced.log_lift, List.append_nil]
      exact hcalls
    · unfold OutboxWorker.pollOnce
      rw [Traced.result_bind, hlast]
      exact construct_ok_iff.mpr ⟨hvalid, rfl⟩

end

/-! ## A reason cut at a blank -/

namespace CutReason

def claimedAt : Timestamp := LastAttempt.start

def expiry : Timestamp := LastAttempt.expiry

/-- A command on its only attempt. -/
def fields : ClaimFields where
  jobId := "01J00000000000000000000001"
  merchantId := "01J00000000000000000000002"
  aggregateType := "ACTION"
  aggregateId := "01J00000000000000000000003"
  commandType := "CREATE_PAYMENT_LINK"
  commandSchemaVersion := 1
  idempotencyKey := "create-payment-link:1"
  attemptCount := 1
  maxAttempts := 1
  workerId := "worker_1"
  leaseToken := "token:1"
  leaseExpiresAt := expiry
  deliveryVersion := 1
  retryMode := .normal
  createdAt := claimedAt
  claimedAt := claimedAt

def command : ClaimedOutboxCommand := ⟨fields, by decide⟩

/-- The 477th character is a blank, and one more follows. -/
def reason : String := String.ofList (List.replicate 476 'x' ++ [' ', 'x'])

theorem isCleanText_reason : isCleanText 500 reason = true := by
  unfold isCleanText reason
  rw [String.toList_ofList]
  decide +kernel

theorem cutAtBlank_reason : CutAtBlank reason := by
  unfold CutAtBlank reason
  rw [String.toList_ofList]
  decide +kernel

/-- The reason passes the checks of a handler result. -/
def answer : CheckedResult where
  result := .retry reason .reconcileOnly
  valid := (bind_of_ok (requireCleanText_of_clean isCleanText_reason) _).trans rfl

def worker : OutboxWorker where
  handlers _ := some fun _ _ => .returned answer

def batch : OutboxClaimBatch where
  selectedCount := 2
  commands := [command, command]
  expiredDeadLettered := 0
  accounted := rfl

/-- **A retry that the handler result accepts ends the poll**, although no lease is lost. -/
theorem poll_not_settled : ¬SettlesEach (worker.pollOnce (fun _ => true) batch) batch := by
  intro h
  have hsettles : Settleable worker 0 command := settleable_of_settlesEach h rfl
  exact (hsettles _ reason rfl rfl).2 ⟨le_refl 1, cutAtBlank_reason⟩

end CutReason

end Retrywise.ControlPlane
