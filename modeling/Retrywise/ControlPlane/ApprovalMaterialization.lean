import Retrywise.ControlPlane.ApprovalRequest
import Retrywise.ControlPlane.ApprovalRuns

/-!
# Approvals: the job that carries one out

`approval_worker.py` between the requests of operators and the other writers: the job of an
approval is claimed under a lease, its handler probes, acts and probes again, and what it hands
back settles the row, unless the worker has crashed or its lease was lost before. Each of these
is a step of its own, so that anything may come between two of them.

> `Taken.moves`: no step takes a verdict back or returns a case to its approval.
-/

namespace Retrywise.ControlPlane

open Retrywise.Foundation Retrywise.Domain

/-! ## The probe -/

/-- `PostgresApprovalCompletionProbe.result`, where the database is reached. -/
def CaseBooks.completion (books : CaseBooks) (merchantId approvalId : String) :
    Except ApprovalError (Option String) :=
  match (Table.find ApprovalRecord.key approvalId books.approvals).filter fun a =>
    a.merchantId = merchantId with
  | none => .ok none
  | some approval =>
    if approval.verdict = .pending then .ok none
    else if approval.verdict = .approved then do
      let incomplete := .exception (.invalidValue "approved_action_materialization_incomplete")
      let action ← someOr (books.actions.find? fun a => a.merchantId = merchantId &&
        a.approvalId = some approvalId) incomplete
      let job ← someOr (books.jobs.find? fun j => j.merchantId = merchantId &&
        j.aggregateType = "ACTION" && j.aggregateId = action.id &&
        j.commandType = "CREATE_STANDARD_PAYMENT_LINK") incomplete
      return some ("approved:" ++ action.id ++ ":" ++ job.id)
    else .ok (some approval.verdict.value.toLower)

/-- A call of the probe. -/
def probeCompletion (failure : Option ControlPlaneError)
    (command : MaterializeApprovedActionCommand) (books : CaseBooks) :
    Except ApprovalError (Option String) := do
  connecting failure
  books.completion command.merchantId command.approvalId

/-! ## The handler -/

/-- Where a delivery is: before its probe, before its call of `act`, before its second probe,
with what its handler returns, or settled. -/
inductive ApprovalStage where
  | probing
  | acting
  | reprobing (otherwise : HandlerResult)
  | handed (result : HandlerResult)
  | closed

structure ApprovalDelivery where
  claim : ClaimFields
  payload : Json
  stage : ApprovalStage

def ApprovalDelivery.moved (d : ApprovalDelivery) (stage : ApprovalStage) : ApprovalDelivery :=
  { d with stage }

/-- What the handler returns. -/
def ApprovalStage.returns (result : HandlerResult) : ApprovalStage :=
  .handed result.orHandlerException

def freshTruthUnavailable : HandlerResult :=
  .retry "approval_fresh_truth_unavailable" .reconcileOnly

/-- The command of a claim, if it is what the claim says. -/
def materialization (claim : ClaimFields) (payload : Json) :
    Option MaterializeApprovedActionCommand :=
  match decodeMaterializeApprovedActionCommand payload claim.commandType
    claim.commandSchemaVersion with
  | .error _ => none
  | .ok command =>
    if claim.aggregateType ≠ "APPROVAL" ∨ claim.aggregateId ≠ command.approvalId ∨
      claim.merchantId ≠ command.merchantId ∨
      claim.idempotencyKey ≠ materializationKey command.approvalId then none
    else some command

/-- The call the handler makes. -/
def MaterializeApprovedActionCommand.call (command : MaterializeApprovedActionCommand) :
    ApprovalCall where
  merchantId := command.merchantId
  approvalId := command.approvalId
  operatorSubject := command.operatorSubject
  verdict := "APPROVED"
  reasonCode := command.reasonCode

/-- After the first probe. -/
def probed : Except ApprovalError (Option String) → ApprovalStage
  | .ok (some completed) => .returns (.succeeded completed)
  | .ok none => .acting
  | .error _ => .returns freshTruthUnavailable

def approvalConflict (reason : String) : HandlerResult :=
  .deadLetter (String.ofList (("approval_conflict:" ++ reason).toList.take 500))

/-- After the call of `act`. -/
def acted : Except ApprovalError ApprovalActionResult → ApprovalStage
  | .ok result =>
    let verdict := result.verdict.value.toLower
    .returns (.succeeded ("approval:" ++ result.approvalId ++ ":" ++ verdict ++ ":" ++
      result.actionId.getD verdict))
  | .error (.notFound _) => .reprobing (.deadLetter "approval_no_longer_exists")
  | .error (.conflict reason) =>
    if reason = "approval_state_changed" then .reprobing (approvalConflict reason)
    else .returns (approvalConflict reason)
  | .error (.exception _) => .returns freshTruthUnavailable

/-- After the second probe. -/
def reprobed (otherwise : HandlerResult) : Except ApprovalError (Option String) → ApprovalStage
  | .ok (some completed) => .returns (.succeeded completed)
  | _ => .returns otherwise

/-- What a probe makes of a delivery that is to probe. -/
def ApprovalDelivery.probe (d : ApprovalDelivery) (failure : Option ControlPlaneError)
    (books : CaseBooks) : Option ApprovalStage :=
  match d.stage, materialization d.claim d.payload with
  | .probing, none => some (.returns (.deadLetter "invalid_approval_materialization_command"))
  | .probing, some command => some (probed (probeCompletion failure command books))
  | .reprobing otherwise, some command =>
    some (reprobed otherwise (probeCompletion failure command books))
  | _, _ => none

/-! ## The world -/

/-- The job is one of an approval. -/
def JobRecord.isMaterialization (j : JobRecord) : Bool :=
  "materialize-approved-action:".toList.isPrefixOf j.idempotencyKey.toList

/-- The primary key. -/
def JobRecord.key (j : JobRecord) : String := j.id

def JobRecord.withRow (j : JobRecord) (row : OutboxRow) : JobRecord :=
  { j with toOutboxRow := row }

structure ApprovalWorld where
  books : CaseBooks
  now : Timestamp
  deliveries : List ApprovalDelivery

/-- The operators, the workers and the other writers. -/
inductive MaterializationCommand where
  | write (command : ApprovalCommand)
  | request (call : ApprovalRequestCall) (met : ApprovalRequestCircumstances)
  | claim (jobId : String) (terms : ClaimTerms)
  | probe (i : Nat) (failure : Option ControlPlaneError)
  | act (i : Nat) (met : ApprovalCircumstances) (seen stale : CaseBooks)
  | settle (i : Nat)

/-- What a request returns. -/
abbrev RequestReturn := Option (Except ApprovalError ApprovalRequestResult)

/-- The other writers leave the jobs of approvals alone. -/
def ApprovalCommand.besides (books : CaseBooks) : ApprovalCommand → ApprovalCommand
  | .writeOthers others =>
    .writeOthers (others.setJobs ((others.jobs.filter fun j => !j.isMaterialization) ++
      books.jobs.filter JobRecord.isMaterialization))
  | command => command

structure MaterializationSystem where
  services : ApprovalServices
  backoff : BackoffPolicy

namespace MaterializationSystem

variable [Hashlib] (system : MaterializationSystem)

omit [Hashlib] in
/-- `claim_batch`, as far as one job is concerned: the jobs, and the delivery that starts. -/
def claim (jobs : List JobRecord) (now : Timestamp) (jobId : String) (terms : ClaimTerms) :
    Except ControlPlaneError (List JobRecord × List ApprovalDelivery) := do
  terms.check
  let job ← someOr ((Table.find JobRecord.key jobId jobs).filter fun j =>
    j.isMaterialization && j.claimable now) (.invalidValue "the row is not due")
  let expiresAt ← liftDomain (shift now terms.leaseDuration)
  let claimed := job.withRow (job.claimed terms now expiresAt)
  match claimed.claimedCommand with
  | .ok claim =>
    return (Table.put JobRecord.key claimed jobs,
      [⟨claim.toClaimFields, claimed.commandPayload, .probing⟩])
  | .error _ => return (Table.put JobRecord.key claimed jobs, [])

omit [Hashlib] in
/-- The jobs after a settlement; a fence that is lost leaves them as they were. -/
def settledJobs (jobs : List JobRecord) (now : Timestamp) (claim : ClaimFields)
    (result : HandlerResult) : List JobRecord :=
  match Table.find JobRecord.key claim.jobId jobs with
  | none => jobs
  | some job =>
    match job.settle system.backoff claim now result with
    | .ok row => Table.put JobRecord.key (job.withRow row) jobs
    | .error _ => jobs

/-- One command: the books, the deliveries and what a request returns. -/
def apply (world : ApprovalWorld) (now : Timestamp) :
    MaterializationCommand →
      Except ControlPlaneError (CaseBooks × List ApprovalDelivery × RequestReturn)
  | .write command => do
    let (books, _) ← approvalExec system.services world.books (command.besides world.books)
    raiseIf (¬(books.jobs.map JobRecord.key).Nodup) (.database "duplicate key")
    return (books, world.deliveries, none)
  | .request call met =>
    let reached := actOnApproval call met world.books
    .ok (reached.1, world.deliveries, some reached.2)
  | .claim jobId terms => do
    let (jobs, started) ← claim world.books.jobs now jobId terms
    return (world.books.setJobs jobs, world.deliveries ++ started, none)
  | .probe i failure => do
    let d ← someOr world.deliveries[i]? (.invalidValue "no such delivery")
    let stage ← someOr (d.probe failure world.books) (.invalidValue "it is at another stage")
    return (world.books, world.deliveries.set i (d.moved stage), none)
  | .act i met seen stale => do
    let d ← someOr world.deliveries[i]? (.invalidValue "no such delivery")
    match d.stage, materialization d.claim d.payload with
    | .acting, some command =>
      let reached := system.services.approvals.act command.call met stale seen world.books
      return (reached.1, world.deliveries.set i (d.moved (acted reached.2)), none)
    | _, _ => .error (.invalidValue "it is at another stage")
  | .settle i => do
    let d ← someOr world.deliveries[i]? (.invalidValue "no such delivery")
    match d.stage with
    | .handed result =>
      return (world.books.setJobs (system.settledJobs world.books.jobs now d.claim result),
        world.deliveries.set i (d.moved .closed), none)
    | _ => .error (.invalidValue "it is at another stage")

def exec (world : ApprovalWorld) (command : Timestamp × MaterializationCommand) :
    Except ControlPlaneError (ApprovalWorld × RequestReturn) := do
  raiseIf (command.1 < world.now) (.invalidValue "the clock does not go back")
  let (books, deliveries, returned) ← system.apply world command.1 command.2
  return (⟨books, command.1, deliveries⟩, returned)

def machine : Machine ApprovalWorld (Timestamp × MaterializationCommand) RequestReturn
    ControlPlaneError where
  exec := system.exec

end MaterializationSystem

/-- A step of the world. -/
abbrev MaterializationStep :=
  Step ApprovalWorld (Timestamp × MaterializationCommand) RequestReturn

/-! ## What a step can do -/

variable [Hashlib] in
/-- What a command makes of the books and of the deliveries. -/
inductive Taken (system : MaterializationSystem) (world : ApprovalWorld) (now : Timestamp) :
    MaterializationCommand → CaseBooks → List ApprovalDelivery → Prop
  | write {command : ApprovalCommand} {books : CaseBooks} {out : ApprovalReturn}
      (hexec : approvalExec system.services world.books (command.besides world.books) =
        .ok (books, out))
      (hkeyed : Table.Keyed JobRecord.key books.jobs) :
      Taken system world now (.write command) books world.deliveries
  | request {call : ApprovalRequestCall} {met : ApprovalRequestCircumstances} :
      Taken system world now (.request call met) (actOnApproval call met world.books).1
        world.deliveries
  | claim {jobId : String} {terms : ClaimTerms} {job : JobRecord} {expiresAt : Timestamp}
      {started : List ApprovalDelivery}
      (hjob : Table.find JobRecord.key jobId world.books.jobs = some job)
      (happroval : job.isMaterialization = true) (hdue : job.claimable now = true)
      (hstarted : ∀ d ∈ started, ∃ claim : ClaimedOutboxCommand,
        (job.claimed terms now expiresAt).claimedCommand = .ok claim ∧
          d = ⟨claim.toClaimFields, job.commandPayload, .probing⟩) :
      Taken system world now (.claim jobId terms)
        (world.books.setJobs (Table.put JobRecord.key
          (job.withRow (job.claimed terms now expiresAt)) world.books.jobs))
        (world.deliveries ++ started)
  | probe {i : Nat} {failure : Option ControlPlaneError} {d : ApprovalDelivery}
      {stage : ApprovalStage} (hd : world.deliveries[i]? = some d)
      (hstage : d.probe failure world.books = some stage) :
      Taken system world now (.probe i failure) world.books
        (world.deliveries.set i (d.moved stage))
  | act {i : Nat} {met : ApprovalCircumstances} {seen stale : CaseBooks} {d : ApprovalDelivery}
      {command : MaterializeApprovedActionCommand} (hd : world.deliveries[i]? = some d)
      (hacting : d.stage = .acting)
      (hcommand : materialization d.claim d.payload = some command) :
      Taken system world now (.act i met seen stale)
        (system.services.approvals.act command.call met stale seen world.books).1
        (world.deliveries.set i (d.moved
          (acted (system.services.approvals.act command.call met stale seen world.books).2)))
  | settle {i : Nat} {d : ApprovalDelivery} {result : HandlerResult}
      (hd : world.deliveries[i]? = some d) (hhanded : d.stage = .handed result) :
      Taken system world now (.settle i)
        (world.books.setJobs (system.settledJobs world.books.jobs now d.claim result))
        (world.deliveries.set i (d.moved .closed))

section

variable [Hashlib] {system : MaterializationSystem} {s : MaterializationStep}

omit [Hashlib] in
theorem claim_ok {jobs changed : List JobRecord} {started : List ApprovalDelivery}
    {now : Timestamp} {jobId : String} {terms : ClaimTerms}
    (h : MaterializationSystem.claim jobs now jobId terms = .ok (changed, started)) :
    ∃ job expiresAt, Table.find JobRecord.key jobId jobs = some job ∧
      job.isMaterialization = true ∧ job.claimable now = true ∧
      changed = Table.put JobRecord.key (job.withRow (job.claimed terms now expiresAt)) jobs ∧
      ∀ d ∈ started, ∃ claim : ClaimedOutboxCommand,
        (job.claimed terms now expiresAt).claimedCommand = .ok claim ∧
          d = ⟨claim.toClaimFields, job.commandPayload, .probing⟩ := by
  unfold MaterializationSystem.claim at h
  obtain ⟨_, -, h⟩ := bind_ok_iff.mp h
  obtain ⟨job, hjob, h⟩ := bind_ok_iff.mp h
  obtain ⟨expiresAt, -, h⟩ := bind_ok_iff.mp h
  rw [someOr_ok_iff, Option.filter_eq_some_iff, Bool.and_eq_true] at hjob
  obtain ⟨hfound, happroval, hdue⟩ := hjob
  refine ⟨job, expiresAt, hfound, happroval, hdue, ?_⟩
  dsimp only at h
  split at h
  next claim hclaim =>
    obtain ⟨rfl, rfl⟩ := Prod.mk.inj (pure_ok_iff.mp h)
    refine ⟨rfl, fun d hd => ⟨claim, hclaim, ?_⟩⟩
    rw [List.mem_singleton.mp hd]
    rfl
  next =>
    obtain ⟨rfl, rfl⟩ := Prod.mk.inj (pure_ok_iff.mp h)
    exact ⟨rfl, fun d hd => absurd hd List.not_mem_nil⟩

theorem taken_of_takes (hs : system.machine.Takes s) :
    s.pre.now ≤ s.cmd.1 ∧ ∃ books deliveries,
      Taken system s.pre s.cmd.1 s.cmd.2 books deliveries ∧
        s.post = ⟨books, s.cmd.1, deliveries⟩ := by
  obtain ⟨pre, ⟨now, cmd⟩, post, out⟩ := s
  change system.exec pre (now, cmd) = .ok (post, out) at hs
  unfold MaterializationSystem.exec at hs
  obtain ⟨_, hclock, hs⟩ := bind_ok_iff.mp hs
  obtain ⟨⟨books, deliveries, returned⟩, happly, hs⟩ := bind_ok_iff.mp hs
  obtain ⟨rfl, rfl⟩ := Prod.mk.inj (pure_ok_iff.mp hs)
  refine ⟨not_lt.mp (raiseIf_ok_iff.mp hclock), books, deliveries, ?_, rfl⟩
  cases cmd with
  | write command =>
    obtain ⟨⟨written, out⟩, hexec, happly⟩ := bind_ok_iff.mp happly
    obtain ⟨_, hkeyed, happly⟩ := bind_ok_iff.mp happly
    obtain ⟨rfl, hrest⟩ := Prod.mk.inj (pure_ok_iff.mp happly)
    obtain ⟨rfl, -⟩ := Prod.mk.inj hrest
    have hnodup : (written.jobs.map JobRecord.key).Nodup :=
      not_not.mp (raiseIf_ok_iff.mp hkeyed)
    exact .write hexec hnodup
  | request call met =>
    obtain ⟨rfl, hrest⟩ := Prod.mk.inj (Except.ok.inj happly)
    obtain ⟨rfl, -⟩ := Prod.mk.inj hrest
    exact .request
  | claim jobId terms =>
    obtain ⟨⟨jobs, started⟩, hclaim, happly⟩ := bind_ok_iff.mp happly
    obtain ⟨rfl, hrest⟩ := Prod.mk.inj (pure_ok_iff.mp happly)
    obtain ⟨rfl, -⟩ := Prod.mk.inj hrest
    obtain ⟨job, expiresAt, hjob, happroval, hdue, rfl, hstarted⟩ := claim_ok hclaim
    exact .claim hjob happroval hdue hstarted
  | probe i failure =>
    obtain ⟨d, hd, happly⟩ := bind_ok_iff.mp happly
    obtain ⟨stage, hstage, happly⟩ := bind_ok_iff.mp happly
    obtain ⟨rfl, hrest⟩ := Prod.mk.inj (pure_ok_iff.mp happly)
    obtain ⟨rfl, -⟩ := Prod.mk.inj hrest
    exact .probe (someOr_ok_iff.mp hd) (someOr_ok_iff.mp hstage)
  | act i met seen stale =>
    obtain ⟨d, hd, happly⟩ := bind_ok_iff.mp happly
    split at happly
    next command hacting hcommand =>
      obtain ⟨rfl, hrest⟩ := Prod.mk.inj (pure_ok_iff.mp happly)
      obtain ⟨rfl, -⟩ := Prod.mk.inj hrest
      exact .act (someOr_ok_iff.mp hd) hacting hcommand
    next => exact absurd happly (by simp)
  | settle i =>
    obtain ⟨d, hd, happly⟩ := bind_ok_iff.mp happly
    split at happly
    next result hhanded =>
      obtain ⟨rfl, hrest⟩ := Prod.mk.inj (pure_ok_iff.mp happly)
      obtain ⟨rfl, -⟩ := Prod.mk.inj hrest
      exact .settle (someOr_ok_iff.mp hd) hhanded
    next => exact absurd happly (by simp)

omit [Hashlib] in
/-- The approvals and the cases a request writes. -/
theorem moves_of_requested {call : ApprovalRequestCall} {met : ApprovalRequestCircumstances}
    {books after : CaseBooks} (h : Requested call met books after) :
    ApprovalsMove books after ∧ CasesMove books after := by
  cases h with
  | nothing => exact ⟨.same rfl, .same rfl⟩
  | @closed _ _ _ closed hold hadmits hdecided hcase hstate =>
    have hleft : closed.state ∉ assessmentStates := by
      rw [hstate]
      decide
    exact ⟨.written hold hadmits rfl, .moved hcase (.inl hleft) rfl⟩
  | queued => exact ⟨.same rfl, .same rfl⟩

theorem Taken.moves {world : ApprovalWorld} {now : Timestamp} {command : MaterializationCommand}
    {books : CaseBooks} {deliveries : List ApprovalDelivery}
    (h : Taken system world now command books deliveries) :
    ApprovalsMove world.books books ∧ CasesMove world.books books := by
  cases h with
  | @write command _ out hexec =>
    let s : ApprovalStep := ⟨world.books, command.besides world.books, books, out⟩
    have hs : (approvalMachine system.services).Takes s := hexec
    exact moves_step hs
  | request => exact moves_of_requested (requested_of_act rfl)
  | claim => exact ⟨.same rfl, .same rfl⟩
  | probe => exact ⟨.same rfl, .same rfl⟩
  | act => exact moves_of_act (Prod.eta _)
  | settle => exact ⟨.same rfl, .same rfl⟩

end

end Retrywise.ControlPlane
