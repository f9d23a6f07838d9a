import Retrywise.Foundation.Run

/-!
# A machine behind one exclusive lock

Transactions of many owners take turns on one state: the first command of a transaction
takes the lock and works on a copy of the committed state, later ones go on with the copy,
a commit puts the copy in the place of the committed state, and a rollback forgets it. A
command of somebody else waits while the lock is held: it is not accepted.

However they interleave, what is committed is what the plain machine would have reached
with the commands of the committed transactions alone, in the order of their commits.

> `serialized_run`: the steps of the committed transactions are a run of the plain machine,
> from the initial state to the committed one.
-/

namespace Retrywise.Foundation

variable {σ κ ω ε τ : Type}

/-- The transaction that has the lock: what it did so far, and where that led. -/
structure LockHolder (σ κ ω τ : Type) where
  owner : τ
  steps : List (Step σ κ ω)
  working : σ

structure LockState (σ κ ω τ : Type) where
  committed : σ
  holder : Option (LockHolder σ κ ω τ)

/-- Nobody has the lock. -/
def LockState.idle (committed : σ) : LockState σ κ ω τ := ⟨committed, none⟩

inductive LockCommand (κ τ : Type) where
  | perform (owner : τ) (command : κ)
  | commit (owner : τ)
  | rollback (owner : τ)

inductive LockOutput (σ κ ω : Type) where
  | performed (out : ω)
  | committed (steps : List (Step σ κ ω))
  | rolledBack

/-- What a commit made final. -/
def LockOutput.done : LockOutput σ κ ω → List (Step σ κ ω)
  | .committed steps => steps
  | .performed _ | .rolledBack => []

namespace Machine

variable [DecidableEq τ] (M : Machine σ κ ω ε) (waits idle : ε)

/-- The owner's next command, on the copy its transaction has made. -/
def performBy (w : LockState σ κ ω τ) (owner : τ) (command : κ) :
    Except ε (LockState σ κ ω τ × LockOutput σ κ ω) :=
  match w.holder with
  | none => do
    let (next, out) ← M.exec w.committed command
    return (⟨w.committed, some ⟨owner, [⟨w.committed, command, next, out⟩], next⟩⟩,
      .performed out)
  | some held =>
    if held.owner = owner then do
      let (next, out) ← M.exec held.working command
      return (⟨w.committed,
        some ⟨owner, held.steps ++ [⟨held.working, command, next, out⟩], next⟩⟩, .performed out)
    else .error waits

/-- The end of the owner's transaction. -/
def endBy (w : LockState σ κ ω τ) (owner : τ)
    (finish : LockHolder σ κ ω τ → LockState σ κ ω τ × LockOutput σ κ ω) :
    Except ε (LockState σ κ ω τ × LockOutput σ κ ω) :=
  match w.holder with
  | none => .error idle
  | some held => if held.owner = owner then .ok (finish held) else .error idle

/-- Transactions on the state of `M`, one at a time. -/
def serialized : Machine (LockState σ κ ω τ) (LockCommand κ τ) (LockOutput σ κ ω) ε where
  exec w
    | .perform owner command => M.performBy waits w owner command
    | .commit owner =>
      endBy idle w owner fun held => (⟨held.working, none⟩, .committed held.steps)
    | .rollback owner => endBy idle w owner fun _ => (⟨w.committed, none⟩, .rolledBack)

/-- The steps of the transactions that were committed, in the order of the commits. -/
def committedSteps (steps : List (Step (LockState σ κ ω τ) (LockCommand κ τ) (LockOutput σ κ ω))) :
    List (Step σ κ ω) :=
  steps.flatMap fun s => s.out.done

variable {M waits idle} {init : σ} {w : LockState σ κ ω τ}
  {s : Step (LockState σ κ ω τ) (LockCommand κ τ) (LockOutput σ κ ω)}
  {steps : List (Step (LockState σ κ ω τ) (LockCommand κ τ) (LockOutput σ κ ω))}

omit [DecidableEq τ] in
theorem committedSteps_concat :
    committedSteps (steps ++ [s]) = committedSteps steps ++ s.out.done := by
  rw [committedSteps, List.flatMap_append, List.flatMap_singleton, committedSteps]

theorem endBy_ok_iff {owner : τ}
    {finish : LockHolder σ κ ω τ → LockState σ κ ω τ × LockOutput σ κ ω}
    {next : LockState σ κ ω τ × LockOutput σ κ ω} :
    endBy idle w owner finish = .ok next ↔
      ∃ held, w.holder = some held ∧ held.owner = owner ∧ finish held = next := by
  unfold endBy
  cases hholder : w.holder with
  | none => simp
  | some held =>
    by_cases howner : held.owner = owner
    · simp [howner]
    · simp [howner]

/-- With nobody at the lock, a command that the plain machine accepts takes it. -/
theorem performBy_idle (waits : ε) {owner : τ} {command : κ} {next : σ} {out : ω}
    (hexec : M.exec init command = .ok (next, out)) :
    M.performBy waits (.idle init) owner command =
      .ok (⟨init, some ⟨owner, [⟨init, command, next, out⟩], next⟩⟩, .performed out) := by
  rw [performBy, LockState.idle]
  dsimp only
  rw [hexec]
  rfl

/-- The open transaction is a run that starts where the last commit ended. -/
def Follows (M : Machine σ κ ω ε) (w : LockState σ κ ω τ) : Prop :=
  ∀ held, w.holder = some held → M.Run w.committed held.steps held.working

omit [DecidableEq τ] in
/-- With nobody at the lock, there is no transaction to follow. -/
theorem follows_idle : M.Follows (.idle init : LockState σ κ ω τ) := by
  intro held hheld
  exact absurd hheld (by simp [LockState.idle])

/-- A command makes nothing final and keeps the open transaction a run. -/
theorem performBy_follows {owner : τ} {command : κ} {w next : LockState σ κ ω τ}
    {out : LockOutput σ κ ω}
    (h : M.performBy waits w owner command = .ok (next, out)) (hw : M.Follows w) :
    next.committed = w.committed ∧ out.done = [] ∧ M.Follows next := by
  unfold performBy at h
  cases hholder : w.holder with
  | none =>
    rw [hholder] at h
    obtain ⟨⟨reached, x⟩, hexec, hnext⟩ := bind_ok_iff.mp h
    rw [pure_ok_iff, Prod.mk.injEq] at hnext
    obtain ⟨rfl, rfl⟩ := hnext
    refine ⟨rfl, rfl, ?_⟩
    intro held hheld
    obtain rfl := Option.some.inj hheld
    have hstart : M.Run w.committed [] w.committed := Run.start
    exact hstart.next (s := ⟨w.committed, command, reached, x⟩) hexec
  | some held =>
    rw [hholder] at h
    dsimp only at h
    by_cases howner : held.owner = owner
    · rw [if_pos howner] at h
      obtain ⟨⟨reached, x⟩, hexec, hnext⟩ := bind_ok_iff.mp h
      rw [pure_ok_iff, Prod.mk.injEq] at hnext
      obtain ⟨rfl, rfl⟩ := hnext
      refine ⟨rfl, rfl, ?_⟩
      intro now hnow
      obtain rfl := Option.some.inj hnow
      exact Run.next (s := ⟨held.working, command, reached, x⟩) (hw held hholder) hexec
    · rw [if_neg howner] at h
      exact absurd h (by simp)

/-- One step of the transactions is what it made final, after what was. -/
theorem serialized_step (h : (M.serialized waits idle).Takes s) (hw : M.Follows s.pre) :
    M.Run s.pre.committed s.out.done s.post.committed ∧ M.Follows s.post := by
  obtain ⟨pre, cmd, post, out⟩ := s
  cases cmd with
  | perform owner command =>
    obtain ⟨hsame, hnone, hfollows⟩ := performBy_follows h hw
    refine ⟨?_, hfollows⟩
    show M.Run pre.committed out.done post.committed
    rw [hsame, hnone]
    exact Run.start
  | commit owner =>
    obtain ⟨held, hholder, -, hend⟩ := endBy_ok_iff.mp h
    obtain ⟨rfl, rfl⟩ := Prod.mk.inj hend
    exact ⟨hw held hholder, fun _ hnone => absurd hnone (by simp)⟩
  | rollback owner =>
    obtain ⟨held, -, -, hend⟩ := endBy_ok_iff.mp h
    obtain ⟨hpost, hout⟩ := Prod.mk.inj hend
    change LockOutput.rolledBack = out at hout
    change ⟨pre.committed, none⟩ = post at hpost
    subst hpost hout
    exact ⟨Run.start, fun _ hnone => absurd hnone (by simp)⟩

/-- Transactions that take turns reach what the committed ones reach alone. -/
theorem serialized_run (hrun : (M.serialized waits idle).Run (.idle init) steps w) :
    M.Run init (committedSteps steps) w.committed := by
  have hboth : M.Run init (committedSteps steps) w.committed ∧ M.Follows w := by
    refine Run.history (G := fun _ _ => True)
      (H := fun past now => M.Run init (committedSteps past) now.committed ∧ M.Follows now)
      ⟨Run.start, follows_idle⟩ ?_ hrun
      (along_iff_forall_mem.mpr fun _ _ => trivial)
    intro past s hpast hboth hstep _
    obtain ⟨hreached, hfollows⟩ := hboth
    obtain ⟨hdone, hkeeps⟩ := serialized_step hstep hfollows
    rw [committedSteps_concat]
    exact ⟨Run.append hreached hdone, hkeeps⟩
  exact hboth.1

end Machine

end Retrywise.Foundation
