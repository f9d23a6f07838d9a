import Retrywise.Simulator.Engine

/-!
# The virtual clock

`engine.py`, `VirtualClock`. Events are put on a queue, and come off it when the clock is set to
a later time. The clock reads what it was set to, and is never set back.

> `scheduleAll_ok_iff`: events can be scheduled if none of them is in the past.
-/

namespace Retrywise.Simulator

open Retrywise.Foundation Retrywise.Domain Retrywise.ControlPlane

/-- What `_run_case` can raise. -/
inductive EngineError where
  | decision (error : SimulationError)
  | value (message : String)
  | key (message : String)
  | index
deriving DecidableEq

/-! ## The queue -/

structure QueueItem where
  atMs : Int
  sequence : Nat
  event : ScenarioEvent

/-- The order of the queue: by time, and by the order of scheduling at one time. -/
def QueueItem.le (a b : QueueItem) : Bool :=
  decide (a.atMs < b.atMs) || (a.atMs = b.atMs && decide (a.sequence ≤ b.sequence))

structure VirtualClock where
  nowMs : Int := 0
  sequence : Nat := 0
  queue : List QueueItem := []

namespace VirtualClock

variable (clock : VirtualClock)

def schedule (atMs : Int) (event : ScenarioEvent) : Except EngineError VirtualClock :=
  if atMs < clock.nowMs then .error (.value "cannot schedule an event in the virtual past")
  else .ok { clock with
    sequence := clock.sequence + 1
    queue := clock.queue ++ [⟨atMs, clock.sequence + 1, event⟩] }

/-- `run_until`, and what it emits. -/
def runUntil (targetMs : Int) : Except EngineError (VirtualClock × List QueueItem) :=
  if targetMs < clock.nowMs then .error (.value "virtual time is monotonic")
  else
    let emitted := (clock.queue.filter fun item => item.atMs ≤ targetMs).mergeSort QueueItem.le
    let queue := clock.queue.filter fun item => targetMs < item.atMs
    .ok ({ clock with nowMs := targetMs, queue }, emitted)

/-- The loop of `_run_case` over the accepted events. -/
def scheduleAll : VirtualClock → List ScenarioEvent → Except EngineError VirtualClock
  | clock, [] => .ok clock
  | clock, event :: events =>
    match event.deliveredAtMs with
    | none => scheduleAll clock events
    | some atMs => do
      let clock ← clock.schedule atMs event
      scheduleAll clock events

end VirtualClock

/-! ## What can be played -/

namespace VirtualClock

variable {clock clock' : VirtualClock} {event : ScenarioEvent} {events : List ScenarioEvent}
  {atMs : Int}

theorem schedule_ok_iff :
    clock.schedule atMs event = .ok clock' ↔ clock.nowMs ≤ atMs ∧
      { clock with
        sequence := clock.sequence + 1
        queue := clock.queue ++ [⟨atMs, clock.sequence + 1, event⟩] } = clock' := by
  unfold schedule
  split
  next h =>
    constructor
    · intro hok
      exact absurd hok (by simp)
    · rintro ⟨hle, -⟩
      omega
  next h =>
    rw [Except.ok.injEq]
    constructor
    · intro heq
      exact ⟨not_lt.mp h, heq⟩
    · rintro ⟨-, heq⟩
      exact heq

theorem scheduleAll_nowMs (h : clock.scheduleAll events = .ok clock') :
    clock'.nowMs = clock.nowMs := by
  induction events generalizing clock with
  | nil =>
    rw [scheduleAll, Except.ok.injEq] at h
    rw [h]
  | cons event events ih =>
    rw [scheduleAll] at h
    cases hat : event.deliveredAtMs with
    | none =>
      rw [hat] at h
      exact ih h
    | some atMs =>
      rw [hat] at h
      obtain ⟨next, hnext, hrest⟩ := bind_ok_iff.mp h
      obtain ⟨-, rfl⟩ := schedule_ok_iff.mp hnext
      have hnow := ih hrest
      exact hnow

/-- **Events are scheduled if none of them is in the past.** -/
theorem scheduleAll_ok_iff :
    (∃ clock', clock.scheduleAll events = .ok clock') ↔
      ∀ event ∈ events, ∀ atMs, event.deliveredAtMs = some atMs → clock.nowMs ≤ atMs := by
  induction events generalizing clock with
  | nil =>
    constructor
    · intro _ event hmem
      exact absurd hmem List.not_mem_nil
    · intro _
      exact ⟨clock, rfl⟩
  | cons event events ih =>
    rw [List.forall_mem_cons]
    cases hat : event.deliveredAtMs with
    | none =>
      rw [scheduleAll, hat]
      show (∃ clock', clock.scheduleAll events = _) ↔ _
      rw [ih]
      constructor
      · intro h
        exact ⟨fun atMs heq => absurd heq (by simp), h⟩
      · rintro ⟨-, h⟩
        exact h
    | some delivered =>
      rw [scheduleAll, hat]
      -- the clock that has the event on its queue reads the same time
      have hlater := @ih ⟨clock.nowMs, clock.sequence + 1,
        clock.queue ++ [⟨delivered, clock.sequence + 1, event⟩]⟩
      simp only [bind_ok_iff]
      constructor
      · rintro ⟨final, next, hnext, hrest⟩
        obtain ⟨hle, rfl⟩ := schedule_ok_iff.mp hnext
        refine ⟨fun atMs heq => ?_, hlater.mp ⟨final, hrest⟩⟩
        rw [← Option.some.inj heq]
        exact hle
      · rintro ⟨hfirst, hrest⟩
        obtain ⟨final, hall⟩ := hlater.mpr hrest
        exact ⟨final, _, schedule_ok_iff.mpr ⟨hfirst delivered rfl, rfl⟩, hall⟩

theorem runUntil_ok_iff : (∃ played, clock.runUntil atMs = .ok played) ↔ clock.nowMs ≤ atMs := by
  unfold runUntil
  split
  next h =>
    constructor
    · rintro ⟨played, hok⟩
      exact absurd hok (by simp)
    · intro hle
      omega
  next h =>
    constructor
    · intro _
      exact not_lt.mp h
    · intro _
      exact ⟨_, rfl⟩

end VirtualClock

end Retrywise.Simulator
