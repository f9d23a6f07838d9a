import Retrywise.Foundation.Raise

/-!
# Calls that leave a trace

A fallible call with the log of what it did to the outside world. What was logged
stays when the call raises, and a call that raised does nothing more.

A property of a call speaks of the log up to its end, and of how it ended. It is proved
along the text of the call: the log of what came before is carried, and each statement
either ends the call or hands a longer log on.

> `ensures_bind`: what a sequence of two calls ensures is found by asking of the first
> that its end, and the log up to it, let the second ensure it.
-/

namespace Retrywise.Foundation

/-- A call, with what it did on its way. -/
structure Traced (ω ε α : Type) where
  log : List ω
  result : Except ε α

namespace Traced

variable {ω ε α β : Type}

instance : Monad (Traced ω ε) where
  pure a := ⟨[], .ok a⟩
  bind call next :=
    match call.result with
    | .error e => ⟨call.log, .error e⟩
    | .ok a => ⟨call.log ++ (next a).log, (next a).result⟩

/-- Log an event. -/
def note (event : ω) : Traced ω ε Unit := ⟨[event], .ok ()⟩

/-- A call that does nothing to be logged. -/
def lift (call : Except ε α) : Traced ω ε α := ⟨[], call⟩

/-! ## Without the log -/

@[simp] theorem result_pure (a : α) : (pure a : Traced ω ε α).result = .ok a := rfl

@[simp] theorem result_note (event : ω) : (note event : Traced ω ε Unit).result = .ok () := rfl

/-- Without its log, a sequence is the sequence of the results. -/
theorem result_bind (call : Traced ω ε α) (next : α → Traced ω ε β) :
    (call >>= next).result = call.result >>= fun a => (next a).result := by
  show (match call.result with
    | .error e => (⟨call.log, .error e⟩ : Traced ω ε β)
    | .ok a => ⟨call.log ++ (next a).log, (next a).result⟩).result = _
  cases call.result with
  | error e => rfl
  | ok a => rfl

@[simp] theorem result_note_bind (event : ω) (next : Unit → Traced ω ε β) :
    (note event >>= next).result = (next ()).result := rfl

@[simp] theorem result_lift_bind (call : Except ε α) (next : α → Traced ω ε β) :
    (lift call >>= next).result = call >>= fun a => (next a).result := result_bind _ _

/-- What a sequence logs when its first call returns. -/
theorem log_bind {call : Traced ω ε α} {a : α} (next : α → Traced ω ε β)
    (h : call.result = .ok a) : (call >>= next).log = call.log ++ (next a).log := by
  show (match call.result with
    | .error e => (⟨call.log, .error e⟩ : Traced ω ε β)
    | .ok a => ⟨call.log ++ (next a).log, (next a).result⟩).log = _
  rw [h]

@[simp] theorem log_note (event : ω) : (note event : Traced ω ε Unit).log = [event] := rfl

@[simp] theorem log_lift (call : Except ε α) : (lift call : Traced ω ε α).log = [] := rfl

/-! ## Along the text -/

/-- After this log, the call ends as `P` says. -/
def Ensures (before : List ω) (call : Traced ω ε α) (P : List ω → Except ε α → Prop) : Prop :=
  P (before ++ call.log) call.result

variable {before : List ω} {P : List ω → Except ε β → Prop}

theorem ensures_pure {b : β} (h : P before (.ok b)) : Ensures before (pure b) P := by
  show P (before ++ []) _
  rw [List.append_nil]
  exact h

theorem ensures_bind {call : Traced ω ε α} {next : α → Traced ω ε β}
    (h : Ensures before call fun log result =>
      match result with
      | .error e => P log (.error e)
      | .ok a => Ensures log (next a) P) :
    Ensures before (call >>= next) P := by
  unfold Ensures at h
  show P (before ++ (match call.result with
    | .error e => (⟨call.log, .error e⟩ : Traced ω ε β)
    | .ok a => ⟨call.log ++ (next a).log, (next a).result⟩).log) (match call.result with
    | .error e => (⟨call.log, .error e⟩ : Traced ω ε β)
    | .ok a => ⟨call.log ++ (next a).log, (next a).result⟩).result
  cases hresult : call.result with
  | error e =>
    rw [hresult] at h
    exact h
  | ok a =>
    rw [hresult] at h
    show P (before ++ (call.log ++ (next a).log)) (next a).result
    rw [← List.append_assoc]
    exact h

/-- What is logged is there from then on. -/
theorem ensures_note {event : ω} {next : Unit → Traced ω ε β}
    (h : Ensures (before ++ [event]) (next ()) P) : Ensures before (note event >>= next) P :=
  ensures_bind h

theorem ensures_lift {call : Except ε α} {next : α → Traced ω ε β}
    (herror : ∀ e, call = .error e → P before (.error e))
    (hok : ∀ a, call = .ok a → Ensures before (next a) P) :
    Ensures before (lift call >>= next) P := by
  cases call with
  | error e =>
    refine ensures_bind ?_
    show P (before ++ []) (.error e)
    rw [List.append_nil]
    exact herror e rfl
  | ok a =>
    refine ensures_bind ?_
    show Ensures (before ++ []) (next a) P
    rw [List.append_nil]
    exact hok a rfl

/-- What follows from what a call ensures is ensured too. -/
theorem Ensures.mono {call : Traced ω ε β} {Q : List ω → Except ε β → Prop}
    (h : Ensures before call P) (himp : ∀ log result, P log result → Q log result) :
    Ensures before call Q := himp _ _ h

end Traced

end Retrywise.Foundation
