import Mathlib.Tactic.Common

/-!
# Exceptions: reading a successful call backwards

Fallible code is a chain of checks in `Except ε`. The proofs about it never
execute the chain: they read a *successful* result backwards, peeling off one
check at a time, and each check leaves what it established behind. The simp
lemmas `bind_ok_iff`, `pure_ok_iff`, `map_ok_iff` and `raiseIf_ok_iff` turn
`chain = .ok r` into the conjunction of everything the chain established; the
`_of_ok` / `_of_error` lemmas run it forwards where a call has to be shown to
return.
-/

namespace Retrywise.Foundation

universe u v

variable {ε : Type u} {α β : Type v}

/-- The statement `if c: raise e`. -/
def raiseIf (c : Prop) [Decidable c] (e : ε) : Except ε Unit :=
  if c then .error e else .ok ()

@[simp] theorem raiseIf_ok_iff {c : Prop} [Decidable c] {e : ε} {x : Unit} :
    raiseIf c e = .ok x ↔ ¬c := by
  by_cases hc : c
  · simp [raiseIf, hc]
  · simp [raiseIf, hc]

theorem raiseIf_of_not {c : Prop} [Decidable c] (e : ε) (h : ¬c) :
    raiseIf c e = .ok () := raiseIf_ok_iff.mpr h

theorem raiseIf_of {c : Prop} [Decidable c] (e : ε) (h : c) :
    raiseIf c e = .error e := if_pos h

/-- A check in front of a call is a branch. -/
theorem raiseIf_bind {α : Type} {c : Prop} [Decidable c] {e : ε} {next : Unit → Except ε α} :
    (raiseIf c e >>= next) = if c then .error e else next () := by
  by_cases h : c
  · rw [raiseIf_of e h, if_pos h]
    rfl
  · rw [raiseIf_of_not e h, if_neg h]
    rfl

theorem pure_eq_ok {x : α} : (pure x : Except ε α) = .ok x := rfl

theorem ite_ok_bind {c : Prop} [Decidable c] {x : α} {e : ε} {next : α → Except ε β} :
    ((if c then .ok x else .error e) >>= next) = if c then next x else .error e := by
  by_cases h : c
  · rw [if_pos h, if_pos h]
    rfl
  · rw [if_neg h, if_neg h]
    rfl

/-- A value that has to be there. -/
def someOr (value : Option α) (e : ε) : Except ε α :=
  match value with
  | none => .error e
  | some a => .ok a

@[simp] theorem someOr_ok_iff {value : Option α} {e : ε} {a : α} :
    someOr value e = .ok a ↔ value = some a := by
  cases value with
  | none => simp [someOr]
  | some b => simp [someOr]

/-- A sequence of two calls returns exactly when both do. -/
@[simp] theorem bind_ok_iff {call : Except ε α} {next : α → Except ε β} {r : β} :
    (call >>= next) = .ok r ↔ ∃ mid, call = .ok mid ∧ next mid = .ok r := by
  rcases call with e | mid
  · exact ⟨fun h => (nomatch h), fun ⟨_, h, _⟩ => (nomatch h)⟩
  · exact ⟨fun h => ⟨mid, rfl, h⟩, fun ⟨_, h, hr⟩ => by cases h; exact hr⟩

@[simp] theorem pure_ok_iff {x y : α} : (pure x : Except ε α) = .ok y ↔ x = y :=
  Except.ok.injEq x y ▸ Iff.rfl

@[simp] theorem map_ok_iff {call : Except ε α} {f : α → β} {r : β} :
    call.map f = .ok r ↔ ∃ mid, call = .ok mid ∧ f mid = r := by
  rcases call with e | mid
  · exact ⟨fun h => (nomatch h), fun ⟨_, h, _⟩ => (nomatch h)⟩
  · exact ⟨fun h => ⟨mid, rfl, Except.ok.inj h⟩, fun ⟨_, h, hr⟩ => by cases h; exact congrArg _ hr⟩

/-- A call whose exceptions are renamed returns what it returned before. -/
theorem mapError_ok_iff {φ : Type u} {rename : ε → φ} {call : Except ε α} {r : α} :
    call.mapError rename = .ok r ↔ call = .ok r := by
  cases call with
  | error e => exact ⟨nofun, nofun⟩
  | ok a => exact ⟨fun h => congrArg _ (Except.ok.inj h), fun h => congrArg _ (Except.ok.inj h)⟩

theorem map_bind_eq {γ : Type v} {call : Except ε α} {next : α → Except ε β} {f : β → γ} :
    (call >>= next).map f = call >>= fun a => (next a).map f := by
  cases call with
  | error e => rfl
  | ok a => rfl

/-- A call that returns, returns what is left of it without its exception. -/
theorem eq_ok_of_isSome {call : Except ε α} (otherwise : α) (h : call.toOption.isSome = true) :
    call = .ok (call.toOption.getD otherwise) := by
  cases call with
  | error e => exact absurd h (by simp [Except.toOption])
  | ok a => rfl

theorem toOption_eq_some_iff {call : Except ε α} {a : α} :
    call.toOption = some a ↔ call = .ok a := by
  cases call with
  | ok b => simp [Except.toOption]
  | error e => simp [Except.toOption]

theorem exists_ok_of_isSome {call : Except ε α} (h : call.toOption.isSome = true) :
    ∃ a, call = .ok a := by
  cases call with
  | error e => exact absurd h (by simp [Except.toOption])
  | ok a => exact ⟨a, rfl⟩

/-- Running on past a call that returns. -/
theorem bind_of_ok {call : Except ε α} {mid : α} (h : call = .ok mid)
    (next : α → Except ε β) : (call >>= next) = next mid := by
  rw [h]; rfl

/-- A call that raises ends the chain. -/
theorem bind_of_error {call : Except ε α} {e : ε} (h : call = .error e)
    (next : α → Except ε β) : (call >>= next) = .error e := by
  rw [h]; rfl

/-- The exceptions of a call are of one kind. -/
def RaisesOnly (kind : ε → Prop) (call : Except ε α) : Prop := ∀ e, call = .error e → kind e

theorem RaisesOnly.of_ok {kind : ε → Prop} {call : Except ε α} {a : α} (h : call = .ok a) :
    RaisesOnly kind call := by
  intro e he
  exact absurd (h.symm.trans he) (by simp)

theorem RaisesOnly.of_error {kind : ε → Prop} {call : Except ε α} {e : ε} (h : call = .error e)
    (hkind : kind e) : RaisesOnly kind call := by
  intro other hother
  obtain rfl := Except.error.inj (h.symm.trans hother)
  exact hkind

/-- A sequence of two calls raises what one of them does. -/
theorem RaisesOnly.bind {kind : ε → Prop} {call : Except ε α} {next : α → Except ε β}
    (hcall : RaisesOnly kind call) (hnext : ∀ a, call = .ok a → RaisesOnly kind (next a)) :
    RaisesOnly kind (call >>= next) := by
  intro e he
  cases call with
  | error raised =>
    obtain rfl := Except.error.inj he
    exact hcall raised rfl
  | ok a => exact hnext a rfl e he

theorem raisesOnly_raiseIf {kind : ε → Prop} {c : Prop} [Decidable c] {e : ε} (h : kind e) :
    RaisesOnly kind (raiseIf c e) := by
  by_cases hc : c
  · exact .of_error (raiseIf_of e hc) h
  · exact .of_ok (raiseIf_of_not e hc)

theorem raisesOnly_someOr {kind : ε → Prop} {value : Option α} {e : ε} (h : kind e) :
    RaisesOnly kind (someOr value e) := by
  cases value with
  | none => exact .of_error rfl h
  | some a => exact .of_ok rfl

/-- A call for every member of a list, where a call that returns has only one thing to
return. -/
theorem mapM_ok_iff {call : α → Except ε β} {value : α → β}
    (hvalue : ∀ a b, call a = .ok b → b = value a) {members : List α} {results : List β} :
    members.mapM call = .ok results ↔
      results = members.map value ∧ ∀ a ∈ members, call a = .ok (value a) := by
  induction members generalizing results with
  | nil =>
    rw [List.mapM_nil, pure_ok_iff, List.map_nil, eq_comm]
    simp
  | cons a rest ih =>
    simp only [List.mapM_cons, bind_ok_iff, pure_ok_iff, ih, List.map_cons, List.forall_mem_cons]
    constructor
    · intro h
      obtain ⟨b, hb, _, ⟨rfl, hrest⟩, rfl⟩ := h
      obtain rfl := hvalue a b hb
      exact ⟨rfl, hb, hrest⟩
    · intro h
      obtain ⟨rfl, ha, hrest⟩ := h
      exact ⟨value a, ha, rest.map value, ⟨rfl, hrest⟩, rfl⟩

/-! ## Constructors that check -/

/-- Build a value whose constructor checks its fields, or raise what it raises. -/
def construct {φ : Type u} {σ : Type v} (postInit : φ → Except ε Unit)
    (build : ∀ fields, postInit fields = .ok () → σ) (fields : φ) : Except ε σ :=
  match valid : postInit fields with
  | .error e => .error e
  | .ok _ => .ok (build fields valid)

theorem construct_ok_iff {φ : Type u} {σ : Type v} {postInit : φ → Except ε Unit}
    {build : ∀ fields, postInit fields = .ok () → σ} {fields : φ} {value : σ} :
    construct postInit build fields = .ok value ↔
      ∃ valid : postInit fields = .ok (), build fields valid = value := by
  unfold construct
  split
  next e hinvalid =>
    refine ⟨fun h => absurd h (by simp), fun h => ?_⟩
    obtain ⟨hvalid, -⟩ := h
    exact absurd (hinvalid.symm.trans hvalid) (by simp)
  next hvalid =>
    constructor
    · intro h
      exact ⟨hvalid, Except.ok.inj h⟩
    · intro h
      obtain ⟨_, hvalue⟩ := h
      exact congrArg _ hvalue

end Retrywise.Foundation
