import Retrywise.Foundation.Run
import Mathlib.Logic.Function.Basic

/-!
# Optimistic versioning

A machine whose commands name the version they were written for, and whose
accepted commands either leave the state alone or make the next version
(`Versioned`). Nothing else about the machine is needed for the two facts
concurrent clients rely on: of the commands written for one version at most one
changes the state (`changing_lt`), and a client that is behind changes nothing
(`Session.refused_of_stale`).

A `Session` is any interleaving of any number of clients: each reads the current
version when it likes, and submits commands written for the version it last
read. What the machine accepts of it is a run (`Session.run`), so every law of
runs is a law of sessions.
-/

namespace Retrywise.Foundation

universe u v w x y z

variable {σ : Type u} {κ : Type v} {ω : Type w} {ε : Type x}

/-- Optimistic versioning: an accepted command was written for the current
version, and changes nothing or makes the next one. -/
structure Versioned (M : Machine σ κ ω ε) where
  version : σ → Nat
  expected : κ → Int
  checked : ∀ s, M.Takes s → expected s.cmd = version s.pre
  same_or_next : ∀ s, M.Takes s → s.post = s.pre ∨ version s.post = version s.pre + 1

namespace Versioned

variable {M : Machine σ κ ω ε} (V : Versioned M) {init final : σ} {steps : List (Step σ κ ω)}

/-- The step makes the next version. -/
def Changes (s : Step σ κ ω) : Prop := V.version s.post = V.version s.pre + 1

theorem version_le_of_run (hrun : M.Run init steps final) :
    V.version init ≤ V.version final := by
  refine hrun.relates (R := fun a b => V.version a ≤ V.version b) (fun _ => Nat.le_refl _)
    (fun _ _ _ => Nat.le_trans) ?_
  intro s h
  rcases V.same_or_next s h with hsame | hnext
  · exact Nat.le_of_eq (by rw [hsame])
  · omega

/-- **At most one change per version**: after a command that changed the state,
every accepted command was written for a later version. -/
theorem changing_lt (hrun : M.Run init steps final) :
    steps.Pairwise fun e s => V.Changes e → V.expected e.cmd < V.expected s.cmd := by
  refine hrun.pairwise ?_
  intro past s hpast h earlier hmem hchanges
  obtain ⟨front, back, hsplit, -, htakes⟩ := hpast.of_mem hmem
  have hback := (hpast.cut front earlier back hsplit).2.2
  have hle := V.version_le_of_run hback
  rw [V.checked earlier htakes, V.checked s h]
  unfold Changes at hchanges
  omega

end Versioned

/-- An interleaving of clients: what each last read, and what the machine made of
their commands. `submit v c` is the command a client writes for version `v`. -/
inductive Session {ι : Type y} [DecidableEq ι] {θ : Type z} (M : Machine σ κ ω ε)
    (version : σ → Nat) (submit : Nat → θ → κ) (init : σ) :
    List (Step σ κ ω) → σ → (ι → Option Nat) → Prop
  | start : Session M version submit init [] init fun _ => none
  /-- A client reads the current version. -/
  | read {past : List (Step σ κ ω)} {a : σ} {seen : ι → Option Nat} (i : ι) :
      Session M version submit init past a seen →
      Session M version submit init past a (Function.update seen i (some (version a)))
  /-- A client's command is accepted. -/
  | accepted {past : List (Step σ κ ω)} {a b : σ} {seen : ι → Option Nat} {out : ω}
      (i : ι) (v : Nat) (c : θ) :
      Session M version submit init past a seen → seen i = some v →
      M.exec a (submit v c) = .ok (b, out) →
      Session M version submit init (past ++ [⟨a, submit v c, b, out⟩]) b seen
  /-- A client's command is refused. -/
  | refused {past : List (Step σ κ ω)} {a : σ} {seen : ι → Option Nat} {e : ε}
      (i : ι) (v : Nat) (c : θ) :
      Session M version submit init past a seen → seen i = some v →
      M.exec a (submit v c) = .error e →
      Session M version submit init past a seen

namespace Session

variable {ι : Type y} [DecidableEq ι] {θ : Type z} {M : Machine σ κ ω ε} {version : σ → Nat}
  {submit : Nat → θ → κ} {init a : σ} {past : List (Step σ κ ω)} {seen : ι → Option Nat}

/-- The accepted commands of a session are a run. -/
theorem run (h : Session M version submit init past a seen) : M.Run init past a := by
  induction h with
  | start => exact .start
  | read i _ ih => exact ih
  | accepted i v c _ _ hexec ih =>
    exact ih.next (s := ⟨_, submit v c, _, _⟩) hexec
  | refused i v c _ _ _ ih => exact ih

/-- A client that reads before each of its commands can take any run of commands
written for the current version; the others have seen nothing of it. -/
theorem extend {final : σ} {steps : List (Step σ κ ω)}
    (h : Session M version submit init past a seen) (i : ι) (hrun : M.Run a steps final)
    (hwritten : ∀ s ∈ steps, ∃ c, s.cmd = submit (version s.pre) c) :
    ∃ seen', Session M version submit init (past ++ steps) final seen' ∧
      ∀ j, j ≠ i → seen' j = seen j := by
  induction hrun with
  | start => exact ⟨seen, by rwa [List.append_nil], fun _ _ => rfl⟩
  | @next before s _ htakes ih =>
    obtain ⟨seen', hsession, hothers⟩ := ih fun e he => hwritten e (List.mem_append_left _ he)
    obtain ⟨c, hcmd⟩ := hwritten s (by simp)
    have hread := hsession.read i
    have hexec : M.exec s.pre (submit (version s.pre) c) = .ok (s.post, s.out) := hcmd ▸ htakes
    have hnext := hread.accepted i _ c (Function.update_self _ _ _) hexec
    refine ⟨Function.update seen' i (some (version s.pre)), ?_, ?_⟩
    · rw [← List.append_assoc, show s = ⟨s.pre, submit (version s.pre) c, s.post, s.out⟩ by
        rw [← hcmd]]
      exact hnext
    · intro j hj
      rw [Function.update_of_ne hj]
      exact hothers j hj

/-- No client is ahead of the state. -/
theorem seen_le (V : Versioned M) (h : Session M V.version submit init past a seen) {i : ι}
    {v : Nat} (hseen : seen i = some v) : v ≤ V.version a := by
  induction h generalizing v with
  | start => exact absurd hseen (by simp)
  | @read past a seen j _ ih =>
    by_cases hij : i = j
    · rw [hij, Function.update_self] at hseen
      exact Nat.le_of_eq (Option.some.inj hseen).symm
    · rw [Function.update_of_ne hij] at hseen
      exact ih hseen
  | @accepted past a b seen out j w c _ _ hexec ih =>
    have hle := ih hseen
    rcases V.same_or_next ⟨a, submit w c, b, out⟩ hexec with hsame | hnext
    · rw [show b = a from hsame]
      exact hle
    · have hnext : V.version b = V.version a + 1 := hnext
      omega
  | refused j w c _ _ _ ih => exact ih hseen

/-- **A client that is behind changes nothing**: its command is refused. -/
theorem refused_of_stale (V : Versioned M) {cmd : κ} (hstale : V.expected cmd < V.version a) :
    ∃ e, M.exec a cmd = .error e := by
  cases hexec : M.exec a cmd with
  | error e => exact ⟨e, rfl⟩
  | ok r =>
    have hchecked : V.expected cmd = V.version a := V.checked ⟨a, cmd, r.1, r.2⟩ hexec
    omega

end Session

end Retrywise.Foundation
