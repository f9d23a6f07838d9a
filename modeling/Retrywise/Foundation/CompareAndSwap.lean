import Retrywise.Foundation.Run

/-!
# A machine behind compare-and-swap

A stored value that clients read whenever they like, work on where they are, and write back
only if its version is still the one they read. Between a read and its write any number of
other clients may have written. Where the machine makes the next version of whatever it
changes, an accepted write was worked out on the value it replaces (`takes_behind`), so what
is stored goes through a run of the machine itself (`run_behind`), and nothing a client did
on a value it had read before counts.
-/

namespace Retrywise.Foundation

universe u v w x

variable {σ : Type u} {κ : Type v} {ω : Type w} {ε : Type x}

/-- A stored value, and every value it replaced, the first one first. -/
structure Stored (σ : Type u) where
  current : σ
  replaced : List σ

/-- A command on the value that was stored at some time. -/
structure Attempt (κ : Type v) where
  read : Nat
  cmd : κ

/-- All values there were to read. -/
def Stored.values (s : Stored σ) : List σ := s.replaced ++ [s.current]

namespace Machine

/-- The machine, worked out on what was read and written if the version is still the same. -/
def swapped (M : Machine σ κ ω ε) (version : σ → Nat) (unread conflict : ε) :
    Machine (Stored σ) (Attempt κ) ω ε where
  exec s attempt :=
    match s.values[attempt.read]? with
    | none => .error unread
    | some seen =>
      match M.exec seen attempt.cmd with
      | .error e => .error e
      | .ok (next, out) =>
        if version seen = version s.current then .ok (⟨next, s.values⟩, out) else .error conflict

/-- What was stored before is older, or is what is stored now. -/
def Aged (version : σ → Nat) (s : Stored σ) : Prop :=
  ∀ seen ∈ s.replaced, version seen < version s.current ∨ seen = s.current

/-- The step of the machine that a step on the stored value is. -/
def behind (s : Step (Stored σ) (Attempt κ) ω) : Step σ κ ω :=
  ⟨s.pre.current, s.cmd.cmd, s.post.current, s.out⟩

variable {M : Machine σ κ ω ε} {version : σ → Nat} {unread conflict : ε}

/-- An accepted write is what the machine made of the value that was read. -/
theorem of_swapped {s next : Stored σ} {attempt : Attempt κ} {out : ω}
    (h : (M.swapped version unread conflict).exec s attempt = .ok (next, out)) :
    ∃ seen, s.values[attempt.read]? = some seen ∧
      M.exec seen attempt.cmd = .ok (next.current, out) ∧ version seen = version s.current ∧
      next.replaced = s.values := by
  unfold swapped at h
  dsimp only at h
  cases hread : s.values[attempt.read]? with
  | none =>
    rw [hread] at h
    exact absurd h (by simp)
  | some seen =>
    rw [hread] at h
    dsimp only at h
    cases hexec : M.exec seen attempt.cmd with
    | error e =>
      rw [hexec] at h
      exact absurd h (by simp)
    | ok reached =>
      rw [hexec] at h
      dsimp only at h
      by_cases hversion : version seen = version s.current
      · rw [if_pos hversion] at h
        obtain ⟨rfl, rfl⟩ := Prod.mk.inj (Except.ok.inj h)
        exact ⟨seen, rfl, hexec, hversion, rfl⟩
      · rw [if_neg hversion] at h
        exact absurd h (by simp)

/-- What is worked out on the current value is written. -/
theorem swapped_of_current {s : Stored σ} {read : Nat} {cmd : κ} {next : σ} {out : ω}
    (hread : s.values[read]? = some s.current) (hexec : M.exec s.current cmd = .ok (next, out)) :
    (M.swapped version unread conflict).exec s ⟨read, cmd⟩ = .ok (⟨next, s.values⟩, out) := by
  unfold swapped
  dsimp only
  rw [hread]
  dsimp only
  rw [hexec]
  exact if_pos rfl

/-- What is read with the current version is the current value. -/
theorem Aged.eq_of_version {s : Stored σ} (h : Aged version s) {seen : σ}
    (hmem : seen ∈ s.values) (hversion : version seen = version s.current) : seen = s.current := by
  rcases List.mem_append.mp hmem with hreplaced | hcurrent
  · rcases h seen hreplaced with holder | hsame
    · omega
    · exact hsame
  · exact List.mem_singleton.mp hcurrent

variable (hnext : ∀ s, M.Takes s → s.post = s.pre ∨ version s.post = version s.pre + 1)

include hnext

/-- **An accepted write was worked out on the value it replaces.** -/
theorem takes_behind {s : Step (Stored σ) (Attempt κ) ω} (h : Aged version s.pre)
    (htakes : (M.swapped version unread conflict).Takes s) :
    M.Takes (behind s) ∧ Aged version s.post := by
  obtain ⟨seen, hread, hexec, hversion, hreplaced⟩ := of_swapped htakes
  obtain rfl := h.eq_of_version (List.mem_of_getElem? hread) hversion
  have hbehind : M.Takes (behind s) := hexec
  refine ⟨hbehind, fun old hold => ?_⟩
  rw [hreplaced] at hold
  have hbefore : version old ≤ version s.pre.current ∧
      (version old < version s.pre.current ∨ old = s.pre.current) := by
    rcases List.mem_append.mp hold with holder | hcurrent
    · rcases h old holder with hlt | heq
      · exact ⟨Nat.le_of_lt hlt, .inl hlt⟩
      · exact ⟨Nat.le_of_eq (congrArg version heq), .inr heq⟩
    · rw [List.mem_singleton.mp hcurrent]
      exact ⟨Nat.le_refl _, .inr rfl⟩
  rcases hnext _ hbehind with hsame | hlater
  · have hsame : s.post.current = s.pre.current := hsame
    rw [hsame]
    exact hbefore.2
  · have hlater : version s.post.current = version s.pre.current + 1 := hlater
    left
    omega

/-- **What is stored goes through a run of the machine.** -/
theorem run_behind {init : σ} {steps : List (Step (Stored σ) (Attempt κ) ω)} {final : Stored σ}
    (hrun : (M.swapped version unread conflict).Run ⟨init, []⟩ steps final) :
    M.Run init (steps.map behind) final.current ∧ Aged version final := by
  induction hrun with
  | start => exact ⟨.start, fun seen hmem => absurd hmem List.not_mem_nil⟩
  | @next past s _ htakes ih =>
    obtain ⟨hpast, haged⟩ := ih
    obtain ⟨hbehind, hlater⟩ := takes_behind hnext haged htakes
    rw [List.map_append, List.map_singleton]
    exact ⟨hpast.next (s := behind s) hbehind, hlater⟩

end Machine

end Retrywise.Foundation
