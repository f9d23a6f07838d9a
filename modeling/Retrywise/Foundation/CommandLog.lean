import Mathlib.Data.List.Basic
import Mathlib.Data.List.Nodup
import Mathlib.Data.List.Range
import Mathlib.Data.List.Infix

/-!
# A register with a log of idempotent commands

A `Register` has a value and the log of the commands that set it. A command comes under a
key of the caller's choice: the first one under a key is recorded, with the next number,
and sets the value; the same command under the same key is answered with the record it
left; another command under that key is refused.

The value and the log agree (`Register.Agrees`) as long as every change goes through
`submit`.

> `submit_agrees`: a command that is answered keeps the numbers dense, the keys distinct and
> the value that of the last record.
-/

namespace Retrywise.Foundation

/-- One recorded command: its number, the key it came under, what it asked for, and what the
writer noted. -/
structure Record (κ ρ μ : Type) where
  number : Nat
  key : κ
  request : ρ
  mark : μ

structure Register (ν κ ρ μ : Type) where
  value : ν
  log : List (Record κ ρ μ)

namespace Register

variable {ν κ ρ μ : Type} {r : Register ν κ ρ μ} {valueOf : ρ → ν} {key : κ} {request : ρ}
  {mark : μ} {e : Record κ ρ μ} {next : Register ν κ ρ μ}

/-- One more than the largest number; one for an empty log. -/
def nextNumber (numbers : List Nat) : Nat := numbers.foldr max 0 + 1

variable [DecidableEq κ] [DecidableEq ρ]

/-- The register after a command, and the record that answers it; `none` where the key is
taken by another command. -/
def submit (valueOf : ρ → ν) (r : Register ν κ ρ μ) (key : κ) (request : ρ) (mark : μ) :
    Option (Register ν κ ρ μ × Record κ ρ μ) :=
  match r.log.find? fun e => e.key = key with
  | some e => if e.request = request then some (r, e) else none
  | none =>
    let e : Record κ ρ μ := ⟨nextNumber (r.log.map Record.number), key, request, mark⟩
    some (⟨valueOf request, r.log ++ [e]⟩, e)

/-- The numbers are dense from one, no key is there twice, and the value is the last
command's. -/
structure Agrees (valueOf : ρ → ν) (r : Register ν κ ρ μ) : Prop where
  numbers : r.log.map Record.number = List.range' 1 r.log.length
  keys : (r.log.map Record.key).Nodup
  value : ∀ e, r.log.getLast? = some e → r.value = valueOf e.request

/-! ## Numbers -/

theorem foldr_max_range' (n : Nat) : (List.range' 1 n).foldr max 0 = n := by
  induction n with
  | zero => rfl
  | succ n ih =>
    rw [List.range'_concat, List.foldr_append]
    have hbound : ∀ (l : List Nat) (a : Nat), l.foldr max a = max (l.foldr max 0) a := by
      intro l a
      induction l with
      | nil => simp
      | cons b l ihl => rw [List.foldr_cons, List.foldr_cons, ihl, max_assoc]
    rw [hbound, ih]
    simp only [List.foldr_cons, List.foldr_nil]
    omega

/-- In a dense log the next number is one more than there are records. -/
theorem nextNumber_range' (n : Nat) : nextNumber (List.range' 1 n) = n + 1 := by
  rw [nextNumber, foldr_max_range']

/-! ## One command -/

omit [DecidableEq κ] [DecidableEq ρ] in
theorem agrees_nil {value : ν} : Agrees valueOf (⟨value, []⟩ : Register ν κ ρ μ) where
  numbers := rfl
  keys := List.nodup_nil
  value := by
    intro e he
    exact absurd he (by simp)

/-- A command is answered with a record that was there, or with one it appends. -/
theorem submit_cases (h : submit valueOf r key request mark = some (next, e)) :
    (e ∈ r.log ∧ e.key = key ∧ e.request = request ∧ next = r) ∨
      ((∀ old ∈ r.log, old.key ≠ key) ∧
        e = ⟨nextNumber (r.log.map Record.number), key, request, mark⟩ ∧
        next = ⟨valueOf request, r.log ++ [e]⟩) := by
  unfold submit at h
  cases hfind : r.log.find? fun old => old.key = key with
  | some old =>
    rw [hfind] at h
    dsimp only at h
    by_cases hsame : old.request = request
    · rw [if_pos hsame, Option.some.injEq, Prod.mk.injEq] at h
      obtain ⟨rfl, rfl⟩ := h
      left
      exact ⟨List.mem_of_find?_eq_some hfind, by simpa using List.find?_some hfind, hsame, rfl⟩
    · rw [if_neg hsame] at h
      exact absurd h (by simp)
  | none =>
    rw [hfind] at h
    dsimp only at h
    rw [Option.some.injEq, Prod.mk.injEq] at h
    obtain ⟨hnext, he⟩ := h
    right
    refine ⟨?_, he.symm, ?_⟩
    · intro old hold
      simpa using List.find?_eq_none.mp hfind old hold
    · rw [← hnext, he]

/-- A command that is answered keeps the value and the log in agreement. -/
theorem submit_agrees (hr : r.Agrees valueOf)
    (h : submit valueOf r key request mark = some (next, e)) : next.Agrees valueOf := by
  rcases submit_cases h with ⟨-, -, -, rfl⟩ | ⟨hfresh, he, rfl⟩
  · exact hr
  · have hnumber : e.number = r.log.length + 1 := by
      rw [he]
      show nextNumber (r.log.map Record.number) = r.log.length + 1
      rw [hr.numbers, nextNumber_range']
    refine ⟨?_, ?_, ?_⟩
    · show (r.log ++ [e]).map Record.number = List.range' 1 (r.log ++ [e]).length
      rw [List.map_append, List.map_singleton, hr.numbers, hnumber, List.length_append,
        List.length_singleton, List.range'_concat]
      congr 2
      omega
    · show ((r.log ++ [e]).map Record.key).Nodup
      rw [List.map_append, List.map_singleton, List.nodup_append]
      refine ⟨hr.keys, List.nodup_singleton _, ?_⟩
      intro a ha b hb
      obtain ⟨old, hold, rfl⟩ := List.mem_map.mp ha
      rw [List.mem_singleton.mp hb, he]
      exact hfresh old hold
    · intro last hlast
      change (r.log ++ [e]).getLast? = some last at hlast
      rw [List.getLast?_append, List.getLast?_singleton, Option.some_or] at hlast
      obtain rfl := Option.some.inj hlast
      rw [he]

/-- The log only grows. -/
theorem submit_grows (h : submit valueOf r key request mark = some (next, e)) :
    r.log <+: next.log := by
  rcases submit_cases h with ⟨-, -, -, rfl⟩ | ⟨-, -, rfl⟩
  · exact List.prefix_rfl
  · exact List.prefix_append _ _

/-- The record that answers a command is in the log, under the command's key. -/
theorem submit_mem (h : submit valueOf r key request mark = some (next, e)) :
    e ∈ next.log ∧ e.key = key ∧ e.request = request := by
  rcases submit_cases h with ⟨hmem, hkey, hrequest, rfl⟩ | ⟨-, he, rfl⟩
  · exact ⟨hmem, hkey, hrequest⟩
  · refine ⟨List.mem_append_right _ List.mem_cons_self, ?_, ?_⟩
    · rw [he]
    · rw [he]

/-! ## Repeated commands -/

omit [DecidableEq ρ] in
/-- The record under a key is found. -/
theorem find?_of_mem (hkeys : (r.log.map Record.key).Nodup) (he : e ∈ r.log) :
    (r.log.find? fun old => old.key = e.key) = some e := by
  obtain ⟨before, after, hsplit⟩ := List.append_of_mem he
  rw [hsplit, List.map_append, List.map_cons, List.nodup_append] at hkeys
  obtain ⟨-, -, hapart⟩ := hkeys
  rw [hsplit, List.find?_append, List.find?_eq_none.mpr]
  · simp
  · intro old hold
    have hne := hapart _ (List.mem_map_of_mem hold) e.key List.mem_cons_self
    simpa using hne

end Register

end Retrywise.Foundation
