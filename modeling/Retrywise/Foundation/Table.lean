import Retrywise.Foundation.Raise
import Mathlib.Algebra.GroupWithZero.Nat
import Mathlib.Data.List.Basic
import Mathlib.Data.List.Nodup

/-!
# Keyed tables

A table is the list of its rows, and a key tells the rows apart (`Keyed`). A statement
changes a table in one way only: it puts a row in the place of the one with its key
(`put`), and it does so where that row is one it matches and the table admits the change
(`update`).

What is read out of a table afterwards is what was read before, with the new row in the
place of the old one: its search (`find?_put`) and its selections (`filter_put`).
-/

namespace Retrywise.Foundation.Table

universe u v w

variable {ρ : Type u} {κ : Type v} [DecidableEq κ] {ε : Type w} (key : ρ → κ)

/-- The row of a key. -/
def find (k : κ) (rows : List ρ) : Option ρ := rows.find? fun row => key row = k

/-- No key is there twice. -/
def Keyed (rows : List ρ) : Prop := (rows.map key).Nodup

/-- `row`, in the place of what has its key. -/
def put (row : ρ) (rows : List ρ) : List ρ :=
  rows.map fun old => if key old = key row then row else old

/-- The sum of an amount over a selection of the rows. -/
def total (selected : ρ → Bool) (amount : ρ → Nat) (rows : List ρ) : Nat :=
  ((rows.filter selected).map amount).sum

/-- An `UPDATE` of the row of a key; `none` where no row matches. -/
def update (k : κ) (applies : ρ → Bool) (assign : ρ → ρ) (admits : ρ → ρ → Bool) (refused : ε)
    (rows : List ρ) : Except ε (Option (List ρ)) :=
  match find key k rows with
  | none => .ok none
  | some row =>
    if applies row then
      if admits row (assign row) then .ok (some (put key (assign row) rows)) else .error refused
    else .ok none

/-- An `UPDATE` that has to match. -/
def updateOne (k : κ) (applies : ρ → Bool) (assign : ρ → ρ) (admits : ρ → ρ → Bool)
    (unmatched refused : ε) (rows : List ρ) : Except ε (List ρ) := do
  let changed ← update key k applies assign admits refused rows
  someOr changed unmatched

variable {key} {k : κ} {row old : ρ} {rows changed : List ρ}

/-! ## The row of a key -/

theorem mem_of_find (h : find key k rows = some row) : row ∈ rows :=
  List.mem_of_find?_eq_some h

theorem key_of_find (h : find key k rows = some row) : key row = k := by
  simpa using List.find?_some h

/-- In a keyed table a row is found under its key. -/
theorem find_of_mem (hkeyed : Keyed key rows) (h : row ∈ rows) :
    find key (key row) rows = some row := by
  induction rows with
  | nil => exact absurd h List.not_mem_nil
  | cons first rest ih =>
    rw [Keyed, List.map_cons, List.nodup_cons] at hkeyed
    rw [find, List.find?_cons]
    rcases List.mem_cons.mp h with rfl | hrest
    · simp
    · have hne : key first ≠ key row := by
        intro heq
        exact hkeyed.1 (heq ▸ List.mem_map_of_mem hrest)
      rw [decide_eq_false hne]
      exact ih hkeyed.2 hrest

/-- Two rows of one key are one row. -/
theorem Keyed.eq_of_key {other : ρ} (hkeyed : Keyed key rows) (hrow : row ∈ rows)
    (hother : other ∈ rows) (h : key row = key other) : row = other := by
  have hfound := find_of_mem hkeyed hrow
  rw [h, find_of_mem hkeyed hother] at hfound
  exact (Option.some.inj hfound).symm

/-! ## What is read after a row is replaced -/

@[simp] theorem map_key_put (row : ρ) (rows : List ρ) :
    (put key row rows).map key = rows.map key := by
  rw [put, List.map_map]
  apply List.map_congr_left
  intro old _
  by_cases h : key old = key row
  · simp [h]
  · simp [h]

theorem keyed_put (h : Keyed key rows) : Keyed key (put key row rows) := by
  rw [Keyed, map_key_put]
  exact h

omit [DecidableEq κ] in
/-- A row of a new key at the end of a keyed table. -/
theorem keyed_concat (h : Keyed key rows) (hnew : ∀ old ∈ rows, key old ≠ key row) :
    Keyed key (rows ++ [row]) := by
  rw [Keyed, List.map_append, List.map_singleton, List.nodup_append]
  refine ⟨h, List.nodup_singleton _, ?_⟩
  intro k hk last hlast
  obtain ⟨old, hold, rfl⟩ := List.mem_map.mp hk
  rw [List.mem_singleton.mp hlast]
  exact hnew old hold

/-- A row that is replaced by itself. -/
theorem put_of_find (hkeyed : Keyed key rows) (h : find key k rows = some row) :
    put key row rows = rows := by
  conv_rhs => rw [← List.map_id rows]
  apply List.map_congr_left
  intro other hother
  by_cases hkey : key other = key row
  · rw [if_pos hkey, hkeyed.eq_of_key hother (mem_of_find h) hkey]
    rfl
  · rw [if_neg hkey]
    rfl

/-- A row of the table afterwards is the new one, or an old one of another key. -/
theorem mem_put {new : ρ} (h : new ∈ put key row rows) :
    new = row ∨ new ∈ rows ∧ key new ≠ key row := by
  obtain ⟨old, hold, heq⟩ := List.mem_map.mp h
  by_cases hkey : key old = key row
  · rw [if_pos hkey] at heq
    exact .inl heq.symm
  · rw [if_neg hkey] at heq
    exact .inr ⟨heq ▸ hold, heq ▸ hkey⟩

/-- The new row is there when there was one to replace. -/
theorem mem_put_self (h : old ∈ rows) (hkey : key old = key row) : row ∈ put key row rows :=
  List.mem_map.mpr ⟨old, h, if_pos hkey⟩

theorem mem_put_of_ne (h : old ∈ rows) (hkey : key old ≠ key row) : old ∈ put key row rows :=
  List.mem_map.mpr ⟨old, h, if_neg hkey⟩

/-- A search that does not tell the new row from the old one finds the same place. -/
theorem find?_put {sought : ρ → Bool}
    (hsame : ∀ old ∈ rows, key old = key row → sought old = sought row) :
    (put key row rows).find? sought =
      (rows.find? sought).map fun old => if key old = key row then row else old := by
  rw [put, List.find?_map]
  congr 1
  induction rows with
  | nil => rfl
  | cons first rest ih =>
    have hfirst : (sought ∘ fun old => if key old = key row then row else old) first =
        sought first := by
      by_cases hkey : key first = key row
      · simp [hkey, hsame first List.mem_cons_self hkey]
      · simp [hkey]
    rw [List.find?_cons, List.find?_cons, hfirst, ih fun old hold =>
      hsame old (List.mem_cons_of_mem _ hold)]

/-- What is computed row by row after a row is replaced, in terms of the rows before. -/
theorem map_put {β : Type*} {f g : ρ → β} (hkeyed : Keyed key rows) (hold : old ∈ rows)
    (hkey : key row = key old) (hrow : f row = g old)
    (hrest : ∀ other ∈ rows, other ≠ old → f other = g other) :
    (put key row rows).map f = rows.map g := by
  rw [put, List.map_map]
  apply List.map_congr_left
  intro other hother
  show f (if key other = key row then row else other) = g other
  by_cases heq : other = old
  · rw [heq, if_pos hkey.symm, hrow]
  · have hne : key other ≠ key row := by
      intro h
      exact heq (hkeyed.eq_of_key hother hold (h.trans hkey))
    rw [if_neg hne, hrest other hother heq]

omit [DecidableEq κ] in
/-- The other rows of a keyed table have other keys. -/
theorem Keyed.ne_of_split {front rest : List ρ} (hkeyed : Keyed key (front ++ old :: rest)) :
    ∀ other ∈ front ++ rest, key other ≠ key old := by
  rw [Keyed, List.map_append, List.map_cons, List.nodup_middle, List.nodup_cons] at hkeyed
  intro other hother heq
  refine hkeyed.1 ?_
  rw [← List.map_append, ← heq]
  exact List.mem_map_of_mem hother

/-- A row that is replaced keeps its place. -/
theorem put_split {front rest : List ρ} (hkeyed : Keyed key (front ++ old :: rest))
    (hkey : key old = key row) : put key row (front ++ old :: rest) = front ++ row :: rest := by
  have hne := hkeyed.ne_of_split
  have hstays : ∀ part : List ρ, (∀ other ∈ part, other ∈ front ++ rest) →
      (part.map fun other => if key other = key row then row else other) = part := by
    intro part hpart
    conv_rhs => rw [← List.map_id part]
    apply List.map_congr_left
    intro other hother
    rw [if_neg (hkey ▸ hne other (hpart other hother))]
    rfl
  rw [put, List.map_append, List.map_cons, if_pos hkey,
    hstays front fun _ h => List.mem_append_left _ h,
    hstays rest fun _ h => List.mem_append_right _ h]

theorem find_put (h : find key k rows = some old) (hkey : key row = k) :
    find key k (put key row rows) = some row := by
  have hsame : ∀ other ∈ rows, key other = key row →
      decide (key other = k) = decide (key row = k) := by
    intro other _ heq
    rw [heq]
  rw [find, find?_put hsame]
  rw [find] at h
  rw [h, Option.map_some, if_pos ((key_of_find h).trans hkey.symm)]

theorem find_put_of_ne (hkey : key row ≠ k) : find key k (put key row rows) = find key k rows := by
  have hsame : ∀ other ∈ rows, key other = key row →
      decide (key other = k) = decide (key row = k) := by
    intro other _ heq
    rw [heq]
  rw [find, find?_put hsame, ← find]
  cases h : find key k rows with
  | none => rfl
  | some other =>
    rw [Option.map_some, if_neg]
    intro heq
    exact hkey (heq.symm.trans (key_of_find h))

/-- A row that is replaced twice is the last one. -/
theorem put_put {last : ρ} (hkey : key row = key last) :
    put key last (put key row rows) = put key last rows := by
  rw [put, put, List.map_map]
  apply List.map_congr_left
  intro other _
  by_cases h : key other = key row
  · simp [h, hkey]
  · simp [h]

/-- What is found stays found when rows are added. -/
theorem find_append (more : List ρ) (h : find key k rows = some row) :
    find key k (rows ++ more) = some row := by
  unfold find at h ⊢
  rw [List.find?_append, h]
  rfl

/-- A row of a new key is found behind the others. -/
theorem find_concat (hnew : ∀ old ∈ rows, key old ≠ key row) :
    find key (key row) (rows ++ [row]) = some row := by
  have hrows : rows.find? (fun old => key old = key row) = none := by
    rw [List.find?_eq_none]
    intro old hold
    simpa using hnew old hold
  rw [find, List.find?_append, hrows]
  simp

theorem put_concat {last : ρ} (hnew : ∀ old ∈ rows, key old ≠ key row)
    (hkey : key last = key row) : put key last (rows ++ [row]) = rows ++ [last] := by
  have hrows : put key last rows = rows := by
    conv_rhs => rw [← List.map_id rows]
    apply List.map_congr_left
    intro old hold
    rw [if_neg (hkey ▸ hnew old hold)]
    rfl
  rw [put, List.map_append, ← put, hrows]
  simp [hkey]

/-- A selection that does not tell the new row from the old one. -/
theorem filter_put {selected : ρ → Bool}
    (hsame : ∀ old ∈ rows, key old = key row → selected old = selected row) :
    (put key row rows).filter selected = put key row (rows.filter selected) := by
  rw [put, put, List.filter_map]
  congr 1
  apply List.filter_congr
  intro old hold
  by_cases hkey : key old = key row
  · simp [hkey, hsame old hold hkey]
  · simp [hkey]

/-- A selection that takes neither of them is what it was. -/
theorem filter_put_of_not {selected : ρ → Bool} (hnew : selected row = false)
    (hold : ∀ old ∈ rows, key old = key row → selected old = false) :
    (put key row rows).filter selected = rows.filter selected := by
  rw [filter_put fun old h hkey => (hold old h hkey).trans hnew.symm]
  conv_rhs => rw [← List.map_id (rows.filter selected)]
  apply List.map_congr_left
  intro old h
  obtain ⟨hmem, hselected⟩ := List.mem_filter.mp h
  have hne : key old ≠ key row := by
    intro hkey
    rw [hold old hmem hkey] at hselected
    exact absurd hselected (by simp)
  rw [if_neg hne]
  rfl

/-! ## Sums -/

section

variable {selected : ρ → Bool} {amount : ρ → Nat}

/-- What a row at the end adds to a sum. -/
theorem total_concat (row : ρ) (rows : List ρ) :
    total selected amount (rows ++ [row]) =
      total selected amount rows + if selected row then amount row else 0 := by
  by_cases h : selected row = true
  · rw [total, List.filter_append, List.filter_cons_of_pos h, List.filter_nil, List.map_append,
      List.map_singleton, List.sum_append, List.sum_singleton, if_pos h, total]
  · rw [total, List.filter_append, List.filter_cons_of_neg h, List.filter_nil, List.append_nil,
      if_neg h, Nat.add_zero, total]

end

/-! ## Statements -/

section

variable {applies : ρ → Bool} {assign : ρ → ρ} {admits : ρ → ρ → Bool} {unmatched refused : ε}

theorem update_ok_some_iff :
    update key k applies assign admits refused rows = .ok (some changed) ↔
      ∃ row, find key k rows = some row ∧ applies row = true ∧
        admits row (assign row) = true ∧ put key (assign row) rows = changed := by
  unfold update
  cases find key k rows with
  | none => simp
  | some row =>
    by_cases happlies : applies row = true
    · by_cases hadmits : admits row (assign row) = true
      · simp [happlies, hadmits]
      · simp [happlies, hadmits]
    · simp [happlies]

/-- Nothing matches. -/
theorem update_ok_none_iff :
    update key k applies assign admits refused rows = .ok none ↔
      ∀ row, find key k rows = some row → applies row = false := by
  unfold update
  cases find key k rows with
  | none => simp
  | some row =>
    by_cases happlies : applies row = true
    · by_cases hadmits : admits row (assign row) = true
      · simp [happlies, hadmits]
      · simp [happlies, hadmits]
    · simp [happlies]

theorem updateOne_ok_iff :
    updateOne key k applies assign admits unmatched refused rows = .ok changed ↔
      ∃ row, find key k rows = some row ∧ applies row = true ∧
        admits row (assign row) = true ∧ put key (assign row) rows = changed := by
  unfold updateOne
  rw [bind_ok_iff]
  constructor
  · intro h
    obtain ⟨found, hfound, h⟩ := h
    rw [someOr_ok_iff] at h
    rw [h] at hfound
    exact update_ok_some_iff.mp hfound
  · intro h
    exact ⟨some changed, update_ok_some_iff.mpr h, someOr_ok_iff.mpr rfl⟩

/-- Where the row is there to be matched, only its trigger refuses. -/
theorem raisesOnly_updateOne {kind : ε → Prop} (hrow : find key k rows = some row)
    (happlies : applies row = true) (hrefused : kind refused) :
    RaisesOnly kind (updateOne key k applies assign admits unmatched refused rows) := by
  by_cases hadmits : admits row (assign row) = true
  · exact .of_ok (updateOne_ok_iff.mpr ⟨row, hrow, happlies, hadmits, rfl⟩)
  · refine .of_error ?_ hrefused
    unfold updateOne update
    rw [hrow]
    dsimp only
    rw [if_pos happlies, if_neg hadmits]
    rfl

end

/-! ## Sums over rows -/

omit [DecidableEq κ] in
/-- Claims of different keys on rows of their own are not more than the rows hold. -/
theorem sum_claims_le {α : Type*} {keyOf : α → κ} {claimed : α → Nat} {amount : ρ → Nat}
    {claims : List α} (hnodup : (claims.map keyOf).Nodup)
    (h : ∀ c ∈ claims, ∃ row ∈ rows, key row = keyOf c ∧ amount row = claimed c) :
    (claims.map claimed).sum ≤ (rows.map amount).sum := by
  induction claims generalizing rows with
  | nil => exact Nat.zero_le _
  | cons c rest ih =>
    rw [List.map_cons, List.nodup_cons] at hnodup
    obtain ⟨row, hrow, hkey, hamount⟩ := h c List.mem_cons_self
    obtain ⟨front, back, rfl⟩ := List.append_of_mem hrow
    -- the rows of the other claims are not the one of this claim
    have hrest : (rest.map claimed).sum ≤ ((front ++ back).map amount).sum := by
      refine ih hnodup.2 ?_
      intro other hother
      obtain ⟨found, hfound, hfoundKey, hfoundAmount⟩ := h other (List.mem_cons_of_mem _ hother)
      refine ⟨found, ?_, hfoundKey, hfoundAmount⟩
      rcases List.mem_append.mp hfound with hfront | hback
      · exact List.mem_append_left _ hfront
      · rcases List.mem_cons.mp hback with rfl | hback
        · refine absurd ?_ hnodup.1
          rw [← hkey, hfoundKey]
          exact List.mem_map_of_mem hother
        · exact List.mem_append_right _ hback
    simp only [List.map_append, List.map_cons, List.sum_append, List.sum_cons] at hrest ⊢
    omega

end Retrywise.Foundation.Table
