import Retrywise.Foundation.Json

/-!
# The order of members is not evidence

A value with its members sorted is its own sorted form, so a value and its sorted form have
one canonical text: reading a canonical text back and writing it again changes nothing.
Sorting permutes the members of an object, so what is asked of every member can be asked
before it or after it.

> `sorted_sorted`: sorting twice is sorting once.
>
> `sortedMembers_perm`: the sorted members are the members, each with its value sorted.
-/

namespace Retrywise.Foundation

namespace Json

/-- Members are ordered by their keys. -/
abbrev KeyLe : String × Json → String × Json → Prop := fun m n => m.1 ≤ n.1

instance : Std.Total KeyLe := ⟨fun m n => String.le_total m.1 n.1⟩

instance : IsTrans (String × Json) KeyLe := ⟨fun _ _ _ h₁ h₂ => String.le_trans h₁ h₂⟩

/-! ## What sorting does to the members -/

theorem sortedMembers_perm (ms : List (String × Json)) :
    (sortedMembers ms).Perm (ms.map fun m => (m.1, m.2.sorted)) := by
  induction ms with
  | nil => exact .refl _
  | cons m ms ih =>
    obtain ⟨k, x⟩ := m
    rw [sortedMembers, List.map_cons]
    exact (List.perm_orderedInsert _ _ _).trans (ih.cons _)

theorem length_sortedMembers (members : List (String × Json)) :
    (sortedMembers members).length = members.length := by
  rw [(sortedMembers_perm members).length_eq, List.length_map]

theorem length_sortedItems (items : List Json) :
    (sortedItems items).length = items.length := by
  induction items with
  | nil => rfl
  | cons item rest ih => rw [sortedItems, List.length_cons, List.length_cons, ih]

theorem pairwise_sortedMembers (ms : List (String × Json)) :
    (sortedMembers ms).Pairwise KeyLe := by
  induction ms with
  | nil => exact .nil
  | cons m ms ih =>
    obtain ⟨k, x⟩ := m
    rw [sortedMembers]
    exact ih.orderedInsert _ _

/-- Members in order, with sorted values, stay where they are. -/
theorem sortedMembers_of_pairwise {ms : List (String × Json)} (horder : ms.Pairwise KeyLe)
    (hvalues : ∀ m ∈ ms, m.2.sorted = m.2) : sortedMembers ms = ms := by
  induction ms with
  | nil => rfl
  | cons m ms ih =>
    obtain ⟨k, x⟩ := m
    obtain ⟨hk, hms⟩ := List.pairwise_cons.mp horder
    have hx : x.sorted = x := hvalues (k, x) List.mem_cons_self
    rw [sortedMembers, hx, ih hms fun n hn => hvalues n (List.mem_cons_of_mem _ hn)]
    -- the first member belongs in front of the others
    cases ms with
    | nil => rfl
    | cons n ms => exact List.orderedInsert_cons_of_le KeyLe _ (hk n List.mem_cons_self)

/-- With no key twice there is one order to sort the members in. -/
theorem sortedMembers_eq_of_perm {ms ns : List (String × Json)} (hperm : ms.Perm ns)
    (hkeys : (ns.map Prod.fst).Nodup) : sortedMembers ms = sortedMembers ns := by
  have hsorted : (sortedMembers ms).Perm (sortedMembers ns) :=
    ((sortedMembers_perm ms).trans (hperm.map _)).trans (sortedMembers_perm ns).symm
  have hnodup : ((sortedMembers ns).map Prod.fst).Nodup := by
    have hfirst : ((sortedMembers ns).map Prod.fst).Perm (ns.map Prod.fst) := by
      refine ((sortedMembers_perm ns).map Prod.fst).trans ?_
      rw [List.map_map]
      exact .refl _
    exact hfirst.nodup_iff.mpr hkeys
  refine hsorted.eq_of_pairwise (fun a b ha hb hab hba => ?_) (pairwise_sortedMembers ms)
    (pairwise_sortedMembers ns)
  exact List.inj_on_of_nodup_map hnodup (hsorted.mem_iff.mp ha) hb (String.le_antisymm hab hba)

/-! ## Sorting twice -/

mutual

/-- Mutual with the items of an array and the members of an object, by recursion on the
value. -/
theorem sorted_sorted : ∀ a : Json, a.sorted.sorted = a.sorted
  | .null => rfl
  | .bool _ => rfl
  | .int _ => rfl
  | .str _ => rfl
  | .arr items => by
    rw [sorted, sorted, sortedItems_sortedItems items]
  | .obj members => by
    have hvalues : ∀ m ∈ sortedMembers members, m.2.sorted = m.2 := by
      intro m hm
      obtain ⟨n, hn, rfl⟩ := List.mem_map.mp ((sortedMembers_perm members).mem_iff.mp hm)
      exact sorted_sorted_member members n hn
    rw [sorted, sorted, sortedMembers_of_pairwise (pairwise_sortedMembers members) hvalues]

theorem sortedItems_sortedItems : ∀ xs : List Json,
    sortedItems (sortedItems xs) = sortedItems xs
  | [] => rfl
  | x :: xs => by
    rw [sortedItems, sortedItems, sorted_sorted x, sortedItems_sortedItems xs]

theorem sorted_sorted_member : ∀ (ms : List (String × Json)), ∀ m ∈ ms,
    m.2.sorted.sorted = m.2.sorted
  | [], _, h => absurd h List.not_mem_nil
  | (k, x) :: ms, m, h => by
    rcases List.mem_cons.mp h with rfl | h
    · exact sorted_sorted x
    · exact sorted_sorted_member ms m h

end

/-- A value and its sorted form have one canonical text. -/
@[simp] theorem canonicalText_sorted (a : Json) : a.sorted.canonicalText = a.canonicalText := by
  rw [canonicalText, canonicalText, sorted_sorted]

end Json

end Retrywise.Foundation
