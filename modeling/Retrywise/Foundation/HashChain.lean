import Mathlib.Data.List.Induction
import Mathlib.Data.List.Forall2

/-!
# Chains linked by hashes

Every entry of a chain names the hash of the entry before it, and the first names none. The
head of a chain is the hash of its last entry. Where the hash of an entry determines the
entry, up to some relation, and the hash that it names, the head determines the whole chain:
there is no second chain with that head.

The hash is asked to determine entries of the two chains only, so a function with collisions
elsewhere will do.

> `agree_of_head_eq`: two chains with one head agree entry by entry.
-/

namespace Retrywise.Foundation

variable {α η : Type} (hash : α → η) (previous : α → Option η)

/-- The hash of the last entry. -/
def chainHead (entries : List α) : Option η := entries.getLast?.map hash

/-- Every entry names the hash of the one before it; the first names `last`. -/
def Chained (last : Option η) : List α → Prop
  | [] => True
  | e :: rest => previous e = last ∧ Chained (some (hash e)) rest

variable {hash previous} {last : Option η} {entries more : List α} {e : α}

@[simp] theorem chainHead_concat : chainHead hash (entries ++ [e]) = some (hash e) := by
  simp [chainHead]

/-- A chain goes on from its head. -/
theorem chained_append :
    Chained hash previous last (entries ++ more) ↔
      Chained hash previous last entries ∧
        Chained hash previous ((chainHead hash entries).or last) more := by
  induction entries generalizing last with
  | nil => simp [Chained, chainHead]
  | cons e rest ih =>
    have hhead : (chainHead hash (e :: rest)).or last =
        (chainHead hash rest).or (some (hash e)) := by
      cases rest with
      | nil => rfl
      | cons f rest => simp [chainHead, List.getLast?_eq_some_getLast]
    rw [List.cons_append, Chained, Chained, ih, hhead, and_assoc]

/-- One more entry has to name the head. -/
theorem chained_concat :
    Chained hash previous none (entries ++ [e]) ↔
      Chained hash previous none entries ∧ previous e = chainHead hash entries := by
  rw [chained_append]
  simp [Chained]

/-- **Two chains with one head agree entry by entry**, where the hashes of their entries
determine the entries, up to `R`, and what they name. -/
theorem agree_of_head_eq {R : α → α → Prop} {left right : List α}
    (hdetermines : ∀ e ∈ left, ∀ f ∈ right, hash e = hash f → R e f ∧ previous e = previous f)
    (hleft : Chained hash previous none left) (hright : Chained hash previous none right)
    (hhead : chainHead hash left = chainHead hash right) : List.Forall₂ R left right := by
  induction left using List.reverseRecOn generalizing right with
  | nil =>
    rcases List.eq_nil_or_concat right with rfl | ⟨front, f, rfl⟩
    · exact .nil
    · rw [List.concat_eq_append, chainHead_concat] at hhead
      exact absurd hhead (by simp [chainHead])
  | append_singleton before e ih =>
    rcases List.eq_nil_or_concat right with rfl | ⟨front, f, rfl⟩
    · rw [chainHead_concat] at hhead
      exact absurd hhead (by simp [chainHead])
    · rw [List.concat_eq_append] at hright hhead hdetermines ⊢
      rw [chainHead_concat, chainHead_concat] at hhead
      obtain ⟨hR, hnames⟩ := hdetermines e (by simp) f (by simp) (Option.some.inj hhead)
      obtain ⟨hbefore, he⟩ := chained_concat.mp hleft
      obtain ⟨hfront, hf⟩ := chained_concat.mp hright
      -- both last entries name one hash, which is the head of what stands before each
      have hheads : chainHead hash before = chainHead hash front := by
        rw [← he, ← hf, hnames]
      have hrest := ih (fun a ha b hb => hdetermines a (by simp [ha]) b (by simp [hb])) hbefore
        hfront hheads
      exact List.rel_append hrest (.cons hR .nil)

end Retrywise.Foundation
