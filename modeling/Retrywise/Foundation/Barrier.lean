import Retrywise.Foundation.Run

/-!
# Barriers

Some steps of a run grant somebody the right to act, and some act. A barrier is closed and
opened by steps in between: while it is closed nobody is granted anything, but who was granted
something before may still act on it.

> `Run.barrier`: where acting needs a grant in the past, and no grant is given while the
> barrier is closed, whoever acts behind the closed barrier was granted before it was closed.
-/

namespace Retrywise.Foundation

universe u v w x y

variable {σ : Type u} {κ : Type v} {ω : Type w} {ε : Type x} {ι : Type y}

/-- From a step that closes to the next that opens, whoever acts was granted before, and not
since. -/
def Barrier (grants acts : ι → Step σ κ ω → Prop) (closes opens : Step σ κ ω → Prop)
    (steps : List (Step σ κ ω)) : Prop :=
  ∀ before c middle a rest who, steps = before ++ c :: (middle ++ a :: rest) → closes c →
    (∀ s ∈ middle, ¬opens s) → acts who a →
    (∃ g ∈ before, grants who g) ∧ ∀ g ∈ middle, ¬grants who g

namespace Machine.Run

variable {M : Machine σ κ ω ε} {init final : σ} {steps : List (Step σ κ ω)}
  {grants acts : ι → Step σ κ ω → Prop} {closes opens : Step σ κ ω → Prop}
  {I C : σ → Prop}

/-- Once it is closed, the barrier stays closed until a step opens it. -/
theorem closed_until (hinv : ∀ s, I s.pre → M.Takes s → I s.post)
    (hkeeps : ∀ s, I s.pre → M.Takes s → C s.pre → ¬opens s → C s.post)
    (hI : I init) (hclosed : C init) (hrun : M.Run init steps final)
    (hquiet : ∀ s ∈ steps, ¬opens s) : C final := by
  have hboth : I final ∧ C final := by
    refine invariant_of (I := fun a => I a ∧ C a) (G := fun s => ¬opens s) ⟨hI, hclosed⟩ ?_
      hrun hquiet
    intro s hs hstep hopens
    exact ⟨hinv s hs.1 hstep, hkeeps s hs.1 hstep hs.2 hopens⟩
  exact hboth.2

/-- **Whoever acts behind a closed barrier was granted before it was closed.** -/
theorem barrier (h0 : I init) (hinv : ∀ s, I s.pre → M.Takes s → I s.post)
    (hcloses : ∀ s, I s.pre → M.Takes s → closes s → C s.post ∧ ∀ who, ¬grants who s)
    (hkeeps : ∀ s, I s.pre → M.Takes s → C s.pre → ¬opens s → C s.post)
    (hgrants : ∀ s who, I s.pre → M.Takes s → grants who s → ¬C s.pre)
    (hacts : ∀ past s who, M.Run init past s.pre → M.Takes s → acts who s →
      ∃ g ∈ past, grants who g)
    (hrun : M.Run init steps final) : Barrier grants acts closes opens steps := by
  intro before c middle a rest who hsplit hclose hquiet hact
  obtain ⟨hbefore, hc, hafter⟩ := hrun.cut before c (middle ++ a :: rest) hsplit
  obtain ⟨hmiddle, ha, -⟩ := hafter.cut middle a rest rfl
  have hIc : I c.pre := invariant h0 hinv hbefore
  obtain ⟨hclosed, hnoGrant⟩ := hcloses c hIc hc hclose
  have hIpost : I c.post := hinv c hIc hc
  have hnone : ∀ g ∈ middle, ¬grants who g := by
    intro g hg hgrant
    obtain ⟨front, back, hmid⟩ := List.append_of_mem hg
    obtain ⟨hfront, hgstep, -⟩ := hmiddle.cut front g back hmid
    have hstill : C g.pre := closed_until hinv hkeeps hIpost hclosed hfront
      fun s hs => hquiet s (by rw [hmid]; exact List.mem_append_left _ hs)
    exact hgrants g who (invariant hIpost hinv hfront) hgstep hgrant hstill
  refine ⟨?_, hnone⟩
  have hpast : M.Run init (before ++ c :: middle) a.pre :=
    (hrun.cut (before ++ c :: middle) a rest (by rw [hsplit]; simp)).1
  obtain ⟨g, hg, hgrant⟩ := hacts _ a who hpast ha hact
  rcases List.mem_append.mp hg with hg | hg
  · exact ⟨g, hg, hgrant⟩
  rcases List.mem_cons.mp hg with rfl | hg
  · exact absurd hgrant (hnoGrant who)
  · exact absurd hgrant (hnone g hg)

end Machine.Run

end Retrywise.Foundation
