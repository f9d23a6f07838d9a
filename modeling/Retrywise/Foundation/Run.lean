import Retrywise.Foundation.Raise
import Mathlib.Data.List.Basic

/-!
# Runs of a command machine

A `Machine` executes one command on one state and either raises, or returns
the next state with an output. A `Run` is a finite sequence of *accepted*
commands; raising leaves the state where it was, so the accepted commands are
all there is to a run.

Laws about runs are of three kinds, and each kind gets its induction here once:

* a state invariant, or an invariant that relates the state to the past of the
  run (`Run.history`, `Run.invariant`);
* a law about every step, given the steps before it (`Along`, `Run.along`), and
  its exact condition (`Run.along_iff`: when a law at a step is equivalent to a
  guard, and the guard keeps the invariant, the law holds along the whole run
  exactly when the guard does);
* a law about every pair of steps (`Run.pairwise`).

Where one step asks for something and a later one settles it, `Outstanding` says
that something asked for is not settled yet.
-/

namespace Retrywise.Foundation

universe u v w x

variable {σ : Type u} {κ : Type v} {ω : Type w} {ε : Type x}

/-- A deterministic command machine with failure. -/
structure Machine (σ : Type u) (κ : Type v) (ω : Type w) (ε : Type x) where
  exec : σ → κ → Except ε (σ × ω)

/-- One accepted command: where it was applied, what it was, what it left. -/
structure Step (σ : Type u) (κ : Type v) (ω : Type w) where
  pre : σ
  cmd : κ
  post : σ
  out : ω

/-! ## Laws along a list of steps -/

/-- `P` holds of every step, given the steps before it. -/
def Along (P : List (Step σ κ ω) → Step σ κ ω → Prop) (steps : List (Step σ κ ω)) : Prop :=
  ∀ past s rest, steps = past ++ s :: rest → P past s

theorem along_nil (P : List (Step σ κ ω) → Step σ κ ω → Prop) : Along P [] := by
  intro past s rest h
  exact absurd h (by simp)

/-- The last step can be split off. -/
theorem along_concat {P : List (Step σ κ ω) → Step σ κ ω → Prop}
    {steps : List (Step σ κ ω)} {s : Step σ κ ω} :
    Along P (steps ++ [s]) ↔ Along P steps ∧ P steps s := by
  constructor
  · intro h
    refine ⟨fun past t rest ht => h past t (rest ++ [s]) ?_, h steps s [] rfl⟩
    rw [ht, List.append_assoc, List.cons_append]
  · rintro ⟨hsteps, hs⟩ past t rest ht
    rcases List.eq_nil_or_concat rest with rfl | ⟨front, last, rfl⟩
    · obtain ⟨rfl, hlast⟩ := List.append_inj' ht rfl
      exact List.head_eq_of_cons_eq hlast ▸ hs
    · rw [List.concat_eq_append, ← List.cons_append, ← List.append_assoc] at ht
      exact hsteps past t front (List.append_inj' ht rfl).1

/-- A law that does not look at the past is a law of every member. -/
theorem along_iff_forall_mem {P : Step σ κ ω → Prop} {steps : List (Step σ κ ω)} :
    Along (fun _ s => P s) steps ↔ ∀ s ∈ steps, P s := by
  constructor
  · intro h s hs
    obtain ⟨past, rest, hsplit⟩ := List.append_of_mem hs
    exact h past s rest hsplit
  · intro h past s rest hsplit
    exact h s (by rw [hsplit]; simp)

/-! ## Requests and what settles them -/

/-- Some step asks, and none behind it settles what was asked. -/
def Outstanding (asks settles : Step σ κ ω → Prop) (steps : List (Step σ κ ω)) : Prop :=
  ∃ before s after, steps = before ++ s :: after ∧ asks s ∧ ∀ t ∈ after, ¬settles t

section

variable {asks settles : Step σ κ ω → Prop} {steps : List (Step σ κ ω)}

theorem not_outstanding_nil : ¬Outstanding asks settles [] := by
  intro h
  obtain ⟨before, s, after, hsplit, -⟩ := h
  exact absurd hsplit (by simp)

/-- One more step asks again, or leaves outstanding what it does not settle. -/
theorem outstanding_concat {s : Step σ κ ω} :
    Outstanding asks settles (steps ++ [s]) ↔
      asks s ∨ Outstanding asks settles steps ∧ ¬settles s := by
  constructor
  · intro h
    obtain ⟨before, t, after, hsplit, hasks, hopen⟩ := h
    rcases List.eq_nil_or_concat after with rfl | ⟨front, last, rfl⟩
    · obtain ⟨-, hlast⟩ := List.append_inj' hsplit rfl
      left
      rw [List.head_eq_of_cons_eq hlast]
      exact hasks
    · rw [List.concat_eq_append, ← List.cons_append, ← List.append_assoc] at hsplit
      obtain ⟨hfront, hlast⟩ := List.append_inj' hsplit rfl
      rw [List.concat_eq_append] at hopen
      right
      refine ⟨⟨before, t, front, hfront, hasks, fun u hu => hopen u (by simp [hu])⟩, ?_⟩
      rw [List.head_eq_of_cons_eq hlast]
      exact hopen last (by simp)
  · intro h
    rcases h with hasks | ⟨⟨before, t, after, hsplit, hasks, hopen⟩, hkeeps⟩
    · exact ⟨steps, s, [], rfl, hasks, fun _ h => absurd h (by simp)⟩
    · refine ⟨before, t, after ++ [s], ?_, hasks, ?_⟩
      · rw [hsplit, List.append_assoc, List.cons_append]
      · intro u hu
        rcases List.mem_append.mp hu with hu | hu
        · exact hopen u hu
        · rw [List.mem_singleton.mp hu]
          exact hkeeps

/-- Nothing is outstanding when everything asked was settled later. -/
theorem not_outstanding_iff :
    ¬Outstanding asks settles steps ↔
      ∀ before s after, steps = before ++ s :: after → asks s → ∃ t ∈ after, settles t := by
  constructor
  · intro h before s after hsplit hasks
    by_contra hnone
    exact h ⟨before, s, after, hsplit, hasks, fun t ht hs => hnone ⟨t, ht, hs⟩⟩
  · intro h houtstanding
    obtain ⟨before, s, after, hsplit, hasks, hopen⟩ := houtstanding
    obtain ⟨t, ht, hsettles⟩ := h before s after hsplit hasks
    exact hopen t ht hsettles

end

/-- The commands of a list of steps and one more. -/
theorem map_cmd_concat {steps : List (Step σ κ ω)} {s : Step σ κ ω} {commands : List κ} {c : κ}
    (hsteps : steps.map Step.cmd = commands) (hs : s.cmd = c) :
    (steps ++ [s]).map Step.cmd = commands ++ [c] := by
  rw [List.map_append, List.map_singleton, hsteps, hs]

namespace Machine

variable (M : Machine σ κ ω ε)

/-- The machine accepts this step. -/
def Takes (s : Step σ κ ω) : Prop := M.exec s.pre s.cmd = .ok (s.post, s.out)

/-- The accepted commands `steps` lead from `init` to the second state. -/
inductive Run (init : σ) : List (Step σ κ ω) → σ → Prop
  | start : Run init [] init
  | next {past : List (Step σ κ ω)} {s : Step σ κ ω} :
      Run init past s.pre → M.Takes s → Run init (past ++ [s]) s.post

/-- Two commands are accepted one after the other. -/
def InTurn (init : σ) (first second : κ) (mid final : σ) : Prop :=
  ∃ x y, M.exec init first = .ok (mid, x) ∧ M.exec mid second = .ok (final, y)

/-- The steps of a list of commands and the state they lead to, as far as each is accepted. -/
def play (init : σ) : List κ → List (Step σ κ ω) × σ
  | [] => ([], init)
  | c :: rest =>
    match M.exec init c with
    | .ok (next, out) => (⟨init, c, next, out⟩ :: (play next rest).1, (play next rest).2)
    | .error _ => ([], init)

variable {M} {init final : σ} {steps : List (Step σ κ ω)}

/-- Two commands that are played to the end are accepted one after the other. -/
theorem inTurn_of_play {first second : κ} (h : (M.play init [first, second]).1.length = 2) :
    M.InTurn init first second (M.play init [first]).2 (M.play init [first, second]).2 := by
  cases hfirst : M.exec init first with
  | error e =>
    simp only [play, hfirst] at h
    exact absurd h (by simp)
  | ok reached =>
    obtain ⟨mid, x⟩ := reached
    cases hsecond : M.exec mid second with
    | error e =>
      simp only [play, hfirst, hsecond] at h
      exact absurd h (by simp)
    | ok reached =>
      obtain ⟨final, y⟩ := reached
      simp only [play, hfirst, hsecond]
      exact ⟨x, y, hfirst, hsecond⟩

namespace Run

/-! ## Invariants -/

/-- An invariant between the past of the run and its state, kept by every step
that meets the guard. -/
theorem history {H : List (Step σ κ ω) → σ → Prop} {G : List (Step σ κ ω) → Step σ κ ω → Prop}
    (h0 : H [] init)
    (hkeep : ∀ past s, M.Run init past s.pre → H past s.pre → M.Takes s → G past s →
      H (past ++ [s]) s.post)
    (hrun : M.Run init steps final) (hguard : Along G steps) : H steps final := by
  induction hrun with
  | start => exact h0
  | next hpast hstep ih =>
    obtain ⟨hg, hgs⟩ := along_concat.mp hguard
    exact hkeep _ _ hpast (ih hg) hstep hgs

/-- A state invariant, kept by every step that meets the guard. -/
theorem invariant_of {I : σ → Prop} {G : Step σ κ ω → Prop} (h0 : I init)
    (hkeep : ∀ s, I s.pre → M.Takes s → G s → I s.post)
    (hrun : M.Run init steps final) (hguard : ∀ s ∈ steps, G s) : I final :=
  history (H := fun _ a => I a) (G := fun _ s => G s) h0
    (fun _ s _ hI hs hg => hkeep s hI hs hg) hrun (along_iff_forall_mem.mpr hguard)

/-- A state invariant kept by every step. -/
theorem invariant {I : σ → Prop} (h0 : I init) (hkeep : ∀ s, I s.pre → M.Takes s → I s.post)
    (hrun : M.Run init steps final) : I final :=
  invariant_of (G := fun _ => True) h0 (fun s hI hs _ => hkeep s hI hs) hrun
    (fun _ _ => trivial)

/-- A reflexive and transitive relation every step respects relates the ends of
a run. -/
theorem relates {R : σ → σ → Prop} (hrefl : ∀ a, R a a)
    (htrans : ∀ a b c, R a b → R b c → R a c) (hstep : ∀ s, M.Takes s → R s.pre s.post)
    (hrun : M.Run init steps final) : R init final :=
  invariant (I := R init) (hrefl init)
    (fun s hI hs => htrans _ _ _ hI (hstep s hs)) hrun

/-! ## Cutting a run -/

theorem append {mid : σ} {more : List (Step σ κ ω)} (h₁ : M.Run init steps mid)
    (h₂ : M.Run mid more final) : M.Run init (steps ++ more) final := by
  induction h₂ with
  | start => rwa [List.append_nil]
  | next _ hstep ih =>
    rw [← List.append_assoc]
    exact ih.next hstep

/-- What is played is a run. -/
theorem of_play (M : Machine σ κ ω ε) (init : σ) (commands : List κ) :
    M.Run init (M.play init commands).1 (M.play init commands).2 := by
  induction commands generalizing init with
  | nil => exact .start
  | cons c rest ih =>
    unfold play
    cases hexec : M.exec init c with
    | error e => exact .start
    | ok reached =>
      obtain ⟨next, out⟩ := reached
      have hstart : M.Run init [] init := .start
      have hfirst : M.Run init [⟨init, c, next, out⟩] next :=
        hstart.next (s := ⟨init, c, next, out⟩) hexec
      exact hfirst.append (ih next)

theorem cmd_mem_of_play {M : Machine σ κ ω ε} {init : σ} {commands : List κ} :
    ∀ s ∈ (M.play init commands).1, s.cmd ∈ commands := by
  induction commands generalizing init with
  | nil =>
    intro s hs
    exact absurd hs List.not_mem_nil
  | cons c rest ih =>
    intro s hs
    unfold play at hs
    cases hexec : M.exec init c with
    | error e =>
      rw [hexec] at hs
      exact absurd hs List.not_mem_nil
    | ok reached =>
      rw [hexec] at hs
      rcases List.mem_cons.mp hs with rfl | hs
      · exact List.mem_cons_self
      · exact List.mem_cons_of_mem _ (ih s hs)

/-- Where all is accepted, every command is one of a step. -/
theorem exists_of_play {M : Machine σ κ ω ε} {init : σ} {commands : List κ} {c : κ}
    (haccepted : (M.play init commands).1.length = commands.length) (hc : c ∈ commands) :
    ∃ s ∈ (M.play init commands).1, s.cmd = c := by
  induction commands generalizing init with
  | nil => exact absurd hc List.not_mem_nil
  | cons first rest ih =>
    unfold play at haccepted ⊢
    cases hexec : M.exec init first with
    | error e =>
      rw [hexec] at haccepted
      exact absurd haccepted (by simp)
    | ok reached =>
      rw [hexec] at haccepted
      rcases List.mem_cons.mp hc with rfl | hrest
      · exact ⟨_, List.mem_cons_self, rfl⟩
      · obtain ⟨s, hs, hcmd⟩ := ih (by simpa using haccepted) hrest
        exact ⟨s, List.mem_cons_of_mem _ hs, hcmd⟩

/-- Every position of a run cuts it into a run, a step and a run. -/
theorem cut (hrun : M.Run init steps final) :
    ∀ past s rest, steps = past ++ s :: rest →
      M.Run init past s.pre ∧ M.Takes s ∧ M.Run s.post rest final := by
  induction hrun with
  | start => intro past s rest h; exact absurd h (by simp)
  | @next before t hbefore hstep ih =>
    intro past s rest h
    -- the step cut at is the last one, or one of the run before it
    rcases List.eq_nil_or_concat rest with rfl | ⟨front, last, rfl⟩
    · obtain ⟨rfl, hlast⟩ := List.append_inj' h rfl
      obtain rfl := List.head_eq_of_cons_eq hlast
      exact ⟨hbefore, hstep, .start⟩
    · rw [List.concat_eq_append, ← List.cons_append, ← List.append_assoc] at h
      obtain ⟨hfront, hlast⟩ := List.append_inj' h rfl
      obtain rfl := List.head_eq_of_cons_eq hlast
      obtain ⟨h₁, h₂, h₃⟩ := ih past s front hfront
      rw [List.concat_eq_append]
      exact ⟨h₁, h₂, h₃.next hstep⟩

/-- Every member of a run is a step taken after a run. -/
theorem of_mem (hrun : M.Run init steps final) {s : Step σ κ ω} (hs : s ∈ steps) :
    ∃ past rest, steps = past ++ s :: rest ∧ M.Run init past s.pre ∧ M.Takes s := by
  obtain ⟨past, rest, hsplit⟩ := List.append_of_mem hs
  obtain ⟨h₁, h₂, -⟩ := hrun.cut past s rest hsplit
  exact ⟨past, rest, hsplit, h₁, h₂⟩

/-! ## Laws about steps -/

/-- A step law that follows from a history invariant holds along the run. -/
theorem along {H : List (Step σ κ ω) → σ → Prop} {P G : List (Step σ κ ω) → Step σ κ ω → Prop}
    (h0 : H [] init)
    (hkeep : ∀ past s, M.Run init past s.pre → H past s.pre → M.Takes s → G past s →
      H (past ++ [s]) s.post)
    (hlaw : ∀ past s, M.Run init past s.pre → H past s.pre → M.Takes s → G past s → P past s)
    (hrun : M.Run init steps final) (hguard : Along G steps) : Along P steps := by
  induction hrun with
  | start => exact along_nil P
  | next hpast hstep ih =>
    obtain ⟨hg, hgs⟩ := along_concat.mp hguard
    exact along_concat.mpr ⟨ih hg, hlaw _ _ hpast (history h0 hkeep hpast hg) hstep hgs⟩

/-- **The exact condition of a step law.** Where the invariant makes the law at
a step equivalent to a guard, and the guard keeps the invariant, the law holds
along the run exactly when the guard does. -/
theorem along_iff {H : List (Step σ κ ω) → σ → Prop}
    {P G : List (Step σ κ ω) → Step σ κ ω → Prop} (h0 : H [] init)
    (hkeep : ∀ past s, M.Run init past s.pre → H past s.pre → M.Takes s → G past s →
      H (past ++ [s]) s.post)
    (hiff : ∀ past s, M.Run init past s.pre → H past s.pre → M.Takes s → (P past s ↔ G past s))
    (hrun : M.Run init steps final) : Along P steps ↔ Along G steps := by
  constructor
  · intro hP
    -- induction on the run: the guard so far keeps the invariant, and the law gives the next one
    induction hrun with
    | start => exact along_nil G
    | next hpast hstep ih =>
      obtain ⟨hp, hps⟩ := along_concat.mp hP
      have hg := ih hp
      exact along_concat.mpr
        ⟨hg, (hiff _ _ hpast (history h0 hkeep hpast hg) hstep).mp hps⟩
  · exact along h0 hkeep (fun past s hp hH hs hg => (hiff past s hp hH hs).mpr hg) hrun

/-- **Simulation.** Where another machine follows every visible step of a run and answers it
alike, and the steps between them keep the relation, it follows the whole run. -/
theorem simulated {τ : Type*} {φ : Type*} {N : Machine τ κ ω φ} {R : σ → τ → Prop}
    {visible : Step σ κ ω → Bool} {start : τ} (h0 : R init start)
    (hrun : M.Run init steps final)
    (hstep : ∀ s ∈ steps, M.Takes s → ∀ b, R s.pre b →
      if visible s then ∃ b', N.exec b s.cmd = .ok (b', s.out) ∧ R s.post b' else R s.post b) :
    ∃ followed reached, N.Run start followed reached ∧ R final reached ∧
      followed.map (fun s => (s.cmd, s.out)) =
        (steps.filter visible).map fun s => (s.cmd, s.out) := by
  induction hrun with
  | start => exact ⟨[], start, .start, h0, rfl⟩
  | @next past s _ htakes ih =>
    obtain ⟨followed, b, hfollowed, hrelated, hseen⟩ :=
      ih fun t ht => hstep t (List.mem_append_left _ ht)
    have hlast := hstep s (List.mem_append_right _ (List.mem_singleton_self s)) htakes b hrelated
    rw [List.filter_append]
    by_cases hvisible : visible s
    · rw [if_pos hvisible] at hlast
      obtain ⟨b', hexec, hnext⟩ := hlast
      refine ⟨followed ++ [⟨b, s.cmd, b', s.out⟩], b',
        hfollowed.next (s := ⟨b, s.cmd, b', s.out⟩) hexec, hnext, ?_⟩
      rw [List.filter_cons_of_pos hvisible, List.map_append, List.map_append, hseen]
      rfl
    · rw [if_neg hvisible] at hlast
      refine ⟨followed, b, hfollowed, hlast, ?_⟩
      rw [List.filter_cons_of_neg hvisible, List.filter_nil, List.append_nil, hseen]

/-- A law about every two steps, from what a history says about the next one. -/
theorem pairwise {Q : Step σ κ ω → Step σ κ ω → Prop}
    (hlaw : ∀ past s, M.Run init past s.pre → M.Takes s → ∀ earlier ∈ past, Q earlier s)
    (hrun : M.Run init steps final) : steps.Pairwise Q := by
  induction hrun with
  | start => exact List.Pairwise.nil
  | next hpast hstep ih =>
    refine List.pairwise_append.mpr ⟨ih, List.pairwise_singleton _ _, ?_⟩
    intro earlier hmem last hlast
    rw [List.mem_singleton.mp hlast]
    exact hlaw _ _ hpast hstep earlier hmem

end Run

end Machine

end Retrywise.Foundation
