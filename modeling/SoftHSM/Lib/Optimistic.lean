import SoftHSM.Lib.Transition
import Mathlib.Logic.Function.Basic

/-!
Optimistic updates of one shared cell by any number of callers. A caller reads the cell,
decides on an update, and makes it only if the cell still shows what was read; a lost race
costs it a round. Every update that happens is recorded with the caller that made it.

A caller's program is a parameter: `precheck` decides on the call before the cell is read, and
`plan` decides on what was read, with whatever else the caller meets in that round.
-/

set_option linter.unusedSectionVars false

namespace SoftHSM.Optimistic

open Transition

/-- What a caller does with a value it has read: answer, or try an update and answer if it
succeeds. -/
inductive Plan (V R : Type*)
  | answer (r : R)
  | update (f : V → V) (r : R)

inductive Phase (V K R : Type*)
  | idle
  | reading (rounds : ℕ)
  | updating (rounds : ℕ) (expected : K) (f : V → V) (r : R)
  | returned (r : R)

/-- An update that happened. -/
structure Entry (ι V R : Type*) where
  caller : ι
  old : V
  new : V
  result : R

structure State (ι V K R : Type*) where
  cell : V
  log : List (Entry ι V R)
  phase : ι → Phase V K R

inductive Event (ι μ ν : Type*)
  | start (i : ι) (m : μ)
  | read (i : ι) (n : ν)
  | update (i : ι)
  | fail (i : ι)

/-- The program of the callers. -/
structure Program (ι V K R μ ν : Type*) where
  /-- what two readings are compared by -/
  view : V → K
  rounds : ℕ
  precheck : ι → μ → Option R
  plan : ι → ν → V → Plan V R
  /-- the answer after the last lost race -/
  exhausted : R
  /-- the answer when an update could not be carried out -/
  failed : R

variable {ι V K R μ ν : Type*} [DecidableEq ι] [DecidableEq K] (p : Program ι V K R μ ν)

def setPhase (s : State ι V K R) (i : ι) (ph : Phase V K R) : State ι V K R :=
  { s with phase := Function.update s.phase i ph }

/-- One atomic step of one caller; a step that its phase does not allow does nothing. -/
def exec (s : State ι V K R) : Event ι μ ν → State ι V K R
  | .start i m =>
    match s.phase i with
    | .idle =>
      match p.precheck i m with
      | some r => setPhase s i (.returned r)
      | none => setPhase s i (.reading p.rounds)
    | _ => s
  | .read i n =>
    match s.phase i with
    | .reading 0 => setPhase s i (.returned p.exhausted)
    | .reading (k + 1) =>
      match p.plan i n s.cell with
      | .answer r => setPhase s i (.returned r)
      | .update f r => setPhase s i (.updating k (p.view s.cell) f r)
    | _ => s
  | .update i =>
    match s.phase i with
    | .updating k expected f r =>
      if p.view s.cell = expected then
        setPhase { s with cell := f s.cell, log := s.log ++ [⟨i, s.cell, f s.cell, r⟩] } i
          (.returned r)
      else setPhase s i (.reading k)
    | _ => s
  | .fail i =>
    match s.phase i with
    | .updating _ _ _ _ => setPhase s i (.returned p.failed)
    | _ => s

def Steps : State ι V K R → List (Event ι μ ν) → State ι V K R → Prop :=
  Run (Step (fun _ _ => True) (exec p))

/-- The updates, one after the other, lead from one value to another. -/
def Chain (v : V) : List (Entry ι V R) → V → Prop
  | [], w => w = v
  | e :: es, w => e.old = v ∧ Chain e.new es w

lemma chain_snoc {v w : V} {es : List (Entry ι V R)} {e : Entry ι V R} (h : Chain v es w)
    (he : e.old = w) : Chain v (es ++ [e]) e.new := by
  induction es generalizing v with
  | nil =>
    obtain rfl : w = v := h
    exact ⟨he, rfl⟩
  | cons a es ih => exact ⟨h.1, ih h.2⟩

/-- The update is what the caller planned on a value that showed the same. -/
def Planned (J : V → Prop) (i : ι) (k : K) (f : V → V) (r : R) : Prop :=
  ∃ n v, J v ∧ p.view v = k ∧ p.plan i n v = .update f r

/-- An answer that comes without an update. -/
def Declined (J : V → Prop) (i : ι) (r : R) : Prop :=
  (∃ m, p.precheck i m = some r) ∨ (∃ n v, J v ∧ p.plan i n v = .answer r) ∨
    r = p.exhausted ∨ r = p.failed

/-- The updates of one caller. -/
def updatesOf (s : State ι V K R) (i : ι) : List (Entry ι V R) :=
  s.log.filter (fun e => e.caller = i)

/-- What holds after any interleaving, from a start at the value `v0`. -/
structure Sound (J : V → Prop) (v0 : V) (s : State ι V K R) : Prop where
  cell : J s.cell
  chain : Chain v0 s.log s.cell
  planned : ∀ e ∈ s.log, J e.old ∧ ∃ f, e.new = f e.old ∧
    Planned p J e.caller (p.view e.old) f e.result
  waiting : ∀ i k e f r, s.phase i = .updating k e f r → Planned p J i e f r
  answered : ∀ i r, s.phase i = .returned r →
    (∃ e, updatesOf s i = [e] ∧ e.result = r) ∨ updatesOf s i = [] ∧ Declined p J i r
  pending : ∀ i, (∀ r, s.phase i ≠ .returned r) → updatesOf s i = []

variable {p} {J : V → Prop} {v0 : V} {s t : State ι V K R}

lemma phase_setPhase (s : State ι V K R) (i j : ι) (ph : Phase V K R) :
    (setPhase s i ph).phase j = if j = i then ph else s.phase j := by
  unfold setPhase
  simp only [Function.update_apply]

/-- A step that only moves one caller on: to a planned update, or to an answer without one. -/
lemma Sound.setPhase (h : Sound p J v0 s) {i : ι} {ph : Phase V K R}
    (hi : ∀ r, s.phase i ≠ .returned r)
    (hu : ∀ k e f r, ph = .updating k e f r → Planned p J i e f r)
    (hr : ∀ r, ph = .returned r → Declined p J i r) :
    Sound p J v0 (setPhase s i ph) where
  cell := h.cell
  chain := h.chain
  planned := h.planned
  waiting j k e f r hj := by
    rw [phase_setPhase] at hj
    split at hj
    · rename_i he
      exact he ▸ hu k e f r hj
    · exact h.waiting j k e f r hj
  answered j r hj := by
    rw [phase_setPhase] at hj
    split at hj
    · rename_i he
      subst he
      exact .inr ⟨h.pending j hi, hr r hj⟩
    · exact h.answered j r hj
  pending j hj := by
    rcases eq_or_ne j i with rfl | hne
    · exact h.pending j hi
    · refine h.pending j fun r hs => hj r ?_
      rw [phase_setPhase, if_neg hne, hs]

/-- The step in which an update happens. -/
lemma Sound.updated (h : Sound p J v0 s) {i : ι} {k : ℕ} {e : K} {f : V → V} {r : R}
    (hi : s.phase i = .updating k e f r) (he : p.view s.cell = e) (hJ : J (f s.cell)) :
    Sound p J v0 (Optimistic.setPhase
      { s with cell := f s.cell, log := s.log ++ [⟨i, s.cell, f s.cell, r⟩] } i
      (.returned r)) := by
  have hpl := h.waiting i k e f r hi
  have hnone : updatesOf s i = [] := h.pending i fun r' hr' => by
    rw [hi] at hr'
    cases hr'
  have hupd : ∀ j, updatesOf (Optimistic.setPhase
      { s with cell := f s.cell, log := s.log ++ [⟨i, s.cell, f s.cell, r⟩] } i
      (.returned r)) j =
      if j = i then [⟨i, s.cell, f s.cell, r⟩] else updatesOf s j := by
    intro j
    simp only [updatesOf, Optimistic.setPhase, List.filter_append]
    split
    · rename_i hj
      subst hj
      simpa [updatesOf] using hnone
    · rename_i hj
      simp [Ne.symm hj]
  refine ⟨hJ, chain_snoc h.chain rfl, ?_, ?_, ?_, ?_⟩
  · intro e' he'
    rcases List.mem_append.1 he' with he' | he'
    · exact h.planned e' he'
    · obtain rfl := List.mem_singleton.1 he'
      exact ⟨h.cell, f, rfl, he ▸ hpl⟩
  · intro j k' e' f' r' hj
    rw [phase_setPhase] at hj
    split at hj
    · cases hj
    · exact h.waiting j k' e' f' r' hj
  · intro j r' hj
    rw [hupd j]
    rw [phase_setPhase] at hj
    split at hj
    · rename_i hji
      rw [if_pos hji]
      exact .inl ⟨_, rfl, by cases hj; rfl⟩
    · rename_i hji
      rw [if_neg hji]
      exact h.answered j r' hj
  · intro j hj
    rw [hupd j]
    rcases eq_or_ne j i with rfl | hne
    · exact absurd (by rw [phase_setPhase, if_pos rfl]) (hj r)
    · rw [if_neg hne]
      refine h.pending j fun r' hs => hj r' ?_
      rw [phase_setPhase, if_neg hne]
      exact hs

/-- The updates keep `J` at the cell. -/
def Keeps (p : Program ι V K R μ ν) (J : V → Prop) : Prop :=
  ∀ i n v f r c, J v → p.plan i n v = .update f r → J c → p.view c = p.view v → J (f c)

/-- **One step of any caller.** -/
theorem Sound.exec (h : Sound p J v0 s) (hJ : Keeps p J) (ev : Event ι μ ν) :
    Sound p J v0 (exec p s ev) := by
  cases ev with
  | start i m =>
    rcases hi : s.phase i with _ | k | ⟨k, e, f, r⟩ | r <;> simp only [Optimistic.exec, hi]
    · rcases ha : p.precheck i m with _ | r <;> simp only
      · exact h.setPhase (by simp [hi]) (by simp) (by simp)
      · refine h.setPhase (by simp [hi]) (by simp) fun r' hr => ?_
        cases hr
        exact .inl ⟨m, ha⟩
    all_goals exact h
  | read i n =>
    rcases hi : s.phase i with _ | k | ⟨k, e, f, r⟩ | r <;> simp only [Optimistic.exec, hi]
    · exact h
    · cases k with
      | zero =>
        refine h.setPhase (by simp [hi]) (by simp) fun r' hr => ?_
        cases hr
        exact .inr (.inr (.inl rfl))
      | succ k =>
        simp only
        rcases hp : p.plan i n s.cell with r | ⟨f, r⟩ <;> simp only
        · refine h.setPhase (by simp [hi]) (by simp) fun r' hr => ?_
          cases hr
          exact .inr (.inl ⟨n, s.cell, h.cell, hp⟩)
        · refine h.setPhase (by simp [hi]) (fun k' e' f' r' hu => ?_) (by simp)
          cases hu
          exact ⟨n, s.cell, h.cell, rfl, hp⟩
    all_goals exact h
  | update i =>
    rcases hi : s.phase i with _ | k | ⟨k, e, f, r⟩ | r <;> simp only [Optimistic.exec, hi]
    · exact h
    · exact h
    · split
      · rename_i he
        obtain ⟨n, v, hv, hve, hp⟩ := h.waiting i k e f r hi
        exact h.updated hi he (hJ i n v f r s.cell hv hp h.cell (he.trans hve.symm))
      · exact h.setPhase (by simp [hi]) (by simp) (by simp)
    · exact h
  | fail i =>
    rcases hi : s.phase i with _ | k | ⟨k, e, f, r⟩ | r <;> simp only [Optimistic.exec, hi]
    · exact h
    · exact h
    · refine h.setPhase (by simp [hi]) (by simp) fun r' hr => ?_
      cases hr
      exact .inr (.inr (.inr rfl))
    · exact h

lemma mem_updatesOf {e : Entry ι V R} (he : e ∈ s.log) : e ∈ updatesOf s e.caller := by
  simp [updatesOf, he]

/-- An update is known by its caller, and the caller answers with its result. -/
lemma Sound.caller_answered (h : Sound p J v0 s) {e : Entry ι V R} (he : e ∈ s.log) :
    updatesOf s e.caller = [e] ∧ s.phase e.caller = .returned e.result := by
  have hm := mem_updatesOf he
  have hret : ∃ r, s.phase e.caller = .returned r := by
    by_contra hn
    have hnil := h.pending e.caller fun r hr => hn ⟨r, hr⟩
    rw [hnil] at hm
    cases hm
  obtain ⟨r, hr⟩ := hret
  rcases h.answered e.caller r hr with ⟨e', he', rfl⟩ | ⟨hnil, -⟩
  · rw [he'] at hm
    obtain rfl := List.mem_singleton.1 hm
    exact ⟨he', hr⟩
  · rw [hnil] at hm
    cases hm

/-- Nobody has called yet. -/
def State.fresh (v : V) : State ι V K R := ⟨v, [], fun _ => .idle⟩

lemma sound_fresh {v : V} (hv : J v) : Sound p J v (.fresh v) :=
  ⟨hv, rfl, by simp [State.fresh], by simp [State.fresh], by simp [State.fresh],
    by simp [updatesOf, State.fresh]⟩

/-- **Every interleaving is sound.** -/
theorem sound_steps {v : V} (hv : J v) (hJ : Keeps p J) {evs : List (Event ι μ ν)}
    (hr : Steps p (.fresh v) evs s) : Sound p J v s :=
  hr.invariant (P := Sound p J v) (sound_fresh hv) fun _ ev _ ha hs => hs.2 ▸ ha.exec hJ ev

/-- A value that no caller plans to update. -/
def Final (p : Program ι V K R μ ν) (J : V → Prop) (v : V) : Prop :=
  ∀ i n u f r, J u → p.view u = p.view v → p.plan i n u ≠ .update f r

lemma Sound.cell_exec (h : Sound p J v0 s) (hf : Final p J s.cell) (ev : Event ι μ ν) :
    (Optimistic.exec p s ev).cell = s.cell ∧ (Optimistic.exec p s ev).log = s.log := by
  cases ev with
  | update i =>
    rcases hi : s.phase i with _ | k | ⟨k, e, f, r⟩ | r <;> simp only [Optimistic.exec, hi]
    · exact ⟨trivial, trivial⟩
    · exact ⟨trivial, trivial⟩
    · split
      · rename_i he
        obtain ⟨n, v, hv, hve, hp⟩ := h.waiting i k e f r hi
        exact absurd hp (hf i n v f r hv (hve.trans he.symm))
      · exact ⟨rfl, rfl⟩
    · exact ⟨trivial, trivial⟩
  | start i m =>
    simp only [Optimistic.exec]
    split
    · split <;> exact ⟨rfl, rfl⟩
    · exact ⟨rfl, rfl⟩
  | read i n =>
    simp only [Optimistic.exec]
    split
    · exact ⟨rfl, rfl⟩
    · split <;> exact ⟨rfl, rfl⟩
    · exact ⟨rfl, rfl⟩
  | fail i =>
    simp only [Optimistic.exec]
    split <;> exact ⟨rfl, rfl⟩

/-- **A final value stays.** -/
theorem Sound.final_steps (h : Sound p J v0 s) (hJ : Keeps p J) (hf : Final p J s.cell)
    {evs : List (Event ι μ ν)} (hr : Steps p s evs t) : t.cell = s.cell ∧ t.log = s.log := by
  have hinv : Sound p J v0 t ∧ t.cell = s.cell ∧ t.log = s.log := by
    refine hr.invariant (P := fun t => Sound p J v0 t ∧ t.cell = s.cell ∧ t.log = s.log)
      ⟨h, rfl, rfl⟩ fun a ev b ha hs => ?_
    obtain ⟨hs', hc, hl⟩ := ha
    obtain ⟨hc', hl'⟩ := hs'.cell_exec (hc ▸ hf) ev
    rw [hs.2]
    exact ⟨hs'.exec hJ ev, hc'.trans hc, hl'.trans hl⟩
  exact hinv.2

end SoftHSM.Optimistic
