import SoftHSM.Lib.RecordFile

/-!
A record in a file that several processes use, one whole program at a time, with every write done. A
process reads its copy afresh before it looks at it, but not before a plain write, which puts out the
copy as it is.
-/

namespace SoftHSM.RecordFile

variable {σ α β : Type}

namespace Prog

/-- The program of a process with a copy, over the record in the file; afterwards the copy and the
record. -/
def visit : Prog σ α → σ → σ → α × σ × σ
  | .ret a, c, s => (a, c, s)
  | .get k, _, s => (k (some s)).visit s s
  | .peek k, c, s => (k (some c)).visit c s
  | .set _ f k, c, _ => (k true).visit (f c) (f c)
  | .transact _ f k, _, s =>
    match f s with
    | none => (k .aborted).visit s s
    | some s' => (k (.committed s')).visit s' s'

/-- The program looks at the file before anything else, or not at all. -/
def Fresh : Prog σ α → Prop
  | .ret _ => True
  | .get _ => True
  | .peek _ => False
  | .set _ _ _ => False
  | .transact _ _ _ => True

lemma visit_self (p : Prog σ α) (s : σ) :
    p.visit s s = ((p.eval s).1, (p.eval s).2, (p.eval s).2) := by
  induction p generalizing s with
  | ret a => rfl
  | get k ih => exact ih _ _
  | peek k ih => exact ih _ _
  | set w f k ih => exact ih _ _
  | transact w f k ih =>
    simp only [visit, eval]
    cases f s with
    | none => exact ih _ _
    | some s' => exact ih _ _

/-- **A fresh program** does not depend on the copy; the copy stays, or is what the record is now. -/
theorem visit_of_fresh {p : Prog σ α} (h : p.Fresh) (c s : σ) :
    (p.visit c s).1 = (p.eval s).1 ∧ (p.visit c s).2.2 = (p.eval s).2 ∧
      ((p.visit c s).2.1 = c ∨ (p.visit c s).2.1 = (p.eval s).2) := by
  cases p with
  | ret a => exact ⟨rfl, rfl, .inl rfl⟩
  | peek k => exact h.elim
  | set w f k => exact h.elim
  | get k =>
    have hself := visit_self (.get k) s
    have hvisit : (Prog.get k).visit c s = (Prog.get k).visit s s := rfl
    rw [hvisit, hself]
    exact ⟨rfl, rfl, .inr rfl⟩
  | transact w f k =>
    have hself := visit_self (.transact w f k) s
    have hvisit : (Prog.transact w f k).visit c s = (Prog.transact w f k).visit s s := by
      simp only [visit]
    rw [hvisit, hself]
    exact ⟨rfl, rfl, .inr rfl⟩

lemma eval_ite {c : Prop} [Decidable c] (p q : Prog σ α) (s : σ) :
    (if c then p else q).eval s = if c then p.eval s else q.eval s := apply_ite (eval · s) c p q

lemma Fresh.bind {p : Prog σ α} {k : α → Prog σ β} (hp : p.Fresh) (hk : ∀ a, (k a).Fresh) :
    (p >>= k).Fresh := by
  cases p with
  | ret a => exact hk a
  | peek k => exact hp.elim
  | set w f k => exact hp.elim
  | _ => trivial

/-- The program writes its copy before it looks at the file. -/
def Blind : Prog σ α → Prop
  | .set _ _ _ => True
  | _ => False

lemma Blind.bind {p : Prog σ α} (hp : p.Blind) (k : α → Prog σ β) : (p >>= k).Blind := by
  cases p with
  | set w f k => trivial
  | _ => exact hp.elim

lemma visit_of_blind {p : Prog σ α} (h : p.Blind) (c s : σ) : p.visit c s = p.visit c c := by
  cases p with
  | set w f k => rfl
  | _ => exact h.elim

lemma Leaves.eval {γ : Type} {π : σ → γ} {p : Prog σ α} (h : p.Leaves π) (s : σ) :
    π (p.eval s).2 = π s := by
  induction p generalizing s with
  | ret a => rfl
  | get k ih => exact ih _ (h _) _
  | peek k ih => exact ih _ (h _) _
  | set w f k ih => exact (ih _ (h.2 true) _).trans (h.1 s)
  | transact w f k ih =>
    rcases hf : f s with _ | s'
    · simp only [Prog.eval, hf]
      exact ih _ (h.2 _) _
    · simp only [Prog.eval, hf]
      exact (ih _ (h.2 _) _).trans (h.1 s s' hf)

end Prog

end SoftHSM.RecordFile
