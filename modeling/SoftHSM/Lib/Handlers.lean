import SoftHSM.Lib.RelyGuarantee

/-!
One program alone, with its calls answered by a handler. A handler may stop the program; one that
never does evaluates it. Where two handlers answer every allowed call alike and keep a relation between
their states, so they do with a whole program.
-/

namespace SoftHSM.RelyGuarantee.Program

variable {C α β : Type} {R : C → Type} {σ τ : Type*}

/-- The program with a handler that may stop it. -/
def run (handle : (c : C) → σ → Option (R c × σ)) : Program R α → σ → Option (α × σ)
  | done a, s => some (a, s)
  | call c next, s =>
    match handle c s with
    | none => none
    | some (r, s) => (next r).run handle s

/-- The program with a handler that answers everything. -/
def eval (answer : (c : C) → τ → R c × τ) : Program R α → τ → α × τ
  | done a, t => (a, t)
  | call c next, t => (next (answer c t).1).eval answer (answer c t).2

/-- Every call that the program comes to is allowed. -/
def Along (answer : (c : C) → τ → R c × τ) (allowed : τ → C → Prop) : Program R α → τ → Prop
  | done _, _ => True
  | call c next, t => allowed t c ∧ (next (answer c t).1).Along answer allowed (answer c t).2

variable {handle : (c : C) → σ → Option (R c × σ)} {answer : (c : C) → τ → R c × τ}
  {allowed : τ → C → Prop}

@[simp] lemma eval_pure (a : α) (t : τ) :
    (pure a : Program R α).eval answer t = (a, t) := rfl

@[simp] lemma eval_bind (p : Program R α) (f : α → Program R β) (t : τ) :
    (p >>= f).eval answer t = (f (p.eval answer t).1).eval answer (p.eval answer t).2 := by
  change (p.bind f).eval answer t = _
  induction p generalizing t with
  | done a => rfl
  | call c next ih => exact ih _ _

lemma eval_ite {c : Prop} [Decidable c] (p q : Program R α) (t : τ) :
    (if c then p else q).eval answer t = if c then p.eval answer t else q.eval answer t := by
  split <;> rfl

@[simp] lemma along_pure (a : α) (t : τ) : (pure a : Program R α).Along answer allowed t := trivial

@[simp] lemma along_bind {p : Program R α} {f : α → Program R β} {t : τ} :
    (p >>= f).Along answer allowed t ↔ p.Along answer allowed t ∧
      (f (p.eval answer t).1).Along answer allowed (p.eval answer t).2 := by
  change (p.bind f).Along answer allowed t ↔ _
  induction p generalizing t with
  | done a => exact (and_iff_right trivial).symm
  | call c next ih => exact (and_congr_right fun _ => ih _).trans and_assoc.symm

/-- **Handlers that agree on calls** agree on programs. -/
theorem run_eq_eval {Rel : σ → τ → Prop}
    (hcall : ∀ s t c, Rel s t → allowed t c →
      ∃ s', handle c s = some ((answer c t).1, s') ∧ Rel s' (answer c t).2)
    {p : Program R α} {s : σ} {t : τ} (h : Rel s t) (ha : p.Along answer allowed t) :
    ∃ s', p.run handle s = some ((p.eval answer t).1, s') ∧ Rel s' (p.eval answer t).2 := by
  induction p generalizing s t with
  | done a => exact ⟨s, rfl, h⟩
  | call c next ih =>
    obtain ⟨s', hs', hrel⟩ := hcall s t c h ha.1
    obtain ⟨s'', hrun, hrel'⟩ := ih _ hrel ha.2
    refine ⟨s'', ?_, hrel'⟩
    simp only [run, hs']
    exact hrun

end SoftHSM.RelyGuarantee.Program
