import SoftHSM.Library.Kinds
import SoftHSM.Library.MakeKeys

/-!
What an object shows, now or when its file is read again, and what the transactions of a call
make of it: between two calls a valid object of a token is as its file has it.
-/

namespace SoftHSM

open CK_RV P11Object
open RecordFile (Write)

namespace OSObject

/-- What an object shows, now or when its file is read again. -/
def shown (o : OSObject) : Option AttributeMap :=
  if o.isSession then (if o.valid then some o.attributes else none) else o.file

/-- A valid object of a token is as its file has it, and no transaction is open. -/
def Settled (o : OSObject) : Prop :=
  o.isSession = false → o.valid = true → o.file = some o.attributes ∧ o.inTransaction = false

variable {o o' : OSObject} {m : AttributeMap} {w : Write}

lemma shown_of_valid (h : o.Settled) (hv : o.valid = true) : o.shown = some o.attributes := by
  unfold shown
  cases hs : o.isSession
  · exact (h hs hv).1
  · rw [if_pos rfl, if_pos hv]

lemma shown_of_token (hs : o.isSession = false) : o.shown = o.file := by
  rw [shown, hs, if_neg Bool.false_ne_true]

lemma settled_of_session (hs : o.isSession = true) : o.Settled := by
  intro h
  rw [hs] at h
  cases h

lemma settled_of_invalid (hv : o.valid = false) : o.Settled := by
  intro _ h
  rw [hv] at h
  cases h

/-- An open transaction on an object of a token, whose file has `m`. -/
structure Open (m : AttributeMap) (o : OSObject) : Prop where
  token : o.isSession = false
  valid : o.valid = true
  inTransaction : o.inTransaction = true
  file : o.file = some m

lemma reload_cases (hs : o.isSession = false) (ht : o.inTransaction = false) :
    o.reload.Settled ∧ o.reload.isSession = false ∧ o.reload.shown = o.shown ∧
      o.reload.inTransaction = false := by
  cases hf : o.file with
  | none =>
    have hr : o.reload = { o with valid := false } := by rw [reload, hf]
    rw [hr]
    exact ⟨settled_of_invalid rfl, hs, by simp [shown, hs], ht⟩
  | some m =>
    have hr : o.reload = { o with attributes := m, valid := true } := by rw [reload, hf]
    rw [hr]
    exact ⟨fun _ _ => ⟨hf, ht⟩, hs, by simp [shown, hs], ht⟩

/-- A transaction that is refused changes nothing that is shown; one that is begun has what is shown
before it. -/
lemma startTransaction_cases (h : o.Settled) {locks b : Bool}
    (hst : o.startTransaction locks = (b, o')) :
    b = false ∧ o'.Settled ∧ o'.isSession = o.isSession ∧ o'.shown = o.shown ∨
    b = true ∧ o.isSession = true ∧ o' = o ∨
    b = true ∧ o.isSession = false ∧ o.shown = some o'.attributes ∧ Open o'.attributes o' := by
  unfold startTransaction at hst
  cases hs : o.isSession
  · rw [hs, if_neg Bool.false_ne_true] at hst
    by_cases hl : (o.inTransaction || !locks) = true
    · rw [if_pos hl] at hst
      cases hst
      exact .inl ⟨rfl, h, hs, rfl⟩
    · rw [if_neg hl] at hst
      simp only [Bool.or_eq_true, Bool.not_eq_true', not_or, Bool.not_eq_true] at hl
      obtain ⟨hset, hs', hshown, ht⟩ := reload_cases hs hl.1
      cases hv : o.reload.valid
      · simp only [hv, Bool.not_false, if_true] at hst
        cases hst
        exact .inl ⟨rfl, hset, hs', hshown⟩
      · simp only [hv, Bool.not_true, Bool.false_eq_true, if_false] at hst
        cases hst
        have hfile := (hset hs' hv).1
        refine .inr (.inr ⟨rfl, rfl, ?_, hs', rfl, rfl, hfile⟩)
        rw [← hshown, shown_of_token hs', hfile]
  · rw [hs, if_pos rfl] at hst
    cases hst
    exact .inr (.inl ⟨rfl, rfl, rfl⟩)

lemma abortTransaction_open (h : Open m o) (m' : AttributeMap) :
    ({ o with attributes := m' } : OSObject).abortTransaction.2.Settled ∧
    ({ o with attributes := m' } : OSObject).abortTransaction.2.isSession = false ∧
    ({ o with attributes := m' } : OSObject).abortTransaction.2.shown = some m := by
  simp [abortTransaction, reload, h.token, h.inTransaction, h.file, Settled, shown]

lemma abortTransaction_session (hs : o.isSession = true) : o.abortTransaction.2 = o := by
  rw [abortTransaction, if_pos hs]

/-- A commit stores the attributes, leaves the file as it was, or leaves none that can be read. -/
lemma commitTransaction_open (h : Open m o) (m' : AttributeMap) {b : Bool}
    (hc : ({ o with attributes := m' } : OSObject).commitTransaction w = (b, o')) :
    o'.Settled ∧ o'.isSession = false ∧
    (b = true ∧ o'.valid = true ∧ o'.attributes = m' ∧ o'.shown = some m' ∨
      b = false ∧ (o'.shown = some m ∨ o'.shown = none)) := by
  have hs := h.token
  have hv := h.valid
  have ht := h.inTransaction
  have hf := h.file
  cases w <;> simp [commitTransaction, store, hs, hv, ht] at hc <;> obtain ⟨rfl, rfl⟩ := hc
  · exact ⟨fun _ _ => ⟨rfl, rfl⟩, rfl, .inl ⟨rfl, rfl, rfl, rfl⟩⟩
  · exact ⟨settled_of_invalid rfl, rfl, .inr ⟨rfl, .inl hf⟩⟩
  · exact ⟨settled_of_invalid rfl, rfl, .inr ⟨rfl, .inr rfl⟩⟩

lemma commitTransaction_session (hs : o.isSession = true) : o.commitTransaction w = (true, o) := by
  rw [commitTransaction, if_pos hs]

/-- An attribute that is set at once is stored, or the object is invalid. -/
lemma setAttribute_settled (h : o.Settled) (type : CK_ATTRIBUTE_TYPE) (attr : OSAttribute) :
    (o.setAttribute w type attr).2.Settled ∧
    (o.setAttribute w type attr).2.isSession = o.isSession ∧
    ((o.setAttribute w type attr).2.shown = o.shown ∨
      (o.setAttribute w type attr).2.shown = none ∨
      o.valid = true ∧
        (o.setAttribute w type attr).2.shown = some (o.attributes.setAttribute type attr)) := by
  unfold setAttribute
  cases hv : o.valid
  · rw [Bool.not_false, if_pos rfl]
    exact ⟨h, rfl, .inl rfl⟩
  · rw [Bool.not_true, if_neg Bool.false_ne_true]
    cases hs : o.isSession
    · obtain ⟨hf, ht⟩ := h hs hv
      cases w <;> simp [store, Settled, shown, hs, ht]
    · simp [Settled, shown, hs, hv]

end OSObject

open OSObject

/-! ### Attributes in a transaction -/

namespace Create

/-- Attributes that are put one after the other. -/
def putAll (l : List (CK_ATTRIBUTE_TYPE × OSAttribute)) (m : AttributeMap) : AttributeMap :=
  l.foldl (fun m x => m.setAttribute x.1 x.2) m

lemma setAttributes_eq {o : OSObject} (hv : o.valid = true)
    (ht : o.isSession = true ∨ o.inTransaction = true)
    (l : List (CK_ATTRIBUTE_TYPE × OSAttribute)) :
    setAttributes l o = (true, { o with attributes := putAll l o.attributes }) := by
  induction l generalizing o with
  | nil => rfl
  | cons x l ih =>
    have hstep : o.setAttribute .done x.1 x.2 =
        (true, { o with attributes := o.attributes.setAttribute x.1 x.2 }) := by
      rcases ht with ht | ht <;> simp [OSObject.setAttribute, hv, ht]
    rw [setAttributes, hstep]
    exact ih hv ht

end Create

/-! ### What `init` and `saveTemplate` do to an object -/

section calls

variable {p : P11Object} {o o' : OSObject} {stores : CK_ATTRIBUTE_TYPE → Write}

/-- What every step of `init` does: nothing, or an attribute is set. -/
lemma init_induction {I : OSObject → Prop}
    (hset : ∀ (o : OSObject) type attr, I o → I (o.setAttribute (stores type) type attr).2)
    (h : I o) : I (p.init stores o).2 := by
  have hpre : ∀ (l : List Preset) (o : OSObject), I o →
      I (l.foldl (applyPreset stores) o) := by
    intro l
    induction l with
    | nil => exact fun o h => h
    | cons x l ih =>
      intro o h
      refine ih _ ?_
      cases x with
      | value type v =>
        simp only [applyPreset]
        split
        · exact hset _ _ _ h
        · exact h
      | missing type attr =>
        simp only [applyPreset]
        split
        · exact hset _ _ _ h
        · exact h
  have hattr : ∀ (l : List P11Attribute) (o : OSObject), I o → I (initAttributes stores l o).2 := by
    intro l
    induction l with
    | nil => exact fun o h => h
    | cons a l ih =>
      intro o h
      rw [initAttributes]
      by_cases hx : (!o.attributeExists a.type) = true
      · rw [if_pos hx]
        have hi := hset o a.type a.default h
        rcases hs : o.setAttribute (stores a.type) a.type a.default with ⟨b, o₁⟩
        rw [hs] at hi
        cases b
        · exact hi
        · exact ih _ hi
      · rw [if_neg hx]
        exact ih _ h
  exact hattr _ _ (hpre _ _ h)

lemma init_settled (h : o.Settled) :
    (p.init stores o).2.Settled ∧ (p.init stores o).2.isSession = o.isSession := by
  refine init_induction (I := fun o₁ => o₁.Settled ∧ o₁.isSession = o.isSession) ?_ ⟨h, rfl⟩
  intro o₁ type attr ⟨h1, h2⟩
  obtain ⟨hset, hs, -⟩ := setAttribute_settled (w := stores type) h1 type attr
  exact ⟨hset, hs.trans h2⟩

lemma setAttribute_valid_session {w : Write} {type : CK_ATTRIBUTE_TYPE} {attr : OSAttribute}
    (hs : o.isSession = true) : (o.setAttribute w type attr).2.valid = o.valid := by
  unfold OSObject.setAttribute
  cases hv : o.valid <;> simp [hs, hv]

lemma init_session (hs : o.isSession = true) (hv : o.valid = true) :
    (p.init stores o).2.isSession = true ∧ (p.init stores o).2.valid = true := by
  refine init_induction (I := fun o₁ => o₁.isSession = true ∧ o₁.valid = true) ?_ ⟨hs, hv⟩
  intro o₁ type attr ⟨h1, h2⟩
  obtain ⟨-, hs', -⟩ :=
    setAttribute_settled (w := stores type) (settled_of_session h1) type attr
  exact ⟨hs'.trans h1, (setAttribute_valid_session h1).trans h2⟩

variable {token : TokenView} {isPrivate : Bool} {w : Storage} {pTemplate : List CK_ATTRIBUTE}
  {op : ObjectOp} {rv : CK_RV}

/-- How a transaction ends: nothing new is shown, nothing can be read any more, or what the
transaction made of what was shown. -/
def Ends (o o' : OSObject) (f : AttributeMap → AttributeMap) : Prop :=
  o'.shown = o.shown ∨ o'.shown = none ∨
    ∃ m, o.shown = some m ∧ o'.shown = some (f m)

lemma ends_session (hs : o.isSession = true) {f : AttributeMap → AttributeMap} {m : AttributeMap}
    (hm : m = o.attributes ∨ m = f o.attributes) : Ends o { o with attributes := m } f := by
  cases hv : o.valid
  · exact .inl (by simp [shown, hs, hv])
  · rcases hm with rfl | rfl
    · exact .inl (by simp [shown, hs, hv])
    · exact .inr (.inr ⟨o.attributes, by simp [shown, hs, hv], by simp [shown, hs]⟩)

/-- **What `saveTemplate` makes of an object.** -/
theorem saveTemplate_cases (h : o.Settled)
    (hsave : p.saveTemplate token isPrivate w pTemplate op o = (rv, o')) :
    o'.Settled ∧ o'.isSession = o.isSession ∧ (o.isSession = true → o'.valid = o.valid) ∧
    Ends o o' (fun m => (p.updateAll token isPrivate op pTemplate m).2) ∧
    (rv = CKR_OK → (o.isSession = true ∨ o'.valid = true) ∧ ∃ m,
      (o.isSession = true → m = o.attributes) ∧ (o.isSession = false → o.shown = some m) ∧
      p.updateAll token isPrivate op pTemplate m = (CKR_OK, o'.attributes)) := by
  unfold saveTemplate at hsave
  rcases hst : o.startTransaction w.locks with ⟨b, o₁⟩
  rw [hst] at hsave
  rcases startTransaction_cases h hst with ⟨rfl, hset, hs, hshown⟩ | ⟨rfl, hs, rfl⟩ |
    ⟨rfl, hs, hshown, hopen⟩
  · cases hsave
    refine ⟨hset, hs, fun hsession => ?_, .inl hshown, fun hr => by cases hr⟩
    unfold startTransaction at hst
    rw [if_pos hsession] at hst
    cases hst
  · -- a session object keeps what a failed template has already changed
    have hab : ∀ m, ({ o₁ with attributes := m } : OSObject).abortTransaction.2 =
        { o₁ with attributes := m } := fun m =>
      abortTransaction_session (o := { o₁ with attributes := m }) hs
    simp only [abortTransaction_session hs] at hsave
    split at hsave
    · cases hsave
      exact ⟨h, rfl, fun _ => rfl, .inl rfl, fun hr => by cases hr⟩
    split at hsave
    · cases hsave
      exact ⟨h, rfl, fun _ => rfl, .inl rfl, fun hr => by cases hr⟩
    rcases hu : p.updateAll token isPrivate op pTemplate o₁.attributes with ⟨rv', m'⟩
    rw [hu] at hsave
    have hends : Ends o₁ { o₁ with attributes := m' }
        (fun m => (p.updateAll token isPrivate op pTemplate m).2) :=
      ends_session hs (.inr (by rw [hu]))
    have hset : ({ o₁ with attributes := m' } : OSObject).Settled := settled_of_session hs
    by_cases hrv : rv' = CKR_OK
    · subst hrv
      simp only [hab] at hsave
      split at hsave
      · cases hsave
        exact ⟨hset, rfl, fun _ => rfl, hends, fun hr => by cases hr⟩
      · rw [commitTransaction_session (o := { o₁ with attributes := m' }) hs] at hsave
        cases hsave
        refine ⟨hset, rfl, fun _ => rfl, hends, fun _ => ⟨.inl hs, o₁.attributes, fun _ => rfl,
          fun hf => ?_, hu⟩⟩
        rw [hs] at hf
        cases hf
    · simp only [hab] at hsave
      cases hsave
      exact ⟨hset, rfl, fun _ => rfl, hends, fun hr => absurd hr hrv⟩
  · have habort : ∀ m, ({ o₁ with attributes := m } : OSObject).abortTransaction.2.Settled ∧
        ({ o₁ with attributes := m } : OSObject).abortTransaction.2.isSession = o.isSession ∧
        (o.isSession = true →
          ({ o₁ with attributes := m } : OSObject).abortTransaction.2.valid = o.valid) ∧
        Ends o ({ o₁ with attributes := m } : OSObject).abortTransaction.2
          (fun m => (p.updateAll token isPrivate op pTemplate m).2) := by
      intro m
      obtain ⟨h1, h2, h3⟩ := abortTransaction_open hopen m
      refine ⟨h1, h2.trans hs.symm, fun hf => ?_, .inl (h3.trans hshown.symm)⟩
      rw [hs] at hf
      cases hf
    have habort' := habort o₁.attributes
    dsimp only at hsave
    split at hsave
    · cases hsave
      exact ⟨habort'.1, habort'.2.1, habort'.2.2.1, habort'.2.2.2, fun hr => by cases hr⟩
    split at hsave
    · cases hsave
      exact ⟨habort'.1, habort'.2.1, habort'.2.2.1, habort'.2.2.2, fun hr => by cases hr⟩
    rcases hu : p.updateAll token isPrivate op pTemplate o₁.attributes with ⟨rv', m'⟩
    rw [hu] at hsave
    obtain ⟨ha1, ha2, ha3, ha4⟩ := habort m'
    by_cases hrv : rv' = CKR_OK
    · subst hrv
      simp only at hsave
      split at hsave
      · cases hsave
        exact ⟨ha1, ha2, ha3, ha4, fun hr => by cases hr⟩
      · rcases hcm : ({ o₁ with attributes := m' } : OSObject).commitTransaction w.commit with ⟨b, o₂⟩
        rw [hcm] at hsave
        obtain ⟨h1, h2, h3⟩ := commitTransaction_open hopen m' hcm
        have hsession : o.isSession = true → o₂.valid = o.valid := by
          intro hf
          rw [hs] at hf
          cases hf
        rcases h3 with ⟨rfl, hv, hattr, h4⟩ | ⟨rfl, h4⟩
        · cases hsave
          refine ⟨h1, h2.trans hs.symm, hsession,
            .inr (.inr ⟨_, hshown, by simp only [h4, hu]⟩), fun _ => ⟨.inr hv, o₁.attributes, fun hf => ?_,
              fun _ => hshown, by rw [hu, hattr]⟩⟩
          rw [hs] at hf
          cases hf
        · cases hsave
          refine ⟨h1, h2.trans hs.symm, hsession, ?_, fun hr => by cases hr⟩
          rcases h4 with h4 | h4
          · exact .inl (h4.trans hshown.symm)
          · exact .inr (.inl h4)
    · split at hsave
      · rename_i heq
        cases heq
        exact absurd rfl hrv
      · rename_i heq
        cases heq
        cases hsave
        exact ⟨ha1, ha2, ha3, ha4, fun hr => absurd hr hrv⟩

end calls

end SoftHSM
