import SoftHSM.Library.Settled

/-!
A new object while its attributes are stored: outside a transaction its file, if it has one, is as
the object is, and each transaction ends in one of a few ways.
-/

namespace SoftHSM.Create

open CK_RV Search P11Object OSObject
open RecordFile (Write)

/-- An object outside a transaction, as its file has it if it has one. -/
def stored (isOnToken : Bool) (m : AttributeMap) : OSObject :=
  if isOnToken then ⟨false, m, true, some m, false⟩ else ⟨true, m, true, none, false⟩

/-- How a transaction ends that turns `m` into `m'`. -/
def committed (isOnToken : Bool) (w : Write) (m m' : AttributeMap) : Bool × OSObject :=
  if isOnToken then
    match w with
    | .done => (true, stored true m')
    | .refused => (false, ⟨false, m', false, some m, true⟩)
    | .torn => (false, ⟨false, m', false, none, true⟩)
  else (true, stored false m')

/-- An object in a transaction. -/
def opened (isOnToken : Bool) (m m' : AttributeMap) : OSObject :=
  if isOnToken then ⟨false, m', true, some m, true⟩ else ⟨true, m', true, none, false⟩

section stored

variable {b : Bool} {m m' : AttributeMap} {w : Write}

lemma startTransaction_stored (locks : Bool) : (stored b m).startTransaction locks =
    if b && !locks then (false, stored b m) else (true, opened b m m) := by
  cases b <;> cases locks <;> rfl

lemma abortTransaction_opened :
    (opened b m m').abortTransaction.2 = stored b (if b then m else m') := by
  cases b <;> rfl

lemma commitTransaction_opened : (opened b m m').commitTransaction w = committed b w m m' := by
  cases b <;> cases w <;> rfl

lemma with_attributes_opened (m'' : AttributeMap) :
    { opened b m m' with attributes := m'' } = opened b m m'' := by
  cases b <;> rfl

lemma attributes_opened : (opened b m m').attributes = m' := by cases b <;> rfl

lemma setAttributes_opened (l : List (CK_ATTRIBUTE_TYPE × OSAttribute)) :
    setAttributes l (opened b m m') = (true, opened b m (putAll l m')) := by
  rw [setAttributes_eq (by cases b <;> rfl) (by cases b <;> simp [opened]) l, attributes_opened,
    with_attributes_opened]

lemma valid_stored : (stored b m).valid = true := by cases b <;> rfl

end stored


/-! ### The transactions of `saveTemplate`, of `CreateObject` and of a caller -/

section fill

variable {p : P11Object} {b : Bool} {m : AttributeMap} {stores : CK_ATTRIBUTE_TYPE → Write}
  {token : TokenView} {isPrivate : Bool} {w : Storage} {pTemplate : List CK_ATTRIBUTE}
  {op : ObjectOp}

/-- How a transaction ends for its caller. -/
def answered (rv : CK_RV) : Bool × OSObject → CK_RV × OSObject
  | (true, o) => (CKR_OK, o)
  | (false, o) => (rv, o)

lemma eq_stored {o : OSObject} (hs : o.Settled) (hv : o.valid = true)
    (h : o.isSession = true → o.file = none ∧ o.inTransaction = false) :
    o = stored (!o.isSession) o.attributes := by
  obtain ⟨s, a, v, f, t⟩ := o
  cases s
  · obtain ⟨hf, ht⟩ := hs rfl hv
    simp_all [stored]
  · obtain ⟨hf, ht⟩ := h rfl
    simp_all [stored]

/-- A template leaves something out that the operation needs. -/
def incomplete (p : P11Object) (op : ObjectOp) (pTemplate : List CK_ATTRIBUTE) : Bool :=
  p.attributes.any fun a => mandatory op a && pTemplate.all (·.type ≠ a.type)

lemma saveTemplate_stored (h : op ≠ .SET) (h' : op ≠ .COPY) :
    p.saveTemplate token isPrivate w pTemplate op (stored b m) =
      if b && !w.locks then (CKR_GENERAL_ERROR, stored b m)
      else
        match p.updateAll token isPrivate op pTemplate m with
        | (CKR_OK, m') =>
          if incomplete p op pTemplate then
            (CKR_TEMPLATE_INCOMPLETE, stored b (if b then m else m'))
          else answered CKR_GENERAL_ERROR (committed b w.commit m m')
        | (rv, m') => (rv, stored b (if b then m else m')) := by
  unfold saveTemplate
  rw [startTransaction_stored]
  split
  · rename_i o heq
    split at heq
    · rename_i hc
      rw [if_pos hc]
      cases heq
      rfl
    · cases heq
  · rename_i o heq
    split at heq
    · cases heq
    · rename_i hc
      rw [if_neg hc]
      cases heq
      simp only [h, h', decide_false, Bool.false_and, Bool.false_eq_true, if_false,
        attributes_opened, with_attributes_opened, abortTransaction_opened,
        commitTransaction_opened]
      rcases p.updateAll token isPrivate op pTemplate m with ⟨rv, m'⟩
      cases rv <;> try rfl
      dsimp only
      unfold incomplete
      split
      · rfl
      · rcases committed b w.commit m m' with ⟨_ | _, o⟩ <;> rfl

lemma saveTemplate_locked (h : op ≠ .SET) (h' : op ≠ .COPY) (token : TokenView) (isPrivate : Bool)
    (pTemplate : List CK_ATTRIBUTE) (hl : (b && !w.locks) = true) :
    p.saveTemplate token isPrivate w pTemplate op (stored b m) =
      (CKR_GENERAL_ERROR, stored b m) := by
  rw [saveTemplate_stored h h', if_pos hl]

lemma saveTemplate_refused (h : op ≠ .SET) (h' : op ≠ .COPY) (hl : ¬ (b && !w.locks) = true)
    {rv : CK_RV} {m' : AttributeMap} (hu : p.updateAll token isPrivate op pTemplate m = (rv, m'))
    (hrv : rv ≠ CKR_OK) : p.saveTemplate token isPrivate w pTemplate op (stored b m) =
      (rv, stored b (if b then m else m')) := by
  rw [saveTemplate_stored h h', if_neg hl, hu]
  cases rv <;> first | rfl | exact absurd rfl hrv

lemma saveTemplate_accepted (h : op ≠ .SET) (h' : op ≠ .COPY) (hl : ¬ (b && !w.locks) = true)
    {m' : AttributeMap} (hu : p.updateAll token isPrivate op pTemplate m = (CKR_OK, m')) :
    p.saveTemplate token isPrivate w pTemplate op (stored b m) =
      if incomplete p op pTemplate then
        (CKR_TEMPLATE_INCOMPLETE, stored b (if b then m else m'))
      else answered CKR_GENERAL_ERROR (committed b w.commit m m') := by
  rw [saveTemplate_stored h h', if_neg hl, hu]

lemma setOwn_stored (l : List (CK_ATTRIBUTE_TYPE × OSAttribute)) : setOwn w l (stored b m) =
    if l = [] then (CKR_OK, stored b m)
    else if b && !w.locks then (CKR_GENERAL_ERROR, stored b m)
    else answered CKR_GENERAL_ERROR (committed b w.commit m (putAll l m)) := by
  unfold setOwn
  split
  · rfl
  rw [startTransaction_stored]
  split
  · rename_i o heq
    split at heq
    · rename_i hc
      rw [if_pos hc]
      cases heq
      rfl
    · cases heq
  · rename_i o heq
    split at heq
    · cases heq
    · rename_i hc
      rw [if_neg hc]
      cases heq
      rw [setAttributes_opened]
      dsimp only
      rw [commitTransaction_opened]
      rcases committed b w.commit m (putAll l m) with ⟨_ | _, o⟩ <;> rfl

/-- What an object is left as when what its caller has to store is refused. -/
def refused (b aborts : Bool) (m : AttributeMap) : OSObject :=
  if aborts then stored b m else opened b m m

lemma supplyKey_stored (aborts : Bool) (supply : Supply) : supplyKey w aborts supply (stored b m) =
    if b && !w.locks then (CKR_FUNCTION_FAILED, stored b m)
    else
      match supply m with
      | .error rv => (rv, refused b aborts m)
      | .ok l => answered CKR_FUNCTION_FAILED (committed b w.commit m (putAll l m)) := by
  unfold supplyKey
  rw [valid_stored, Bool.not_true, if_neg Bool.false_ne_true, startTransaction_stored]
  split
  · rename_i o heq
    split at heq
    · rename_i hc
      rw [if_pos hc]
      cases heq
      rfl
    · cases heq
  · rename_i o heq
    split at heq
    · cases heq
    · rename_i hc
      rw [if_neg hc]
      cases heq
      simp only [attributes_opened, setAttributes_opened, commitTransaction_opened,
        abortTransaction_opened, ite_self]
      cases supply m with
      | error rv => cases aborts <;> rfl
      | ok l =>
        dsimp only
        rcases committed b w.commit m (putAll l m) with ⟨_ | _, o⟩ <;> rfl

lemma setAttribute_fst (w : Write) (type : CK_ATTRIBUTE_TYPE) (attr : OSAttribute)
    (o : OSObject) : (o.setAttribute w type attr).1 = (o.setAttribute w type attr).2.valid := by
  unfold setAttribute
  cases hv : o.valid
  · exact hv.symm
  · rw [Bool.not_true, if_neg Bool.false_ne_true]
    dsimp only
    split
    · rfl
    · rfl

lemma initAttributes_fst (l : List P11Attribute) (o : OSObject) (h : l ≠ [] ∨ o.valid = true) :
    (initAttributes stores l o).1 = (initAttributes stores l o).2.valid := by
  induction l generalizing o with
  | nil =>
    rcases h with h | h
    · exact absurd rfl h
    · exact h.symm
  | cons a l ih =>
    rw [initAttributes]
    by_cases hx : (!o.attributeExists a.type) = true
    · rw [if_pos hx]
      have hfst := setAttribute_fst (stores a.type) a.type a.default o
      rcases hr : o.setAttribute (stores a.type) a.type a.default with ⟨_ | _, o₁⟩ <;>
        rw [hr] at hfst
      · exact hfst
      · exact ih o₁ (.inr hfst.symm)
    · rw [if_neg hx]
      simp only [attributeExists, Bool.not_eq_true', Bool.not_eq_false, Bool.and_eq_true] at hx
      exact ih o (.inr hx.1)

/-- `init` of an object gives it its defaults, or a file could not be written. -/
lemma init_stored (stores : CK_ATTRIBUTE_TYPE → Write) (hp : p.attributes ≠ []) :
    (∃ m', p.init stores (stored b m) = (true, stored b m')) ∨
    b = true ∧ ∃ o, p.init stores (stored b m) = (false, o) ∧ o.valid = false ∧
      o.isSession = false := by
  have hfst : (p.init stores (stored b m)).1 = (p.init stores (stored b m)).2.valid :=
    initAttributes_fst _ _ (.inl hp)
  have hkeep : ∀ o : OSObject, o.isSession = !b →
      (b = false → o.file = none ∧ o.inTransaction = false ∧ o.valid = true) →
      ∀ type attr, (o.setAttribute (stores type) type attr).2.isSession = !b ∧
        (b = false → (o.setAttribute (stores type) type attr).2.file = none ∧
          (o.setAttribute (stores type) type attr).2.inTransaction = false ∧
          (o.setAttribute (stores type) type attr).2.valid = true) := by
    intro o hs ho type attr
    cases b
    · obtain ⟨h1, h2, h3⟩ := ho rfl
      simp [setAttribute, hs, h1, h2, h3]
    · refine ⟨?_, fun h => by cases h⟩
      unfold setAttribute
      dsimp only
      split
      · exact hs
      · split
        · exact hs
        · cases stores type <;> exact hs
  have hset : (stored b m).Settled := by
    cases b
    · exact settled_of_session rfl
    · exact fun _ _ => ⟨rfl, rfl⟩
  obtain ⟨hsettled, -⟩ := @init_settled p _ stores hset
  obtain ⟨hs, hb⟩ := @init_induction p (stored b m) stores
    (fun o => o.isSession = !b ∧
      (b = false → o.file = none ∧ o.inTransaction = false ∧ o.valid = true))
    (fun o type attr ho => hkeep o ho.1 ho.2 type attr) (by cases b <;> simp [stored])
  rcases hi : p.init stores (stored b m) with ⟨ok, o⟩
  rw [hi] at hfst hsettled hs hb
  cases ok
  · right
    cases b
    · exact absurd (hb rfl).2.2 (by simpa using hfst.symm)
    · exact ⟨rfl, o, rfl, hfst.symm, hs⟩
  · left
    refine ⟨o.attributes, ?_⟩
    have heq : o = stored (!o.isSession) o.attributes := by
      refine eq_stored hsettled hfst.symm fun hsession => ?_
      have hfalse : b = false := by
        rw [hs] at hsession
        simpa using hsession
      exact ⟨(hb hfalse).1, (hb hfalse).2.1⟩
    rw [hs, Bool.not_not] at heq
    rw [← heq]

end fill

end SoftHSM.Create
