import SoftHSM.Library.Changes
import SoftHSM.Library.Creations

/-!
What `C_SetAttributeValue` and `C_CopyObject` do to the objects: a copy has the attributes of the
other object, with its byte strings encrypted where it becomes private.
-/

set_option linter.unusedSectionVars false

namespace SoftHSM.Create

open CK_RV Search P11Object OSObject
open RecordFile (Write)

variable {Obj Sess : Type} [DecidableEq Obj] [DecidableEq Sess]

/-! ### Objects that are given what they lack -/

/-- Changing an object of the stores by a template. -/
def changing (p : P11Object) (token : TokenView) (isPrivate : Bool) (op : ObjectOp)
    (pTemplate : List CK_ATTRIBUTE) : Changing :=
  ⟨p, token, isPrivate, op, pTemplate, fun _ _ => False⟩

section read

variable {stores : CK_ATTRIBUTE_TYPE → Write} {o o' : OSObject} {p : P11Object}

lemma newP11Object_cases (stores : CK_ATTRIBUTE_TYPE → Write) (hv : o.valid = true) :
    (attributeKind o.attributes = none ∧
      newP11Object stores o = (.error CKR_ATTRIBUTE_VALUE_INVALID, o)) ∨
    ∃ p, attributeKind o.attributes = some p ∧
      newP11Object stores o =
        (if (p.init stores o).1 then .ok p else .error CKR_GENERAL_ERROR, (p.init stores o).2) := by
  unfold newP11Object
  rw [kindOf_of_valid hv]
  cases hk : attributeKind o.attributes with
  | none => exact .inl ⟨rfl, rfl⟩
  | some p =>
    refine .inr ⟨p, rfl, ?_⟩
    rcases hi : p.init stores o with ⟨_ | _, o'⟩ <;> simp [hi]

/-- After `init` has succeeded the object is valid. -/
lemma valid_of_init (hp : p.attributes ≠ []) (h : p.init stores o = (true, o')) :
    o'.valid = true := by
  have hfst : (p.init stores o).1 = (p.init stores o).2.valid :=
    initAttributes_fst _ _ (.inl hp)
  rw [h] at hfst
  exact hfst.symm

/-- What is shown after `init` has succeeded. -/
lemma shown_of_init (hp : p.attributes ≠ []) (ho : o'.Settled) (h : p.init stores o = (true, o')) :
    ∀ m, o'.shown = some m → Prepared p m := by
  intro m hm
  rw [shown_of_valid ho (valid_of_init hp h)] at hm
  cases hm
  exact prepared_of_init hp h

end read

/-! ### Changing an object -/

/-- What a call does to an object whose attributes it changes. -/
structure Changed (c : Changing) (o o' : OSObject) : Prop where
  valid : o.valid = true
  kind : attributeKind o.attributes = some c.p11object
  settled : o'.Settled
  becomes : Becomes c.Leads o o'

section set

variable {P : Primitives} {x : Outside} {st st' : Store Obj Sess} {rv : CK_RV}
  {stores : CK_ATTRIBUTE_TYPE → Write} {w : Storage} {hSession hObject : ℕ}
  {pTemplate : Option (List CK_ATTRIBUTE)}

/-- **What `C_SetAttributeValue` does to the objects.** -/
theorem setAttributeValue_changed (hset : ∀ o, (st.object o).Settled)
    (h : C_SetAttributeValue P x stores w hSession hObject pTemplate st = (rv, st')) :
    rv ≠ CKR_OK ∧ st' = st ∨
    ∃ t s o object p, pTemplate = some t ∧ st.handleManager.getSession hSession = some s ∧
      st.handleManager.getObject hObject = some o ∧ st' = st.setObject o object ∧
      Changed (changing p (token P x (st.sdm (st.session s).slotID))
        ((st.object o).attributes.getBooleanValue CKA_PRIVATE true) .SET t) (st.object o) object ∧
      (rv = CKR_OK → object.shown = some object.attributes ∧
        ∃ m, p.updateAll (token P x (st.sdm (st.session s).slotID))
          ((st.object o).attributes.getBooleanValue CKA_PRIVATE true) .SET t m =
          (CKR_OK, object.attributes)) := by
  unfold C_SetAttributeValue at h
  split at h
  · cases h
    exact .inl ⟨by simp, rfl⟩
  split at h
  · cases h
    exact .inl ⟨by simp, rfl⟩
  · cases h
    exact .inl ⟨by simp, rfl⟩
  rename_i t s hs
  split at h
  · cases h
    exact .inl ⟨by simp, rfl⟩
  split at h
  · cases h
    exact .inl ⟨by simp, rfl⟩
  rename_i o ho
  dsimp only at h
  split at h
  · cases h
    exact .inl ⟨by simp, rfl⟩
  rename_i hv
  rw [Bool.not_eq_true, Bool.not_eq_false'] at hv
  split at h
  · rename_i hrv
    cases h
    exact .inl ⟨hrv, rfl⟩
  split at h
  · cases h
    exact .inl ⟨by simp, rfl⟩
  have hinit : ∀ p, Becomes (changing p (token P x (st.sdm (st.session s).slotID))
      ((st.object o).attributes.getBooleanValue CKA_PRIVATE true) .SET t).Leads (st.object o)
      (p.init stores (st.object o)).2 := fun p =>
    init_becomes (c := changing p (token P x (st.sdm (st.session s).slotID))
      ((st.object o).attributes.getBooleanValue CKA_PRIVATE true) .SET t) stores (hset o)
  rcases newP11Object_cases stores hv with ⟨hk, hn⟩ | ⟨p, hk, hn⟩
  · rw [hn] at h
    cases h
    refine .inl ⟨by simp, ?_⟩
    rw [Store.setObject, Function.update_eq_self]
  right
  refine ⟨t, s, o, ?_⟩
  rcases hi : p.init stores (st.object o) with ⟨_ | _, object⟩
  · rw [hn, hi] at h
    cases h
    have hsettled : (p.init stores (st.object o)).2.Settled := (init_settled (hset o)).1
    have hbecomes := hinit p
    rw [hi] at hsettled hbecomes
    exact ⟨object, p, rfl, hs, ho, rfl, ⟨hv, hk, hsettled, hbecomes⟩, fun hr => by cases hr⟩
  · rw [hn, hi] at h
    have hsettled : (p.init stores (st.object o)).2.Settled := (init_settled (hset o)).1
    have hbecomes := hinit p
    rw [hi] at hsettled hbecomes
    simp only [if_true] at h
    rcases hsave : p.saveTemplate (token P x (st.sdm (st.session s).slotID))
      ((st.object o).attributes.getBooleanValue CKA_PRIVATE true) w t .SET object with ⟨rv', object'⟩
    rw [hsave] at h
    cases h
    obtain ⟨hsettled', -, hsession, -, hok⟩ := saveTemplate_cases hsettled hsave
    refine ⟨object', p, rfl, hs, ho, rfl, ⟨hv, hk, hsettled', ?_⟩, fun hr => ?_⟩
    · exact hbecomes.trans (fun m m' m'' => Changing.Leads.trans)
        (saveTemplate_becomes (c := changing p (token P x (st.sdm (st.session s).slotID))
          ((st.object o).attributes.getBooleanValue CKA_PRIVATE true) .SET t) hsettled
          (shown_of_init (kinds_ne_nil _ (p11ObjectOf_mem hk)) hsettled hi) hsave)
    · obtain ⟨hvalid, m, -, -, hu⟩ := hok hr
      have hv' : object'.valid = true := by
        rcases hvalid with hss | hv'
        · rw [hsession hss]
          exact valid_of_init (kinds_ne_nil _ (p11ObjectOf_mem hk)) hi
        · exact hv'
      exact ⟨shown_of_valid hsettled' hv', m, hu⟩

end set

/-! ### Copying -/

/-- The attributes of a copy, before the template. -/
def Copied (token : TokenView) (upgrade : Bool) (m m' : AttributeMap) : Prop :=
  ∀ type, OrderedMap.get type m' = (OrderedMap.get type m).bind (copyAttribute token upgrade)

section copy

variable {token : TokenView} {upgrade b : Bool} {source m m' : AttributeMap} {y : OSObject}

/-- What is not a byte string is the same in a copy. -/
lemma Copied.get {type : CK_ATTRIBUTE_TYPE} (h : Copied token upgrade m m') {attr : OSAttribute}
    (hattr : ∀ value, attr ≠ .byteString value) :
    OrderedMap.get type m' = some attr ↔ OrderedMap.get type m = some attr := by
  rw [h type]
  cases hm : OrderedMap.get type m with
  | none => simp
  | some attr' =>
    rw [Option.bind_some]
    cases attr' with
    | byteString value =>
      refine iff_of_false ?_ fun he => hattr value (Option.some.inj he).symm
      unfold copyAttribute
      dsimp only
      split
      · cases token.encrypt value with
        | none => simp
        | some value' => exact fun he => hattr value' (Option.some.inj he).symm
      · exact fun he => hattr value (Option.some.inj he).symm
    | boolean v => rfl
    | unsignedLong v => rfl
    | mechanismTypeSet v => rfl
    | attributeMap v => rfl

lemma setAttribute_opened (type : CK_ATTRIBUTE_TYPE) (attr : OSAttribute) :
    (opened b m m').setAttribute .done type attr =
      (true, opened b m (m'.setAttribute type attr)) := by
  cases b <;> rfl

/-- The loop of `C_CopyObject`. -/
lemma copyAttributes_opened (types : List CK_ATTRIBUTE_TYPE) :
    ∃ ok m'', copyAttributes token upgrade source types (opened b m m') = (ok, opened b m m'') ∧
      (ok = true → ∀ type, OrderedMap.get type m'' =
        if type ∈ types then (OrderedMap.get type source).bind (copyAttribute token upgrade)
        else OrderedMap.get type m') := by
  induction types generalizing m' with
  | nil => exact ⟨true, m', rfl, fun _ type => by simp⟩
  | cons t types ih =>
    rw [copyAttributes]
    cases hattr : (OrderedMap.get t source).bind (copyAttribute token upgrade) with
    | none => exact ⟨false, m', rfl, fun h => by cases h⟩
    | some attr =>
      obtain ⟨ok, m'', hc, hget⟩ := @ih (m'.setAttribute t attr)
      refine ⟨ok, m'', ?_, fun hok type => ?_⟩
      · dsimp only
        rw [setAttribute_opened]
        exact hc
      · rw [hget hok type]
        by_cases hin : type ∈ types
        · rw [if_pos hin, if_pos (List.mem_cons_of_mem _ hin)]
        · rw [if_neg hin, AttributeMap.get_setAttribute]
          by_cases ht : type = t
          · subst ht
            rw [if_pos rfl, if_pos List.mem_cons_self, hattr]
          · rw [if_neg ht, if_neg (by simp [ht, hin])]

lemma mem_types_iff (type : CK_ATTRIBUTE_TYPE) :
    type ∈ source.map (·.1) ↔ (OrderedMap.get type source).isSome = true := by
  rw [Option.isSome_iff_ne_none, Ne, OrderedMap.get_eq_none]
  simp only [List.mem_map, not_forall, not_not]
  exact ⟨fun ⟨e, he, ht⟩ => ⟨e, he, ht⟩, fun ⟨e, he, ht⟩ => ⟨e, he, ht⟩⟩

/-- The copy of all attributes, to a new object. -/
lemma copyAttributes_copied : ∃ ok m'', copyAttributes token upgrade source (source.map (·.1))
    (opened b [] []) = (ok, opened b [] m'') ∧ (ok = true → Copied token upgrade source m'') := by
  obtain ⟨ok, m'', hc, hget⟩ :=
    @copyAttributes_opened token upgrade b source [] [] (source.map (·.1))
  refine ⟨ok, m'', hc, fun hok type => ?_⟩
  rw [hget hok type]
  split
  · rfl
  · rename_i hin
    rw [mem_types_iff, Bool.not_eq_true, Option.isSome_eq_false_iff,
      Option.isNone_iff_eq_none] at hin
    rw [hin]
    rfl

/-- What a copy may show: nothing yet, or what the copied attributes may come to be. -/
def OnCopy (token : TokenView) (upgrade isPrivate : Bool) (pTemplate : List CK_ATTRIBUTE)
    (source m' : AttributeMap) : Prop :=
  ∃ m₀, Copied token upgrade source m₀ ∧ (m' = m₀ ∨ ∃ p, attributeKind m₀ = some p ∧
    (changing p token isPrivate .COPY pTemplate).Leads m₀ m')

/-- **What `C_CopyObject` makes of a new object.** -/
theorem fillCopy_outcome {mk : Making Obj} {wasPrivate isPrivate : Bool}
    {pTemplate : List CK_ATTRIBUTE} {rv : CK_RV}
    (h : fillCopy token mk wasPrivate isPrivate source pTemplate (blank b) = (rv, y)) :
    (rv ≠ CKR_OK → y.isSession = true ∨ ∀ m', y.shown = some m' →
      m' = [] ∨ OnCopy token (!wasPrivate && isPrivate) isPrivate pTemplate source m') ∧
    (rv = CKR_OK → y.Settled ∧ y.shown = some y.attributes ∧ ∃ p m₀ m₁,
      Copied token (!wasPrivate && isPrivate) source m₀ ∧ attributeKind m₀ = some p ∧
      (changing p token isPrivate .COPY pTemplate).Leads m₀ m₁ ∧ Prepared p m₁ ∧
      p.updateAll token isPrivate .COPY pTemplate m₁ = (CKR_OK, y.attributes)) := by
  unfold fillCopy at h
  rw [blank, startTransaction_stored] at h
  by_cases hl : (b && !mk.own.locks) = true
  · rw [if_pos hl] at h
    cases h
    refine ⟨fun _ => .inr fun m' hm' => .inl ?_, fun hr => by cases hr⟩
    rw [shown_stored] at hm'
    exact (Option.some.inj hm').symm
  rw [if_neg hl] at h
  dsimp only at h
  split at h
  · rw [abortTransaction_opened, ite_self] at h
    cases h
    refine ⟨fun _ => .inr fun m' hm' => .inl ?_, fun hr => by cases hr⟩
    rw [shown_stored] at hm'
    exact (Option.some.inj hm').symm
  obtain ⟨ok, m'', hc, hcopied⟩ := 
    @copyAttributes_copied token (!wasPrivate && isPrivate) b source
  rw [hc] at h
  cases ok
  · dsimp only at h
    rw [abortTransaction_opened] at h
    cases h
    refine ⟨fun _ => ?_, fun hr => by cases hr⟩
    cases b
    · exact .inl rfl
    · refine .inr fun m' hm' => .inl ?_
      rw [if_pos rfl, shown_stored] at hm'
      exact (Option.some.inj hm').symm
  replace hcopied := hcopied rfl
  dsimp only at h
  rw [commitTransaction_opened] at h
  obtain ⟨-, hshown, hdone⟩ := committed_cases (b := b) mk.own.commit [] m''
  rcases hcommit : committed b mk.own.commit [] m'' with ⟨_ | _, o⟩ <;> rw [hcommit] at h hshown hdone
  · cases h
    refine ⟨fun _ => .inr fun m' hm' => ?_, fun hr => by cases hr⟩
    rcases hshown m' hm' with rfl | rfl
    · exact .inl rfl
    · exact .inr ⟨m', hcopied, .inl rfl⟩
  obtain rfl : o = stored b m'' := hdone rfl
  dsimp only at h
  have hon : ∀ y : OSObject, (∀ m', y.shown = some m' → m' = m'' ∨ ∃ p, attributeKind m'' = some p ∧
        (changing p token isPrivate .COPY pTemplate).Leads m'' m') →
      y.isSession = true ∨ ∀ m', y.shown = some m' →
        m' = [] ∨ OnCopy token (!wasPrivate && isPrivate) isPrivate pTemplate source m' :=
    fun y hy => .inr fun m' hm' => .inr ⟨m'', hcopied, hy m' hm'⟩
  have hattr : (stored b m'').attributes = m'' := by cases b <;> rfl
  rcases newP11Object_cases mk.stores (valid_stored (b := b) (m := m'')) with
    ⟨-, hn⟩ | ⟨p, hk, hn⟩
  · rw [hn] at h
    cases h
    refine ⟨fun _ => hon _ fun m' hm' => .inl ?_, fun hr => by cases hr⟩
    rw [shown_stored] at hm'
    exact (Option.some.inj hm').symm
  rw [hattr] at hk
  have hbecomes := init_becomes (c := changing p token isPrivate .COPY pTemplate)
    mk.stores (settled_stored (b := b) m'')
  have hsettled : (p.init mk.stores (stored b m'')).2.Settled :=
    (init_settled (settled_stored (b := b) m'')).1
  rcases hi : p.init mk.stores (stored b m'') with ⟨_ | _, object⟩ <;>
    rw [hn, hi] at h <;> simp only [changing, hi] at hbecomes hsettled
  · cases h
    refine ⟨fun _ => hon _ fun m' hm' => .inr ⟨p, hk, ?_⟩, fun hr => by cases hr⟩
    obtain ⟨m₂, hm₂, hleads⟩ := hbecomes m' hm'
    rw [shown_stored] at hm₂
    cases hm₂
    exact hleads
  · simp only [if_true] at h
    obtain ⟨hsettled', -, hsession, -, hok⟩ := saveTemplate_cases hsettled h
    have hprepared := shown_of_init (kinds_ne_nil _ (p11ObjectOf_mem hk)) hsettled hi
    have hsave := saveTemplate_becomes (c := changing p token isPrivate .COPY pTemplate) hsettled
      hprepared h
    have hall : ∀ m', object.shown = some m' →
        (changing p token isPrivate .COPY pTemplate).Leads m'' m' := by
      intro m' hm'
      obtain ⟨m₂, hm₂, hleads⟩ := hbecomes m' hm'
      rw [shown_stored] at hm₂
      cases hm₂
      exact hleads
    refine ⟨fun _ => hon _ fun m' hm' => .inr ⟨p, hk, ?_⟩, fun hr => ?_⟩
    · obtain ⟨m₂, hm₂, hleads⟩ := hsave m' hm'
      exact (hall m₂ hm₂).trans hleads
    · obtain ⟨hvalid, m₁, hm₁, hm₁', hu⟩ := hok hr
      have hvi := valid_of_init (kinds_ne_nil _ (p11ObjectOf_mem hk)) hi
      have hv' : y.valid = true := by
        rcases hvalid with hss | hv'
        · rw [hsession hss]
          exact hvi
        · exact hv'
      have hshown : object.shown = some m₁ := by
        cases hs : object.isSession
        · exact hm₁' hs
        · rw [hm₁ hs]
          exact shown_of_valid hsettled hvi
      exact ⟨hsettled', shown_of_valid hsettled' hv', p, m'', m₁, hcopied, hk, hall m₁ hshown,
        hprepared m₁ hshown, hu⟩

end copy

/-- Whether the attributes that are shown are those of a private object. -/
def wasPrivate (m : AttributeMap) : Bool := m.getBooleanValue CKA_PRIVATE true

/-- Whether a template makes a copy private. -/
def becomesPrivate (m : AttributeMap) (pTemplate : List CK_ATTRIBUTE) : Bool :=
  boolOf CKA_PRIVATE (if wasPrivate m then CK_TRUE else CK_FALSE) pTemplate ≠ CK_FALSE

/-- What a call does to the objects that copies `o`. -/
structure CopyOf (token : TokenView) (pTemplate : List CK_ATTRIBUTE) (source : OSObject)
    (rv : CK_RV) (y : OSObject) : Prop where
  valid : source.valid = true
  copyable : source.attributes.getBooleanValue CKA_COPYABLE true = true
  private_ : wasPrivate source.attributes = true → becomesPrivate source.attributes pTemplate = true
  settled : y.Settled
  failed : rv ≠ CKR_OK → ∀ m', y.shown = some m' → m' = [] ∨
    OnCopy token (!wasPrivate source.attributes && becomesPrivate source.attributes pTemplate)
      (becomesPrivate source.attributes pTemplate) pTemplate source.attributes m'
  succeeded : rv = CKR_OK → y.shown = some y.attributes ∧ ∃ p m₀ m₁,
    Copied token (!wasPrivate source.attributes && becomesPrivate source.attributes pTemplate)
      source.attributes m₀ ∧ attributeKind m₀ = some p ∧
    (changing p token (becomesPrivate source.attributes pTemplate) .COPY pTemplate).Leads m₀ m₁ ∧
    Prepared p m₁ ∧ p.updateAll token (becomesPrivate source.attributes pTemplate) .COPY pTemplate m₁ =
      (CKR_OK, y.attributes)

section call

variable {P : Primitives} {x : Outside} {st st' : Store Obj Sess} {rv : CK_RV} {mk : Making Obj}
  {hSession hObject hNew : ℕ} {pTemplate : Option (List CK_ATTRIBUTE)}

/-- What is destroyed shows what its file holds, if that is left. -/
lemma destroyObject_shown (r : Removal) (o : Obj) (st : Store Obj Sess) :
    ((destroyObject r o st).object o).Settled ∧
    ∀ m', ((destroyObject r o st).object o).shown = some m' →
      (st.object o).isSession = false ∧ (st.object o).shown = some m' := by
  have hsettled : ∀ object : OSObject, object.valid = false →
      ((st.setObject o object).object o).Settled := fun object hv => by
    simp only [Store.setObject, Function.update_self]
    exact settled_of_invalid hv
  unfold destroyObject
  dsimp only
  split
  · refine ⟨hsettled _ rfl, fun m' hm' => ?_⟩
    simp [Store.setObject, shown] at hm'
  · rename_i hc
    simp only [Bool.or_eq_true, Bool.and_eq_true, not_or, Bool.not_eq_true] at hc
    split
    · refine ⟨hsettled _ rfl, fun m' hm' => ?_⟩
      simp [Store.setObject, shown] at hm'
    · refine ⟨hsettled _ rfl, fun m' hm' => ⟨hc.1, ?_⟩⟩
      simp only [Store.setObject, Function.update_self] at hm'
      rw [shown_of_token hc.1]
      exact (shown_of_token (o := { st.object o with attributes := [], valid := false })
        hc.1).symm.trans hm'

/-- **What `C_CopyObject` does to the objects.** -/
theorem copyObject_outcome
    (h : C_CopyObject P x mk hSession hObject pTemplate st = (rv, hNew, st')) :
    rv ≠ CKR_OK ∧ st' = st ∨
    ∃ t s o, pTemplate = some t ∧ st.handleManager.getSession hSession = some s ∧
      st.handleManager.getObject hObject = some o ∧
      (∀ o' ≠ mk.newObject, st'.object o' = st.object o') ∧
      CopyOf (token P x (st.sdm (st.session s).slotID)) t (st.object o) rv
        (st'.object mk.newObject) := by
  unfold C_CopyObject at h
  split at h
  · cases h
    exact .inl ⟨by simp, rfl⟩
  split at h
  · cases h
    exact .inl ⟨by simp, rfl⟩
  · cases h
    exact .inl ⟨by simp, rfl⟩
  rename_i t s hs
  split at h
  · cases h
    exact .inl ⟨by simp, rfl⟩
  rename_i o ho
  dsimp only at h
  split at h
  · cases h
    exact .inl ⟨by simp, rfl⟩
  rename_i hv
  rw [Bool.not_eq_true, Bool.not_eq_false'] at hv
  split at h
  · rename_i hrv
    cases h
    exact .inl ⟨hrv, rfl⟩
  split at h
  · cases h
    exact .inl ⟨by simp, rfl⟩
  rename_i hcopyable
  rw [Bool.not_eq_true, Bool.not_eq_false'] at hcopyable
  have hb : decide (boolOf CKA_PRIVATE (if (st.object o).attributes.getBooleanValue CKA_PRIVATE
      true = true then CK_TRUE else CK_FALSE) t ≠ CK_FALSE) =
      becomesPrivate (st.object o).attributes t := rfl
  have hw : (st.object o).attributes.getBooleanValue CKA_PRIVATE true =
      wasPrivate (st.object o).attributes := rfl
  rw [hb, hw] at h
  generalize decide (boolOf CKA_TOKEN _ t ≠ CK_FALSE) = isOnToken at h
  split at h
  · cases h
    exact .inl ⟨by simp, rfl⟩
  rename_i hprivate
  split at h
  · rename_i hrv
    cases h
    exact .inl ⟨hrv, rfl⟩
  have hpriv : wasPrivate (st.object o).attributes = true →
      becomesPrivate (st.object o).attributes t = true := by
    intro hw
    by_contra hb
    rw [Bool.not_eq_true] at hb
    refine hprivate ?_
    rw [hw, hb]
    rfl
  have hothers : ∀ y : OSObject, ∀ o' ≠ mk.newObject,
      (insertObject (st.session s).slotID mk y st).object o' = st.object o' :=
    fun y o' hne => object_insert_of_ne hne
  -- the file of the copy, if it has one
  have hcreate : createObject (st.session s).slotID isOnToken mk st = (false, st) ∨
      createObject (st.session s).slotID isOnToken mk st = (false,
        insertObject (st.session s).slotID mk ⟨false, [], false, some [], false⟩ st) ∨
      createObject (st.session s).slotID isOnToken mk st =
        (true, insertObject (st.session s).slotID mk (blank isOnToken) st) := by
    unfold createObject
    cases isOnToken
    · exact .inr (.inr rfl)
    · cases mk.file
      · exact .inr (.inr rfl)
      · exact .inl rfl
      · exact .inr (.inl rfl)
  rcases hcreate with hc | hc | hc <;> rw [hc] at h
  · cases h
    exact .inl ⟨by simp, rfl⟩
  · cases h
    refine .inr ⟨t, s, o, rfl, hs, ho, hothers _, hv, hcopyable, hpriv, ?_, fun _ m' hm' => ?_,
      fun hr => by cases hr⟩
    · rw [object_insertObject]
      exact settled_of_invalid rfl
    · rw [object_insertObject] at hm'
      exact .inl (Option.some.inj hm').symm
  · right
    dsimp only at h
    rw [object_insertObject] at h
    have hsdm : (insertObject (st.session s).slotID mk (blank isOnToken) st).sdm = st.sdm := rfl
    rw [hsdm] at h
    rcases hfill : fillCopy (token P x (st.sdm (st.session s).slotID)) mk
      (wasPrivate (st.object o).attributes) (becomesPrivate (st.object o).attributes t)
      (st.object o).attributes t (blank isOnToken) with ⟨rv', y⟩
    rw [hfill] at h
    obtain ⟨hfailed, hdone⟩ := fillCopy_outcome hfill
    refine ⟨t, s, o, rfl, hs, ho, ?_⟩
    by_cases hrv : rv' = CKR_OK
    · subst hrv
      dsimp only at h
      obtain ⟨hsettled, hshown, p, m₀, m₁, hrest⟩ := hdone rfl
      rw [setObject_insertObject] at h
      have hobj : st'.object = (insertObject (st.session s).slotID mk y st).object := by
        unfold addHandle at h
        split at h <;> cases h <;> rfl
      rw [hobj]
      refine ⟨hothers y, hv, hcopyable, hpriv, ?_, fun hne => absurd ?_ hne, fun _ => ?_⟩
      · rw [object_insertObject]
        exact hsettled
      · cases h
        rfl
      · rw [object_insertObject]
        exact ⟨hshown, p, m₀, m₁, hrest⟩
    · have heq : (rv', CK_INVALID_HANDLE, destroyObject mk.removal mk.newObject
          ((insertObject (st.session s).slotID mk (blank isOnToken) st).setObject
            mk.newObject y)) = (rv, hNew, st') := by
        cases rv' <;> first | exact h | exact absurd rfl hrv
      cases heq
      rw [setObject_insertObject]
      obtain ⟨hsettled, hshown⟩ := destroyObject_shown mk.removal mk.newObject
        (insertObject (st.session s).slotID mk y st)
      refine ⟨fun o' hne => ((destroyObject_of_ne hne _).2).trans (hothers y o' hne),
        hv, hcopyable, hpriv, hsettled, fun _ m' hm' => ?_, fun hr => absurd hr hrv⟩
      obtain ⟨hsession, hm'⟩ := hshown m' hm'
      rw [object_insertObject] at hsession hm'
      rcases hfailed hrv with hss | hall
      · rw [hsession] at hss
        cases hss
      · exact hall m' hm'

end call

end SoftHSM.Create
