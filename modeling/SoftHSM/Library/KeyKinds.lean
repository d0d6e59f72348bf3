import SoftHSM.Library.KeyHistory

/-!
What an object may be used for fits its kind: an attribute that permits a use is only ever on a key
whose class and type have it, over runs of all calls that make, change and copy objects. So the
class of a key follows from its type and what it may be used for.
-/

set_option linter.unusedSectionVars false

namespace SoftHSM.Create

open CK_RV Search P11Object OSObject AttributeMap
open RecordFile (Write)
open Transition

variable {Obj Sess : Type} [DecidableEq Obj] [DecidableEq Sess]

/-! ### Kinds and their uses -/

/-- The attributes that permit a use that not every key has. -/
def usages : List CK_ATTRIBUTE_TYPE :=
  [CKA_ENCRYPT, CKA_DECRYPT, CKA_SIGN, CKA_VERIFY, CKA_WRAP, CKA_UNWRAP, CKA_ENCAPSULATE,
    CKA_DECAPSULATE]

/-- The types of key that a kind presets: one for a key, none for another object. -/
def keyTypesOf (p : P11Object) : List CK_KEY_TYPE :=
  p.presets.filterMap fun
    | .value type v => if type = CKA_KEY_TYPE then some v else none
    | .missing _ _ => none

lemma mem_keyTypesOf {p : P11Object} {v : CK_KEY_TYPE} (h : .value CKA_KEY_TYPE v ∈ p.presets) :
    v ∈ keyTypesOf p := List.mem_filterMap.2 ⟨_, h, by simp⟩

lemma publicKeyOf_keyTypesOf : ∀ p ∈ publicKeyKinds, ∀ v ∈ keyTypesOf p,
    publicKeyOf v = some p := by
  intro p hp v hv
  simp only [publicKeyKinds, List.mem_cons, List.not_mem_nil, or_false] at hp
  rcases hp with rfl | rfl | rfl | rfl | rfl | rfl | rfl | rfl | rfl <;>
    rw [List.mem_singleton.1 hv] <;> rfl

lemma privateKeyOf_keyTypesOf : ∀ p ∈ privateKeyKinds, ∀ v ∈ keyTypesOf p,
    privateKeyOf v = some p := by
  intro p hp v hv
  simp only [privateKeyKinds, List.mem_cons, List.not_mem_nil, or_false] at hp
  rcases hp with rfl | rfl | rfl | rfl | rfl | rfl | rfl | rfl | rfl <;>
    rw [List.mem_singleton.1 hv] <;> rfl

lemma secretKeyOf_keyTypesOf : ∀ p ∈ secretKeyKinds, ∀ v ∈ keyTypesOf p,
    secretKeyOf v = some p := by
  intro p hp v hv
  simp only [secretKeyKinds, List.map_cons, List.map_nil, List.cons_append, List.nil_append,
    List.mem_cons, List.not_mem_nil, or_false] at hp
  rcases hp with rfl | rfl | rfl | rfl | rfl | rfl | rfl | rfl | rfl | rfl | rfl | rfl | rfl |
    rfl | rfl | rfl <;> rw [List.mem_singleton.1 hv] <;> rfl

lemma domainOf_keyTypesOf : ∀ p ∈ domainKinds, ∀ v ∈ keyTypesOf p, domainOf v = some p := by
  intro p hp v hv
  simp only [domainKinds, List.mem_cons, List.not_mem_nil, or_false] at hp
  rcases hp with rfl | rfl <;> rw [List.mem_singleton.1 hv] <;> rfl

lemma keyTypesOf_certificate : ∀ p ∈ certificateKinds, keyTypesOf p = [] := by
  intro p hp
  simp only [certificateKinds, List.mem_cons, List.not_mem_nil, or_false] at hp
  rcases hp with rfl | rfl <;> rfl

/-- A kind with a type of key is the one for its class and that type. -/
lemma p11ObjectOf_keyTypesOf {k : UInt64} {p : P11Object} (hk : (k, p) ∈ kinds) {v : CK_KEY_TYPE}
    (hv : v ∈ keyTypesOf p) (certType : UInt64) : p11ObjectOf k v certType = some p := by
  simp only [kinds, List.mem_append, List.mem_cons, List.mem_map, Prod.mk.injEq] at hk
  rcases hk with ((((⟨-, rfl⟩ | ⟨q, hq, -, rfl⟩) | ⟨q, hq, rfl, rfl⟩) | ⟨q, hq, rfl, rfl⟩) |
    ⟨q, hq, rfl, rfl⟩) | ⟨q, hq, rfl, rfl⟩
  · exact absurd hv List.not_mem_nil
  · rw [keyTypesOf_certificate q hq] at hv
    exact absurd hv List.not_mem_nil
  · exact publicKeyOf_keyTypesOf q hq v hv
  · exact privateKeyOf_keyTypesOf q hq v hv
  · exact secretKeyOf_keyTypesOf q hq v hv
  · exact domainOf_keyTypesOf q hq v hv

/-- A kind with uses presets the class and a type of key. -/
lemma usage_table : ∀ x ∈ kinds, ∀ a ∈ x.2.attributes, a.type ∈ usages →
    (∃ y ∈ x.2.presets, presetType y = CKA_CLASS) ∧
      ∃ y ∈ x.2.presets, presetType y = CKA_KEY_TYPE := by decide +kernel

/-- The update of an attribute sets no other one that permits a use. -/
lemma usage_touched : ∀ x ∈ kinds, ∀ a ∈ x.2.attributes, ∀ t ∈ usages, t ∈ a.touched →
    a.type = t := by
  have h : ∀ x ∈ kinds, ∀ a ∈ x.2.attributes,
      (usages.all fun t => decide (t ∈ a.touched → a.type = t)) = true := by decide +kernel
  exact fun x hx a ha => forall_of_all (h x hx a ha)

/-- Attributes as an object of some kind has them: its class and its type of key where they are
there, and both where something permits a use, which then is one that the kind has. -/
structure OfKind (k : UInt64) (p : P11Object) (m : AttributeMap) : Prop where
  objClass : ∀ attr, OrderedMap.get CKA_CLASS m = some attr → attr = .unsignedLong k
  keyType : ∀ attr, OrderedMap.get CKA_KEY_TYPE m = some attr →
    ∃ v ∈ keyTypesOf p, attr = .unsignedLong v
  usage : ∀ t ∈ usages, m.flag t = some true → m.attributeExists CKA_CLASS = true ∧
    m.attributeExists CKA_KEY_TYPE = true ∧ ∃ a ∈ p.attributes, a.type = t

/-- What permits a use fits the kind. -/
def Fits (m : AttributeMap) : Prop := ∃ x ∈ kinds, OfKind x.1 x.2 m

section kind

variable {k : UInt64} {p : P11Object} {m m' : AttributeMap} {t : CK_ATTRIBUTE_TYPE}

lemma ofKind_nil : OfKind k p [] := by
  refine ⟨fun attr h => ?_, fun attr h => ?_, fun t _ h => ?_⟩ <;> cases h

lemma fits_nil : Fits [] := ⟨(CKO_DATA, P11DataObj), List.mem_cons_self, ofKind_nil⟩

/-- The types that tell what an object is. -/
def tellingTypes : List CK_ATTRIBUTE_TYPE := [CKA_CLASS, CKA_KEY_TYPE]

lemma telling_usages : ∀ t ∈ tellingTypes, t ∉ usages := by
  rw [tellingTypes, List.forall_mem_cons, List.forall_mem_singleton]
  exact ⟨by decide, by decide⟩

/-- What does not permit a use, and does not tell what the object is. -/
lemma OfKind.set {type : CK_ATTRIBUTE_TYPE} {attr : OSAttribute} (h : OfKind k p m)
    (ht : type ∉ tellingTypes) (hu : type ∈ usages → attr.truth ≠ some true) :
    OfKind k p (m.setAttribute type attr) := by
  have hget : ∀ t ∈ tellingTypes,
      OrderedMap.get t (m.setAttribute type attr) = OrderedMap.get t m := by
    intro t ht'
    rw [get_setAttribute, if_neg]
    rintro rfl
    exact ht ht'
  refine ⟨fun attr ha => h.objClass attr ?_, fun attr ha => h.keyType attr ?_, fun t ht' he => ?_⟩
  · rwa [hget _ (by decide)] at ha
  · rwa [hget _ (by decide)] at ha
  · rw [flag_setAttribute] at he
    split at he
    · rename_i heq
      exact absurd he (hu (heq ▸ ht'))
    · obtain ⟨hc, hk, ha⟩ := h.usage t ht' he
      exact ⟨attributeExists_setAttribute _ hc, attributeExists_setAttribute _ hk, ha⟩

lemma OfKind.putAll {l : List (CK_ATTRIBUTE_TYPE × OSAttribute)} (h : OfKind k p m)
    (hl : ∀ y ∈ l, y.1 ∉ tellingTypes ∧ (y.1 ∈ usages → y.2.truth ≠ some true)) :
    OfKind k p (Create.putAll l m) := by
  induction l generalizing m with
  | nil => exact h
  | cons y l ih =>
    have hy := hl y List.mem_cons_self
    exact ih (h.set hy.1 hy.2) fun z hz => hl z (List.mem_cons_of_mem _ hz)

/-- What tells what the object is, as the kind has it. -/
lemma OfKind.setTelling {type : CK_ATTRIBUTE_TYPE} {v : UInt64} (h : OfKind k p m)
    (hc : type = CKA_CLASS → v = k) (hkt : type = CKA_KEY_TYPE → v ∈ keyTypesOf p)
    (hu : type ∉ usages) : OfKind k p (m.setAttribute type (.unsignedLong v)) := by
  refine ⟨fun attr ha => ?_, fun attr ha => ?_, fun t ht he => ?_⟩
  · rw [get_setAttribute] at ha
    split at ha
    · rename_i heq
      rw [← Option.some.inj ha, hc heq.symm]
    · exact h.objClass attr ha
  · rw [get_setAttribute] at ha
    split at ha
    · rename_i heq
      exact ⟨v, hkt heq.symm, (Option.some.inj ha).symm⟩
    · exact h.keyType attr ha
  · rw [flag_setAttribute_of_ne (show t ≠ type from fun h => hu (h ▸ ht))] at he
    obtain ⟨hc, hk, ha⟩ := h.usage t ht he
    exact ⟨attributeExists_setAttribute _ hc, attributeExists_setAttribute _ hk, ha⟩

/-- A use that the kind has, once its presets are there. -/
lemma OfKind.setUsage (h : OfKind k p m) (hk : (k, p) ∈ kinds) (hp : Prepared p m)
    {a : P11Attribute} (ha : a ∈ p.attributes) (ht : a.type ∈ usages) (attr : OSAttribute) :
    OfKind k p (m.setAttribute a.type attr) := by
  have hne : ∀ t ∈ tellingTypes, t ≠ a.type := by
    rintro t ht' rfl
    exact telling_usages _ ht' ht
  obtain ⟨⟨y, hy, hclass⟩, z, hz, hkeyType⟩ := usage_table _ hk a ha ht
  refine ⟨fun attr ha => h.objClass attr ?_, fun attr ha => h.keyType attr ?_, fun t ht' he => ?_⟩
  · rwa [get_setAttribute, if_neg (hne _ (by decide))] at ha
  · rwa [get_setAttribute, if_neg (hne _ (by decide))] at ha
  · refine ⟨attributeExists_setAttribute _ (hclass ▸ hp y hy),
      attributeExists_setAttribute _ (hkeyType ▸ hp z hz), ?_⟩
    by_cases hta : t = a.type
    · exact ⟨a, ha, hta.symm⟩
    · rw [flag_setAttribute_of_ne hta] at he
      exact (h.usage t ht' he).2.2

/-- The attributes of an object tell which kind is to be made of it. -/
lemma Fits.ofKind (h : Fits m) (hp : attributeKind m = some p) : OfKind (objClassOf m) p m := by
  obtain ⟨⟨k, q⟩, hk, hq⟩ := h
  have hclass : OrderedMap.get CKA_CLASS m = some (.unsignedLong k) := by
    cases hc : OrderedMap.get CKA_CLASS m with
    | some attr => rw [hq.objClass attr hc]
    | none =>
      have hnone : objClassOf m = CKO_VENDOR_DEFINED := by
        rw [objClassOf, getUnsignedLongValue, hc]
      exact absurd hnone (class_table _ (p11ObjectOf_mem hp))
  have hobj : objClassOf m = k := by rw [objClassOf, getUnsignedLongValue, hclass]
  have hsame : ∀ v ∈ keyTypesOf q, OrderedMap.get CKA_KEY_TYPE m = some (.unsignedLong v) →
      q = p := by
    intro v hv hkt
    unfold attributeKind at hp
    have hkeyType : m.getUnsignedLongValue CKA_KEY_TYPE CKK_RSA = v := by
      rw [getUnsignedLongValue, hkt]
    rw [← objClassOf, hobj, hkeyType, p11ObjectOf_keyTypesOf hk hv] at hp
    exact Option.some.inj hp
  rw [hobj]
  refine ⟨hq.objClass, fun attr ha => ?_, fun t ht he => ?_⟩
  · obtain ⟨v, hv, rfl⟩ := hq.keyType attr ha
    exact ⟨v, hsame v hv ha ▸ hv, rfl⟩
  · obtain ⟨hc, hkt, ha⟩ := hq.usage t ht he
    obtain ⟨attr, hattr⟩ := Option.isSome_iff_exists.1 hkt
    obtain ⟨v, hv, rfl⟩ := hq.keyType attr hattr
    exact ⟨hc, hkt, hsame v hv hattr ▸ ha⟩

/-- A copy is of the same kind. -/
lemma Copied.ofKind {token : TokenView} {upgrade : Bool} (h : Copied token upgrade m m')
    (hm : OfKind k p m) : OfKind k p m' := by
  have hback : ∀ t attr, OrderedMap.get t m' = some attr → ∃ attr', OrderedMap.get t m = some attr' ∧
      copyAttribute token upgrade attr' = some attr := by
    intro t attr ht
    rw [h t, Option.bind_eq_some_iff] at ht
    exact ht
  have hulong : ∀ t v, OrderedMap.get t m = some (.unsignedLong v) →
      m'.attributeExists t = true := by
    intro t v ht
    rw [AttributeMap.attributeExists, h t, ht]
    rfl
  refine ⟨fun attr ha => ?_, fun attr ha => ?_, fun t ht he => ?_⟩
  · obtain ⟨attr', hget, hcopy⟩ := hback _ _ ha
    rw [hm.objClass attr' hget] at hcopy
    exact (Option.some.inj hcopy).symm
  · obtain ⟨attr', hget, hcopy⟩ := hback _ _ ha
    obtain ⟨v, hv, rfl⟩ := hm.keyType attr' hget
    exact ⟨v, hv, (Option.some.inj hcopy).symm⟩
  · rw [h.flag] at he
    obtain ⟨hc, hkt, ha⟩ := hm.usage t ht he
    obtain ⟨c, hc⟩ := Option.isSome_iff_exists.1 hc
    obtain ⟨kt, hkt⟩ := Option.isSome_iff_exists.1 hkt
    obtain ⟨v, -, rfl⟩ := hm.keyType kt hkt
    exact ⟨hulong _ k (hm.objClass c hc ▸ hc), hulong _ v hkt, ha⟩

lemma Copied.fits {token : TokenView} {upgrade : Bool} (h : Copied token upgrade m m')
    (hm : Fits m) : Fits m' := by
  obtain ⟨x, hx, hm⟩ := hm
  exact ⟨x, hx, h.ofKind hm⟩

end kind

/-! ### The way of an object -/

section leads

variable {c : Changing} {k : UInt64} {m m' : AttributeMap}

/-- **An object stays of its kind.** -/
theorem leads_ofKind (hk : (k, c.p11object) ∈ kinds)
    (hputs : ∀ m l, c.puts m l → ∀ y ∈ l, y.1 ∉ tellingTypes ∧
      (y.1 ∈ usages → y.2.truth ≠ some true)) (hm : OfKind k c.p11object m)
    (h : c.Leads m m') : OfKind k c.p11object m' := by
  induction h with
  | refl => exact hm
  | @value m' _ type v hx ih =>
    have hfits := value_fits hk hx
    refine ih.setTelling (fun ht => ?_) (fun ht => mem_keyTypesOf (ht ▸ hx)) fun hu => ?_
    · have hv := presetsClass_table _ hk _ hx
      simp only [presetsClass, decide_eq_true_eq] at hv
      exact hv ht
    · have hpreset : ∀ t ∈ usages, t ∉ [CKA_CLASS, CKA_KEY_TYPE, CKA_CERTIFICATE_TYPE] :=
        forall_of_all (by decide)
      exact hpreset _ hu hfits
  | missing _ hx _ ih =>
    obtain ⟨rfl, -⟩ := missing_fits hk hx
    exact ih.set (by decide) fun hu => absurd hu (by decide)
  | @default m' _ a ha hmiss hp ih =>
    by_cases hu : a.type ∈ usages
    · exact ih.setUsage hk hp ha hu _
    · refine ih.set (fun ht => ?_) fun h => absurd h hu
      -- the class and the type of key are there already
      have hin : ∀ t ∈ tellingTypes, t ∈ [CKA_CLASS, CKA_KEY_TYPE, CKA_CERTIFICATE_TYPE] :=
        forall_of_all (by decide)
      obtain ⟨y, hy, hya⟩ := presetType_table _ hk a ha (hin _ ht)
      rw [← hya, hp y hy] at hmiss
      cases hmiss
  | @update m' _ e _ a ha hp ih =>
    obtain ⟨hmem, -⟩ := attributeOf_some ha
    have hfixed : ∀ t ∈ tellingTypes,
        OrderedMap.get t (a.update c.token c.isPrivate e c.op m').2 = OrderedMap.get t m' := by
      intro t ht
      have hin : ∀ t ∈ tellingTypes,
          t ∈ [CKA_LOCAL, CKA_KEY_GEN_MECHANISM, CKA_CLASS, CKA_KEY_TYPE, CKA_CERTIFICATE_TYPE] :=
        forall_of_all (by decide)
      exact update_fixed hk hmem (hin t ht) e
    refine ⟨fun attr h => ih.objClass attr (by rwa [hfixed _ (by decide)] at h), fun attr h =>
      ih.keyType attr (by rwa [hfixed _ (by decide)] at h), fun t ht he => ?_⟩
    have hset : ∀ t, m'.attributeExists t = true →
        AttributeMap.attributeExists (a.update c.token c.isPrivate e c.op m').2 t = true :=
      fun t h => exists_update a _ _ e _ h
    by_cases hta : a.type = t
    · obtain ⟨⟨y, hy, hclass⟩, z, hz, hkeyType⟩ := usage_table _ hk a hmem (hta ▸ ht)
      exact ⟨hset _ (hclass ▸ hp y hy), hset _ (hkeyType ▸ hp z hz), a, hmem,
        hta⟩
    · have hsame : OrderedMap.get t (a.update c.token c.isPrivate e c.op m').2 =
          OrderedMap.get t m' := by
        rcases update_cases a c.token c.isPrivate e c.op m' with ⟨rv, -, h⟩ | ⟨-, h⟩ <;> rw [h]
        exact keeps_applyUpdateAttr (fun h => hta (usage_touched _ hk a hmem t ht h)) _ _ _ _ _
      rw [flag_congr hsame] at he
      obtain ⟨hc, hkt, ha⟩ := ih.usage t ht he
      exact ⟨hset _ hc, hset _ hkt, ha⟩
  | @put m' _ l hl ih => exact ih.putAll (hputs m' l hl)

/-- What an object with a kind comes to. -/
lemma leads_fits (hp : attributeKind m = some c.p11object) (hputs : ∀ m l, ¬ c.puts m l)
    (hm : Fits m) (h : c.Leads m m') : Fits m' :=
  ⟨_, p11ObjectOf_mem hp, leads_ofKind (p11ObjectOf_mem hp)
    (fun m l hl => absurd hl (hputs m l)) (hm.ofKind hp) h⟩

end leads

/-! ### One step -/

section step

variable {P : Primitives} {st st' : Store Obj Sess} {ev : Event Obj}

/-- What a call puts of a new object does not tell what it is, nor permit a use. -/
lemma puts_telling {x : Outside} {c : Creation Obj} {j : Job Obj} {plan : Plan} {m : AttributeMap}
    {l : List (CK_ATTRIBUTE_TYPE × OSAttribute)} (hmakes : c.Makes P x st j)
    (hl : (plan.changing j.op j.supply).puts m l) :
    ∀ y ∈ l, y.1 ∉ tellingTypes ∧ (y.1 ∈ usages → y.2.truth ≠ some true) := by
  rcases hl with rfl | ⟨hl, -⟩
  · have htypes : ∀ t ∈ [CKA_LOCAL, CKA_ALWAYS_SENSITIVE, CKA_NEVER_EXTRACTABLE],
        t ∉ tellingTypes ∧ t ∉ usages := forall_of_all (by decide)
    intro y hy
    obtain ⟨ht, hu⟩ := htypes _ (ownOf_types plan j.op y hy)
    exact ⟨ht, fun h => absurd h hu⟩
  · rcases makes_origin hmakes with ⟨_, _, _, -, rfl⟩ | ⟨-, origin, hsup, horigin⟩
    · cases hl
      exact fun y hy => absurd hy List.not_mem_nil
    · obtain ⟨material, rfl⟩ := hsup m l hl
      have horigins : ∀ t ∈ originTypes, t ∉ tellingTypes ∧ t ∉ usages :=
        forall_of_all (by decide)
      have hmaterial : ∀ t ∈ materialTypes, t ∉ tellingTypes ∧
          (t ∈ usages → t ∈ [CKA_WRAP, CKA_UNWRAP]) := forall_of_all (by decide)
      intro y hy
      rcases List.mem_append.1 hy with hy | hy
      · obtain ⟨ht, hu⟩ := horigins _ (origin_types horigin m y hy)
        exact ⟨ht, fun h => absurd h hu⟩
      · obtain ⟨ht, hu⟩ := hmaterial _ (material.known y hy)
        refine ⟨ht, fun h => ?_⟩
        rw [material.ruledOut y hy (hu h)]
        simp [OSAttribute.truth]

/-- Every object that is shown fits its kind. -/
def FitsHolds (st : Store Obj Sess) : Prop := ∀ o m, (st.object o).shown = some m → Fits m

/-- **Objects fit their kinds over one step.** -/
theorem step_fits (hset : AllSettled st) (hall : FitsHolds st) (h : ev.Step P st st') :
    FitsHolds st' := by
  intro o m' hm'
  cases step_cases hset h o with
  | kept _ hsame => exact hall o m' (hsame ▸ hm')
  | made x c j hmakes hj hout =>
    subst hj
    obtain ⟨plan, hplan, hleads⟩ := hout.leads m' hm'
    obtain ⟨_, _, -, -, -, -, -, hkind, -⟩ := of_planObject hplan
    exact ⟨_, p11ObjectOf_mem hkind, leads_ofKind (c := plan.changing j.op j.supply)
      (p11ObjectOf_mem hkind) (fun m l hl => puts_telling hmakes hl) ofKind_nil hleads⟩
  | changed x stores w hSession hObject t s p hs ho hchanged =>
    obtain ⟨m, hm, hleads⟩ := hchanged.becomes m' hm'
    have hkind := hchanged.kind
    rw [shown_of_valid (hset o) hchanged.valid] at hm
    cases hm
    exact leads_fits hkind (fun _ _ hp => hp)
      (hall o _ (shown_of_valid (hset o) hchanged.valid)) hleads
  | copied x m hSession hObject t s source hs hsource ho hcopy =>
    have hsource := hall source _ (shown_of_valid (hset source) hcopy.valid)
    by_cases hrv : (C_CopyObject P x m hSession hObject (some t) st).1 = CKR_OK
    · obtain ⟨hshown, p, m₀, m₁, hcopied, hk, hleads, hp, hu⟩ := hcopy.succeeded hrv
      rw [hshown] at hm'
      cases hm'
      exact leads_fits hk (fun _ _ hp => hp) (hcopied.fits hsource)
        (hleads.trans (leads_updateAll hp hu))
    · rcases hcopy.failed hrv m' hm' with rfl | ⟨m₀, hcopied, rfl | ⟨p, hk, hleads⟩⟩
      · exact fits_nil
      · exact hcopied.fits hsource
      · exact leads_fits hk (fun _ _ hp => hp) (hcopied.fits hsource) hleads
  | elsewhere hel =>
    obtain ⟨m, hm, rfl | ⟨p, hk, hleads⟩⟩ := elsewhere_becomes hel (hset o) m' hm'
    · exact hall o _ hm
    · exact leads_fits (c := .reading p) hk (fun _ _ hp => hp) (hall o m hm) hleads

/-- **Objects fit their kinds over whole runs.** -/
theorem run_fits {st₀ : Store Obj Sess} {evs : List (Event Obj)} (h₀ : Fresh st₀)
    (hr : Run (Event.Step P) st₀ evs st) : AllSettled st ∧ FitsHolds st := by
  refine hr.invariant (P := fun st => AllSettled st ∧ FitsHolds st)
    ⟨h₀.settled, fun o m hm => ?_⟩ fun st ev st' h hstep =>
    ⟨step_settled h.1 hstep, step_fits h.1 h.2 hstep⟩
  rw [h₀.empty o] at hm
  cases hm

end step

end SoftHSM.Create
