import SoftHSM.Library.Histories

/-!
Whether the history attributes of private and secret keys tell the truth, over runs of all calls
that make, change and copy objects. A key that could not be completed says what its defaults say,
and a key that two others make says of the one history what is so of the other.
-/

set_option linter.unusedSectionVars false

namespace SoftHSM.Create

open CK_RV Search P11Object OSObject AttributeMap
open RecordFile (Write)
open Transition

variable {Obj Sess : Type} [DecidableEq Obj] [DecidableEq Sess]

/-! ### Keys -/

/-- The class that attributes tell. -/
def objClassOf (m : AttributeMap) : UInt64 := m.getUnsignedLongValue CKA_CLASS CKO_VENDOR_DEFINED

/-- The attributes of a private or a secret key. -/
def IsKey (m : AttributeMap) : Prop := objClassOf m ∈ keyClasses

/-- The attributes that a key has besides its class: the two that are one-way, and their history. -/
def historyTypes : List CK_ATTRIBUTE_TYPE :=
  [CKA_SENSITIVE, CKA_EXTRACTABLE, CKA_ALWAYS_SENSITIVE, CKA_NEVER_EXTRACTABLE]

/-- The history of `CKA_EXTRACTABLE`, and that a key has one. -/
structure Honest (m : AttributeMap) : Prop where
  never : NeverTrue m
  told : IsKey m → ∀ t ∈ historyTypes, (m.flag t).isSome = true

lemma honest_nil : Honest [] where
  never h := by cases h
  told h := absurd h (show objClassOf [] ∉ keyClasses by decide)

lemma objClassOf_congr {m m' : AttributeMap}
    (h : OrderedMap.get CKA_CLASS m' = OrderedMap.get CKA_CLASS m) :
    objClassOf m' = objClassOf m := by
  rw [objClassOf, getUnsignedLongValue, h, objClassOf, getUnsignedLongValue]

lemma honest_congr {m m' : AttributeMap} (hc : objClassOf m' = objClassOf m)
    (hf : ∀ t ∈ historyTypes, m'.flag t = m.flag t) (h : Honest m) : Honest m' := by
  refine ⟨fun hne => ?_, fun hk t ht => ?_⟩
  · rw [hf _ (by decide)] at hne ⊢
    exact h.never hne
  · rw [hf t ht]
    exact h.told (by rwa [IsKey, ← hc]) t ht

/-! ### Tables -/

/-- The class that a preset sets. -/
def presetsClass (k : UInt64) : Preset → Bool
  | .value type v => type = CKA_CLASS → v = k
  | .missing _ _ => true

lemma presetsClass_table : ∀ x ∈ kinds, ∀ y ∈ x.2.presets, presetsClass x.1 y = true := by
  decide +kernel

lemma class_table : ∀ x ∈ kinds, x.1 ≠ CKO_VENDOR_DEFINED := by decide +kernel

/-- The class that is the default. -/
def plainClass : OSAttribute → Bool
  | .unsignedLong v => v ∉ keyClasses
  | _ => false

lemma plainClass_table : ∀ x ∈ kinds, ∀ a ∈ x.2.attributes, a.type = CKA_CLASS →
    plainClass a.default = true := by decide +kernel

/-- Other objects have no history. -/
lemma plain_table : ∀ x ∈ kinds, x.1 ∉ keyClasses → ∀ a ∈ x.2.attributes,
    a.type ∉ historyTypes ∧ CKA_NEVER_EXTRACTABLE ∉ a.touched := by decide +kernel

/-- The history that a new key begins with. -/
def beginnings : List (CK_ATTRIBUTE_TYPE × Bool) :=
  [(CKA_SENSITIVE, false), (CKA_EXTRACTABLE, true), (CKA_ALWAYS_SENSITIVE, false),
    (CKA_NEVER_EXTRACTABLE, true)]

lemma beginnings_table : ∀ x ∈ kinds, x.1 ∈ keyClasses → ∀ r ∈ beginnings,
    ∃ a ∈ x.2.attributes, a.type = r.1 ∧ a.default.truth = some r.2 := by
  have h : ∀ x ∈ kinds, x.1 ∈ keyClasses → (beginnings.all fun r => decide
      (∃ a ∈ x.2.attributes, a.type = r.1 ∧ a.default.truth = some r.2)) = true := by
    decide +kernel
  exact fun x hx hkey => forall_of_all (h x hx hkey)

/-! ### The way of an object -/

section leads

variable {c : Changing} {k : UInt64} {m m' : AttributeMap} {t : CK_ATTRIBUTE_TYPE}

lemma flag_value (hk : (k, c.p11object) ∈ kinds) {type : CK_ATTRIBUTE_TYPE} {v : UInt64}
    (hx : .value type v ∈ c.p11object.presets) (ht : t ∈ historyTypes) :
    (m.setAttribute type (.unsignedLong v)).flag t = m.flag t := by
  have htypes : ∀ t ∈ historyTypes, t ∉ [CKA_CLASS, CKA_KEY_TYPE, CKA_CERTIFICATE_TYPE] :=
    forall_of_all (by decide)
  exact flag_congr (get_value hk hx (htypes t ht))

lemma objClassOf_setAttribute_of_ne {type : CK_ATTRIBUTE_TYPE} {attr : OSAttribute}
    (h : type ≠ CKA_CLASS) : objClassOf (m.setAttribute type attr) = objClassOf m :=
  objClassOf_congr (by rw [get_setAttribute, if_neg h.symm])

lemma objClassOf_setAttribute_self (v : UInt64) :
    objClassOf (m.setAttribute CKA_CLASS (.unsignedLong v)) = v := by
  rw [objClassOf, getUnsignedLongValue, get_setAttribute, if_pos rfl]

/-- A preset sets the class to that of the kind. -/
lemma objClassOf_value (hk : (k, c.p11object) ∈ kinds) {type : CK_ATTRIBUTE_TYPE} {v : UInt64}
    (hx : .value type v ∈ c.p11object.presets) :
    objClassOf (m.setAttribute type (.unsignedLong v)) = if type = CKA_CLASS then k
      else objClassOf m := by
  by_cases ht : type = CKA_CLASS
  · subst ht
    have hv := presetsClass_table _ hk _ hx
    simp only [presetsClass, true_imp_iff, decide_eq_true_eq] at hv
    rw [objClassOf_setAttribute_self, hv, if_pos rfl]
  · rw [objClassOf_setAttribute_of_ne ht, if_neg ht]

lemma Watched.told {type : CK_ATTRIBUTE_TYPE} {e : CK_ATTRIBUTE} {op : ObjectOp} {so : Bool}
    {r : CK_RV × AttributeMap} (h : Watched type e op so m r) (ht : t ∈ watchedTypes)
    (hm : (m.flag t).isSome = true) : (r.2.flag t).isSome = true := by
  have hset : ∀ (type : CK_ATTRIBUTE_TYPE) (b : Bool) (m : AttributeMap),
      (m.flag t).isSome = true → ((m.setAttribute type (.boolean b)).flag t).isSome = true := by
    intro type b m hm
    by_cases he : t = type
    · rw [he, flag_setAttribute_self]
      rfl
    · rw [flag_setAttribute_of_ne he]
      exact hm
  cases h with
  | quiet rv m' hrv h =>
    rw [flag_congr (h t ht)]
    exact hm
  | sensitive _ _ =>
    unfold setSensitive
    dsimp only
    split_ifs
    · exact hset _ _ _ (hset _ _ _ hm)
    · exact hset _ _ _ hm
    · exact hset _ _ _ (hset _ _ _ hm)
  | extractable _ _ =>
    unfold setExtractable
    dsimp only
    split_ifs
    · exact hset _ _ _ (hset _ _ _ hm)
    · exact hset _ _ _ hm
  | wrapWithTrusted _ _ => exact hset _ _ _ hm
  | copyable _ _ => exact hset _ _ _ hm
  | isPrivate _ _ => exact hset _ _ _ hm
  | trusted _ _ => exact hset _ _ _ hm

/-- **The history of a key that is not new.** -/
theorem leads_honest (hk : (k, c.p11object) ∈ kinds) (hop : c.op = .SET ∨ c.op = .COPY)
    (hputs : ∀ m l, ¬ c.puts m l) (hclass : objClassOf m = k) (hm : Honest m)
    (h : c.Leads m m') : objClassOf m' = k ∧ Honest m' := by
  induction h with
  | refl => exact ⟨hclass, hm⟩
  | @value m' _ type v hx ih =>
    obtain ⟨hc, hh⟩ := ih
    have hc' : objClassOf (m'.setAttribute type (.unsignedLong v)) = k := by
      rw [objClassOf_value hk hx]
      split <;> first | rfl | exact hc
    exact ⟨hc', honest_congr (hc'.trans hc.symm) (fun t ht => flag_value hk hx ht) hh⟩
  | @missing m' _ type attr hx hmiss ih =>
    obtain ⟨rfl, -⟩ := missing_fits hk hx
    have hc : objClassOf (m'.setAttribute CKA_PRIVATE attr) = objClassOf m' :=
      objClassOf_setAttribute_of_ne (by decide)
    refine ⟨hc.trans ih.1, honest_congr hc (fun t ht => flag_setAttribute_of_ne ?_) ih.2⟩
    rintro rfl
    exact absurd ht (by decide)
  | @default m' _ a ha hmiss _ ih =>
    have hne : a.type ≠ CKA_CLASS := by
      intro he
      -- an object of a kind has its class
      have hnone : objClassOf m' = CKO_VENDOR_DEFINED :=
        getUnsignedLongValue_of_missing (he ▸ hmiss) _
      exact class_table _ hk (ih.1.symm.trans hnone)
    have hc : objClassOf (m'.setAttribute a.type a.default) = objClassOf m' :=
      objClassOf_setAttribute_of_ne hne
    refine ⟨hc.trans ih.1, honest_congr hc (fun t ht => flag_setAttribute_of_ne ?_) ih.2⟩
    rintro rfl
    by_cases hkey : k ∈ keyClasses
    · have htold := ih.2.told (by rw [IsKey, ih.1]; exact hkey) _ ht
      rw [flag_of_missing hmiss] at htold
      cases htold
    · exact (plain_table _ hk hkey a ha).1 ht
  | @update m' _ e _ a ha _ ih =>
    obtain ⟨hmem, -⟩ := attributeOf_some ha
    have hw := update_watched hk hmem c.token c.isPrivate e c.op m'
    have hc : objClassOf (a.update c.token c.isPrivate e c.op m').2 = objClassOf m' :=
      objClassOf_congr (update_fixed hk hmem (by decide) e)
    have hwatched : ∀ t ∈ historyTypes, t ∈ watchedTypes := forall_of_all (by decide)
    refine ⟨hc.trans ih.1, hw.never ih.2.never hop, fun hkey t ht => ?_⟩
    exact Watched.told hw (hwatched t ht) (ih.2.told (by rwa [IsKey, ← hc]) t ht)
  | put _ hl _ => exact absurd hl (hputs _ _)

/-- What is not a key has no history. -/
theorem leads_plain (hk : (k, c.p11object) ∈ kinds) (hplain : k ∉ keyClasses)
    (hputs : ∀ m l, c.puts m l → ∀ x ∈ l, x.1 ≠ CKA_CLASS ∧ x.1 ≠ CKA_NEVER_EXTRACTABLE)
    (hclass : objClassOf m ∉ keyClasses) (hm : m.flag CKA_NEVER_EXTRACTABLE = none)
    (h : c.Leads m m') : objClassOf m' ∉ keyClasses ∧ m'.flag CKA_NEVER_EXTRACTABLE = none := by
  induction h with
  | refl => exact ⟨hclass, hm⟩
  | value _ hx ih =>
    rw [objClassOf_value hk hx, flag_value hk hx (by decide)]
    refine ⟨?_, ih.2⟩
    split
    · exact hplain
    · exact ih.1
  | missing _ hx hmiss ih =>
    obtain ⟨rfl, -⟩ := missing_fits hk hx
    rw [objClassOf_setAttribute_of_ne (by decide), flag_setAttribute_of_ne (by decide)]
    exact ih
  | @default m' _ a ha hmiss _ ih =>
    have hne : CKA_NEVER_EXTRACTABLE ≠ a.type := by
      intro he
      exact (plain_table _ hk hplain a ha).1 (he ▸ by decide)
    rw [flag_setAttribute_of_ne hne]
    refine ⟨?_, ih.2⟩
    by_cases hcl : a.type = CKA_CLASS
    · have hdef := plainClass_table _ hk a ha hcl
      rw [hcl]
      cases hd : a.default <;> rw [hd] at hdef <;> try exact absurd hdef Bool.false_ne_true
      rw [objClassOf_setAttribute_self]
      exact of_decide_eq_true hdef
    · rw [objClassOf_setAttribute_of_ne hcl]
      exact ih.1
  | @update m' _ e _ a ha _ ih =>
    obtain ⟨hmem, -⟩ := attributeOf_some ha
    rw [objClassOf_congr (update_fixed hk hmem (by decide) e)]
    refine ⟨ih.1, ?_⟩
    rcases update_cases a c.token c.isPrivate e c.op m' with ⟨rv, -, h⟩ | ⟨-, h⟩
    · rw [h]
      exact ih.2
    · rw [h, flag_congr (keeps_applyUpdateAttr (plain_table _ hk hplain a hmem).2 c.token
        c.isPrivate e c.op m')]
      exact ih.2
  | @put m' _ l hl ih =>
    have htypes := hputs m' l hl
    rw [objClassOf_congr (get_putAll (fun x hx => (htypes x hx).1) m'),
      flag_putAll fun x hx => (htypes x hx).2]
    exact ih

end leads

/-! ### A key that has been made -/

/-- Whether some entry says that an attribute is to be true. -/
def everTrue (t : CK_ATTRIBUTE_TYPE) (l : List CK_ATTRIBUTE) : Bool :=
  l.any fun e => e.type = t ∧ e.bool ≠ CK_FALSE

/-- Two keys that make a third one: they agree in their histories, and the new key is extractable by
its template exactly if one of them ever was. -/
def Creation.Agrees (st : Store Obj Sess) : Creation Obj → Prop
  | .deriveKey _ _ hBaseKey (some t) (.key hOtherKey) _ derive => ∀ o o' result,
    st.handleManager.getObject hBaseKey = some o →
    st.handleManager.getObject hOtherKey = some o' →
    (st.object o).valid = true → (st.object o').valid = true →
    derive (st.object o).attributes t = .ok result →
    ((st.object o).attributes.getBooleanValue CKA_ALWAYS_SENSITIVE false &&
        (st.object o').attributes.getBooleanValue CKA_ALWAYS_SENSITIVE false) =
      ((st.object o).attributes.getBooleanValue CKA_NEVER_EXTRACTABLE false &&
        (st.object o').attributes.getBooleanValue CKA_NEVER_EXTRACTABLE false) ∧
    ((st.object o).attributes.getBooleanValue CKA_NEVER_EXTRACTABLE false &&
        (st.object o').attributes.getBooleanValue CKA_NEVER_EXTRACTABLE false) =
      !everTrue CKA_EXTRACTABLE result.pTemplate
  | _ => True

/-- All four flags are there. -/
structure Flags.Told (f : Flags) : Prop where
  sensitive : f.sensitive.isSome = true
  extractable : f.extractable.isSome = true
  alwaysSensitive : f.alwaysSensitive.isSome = true
  neverExtractable : f.neverExtractable.isSome = true

section built

variable {P : Primitives} {x : Outside} {st : Store Obj Sess} {c : Creation Obj} {j : Job Obj}
  {plan : Plan} {op : ObjectOp} {supply : Supply} {k : UInt64} {m m' : AttributeMap}

lemma told_iff : (flagsOf m).Told ↔ ∀ t ∈ historyTypes, (m.flag t).isSome = true := by
  refine ⟨fun h t ht => ?_, fun h => ⟨h _ (by decide), h _ (by decide), h _ (by decide),
    h _ (by decide)⟩⟩
  simp only [historyTypes, List.mem_cons, List.not_mem_nil, or_false] at ht
  rcases ht with rfl | rfl | rfl | rfl
  · exact h.sensitive
  · exact h.extractable
  · exact h.alwaysSensitive
  · exact h.neverExtractable

lemma never_told_of_flags {f : Flags} (h : flagsOf m = f)
    (hn : f.neverExtractable = some true → f.extractable = some false) (ht : f.Told) :
    NeverTrue m ∧ (flagsOf m).Told := by
  subst h
  exact ⟨hn, ht⟩

lemma honest_of_flags {f : Flags} (h : flagsOf m = f)
    (hn : f.neverExtractable = some true → f.extractable = some false) (ht : f.Told) : Honest m := by
  subst h
  exact ⟨hn, fun _ => told_iff.1 ht⟩

/-- What `init` gives a new object. -/
lemma init_default {p : P11Object} {stores : CK_ATTRIBUTE_TYPE → Write} {b : Bool}
    {m₀ : AttributeMap} (hk : (k, p) ∈ kinds) {a : P11Attribute} (ha : a ∈ p.attributes)
    (ht : a.type ∉ [CKA_CLASS, CKA_KEY_TYPE, CKA_CERTIFICATE_TYPE, CKA_PRIVATE])
    (h : p.init stores (blank b) = (true, stored b m₀)) :
    OrderedMap.get a.type m₀ = some a.default := by
  have hattr : ∀ m : AttributeMap, (stored b m).attributes = m := fun m => by cases b <;> rfl
  have hexists : m₀.attributeExists a.type = true := by
    have := initAttributes_exist h a ha
    rwa [hattr] at this
  have hother : ∀ {type attr} {m : AttributeMap}, a.type ≠ type →
      (OrderedMap.get a.type m = none ∨ OrderedMap.get a.type m = some a.default) →
      OrderedMap.get a.type (m.setAttribute type attr) = none ∨
        OrderedMap.get a.type (m.setAttribute type attr) = some a.default := by
    intro type attr m hne hm
    rw [get_setAttribute, if_neg hne]
    exact hm
  have hinv := init_invariant (p := p) (o := blank b) stores
    (I := fun m => OrderedMap.get a.type m = none ∨ OrderedMap.get a.type m = some a.default)
    (fun type v hx m hm _ => hother ?_ hm) (fun type attr hx m hm _ => hother ?_ hm)
    (fun a' ha' m hm _ => ?_) (.inl (by rw [blank, hattr]; rfl))
  · rw [h, hattr] at hinv
    rcases hinv with hnone | hdef
    · rw [AttributeMap.attributeExists, hnone] at hexists
      cases hexists
    · exact hdef
  · rintro rfl
    have hfits := presetFits_table _ hk _ hx
    simp only [presetFits, decide_eq_true_eq] at hfits
    exact ht (by simp only [List.mem_cons, List.not_mem_nil, or_false] at hfits ⊢; tauto)
  · rintro rfl
    have hfits := presetFits_table _ hk _ hx
    simp only [presetFits, Bool.and_eq_true, decide_eq_true_eq] at hfits
    exact ht (by simp [hfits.1])
  · by_cases he : a.type = a'.type
    · have hsame : a = a' := List.inj_on_of_nodup_map (types_nodup _ hk) ha ha' he
      subst hsame
      exact .inr (by rw [get_setAttribute, if_pos rfl])
    · exact hother he hm

/-- The history that a new key begins with. -/
lemma init_history {p : P11Object} {stores : CK_ATTRIBUTE_TYPE → Write} {b : Bool}
    {m₀ : AttributeMap} (hk : (k, p) ∈ kinds) (hkey : k ∈ keyClasses)
    (h : p.init stores (blank b) = (true, stored b m₀)) :
    ∀ r ∈ beginnings, m₀.flag r.1 = some r.2 := by
  intro r hr
  obtain ⟨a, ha, hat, hd⟩ := beginnings_table _ hk hkey r hr
  have hpreset : ∀ r ∈ beginnings,
      r.1 ∉ [CKA_CLASS, CKA_KEY_TYPE, CKA_CERTIFICATE_TYPE, CKA_PRIVATE] :=
    forall_of_all (by decide)
  have hget := init_default hk ha (hat ▸ hpreset r hr) h
  rw [hat] at hget
  rw [AttributeMap.flag, hget]
  cases hdef : a.default <;> rw [hdef] at hd <;> exact hd

/-- A template keeps the flags that there are. -/
lemma updateAll_told {p : P11Object} {token : TokenView} {isPrivate : Bool}
    {l : List CK_ATTRIBUTE} {rv : CK_RV} (hk : (k, p) ∈ kinds) (hp : Prepared p m)
    (h : p.updateAll token isPrivate op l m = (rv, m'))
    (hm : ∀ t ∈ historyTypes, (m.flag t).isSome = true) :
    ∀ t ∈ historyTypes, (m'.flag t).isSome = true := by
  have hleads := leads_updateAll hp h
  have hwatched : ∀ t ∈ historyTypes, t ∈ watchedTypes := forall_of_all (by decide)
  clear h
  induction hleads with
  | refl => exact hm
  | @value m' _ type v hx ih =>
    intro t ht
    rw [flag_value (c := changing p token isPrivate op l) hk hx ht]
    exact ih t ht
  | @missing m' _ type attr hx hmiss ih =>
    intro t ht
    rw [flag_missing hmiss (Option.some_get (ih t ht)).symm]
    rfl
  | @default m' _ a ha hmiss _ ih =>
    intro t ht
    rw [flag_missing hmiss (Option.some_get (ih t ht)).symm]
    rfl
  | @update m' _ e _ a ha _ ih =>
    obtain ⟨hmem, -⟩ := attributeOf_some ha
    exact fun t ht => Watched.told (update_watched hk hmem _ _ e _ m') (hwatched t ht) (ih t ht)
  | put _ hl _ => exact hl.elim

/-- **What `CreateObject` makes of a key**, before anything is said of its origin. -/
theorem built_accepts (h : Built plan op supply m') (hk : (plan.info.objClass, plan.p11object) ∈ kinds)
    (hkey : plan.info.objClass ∈ keyClasses) : ∃ m l, plan.Accepts op m ∧ supply m = .ok l ∧
      m' = putAll l m ∧ (∀ t ∈ historyTypes, (m.flag t).isSome = true) ∧
      m.flag CKA_NEVER_EXTRACTABLE =
        some (if op = .CREATE then false else !everTrue CKA_EXTRACTABLE plan.attribs) := by
  obtain ⟨stores, m₀, m₁, l, hinit, hu, hl, rfl⟩ := h.steps
  have hhistory := init_history hk hkey hinit
  have htold₀ : ∀ t ∈ historyTypes, (m₀.flag t).isSome = true := by
    intro t ht
    have hin : ∀ t ∈ historyTypes, t ∈ beginnings.map (·.1) := forall_of_all (by decide)
    obtain ⟨r, hr, rfl⟩ := List.mem_map.1 (hin t ht)
    rw [hhistory r hr]
    rfl
  have hprepared : Prepared plan.p11object m₀ := by
    have := prepared_of_init (kinds_ne_nil _ hk) hinit
    rwa [attributes_stored] at this
  have htold₁ := updateAll_told hk hprepared hu htold₀
  refine ⟨_, l, ⟨m₀, m₁, hu, rfl⟩, hl, rfl, ?_, ?_⟩
  · intro t ht
    unfold ownOf ownAttributes
    have h1 := htold₁ t ht
    split_ifs
    · simp only [putAll, List.foldl_cons, List.foldl_nil, flag_setAttribute]
      split <;> first | rfl | exact h1
    · simp only [putAll, List.foldl_cons, List.foldl_nil, flag_setAttribute]
      split_ifs <;> first | rfl | exact h1
    · exact h1
    · exact h1
  · by_cases hop : op = .CREATE
    · have hpublic : plan.info.objClass ≠ CKO_PUBLIC_KEY := by
        intro he
        rw [he] at hkey
        exact absurd hkey (by decide)
      have hsecret : plan.info.objClass = CKO_SECRET_KEY ∨ plan.info.objClass = CKO_PRIVATE_KEY := by
        simp only [keyClasses, List.mem_cons, List.not_mem_nil, or_false] at hkey
        exact hkey.symm
      rw [if_pos hop, ownOf, if_pos hop, ownAttributes, if_neg hpublic, if_pos hsecret]
      simp +decide [putAll, flag_setAttribute, OSAttribute.truth]
    · rw [if_neg hop, ownOf, if_neg hop]
      change m₁.flag CKA_NEVER_EXTRACTABLE = _
      rw [updateAll_never hk hu, ← everTrue, hhistory (CKA_NEVER_EXTRACTABLE, true) (by decide)]
      cases everTrue CKA_EXTRACTABLE plan.attribs <;> rfl

lemma extractable_false (ht : (m.flag CKA_EXTRACTABLE).isSome = true)
    (h : m.getBooleanValue CKA_EXTRACTABLE false = false) : m.flag CKA_EXTRACTABLE = some false := by
  rw [getBooleanValue_eq] at h
  cases he : m.flag CKA_EXTRACTABLE with
  | none =>
    rw [he] at ht
    cases ht
  | some v =>
    rw [he] at h
    exact congrArg some h

/-- **What a call says about the origin of a key is honest.** -/
theorem origin_honest {origin : AttributeMap → List (CK_ATTRIBUTE_TYPE × OSAttribute)}
    (h : Origin st j c origin)
    (hall : ∀ o, (st.object o).valid = true → Honest (st.object o).attributes)
    (hc : c.Agrees st) (hkey : classOf j.attribs ∈ keyClasses)
    (ht : ∀ t ∈ historyTypes, (m.flag t).isSome = true)
    (hne : m.flag CKA_NEVER_EXTRACTABLE = some (!everTrue CKA_EXTRACTABLE j.attribs)) :
    NeverTrue (putAll (origin m) m) ∧ (flagsOf (putAll (origin m) m)).Told := by
  have hs := ht CKA_SENSITIVE (by decide)
  have he := ht CKA_EXTRACTABLE (by decide)
  have hn := ht CKA_NEVER_EXTRACTABLE (by decide)
  cases h with
  | generatedPublic _ mechanism h => exact absurd hkey h
  | generated _ mechanism _ =>
    refine never_told_of_flags (flagsOf_generated mechanism m) (fun hf => ?_) ⟨hs, he, rfl, rfl⟩
    exact extractable_false he (of_decide_eq_true (Option.some.inj hf))
  | generatedRutokenGost _ b mechanism _ =>
    exact never_told_of_flags (flagsOf_generatedRutokenGost mechanism b m) (fun hf => by cases hf)
      ⟨hs, he, rfl, rfl⟩
  | unwrapped _ _ =>
    exact never_told_of_flags (flagsOf_unwrapped m) (fun hf => by cases hf) ⟨hs, he, rfl, rfl⟩
  | derived _ o hv _ =>
    refine never_told_of_flags (flagsOf_derived _ m) (fun hf => ?_) ⟨hs, he, rfl, rfl⟩
    have hboth := Option.some.inj hf
    rw [Bool.and_eq_true] at hboth
    exact extractable_false he (of_decide_eq_true hboth.2)
  | concatenatedData mk hSession hBaseKey pTemplate check derive o ho hv _ =>
    refine never_told_of_flags (flagsOf_concatenatedData _ m) (fun hf => ?_) ⟨?_, ?_, rfl, rfl⟩
    · -- the base key was never extractable, so it is not
      have hbase := (hall o hv).never (flag_of_getBooleanValue (Option.some.inj hf))
      have hb : (st.object o).attributes.getBooleanValue CKA_EXTRACTABLE false = false :=
        getBooleanValue_of_flag hbase
      exact if_pos (by rw [hb]; rfl)
    · dsimp only
      split <;> first | rfl | exact hs
    · dsimp only
      split <;> first | rfl | exact he
  | concatenatedKeys mk hSession hBaseKey hOtherKey t check derive o o' result ho hv ho' hv'
      hresult hfrom _ =>
    refine never_told_of_flags (flagsOf_concatenatedKeys _ _ m) (fun hf => ?_) ⟨?_, ?_, rfl, hn⟩
    · have hever : everTrue CKA_EXTRACTABLE j.attribs = everTrue CKA_EXTRACTABLE result.pTemplate := by
        rw [everTrue, any_eq_entriesOf, hfrom _ (by decide), ← any_eq_entriesOf, everTrue]
      dsimp only at hf
      rw [hne, hever, ← (hc o o' result ho ho' hv hv' hresult).2] at hf
      have hboth := Option.some.inj hf
      rw [Bool.and_eq_true] at hboth
      have hbase := (hall o hv).never (flag_of_getBooleanValue hboth.1)
      have hb : (st.object o).attributes.getBooleanValue CKA_EXTRACTABLE true = false :=
        getBooleanValue_of_flag hbase
      exact if_pos (by rw [hb]; rfl)
    · dsimp only
      split <;> first | rfl | exact hs
    · dsimp only
      split <;> first | rfl | exact he

/-- **A key that has been made is honest.** -/
theorem built_honest (hmakes : c.Makes P x st j)
    (hplan : planObject P x j.hSession (some j.attribs) st = .ok plan)
    (h : Built plan j.op j.supply m') (hkey : classOf j.attribs ∈ keyClasses)
    (hall : ∀ o, (st.object o).valid = true → Honest (st.object o).attributes)
    (hc : c.Agrees st) : Honest m' := by
  obtain ⟨_, s, hs, -, -, -, -, hkind, -, -, hattribs⟩ := of_planObject hplan
  cases hs
  rw [← class_of_plan hplan] at hkey
  obtain ⟨m, l, -, hl, rfl, ht, hne⟩ := built_accepts h (p11ObjectOf_mem hkind) hkey
  rw [class_of_plan hplan] at hkey
  have hever : everTrue CKA_EXTRACTABLE plan.attribs = everTrue CKA_EXTRACTABLE j.attribs := by
    rw [everTrue, any_eq_entriesOf, hattribs, entriesOf_reorder (by decide), ← any_eq_entriesOf,
      everTrue]
  rcases makes_origin hmakes with ⟨mk, hSession, t, -, rfl⟩ | ⟨hop, origin, hsup, horigin⟩
  · cases hl
    rw [if_pos rfl] at hne
    refine ⟨fun hf => ?_, fun _ => ht⟩
    rw [putAll, List.foldl_nil, hne] at hf
    cases hf
  · have hcreate : j.op ≠ .CREATE := by
      intro he
      rw [he] at hop
      simp at hop
    rw [if_neg hcreate, hever] at hne
    obtain ⟨hnever, htold⟩ := origin_honest horigin hall hc hkey ht hne
    obtain ⟨material, rfl⟩ := hsup m l hl
    exact honest_of_flags (flagsOf_material m (origin m) material) hnever htold

end built

/-! ### Steps -/

/-- The condition on a step: a private or secret key that cannot be completed is not left behind,
and two keys that make a third one agree in their histories. -/
def Event.TellsTruth (P : Primitives) (st : Store Obj Sess) : Event Obj → Prop
  | .creation x c => (c.Atomic P x st ∨ ∀ j, c.Makes P x st j → classOf j.attribs ∉ keyClasses) ∧
    c.Agrees st
  | _ => True

/-- What is shown is honest. -/
def HonestHolds (st : Store Obj Sess) : Prop := ∀ o m, (st.object o).shown = some m → Honest m

section step

variable {P : Primitives} {st st' : Store Obj Sess} {ev : Event Obj} {x : Outside}
  {c : Creation Obj} {o : Obj} {m m' : AttributeMap}

/-- Keys that agree keep the history of `CKA_SENSITIVE`. -/
lemma agrees_keepsAlways
    (hall : ∀ o, (st.object o).valid = true → AlwaysTrue (st.object o).attributes)
    (h : c.Agrees st) : c.KeepsAlways st := by
  unfold Creation.KeepsAlways
  split
  · intro o o' result ho ho' hv hv' hresult hn hn'
    have hboth := (h o o' result ho ho' hv hv' hresult).1
    rw [hn, hn', Bool.and_true, Bool.and_eq_true] at hboth
    exact .inl (getBooleanValue_of_flag (hall o hv (flag_of_getBooleanValue hboth.1)))
  · trivial

/-- What is there after a call is what was there, or the call has succeeded and made it, or it is not
a key. -/
lemma made_cases (hready : Ready c.news st) (ho : o ∈ c.news)
    (hc : c.Atomic P x st ∨ ∀ j, c.Makes P x st j → classOf j.attribs ∉ keyClasses)
    (hm : ((c.exec P x st).2.object o).shown = some m) :
    (c.exec P x st).2.object o = st.object o ∨
    ∃ j plan, c.Makes P x st j ∧ j.making.newObject = o ∧
      planObject P x j.hSession (some j.attribs) st = .ok plan ∧
      (classOf j.attribs ∈ keyClasses ∧ Built plan j.op j.supply m ∨
        classOf j.attribs ∉ keyClasses ∧ (plan.changing j.op j.supply).Leads [] m) := by
  have hfin := creation_finished (P := P) (x := x) c hready
  rcases hfin.outcome o ho with hsame | ⟨j, hmakes, rfl, hout⟩
  · exact .inl hsame
  by_cases hkey : classOf j.attribs ∈ keyClasses
  swap
  · obtain ⟨plan, hplan, hleads⟩ := hout.leads m hm
    exact .inr ⟨j, plan, hmakes, rfl, hplan, .inr ⟨hkey, hleads⟩⟩
  by_cases hrv : (c.exec P x st).1 = CKR_OK
  · cases hkept : j.kept with
    | true =>
      obtain ⟨plan, m₂, hplan, hbuilt, hy⟩ := hfin.done hrv j hmakes hkept
      rw [hy, shown_stored] at hm
      cases hm
      exact .inr ⟨j, plan, hmakes, rfl, hplan, .inl ⟨hkey, hbuilt⟩⟩
    | false =>
      rcases hfin.gone hrv j hmakes hkept with hsame | hnone
      · exact .inl hsame
      · rw [hnone] at hm
        cases hm
  · -- a call that fails leaves nothing
    rcases hc with hatomic | hplain
    · have hunchanged := (creation_atomic_iff c hready).2 hatomic hrv
      obtain ⟨slotID, hin⟩ := hout.listed m hm
      have hpresent : j.making.newObject ∈ presentObjects (c.exec P x st).2 slotID :=
        List.mem_filter.2 ⟨hin, present_of_shown hm⟩
      rw [hunchanged.objects slotID] at hpresent
      exact absurd (List.mem_filter.1 hpresent).1 (hready.lists _ ho slotID)
    · exact absurd hkey (hplain j hmakes)

/-- What is made that is not a key is honest. -/
lemma plain_honest {j : Job Obj} {plan : Plan} (hmakes : c.Makes P x st j)
    (hplan : planObject P x j.hSession (some j.attribs) st = .ok plan)
    (hplain : classOf j.attribs ∉ keyClasses) (h : (plan.changing j.op j.supply).Leads [] m) :
    ¬ IsKey m ∧ Honest m := by
  obtain ⟨_, _, -, -, -, -, -, hkind, -⟩ := of_planObject hplan
  have hk := p11ObjectOf_mem hkind
  rw [class_of_plan hplan] at hk
  have hputs : ∀ m l, (plan.changing j.op j.supply).puts m l →
      ∀ y ∈ l, y.1 ≠ CKA_CLASS ∧ y.1 ≠ CKA_NEVER_EXTRACTABLE := by
    intro m l hl
    rcases hl with rfl | ⟨hl, -⟩
    · intro y hy
      unfold ownOf ownAttributes at hy
      rw [class_of_plan hplan] at hy
      split_ifs at hy with h1 h2 h3
      · rw [List.mem_singleton.1 hy]
        decide
      · exact absurd (by simp only [keyClasses, List.mem_cons, List.not_mem_nil, or_false]; tauto)
          hplain
      · exact absurd hy List.not_mem_nil
      · exact absurd hy List.not_mem_nil
    · rcases makes_origin hmakes with ⟨_, _, _, -, rfl⟩ | ⟨-, origin, hsup, horigin⟩
      · cases hl
        exact fun y hy => absurd hy List.not_mem_nil
      · obtain ⟨material, rfl⟩ := hsup m l hl
        have hmaterial : ∀ y ∈ material.attributes,
            y.1 ≠ CKA_CLASS ∧ y.1 ≠ CKA_NEVER_EXTRACTABLE := by
          intro y hy
          have hin := material.known y hy
          refine ⟨fun he => ?_, fun he => ?_⟩ <;> rw [he] at hin <;> exact absurd hin (by decide)
        cases horigin with
        | generatedPublic _ mechanism _ =>
          intro y hy
          rcases List.mem_append.1 hy with hy | hy
          · simp only [generatedPublic, isLocal, List.mem_cons, List.not_mem_nil, or_false] at hy
            rcases hy with rfl | rfl
            · decide
            · exact ⟨show CKA_KEY_GEN_MECHANISM ≠ CKA_CLASS by decide,
                show CKA_KEY_GEN_MECHANISM ≠ CKA_NEVER_EXTRACTABLE by decide⟩
          · exact hmaterial y hy
        | generated _ _ h => exact absurd h hplain
        | generatedRutokenGost _ _ _ h => exact absurd h hplain
        | unwrapped _ h => exact absurd h hplain
        | derived _ _ _ h => exact absurd h hplain
        | concatenatedData _ _ _ _ _ _ _ _ _ h => exact absurd h hplain
        | concatenatedKeys _ _ _ _ _ _ _ _ _ _ _ _ _ _ _ _ h => exact absurd h hplain
  obtain ⟨hclass, hnone⟩ := leads_plain (c := plan.changing j.op j.supply) hk hplain hputs
    (show objClassOf [] ∉ keyClasses by decide) rfl h
  refine ⟨hclass, ⟨fun hne => ?_, fun hkey => absurd hkey hclass⟩⟩
  rw [hnone] at hne
  cases hne

lemma Copied.honest {token : TokenView} {upgrade : Bool} (h : Copied token upgrade m m')
    (hm : Honest m) : objClassOf m' = objClassOf m ∧ Honest m' := by
  have hclass : objClassOf m' = objClassOf m := by
    have hget : ∀ v, OrderedMap.get CKA_CLASS m' = some (.unsignedLong v) ↔
        OrderedMap.get CKA_CLASS m = some (.unsignedLong v) := fun v => h.get fun _ he => by cases he
    by_cases hv : ∃ v, OrderedMap.get CKA_CLASS m = some (.unsignedLong v)
    · obtain ⟨v, hv⟩ := hv
      rw [objClassOf, getUnsignedLongValue, (hget v).2 hv, objClassOf, getUnsignedLongValue, hv]
    · have hnone : ∀ m : AttributeMap, (¬ ∃ v, OrderedMap.get CKA_CLASS m = some (.unsignedLong v)) →
          objClassOf m = CKO_VENDOR_DEFINED := by
        intro m hm
        unfold objClassOf getUnsignedLongValue
        split
        · rename_i v hv
          exact absurd ⟨v, hv⟩ hm
        · rfl
      have hv' : ¬ ∃ v, OrderedMap.get CKA_CLASS m' = some (.unsignedLong v) := by
        rintro ⟨v, hv'⟩
        exact hv ⟨v, (hget v).1 hv'⟩
      rw [hnone m hv, hnone m' hv']
  exact ⟨hclass, honest_congr hclass (fun t _ => h.flag t) hm⟩

lemma leads_changing_honest {p : P11Object} {token : TokenView} {isPrivate : Bool} {op : ObjectOp}
    {l : List CK_ATTRIBUTE} (hk : attributeKind m = some p) (hop : op = .SET ∨ op = .COPY)
    (h : (changing p token isPrivate op l).Leads m m') (hm : Honest m) : Honest m' :=
  (leads_honest (c := changing p token isPrivate op l) (p11ObjectOf_mem hk) hop
    (fun _ _ hp => hp) rfl hm h).2

/-- **Histories stay honest over one step.** -/
theorem step_honest (hset : AllSettled st) (hall : HonestHolds st) (hc : ev.TellsTruth P st)
    (h : ev.Step P st st') : HonestHolds st' := by
  intro o m' hm'
  have hvalid : ∀ o, (st.object o).valid = true → Honest (st.object o).attributes :=
    fun o hv => hall o _ (shown_of_valid (hset o) hv)
  cases step_cases hset h o with
  | kept _ hsame => exact hall o m' (hsame ▸ hm')
  | made x c j hmakes hj hout =>
    obtain ⟨hready, rfl⟩ := h
    rcases made_cases hready (hj ▸ (makes_of hmakes).1) hc.1 hm' with
      hsame | ⟨j', plan, hmakes', -, hplan, ⟨hkey, hbuilt⟩ | ⟨hplain, hleads⟩⟩
    · exact hall o m' (hsame ▸ hm')
    · exact built_honest hmakes' hplan hbuilt hkey hvalid hc.2
    · exact (plain_honest hmakes' hplan hplain hleads).2
  | changed x stores w hSession hObject t s p hs ho hchanged =>
    obtain ⟨m, hm, hleads⟩ := hchanged.becomes m' hm'
    have hkind := hchanged.kind
    rw [shown_of_valid (hset o) hchanged.valid] at hm
    cases hm
    exact leads_changing_honest hkind (.inl rfl) hleads (hvalid o hchanged.valid)
  | copied x m hSession hObject t s source hs hsource ho hcopy =>
    have hsource := hvalid source hcopy.valid
    by_cases hrv : (C_CopyObject P x m hSession hObject (some t) st).1 = CKR_OK
    · obtain ⟨hshown, p, m₀, m₁, hcopied, hk, hleads, hp, hu⟩ := hcopy.succeeded hrv
      rw [hshown] at hm'
      cases hm'
      exact leads_changing_honest hk (.inr rfl) (hleads.trans (leads_updateAll hp hu))
        (hcopied.honest hsource).2
    · rcases hcopy.failed hrv m' hm' with rfl | ⟨m₀, hcopied, rfl | ⟨p, hk, hleads⟩⟩
      · exact honest_nil
      · exact (hcopied.honest hsource).2
      · exact leads_changing_honest hk (.inr rfl) hleads (hcopied.honest hsource).2
  | elsewhere hel =>
    obtain ⟨m, hm, rfl | ⟨p, hk, hleads⟩⟩ := elsewhere_becomes hel (hset o) m' hm'
    · exact hall o _ hm
    · exact (leads_honest (c := .reading p) (p11ObjectOf_mem hk) (.inl rfl) (fun _ _ hp => hp) rfl
        (hall o m hm) hleads).2

end step

/-! ### Keys that other keys make, and keys from outside -/

/-- What a key takes over from the keys that it is made of. -/
structure Inherits (contributors : List AttributeMap) (m : AttributeMap) : Prop where
  sensitive : ∀ key ∈ contributors, key.flag CKA_SENSITIVE = some true →
    m.flag CKA_SENSITIVE = some true
  extractable : ∀ key ∈ contributors, key.flag CKA_EXTRACTABLE = some false →
    m.flag CKA_EXTRACTABLE = some false
  alwaysSensitive : m.flag CKA_ALWAYS_SENSITIVE = some true ↔
    ∀ key ∈ contributors, key.flag CKA_ALWAYS_SENSITIVE = some true
  neverExtractable : m.flag CKA_NEVER_EXTRACTABLE = some true ↔
    ∀ key ∈ contributors, key.flag CKA_NEVER_EXTRACTABLE = some true

/-- The keys that a call concatenates, or the one that it concatenates with data. -/
def Creation.Concatenates (st : Store Obj Sess) (contributors : List AttributeMap) :
    Creation Obj → Prop
  | .deriveKey _ _ hBaseKey _ (.key hOtherKey) _ _ => ∃ o o',
    st.handleManager.getObject hBaseKey = some o ∧
    st.handleManager.getObject hOtherKey = some o' ∧
    contributors = [(st.object o).attributes, (st.object o').attributes]
  | .deriveKey _ _ hBaseKey _ .data _ _ => ∃ o,
    st.handleManager.getObject hBaseKey = some o ∧ contributors = [(st.object o).attributes]
  | _ => False

/-- Whether a call makes a key of a value that is supplied from outside. -/
def Creation.fromOutside : Creation Obj → Bool
  | .createObject _ _ _ => true
  | .unwrapKey _ _ _ _ _ _ _ _ => true
  | .decapsulateKey _ _ _ _ _ _ _ => true
  | _ => false

section inherits

variable {P : Primitives} {st : Store Obj Sess} {x : Outside} {c : Creation Obj} {j : Job Obj}
  {plan : Plan} {m m' : AttributeMap}

lemma true_iff_getBooleanValue {t : CK_ATTRIBUTE_TYPE} :
    m.flag t = some true ↔ m.getBooleanValue t false = true :=
  ⟨getBooleanValue_of_flag, flag_of_getBooleanValue⟩

/-- **A key that is concatenated** takes over what it should. -/
theorem built_inherits {contributors : List AttributeMap} (hmakes : c.Makes P x st j)
    (hplan : planObject P x j.hSession (some j.attribs) st = .ok plan)
    (h : Built plan j.op j.supply m') (hkey : classOf j.attribs ∈ keyClasses)
    (hc : c.Agrees st) (hcat : c.Concatenates st contributors) : Inherits contributors m' := by
  obtain ⟨_, s, hs, -, -, -, -, hkind, -, -, hattribs⟩ := of_planObject hplan
  cases hs
  rw [← class_of_plan hplan] at hkey
  obtain ⟨m, l, -, hl, rfl, ht, hne⟩ := built_accepts h (p11ObjectOf_mem hkind) hkey
  unfold Creation.Concatenates at hcat
  split at hcat
  case h_3 => exact hcat.elim
  case h_1 mk hSession hBaseKey pTemplate hOtherKey check derive =>
    obtain ⟨o, o', ho, ho', rfl⟩ := hcat
    obtain ⟨attribs, supply, hderive, rfl⟩ := hmakes
    obtain ⟨o₁, origin, result, keyType, isOnToken, isPrivate, excluded, fixed, ho₁, hv,
      ⟨t, rfl, hresult⟩, rfl, hfixed, hadd, o₁', ho₁', hv', rfl⟩ := of_planDeriveKey hderive
    rw [ho] at ho₁
    rw [ho'] at ho₁'
    cases ho₁
    cases ho₁'
    obtain ⟨material, rfl⟩ := supplies_supplyOf _ _ m l hl
    have hflags := (flagsOf_material m (concatenatedKeys (st.object o).attributes
      (st.object o').attributes m) material).trans (flagsOf_concatenatedKeys _ _ m)
    obtain ⟨hhistory, hnever⟩ := hc o o' result ho ho' hv hv' hresult
    have hever : everTrue CKA_EXTRACTABLE plan.attribs = everTrue CKA_EXTRACTABLE result.pTemplate := by
      rw [everTrue, any_eq_entriesOf, hattribs, entriesOf_reorder (by decide),
        fromTemplate_of_derive hfixed hadd _ (by decide), ← any_eq_entriesOf, everTrue]
    rw [if_neg (fun he => by cases he), hever, ← hnever] at hne
    have hs := congrArg Flags.sensitive hflags
    have he := congrArg Flags.extractable hflags
    have has := congrArg Flags.alwaysSensitive hflags
    have hn := congrArg Flags.neverExtractable hflags
    dsimp only [flagsOf] at hs he has hn
    refine ⟨fun key hk hkey => hs.trans (if_pos ?_), fun key hk hkey => he.trans (if_pos ?_), ?_, ?_⟩
    · simp only [List.mem_cons, List.not_mem_nil, or_false] at hk
      rw [Bool.or_eq_true]
      rcases hk with rfl | rfl
      · exact .inl (getBooleanValue_of_flag hkey)
      · exact .inr (getBooleanValue_of_flag hkey)
    · simp only [List.mem_cons, List.not_mem_nil, or_false] at hk
      rw [Bool.not_eq_true', Bool.and_eq_false_iff]
      rcases hk with rfl | rfl
      · exact .inl (getBooleanValue_of_flag hkey)
      · exact .inr (getBooleanValue_of_flag hkey)
    · rw [has, ← hhistory]
      simp [true_iff_getBooleanValue]
    · rw [hn, hne]
      simp [true_iff_getBooleanValue]
  case h_2 mk hSession hBaseKey pTemplate check derive =>
    obtain ⟨o, ho, rfl⟩ := hcat
    obtain ⟨attribs, supply, hderive, rfl⟩ := hmakes
    obtain ⟨o₁, origin, result, keyType, isOnToken, isPrivate, excluded, fixed, ho₁, hv,
      -, rfl, -, -, hd⟩ := of_planDeriveKey hderive
    rw [ho] at ho₁
    cases ho₁
    cases hd
    obtain ⟨material, rfl⟩ := supplies_supplyOf _ _ m l hl
    have hflags := (flagsOf_material m (concatenatedData (st.object o).attributes m) material).trans
      (flagsOf_concatenatedData _ m)
    have hs := congrArg Flags.sensitive hflags
    have he := congrArg Flags.extractable hflags
    have has := congrArg Flags.alwaysSensitive hflags
    have hn := congrArg Flags.neverExtractable hflags
    dsimp only [flagsOf] at hs he has hn
    refine ⟨fun key hk hkey => hs.trans (if_pos ?_), fun key hk hkey => he.trans (if_pos ?_), ?_, ?_⟩
    · exact getBooleanValue_of_flag (List.mem_singleton.1 hk ▸ hkey)
    · rw [Bool.not_eq_true']
      exact getBooleanValue_of_flag (List.mem_singleton.1 hk ▸ hkey)
    · rw [has]
      simp [true_iff_getBooleanValue]
    · rw [hn]
      simp [true_iff_getBooleanValue]

/-- **A key from outside** has no history. -/
theorem built_outside (hmakes : c.Makes P x st j)
    (hplan : planObject P x j.hSession (some j.attribs) st = .ok plan)
    (h : Built plan j.op j.supply m') (hkey : classOf j.attribs ∈ keyClasses)
    (hc : c.fromOutside = true) :
    m'.flag CKA_ALWAYS_SENSITIVE = some false ∧ m'.flag CKA_NEVER_EXTRACTABLE = some false := by
  have hunwrapped : j.supply = (fun _ => .ok []) ∧ j.op = .CREATE ∨ Supplies j.supply unwrapped := by
    cases c with
    | createObject mk hSession pTemplate =>
      obtain ⟨t, -, rfl⟩ := hmakes
      exact .inl ⟨rfl, rfl⟩
    | unwrapKey mk hSession hUnwrappingKey pTemplate check inconsistent unwrapping material =>
      obtain ⟨token, attribs, -, hmakes⟩ := hmakes
      cases unwrapping with
      | direct keydata =>
        obtain ⟨data, -, rfl⟩ := hmakes
        exact .inr (supplies_supplyOf unwrapped _)
      | rsaAes emphkeydata mk' keydata =>
        obtain ⟨emphkey, -, rfl | ⟨data, -, rfl⟩⟩ := hmakes
        · exact .inr (supplies_supplyOf unwrapped (some (emphkeyMaterial token emphkey)))
        · exact .inr (supplies_supplyOf unwrapped _)
    | decapsulateKey mk hSession hPrivateKey pTemplate check late material =>
      obtain ⟨attribs, -, rfl⟩ := hmakes
      exact .inr (supplies_supplySecret _ _)
    | generateKey => cases hc
    | generateKeyPair => cases hc
    | deriveKey => cases hc
    | encapsulateKey => cases hc
  obtain ⟨stores, m₀, m₁, l, -, -, hl, rfl⟩ := h.steps
  rcases hunwrapped with ⟨hsup, hop⟩ | hsup
  · rw [hsup] at hl
    cases hl
    have hpublic : plan.info.objClass ≠ CKO_PUBLIC_KEY := by
      rw [class_of_plan hplan]
      intro he
      rw [he] at hkey
      exact absurd hkey (by decide)
    have hsecret : plan.info.objClass = CKO_SECRET_KEY ∨ plan.info.objClass = CKO_PRIVATE_KEY := by
      rw [class_of_plan hplan]
      simp only [keyClasses, List.mem_cons, List.not_mem_nil, or_false] at hkey
      exact hkey.symm
    rw [ownOf, if_pos hop, ownAttributes, if_neg hpublic, if_pos hsecret]
    simp +decide [putAll, flag_setAttribute, OSAttribute.truth]
  · obtain ⟨material, rfl⟩ := hsup _ l hl
    have hflags := (flagsOf_material _ (unwrapped _) material).trans
      (flagsOf_unwrapped (putAll (ownOf plan j.op) m₁))
    exact ⟨congrArg Flags.alwaysSensitive hflags, congrArg Flags.neverExtractable hflags⟩

end inherits

/-! ### Runs -/

section runs

variable {P : Primitives} {st₀ st : Store Obj Sess} {evs : List (Event Obj)}

/-- What holds in every state that is reached. -/
structure Truthful (st : Store Obj Sess) : Prop where
  settled : AllSettled st
  always : AlwaysHolds st
  honest : HonestHolds st

lemma Truthful.step {st' : Store Obj Sess} {ev : Event Obj} (h : Truthful st)
    (hs : StepWith P (Event.TellsTruth P) st ev st') : Truthful st' := by
  obtain ⟨hstep, hc⟩ := hs
  refine ⟨step_settled h.settled hstep, step_always h.settled h.always ?_ hstep,
    step_honest h.settled h.honest hc hstep⟩
  cases ev with
  | creation x c =>
    exact agrees_keepsAlways (fun o hv => h.always o _ (shown_of_valid (h.settled o) hv)) hc.2
  | setAttributeValue => trivial
  | copyObject => trivial
  | other => trivial

/-- **The history attributes over whole runs.** Every key that is shown tells the truth; a key whose
value comes from outside, and every copy of it, has no history; and a key that is concatenated takes
over from the keys that it is made of what it should. -/
theorem key_history_runs (h₀ : Fresh st₀)
    (hr : Run (StepWith P (Event.TellsTruth P)) st₀ evs st) :
    (∀ o m, (st.object o).shown = some m → IsKey m →
      (m.flag CKA_NEVER_EXTRACTABLE = some true → m.flag CKA_EXTRACTABLE = some false) ∧
      (m.flag CKA_ALWAYS_SENSITIVE = some true → m.flag CKA_SENSITIVE = some true)) ∧
    (∀ x (c : Creation Obj) (st₁ : Store Obj Sess),
      StepWith P (Event.TellsTruth P) st (.creation x c) st₁ →
      ∀ o ∈ c.news, ∀ m, st₁.object o ≠ st.object o → (st₁.object o).shown = some m → IsKey m →
      (c.fromOutside = true → ∀ evs₁ st₂ o₂ m₂, Run (Follow P) (st₁, o) evs₁ (st₂, o₂) →
        (st₂.object o₂).shown = some m₂ → m₂.flag CKA_ALWAYS_SENSITIVE = some false ∧
          m₂.flag CKA_NEVER_EXTRACTABLE = some false) ∧
      ∀ contributors, c.Concatenates st contributors → Inherits contributors m) := by
  have htruth : Truthful st := by
    refine hr.invariant (P := Truthful) ⟨h₀.settled, ?_, ?_⟩ fun _ _ _ h hs => h.step hs
    · intro o m hm
      rw [h₀.empty o] at hm
      cases hm
    · intro o m hm
      rw [h₀.empty o] at hm
      cases hm
  refine ⟨fun o m hm _ => ⟨(htruth.honest o m hm).never, htruth.always o m hm⟩, ?_⟩
  rintro x c st₁ hs o ho m hne hm hkey
  have hset₁ := (htruth.step hs).settled
  obtain ⟨⟨hready, rfl⟩, hc⟩ := hs
  rcases made_cases hready ho hc.1 hm with
    hsame | ⟨j, plan, hmakes, -, hplan, ⟨hclass, hbuilt⟩ | ⟨hplain, hleads⟩⟩
  · exact absurd hsame hne
  · refine ⟨fun hout evs₁ st₂ o₂ m₂ hway hm₂ => ?_, fun contributors hcat =>
      built_inherits hmakes hplan hbuilt hclass hc.2 hcat⟩
    obtain ⟨has, hn⟩ := built_outside hmakes hplan hbuilt hclass hout
    obtain ⟨m₁, hm₁, hlast⟩ := (run_lasting hset₁ hway).2 m₂ hm₂
    rw [hm] at hm₁
    cases hm₁
    exact ⟨hlast.alwaysSensitive has, hlast.neverExtractable hn⟩
  · exact absurd hkey (plain_honest hmakes hplan hplain hleads).1

end runs

/-! ### A key that was said never to have been extractable -/

section openKey

/-- An AES key that may be extracted. -/
def openTemplate : List CK_ATTRIBUTE :=
  [⟨CKA_VALUE_LEN, some (ulongBytes 16), 0⟩, ⟨CKA_EXTRACTABLE, some [CK_TRUE], 0⟩,
    ⟨CKA_DERIVE, some [CK_TRUE], 0⟩]

def openKey : Creation ℕ :=
  .generateKey (smooth 0) 1 CKM_AES_KEY_GEN (some openTemplate) fun _ => .ok (some sixteenBytes)

/-- The key twice over, with no template. -/
def openTwice : Creation ℕ :=
  .deriveKey (smooth 1) 1 2 (some []) (.key 2) (fun _ _ => CKR_OK)
    fun _ t => .ok ⟨t, none, some sixteenBytes⟩

def oneOpenKey : Store ℕ Unit := (openKey.exec plainCopies noOutside oneSession).2

def bothOpenKeys : Store ℕ Unit := (openTwice.exec plainCopies noOutside oneOpenKey).2

lemma ready_oneOpenKey : Ready [1] oneOpenKey := by
  have hrep : HandleManager.Rep (fun _ : ℕ => 0) oneSession.handleManager :=
    HandleManager.rep_addSession (HandleManager.rep_empty fun _ => 0) (by decide) 0 ()
  have hst : oneOpenKey = (C_GenerateKey plainCopies noOutside (smooth 0) 1 CKM_AES_KEY_GEN
      (some openTemplate) (fun _ => .ok (some sixteenBytes)) oneSession).2.2 := by
    simp only [oneOpenKey, openKey, Creation.exec]
  exact generateKey_ready hst (ready_oneSession (by decide)) hrep ⟨(), rfl⟩ (fun _ => rfl)
    (by decide) (fun _ => List.not_mem_nil) (by decide +kernel) (by decide +kernel)

/-- The key of the second call was, by its attributes, never extractable, and is. -/
theorem derived_key_is_extractable : ∃ (evs : List (Event ℕ)) (st : Store ℕ Unit),
    Fresh oneSession ∧ Run (Event.Step plainCopies) oneSession evs st ∧
    ∃ o m, (st.object o).shown = some m ∧ IsKey m ∧
      m.flag CKA_NEVER_EXTRACTABLE = some true ∧ m.flag CKA_EXTRACTABLE = some true := by
  have hflags : (bothOpenKeys.object 1).shown.map
      (fun m => (decide (objClassOf m ∈ keyClasses), m.flag CKA_NEVER_EXTRACTABLE,
        m.flag CKA_EXTRACTABLE)) = some (true, some true, some true) := by decide +kernel
  obtain ⟨m, hm, hf⟩ := Option.map_eq_some_iff.1 hflags
  obtain ⟨h1, h2⟩ := Prod.mk.inj hf
  obtain ⟨h2, h3⟩ := Prod.mk.inj h2
  have hs1 : Event.Step plainCopies oneSession (.creation noOutside openKey) oneOpenKey :=
    ⟨ready_oneSession (by decide), by rw [oneOpenKey]⟩
  have hs2 : Event.Step plainCopies oneOpenKey (.creation noOutside openTwice) bothOpenKeys :=
    ⟨ready_oneOpenKey, by rw [bothOpenKeys]⟩
  exact ⟨_, bothOpenKeys, fresh_oneSession, (Run.single hs1).trans (Run.single hs2), 1, m, hm,
    show objClassOf m ∈ keyClasses from of_decide_eq_true h1, h2, h3⟩

theorem key_history_openKey : ∃ m, (oneOpenKey.object 0).shown = some m ∧ IsKey m ∧
    (m.flag CKA_NEVER_EXTRACTABLE = some true → m.flag CKA_EXTRACTABLE = some false) ∧
    (m.flag CKA_ALWAYS_SENSITIVE = some true → m.flag CKA_SENSITIVE = some true) := by
  have hshown : (oneOpenKey.object 0).shown.map
      (fun m => decide (objClassOf m ∈ keyClasses)) = some true := by decide +kernel
  obtain ⟨m, hm, hk⟩ := Option.map_eq_some_iff.1 hshown
  have hkey : IsKey m := show objClassOf m ∈ keyClasses from of_decide_eq_true hk
  have hatomic : openKey.Atomic plainCopies noOutside oneSession :=
    (creation_atomic_iff openKey (ready_oneSession (by decide))).1
      fun hne => absurd (by decide +kernel) hne
  have hstep : Event.Step plainCopies oneSession (.creation noOutside openKey) oneOpenKey :=
    ⟨ready_oneSession (by decide), by rw [oneOpenKey]⟩
  have hruns := key_history_runs fresh_oneSession (Run.single ⟨hstep, .inl hatomic, trivial⟩)
  exact ⟨m, hm, hkey, hruns.1 0 m hm hkey⟩

end openKey

end SoftHSM.Create
