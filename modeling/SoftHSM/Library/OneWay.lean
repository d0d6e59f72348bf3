import SoftHSM.Library.Changes

/-!
What stays true of the attributes on the way of an object: the one-way attributes under the updates
of `C_SetAttributeValue` and `C_CopyObject`, and the history of a key under every update. What a
template makes of an attribute is what its last entry says.
-/

namespace SoftHSM

open CK_RV P11Object AttributeMap

/-! ### One update -/

/-- The value of a Boolean. -/
def OSAttribute.truth : OSAttribute → Option Bool
  | .boolean value => some value
  | _ => none

lemma flag_setAttribute_truth (m : AttributeMap) (type : CK_ATTRIBUTE_TYPE) (attr : OSAttribute) :
    (m.setAttribute type attr).flag type = attr.truth := by
  rw [flag, get_setAttribute, if_pos rfl]
  cases attr <;> rfl

/-- What a preset may be: the class, a type, or that an object is public. -/
def presetFits : Preset → Bool
  | .value type _ => type ∈ [CKA_CLASS, CKA_KEY_TYPE, CKA_CERTIFICATE_TYPE]
  | .missing type attr => type = CKA_PRIVATE && attr.truth = some false

lemma presetFits_table : ∀ x ∈ kinds, ∀ y ∈ x.2.presets, presetFits y = true := by decide +kernel

section update

variable {type t : CK_ATTRIBUTE_TYPE} {e : CK_ATTRIBUTE} {op : ObjectOp} {so : Bool}
  {m : AttributeMap} {r : CK_RV × AttributeMap}

lemma not_flag_true (h : m.getBooleanValue t false = false) : m.flag t ≠ some true := by
  rw [getBooleanValue_eq] at h
  intro hf
  rw [hf] at h
  cases h

lemma not_flag_false (h : m.getBooleanValue t false = true) : m.flag t ≠ some false := by
  rw [getBooleanValue_eq] at h
  intro hf
  rw [hf] at h
  cases h

/-- The history of `CKA_EXTRACTABLE`, after an update of an object that is not new. -/
lemma Watched.never (h : Watched type e op so m r) (hm : NeverTrue m)
    (hop : op = .SET ∨ op = .COPY) : NeverTrue r.2 := by
  intro hr
  cases h with
  | quiet rv m' hrv h =>
    rw [flag_congr (h _ (by decide))] at hr ⊢
    exact hm hr
  | sensitive hts _ =>
    rw [flag_congr (get_setSensitive (by decide) (by decide) _ m)] at hr ⊢
    exact hm hr
  | extractable hte hold =>
    -- a key that may be changed so is not one that was never extractable
    simp only [flag_setExtractable_never] at hr
    split at hr
    · cases hr
    · exact absurd (hm hr) (not_flag_false (hold hop))
  | wrapWithTrusted htw _ => rw [flag_setAttribute_of_ne (by decide)] at hr ⊢; exact hm hr
  | copyable htc _ => rw [flag_setAttribute_of_ne (by decide)] at hr ⊢; exact hm hr
  | isPrivate htp _ => rw [flag_setAttribute_of_ne (by decide)] at hr ⊢; exact hm hr
  | trusted htt _ => rw [flag_setAttribute_of_ne (by decide)] at hr ⊢; exact hm hr

/-- What an update that succeeds makes of `CKA_NEVER_EXTRACTABLE`. -/
lemma Watched.neverExtractable (h : Watched type e op so m r) (hr : r.1 = CKR_OK) :
    r.2.flag CKA_NEVER_EXTRACTABLE =
      if type = CKA_EXTRACTABLE ∧ e.bool ≠ CK_FALSE then some false
      else m.flag CKA_NEVER_EXTRACTABLE := by
  have hother : ∀ {t v}, t ≠ CKA_EXTRACTABLE → v = m.flag CKA_NEVER_EXTRACTABLE →
      v = if t = CKA_EXTRACTABLE ∧ e.bool ≠ CK_FALSE then some false
        else m.flag CKA_NEVER_EXTRACTABLE := by
    intro t v ht hv
    rw [if_neg fun hc => ht hc.1, hv]
  cases h with
  | quiet rv m' hrv h =>
    refine hother ?_ (flag_congr (h _ (by decide)))
    rintro rfl
    exact hrv hr (by decide)
  | sensitive hts _ =>
    exact hother (by rw [hts]; decide)
      (flag_congr (get_setSensitive (by decide) (by decide) _ m))
  | extractable hte _ =>
    rw [flag_setExtractable_never]
    by_cases hb : e.bool = CK_FALSE <;> simp [hte, hb]
  | wrapWithTrusted htw _ => exact hother (by rw [htw]; decide) (flag_setAttribute_of_ne (by decide))
  | copyable htc _ => exact hother (by rw [htc]; decide) (flag_setAttribute_of_ne (by decide))
  | isPrivate htp _ => exact hother (by rw [htp]; decide) (flag_setAttribute_of_ne (by decide))
  | trusted htt _ => exact hother (by rw [htt]; decide) (flag_setAttribute_of_ne (by decide))

/-- What an update makes of the flags of an object that is not new: the two of the four that are
one-way, and the history that follows them. -/
lemma Watched.oneWay (h : Watched type e op so m r) (hop : op = .SET ∨ op = .COPY)
    (hlocal : OrderedMap.get CKA_LOCAL r.2 = OrderedMap.get CKA_LOCAL m)
    (hmech : OrderedMap.get CKA_KEY_GEN_MECHANISM r.2 = OrderedMap.get CKA_KEY_GEN_MECHANISM m) :
    OneWay m r.2 := by
  have hl : ∀ v, m.flag CKA_LOCAL = some v → r.2.flag CKA_LOCAL = some v :=
    fun v hv => (flag_congr hlocal).trans hv
  have hk : ∀ v, OrderedMap.get CKA_KEY_GEN_MECHANISM m = some (.unsignedLong v) →
      OrderedMap.get CKA_KEY_GEN_MECHANISM r.2 = some (.unsignedLong v) :=
    fun v hv => hmech.trans hv
  have hset : op ≠ .GENERATE ∧ op ≠ .DERIVE := by rcases hop with rfl | rfl <;> decide
  cases h with
  | quiet rv m' hrv h =>
    refine ⟨?_, ?_, ?_, ?_, hl, hk, ?_, ?_⟩ <;> rw [flag_congr (h _ (by decide))] <;> exact id
  | sensitive hts hold =>
    have hkeep : ∀ {t}, t ≠ CKA_SENSITIVE → t ≠ CKA_ALWAYS_SENSITIVE →
        (setSensitive op (e.bool ≠ CK_FALSE) m).flag t = m.flag t :=
      fun h1 h2 => flag_congr (get_setSensitive h1 h2 _ m)
    refine ⟨fun hs => absurd hs (not_flag_true (hold hop)), ?_, ?_, ?_, hl, hk, fun has => ?_, ?_⟩
    · rw [hkeep (by decide) (by decide)]; exact id
    · rw [hkeep (by decide) (by decide)]; exact id
    · rw [hkeep (by decide) (by decide)]; exact id
    · rw [flag_setSensitive_always]
      simp [hset, has]
    · rw [hkeep (by decide) (by decide)]; exact id
  | extractable hte hold =>
    have hkeep : ∀ {t}, t ≠ CKA_EXTRACTABLE → t ≠ CKA_NEVER_EXTRACTABLE →
        (setExtractable (e.bool ≠ CK_FALSE) m).flag t = m.flag t :=
      fun h1 h2 => flag_congr (get_setExtractable h1 h2 _ m)
    refine ⟨?_, ?_, fun he => absurd he (not_flag_false (hold hop)), ?_, hl, hk, ?_, fun hne => ?_⟩
    · rw [hkeep (by decide) (by decide)]; exact id
    · rw [hkeep (by decide) (by decide)]; exact id
    · rw [hkeep (by decide) (by decide)]; exact id
    · rw [hkeep (by decide) (by decide)]; exact id
    · rw [flag_setExtractable_never]
      simp [hne]
  | wrapWithTrusted htw hold =>
    refine ⟨?_, fun hw => absurd hw (not_flag_true (hold hop)), ?_, ?_, hl, hk, ?_, ?_⟩ <;>
      rw [flag_setAttribute_of_ne (by decide)] <;> exact id
  | copyable htc hno =>
    rcases hop with rfl | rfl
    · exact absurd rfl hno.1
    · exact absurd rfl hno.2
  | isPrivate htp _ =>
    refine ⟨?_, ?_, ?_, ?_, hl, hk, ?_, ?_⟩ <;> rw [flag_setAttribute_of_ne (by decide)] <;> exact id
  | trusted htt _ =>
    refine ⟨?_, ?_, ?_, ?_, hl, hk, ?_, ?_⟩ <;> rw [flag_setAttribute_of_ne (by decide)] <;> exact id

/-- No update of `C_SetAttributeValue` changes `CKA_PRIVATE`. -/
lemma Watched.private_set (h : Watched type e .SET so m r) :
    OrderedMap.get CKA_PRIVATE r.2 = OrderedMap.get CKA_PRIVATE m := by
  cases h with
  | quiet rv m' hrv h => exact h _ (by decide)
  | sensitive hts _ => exact get_setSensitive (by decide) (by decide) _ m
  | extractable hte _ => exact get_setExtractable (by decide) (by decide) _ m
  | wrapWithTrusted htw _ => rw [get_setAttribute, if_neg (by decide)]
  | copyable htc _ => rw [get_setAttribute, if_neg (by decide)]
  | isPrivate htp hop => exact absurd rfl hop
  | trusted htt _ => rw [get_setAttribute, if_neg (by decide)]

/-- `CKA_TRUSTED` becomes true only while the security officer is logged in. -/
lemma Watched.trusted_so (h : Watched type e op so m r) (ht : r.2.flag CKA_TRUSTED = some true) :
    m.flag CKA_TRUSTED = some true ∨ so = true := by
  cases h with
  | quiet rv m' hrv h => exact .inl ((flag_congr (h _ (by decide))).symm.trans ht)
  | sensitive hts _ =>
    exact .inl ((flag_congr (get_setSensitive (by decide) (by decide) _ m)).symm.trans ht)
  | extractable hte _ =>
    exact .inl ((flag_congr (get_setExtractable (by decide) (by decide) _ m)).symm.trans ht)
  | wrapWithTrusted htw _ => exact .inl ((flag_setAttribute_of_ne (by decide)).symm.trans ht)
  | copyable htc _ => exact .inl ((flag_setAttribute_of_ne (by decide)).symm.trans ht)
  | isPrivate htp _ => exact .inl ((flag_setAttribute_of_ne (by decide)).symm.trans ht)
  | trusted htt hso =>
    rw [flag_setAttribute_self] at ht
    exact .inr (hso (by simpa using ht))

end update

/-! ### The way of an object -/

namespace Create

lemma putAll_cons (x : CK_ATTRIBUTE_TYPE × OSAttribute) (l : List (CK_ATTRIBUTE_TYPE × OSAttribute))
    (m : AttributeMap) : putAll (x :: l) m = putAll l (m.setAttribute x.1 x.2) := rfl

lemma putAll_append (l l' : List (CK_ATTRIBUTE_TYPE × OSAttribute)) (m : AttributeMap) :
    putAll (l ++ l') m = putAll l' (putAll l m) := List.foldl_append

lemma get_putAll {l : List (CK_ATTRIBUTE_TYPE × OSAttribute)} {t : CK_ATTRIBUTE_TYPE}
    (h : ∀ x ∈ l, x.1 ≠ t) (m : AttributeMap) : OrderedMap.get t (putAll l m) = OrderedMap.get t m := by
  induction l generalizing m with
  | nil => rfl
  | cons x l ih =>
    rw [putAll_cons, ih fun y hy => h y (List.mem_cons_of_mem _ hy), get_setAttribute, if_neg]
    exact fun he => h x List.mem_cons_self he.symm

lemma flag_putAll {l : List (CK_ATTRIBUTE_TYPE × OSAttribute)} {t : CK_ATTRIBUTE_TYPE}
    (h : ∀ x ∈ l, x.1 ≠ t) {m : AttributeMap} : (putAll l m).flag t = m.flag t :=
  flag_congr (get_putAll h m)

end Create

open Create

section leads

variable {c : Changing} {k : UInt64} {m m' : AttributeMap} {type t : CK_ATTRIBUTE_TYPE}
  {attr : OSAttribute}

lemma value_fits (hk : (k, c.p11object) ∈ kinds) {v : UInt64}
    (hx : .value type v ∈ c.p11object.presets) :
    type ∈ [CKA_CLASS, CKA_KEY_TYPE, CKA_CERTIFICATE_TYPE] :=
  of_decide_eq_true (presetFits_table _ hk _ hx)

lemma missing_fits (hk : (k, c.p11object) ∈ kinds)
    (hx : .missing type attr ∈ c.p11object.presets) :
    type = CKA_PRIVATE ∧ attr.truth = some false := by
  have h := presetFits_table _ hk _ hx
  simpa only [presetFits, Bool.and_eq_true, decide_eq_true_eq] using h

/-- A type that is not preset stays as it is under a preset. -/
lemma get_value (hk : (k, c.p11object) ∈ kinds) {v : UInt64}
    (hx : .value type v ∈ c.p11object.presets)
    (ht : t ∉ [CKA_CLASS, CKA_KEY_TYPE, CKA_CERTIFICATE_TYPE]) :
    OrderedMap.get t (m.setAttribute type (.unsignedLong v)) = OrderedMap.get t m := by
  rw [get_setAttribute, if_neg]
  rintro rfl
  exact ht (value_fits hk hx)

lemma flag_missing {b : Bool} (hm : m.attributeExists type = false) (h : m.flag t = some b) :
    (m.setAttribute type attr).flag t = some b := by
  rw [flag_setAttribute_of_ne, h]
  rintro rfl
  rw [flag_of_missing hm] at h
  cases h

lemma get_missing (hm : m.attributeExists type = false) {v : OSAttribute}
    (h : OrderedMap.get t m = some v) : OrderedMap.get t (m.setAttribute type attr) = some v := by
  rw [get_setAttribute, if_neg, h]
  rintro rfl
  rw [attributeExists, h] at hm
  cases hm

lemma oneWay_missing (hm : m.attributeExists type = false) :
    OneWay m (m.setAttribute type attr) :=
  ⟨flag_missing hm, flag_missing hm, flag_missing hm, flag_missing hm,
    fun _ => flag_missing hm, fun _ => get_missing hm, flag_missing hm, flag_missing hm⟩

lemma oneWay_value (hk : (k, c.p11object) ∈ kinds) {v : UInt64}
    (hx : .value type v ∈ c.p11object.presets) :
    OneWay m (m.setAttribute type (.unsignedLong v)) := by
  have hget : ∀ t ∉ [CKA_CLASS, CKA_KEY_TYPE, CKA_CERTIFICATE_TYPE],
      OrderedMap.get t (m.setAttribute type (.unsignedLong v)) = OrderedMap.get t m :=
    fun t ht => get_value hk hx ht
  have hflag : ∀ t ∉ [CKA_CLASS, CKA_KEY_TYPE, CKA_CERTIFICATE_TYPE],
      (m.setAttribute type (.unsignedLong v)).flag t = m.flag t :=
    fun t ht => flag_congr (hget t ht)
  refine ⟨?_, ?_, ?_, ?_, ?_, ?_, ?_, ?_⟩
  · rw [hflag _ (by decide)]; exact id
  · rw [hflag _ (by decide)]; exact id
  · rw [hflag _ (by decide)]; exact id
  · rw [hflag _ (by decide)]; exact id
  · rw [hflag _ (by decide)]; exact fun _ => id
  · rw [hget _ (by decide)]; exact fun _ => id
  · rw [hflag _ (by decide)]; exact id
  · rw [hflag _ (by decide)]; exact id

/-- What no update sets stays as it is. -/
lemma update_fixed (hk : (k, c.p11object) ∈ kinds) {a : P11Attribute}
    (ha : a ∈ c.p11object.attributes)
    (ht : t ∈ [CKA_LOCAL, CKA_KEY_GEN_MECHANISM, CKA_CLASS, CKA_KEY_TYPE, CKA_CERTIFICATE_TYPE])
    (e : CK_ATTRIBUTE) : OrderedMap.get t (a.update c.token c.isPrivate e c.op m).2 =
      OrderedMap.get t m := by
  rcases update_cases a c.token c.isPrivate e c.op m with ⟨rv, -, h⟩ | ⟨-, h⟩
  · rw [h]
  · rw [h]
    exact keeps_applyUpdateAttr (fixed_table _ hk a ha t ht) c.token c.isPrivate e c.op m

/-- **The one-way attributes** of an object that is not new. -/
theorem leads_oneWay (hk : (k, c.p11object) ∈ kinds) (hop : c.op = .SET ∨ c.op = .COPY)
    (hputs : ∀ m l, ¬ c.puts m l) (h : c.Leads m m') : OneWay m m' := by
  induction h with
  | refl => exact .refl m
  | value _ hx ih => exact ih.trans (oneWay_value hk hx)
  | missing _ _ hm ih => exact ih.trans (oneWay_missing hm)
  | default _ _ hm _ ih => exact ih.trans (oneWay_missing hm)
  | @update m' _ e _ a ha _ ih =>
    obtain ⟨hmem, -⟩ := attributeOf_some ha
    exact ih.trans ((update_watched hk hmem c.token c.isPrivate e c.op m').oneWay hop
      (update_fixed hk hmem (by decide) e) (update_fixed hk hmem (by decide) e))
  | put _ hl _ => exact absurd hl (hputs _ _)

/-- A private object stays private, where no update may change it. -/
theorem leads_private (hk : (k, c.p11object) ∈ kinds) (hop : c.op = .SET)
    (hputs : ∀ m l, ¬ c.puts m l) (h : c.Leads m m') (hm : m.flag CKA_PRIVATE = some true) :
    m'.flag CKA_PRIVATE = some true := by
  induction h with
  | refl => exact hm
  | value _ hx ih => rw [flag_congr (get_value hk hx (by decide)), ih]
  | missing _ _ hmiss ih => exact flag_missing hmiss ih
  | default _ _ hmiss _ ih => exact flag_missing hmiss ih
  | @update m' _ e _ a ha _ ih =>
    obtain ⟨hmem, -⟩ := attributeOf_some ha
    have hw := update_watched hk hmem c.token c.isPrivate e c.op m'
    rw [hop] at hw ⊢
    rw [flag_congr hw.private_set, ih]
  | put _ hl _ => exact absurd hl (hputs _ _)

lemma trusted_default : ∀ x ∈ kinds, ∀ a ∈ x.2.attributes, a.type = CKA_TRUSTED →
    a.default.truth = some false := by decide +kernel

/-- An object becomes trusted only while the security officer is logged in. -/
theorem leads_trusted (hk : (k, c.p11object) ∈ kinds)
    (hputs : ∀ m l, c.puts m l → ∀ x ∈ l, x.1 ≠ CKA_TRUSTED) (h : c.Leads m m')
    (ht : m'.flag CKA_TRUSTED = some true) :
    m.flag CKA_TRUSTED = some true ∨ c.token.isSOLoggedIn = true := by
  induction h with
  | refl => exact .inl ht
  | value _ hx ih =>
    rw [flag_congr (get_value hk hx (by decide))] at ht
    exact ih ht
  | missing _ hx _ ih =>
    obtain ⟨rfl, -⟩ := missing_fits hk hx
    rw [flag_setAttribute_of_ne (by decide)] at ht
    exact ih ht
  | @default m' _ a ha _ _ ih =>
    by_cases hta : a.type = CKA_TRUSTED
    · rw [← hta, flag_setAttribute_truth, trusted_default _ hk a ha hta] at ht
      cases ht
    · rw [flag_setAttribute_of_ne (Ne.symm hta)] at ht
      exact ih ht
  | @update m' _ e _ a ha _ ih =>
    obtain ⟨hmem, -⟩ := attributeOf_some ha
    rcases (update_watched hk hmem c.token c.isPrivate e c.op m').trusted_so ht with ht | ht
    · exact ih ht
    · exact .inr ht
  | @put m' _ l hl ih => exact ih ((flag_putAll (hputs m' l hl)).symm.trans ht)

lemma alwaysSensitive_default : ∀ x ∈ kinds, ∀ a ∈ x.2.attributes,
    a.type = CKA_ALWAYS_SENSITIVE → a.default.truth = some false := by decide +kernel

/-- **The history of `CKA_SENSITIVE`**, on every way: what the call puts has to keep it. -/
theorem leads_always (hk : (k, c.p11object) ∈ kinds)
    (hputs : ∀ m l, c.puts m l → AlwaysTrue m → AlwaysTrue (putAll l m)) (h : c.Leads m m')
    (hm : AlwaysTrue m) : AlwaysTrue m' := by
  have hother : ∀ {m : AttributeMap} {type : CK_ATTRIBUTE_TYPE} {attr : OSAttribute},
      type ≠ CKA_ALWAYS_SENSITIVE → type ≠ CKA_SENSITIVE → AlwaysTrue m →
      AlwaysTrue (m.setAttribute type attr) := by
    intro m type attr h1 h2 hm has
    rw [flag_setAttribute_of_ne h1.symm] at has
    rw [flag_setAttribute_of_ne h2.symm]
    exact hm has
  induction h with
  | refl => exact hm
  | value _ hx ih =>
    have hfits := value_fits hk hx
    refine hother ?_ ?_ ih <;> rintro rfl <;> exact absurd hfits (by decide)
  | missing _ hx _ ih =>
    obtain ⟨rfl, -⟩ := missing_fits hk hx
    exact hother (by decide) (by decide) ih
  | @default m' _ a ha hmiss _ ih =>
    by_cases h1 : a.type = CKA_ALWAYS_SENSITIVE
    · intro has
      rw [← h1, flag_setAttribute_truth, alwaysSensitive_default _ hk a ha h1] at has
      cases has
    by_cases h2 : a.type = CKA_SENSITIVE
    · intro has
      -- without `CKA_SENSITIVE` a key has not always been sensitive
      rw [flag_setAttribute_of_ne (Ne.symm h1)] at has
      have hs := ih has
      rw [h2] at hmiss
      rw [flag_of_missing hmiss] at hs
      cases hs
    · exact hother h1 h2 ih
  | @update m' _ e _ a ha _ ih =>
    obtain ⟨hmem, -⟩ := attributeOf_some ha
    exact (update_watched hk hmem c.token c.isPrivate e c.op m').always ih
  | put _ hl ih => exact hputs _ _ hl ih

end leads

/-! ### What a template says last -/

section template

variable {p : P11Object} {k : UInt64} {token : TokenView} {isPrivate : Bool} {op : ObjectOp}
  {e : CK_ATTRIBUTE} {l : List CK_ATTRIBUTE} {m m' : AttributeMap} {t : CK_ATTRIBUTE_TYPE}

/-- A template that is accepted is accepted entry by entry. -/
lemma updateAll_ok_cons (h : p.updateAll token isPrivate op (e :: l) m = (CKR_OK, m')) :
    ∃ a m₁, p.attributeOf e.type = some a ∧ a.update token isPrivate e op m = (CKR_OK, m₁) ∧
      p.updateAll token isPrivate op l m₁ = (CKR_OK, m') := by
  rw [updateAll_cons, Update.andThen] at h
  unfold updateEntry at h
  cases ha : p.attributeOf e.type with
  | none =>
    rw [ha] at h
    simp [Update.refuse] at h
  | some a =>
    rw [ha] at h
    dsimp only at h
    rcases hu : a.update token isPrivate e op m with ⟨rv, m₁⟩
    rw [hu] at h
    by_cases hrv : rv = CKR_OK
    · subst hrv
      exact ⟨a, m₁, rfl, hu, h⟩
    · cases rv <;> first | exact absurd rfl hrv | cases h

/-- Every entry of a template that is accepted is. -/
lemma updateAll_mem (h : p.updateAll token isPrivate op l m = (CKR_OK, m')) (he : e ∈ l) :
    ∃ a m₁ m₂, p.attributeOf e.type = some a ∧
      a.update token isPrivate e op m₁ = (CKR_OK, m₂) := by
  induction l generalizing m with
  | nil => cases he
  | cons e' l ih =>
    obtain ⟨a, m₁, ha, hu, hl⟩ := updateAll_ok_cons h
    rcases List.mem_cons.1 he with rfl | he
    · exact ⟨a, m, m₁, ha, hu⟩
    · exact ih hl he

/-- The last entry of a type. -/
def lastEntry (t : CK_ATTRIBUTE_TYPE) (l : List CK_ATTRIBUTE) : Option CK_ATTRIBUTE :=
  l.reverse.find? (·.type = t)

/-- The entries of a type. -/
def entriesOf (t : CK_ATTRIBUTE_TYPE) (l : List CK_ATTRIBUTE) : List CK_ATTRIBUTE :=
  l.filter (·.type = t)

lemma lastEntry_eq (t : CK_ATTRIBUTE_TYPE) (l : List CK_ATTRIBUTE) :
    lastEntry t l = (entriesOf t l).getLast? := by
  rw [lastEntry, ← List.head?_filter, List.filter_reverse, List.head?_reverse, entriesOf]

lemma any_eq_entriesOf (t : CK_ATTRIBUTE_TYPE) (l : List CK_ATTRIBUTE) :
    (l.any fun e => e.type = t ∧ e.bool ≠ CK_FALSE) =
      (entriesOf t l).any fun e => e.bool ≠ CK_FALSE := by
  rw [entriesOf, List.any_filter]
  congr 1
  funext e
  simp

lemma lastEntry_cons (t : CK_ATTRIBUTE_TYPE) (e : CK_ATTRIBUTE) (l : List CK_ATTRIBUTE) :
    lastEntry t (e :: l) = (lastEntry t l).or (if e.type = t then some e else none) := by
  rw [lastEntry, List.reverse_cons, List.find?_append, lastEntry]
  by_cases h : e.type = t <;> simp [h]

/-- **What a template makes of a flag** is what its last entry says. -/
theorem updateAll_flag (hk : (k, p) ∈ kinds) (ht : t ∈ settable)
    (h : p.updateAll token isPrivate op l m = (CKR_OK, m')) :
    m'.flag t = (lastEntry t l).elim (m.flag t) fun e => some (decide (e.bool ≠ CK_FALSE)) := by
  induction l generalizing m with
  | nil =>
    cases h
    rfl
  | cons e l ih =>
    obtain ⟨a, m₁, ha, hu, hl⟩ := updateAll_ok_cons h
    obtain ⟨hmem, hat⟩ := attributeOf_some ha
    have hw := update_watched hk hmem token isPrivate e op m
    rw [hu, hat] at hw
    rw [ih hl, lastEntry_cons]
    cases hlast : lastEntry t l with
    | some e' => rfl
    | none =>
      rw [Option.none_or, Option.elim_none]
      by_cases het : e.type = t
      · rw [if_pos het, Option.elim_some, ← het]
        exact hw.flag_self rfl (het ▸ ht)
      · rw [if_neg het, Option.elim_none]
        refine flag_congr (hw.get_of_ne (Ne.symm het) (settable_watched t ht) ?_ ?_) <;>
          rintro rfl <;> exact absurd ht (by decide)

/-- What a template makes of `CKA_NEVER_EXTRACTABLE`: false, if it ever makes the key extractable. -/
theorem updateAll_never (hk : (k, p) ∈ kinds)
    (h : p.updateAll token isPrivate op l m = (CKR_OK, m')) :
    m'.flag CKA_NEVER_EXTRACTABLE =
      if l.any fun e => e.type = CKA_EXTRACTABLE ∧ e.bool ≠ CK_FALSE then some false
      else m.flag CKA_NEVER_EXTRACTABLE := by
  induction l generalizing m with
  | nil =>
    cases h
    rfl
  | cons e l ih =>
    obtain ⟨a, m₁, ha, hu, hl⟩ := updateAll_ok_cons h
    obtain ⟨hmem, hat⟩ := attributeOf_some ha
    have hw := update_watched hk hmem token isPrivate e op m
    rw [hu, hat] at hw
    rw [ih hl, List.any_cons]
    by_cases hlast : (l.any fun e => e.type = CKA_EXTRACTABLE ∧ e.bool ≠ CK_FALSE) = true
    · rw [hlast, if_pos rfl, Bool.or_true, if_pos rfl]
    · rw [Bool.not_eq_true] at hlast
      rw [hlast, if_neg Bool.false_ne_true, Bool.or_false, hw.neverExtractable rfl]
      by_cases hc : e.type = CKA_EXTRACTABLE ∧ e.bool ≠ CK_FALSE
      · rw [if_pos hc, if_pos (decide_eq_true hc)]
      · rw [if_neg hc, if_neg (by simpa using hc)]

/-- The attributes that are told by the library alone are in no template that is accepted. -/
theorem updateAll_readOnly (hk : (k, p) ∈ kinds)
    (h : p.updateAll token isPrivate op l m = (CKR_OK, m')) (he : e ∈ l) :
    e.type ∉ [CKA_LOCAL, CKA_KEY_GEN_MECHANISM, CKA_ALWAYS_SENSITIVE, CKA_NEVER_EXTRACTABLE] := by
  intro ht
  obtain ⟨a, m₁, m₂, ha, hu⟩ := updateAll_mem h he
  obtain ⟨hmem, hat⟩ := attributeOf_some ha
  have hrule := readOnly_table _ hk a hmem (hat ▸ ht)
  rcases update_cases a token isPrivate e op m₁ with ⟨rv, hrv, hr⟩ | ⟨-, hr⟩
  · rw [hu] at hr
    cases hr
    exact hrv rfl
  · rw [hu, P11Attribute.applyUpdateAttr, hrule] at hr
    cases hr

end template

end SoftHSM
