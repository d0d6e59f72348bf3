import SoftHSM.Library.WrapTemplates

/-!
The template of an unwrapping key against the template of the caller. What is compared is the
template that the call has put together, with the class, the type and the place of the key as it
has understood them; where a value has no bytes, none are expected.
-/

set_option linter.unusedSectionVars false

namespace SoftHSM.Create

open CK_RV Search P11Object File

/-! ### What the caller names -/

/-- The attributes that the call sees to itself. -/
def fixedTypes : List CK_ATTRIBUTE_TYPE := [CKA_CLASS, CKA_TOKEN, CKA_PRIVATE, CKA_KEY_TYPE]

/-- The value of an entry, unless it is a null pointer with a length. -/
def given (e : CK_ATTRIBUTE) : Option ByteString :=
  if e.bytes.length = e.ulValueLen then some e.bytes else none

/-- The template in an entry. -/
def givenMap (arrayAt : ByteString → List CK_ATTRIBUTE) (e : CK_ATTRIBUTE) : Option AttributeMap :=
  (given e).bind fun b =>
    if b.length % sizeof_CK_ATTRIBUTE = 0 then
      templateMap ((arrayAt b).take (b.length / sizeof_CK_ATTRIBUTE)) []
    else none

/-- **What the claim of a template is**: the caller names the attribute once, with an equal value. -/
def Names (arrayAt : ByteString → List CK_ATTRIBUTE) (t : List CK_ATTRIBUTE)
    (entry : CK_ATTRIBUTE_TYPE × OSAttribute) : Prop :=
  ∃ e, t.filter (·.type = entry.1) = [e] ∧
    ((∃ b v, peekValue entry.2 = some b ∧ given e = some v ∧ SameBytes entry.1 b v) ∨
      ∃ map map', entry.2 = .attributeMap map ∧ givenMap arrayAt e = some map' ∧
        SameMaps map map')

/-- What the check asks for. -/
def Matches (attribs : List CK_ATTRIBUTE) (entry : CK_ATTRIBUTE_TYPE × OSAttribute) : Prop :=
  ∃ e, attribs.filter (·.type = entry.1) = [e] ∧ given e = some ((peekValue entry.2).getD [])

lemma given_eq_some {e : CK_ATTRIBUTE} {b : ByteString} :
    given e = some b ↔ e.ulValueLen = b.length ∧ e.bytes = b := by
  unfold given
  split
  · rename_i h
    rw [Option.some.injEq]
    exact ⟨fun he => ⟨by rw [← h, he], he⟩, fun he => he.2⟩
  · rename_i h
    refine iff_of_false (fun he => by cases he) ?_
    rintro ⟨hlen, rfl⟩
    exact h hlen.symm

lemma obeysUnwrapTemplate_iff {attribs : List CK_ATTRIBUTE} {unwrapKey : AttributeMap} :
    obeysUnwrapTemplate attribs unwrapKey = true ↔
      ∀ entry ∈ templateOf CKA_UNWRAP_TEMPLATE unwrapKey, Matches attribs entry := by
  unfold obeysUnwrapTemplate
  split
  · rename_i map hget
    rw [templateOf_map hget]
    simp only [List.all_eq_true]
    refine forall₂_congr fun entry _ => ?_
    rcases hl : attribs.filter (·.type = entry.1) with _ | ⟨e, _ | ⟨e', l⟩⟩
    · simp [Matches, hl]
    · simp [Matches, hl, given_eq_some]
    · simp [Matches, hl]
  · rename_i hother
    rw [templateOf_other hother]
    simp

section entries

variable {objClass : UInt64} {keyType : CK_KEY_TYPE} {isOnToken isPrivate : UInt8}
  {t attribs : List CK_ATTRIBUTE} {type : CK_ATTRIBUTE_TYPE}

/-- An attribute that the call sees to comes once, whatever the caller says. -/
lemma filter_fixed
    (h : addTemplate (keyAttribs objClass keyType isOnToken isPrivate) [] t = .ok attribs)
    (hfixed : type ∈ fixedTypes) : ∃ e, e.bytes ≠ [] ∧
      (keyAttribs objClass keyType isOnToken isPrivate).filter (·.type = type) = [e] ∧
      attribs.filter (·.type = type) = [e] := by
  unfold addTemplate at h
  split at h
  · cases h
  cases h
  have hnone : (t.filter fun e => e.type ∉ [CKA_CLASS, CKA_TOKEN, CKA_PRIVATE, CKA_KEY_TYPE] ++
      []).filter (·.type = type) = [] := by
    rw [List.filter_filter, List.filter_eq_nil_iff]
    intro e _ he
    simp only [Bool.and_eq_true, decide_eq_true_eq] at he
    rw [he.1] at he
    exact he.2 (by simpa [fixedTypes] using hfixed)
  rw [List.filter_append, hnone, List.append_nil]
  simp only [fixedTypes, List.mem_cons, List.not_mem_nil, or_false] at hfixed
  have hne : ∀ (type : CK_ATTRIBUTE_TYPE) (v : UInt64),
      CK_ATTRIBUTE.bytes ⟨type, some (ulongBytes v), 0⟩ ≠ [] := by
    intro type v hv
    have hlen := length_ulongBytes v
    rw [show ulongBytes v = [] from hv] at hlen
    cases hlen
  rcases hfixed with rfl | rfl | rfl | rfl
  · exact ⟨⟨CKA_CLASS, some (ulongBytes objClass), 0⟩, hne _ _, by simp +decide [keyAttribs]⟩
  · exact ⟨⟨CKA_TOKEN, some [isOnToken], 0⟩, List.cons_ne_nil _ _, by simp +decide [keyAttribs]⟩
  · exact ⟨⟨CKA_PRIVATE, some [isPrivate], 0⟩, List.cons_ne_nil _ _, by simp +decide [keyAttribs]⟩
  · exact ⟨⟨CKA_KEY_TYPE, some (ulongBytes keyType), 0⟩, hne _ _, by simp +decide [keyAttribs]⟩

lemma filter_keyAttribs (hother : type ∉ fixedTypes) :
    (keyAttribs objClass keyType isOnToken isPrivate).filter (·.type = type) = [] := by
  rw [List.filter_eq_nil_iff]
  intro e he
  rw [decide_eq_true_eq]
  rintro rfl
  refine hother ?_
  simp only [keyAttribs, List.mem_cons, List.not_mem_nil, or_false] at he
  rcases he with rfl | rfl | rfl | rfl <;> simp [fixedTypes]

/-- Every other attribute is as the caller has it. -/
lemma filter_other
    (h : addTemplate (keyAttribs objClass keyType isOnToken isPrivate) [] t = .ok attribs)
    (hother : type ∉ fixedTypes) :
    attribs.filter (·.type = type) = t.filter (·.type = type) := by
  unfold addTemplate at h
  split at h
  · cases h
  cases h
  rw [List.filter_append, filter_keyAttribs hother, List.nil_append, List.filter_filter]
  refine List.filter_congr fun e _ => ?_
  by_cases he : e.type = type
  · subst he
    simpa [fixedTypes] using hother
  · simp [he]

/-- The check lets an attribute through that the caller does not name: the call sees to it, and what
the call makes of the template has the value; or the template has a template, and the caller's
value is empty. -/
inductive Presumed (fixed t : List CK_ATTRIBUTE) : CK_ATTRIBUTE_TYPE × OSAttribute → Prop
  | unnamed {type : CK_ATTRIBUTE_TYPE} {attr : OSAttribute} {b : ByteString} {e : CK_ATTRIBUTE}
      (hfixed : fixed.filter (·.type = type) = [e]) (hvalue : given e = some b)
      (hpeek : peekValue attr = some b)
      (hnot : ∀ e', t.filter (·.type = type) = [e'] → given e' ≠ some b) : Presumed fixed t (type, attr)
  | empty {type : CK_ATTRIBUTE_TYPE} {map : AttributeMap} {e : CK_ATTRIBUTE}
      (hother : type ∉ fixedTypes) (hname : t.filter (·.type = type) = [e])
      (hvalue : given e = some []) (hne : map ≠ []) : Presumed fixed t (type, .attributeMap map)

/-- The check refuses an attribute that the caller names: the call sees to it and makes something
else of the template, mechanisms are in another order, or it is a template. -/
inductive Misread (arrayAt : ByteString → List CK_ATTRIBUTE) (fixed t : List CK_ATTRIBUTE) :
    CK_ATTRIBUTE_TYPE × OSAttribute → Prop
  | overridden {type : CK_ATTRIBUTE_TYPE} {attr : OSAttribute} {b : ByteString}
      {e e' : CK_ATTRIBUTE} (hfixed : fixed.filter (·.type = type) = [e])
      (hname : t.filter (·.type = type) = [e']) (hvalue : given e' = some b)
      (hpeek : peekValue attr = some b) (hne : given e ≠ some b) : Misread arrayAt fixed t (type, attr)
  | unordered {attr : OSAttribute} {b v : ByteString} {e : CK_ATTRIBUTE}
      (hname : t.filter (·.type = CKA_ALLOWED_MECHANISMS) = [e]) (hvalue : given e = some v)
      (hpeek : peekValue attr = some b) (hb : isMechanisms b) (hv : isMechanisms v)
      (hsame : mechanismsAt b = mechanismsAt v) (hne : b ≠ v) :
      Misread arrayAt fixed t (CKA_ALLOWED_MECHANISMS, attr)
  | template {type : CK_ATTRIBUTE_TYPE} {map map' : AttributeMap} {e : CK_ATTRIBUTE}
      (hname : t.filter (·.type = type) = [e]) (hmap : givenMap arrayAt e = some map')
      (hsame : SameMaps map map') (hne : type ∈ fixedTypes ∨ given e ≠ some []) :
      Misread arrayAt fixed t (type, .attributeMap map)

variable {arrayAt : ByteString → List CK_ATTRIBUTE} {entry : CK_ATTRIBUTE_TYPE × OSAttribute}

lemma peekValue_none {attr : OSAttribute} (h : peekValue attr = none) :
    ∃ map, attr = .attributeMap map := by
  cases attr <;> first | exact ⟨_, rfl⟩ | cases h

lemma allowed_not_fixed : CKA_ALLOWED_MECHANISMS ∉ fixedTypes := by decide

lemma mem_fixedTypes {e : CK_ATTRIBUTE}
    (h : (keyAttribs objClass keyType isOnToken isPrivate).filter (·.type = type) = [e]) :
    type ∈ fixedTypes := by
  by_contra hother
  rw [filter_keyAttribs hother] at h
  cases h

/-- What the check makes of an attribute that the call sees to. -/
lemma matches_fixed
    (h : addTemplate (keyAttribs objClass keyType isOnToken isPrivate) [] t = .ok attribs)
    {e : CK_ATTRIBUTE}
    (he : (keyAttribs objClass keyType isOnToken isPrivate).filter (·.type = type) = [e])
    {attr : OSAttribute} :
    Matches attribs (type, attr) ↔ ∃ b, peekValue attr = some b ∧ given e = some b := by
  obtain ⟨e', hne, hfixed, hattribs⟩ := filter_fixed h (mem_fixedTypes he)
  obtain rfl : e = e' := List.singleton_inj.1 (he.symm.trans hfixed)
  simp only [Matches, hattribs, List.singleton_inj, exists_eq_left']
  cases hpeek : peekValue attr with
  | none =>
    refine iff_of_false (fun hg => ?_) (by simp)
    exact hne (given_eq_some.1 hg).2
  | some b => simp

/-- What the check makes of any other attribute. -/
lemma matches_other
    (h : addTemplate (keyAttribs objClass keyType isOnToken isPrivate) [] t = .ok attribs)
    (hother : type ∉ fixedTypes) {attr : OSAttribute} :
    Matches attribs (type, attr) ↔
      ∃ e, t.filter (·.type = type) = [e] ∧ given e = some ((peekValue attr).getD []) := by
  rw [Matches, filter_other h hother]

lemma givenMap_empty {e : CK_ATTRIBUTE} (h : given e = some []) :
    givenMap arrayAt e = some [] := by
  rw [givenMap, h, Option.bind_some]
  rfl

/-- **Where the check lets too much through.** -/
theorem presumed_iff (arrayAt : ByteString → List CK_ATTRIBUTE)
    (h : addTemplate (keyAttribs objClass keyType isOnToken isPrivate) [] t = .ok attribs) :
    Presumed (keyAttribs objClass keyType isOnToken isPrivate) t entry ↔
      Matches attribs entry ∧ ¬ Names arrayAt t entry := by
  constructor
  · intro hp
    cases hp with
    | unnamed hfixed hvalue hpeek hnot =>
      refine ⟨(matches_fixed h hfixed).2 ⟨_, hpeek, hvalue⟩, ?_⟩
      rintro ⟨e', hname, ⟨b, v, hb, hv, hsame⟩ | ⟨map, -, hmap, -⟩⟩
      · obtain rfl := Option.some.inj (hpeek.symm.trans hb)
        obtain rfl := hsame.eq fun ht => allowed_not_fixed (ht ▸ mem_fixedTypes hfixed)
        exact hnot e' hname hv
      · exact peekValue_map hpeek map hmap
    | empty hother hname hvalue hne =>
      refine ⟨(matches_other h hother).2 ⟨_, hname, hvalue⟩, ?_⟩
      rintro ⟨e', hname', ⟨b, v, hb, -⟩ | ⟨map, map', hmap, hgiven, hsame⟩⟩
      · cases hb
      · obtain rfl := List.singleton_inj.1 (hname.symm.trans hname')
        obtain rfl := Option.some.inj ((givenMap_empty hvalue).symm.trans hgiven)
        obtain rfl := OSAttribute.attributeMap.inj hmap
        exact hne (List.length_eq_zero_iff.1 hsame.1.symm)
  · obtain ⟨type, attr⟩ := entry
    rintro ⟨hmatch, hnot⟩
    by_cases hfixed : type ∈ fixedTypes
    · obtain ⟨e, -, he, -⟩ := filter_fixed h hfixed
      obtain ⟨b, hpeek, hvalue⟩ := (matches_fixed h he).1 hmatch
      exact .unnamed he hvalue hpeek fun e' hname hv =>
        hnot ⟨e', hname, .inl ⟨b, b, hpeek, hv, .inl rfl⟩⟩
    · obtain ⟨e, hname, hvalue⟩ := (matches_other h hfixed).1 hmatch
      cases hpeek : peekValue attr with
      | some b =>
        rw [hpeek] at hvalue
        exact absurd ⟨e, hname, .inl ⟨b, b, hpeek, hvalue, .inl rfl⟩⟩ hnot
      | none =>
        rw [hpeek] at hvalue
        obtain ⟨map, rfl⟩ := peekValue_none hpeek
        refine .empty hfixed hname hvalue ?_
        rintro rfl
        exact hnot ⟨e, hname, .inr ⟨[], [], rfl, givenMap_empty hvalue, rfl, by simp⟩⟩

/-- **Where the check refuses too much.** -/
theorem misread_iff
    (h : addTemplate (keyAttribs objClass keyType isOnToken isPrivate) [] t = .ok attribs) :
    Misread arrayAt (keyAttribs objClass keyType isOnToken isPrivate) t entry ↔
      Names arrayAt t entry ∧ ¬ Matches attribs entry := by
  constructor
  · intro hm
    cases hm with
    | overridden hfixed hname hvalue hpeek hne =>
      refine ⟨⟨_, hname, .inl ⟨_, _, hpeek, hvalue, .inl rfl⟩⟩, fun hmatch => ?_⟩
      obtain ⟨b, hb, hgiven⟩ := (matches_fixed h hfixed).1 hmatch
      obtain rfl := Option.some.inj (hpeek.symm.trans hb)
      exact hne hgiven
    | unordered hname hvalue hpeek hb hv hsame hne =>
      refine ⟨⟨_, hname, .inl ⟨_, _, hpeek, hvalue, .inr ⟨rfl, hb, hv, hsame⟩⟩⟩, fun hmatch => ?_⟩
      obtain ⟨e, hname', hgiven⟩ := (matches_other h allowed_not_fixed).1 hmatch
      obtain rfl := List.singleton_inj.1 (hname.symm.trans hname')
      rw [hvalue, hpeek] at hgiven
      exact hne (Option.some.inj hgiven).symm
    | @template type map map' e hname hmap hsame hne =>
      refine ⟨⟨_, hname, .inr ⟨_, _, rfl, hmap, hsame⟩⟩, fun hmatch => ?_⟩
      by_cases hfixed : type ∈ fixedTypes
      · obtain ⟨e', -, he, -⟩ := filter_fixed h hfixed
        obtain ⟨b, hb, -⟩ := (matches_fixed h he).1 hmatch
        cases hb
      · obtain ⟨e', hname', hgiven⟩ := (matches_other h hfixed).1 hmatch
        obtain rfl := List.singleton_inj.1 (hname.symm.trans hname')
        exact hne.resolve_left hfixed hgiven
  · obtain ⟨type, attr⟩ := entry
    rintro ⟨⟨e, hname, ⟨b, v, hpeek, hvalue, hsame⟩ | ⟨map, map', rfl, hmap, hsame⟩⟩, hnot⟩
    · by_cases hfixed : type ∈ fixedTypes
      · obtain rfl := hsame.eq fun ht => allowed_not_fixed (ht ▸ hfixed)
        obtain ⟨e', -, he, -⟩ := filter_fixed h hfixed
        exact .overridden he hname hvalue hpeek
          fun hgiven => hnot ((matches_fixed h he).2 ⟨b, hpeek, hgiven⟩)
      · have hne : b ≠ v := by
          rintro rfl
          exact hnot ((matches_other h hfixed).2 ⟨e, hname, by rw [hvalue, hpeek]; rfl⟩)
        rcases hsame with rfl | ⟨ht, hb, hv, hsame⟩
        · exact absurd rfl hne
        · obtain rfl : type = CKA_ALLOWED_MECHANISMS := ht
          exact .unordered hname hvalue hpeek hb hv hsame hne
    · refine .template hname hmap hsame (or_iff_not_imp_left.2 fun hfixed hgiven => ?_)
      exact hnot ((matches_other h hfixed).2 ⟨e, hname, hgiven⟩)

/-- **When the check means equality**: exactly if some attribute of the template is neither named nor
in what is compared, or the check is wrong about no attribute, or there is one that it should
refuse and one that it should let through. -/
theorem obeysUnwrapTemplate_exact_iff {t : List CK_ATTRIBUTE} {info : ObjectInformation}
    (h : addTemplate (keyAttribs info.objClass info.keyType info.isOnToken info.isPrivate) [] t =
      .ok attribs) (arrayAt : ByteString → List CK_ATTRIBUTE) (unwrapKey : AttributeMap) :
    (obeysUnwrapTemplate attribs unwrapKey = true ↔
        ∀ entry ∈ templateOf CKA_UNWRAP_TEMPLATE unwrapKey, Names arrayAt t entry) ↔
      Exact (templateOf CKA_UNWRAP_TEMPLATE unwrapKey)
        (Presumed (keyAttribs info.objClass info.keyType info.isOnToken info.isPrivate) t)
        (Misread arrayAt (keyAttribs info.objClass info.keyType info.isOnToken info.isPrivate) t)
        fun entry => ¬ Matches attribs entry ∧ ¬ Names arrayAt t entry := by
  simp only [obeysUnwrapTemplate_iff, forall_iff_forall, Exact, presumed_iff arrayAt h, misread_iff h]

end entries

end SoftHSM.Create
