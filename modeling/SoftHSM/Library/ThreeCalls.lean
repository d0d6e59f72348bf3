import SoftHSM.Library.Retrieval

/-!
Reading the values of an object in three calls: for the sizes, for the values and the sizes of what
is inside the templates, and for the values inside the templates.

The second call reports no sizes for a template that holds a set of mechanisms.
-/

namespace SoftHSM.Retrieval

open CK_RV P11Object Create Search

/-! ### The three calls -/

variable (p : P11Object) (decrypt : ByteString → Option ByteString) (m : AttributeMap)

/-- The bytes of a value inside a template. -/
def nestedBytes : OSAttribute → Option ByteString
  | .mechanismTypeSet value => some ((File.mechanismTypes value).flatMap ulongBytes)
  | attr => simpleValue attr

/-- A value as a caller is to get it: its bytes, or the types and the bytes of a template. -/
def exactValue (isPrivate : Bool) (a : P11Attribute) : OSAttribute → Option Retrieved
  | .attributeMap map => some ⟨CKR_OK, map.length * sizeof_CK_ATTRIBUTE,
      .array (map.map fun x => ⟨x.1, true, ((nestedBytes x.2).getD []).length, nestedBytes x.2⟩)⟩
  | attr => (shownBytes decrypt isPrivate a attr).map fun v => ⟨CKR_OK, v.length, .bytes v⟩

def exactAnswer (r : Request) : Option Retrieved := do
  let a ← p.attributeOf r.type
  let attr ← OrderedMap.get a.type m
  exactValue decrypt (isPrivate m) a attr

/-- An entry again, with a buffer of the size that was reported. -/
def withBuffer (r : Request) (x : Retrieved) : Request :=
  ⟨r.type, true, x.ulValueLen,
    List.replicate (x.ulValueLen / sizeof_CK_ATTRIBUTE) ⟨0, false, 0, none⟩⟩

/-- And once more, with a buffer for each element of a template. -/
def withBuffers (r : Request) (x : Retrieved) : Request :=
  match x.written with
  | .array elements => ⟨r.type, true, x.ulValueLen,
      elements.map fun e => ⟨e.type, true, e.ulValueLen, none⟩⟩
  | _ => ⟨r.type, true, x.ulValueLen, r.array⟩

/-- The second template: buffers of the sizes that the first call reports. -/
def secondTemplate (pTemplate : List Request) : List Request :=
  pTemplate.zipWith withBuffer (p.loadTemplate decrypt pTemplate m).2

/-- The third template: also buffers for the elements that the second call reports. -/
def thirdTemplate (pTemplate : List Request) : List Request :=
  (secondTemplate p decrypt m pTemplate).zipWith withBuffers
    (p.loadTemplate decrypt (secondTemplate p decrypt m pTemplate) m).2

/-- All three calls succeed; what is no template is there after the second, and everything after
the third. -/
structure Recovered (pTemplate : List Request) : Prop where
  sizes : (p.loadTemplate decrypt pTemplate m).1 = CKR_OK
  values : (p.loadTemplate decrypt (secondTemplate p decrypt m pTemplate) m).1 = CKR_OK
  simple : ∀ x ∈ (p.loadTemplate decrypt (secondTemplate p decrypt m pTemplate) m).2.zip pTemplate,
    (∀ elements, x.1.written ≠ .array elements) → exactAnswer p decrypt m x.2 = some x.1
  nested : (p.loadTemplate decrypt (thirdTemplate p decrypt m pTemplate) m).1 = CKR_OK
  exact : (p.loadTemplate decrypt (thirdTemplate p decrypt m pTemplate) m).2.map some =
    pTemplate.map (exactAnswer p decrypt m)

/-- The value of an attribute may be shown, and can be read. -/
def Revealed (r : Request) : Prop :=
  (∃ a, p.attributeOf r.type = some a ∧ a.hidden m = false) ∧ ¬ Unreadable p decrypt m r

/-- Where a template is asked for, it holds Booleans, numbers and byte strings only. -/
def AsksSimple (r : Request) : Prop :=
  ∀ a map, p.attributeOf r.type = some a → OrderedMap.get a.type m = some (.attributeMap map) →
    ∀ x ∈ map, (simpleValue x.2).isSome = true

/-! ### Sizes, then values -/

section protocol

variable {p : P11Object} {decrypt : ByteString → Option ByteString} {m : AttributeMap} {c : UInt64}
  {a : P11Attribute} {attr : OSAttribute} {map : AttributeMap} {r : Request}

lemma exactValue_of_bytes (hm : ∀ map, attr ≠ .attributeMap map) (isPrivate : Bool) :
    exactValue decrypt isPrivate a attr =
      (shownBytes decrypt isPrivate a attr).map fun v => ⟨CKR_OK, v.length, .bytes v⟩ := by
  cases attr <;> first | rfl | exact absurd rfl (hm _)

lemma nestedBytes_of_simple (h : (simpleValue attr).isSome = true) :
    nestedBytes attr = simpleValue attr := by
  cases attr <;> first | rfl | cases h

/-- The types and the sizes of a template of simple values. -/
lemma mapSizes_simple (h : ∀ x ∈ map, (simpleValue x.2).isSome = true) (e : Element) :
    mapSizes (List.replicate map.length e) map =
      (CKR_OK, map.map fun x =>
        { e with type := x.1, ulValueLen := ((nestedBytes x.2).getD []).length }) := by
  induction map with
  | nil => rfl
  | cons x map ih =>
    obtain ⟨hx, hmap⟩ := List.forall_mem_cons.1 h
    obtain ⟨v, hv⟩ := Option.isSome_iff_exists.1 hx
    rw [List.length_cons, List.replicate_succ, mapSizes, hv]
    dsimp only
    rw [ih hmap, List.map_cons, nestedBytes_of_simple hx, hv]
    rfl

lemma all_null_replicate (n k : ℕ) (type : CK_ATTRIBUTE_TYPE) :
    (((List.replicate n (⟨type, false, 0, none⟩ : Element)).take k).all fun e => !e.hasBuffer) =
      true := by
  rw [List.all_eq_true]
  intro e he
  rw [List.eq_of_mem_replicate (List.mem_of_mem_take he)]
  rfl

/-- **The second call** for a template of simple values. -/
lemma retrieveAttributeMap_sizes (h : ∀ x ∈ map, (simpleValue x.2).isSome = true) :
    retrieveAttributeMap (List.replicate map.length ⟨0, false, 0, none⟩) map =
      (CKR_OK, map.map fun x => ⟨x.1, false, ((nestedBytes x.2).getD []).length, none⟩) := by
  rw [retrieveAttributeMap, if_pos (all_null_replicate ..), mapSizes_simple h]

/-- For another one it fails. -/
lemma retrieveAttributeMap_fails (h : ¬ ∀ x ∈ map, (simpleValue x.2).isSome = true) :
    (retrieveAttributeMap (List.replicate map.length ⟨0, false, 0, none⟩) map).1 ≠ CKR_OK := by
  intro hok
  push Not at h
  obtain ⟨x, hx, hnone⟩ := h
  have hends :
      Ends (retrieveAttributeMap (List.replicate map.length ⟨0, false, 0, none⟩) map).1 := by
    rw [retrieveAttributeMap, if_pos (all_null_replicate ..), ends_mapSizes, List.length_replicate,
      List.take_length]
    exact ⟨x, hx, Option.not_isSome_iff_eq_none.1 hnone⟩
  exact hends (.inl hok)

/-- **The third call** for a template of simple values. -/
lemma retrieveAttributeMap_values (hs : OrderedMap.Sorted map)
    (h : ∀ x ∈ map, (simpleValue x.2).isSome = true) :
    retrieveAttributeMap
        (map.map fun x => ⟨x.1, true, ((nestedBytes x.2).getD []).length, none⟩) map =
      (CKR_OK, map.map fun x =>
        ⟨x.1, true, ((nestedBytes x.2).getD []).length, nestedBytes x.2⟩) := by
  have hread := (@retrieveAttributeMap_iff map (map.map fun x => (x.1, (nestedBytes x.2).getD []))
      (by rw [List.length_map])).2 ?_
  · rw [List.map_map, List.map_map] at hread
    refine hread.trans (Prod.ext rfl (List.map_congr_left fun x hx => ?_))
    obtain ⟨v, hv⟩ := Option.isSome_iff_exists.1 (h x hx)
    simp [nestedBytes_of_simple (h x hx), hv]
  · rintro _ hmem
    obtain ⟨x, hx, rfl⟩ := List.mem_map.1 hmem
    obtain ⟨v, hv⟩ := Option.isSome_iff_exists.1 (h x hx)
    rw [simpleAt, OrderedMap.get_of_mem hs hx, Option.bind_some, nestedBytes_of_simple (h x hx), hv]
    rfl

section entry

variable (ha : p.attributeOf r.type = some a) (hh : a.hidden m = false)

include ha hh

lemma alone_bytes (hget : OrderedMap.get a.type m = some attr) (hk : SameKind attr a.default)
    (hf : sizeFits a = true) (hm : ∀ map, attr ≠ .attributeMap map) {v : ByteString}
    (hv : shownBytes decrypt (isPrivate m) a attr = some v) (n : ℕ) (array : List Element) :
    alone p decrypt m ⟨r.type, false, n, array⟩ = ⟨CKR_OK, v.length, .nothing⟩ ∧
      alone p decrypt m ⟨r.type, true, v.length, array⟩ = ⟨CKR_OK, v.length, .bytes v⟩ := by
  obtain ⟨hsize, hcopy⟩ := size_and_copy hk hf hm (isPrivate m) array
  have hhid : ¬ a.hidden m = true := by rw [hh]; exact Bool.false_ne_true
  rw [hv] at hsize hcopy
  rw [alone_of_some (r := ⟨r.type, false, n, array⟩) ha,
    alone_of_some (r := ⟨r.type, true, v.length, array⟩) ha]
  rw [P11Attribute.retrieve, if_neg hhid, hget, P11Attribute.retrieve, if_neg hhid, hget]
  dsimp only
  rw [hsize, Option.map_some]
  dsimp only
  rw [if_pos le_rfl, hcopy]
  exact ⟨rfl, rfl⟩

lemma alone_map (hget : OrderedMap.get a.type m = some (.attributeMap map))
    (hk : SameKind (.attributeMap map) a.default) (hf : sizeFits a = true) (n : ℕ)
    (array : List Element) :
    alone p decrypt m ⟨r.type, false, n, array⟩ =
        ⟨CKR_OK, map.length * sizeof_CK_ATTRIBUTE, .nothing⟩ ∧
      alone p decrypt m ⟨r.type, true, map.length * sizeof_CK_ATTRIBUTE, array⟩ =
        ⟨(retrieveAttributeMap array map).1, map.length * sizeof_CK_ATTRIBUTE,
          .array (retrieveAttributeMap array map).2⟩ := by
  have hsize : a.attrSize decrypt (isPrivate m) (.attributeMap map) =
      some (map.length * sizeof_CK_ATTRIBUTE) := by
    rw [P11Attribute.attrSize, size_eq_none hk hf (fun b h => by cases h) fun v h => by cases h]
  have hhid : ¬ a.hidden m = true := by rw [hh]; exact Bool.false_ne_true
  rw [alone_of_some (r := ⟨r.type, false, n, array⟩) ha,
    alone_of_some (r := ⟨r.type, true, map.length * sizeof_CK_ATTRIBUTE, array⟩) ha]
  rw [P11Attribute.retrieve, if_neg hhid, hget, P11Attribute.retrieve, if_neg hhid, hget]
  dsimp only
  rw [hsize]
  dsimp only
  rw [if_pos le_rfl]
  exact ⟨rfl, rfl⟩

end entry

/-- The second request of an entry, and the third. -/
def second (p : P11Object) (decrypt : ByteString → Option ByteString) (m : AttributeMap)
    (r : Request) : Request :=
  withBuffer r (alone p decrypt m r)

def third (p : P11Object) (decrypt : ByteString → Option ByteString) (m : AttributeMap)
    (r : Request) : Request :=
  withBuffers (second p decrypt m r) (alone p decrypt m (second p decrypt m r))

/-- **One entry in three calls**: only the second can fail, and after it the values are there. -/
lemma entry_in_three (hp : (c, p) ∈ kinds)
    (hall : ∀ a ∈ p.attributes, ∃ attr, OrderedMap.get a.type m = some attr ∧
      SameKind attr a.default)
    (hs : ∀ type map, OrderedMap.get type m = some (.attributeMap map) → OrderedMap.Sorted map)
    (hnull : r.hasBuffer = false) (hrev : Revealed p decrypt m r) :
    (alone p decrypt m r).rv = CKR_OK ∧
    ((alone p decrypt m (second p decrypt m r)).rv = CKR_OK ↔ AsksSimple p m r) ∧
    (AsksSimple p m r →
      ((∀ elements, (alone p decrypt m (second p decrypt m r)).written ≠ .array elements) →
        exactAnswer p decrypt m r = some (alone p decrypt m (second p decrypt m r))) ∧
      (alone p decrypt m (third p decrypt m r)).rv = CKR_OK ∧
      exactAnswer p decrypt m r = some (alone p decrypt m (third p decrypt m r))) := by
  obtain ⟨type, _, n, array⟩ := r
  cases hnull
  obtain ⟨⟨a, ha, hh⟩, hread⟩ := hrev
  obtain ⟨hmem, -⟩ := attributeOf_some ha
  obtain ⟨attr, hget, hk⟩ := hall a hmem
  have hf := sizeFits_table _ hp a hmem
  by_cases hm : ∃ map, attr = .attributeMap map
  · obtain ⟨map, rfl⟩ := hm
    have hroom : map.length * sizeof_CK_ATTRIBUTE / sizeof_CK_ATTRIBUTE = map.length :=
      Nat.mul_div_cancel _ (by decide)
    have hfirst := (@alone_map _ decrypt _ _ _ _ ha hh hget hk hf n array).1
    have hsecond : second p decrypt m ⟨type, false, n, array⟩ =
        ⟨type, true, map.length * sizeof_CK_ATTRIBUTE,
          List.replicate map.length ⟨0, false, 0, none⟩⟩ := by
      rw [second, hfirst, withBuffer, hroom]
    have hanswer := (@alone_map _ decrypt _ _ _ _ ha hh hget hk hf 0
        (List.replicate map.length ⟨0, false, 0, none⟩)).2
    have hasks : AsksSimple p m ⟨type, false, n, array⟩ ↔
        ∀ x ∈ map, (simpleValue x.2).isSome = true := by
      constructor
      · exact fun h => h a map ha hget
      · intro h a' map' ha' hget'
        rw [ha] at ha'
        cases ha'
        rw [hget] at hget'
        cases hget'
        exact h
    rw [hasks]
    refine ⟨by rw [hfirst], ⟨fun hok => ?_, fun h => ?_⟩, fun h => ?_⟩
    · rw [hsecond, hanswer] at hok
      exact by_contra fun h => retrieveAttributeMap_fails h hok
    · rw [hsecond, hanswer, retrieveAttributeMap_sizes h]
    · have hthird : third p decrypt m ⟨type, false, n, array⟩ =
          ⟨type, true, map.length * sizeof_CK_ATTRIBUTE,
            map.map fun x => ⟨x.1, true, ((nestedBytes x.2).getD []).length, none⟩⟩ := by
        rw [third, hsecond, hanswer, retrieveAttributeMap_sizes h, withBuffers]
        dsimp only
        rw [List.map_map]
        rfl
      have hlast := (@alone_map _ decrypt _ _ _ _ ha hh hget hk hf 0
          (map.map fun x => ⟨x.1, true, ((nestedBytes x.2).getD []).length, none⟩)).2
      rw [retrieveAttributeMap_values (hs _ _ hget) h] at hlast
      rw [hthird, hlast]
      refine ⟨fun hno => ?_, rfl, ?_⟩
      · rw [hsecond, hanswer] at hno
        exact absurd rfl (hno _)
      · rw [exactAnswer, ha]
        simp only [Option.bind_eq_bind, Option.bind_some, hget]
        rfl
  · have hm : ∀ map, attr ≠ .attributeMap map := fun map h => hm ⟨map, h⟩
    cases hv : shownBytes decrypt (isPrivate m) a attr with
    | none =>
      obtain ⟨stored, rfl, hplain⟩ := plain_of_shownBytes hm hv
      exact absurd ⟨a, stored, ha, hh, hget, hplain⟩ hread
    | some v =>
      have hboth := alone_bytes ha hh hget hk hf hm hv n
      have hfirst := (hboth array).1
      have hsecond : second p decrypt m ⟨type, false, n, array⟩ = ⟨type, true, v.length,
          List.replicate (v.length / sizeof_CK_ATTRIBUTE) ⟨0, false, 0, none⟩⟩ := by
        rw [second, hfirst, withBuffer]
      have hanswer := (hboth
        (List.replicate (v.length / sizeof_CK_ATTRIBUTE) ⟨0, false, 0, none⟩)).2
      have hthird : third p decrypt m ⟨type, false, n, array⟩ =
          second p decrypt m ⟨type, false, n, array⟩ := by
        rw [third, hsecond, hanswer, withBuffers]
      have hexact : exactAnswer p decrypt m ⟨type, false, n, array⟩ =
          some ⟨CKR_OK, v.length, .bytes v⟩ := by
        rw [exactAnswer, ha]
        simp only [Option.bind_eq_bind, Option.bind_some, hget]
        rw [exactValue_of_bytes hm, hv]
        rfl
      have hasks : AsksSimple p m ⟨type, false, n, array⟩ := by
        intro a' map' ha' hget'
        rw [ha] at ha'
        cases ha'
        rw [hget] at hget'
        exact absurd (Option.some.inj hget') (hm map')
      rw [hthird, hsecond, hanswer, hexact]
      exact ⟨by rw [hfirst], iff_of_true rfl hasks, fun _ => ⟨fun _ => rfl, rfl, rfl⟩⟩

/-- **Three calls** give every value exactly if the templates that are asked for hold simple values
only. -/
theorem recovered_iff (hp : (c, p) ∈ kinds)
    (hall : ∀ a ∈ p.attributes, ∃ attr, OrderedMap.get a.type m = some attr ∧
      SameKind attr a.default)
    (hs : ∀ type map, OrderedMap.get type m = some (.attributeMap map) → OrderedMap.Sorted map)
    {T : List Request} (hT : ∀ r ∈ T, r.hasBuffer = false ∧ Revealed p decrypt m r) :
    Recovered p decrypt m T ↔ ∀ r ∈ T, AsksSimple p m r := by
  have hone : ∀ r ∈ T, _ := fun r hr => entry_in_three hp hall hs (hT r hr).1 (hT r hr).2
  have hfirst : ∀ r ∈ T, (alone p decrypt m r).rv = CKR_OK := fun r hr => (hone r hr).1
  have hsecond : secondTemplate p decrypt m T = T.map (second p decrypt m) := by
    rw [secondTemplate, loadTemplate_of_ok hfirst, List.zipWith_map_right, List.zipWith_self]
    rfl
  constructor
  · intro h r hr
    have hvalues := h.values
    rw [hsecond, loadTemplate_ok_iff] at hvalues
    exact (hone r hr).2.1.1 (hvalues _ (List.mem_map_of_mem hr))
  · intro h
    have hvalues : ∀ r' ∈ T.map (second p decrypt m), (alone p decrypt m r').rv = CKR_OK := by
      intro r' hr'
      obtain ⟨r, hr, rfl⟩ := List.mem_map.1 hr'
      exact (hone r hr).2.1.2 (h r hr)
    have hthird : thirdTemplate p decrypt m T = T.map (third p decrypt m) := by
      rw [thirdTemplate, hsecond, loadTemplate_of_ok hvalues, List.zipWith_map_right,
        List.zipWith_self, List.map_map]
      rfl
    have hnested : ∀ r' ∈ T.map (third p decrypt m), (alone p decrypt m r').rv = CKR_OK := by
      intro r' hr'
      obtain ⟨r, hr, rfl⟩ := List.mem_map.1 hr'
      exact ((hone r hr).2.2 (h r hr)).2.1
    refine ⟨loadTemplate_ok_iff.2 hfirst, ?_, ?_, ?_, ?_⟩
    · rw [hsecond]
      exact loadTemplate_ok_iff.2 hvalues
    · intro x hx hno
      rw [hsecond, loadTemplate_of_ok hvalues, List.map_map, List.zip_map_left, List.mem_map] at hx
      obtain ⟨⟨r, r'⟩, hpair, rfl⟩ := hx
      obtain ⟨hr, rfl⟩ : r ∈ T ∧ r = r' := by
        rw [List.zip, List.zipWith_self] at hpair
        obtain ⟨r'', hr'', h⟩ := List.mem_map.1 hpair
        cases h
        exact ⟨hr'', rfl⟩
      exact ((hone r hr).2.2 (h r hr)).1 hno
    · rw [hthird]
      exact loadTemplate_ok_iff.2 hnested
    · rw [hthird, loadTemplate_of_ok hnested, List.map_map, List.map_map]
      exact List.map_congr_left fun r hr => ((hone r hr).2.2 (h r hr)).2.2.symm

end protocol

/-! ### `C_GetAttributeValue` -/

/-- **Reading a template.** For an object that lacks nothing, every template is answered entry by
entry, with copies that fit and lengths that are right, exactly if it is regular; and three calls
give all values that may be shown exactly if the templates inside hold simple values only. -/
theorem attribute_values_iff {p : P11Object} {m : AttributeMap} (hp : attributeKind m = some p)
    (hall : ∀ a ∈ p.attributes, ∃ attr, OrderedMap.get a.type m = some attr ∧
      SameKind attr a.default)
    (hs : ∀ type map, OrderedMap.get type m = some (.attributeMap map) → OrderedMap.Sorted map)
    (decrypt : ByteString → Option ByteString) :
    (∀ T, Answered p decrypt m T ↔ Regular p decrypt m T) ∧
      ∀ T, (∀ r ∈ T, r.hasBuffer = false ∧ Revealed p decrypt m r) →
        (Recovered p decrypt m T ↔ ∀ r ∈ T, AsksSimple p m r) :=
  ⟨answered_iff (p11ObjectOf_mem hp) hall,
    fun _ hT => recovered_iff (p11ObjectOf_mem hp) hall hs hT⟩

/-- A key with a template of two attributes for the keys that it may wrap. -/
@[irreducible] def wrappingStart : OSObject :=
  ⟨false, [(CKA_CLASS, .unsignedLong CKO_SECRET_KEY), (CKA_TOKEN, .boolean true),
    (CKA_PRIVATE, .boolean false), (CKA_KEY_TYPE, .unsignedLong CKK_GENERIC_SECRET),
    (CKA_WRAP_TEMPLATE, .attributeMap
      [(CKA_KEY_TYPE, .unsignedLong CKK_AES), (CKA_EXTRACTABLE, .boolean true)])],
    true, none, false⟩

@[irreducible] def wrappingKey : AttributeMap :=
  (newP11Object (fun _ => .done) wrappingStart).2.attributes

lemma wrappingStart_kind : attributeKind wrappingStart.attributes =
    some (P11GenericSecretKeyObj CKK_GENERIC_SECRET) := by
  have hclass : wrappingStart.attributes.getUnsignedLongValue CKA_CLASS CKO_VENDOR_DEFINED =
      CKO_SECRET_KEY := by decide +kernel
  have htype : wrappingStart.attributes.getUnsignedLongValue CKA_KEY_TYPE CKK_RSA =
      CKK_GENERIC_SECRET := by decide +kernel
  rw [attributeKind, hclass, htype]
  rfl

lemma complete_wrappingKey : Complete wrappingKey := by
  have hvalid : wrappingStart.valid = true := by decide +kernel
  have hinit : ((P11GenericSecretKeyObj CKK_GENERIC_SECRET).init (fun _ => .done)
      wrappingStart).1 = true := by decide +kernel
  cases hnew : newP11Object (fun _ => .done) wrappingStart with
  | mk x o =>
    have hx : x = .ok (P11GenericSecretKeyObj CKK_GENERIC_SECRET) := by
      unfold newP11Object at hnew
      rw [kindOf_of_valid hvalid, wrappingStart_kind] at hnew
      rcases hr : (P11GenericSecretKeyObj CKK_GENERIC_SECRET).init (fun _ => .done)
        wrappingStart with ⟨ok, o'⟩
      rw [hr] at hinit
      simp only at hinit
      subst hinit
      simp only [hr, Prod.mk.injEq] at hnew
      exact hnew.1.symm
    have hkey : wrappingKey = o.attributes := by
      rw [wrappingKey, hnew]
    subst hx
    rw [hkey]
    refine complete_of_newP11Object hvalid (fun q hq => ?_) hnew
    rw [wrappingStart_kind, Option.some.injEq] at hq
    subst hq
    exact kinded_of_all (by decide +kernel)

lemma wrappingKey_kind :
    attributeKind wrappingKey = some (P11GenericSecretKeyObj CKK_GENERIC_SECRET) := by
  have hclass : wrappingKey.getUnsignedLongValue CKA_CLASS CKO_VENDOR_DEFINED =
      CKO_SECRET_KEY := by decide +kernel
  have htype : wrappingKey.getUnsignedLongValue CKA_KEY_TYPE CKK_RSA =
      CKK_GENERIC_SECRET := by decide +kernel
  rw [attributeKind, hclass, htype]
  rfl

lemma wrappingKey_sorted (type : CK_ATTRIBUTE_TYPE) (map : AttributeMap)
    (h : OrderedMap.get type wrappingKey = some (.attributeMap map)) : OrderedMap.Sorted map := by
  have hsorted : ∀ x ∈ wrappingKey, ∀ map ∈ mapOf x.2, OrderedMap.Sorted map := by
    unfold OrderedMap.Sorted
    decide +kernel
  exact hsorted _ (OrderedMap.mem_of_get h) map rfl

/-- Of this key, all that is not hidden can be read. -/
lemma wrappingKey_revealed {p : P11Object} {r : Request}
    (h : ((p.attributeOf r.type).any fun a => !a.hidden wrappingKey) = true) :
    Revealed p some wrappingKey r := by
  constructor
  · cases ha : p.attributeOf r.type with
    | none =>
      rw [ha] at h
      cases h
    | some a =>
      rw [ha] at h
      exact ⟨a, rfl, by simpa using h⟩
  · rintro ⟨a, stored, -, -, -, hplain⟩
    rw [P11Attribute.plain, P11Attribute.readStored] at hplain
    split_ifs at hplain

lemma wrappingKey_simple (p : P11Object) (r : Request) : AsksSimple p wrappingKey r := by
  intro a map _ hget
  have hsimple : ∀ x ∈ wrappingKey, ∀ map ∈ mapOf x.2, ∀ y ∈ map,
      (simpleValue y.2).isSome = true := by decide +kernel
  exact hsimple _ (OrderedMap.mem_of_get hget) map rfl

/-- The template of the key comes back in three calls, as does its type. -/
theorem attribute_values_of_wrapping_key :
    Recovered (P11GenericSecretKeyObj CKK_GENERIC_SECRET) some wrappingKey
      [⟨CKA_WRAP_TEMPLATE, false, 0, []⟩, ⟨CKA_KEY_TYPE, false, 0, []⟩] := by
  obtain ⟨q, hq, hall⟩ := complete_wrappingKey
  obtain rfl := Option.some.inj (hq.symm.trans wrappingKey_kind)
  refine ((attribute_values_iff wrappingKey_kind hall wrappingKey_sorted some).2 _ ?_).2
    fun r _ => wrappingKey_simple _ r
  intro r hr
  rcases List.mem_cons.1 hr with rfl | hr
  · exact ⟨rfl, wrappingKey_revealed (by decide +kernel)⟩
  · obtain rfl := List.mem_singleton.1 hr
    exact ⟨rfl, wrappingKey_revealed (by decide +kernel)⟩

/-- With a buffer for the second element only, the value of the first goes to a null pointer. -/
theorem null_element_is_written :
    ¬ Answered (P11GenericSecretKeyObj CKK_GENERIC_SECRET) some wrappingKey
      [⟨CKA_WRAP_TEMPLATE, true, 48,
        [⟨CKA_KEY_TYPE, false, 8, none⟩, ⟨CKA_EXTRACTABLE, true, 1, none⟩]⟩] := by
  intro h
  have hcopies := h.copies
  revert hcopies
  decide +kernel

end SoftHSM.Retrieval
