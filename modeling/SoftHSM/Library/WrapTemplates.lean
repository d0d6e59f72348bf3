import SoftHSM.Library.KeyUse
import SoftHSM.Library.SearchAgrees

/-!
The template of a wrapping key against what `C_GetAttributeValue` says of the key that is wrapped.
The check of the template compares bytes as they are stored: for a private key these are sealed,
a set of mechanisms has one order, and a template inside a template has none.
-/

set_option linter.unusedSectionVars false

namespace SoftHSM.Create

open CK_RV Search P11Object File

/-! ### Two tests on a list -/

/-- Two tests that every element has to pass come to the same exactly if some element passes
neither, if no element passes only one of them, or if there is an element for each of the two. -/
lemma forall_iff_forall {α : Type*} {p q : α → Prop} {l : List α} :
    ((∀ x ∈ l, p x) ↔ ∀ x ∈ l, q x) ↔
      (∃ x ∈ l, ¬ p x ∧ ¬ q x) ∨ (∀ x ∈ l, ¬ (p x ∧ ¬ q x) ∧ ¬ (q x ∧ ¬ p x)) ∨
        (∃ x ∈ l, p x ∧ ¬ q x) ∧ ∃ x ∈ l, q x ∧ ¬ p x := by
  constructor
  · intro h
    by_cases hp : ∀ x ∈ l, p x
    · have hq := h.1 hp
      exact .inr (.inl fun x hx => ⟨fun hn => hn.2 (hq x hx), fun hn => hn.2 (hp x hx)⟩)
    · have hq : ¬ ∀ x ∈ l, q x := fun hq => hp (h.2 hq)
      push Not at hp hq
      obtain ⟨x, hx, hpx⟩ := hp
      obtain ⟨y, hy, hqy⟩ := hq
      by_cases hqx : q x
      · by_cases hpy : p y
        · exact .inr (.inr ⟨⟨y, hy, hpy, hqy⟩, x, hx, hqx, hpx⟩)
        · exact .inl ⟨y, hy, hpy, hqy⟩
      · exact .inl ⟨x, hx, hpx, hqx⟩
  · rintro (⟨x, hx, hp, hq⟩ | hall | ⟨⟨x, hx, -, hq⟩, y, hy, -, hp⟩)
    · exact iff_of_false (fun h => hp (h x hx)) fun h => hq (h x hx)
    · refine forall₂_congr fun x hx => ⟨fun hp => ?_, fun hq => ?_⟩
      · exact by_contra fun hq => (hall x hx).1 ⟨hp, hq⟩
      · exact by_contra fun hp => (hall x hx).2 ⟨hq, hp⟩
    · exact iff_of_false (fun h => hp (h y hy)) fun h => hq (h x hx)

/-- That is so, with what is known of the elements that pass one test only. -/
def Exact {α : Type*} (l : List α) (mistaken missed neither : α → Prop) : Prop :=
  (∃ x ∈ l, neither x) ∨ (∀ x ∈ l, ¬ mistaken x ∧ ¬ missed x) ∨
    (∃ x ∈ l, mistaken x) ∧ ∃ x ∈ l, missed x

/-! ### Equal values -/

/-- The bytes of an array of mechanisms. -/
def isMechanisms (b : ByteString) : Prop := b.length % sizeof_CK_ULONG = 0

instance (b : ByteString) : Decidable (isMechanisms b) :=
  inferInstanceAs (Decidable (b.length % sizeof_CK_ULONG = 0))

/-- Two values of an attribute are equal: as sets where they are mechanisms, else as bytes. -/
def SameBytes (type : CK_ATTRIBUTE_TYPE) (b v : ByteString) : Prop :=
  b = v ∨ type = CKA_ALLOWED_MECHANISMS ∧ isMechanisms b ∧ isMechanisms v ∧
    mechanismsAt b = mechanismsAt v

lemma SameBytes.eq {type : CK_ATTRIBUTE_TYPE} {b v : ByteString} (h : SameBytes type b v)
    (ht : type ≠ CKA_ALLOWED_MECHANISMS) : b = v := h.resolve_right fun hm => ht hm.1

lemma length_mechanisms (value : Finset CK_MECHANISM_TYPE) :
    ((mechanismTypes value).flatMap ulongBytes).length = value.card * sizeof_CK_ULONG := by
  rw [length_flatMap_ulongBytes, mechanismTypes, Finset.length_sort]

lemma isMechanisms_of_set (value : Finset CK_MECHANISM_TYPE) :
    isMechanisms ((mechanismTypes value).flatMap ulongBytes) := by
  rw [isMechanisms, length_mechanisms, Nat.mul_mod_left]

lemma ulongAt_append (v : CK_MECHANISM_TYPE) (b : ByteString) :
    ulongAt (ulongBytes v ++ b) = v := by
  have htake : (ulongBytes v ++ b).take 8 = (ulongBytes v).take 8 :=
    List.take_append_of_le_length (length_ulongBytes v).ge
  rw [ulongAt, htake, ← ulongAt, ulongAt_ulongBytes]

/-- The mechanisms in the bytes of a list are those of the list. -/
lemma mechanismsAt_flatMap (l : List CK_MECHANISM_TYPE) :
    mechanismsAt (l.flatMap ulongBytes) = l.toFinset := by
  have hall : (List.range l.length).map (fun i =>
      ulongAt ((l.flatMap ulongBytes).drop (i * sizeof_CK_ULONG))) = l := by
    induction l with
    | nil => rfl
    | cons v l ih =>
      have hdrop : ∀ i, (ulongBytes v ++ l.flatMap ulongBytes).drop ((i + 1) * sizeof_CK_ULONG) =
          (l.flatMap ulongBytes).drop (i * sizeof_CK_ULONG) := by
        intro i
        rw [Nat.succ_mul, Nat.add_comm, ← List.drop_drop]
        exact congrArg _ (List.drop_left' (length_ulongBytes v))
      rw [List.length_cons, List.range_succ_eq_map, List.map_cons, List.map_map, List.flatMap_cons]
      simp only [Function.comp_def, Nat.succ_eq_add_one, hdrop, ih, Nat.zero_mul, List.drop_zero,
        ulongAt_append]
  rw [mechanismsAt, length_flatMap_ulongBytes, Nat.mul_div_cancel _ (by decide), hall]

lemma mechanismsAt_set (value : Finset CK_MECHANISM_TYPE) :
    mechanismsAt ((mechanismTypes value).flatMap ulongBytes) = value := by
  rw [mechanismsAt_flatMap, mechanismTypes, Finset.sort_toFinset]

/-- The bytes of an attribute inside a template. -/
def simpleAt (type : CK_ATTRIBUTE_TYPE) (map : AttributeMap) : Option ByteString :=
  (OrderedMap.get type map).bind simpleValue

/-- A template has the attributes of another one, each with an equal value, and no more. -/
def SameMaps (map map' : AttributeMap) : Prop :=
  map'.length = map.length ∧ ∀ x ∈ map, ∃ b v, simpleValue x.2 = some b ∧
    simpleAt x.1 map' = some v ∧ SameBytes x.1 b v

/-- The same for a template that has been read. -/
def SameValues (map : AttributeMap) (values : List (CK_ATTRIBUTE_TYPE × ByteString)) : Prop :=
  List.Forall₂ (fun x y => y.1 = x.1 ∧ ∃ b, simpleValue x.2 = some b ∧ SameBytes x.1 b y.2) map
    values

lemma exists_of_forall₂ {α β : Type*} {R : α → β → Prop} {l : List α} {l' : List β}
    (h : List.Forall₂ R l l') {x : α} (hx : x ∈ l) : ∃ y ∈ l', R x y := by
  induction h with
  | nil => cases hx
  | @cons x' y l l' hxy _ ih =>
    rcases List.mem_cons.1 hx with rfl | hx
    · exact ⟨y, List.mem_cons_self, hxy⟩
    · obtain ⟨y, hy, h⟩ := ih hx
      exact ⟨y, List.mem_cons_of_mem _ hy, h⟩

lemma sameMaps_iff {map map' : AttributeMap} :
    (∃ values, map'.length = values.length ∧
      (∀ y ∈ values, simpleAt y.1 map' = some y.2) ∧ SameValues map values) ↔
      SameMaps map map' := by
  constructor
  · rintro ⟨values, hlen, hread, hsame⟩
    refine ⟨hlen.trans hsame.length_eq.symm, fun x hx => ?_⟩
    obtain ⟨y, hy, ht, b, hb, hby⟩ := exists_of_forall₂ hsame hx
    exact ⟨b, y.2, hb, ht ▸ hread y hy, hby⟩
  · rintro ⟨hlen, hall⟩
    refine ⟨map.map fun x => (x.1, (simpleAt x.1 map').getD []), by simpa using hlen, ?_, ?_⟩
    · simp only [List.mem_map, forall_exists_index, and_imp, forall_apply_eq_imp_iff₂]
      intro x hx
      obtain ⟨b, v, -, hv, -⟩ := hall x hx
      rw [hv, Option.getD_some]
    · rw [SameValues, List.forall₂_map_right_iff, List.forall₂_same]
      intro x hx
      obtain ⟨b, v, hb, hv, hbv⟩ := hall x hx
      rw [hv, Option.getD_some]
      exact ⟨rfl, b, hb, hbv⟩

/-! ### What is reported -/

section reported

variable (decrypt : ByteString → Option ByteString) (fakeRutokenECP : Bool) (m : AttributeMap)
  (type : CK_ATTRIBUTE_TYPE)

/-- The attribute that is read, unless it is passed over as one of a generated key without it. -/
def readable : Option P11Attribute :=
  if fakeRutokenECP && absentGeneratedGostParams m && type = CKA_GOST28147_PARAMS then none
  else (attributeKind m).bind fun p => p.attributeOf type

/-- The attribute, if its value may be shown. -/
def reportable : Option P11Attribute :=
  (readable fakeRutokenECP m type).filter fun a => !a.hidden m

/-- The bytes that a value is shown with. -/
def P11Attribute.bytesOf (a : P11Attribute) (isPrivate : Bool) : OSAttribute → Option ByteString
  | .byteString stored => a.plain decrypt isPrivate stored
  | attr => peekValue attr

/-- The bytes that are reported. -/
def reportedBytes : Option ByteString :=
  (reportable fakeRutokenECP m type).bind fun a =>
    (OrderedMap.get type m).bind (P11Attribute.bytesOf decrypt a (isPrivate m))

def mapOf : OSAttribute → Option AttributeMap
  | .attributeMap map => some map
  | _ => none

/-- The template that is reported. -/
def reportedTemplate : Option AttributeMap :=
  (reportable fakeRutokenECP m type).bind fun _ => (OrderedMap.get type m).bind mapOf

/-- The bytes as they are stored. -/
def storedBytes : Option ByteString := (OrderedMap.get type m).bind peekValue

end reported

variable {Obj Sess : Type} [DecidableEq Obj] [DecidableEq Sess]

/-- Reading an attribute into buffers of the right sizes gives a template. -/
def ReadsTemplate (P : Primitives) (st : Store Obj Sess) (hSession hObject : ℕ)
    (type : CK_ATTRIBUTE_TYPE) (values : List (CK_ATTRIBUTE_TYPE × ByteString)) : Prop :=
  ∃ stores st', C_GetAttributeValue P stores hSession hObject
      (some [⟨type, true, values.length * sizeof_CK_ATTRIBUTE,
        values.map fun x => ⟨x.1, true, x.2.length, none⟩⟩]) st =
    (CKR_OK, [(values.length * sizeof_CK_ATTRIBUTE,
      .array (values.map fun x => ⟨x.1, true, x.2.length, some x.2⟩))], st')

section reading

variable {P : Primitives} {st : Store Obj Sess} {hSession hKey : ℕ} {invalid : CK_RV} {s : Sess}
  {key : OSObject} {type : CK_ATTRIBUTE_TYPE}

/-- What holds of a key that a call may use. -/
lemma access_of_keyToUse (hkey : keyToUse hSession hKey invalid st = .ok (s, key)) :
    st.isInitialised = true ∧ st.handleManager.getSession hSession = some s ∧
    ∃ o, st.handleManager.getObject hKey = some o ∧ st.object o = key ∧ key.valid = true ∧
      haveRead (st.getState s) (key.attributes.getBooleanValue CKA_TOKEN false)
        (key.attributes.getBooleanValue CKA_PRIVATE true) = CKR_OK := by
  obtain ⟨hs, o, ho, rfl, hv⟩ := of_keyToUse hkey
  unfold keyToUse at hkey
  obtain ⟨hi, hkey⟩ := of_check hkey
  simp only [hs, ho] at hkey
  replace hkey := (of_check hkey).2
  obtain ⟨hread, -⟩ := of_check hkey
  exact ⟨by simpa using hi, hs, o, ho, rfl, hv, not_not.1 hread⟩

/-- **Reading one attribute** of a key that the session may use. -/
lemma getAttributeValue_iff (hkey : keyToUse hSession hKey invalid st = .ok (s, key))
    (hc : Complete key.attributes)
    (hf : (st.fakeRutokenECP && decide (hKey = FAKE_RUTOKEN_FEATURE_HANDLE)) = false)
    (stores : CK_ATTRIBUTE_TYPE → RecordFile.Write) (r : Request) (n : ℕ) (w : Written) :
    (∃ st', C_GetAttributeValue P stores hSession hKey (some [r]) st = (CKR_OK, [(n, w)], st')) ↔
      ∃ a, readable st.fakeRutokenECP key.attributes r.type = some a ∧
        a.retrieve (decrypt P (st.sdm (st.session s).slotID)) (isPrivate key.attributes) r
          key.attributes = ⟨CKR_OK, n, w⟩ := by
  obtain ⟨hi, hs, o, ho, rfl, hv, hread⟩ := access_of_keyToUse hkey
  obtain ⟨p, hp, hnew⟩ := newP11Object_of_complete hv hc stores
  obtain ⟨rv, x, hload⟩ := loadTemplate_length p (decrypt P (st.sdm (st.session s).slotID)) r
    (st.object o).attributes
  -- the answer of the loop, for the one attribute
  have hloop : rv = CKR_OK ∧ x.ulValueLen = n ∧ x.written = w ↔
      ∃ a, p.attributeOf r.type = some a ∧
        a.retrieve (decrypt P (st.sdm (st.session s).slotID)) (isPrivate (st.object o).attributes) r
          (st.object o).attributes = ⟨CKR_OK, n, w⟩ := by
    constructor
    · rintro ⟨rfl, rfl, rfl⟩
      obtain ⟨a, ha, hx, hrv⟩ := loadTemplate_single.1 hload
      exact ⟨a, ha, by rw [hx, ← hrv]⟩
    · rintro ⟨a, ha, hx⟩
      rw [loadTemplate_single.2 ⟨a, ha, hx, rfl⟩] at hload
      cases hload
      exact ⟨rfl, rfl, rfl⟩
  simp only [C_GetAttributeValue, hi, hs, hf, ho, hv, hread, hnew, hload, Bool.not_true,
    Bool.false_eq_true, if_false, ne_eq, not_true_eq_false, readable, hp, Option.bind_some,
    Search.filled, List.map_cons, List.map_nil, List.length_cons, List.length_nil,
    List.drop_succ_cons, List.drop_nil, List.append_nil]
  cases habsent : st.fakeRutokenECP && absentGeneratedGostParams (st.object o).attributes
  case false =>
    simp only [Bool.false_and, Bool.false_eq_true, if_false, ← hloop, Prod.mk.injEq,
      List.cons.injEq, and_true, exists_and_left, exists_eq']
  case true =>
    by_cases ht : r.type = CKA_GOST28147_PARAMS
    · have hrv : (if rv = CKR_ATTRIBUTE_SENSITIVE then rv else CKR_ATTRIBUTE_TYPE_INVALID) ≠
          CKR_OK := by
        split
        · rename_i h
          rw [h]
          decide
        · decide
      simp [withoutGostParams, ht, hrv]
    · simp only [withoutGostParams, ht, List.any_cons, List.any_nil, decide_false, Bool.or_false,
        Bool.and_false, Bool.false_eq_true, if_false, if_true, ← hloop, Prod.mk.injEq,
        List.cons.injEq, and_true, exists_and_left, exists_eq']

variable {decrypt : ByteString → Option ByteString} {isPrivate : Bool} {a : P11Attribute}
  {attr : OSAttribute} {m : AttributeMap}

/-- Reading an attribute into a buffer. -/
lemma retrieve_bytes_iff {n : ℕ} {v : ByteString} (hget : OrderedMap.get a.type m = some attr)
    (hk : SameKind attr a.default) (hf : sizeFits a = true) :
    a.retrieve decrypt isPrivate ⟨a.type, true, n, []⟩ m = ⟨CKR_OK, v.length, .bytes v⟩ ↔
      a.hidden m = false ∧ P11Attribute.bytesOf decrypt a isPrivate attr = some v ∧
        v.length ≤ n := by
  cases attr with
  | boolean b => exact retrieve_ok_iff hget rfl hk hf
  | unsignedLong k => exact retrieve_ok_iff hget rfl hk hf
  | byteString stored => exact retrieve_ok_iff hget rfl hk hf
  | mechanismTypeSet value =>
    have hsize : a.size = none := by
      unfold sizeFits at hf
      cases hd : a.default <;> rw [hd] at hk hf <;> first | exact hk.elim | skip
      exact of_decide_eq_true hf
    have hlen := length_mechanisms value
    rw [P11Attribute.retrieve]
    cases hh : a.hidden m
    · simp only [Bool.false_eq_true, if_false, hget, P11Attribute.attrSize, hsize, Bool.not_true,
        P11Attribute.copy, P11Attribute.bytesOf, peekValue, Option.some.injEq, true_and, ← hlen]
      split
      · rename_i hle
        rw [Retrieved.mk.injEq, Written.bytes.injEq]
        constructor
        · rintro ⟨-, -, rfl⟩
          exact ⟨rfl, hle⟩
        · rintro ⟨rfl, -⟩
          exact ⟨rfl, rfl, rfl⟩
      · rename_i hle
        refine iff_of_false (fun h => by cases h) ?_
        rintro ⟨rfl, h⟩
        exact hle h
    · simp
  | attributeMap map =>
    refine iff_of_false (fun h => ?_) fun h => ?_
    · rw [P11Attribute.retrieve] at h
      split at h
      · cases h
      simp only [hget, P11Attribute.copy] at h
      split at h
      · cases h
      simp only [Bool.not_true, Bool.false_eq_true, if_false] at h
      split at h
      · exact Written.noConfusion (Retrieved.mk.inj h).2.2
      · cases h
    · cases h.2.1

/-- The second loop of `retrieveAttributeMap`, with a buffer of its size for each value. -/
lemma mapValues_iff {map : AttributeMap} {values : List (CK_ATTRIBUTE_TYPE × ByteString)} :
    mapValues map values.length (values.map fun x => ⟨x.1, true, x.2.length, none⟩) =
        (CKR_OK, values.map fun x => ⟨x.1, true, x.2.length, some x.2⟩) ↔
      ∀ x ∈ values, simpleAt x.1 map = some x.2 := by
  induction values with
  | nil => simp [mapValues]
  | cons x values ih =>
    rw [List.forall_mem_cons, ← ih, List.map_cons, List.length_cons, mapValues, simpleAt]
    cases hget : OrderedMap.get x.1 map with
    | none => simp
    | some attr =>
      simp only [Option.bind_some]
      cases hs : simpleValue attr with
      | none => simp
      | some v =>
        simp only [Option.some.injEq]
        split
        · rename_i hlt
          refine iff_of_false (fun h => by cases h) ?_
          rintro ⟨rfl, -⟩
          exact lt_irrefl _ hlt
        · simp only [Prod.mk.injEq, List.map_cons, List.cons.injEq, Element.mk.injEq,
            Option.some.injEq, true_and]
          constructor
          · rintro ⟨hrv, ⟨-, rfl⟩, hes⟩
            exact ⟨rfl, Prod.ext hrv hes⟩
          · rintro ⟨rfl, hr⟩
            exact ⟨congrArg Prod.fst hr, ⟨rfl, rfl⟩, congrArg Prod.snd hr⟩

lemma retrieveAttributeMap_iff {map : AttributeMap}
    {values : List (CK_ATTRIBUTE_TYPE × ByteString)} (hlen : map.length = values.length) :
    retrieveAttributeMap (values.map fun x => ⟨x.1, true, x.2.length, none⟩) map =
        (CKR_OK, values.map fun x => ⟨x.1, true, x.2.length, some x.2⟩) ↔
      ∀ x ∈ values, simpleAt x.1 map = some x.2 := by
  cases values with
  | nil => simp [retrieveAttributeMap, mapSizes]
  | cons x values =>
    have hsome : (((x :: values).map fun x => (⟨x.1, true, x.2.length, none⟩ : Element)).take
        map.length).all (fun e => !e.hasBuffer) = false := by simp [hlen]
    rw [retrieveAttributeMap, hsome, if_neg Bool.false_ne_true, hlen, mapValues_iff]

/-- Reading a template into buffers. -/
lemma retrieve_template_iff {values : List (CK_ATTRIBUTE_TYPE × ByteString)}
    (hget : OrderedMap.get a.type m = some attr) (hk : SameKind attr a.default)
    (hf : sizeFits a = true) :
    a.retrieve decrypt isPrivate ⟨a.type, true, values.length * sizeof_CK_ATTRIBUTE,
        values.map fun x => ⟨x.1, true, x.2.length, none⟩⟩ m =
      ⟨CKR_OK, values.length * sizeof_CK_ATTRIBUTE,
        .array (values.map fun x => ⟨x.1, true, x.2.length, some x.2⟩)⟩ ↔
      a.hidden m = false ∧ ∃ map, mapOf attr = some map ∧ map.length = values.length ∧
        ∀ x ∈ values, simpleAt x.1 map = some x.2 := by
  rw [P11Attribute.retrieve]
  cases hh : a.hidden m
  case true => simp
  simp only [Bool.false_eq_true, if_false, hget, Bool.not_true, true_and]
  by_cases hmap : ∃ map, attr = .attributeMap map
  · obtain ⟨map, rfl⟩ := hmap
    have hsize : a.size = none := by
      unfold sizeFits at hf
      cases hd : a.default <;> rw [hd] at hk hf <;> first | exact hk.elim | skip
      exact of_decide_eq_true hf
    simp only [P11Attribute.attrSize, hsize, P11Attribute.copy, mapOf, Option.some.injEq,
      exists_eq_left']
    constructor
    · intro h
      split at h
      · obtain ⟨hrv, hlen, hw⟩ := Retrieved.mk.inj h
        have hlen' : map.length = values.length := by
          simp only [sizeof_CK_ATTRIBUTE] at hlen
          omega
        exact ⟨hlen', (retrieveAttributeMap_iff hlen').1 (Prod.ext hrv (Written.array.inj hw))⟩
      · cases h
    · rintro ⟨hlen, hall⟩
      have hr := (retrieveAttributeMap_iff hlen).2 hall
      rw [hlen, if_pos le_rfl, hr]
  · have hnone : mapOf attr = none := by
      cases attr <;> first | rfl | exact absurd ⟨_, rfl⟩ hmap
    rw [hnone]
    refine iff_of_false (fun h => ?_) (by rintro ⟨_, h, -⟩; cases h)
    split at h
    · cases h
    · split at h
      · split at h
        · cases h
        · rename_i hcopy
          obtain ⟨-, -, hw⟩ := Retrieved.mk.inj h
          subst hw
          cases attr <;> simp [P11Attribute.copy] at hcopy hmap
      · cases h

lemma reportedBytes_eq_some {fakeRutokenECP : Bool} {v : ByteString} :
    reportedBytes decrypt fakeRutokenECP m type = some v ↔
      ∃ a, readable fakeRutokenECP m type = some a ∧ a.hidden m = false ∧
        ∃ attr, OrderedMap.get type m = some attr ∧
          P11Attribute.bytesOf decrypt a (P11Object.isPrivate m) attr = some v := by
  simp [reportedBytes, reportable, Option.bind_eq_some_iff, Option.filter_eq_some_iff, and_assoc]

lemma reportedTemplate_eq_some {fakeRutokenECP : Bool} {map : AttributeMap} :
    reportedTemplate fakeRutokenECP m type = some map ↔
      ∃ a, readable fakeRutokenECP m type = some a ∧ a.hidden m = false ∧
        ∃ attr, OrderedMap.get type m = some attr ∧ mapOf attr = some map := by
  simp [reportedTemplate, reportable, Option.bind_eq_some_iff, Option.filter_eq_some_iff,
    and_assoc]

/-- An attribute that can be read is there, with a value like its default. -/
lemma of_readable {fakeRutokenECP : Bool} (hc : Complete m)
    (h : readable fakeRutokenECP m type = some a) :
    a.type = type ∧ sizeFits a = true ∧
      ∃ attr, OrderedMap.get type m = some attr ∧ SameKind attr a.default := by
  obtain ⟨p, hp, hall⟩ := hc
  unfold readable at h
  split at h
  · cases h
  rw [hp, Option.bind_some] at h
  obtain ⟨ha, rfl⟩ := attributeOf_some h
  exact ⟨rfl, sizeFits_table _ (p11ObjectOf_mem hp) a ha, hall a ha⟩

/-- **What reading the bytes of a key gives.** -/
theorem reads_iff_reported (hkey : keyToUse hSession hKey invalid st = .ok (s, key))
    (hc : Complete key.attributes)
    (hf : (st.fakeRutokenECP && decide (hKey = FAKE_RUTOKEN_FEATURE_HANDLE)) = false)
    {v : ByteString} :
    Reads P st hSession hKey type v ↔ reportedBytes (Search.decrypt P (st.sdm (st.session s).slotID))
      st.fakeRutokenECP key.attributes type = some v := by
  rw [reportedBytes_eq_some]
  constructor
  · rintro ⟨stores, n, st', h⟩
    obtain ⟨a, ha, hr⟩ := (getAttributeValue_iff hkey hc hf stores _ _ _).1 ⟨st', h⟩
    obtain ⟨rfl, hfits, attr, hget, hkind⟩ := of_readable hc ha
    obtain ⟨hh, hv, -⟩ := (retrieve_bytes_iff hget hkind hfits).1 hr
    exact ⟨a, ha, hh, attr, hget, hv⟩
  · rintro ⟨a, ha, hh, attr, hget, hv⟩
    obtain ⟨rfl, hfits, attr', hget', hkind⟩ := of_readable hc ha
    obtain rfl : attr = attr' := Option.some.inj (hget.symm.trans hget')
    obtain ⟨st', h⟩ := (getAttributeValue_iff (P := P) hkey hc hf (fun _ => .done)
      ⟨a.type, true, v.length, []⟩ _ _).2
      ⟨a, ha, (retrieve_bytes_iff hget hkind hfits).2 ⟨hh, hv, le_rfl⟩⟩
    exact ⟨_, _, st', h⟩

/-- **What reading a template of a key gives.** -/
theorem readsTemplate_iff_reported (hkey : keyToUse hSession hKey invalid st = .ok (s, key))
    (hc : Complete key.attributes)
    (hf : (st.fakeRutokenECP && decide (hKey = FAKE_RUTOKEN_FEATURE_HANDLE)) = false)
    {values : List (CK_ATTRIBUTE_TYPE × ByteString)} :
    ReadsTemplate P st hSession hKey type values ↔
      ∃ map, reportedTemplate st.fakeRutokenECP key.attributes type = some map ∧
        map.length = values.length ∧ ∀ x ∈ values, simpleAt x.1 map = some x.2 := by
  constructor
  · rintro ⟨stores, st', h⟩
    obtain ⟨a, ha, hr⟩ := (getAttributeValue_iff hkey hc hf stores _ _ _).1 ⟨st', h⟩
    obtain ⟨rfl, hfits, attr, hget, hkind⟩ := of_readable hc ha
    obtain ⟨hh, map, hmap, hall⟩ := (retrieve_template_iff hget hkind hfits).1 hr
    exact ⟨map, reportedTemplate_eq_some.2 ⟨a, ha, hh, attr, hget, hmap⟩, hall⟩
  · rintro ⟨map, hmap, hall⟩
    obtain ⟨a, ha, hh, attr, hget, hattr⟩ := reportedTemplate_eq_some.1 hmap
    obtain ⟨rfl, hfits, attr', hget', hkind⟩ := of_readable hc ha
    obtain rfl : attr = attr' := Option.some.inj (hget.symm.trans hget')
    obtain ⟨st', h⟩ := (getAttributeValue_iff (P := P) hkey hc hf (fun _ => .done)
      ⟨a.type, true, _, _⟩ _ _).2
      ⟨a, ha, (retrieve_template_iff hget hkind hfits).2 ⟨hh, map, hattr, hall⟩⟩
    exact ⟨_, st', h⟩

end reading

/-! ### The check of the template -/

/-- The attributes of a template. -/
def templateOf (type : CK_ATTRIBUTE_TYPE) (m : AttributeMap) : AttributeMap :=
  match OrderedMap.get type m with
  | some (.attributeMap map) => map
  | _ => []

lemma templateOf_map {type : CK_ATTRIBUTE_TYPE} {m map : AttributeMap}
    (h : OrderedMap.get type m = some (.attributeMap map)) : templateOf type m = map := by
  unfold templateOf
  rw [h]

lemma templateOf_other {type : CK_ATTRIBUTE_TYPE} {m : AttributeMap}
    (h : ∀ map, OrderedMap.get type m = some (.attributeMap map) → False) :
    templateOf type m = [] := by
  unfold templateOf
  split
  · rename_i map hget
    exact absurd hget (h map)
  · rfl

/-- **What the claim of a template is**: the key has the attribute with an equal value, as it is
read. -/
def Has (P : Primitives) (st : Store Obj Sess) (hSession hKey : ℕ)
    (entry : CK_ATTRIBUTE_TYPE × OSAttribute) : Prop :=
  (∃ b v, peekValue entry.2 = some b ∧ Reads P st hSession hKey entry.1 v ∧
    SameBytes entry.1 b v) ∨
  ∃ map values, entry.2 = .attributeMap map ∧ ReadsTemplate P st hSession hKey entry.1 values ∧
    SameValues map values

/-- What the check asks for: the same bytes where both are stored. -/
def Passes (m : AttributeMap) (entry : CK_ATTRIBUTE_TYPE × OSAttribute) : Prop :=
  ∃ b, peekValue entry.2 = some b ∧ storedBytes m entry.1 = some b

lemma obeysWrapTemplate_iff {wrapKey key : AttributeMap} :
    obeysWrapTemplate wrapKey key = true ↔
      ∀ entry ∈ templateOf CKA_WRAP_TEMPLATE wrapKey, Passes key entry := by
  unfold obeysWrapTemplate
  split
  · rename_i map hget
    rw [templateOf_map hget]
    simp only [List.all_eq_true]
    refine forall₂_congr fun entry _ => ?_
    cases hkey : OrderedMap.get entry.1 key with
    | none => simp [Passes, storedBytes, hkey]
    | some keyAttr =>
      simp only [Passes, storedBytes, hkey, Option.bind_some, Bool.and_eq_true, decide_eq_true_eq,
        Option.isSome_iff_exists]
      constructor
      · rintro ⟨⟨b, hb⟩, he⟩
        exact ⟨b, he ▸ hb, hb⟩
      · rintro ⟨b, hb, hb'⟩
        exact ⟨⟨b, hb'⟩, hb'.trans hb.symm⟩
  · rename_i hother
    rw [templateOf_other hother]
    simp

section entries

variable (decrypt : ByteString → Option ByteString) (fakeRutokenECP : Bool) (m : AttributeMap)

/-- The same, by what a key holds. -/
def Carries (entry : CK_ATTRIBUTE_TYPE × OSAttribute) : Prop :=
  (∃ b v, peekValue entry.2 = some b ∧ reportedBytes decrypt fakeRutokenECP m entry.1 = some v ∧
    SameBytes entry.1 b v) ∨
  ∃ map map', entry.2 = .attributeMap map ∧ reportedTemplate fakeRutokenECP m entry.1 = some map' ∧
    SameMaps map map'

/-- The check lets an attribute through that the key is not said to have with this value: of a
sealed string the template has the sealed bytes, or the value is not shown at all. -/
inductive Mistaken : CK_ATTRIBUTE_TYPE × OSAttribute → Prop
  | sealed {type : CK_ATTRIBUTE_TYPE} {attr : OSAttribute} {stored : ByteString}
      (hget : OrderedMap.get type m = some (.byteString stored))
      (hpeek : peekValue attr = some stored)
      (hopen : reportedBytes decrypt fakeRutokenECP m type ≠ some stored) : Mistaken (type, attr)
  | unreported {type : CK_ATTRIBUTE_TYPE} {attr : OSAttribute} {b : ByteString}
      (hstored : storedBytes m type = some b) (hpeek : peekValue attr = some b)
      (hnone : reportable fakeRutokenECP m type = none) : Mistaken (type, attr)

/-- The check refuses an attribute that the key has with this value: of a sealed string the template
has the open bytes, of a set of mechanisms another order, or it has a template. -/
inductive Missed : CK_ATTRIBUTE_TYPE × OSAttribute → Prop
  | sealed {type : CK_ATTRIBUTE_TYPE} {attr : OSAttribute} {stored v : ByteString}
      (hget : OrderedMap.get type m = some (.byteString stored))
      (hopen : reportedBytes decrypt fakeRutokenECP m type = some v)
      (hpeek : peekValue attr = some v) (hne : v ≠ stored) : Missed (type, attr)
  | unordered {attr : OSAttribute} {value : Finset CK_MECHANISM_TYPE} {b : ByteString}
      (hget : OrderedMap.get CKA_ALLOWED_MECHANISMS m = some (.mechanismTypeSet value))
      (hshown : reportable fakeRutokenECP m CKA_ALLOWED_MECHANISMS ≠ none)
      (hpeek : peekValue attr = some b) (hb : isMechanisms b) (hsame : mechanismsAt b = value)
      (hne : b ≠ (mechanismTypes value).flatMap ulongBytes) : Missed (CKA_ALLOWED_MECHANISMS, attr)
  | template {type : CK_ATTRIBUTE_TYPE} {map map' : AttributeMap}
      (hshown : reportedTemplate fakeRutokenECP m type = some map')
      (hsame : SameMaps map map') : Missed (type, .attributeMap map)

variable {decrypt fakeRutokenECP m} {entry : CK_ATTRIBUTE_TYPE × OSAttribute}

/-- The attribute with the allowed mechanisms has a set of them. -/
lemma allowed_table : ∀ x ∈ kinds, ∀ a ∈ x.2.attributes, a.type = CKA_ALLOWED_MECHANISMS →
    valueTag a.default = valueTag (.mechanismTypeSet ∅) := by decide +kernel

lemma isSet_of_readable (hc : Complete m) {a : P11Attribute} {attr : OSAttribute}
    (ha : readable fakeRutokenECP m CKA_ALLOWED_MECHANISMS = some a)
    (hget : OrderedMap.get CKA_ALLOWED_MECHANISMS m = some attr) :
    ∃ value, attr = .mechanismTypeSet value := by
  obtain ⟨ht, -, attr', hget', hkind⟩ := of_readable hc ha
  obtain rfl : attr = attr' := Option.some.inj (hget.symm.trans hget')
  have hset : SameKind a.default (.mechanismTypeSet ∅) := by
    obtain ⟨p, hp, -⟩ := hc
    unfold readable at ha
    split at ha
    · cases ha
    rw [hp, Option.bind_some] at ha
    exact (valueTag_eq_iff _ _).1 (allowed_table _ (p11ObjectOf_mem hp) a (attributeOf_some ha).1 ht)
  cases hd : a.default <;> rw [hd] at hset hkind <;> cases hset
  cases attr <;> first | exact ⟨_, rfl⟩ | exact hkind.elim

lemma reportable_eq_some {type : CK_ATTRIBUTE_TYPE} {a : P11Attribute} :
    reportable fakeRutokenECP m type = some a ↔
      readable fakeRutokenECP m type = some a ∧ a.hidden m = false := by
  simp [reportable, Option.filter_eq_some_iff]

/-- What is not stored as a string is reported as it is stored. -/
lemma reportedBytes_of_stored {type : CK_ATTRIBUTE_TYPE} {a : P11Attribute} {attr : OSAttribute}
    {b : ByteString} (ha : reportable fakeRutokenECP m type = some a)
    (hget : OrderedMap.get type m = some attr) (hb : peekValue attr = some b)
    (hs : ∀ stored, attr ≠ .byteString stored) :
    reportedBytes decrypt fakeRutokenECP m type = some b := by
  obtain ⟨ha, hh⟩ := reportable_eq_some.1 ha
  refine reportedBytes_eq_some.2 ⟨a, ha, hh, attr, hget, ?_⟩
  cases attr <;> first | exact hb | exact absurd rfl (hs _)

lemma peekValue_map {attr : OSAttribute} {b : ByteString} (h : peekValue attr = some b)
    (map : AttributeMap) : attr ≠ .attributeMap map := by
  rintro rfl
  cases h

/-- Values that are no sets are equal as bytes. -/
lemma SameBytes.eq_of_readable (hc : Complete m) {type : CK_ATTRIBUTE_TYPE} {a : P11Attribute}
    {attr : OSAttribute} {b v : ByteString} (h : SameBytes type b v)
    (ha : readable fakeRutokenECP m type = some a) (hget : OrderedMap.get type m = some attr)
    (hs : ∀ value, attr ≠ .mechanismTypeSet value) : b = v := by
  refine h.eq ?_
  rintro rfl
  obtain ⟨value, hset⟩ := isSet_of_readable hc ha hget
  exact hs value hset

/-- **Where the check lets too much through.** -/
theorem mistaken_iff (hc : Complete m) :
    Mistaken decrypt fakeRutokenECP m entry ↔
      Passes m entry ∧ ¬ Carries decrypt fakeRutokenECP m entry := by
  constructor
  · intro h
    cases h with
    | @«sealed» type attr stored hget hpeek hopen =>
      refine ⟨⟨_, hpeek, by rw [storedBytes, hget]; rfl⟩, ?_⟩
      rintro (⟨b, v, hb, hv, hsame⟩ | ⟨map, map', hmap, -, -⟩)
      · obtain rfl := Option.some.inj (hpeek.symm.trans hb)
        obtain ⟨a, ha, -⟩ := reportedBytes_eq_some.1 hv
        rw [← hsame.eq_of_readable hc ha hget (by simp)] at hv
        exact hopen hv
      · exact peekValue_map hpeek map hmap
    | unreported hstored hpeek hnone =>
      refine ⟨⟨_, hpeek, hstored⟩, ?_⟩
      rintro (⟨b, v, -, hv, -⟩ | ⟨map, map', -, hmap, -⟩)
      · rw [reportedBytes, hnone] at hv
        cases hv
      · rw [reportedTemplate, hnone] at hmap
        cases hmap
  · obtain ⟨type, attr⟩ := entry
    rintro ⟨⟨b, hpeek, hstored⟩, hnot⟩
    cases ha : reportable fakeRutokenECP m type with
    | none => exact .unreported hstored hpeek ha
    | some a =>
      obtain ⟨attr', hget, hb⟩ := Option.bind_eq_some_iff.1 hstored
      have hreported : reportedBytes decrypt fakeRutokenECP m type ≠ some b :=
        fun hv => hnot (.inl ⟨b, b, hpeek, hv, .inl rfl⟩)
      by_cases hs : ∃ stored, attr' = .byteString stored
      · obtain ⟨stored, rfl⟩ := hs
        obtain rfl : stored = b := Option.some.inj hb
        exact .sealed hget hpeek hreported
      · exact absurd (reportedBytes_of_stored ha hget hb fun stored h => hs ⟨stored, h⟩) hreported

/-- **Where the check refuses too much.** -/
theorem missed_iff (hc : Complete m) :
    Missed decrypt fakeRutokenECP m entry ↔
      Carries decrypt fakeRutokenECP m entry ∧ ¬ Passes m entry := by
  constructor
  · intro h
    cases h with
    | «sealed» hget hopen hpeek hne =>
      refine ⟨.inl ⟨_, _, hpeek, hopen, .inl rfl⟩, ?_⟩
      rintro ⟨b, hb, hstored⟩
      obtain rfl := Option.some.inj (hpeek.symm.trans hb)
      rw [storedBytes, hget] at hstored
      exact hne (Option.some.inj hstored).symm
    | unordered hget hshown hpeek hb hsame hne =>
      obtain ⟨a, ha⟩ := Option.ne_none_iff_exists'.1 hshown
      refine ⟨.inl ⟨_, _, hpeek, reportedBytes_of_stored ha hget rfl (by simp), .inr ⟨rfl, hb,
        isMechanisms_of_set _, hsame.trans (mechanismsAt_set _).symm⟩⟩, ?_⟩
      rintro ⟨b, hb, hstored⟩
      obtain rfl := Option.some.inj (hpeek.symm.trans hb)
      rw [storedBytes, hget] at hstored
      exact hne (Option.some.inj hstored).symm
    | template hshown hsame =>
      refine ⟨.inr ⟨_, _, rfl, hshown, hsame⟩, ?_⟩
      rintro ⟨b, hb, -⟩
      cases hb
  · obtain ⟨type, attr⟩ := entry
    rintro ⟨⟨b, v, hpeek, hv, hsame⟩ | ⟨map, map', rfl, hmap, hsame⟩, hnot⟩
    · obtain ⟨a, ha, hh, attr', hget, hbytes⟩ := reportedBytes_eq_some.1 hv
      have hpasses : peekValue attr' ≠ some b :=
        fun h => hnot ⟨b, hpeek, by rw [storedBytes, hget, Option.bind_some, h]⟩
      by_cases hs : ∃ value, attr' = .mechanismTypeSet value
      · obtain ⟨value, rfl⟩ := hs
        obtain rfl := Option.some.inj hbytes
        rcases hsame with rfl | ⟨ht, hb, -, hsame⟩
        · exact absurd rfl hpasses
        · obtain rfl : type = CKA_ALLOWED_MECHANISMS := ht
          refine .unordered hget ?_ hpeek hb (hsame.trans (mechanismsAt_set value)) ?_
          · rw [reportable_eq_some.2 ⟨ha, hh⟩]
            exact Option.some_ne_none a
          · rintro rfl
            exact hpasses rfl
      · obtain rfl := hsame.eq_of_readable hc ha hget fun value h => hs ⟨value, h⟩
        cases attr' with
        | boolean => exact absurd hbytes hpasses
        | unsignedLong => exact absurd hbytes hpasses
        | byteString stored =>
          refine .sealed hget hv hpeek ?_
          rintro rfl
          exact hpasses rfl
        | mechanismTypeSet value => exact absurd ⟨value, rfl⟩ hs
        | attributeMap => cases hbytes
    · exact .template hmap hsame

end entries

section wrapping

variable {P : Primitives} {st : Store Obj Sess} {hSession hKey : ℕ} {invalid : CK_RV} {s : Sess}
  {key : OSObject}

lemma has_iff_carries (hkey : keyToUse hSession hKey invalid st = .ok (s, key))
    (hc : Complete key.attributes)
    (hf : (st.fakeRutokenECP && decide (hKey = FAKE_RUTOKEN_FEATURE_HANDLE)) = false)
    (entry : CK_ATTRIBUTE_TYPE × OSAttribute) :
    Has P st hSession hKey entry ↔ Carries (Search.decrypt P (st.sdm (st.session s).slotID))
      st.fakeRutokenECP key.attributes entry := by
  simp only [Has, Carries, reads_iff_reported hkey hc hf, readsTemplate_iff_reported hkey hc hf]
  refine or_congr Iff.rfl ⟨?_, ?_⟩
  · rintro ⟨map, values, hmap, ⟨map', hmap', hlen, hall⟩, hsame⟩
    exact ⟨map, map', hmap, hmap', sameMaps_iff.1 ⟨values, hlen, hall, hsame⟩⟩
  · rintro ⟨map, map', hmap, hmap', hsame⟩
    obtain ⟨values, hlen, hall, hsame⟩ := sameMaps_iff.2 hsame
    exact ⟨map, values, hmap, ⟨map', hmap', hlen, hall⟩, hsame⟩

/-- **When the check means equality**: exactly if some attribute of the template is one that the key
has neither as it is stored nor as it is read, or the check is wrong about no attribute, or there
is one that it should refuse and one that it should let through. -/
theorem obeysWrapTemplate_exact_iff (hkey : keyToUse hSession hKey invalid st = .ok (s, key))
    (hc : Complete key.attributes)
    (hf : (st.fakeRutokenECP && decide (hKey = FAKE_RUTOKEN_FEATURE_HANDLE)) = false)
    (wrapKey : AttributeMap) :
    (obeysWrapTemplate wrapKey key.attributes = true ↔
        ∀ entry ∈ templateOf CKA_WRAP_TEMPLATE wrapKey, Has P st hSession hKey entry) ↔
      Exact (templateOf CKA_WRAP_TEMPLATE wrapKey)
        (Mistaken (Search.decrypt P (st.sdm (st.session s).slotID)) st.fakeRutokenECP
          key.attributes)
        (Missed (Search.decrypt P (st.sdm (st.session s).slotID)) st.fakeRutokenECP key.attributes)
        fun entry => ¬ Passes key.attributes entry ∧
          ¬ Carries (Search.decrypt P (st.sdm (st.session s).slotID)) st.fakeRutokenECP
            key.attributes entry := by
  simp only [obeysWrapTemplate_iff, has_iff_carries hkey hc hf, forall_iff_forall, Exact,
    mistaken_iff hc, missed_iff hc]

end wrapping

end SoftHSM.Create
