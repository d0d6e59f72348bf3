import SoftHSM.Library.WrapTemplates

/-!
`C_GetAttributeValue` as its caller sees it: what is copied through the pointers of a template,
which entries come to an end of their own, and what a caller gets who asks for the sizes first.

An entry can end the loop over the template in two ways: its value cannot be read, or it is a
template itself and one of its elements is refused. Once one element of such a template has a
buffer, the others are taken to have one, too.
-/

namespace SoftHSM.Retrieval

open CK_RV P11Object Create Search

/-! ### Copies -/

/-- A copy to the caller: whether there is a pointer, what there is room for, and how much. -/
structure Copy where
  hasBuffer : Bool
  room : ℕ
  size : ℕ
  deriving DecidableEq

/-- There is a pointer where there is something to copy, and it fits. -/
def Copy.Fits (c : Copy) : Prop := c.size = 0 ∨ c.hasBuffer = true ∧ c.size ≤ c.room

instance (c : Copy) : Decidable c.Fits := inferInstanceAs (Decidable (_ ∨ _))

/-- The copies of the second loop of `retrieveAttributeMap`. -/
def mapCopies (map : AttributeMap) : ℕ → List Element → List Copy
  | n + 1, e :: es =>
    match simpleAt e.type map with
    | none => []
    | some value =>
      if e.ulValueLen < value.length then []
      else ⟨e.hasBuffer, e.ulValueLen, value.length⟩ :: mapCopies map n es
  | _, _ => []

/-- The copies of `retrieveAttributeMap` to the buffers of the elements. -/
def elementCopies (pTemplate : List Element) (map : AttributeMap) : List Copy :=
  if (pTemplate.take map.length).all fun e => !e.hasBuffer then []
  else mapCopies map map.length pTemplate

/-- The copies of `retrieve`, into a buffer that is large enough. -/
def attributeCopies (decrypt : ByteString → Option ByteString) (isPrivate : Bool)
    (a : P11Attribute) (r : Request) (m : AttributeMap) : List Copy :=
  if a.hidden m then []
  else
    match OrderedMap.get a.type m with
    | none => []
    | some attr =>
      match a.attrSize decrypt isPrivate attr with
      | none => []
      | some attrSize =>
        if !r.hasBuffer then []
        else if attrSize ≤ r.ulValueLen then
          match attr with
          | .attributeMap map =>
            ⟨r.hasBuffer, r.ulValueLen, attrSize⟩ :: elementCopies r.array map
          | attr =>
            match a.copy decrypt isPrivate attr r.array with
            | some (_, .bytes value) => [⟨r.hasBuffer, r.ulValueLen, value.length⟩]
            | _ => []
        else []

/-- The copies of `loadTemplate`, up to the entry that ends its loop. -/
def templateCopies (p : P11Object) (decrypt : ByteString → Option ByteString) (m : AttributeMap) :
    List Request → List Copy
  | [] => []
  | r :: rs =>
    match p.attributeOf r.type with
    | none => templateCopies p decrypt m rs
    | some a =>
      let x := a.retrieve decrypt (isPrivate m) r m
      attributeCopies decrypt (isPrivate m) a r m ++
        if x.rv = CKR_OK ∨ x.rv = CKR_ATTRIBUTE_SENSITIVE ∨ x.rv = CKR_BUFFER_TOO_SMALL then
          templateCopies p decrypt m rs
        else []

/-! ### Entries on their own -/

variable (p : P11Object) (decrypt : ByteString → Option ByteString) (m : AttributeMap)

/-- What comes of an entry by itself. -/
def alone (r : Request) : Retrieved :=
  match p.attributeOf r.type with
  | none => ⟨CKR_ATTRIBUTE_TYPE_INVALID, CK_UNAVAILABLE_INFORMATION, .nothing⟩
  | some a => a.retrieve decrypt (isPrivate m) r m

/-- The length of the value that an entry asks for. -/
def exactLength (r : Request) : Option ℕ := do
  let a ← p.attributeOf r.type
  let attr ← OrderedMap.get a.type m
  a.attrSize decrypt (isPrivate m) attr

/-- A template is answered entry by entry: each as it would be by itself, with copies that fit, and
with a length that is exact or not available. -/
structure Answered (pTemplate : List Request) : Prop where
  alone : (p.loadTemplate decrypt pTemplate m).2 = pTemplate.map (alone p decrypt m)
  copies : ∀ c ∈ templateCopies p decrypt m pTemplate, c.Fits
  length : ∀ r ∈ pTemplate,
    (Retrieval.alone p decrypt m r).ulValueLen = CK_UNAVAILABLE_INFORMATION ∨
      exactLength p decrypt m r = some (Retrieval.alone p decrypt m r).ulValueLen

/-! ### What ends the loop -/

/-- The elements of a list up to one that has not a property, each with the rest behind it. -/
def Reached {α : Type} (P : α → Prop) (l : List α) (a : α) (rest : List α) : Prop :=
  ∃ before, l = before ++ a :: rest ∧ ∀ b ∈ before, P b

/-- An element names a value that fits into what it has room for. -/
def Served (map : AttributeMap) (e : Element) : Prop :=
  ∃ v, simpleAt e.type map = some v ∧ v.length ≤ e.ulValueLen

/-- The values of a template are asked for: one of the elements has a buffer. -/
def ValuesAsked (array : List Element) (map : AttributeMap) : Prop :=
  ∃ e ∈ array.take map.length, e.hasBuffer = true

/-- A value is copied to an element that has no buffer. -/
def CopiesToNull (array : List Element) (map : AttributeMap) : Prop :=
  ValuesAsked array map ∧ ∃ e rest v, Reached (Served map) (array.take map.length) e rest ∧
    simpleAt e.type map = some v ∧ v.length ≤ e.ulValueLen ∧ v ≠ [] ∧ e.hasBuffer = false

/-- A template is refused: the sizes because of a value that is none of the three simple ones, or
the values because of an element that names no simple one. -/
def RefusesTemplate (array : List Element) (map : AttributeMap) : Prop :=
  (¬ ValuesAsked array map ∧ ∃ x ∈ map.take array.length, simpleValue x.2 = none) ∨
  (ValuesAsked array map ∧ ∃ e rest, Reached (Served map) (array.take map.length) e rest ∧
    simpleAt e.type map = none)

/-- An entry is for a template that may be shown, and has room for its elements. -/
def EntersTemplate (r : Request) (map : AttributeMap) : Prop :=
  ∃ a, p.attributeOf r.type = some a ∧ a.hidden m = false ∧
    OrderedMap.get a.type m = some (.attributeMap map) ∧ r.hasBuffer = true ∧
    map.length * sizeof_CK_ATTRIBUTE ≤ r.ulValueLen

/-- An entry is for a byte string that may be shown but cannot be decrypted. -/
def Unreadable (r : Request) : Prop :=
  ∃ a stored, p.attributeOf r.type = some a ∧ a.hidden m = false ∧
    OrderedMap.get a.type m = some (.byteString stored) ∧
    a.plain decrypt (isPrivate m) stored = none

/-- An entry ends the loop over the template. -/
def EndsLoop (r : Request) : Prop :=
  Unreadable p decrypt m r ∨ ∃ map, EntersTemplate p m r map ∧ RefusesTemplate r.array map

/-- Of the entries up to the first that ends the loop none makes a copy to a null pointer; and if
one ends the loop, it is the last, and where it cannot be read it has no length yet. -/
def Regular (pTemplate : List Request) : Prop :=
  ∀ r rest, Reached (fun r => ¬ EndsLoop p decrypt m r) pTemplate r rest →
    (∀ map, EntersTemplate p m r map → ¬ CopiesToNull r.array map) ∧
    (EndsLoop p decrypt m r →
      rest = [] ∧ (Unreadable p decrypt m r → r.ulValueLen = CK_UNAVAILABLE_INFORMATION))

/-! ### Elements of a template -/

section reached

variable {α : Type} {P : α → Prop} {l rest : List α} {a b : α}

lemma not_reached_nil : ¬ Reached P [] a rest := by
  rintro ⟨before, h, -⟩
  cases before <;> cases h

lemma reached_cons : Reached P (b :: l) a rest ↔ a = b ∧ rest = l ∨ P b ∧ Reached P l a rest := by
  constructor
  · rintro ⟨_ | ⟨c, before⟩, h, hall⟩
    · cases h
      exact .inl ⟨rfl, rfl⟩
    · cases h
      exact .inr ⟨hall _ (List.mem_cons_self ..), before, rfl,
        fun x hx => hall x (List.mem_cons_of_mem _ hx)⟩
  · rintro (⟨rfl, rfl⟩ | ⟨hb, before, rfl, hall⟩)
    · exact ⟨[], rfl, fun _ h => nomatch h⟩
    · exact ⟨b :: before, rfl, List.forall_mem_cons.2 ⟨hb, hall⟩⟩

end reached

/-- An answer that ends the loop over a template. -/
def Ends (rv : CK_RV) : Prop :=
  ¬ (rv = CKR_OK ∨ rv = CKR_ATTRIBUTE_SENSITIVE ∨ rv = CKR_BUFFER_TOO_SMALL)

section elements

variable {map : AttributeMap} {n : ℕ} {es : List Element}

lemma mapValues_served {e : Element} {v : ByteString} (hv : simpleAt e.type map = some v)
    (hle : v.length ≤ e.ulValueLen) :
    (mapValues map (n + 1) (e :: es)).1 = (mapValues map n es).1 ∧
      mapCopies map (n + 1) (e :: es) =
        ⟨e.hasBuffer, e.ulValueLen, v.length⟩ :: mapCopies map n es := by
  constructor
  · obtain ⟨attr, hget, hs⟩ := Option.bind_eq_some_iff.1 hv
    rw [mapValues, hget]
    dsimp only
    rw [hs]
    dsimp only
    rw [if_neg (Nat.not_lt.2 hle)]
  · rw [mapCopies, hv]
    dsimp only
    rw [if_neg (Nat.not_lt.2 hle)]

lemma mapValues_short {e : Element} {v : ByteString} (hv : simpleAt e.type map = some v)
    (hlt : e.ulValueLen < v.length) :
    (mapValues map (n + 1) (e :: es)).1 = CKR_BUFFER_TOO_SMALL ∧
      mapCopies map (n + 1) (e :: es) = [] := by
  constructor
  · obtain ⟨attr, hget, hs⟩ := Option.bind_eq_some_iff.1 hv
    rw [mapValues, hget]
    dsimp only
    rw [hs]
    dsimp only
    rw [if_pos hlt]
  · rw [mapCopies, hv]
    dsimp only
    rw [if_pos hlt]

lemma mapValues_unnamed {e : Element} (hv : simpleAt e.type map = none) :
    Ends (mapValues map (n + 1) (e :: es)).1 ∧ mapCopies map (n + 1) (e :: es) = [] := by
  constructor
  · rw [mapValues]
    rcases Option.bind_eq_none_iff.1 hv with h
    cases hget : OrderedMap.get e.type map with
    | none => simp [Ends]
    | some attr =>
      dsimp only
      rw [h attr hget]
      simp [Ends]
  · rw [mapCopies, hv]

lemma not_served_of_none {e : Element} (h : simpleAt e.type map = none) : ¬ Served map e := by
  rintro ⟨v, hv, -⟩
  rw [h] at hv
  cases hv

/-- **The loop over the elements** ends the one over the entries at an element that is reached and
names no simple value. -/
lemma ends_mapValues : Ends (mapValues map n es).1 ↔
    ∃ e rest, Reached (Served map) (es.take n) e rest ∧ simpleAt e.type map = none := by
  induction n generalizing es with
  | zero =>
    have hok : (mapValues map 0 es).1 = CKR_OK := by rw [mapValues]; simp
    rw [hok]
    refine iff_of_false (by simp [Ends]) ?_
    rintro ⟨e, rest, hr, -⟩
    exact not_reached_nil hr
  | succ n ih =>
    cases es with
    | nil =>
      have hok : (mapValues map (n + 1) []).1 = CKR_OK := by rw [mapValues]; simp
      rw [hok]
      refine iff_of_false (by simp [Ends]) ?_
      rintro ⟨e, rest, hr, -⟩
      exact not_reached_nil hr
    | cons e es =>
      rw [List.take_succ_cons]
      cases hv : simpleAt e.type map with
      | none =>
        exact iff_of_true (mapValues_unnamed hv).1 ⟨e, _, reached_cons.2 (.inl ⟨rfl, rfl⟩), hv⟩
      | some v =>
        by_cases hle : v.length ≤ e.ulValueLen
        · rw [(mapValues_served hv hle).1, ih]
          constructor
          · rintro ⟨e', rest, hr, hn⟩
            exact ⟨e', rest, reached_cons.2 (.inr ⟨⟨v, hv, hle⟩, hr⟩), hn⟩
          · rintro ⟨e', rest, hr, hn⟩
            rcases reached_cons.1 hr with ⟨rfl, -⟩ | ⟨-, hr⟩
            · rw [hv] at hn
              cases hn
            · exact ⟨e', rest, hr, hn⟩
        · rw [(mapValues_short hv (Nat.not_le.1 hle)).1]
          refine iff_of_false (by simp [Ends]) ?_
          rintro ⟨e', rest, hr, hn⟩
          rcases reached_cons.1 hr with ⟨rfl, -⟩ | ⟨⟨w, hw, hwle⟩, -⟩
          · rw [hv] at hn
            cases hn
          · rw [hv] at hw
            cases hw
            exact hle hwle

/-- **A copy to an element** is that of its value, where the loop comes to it. -/
lemma mem_mapCopies {c : Copy} : c ∈ mapCopies map n es ↔
    ∃ e rest v, Reached (Served map) (es.take n) e rest ∧ simpleAt e.type map = some v ∧
      v.length ≤ e.ulValueLen ∧ c = ⟨e.hasBuffer, e.ulValueLen, v.length⟩ := by
  induction n generalizing es with
  | zero =>
    rw [mapCopies]
    · refine iff_of_false (by simp) ?_
      rintro ⟨e, rest, v, hr, -⟩
      exact not_reached_nil hr
    · simp
  | succ n ih =>
    cases es with
    | nil =>
      rw [mapCopies]
      · refine iff_of_false (by simp) ?_
        rintro ⟨e, rest, v, hr, -⟩
        exact not_reached_nil hr
      · simp
    | cons e es =>
      rw [List.take_succ_cons]
      cases hv : simpleAt e.type map with
      | none =>
        rw [(mapValues_unnamed hv).2]
        refine iff_of_false (by simp) ?_
        rintro ⟨e', rest, w, hr, hw, -⟩
        rcases reached_cons.1 hr with ⟨rfl, -⟩ | ⟨hs, -⟩
        · rw [hv] at hw
          cases hw
        · exact not_served_of_none hv hs
      | some v =>
        by_cases hle : v.length ≤ e.ulValueLen
        · rw [(mapValues_served hv hle).2, List.mem_cons, ih]
          constructor
          · rintro (rfl | ⟨e', rest, w, hr, h⟩)
            · exact ⟨e, _, v, reached_cons.2 (.inl ⟨rfl, rfl⟩), hv, hle, rfl⟩
            · exact ⟨e', rest, w, reached_cons.2 (.inr ⟨⟨v, hv, hle⟩, hr⟩), h⟩
          · rintro ⟨e', rest, w, hr, hw, hwle, rfl⟩
            rcases reached_cons.1 hr with ⟨rfl, -⟩ | ⟨-, hr⟩
            · rw [hv] at hw
              cases hw
              exact .inl rfl
            · exact .inr ⟨e', rest, w, hr, hw, hwle, rfl⟩
        · rw [(mapValues_short hv (Nat.not_le.1 hle)).2]
          refine iff_of_false (by simp) ?_
          rintro ⟨e', rest, w, hr, hw, hwle, -⟩
          rcases reached_cons.1 hr with ⟨rfl, -⟩ | ⟨⟨w', hw', hwle'⟩, -⟩
          · rw [hv] at hw
            cases hw
            exact hle hwle
          · rw [hv] at hw'
            cases hw'
            exact hle hwle'

/-- **The sizes** are refused where a value is none of the simple ones. -/
lemma ends_mapSizes : Ends (mapSizes es map).1 ↔
    ∃ x ∈ map.take es.length, simpleValue x.2 = none := by
  induction es generalizing map with
  | nil =>
    have hok : (mapSizes [] map).1 = CKR_OK := by cases map <;> rfl
    rw [hok]
    exact iff_of_false (by simp [Ends]) (by simp)
  | cons e es ih =>
    cases map with
    | nil => exact iff_of_false (by simp [Ends, mapSizes]) (by simp)
    | cons x map =>
      obtain ⟨type, attr⟩ := x
      rw [mapSizes, List.length_cons, List.take_succ_cons]
      cases hs : simpleValue attr with
      | none => exact iff_of_true (by simp [Ends]) ⟨_, List.mem_cons_self .., hs⟩
      | some v => simp [ih, hs]

lemma all_null_iff : ((es.take map.length).all fun e => !e.hasBuffer) = true ↔
    ¬ ValuesAsked es map := by
  simp [ValuesAsked]

/-- **A template** ends the loop over the entries where it is refused. -/
lemma ends_retrieveAttributeMap :
    Ends (retrieveAttributeMap es map).1 ↔ RefusesTemplate es map := by
  rw [retrieveAttributeMap, RefusesTemplate]
  by_cases h : ValuesAsked es map
  · rw [if_neg (fun hn => all_null_iff.1 hn h), ends_mapValues]
    simp [h]
  · rw [if_pos (all_null_iff.2 h), ends_mapSizes]
    simp [h]

/-- Its copies fit where none is to a null pointer. -/
lemma elementCopies_fit :
    (∀ c ∈ elementCopies es map, c.Fits) ↔ ¬ CopiesToNull es map := by
  rw [elementCopies, CopiesToNull]
  by_cases h : ValuesAsked es map
  · rw [if_neg (fun hn => all_null_iff.1 hn h)]
    constructor
    · rintro hall ⟨-, e, rest, v, hr, hv, hle, hne, hnull⟩
      rcases hall _ (mem_mapCopies.2 ⟨e, rest, v, hr, hv, hle, rfl⟩) with h0 | ⟨hbuf, -⟩
      · exact hne (List.length_eq_zero_iff.1 h0)
      · rw [show e.hasBuffer = true from hbuf] at hnull
        cases hnull
    · intro hno c hc
      obtain ⟨e, rest, v, hr, hv, hle, rfl⟩ := mem_mapCopies.1 hc
      by_cases hne : v = []
      · exact .inl (by rw [hne]; rfl)
      · cases hb : e.hasBuffer with
        | false => exact absurd ⟨h, e, rest, v, hr, hv, hle, hne, hb⟩ hno
        | true => exact .inr ⟨rfl, hle⟩
  · rw [if_pos (all_null_iff.2 h)]
    simp [h]

end elements

/-! ### One entry -/

section entry

variable {p : P11Object} {decrypt : ByteString → Option ByteString} {m : AttributeMap}
  {a : P11Attribute} {attr : OSAttribute} {r : Request} {map : AttributeMap}

/-- An attribute that is no Boolean and no number is of any size. -/
lemma size_eq_none (hk : SameKind attr a.default) (hf : sizeFits a = true)
    (hb : ∀ b, attr ≠ .boolean b) (hu : ∀ v, attr ≠ .unsignedLong v) : a.size = none := by
  unfold sizeFits at hf
  cases attr with
  | boolean b => exact absurd rfl (hb b)
  | unsignedLong v => exact absurd rfl (hu v)
  | byteString v =>
    cases hd : a.default <;> rw [hd] at hk hf <;> first | exact hk.elim | simpa using hf
  | mechanismTypeSet v =>
    cases hd : a.default <;> rw [hd] at hk hf <;> first | exact hk.elim | simpa using hf
  | attributeMap v =>
    cases hd : a.default <;> rw [hd] at hk hf <;> first | exact hk.elim | simpa using hf

/-- The bytes that a value is copied as, where it is no template. -/
def shownBytes (decrypt : ByteString → Option ByteString) (isPrivate : Bool) (a : P11Attribute) :
    OSAttribute → Option ByteString
  | .mechanismTypeSet value => some ((File.mechanismTypes value).flatMap ulongBytes)
  | attr => shownValue a decrypt isPrivate attr

/-- **A value that is no template** has the size of its bytes, which are copied. -/
lemma size_and_copy (hk : SameKind attr a.default) (hf : sizeFits a = true)
    (hm : ∀ map, attr ≠ .attributeMap map) (isPrivate : Bool) (array : List Element) :
    a.attrSize decrypt isPrivate attr =
        (shownBytes decrypt isPrivate a attr).map List.length ∧
      a.copy decrypt isPrivate attr array =
        (shownBytes decrypt isPrivate a attr).map fun v => (CKR_OK, .bytes v) := by
  cases attr with
  | boolean b => exact ⟨attrSize_eq rfl hk hf, copy_eq rfl array⟩
  | unsignedLong v => exact ⟨attrSize_eq rfl hk hf, copy_eq rfl array⟩
  | byteString stored => exact ⟨attrSize_eq rfl hk hf, copy_eq rfl array⟩
  | mechanismTypeSet value =>
    have hsize := size_eq_none hk hf (fun b h => by cases h) fun v h => by cases h
    refine ⟨?_, rfl⟩
    rw [P11Attribute.attrSize, hsize, shownBytes, Option.map_some, length_flatMap_ulongBytes,
      File.mechanismTypes, Finset.length_sort]
  | attributeMap map => exact absurd rfl (hm map)

lemma plain_of_shownBytes (hm : ∀ map, attr ≠ .attributeMap map) {isPrivate : Bool}
    (h : shownBytes decrypt isPrivate a attr = none) :
    ∃ stored, attr = .byteString stored ∧ a.plain decrypt isPrivate stored = none := by
  cases attr with
  | byteString stored => exact ⟨stored, rfl, h⟩
  | attributeMap map => exact absurd rfl (hm map)
  | boolean b => cases h
  | unsignedLong v => cases h
  | mechanismTypeSet value => cases h

section present

variable (ha : p.attributeOf r.type = some a) (hget : OrderedMap.get a.type m = some attr)
  (hk : SameKind attr a.default) (hf : sizeFits a = true)

include ha hget

lemma not_entersTemplate (hm : ∀ map, attr ≠ .attributeMap map) : ¬ EntersTemplate p m r map := by
  rintro ⟨a', ha', -, hget', -⟩
  rw [ha] at ha'
  cases ha'
  rw [hget] at hget'
  exact hm map (Option.some.inj hget')

lemma not_unreadable (hs : ∀ stored, attr ≠ .byteString stored) : ¬ Unreadable p decrypt m r := by
  rintro ⟨a', stored, ha', -, hget', -⟩
  rw [ha] at ha'
  cases ha'
  rw [hget] at hget'
  exact hs stored (Option.some.inj hget')

include hk hf

/-- **What comes of an entry** whose attribute is there: whether it ends the loop, whether its
copies fit, and that its length is exact or not available but where it cannot be read. -/
lemma retrieve_spec :
    (Ends (a.retrieve decrypt (isPrivate m) r m).rv ↔ EndsLoop p decrypt m r) ∧
    ((∀ c ∈ attributeCopies decrypt (isPrivate m) a r m, c.Fits) ↔
      ∀ map, EntersTemplate p m r map → ¬ CopiesToNull r.array map) ∧
    (((a.retrieve decrypt (isPrivate m) r m).ulValueLen = CK_UNAVAILABLE_INFORMATION ∨
        a.attrSize decrypt (isPrivate m) attr =
          some (a.retrieve decrypt (isPrivate m) r m).ulValueLen) ↔
      (Unreadable p decrypt m r → r.ulValueLen = CK_UNAVAILABLE_INFORMATION)) := by
  cases hh : a.hidden m with
  | true =>
    have hno : ∀ map, ¬ EntersTemplate p m r map := by
      rintro map ⟨a', ha', hhid, -⟩
      rw [ha] at ha'
      cases ha'
      rw [hh] at hhid
      cases hhid
    have hun : ¬ Unreadable p decrypt m r := by
      rintro ⟨a', stored, ha', hhid, -⟩
      rw [ha] at ha'
      cases ha'
      rw [hh] at hhid
      cases hhid
    rw [P11Attribute.retrieve, if_pos hh, attributeCopies, if_pos hh]
    refine ⟨iff_of_false (by simp [Ends]) ?_, iff_of_true (by simp) fun map h => absurd h (hno map),
      iff_of_true (.inl rfl) fun h => absurd h hun⟩
    rintro (h | ⟨map, h, -⟩)
    · exact hun h
    · exact hno map h
  | false =>
    have hhid : ¬ a.hidden m = true := by rw [hh]; exact Bool.false_ne_true
    by_cases hm : ∃ map, attr = .attributeMap map
    · obtain ⟨map, rfl⟩ := hm
      have hun : ¬ Unreadable p decrypt m r := not_unreadable ha hget fun stored h => by cases h
      have hsize : a.attrSize decrypt (isPrivate m) (.attributeMap map) =
          some (map.length * sizeof_CK_ATTRIBUTE) := by
        rw [P11Attribute.attrSize, size_eq_none hk hf (fun b h => by cases h) fun v h => by cases h]
      have henters : ∀ map', EntersTemplate p m r map' ↔
          map' = map ∧ r.hasBuffer = true ∧ map.length * sizeof_CK_ATTRIBUTE ≤ r.ulValueLen := by
        intro map'
        constructor
        · rintro ⟨a', ha', -, hget', hbuf, hroom⟩
          rw [ha] at ha'
          cases ha'
          rw [hget] at hget'
          cases hget'
          exact ⟨rfl, hbuf, hroom⟩
        · rintro ⟨rfl, hbuf, hroom⟩
          exact ⟨a, ha, hh, hget, hbuf, hroom⟩
      rw [P11Attribute.retrieve, if_neg hhid, hget, attributeCopies, if_neg hhid, hget]
      dsimp only
      rw [hsize]
      dsimp only
      cases hbuf : r.hasBuffer with
      | false =>
        refine ⟨iff_of_false (by simp [Ends]) ?_, iff_of_true (by simp) fun map' h => ?_,
          iff_of_true (.inr (by simp)) fun h => absurd h hun⟩
        · rintro (h | ⟨map', h, -⟩)
          · exact hun h
          · have := ((henters map').1 h).2.1
            rw [hbuf] at this
            cases this
        · have := ((henters map').1 h).2.1
          rw [hbuf] at this
          cases this
      | true =>
        by_cases hroom : map.length * sizeof_CK_ATTRIBUTE ≤ r.ulValueLen
        · simp only [Bool.not_true, Bool.false_eq_true, if_false, if_pos hroom, P11Attribute.copy]
          refine ⟨?_, ?_, iff_of_true (by simp) fun h => absurd h hun⟩
          · rw [ends_retrieveAttributeMap]
            constructor
            · intro h
              exact .inr ⟨map, (henters map).2 ⟨rfl, hbuf, hroom⟩, h⟩
            · rintro (h | ⟨map', h, href⟩)
              · exact absurd h hun
              · obtain ⟨rfl, -⟩ := (henters map').1 h
                exact href
          · rw [List.forall_mem_cons, elementCopies_fit]
            constructor
            · rintro ⟨-, h⟩ map' hmap'
              obtain ⟨rfl, -⟩ := (henters map').1 hmap'
              exact h
            · intro h
              exact ⟨.inr ⟨rfl, hroom⟩, h map ((henters map).2 ⟨rfl, hbuf, hroom⟩)⟩
        · simp only [Bool.not_true, Bool.false_eq_true, if_false, if_neg hroom]
          refine ⟨iff_of_false (by simp [Ends]) ?_, iff_of_true (by simp) fun map' h => ?_,
            iff_of_true (by simp) fun h => absurd h hun⟩
          · rintro (h | ⟨map', h, -⟩)
            · exact hun h
            · exact hroom ((henters map').1 h).2.2
          · exact absurd ((henters map').1 h).2.2 hroom
    · have hm : ∀ map, attr ≠ .attributeMap map := fun map h => hm ⟨map, h⟩
      obtain ⟨hsize, hcopy⟩ := size_and_copy hk hf hm (isPrivate m) r.array
      have hno : ∀ map, ¬ EntersTemplate p m r map := fun map => not_entersTemplate ha hget hm
      rw [P11Attribute.retrieve, if_neg hhid, hget, attributeCopies, if_neg hhid, hget]
      dsimp only
      rw [hsize]
      cases hv : shownBytes decrypt (isPrivate m) a attr with
      | none =>
        obtain ⟨stored, rfl, hplain⟩ := plain_of_shownBytes hm hv
        have hun : Unreadable p decrypt m r := ⟨a, stored, ha, hh, hget, hplain⟩
        refine ⟨iff_of_true (by simp [Ends]) (.inl hun),
          iff_of_true (by simp) fun map h => absurd h (hno map), ?_⟩
        simp [hun]
      | some v =>
        have hun : ¬ Unreadable p decrypt m r := by
          rintro ⟨a', stored, ha', -, hget', hplain⟩
          rw [ha] at ha'
          cases ha'
          rw [hget] at hget'
          cases hget'
          have hshown : shownBytes decrypt (isPrivate m) a (.byteString stored) =
              a.plain decrypt (isPrivate m) stored := rfl
          rw [hshown, hplain] at hv
          cases hv
        have hnoend : ¬ EndsLoop p decrypt m r := by
          rintro (h | ⟨map, h, -⟩)
          · exact hun h
          · exact hno map h
        rw [Option.map_some]
        dsimp only
        cases hbuf : r.hasBuffer with
        | false =>
          exact ⟨iff_of_false (by simp [Ends]) hnoend,
            iff_of_true (by simp) fun map h => absurd h (hno map),
            iff_of_true (.inr rfl) fun h => absurd h hun⟩
        | true =>
          by_cases hroom : v.length ≤ r.ulValueLen
          · simp only [Bool.not_true, Bool.false_eq_true, if_false, if_pos hroom, hcopy, hv,
              Option.map_some]
            refine ⟨iff_of_false (by simp [Ends]) hnoend,
              iff_of_true ?_ fun map h => absurd h (hno map),
              iff_of_true (by simp) fun h => absurd h hun⟩
            intro c hc
            cases attr with
            | attributeMap map => exact absurd rfl (hm map)
            | _ =>
              obtain rfl := List.mem_singleton.1 hc
              exact .inr ⟨rfl, hroom⟩
          · simp only [Bool.not_true, Bool.false_eq_true, if_false, if_neg hroom]
            exact ⟨iff_of_false (by simp [Ends]) hnoend,
              iff_of_true (by simp) fun map h => absurd h (hno map),
              iff_of_true (by simp) fun h => absurd h hun⟩

end present

end entry

/-! ### All entries -/

section template

variable {p : P11Object} {decrypt : ByteString → Option ByteString} {m : AttributeMap} {c : UInt64}
  {r : Request} {rs : List Request}

/-- The copies of one entry. -/
def entryCopies (p : P11Object) (decrypt : ByteString → Option ByteString) (m : AttributeMap)
    (r : Request) : List Copy :=
  match p.attributeOf r.type with
  | none => []
  | some a => attributeCopies decrypt (isPrivate m) a r m

lemma loadTemplate_results (T : List Request) :
    (p.loadTemplate decrypt T m).2 = (p.retrieveAll decrypt m T).2 := by
  rw [P11Object.loadTemplate]
  rcases p.retrieveAll decrypt m T with ⟨_ | _, l⟩ <;> rfl

lemma not_endsLoop_of_none (h : p.attributeOf r.type = none) : ¬ EndsLoop p decrypt m r := by
  rintro (⟨a, stored, ha, -⟩ | ⟨map, ⟨a, ha, -⟩, -⟩)
  · rw [h] at ha
    cases ha
  · rw [h] at ha
    cases ha

section complete

variable (hp : (c, p) ∈ kinds)
  (hall : ∀ a ∈ p.attributes, ∃ attr, OrderedMap.get a.type m = some attr ∧ SameKind attr a.default)

include hp hall

/-- **One entry**: whether its copies fit, and whether its length is right. -/
lemma entry_spec (r : Request) :
    ((∀ c ∈ entryCopies p decrypt m r, c.Fits) ↔
      ∀ map, EntersTemplate p m r map → ¬ CopiesToNull r.array map) ∧
    (((alone p decrypt m r).ulValueLen = CK_UNAVAILABLE_INFORMATION ∨
        exactLength p decrypt m r = some (alone p decrypt m r).ulValueLen) ↔
      (Unreadable p decrypt m r → r.ulValueLen = CK_UNAVAILABLE_INFORMATION)) := by
  cases ha : p.attributeOf r.type with
  | none =>
    rw [entryCopies, ha, alone, ha]
    refine ⟨iff_of_true (by simp) ?_, iff_of_true (.inl rfl) ?_⟩
    · rintro map ⟨a, ha', -⟩
      rw [ha] at ha'
      cases ha'
    · rintro ⟨a, stored, ha', -⟩
      rw [ha] at ha'
      cases ha'
  | some a =>
    obtain ⟨hmem, -⟩ := attributeOf_some ha
    obtain ⟨attr, hget, hk⟩ := hall a hmem
    obtain ⟨-, hcopies, hlength⟩ :=
      retrieve_spec ha hget hk (sizeFits_table _ hp a hmem)
    rw [entryCopies, ha, alone, ha, exactLength, ha]
    refine ⟨hcopies, ?_⟩
    rw [← hlength]
    simp [hget]

/-- **An entry that ends the loop** is the last one that is looked at. -/
lemma retrieveAll_of_ends (h : EndsLoop p decrypt m r) :
    p.retrieveAll decrypt m (r :: rs) = (false, [alone p decrypt m r]) ∧
      templateCopies p decrypt m (r :: rs) = entryCopies p decrypt m r := by
  cases ha : p.attributeOf r.type with
  | none => exact absurd h (not_endsLoop_of_none ha)
  | some a =>
    obtain ⟨hmem, -⟩ := attributeOf_some ha
    obtain ⟨attr, hget, hk⟩ := hall a hmem
    have hends := (retrieve_spec ha hget hk (sizeFits_table _ hp a hmem)).1.2 h
    rw [P11Object.retrieveAll, ha, templateCopies, ha, alone, ha, entryCopies, ha]
    dsimp only
    rw [if_neg hends, if_neg hends, List.append_nil]
    exact ⟨rfl, rfl⟩

/-- **Any other entry** is followed by the rest. -/
lemma retrieveAll_of_not_ends (h : ¬ EndsLoop p decrypt m r) :
    p.retrieveAll decrypt m (r :: rs) =
        ((p.retrieveAll decrypt m rs).1, alone p decrypt m r :: (p.retrieveAll decrypt m rs).2) ∧
      templateCopies p decrypt m (r :: rs) =
        entryCopies p decrypt m r ++ templateCopies p decrypt m rs := by
  cases ha : p.attributeOf r.type with
  | none =>
    rw [P11Object.retrieveAll, ha, templateCopies, ha, alone, ha, entryCopies, ha]
    exact ⟨rfl, rfl⟩
  | some a =>
    obtain ⟨hmem, -⟩ := attributeOf_some ha
    obtain ⟨attr, hget, hk⟩ := hall a hmem
    have hgoes := not_not.1 <|
      mt (retrieve_spec ha hget hk (sizeFits_table _ hp a hmem)).1.1 h
    rw [P11Object.retrieveAll, ha, templateCopies, ha, alone, ha, entryCopies, ha]
    dsimp only
    rw [if_pos hgoes, if_pos hgoes]
    exact ⟨rfl, rfl⟩

lemma answered_of_ends (h : EndsLoop p decrypt m r) : Answered p decrypt m (r :: rs) ↔
    (∀ map, EntersTemplate p m r map → ¬ CopiesToNull r.array map) ∧ rs = [] ∧
      (Unreadable p decrypt m r → r.ulValueLen = CK_UNAVAILABLE_INFORMATION) := by
  obtain ⟨hresults, hcopies⟩ := retrieveAll_of_ends hp hall h
  obtain ⟨hfits, hlength⟩ := entry_spec hp hall r
  constructor
  · intro ha
    refine ⟨hfits.1 (hcopies ▸ ha.copies), ?_, hlength.1 (ha.length r (List.mem_cons_self ..))⟩
    have hone := ha.alone
    rw [loadTemplate_results, hresults, List.map_cons] at hone
    exact List.map_eq_nil_iff.1 (List.cons.inj hone).2.symm
  · rintro ⟨hno, rfl, hun⟩
    refine ⟨?_, hcopies ▸ hfits.2 hno, fun r' hr' => ?_⟩
    · rw [loadTemplate_results, hresults]
      rfl
    · obtain rfl := List.mem_singleton.1 hr'
      exact hlength.2 hun

lemma answered_of_not_ends (h : ¬ EndsLoop p decrypt m r) : Answered p decrypt m (r :: rs) ↔
    (∀ map, EntersTemplate p m r map → ¬ CopiesToNull r.array map) ∧ Answered p decrypt m rs := by
  obtain ⟨hresults, hcopies⟩ := retrieveAll_of_not_ends hp hall h
  obtain ⟨hfits, hlength⟩ := entry_spec hp hall r
  constructor
  · intro ha
    have hboth := ha.copies
    rw [hcopies, List.forall_mem_append] at hboth
    refine ⟨hfits.1 hboth.1, ?_, hboth.2, fun r' hr' => ha.length r' (List.mem_cons_of_mem _ hr')⟩
    have hone := ha.alone
    rw [loadTemplate_results, hresults, List.map_cons] at hone
    rw [loadTemplate_results]
    exact (List.cons.inj hone).2
  · rintro ⟨hno, ha⟩
    refine ⟨?_, ?_, List.forall_mem_cons.2 ⟨hlength.2 fun hun => absurd (.inl hun) h, ha.length⟩⟩
    · have hone := ha.alone
      rw [loadTemplate_results] at hone
      rw [loadTemplate_results, hresults, hone, List.map_cons]
    · rw [hcopies, List.forall_mem_append]
      exact ⟨hfits.2 hno, ha.copies⟩

/-- **A template is answered entry by entry** exactly if it is regular. -/
theorem answered_iff (T : List Request) : Answered p decrypt m T ↔ Regular p decrypt m T := by
  induction T with
  | nil =>
    refine iff_of_true ⟨rfl, fun c hc => ?_, fun r hr => ?_⟩ fun r rest hr => ?_
    · cases hc
    · cases hr
    · exact absurd hr not_reached_nil
  | cons r rs ih =>
    by_cases h : EndsLoop p decrypt m r
    · rw [answered_of_ends hp hall h]
      constructor
      · rintro ⟨hno, hlast, hun⟩ r' rest hr
        rcases reached_cons.1 hr with ⟨rfl, rfl⟩ | ⟨hgoes, -⟩
        · exact ⟨hno, fun _ => ⟨hlast, hun⟩⟩
        · exact absurd h hgoes
      · intro hreg
        obtain ⟨hno, hlast⟩ := hreg r rs (reached_cons.2 (.inl ⟨rfl, rfl⟩))
        exact ⟨hno, hlast h⟩
    · rw [answered_of_not_ends hp hall h, ih]
      constructor
      · rintro ⟨hno, hreg⟩ r' rest hr
        rcases reached_cons.1 hr with ⟨rfl, rfl⟩ | ⟨-, hr⟩
        · exact ⟨hno, fun hends => absurd hends h⟩
        · exact hreg r' rest hr
      · intro hreg
        exact ⟨(hreg r rs (reached_cons.2 (.inl ⟨rfl, rfl⟩))).1,
          fun r' rest hr => hreg r' rest (reached_cons.2 (.inr ⟨h, hr⟩))⟩

end complete

/-! ### Calls that succeed -/

lemma alone_of_none (h : p.attributeOf r.type = none) :
    alone p decrypt m r = ⟨CKR_ATTRIBUTE_TYPE_INVALID, CK_UNAVAILABLE_INFORMATION, .nothing⟩ := by
  rw [alone, h]

lemma alone_of_some {a : P11Attribute} (h : p.attributeOf r.type = some a) :
    alone p decrypt m r = a.retrieve decrypt (isPrivate m) r m := by
  rw [alone, h]

/-- A loop that comes to its end has come to every entry, and each has one of four answers. -/
lemma retrieveAll_true {T : List Request} (h : (p.retrieveAll decrypt m T).1 = true) :
    (p.retrieveAll decrypt m T).2 = T.map (alone p decrypt m) ∧
      ∀ r ∈ T, (alone p decrypt m r).rv = CKR_ATTRIBUTE_TYPE_INVALID ∨
        ¬ Ends (alone p decrypt m r).rv := by
  induction T with
  | nil => exact ⟨rfl, fun _ h => nomatch h⟩
  | cons r rs ih =>
    cases ha : p.attributeOf r.type with
    | none =>
      rw [P11Object.retrieveAll, ha] at h
      obtain ⟨hl, hrv⟩ := ih h
      rw [P11Object.retrieveAll, ha, List.map_cons, alone_of_none ha, ← hl]
      refine ⟨rfl, List.forall_mem_cons.2 ⟨.inl ?_, hrv⟩⟩
      rw [alone_of_none ha]
    | some a =>
      rw [P11Object.retrieveAll, ha] at h
      dsimp only at h
      split at h
      · rename_i hgoes
        obtain ⟨hl, hrv⟩ := ih h
        rw [P11Object.retrieveAll, ha, List.map_cons, alone_of_some ha, ← hl]
        dsimp only
        rw [if_pos hgoes]
        refine ⟨rfl, List.forall_mem_cons.2 ⟨.inr ?_, hrv⟩⟩
        rw [alone_of_some ha]
        exact not_not.2 hgoes
      · cases h

lemma retrieveAll_of_ok {T : List Request} (h : ∀ r ∈ T, (alone p decrypt m r).rv = CKR_OK) :
    p.retrieveAll decrypt m T = (true, T.map (alone p decrypt m)) := by
  induction T with
  | nil => rfl
  | cons r rs ih =>
    obtain ⟨hr, hrs⟩ := List.forall_mem_cons.1 h
    cases ha : p.attributeOf r.type with
    | none =>
      rw [alone_of_none ha] at hr
      cases hr
    | some a =>
      rw [alone_of_some ha] at hr
      rw [P11Object.retrieveAll, ha, List.map_cons, alone_of_some ha, ih hrs]
      dsimp only
      rw [if_pos (.inl hr)]

/-- **A call succeeds** exactly if every entry does by itself. -/
lemma loadTemplate_ok_iff {T : List Request} : (p.loadTemplate decrypt T m).1 = CKR_OK ↔
    ∀ r ∈ T, (alone p decrypt m r).rv = CKR_OK := by
  constructor
  · intro h r hr
    rw [P11Object.loadTemplate] at h
    cases hall : p.retrieveAll decrypt m T with
    | mk ok l =>
      rw [hall] at h
      cases ok with
      | false => cases h
      | true =>
        obtain ⟨hl, hrv⟩ := retrieveAll_true (congrArg Prod.fst hall)
        rw [hall] at hl
        dsimp only at h hl
        have hmem : alone p decrypt m r ∈ l := hl ▸ List.mem_map_of_mem hr
        split_ifs at h with h1 h2 h3
        rcases hrv r hr with hi | hgoes
        · exact absurd (List.any_eq_true.2 ⟨_, hmem, by simp [hi]⟩) h2
        · rcases not_not.1 hgoes with hok | hs | hb
          · exact hok
          · exact absurd (List.any_eq_true.2 ⟨_, hmem, by simp [hs]⟩) h1
          · exact absurd (List.any_eq_true.2 ⟨_, hmem, by simp [hb]⟩) h3
  · intro h
    have hnone : ∀ rv, rv ≠ CKR_OK → (T.map (alone p decrypt m)).any (·.rv = rv) = false := by
      intro rv hne
      rw [List.any_eq_false]
      intro x hx
      obtain ⟨r, hr, rfl⟩ := List.mem_map.1 hx
      simpa [h r hr] using hne.symm
    rw [P11Object.loadTemplate, retrieveAll_of_ok h]
    dsimp only
    rw [hnone _ (by decide), hnone _ (by decide), hnone _ (by decide)]
    rfl

lemma loadTemplate_of_ok {T : List Request} (h : ∀ r ∈ T, (alone p decrypt m r).rv = CKR_OK) :
    (p.loadTemplate decrypt T m).2 = T.map (alone p decrypt m) := by
  rw [loadTemplate_results, retrieveAll_of_ok h]

end template

end SoftHSM.Retrieval
