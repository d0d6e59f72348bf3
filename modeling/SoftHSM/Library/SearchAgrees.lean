import SoftHSM.HandleMgr.Rep
import SoftHSM.Library.Kinds
import SoftHSM.Library.Search

/-!
Searching against reading: what `C_GetAttributeValue` gives for an attribute of a visible object,
searched for with `C_FindObjectsInit`, and what a search finds, read back.
-/

set_option linter.unusedSectionVars false

namespace SoftHSM.Search

open CK_RV P11Object HandleManager

variable {Obj Sess : Type} [DecidableEq Obj] [DecidableEq Sess] {home : Obj → CK_SLOT_ID}

/-! ### The handles of what is found -/

lemma getObject_iff {m : HandleManager Obj Sess} (hm : Rep home m) {h : ℕ} {o : Obj} :
    m.getObject h = some o ↔ m.objects o = some h := by
  rw [hm.objects o h, getObject]
  cases he : m.handles h with
  | none => simp
  | some e => cases e <;> simp [Handle.objectOf]

/-- What `addObject` does: the object has a handle afterwards, and no other handle changes. -/
lemma addObject_spec {m : HandleManager Obj Sess} (hm : Rep home m)
    (hc : m.handleCounter + 1 < 2 ^ 64) {o : Obj} {hSession : ℕ} {x : Sess}
    (hS : m.handles hSession = some (.session (home o) x)) (object : OSObject) :
    ∃ h m', addObject (home o) hSession o object m = (h, m') ∧ h ≠ CK_INVALID_HANDLE ∧
      Rep home m' ∧ m'.getObject h = some o ∧
      (∀ k e, m.handles k = some e → m'.handles k = some e) ∧
      m'.handleCounter ≤ m.handleCounter + 1 := by
  have hvalid : ∀ {m' : HandleManager Obj Sess} {h : ℕ}, Rep home m' → m'.getObject h = some o →
      h ≠ CK_INVALID_HANDLE := by
    intro m' h hm' ho h0
    obtain ⟨e, he, _⟩ := (hm'.objects o h).1 ((getObject_iff hm').1 ho)
    have := (hm'.issued h e he).1
    rw [h0] at this
    exact absurd this (lt_irrefl _)
  unfold addObject
  cases ho : m.objects o with
  | some h =>
    have hreg := hm.registered_of_mem ho
    have hget := (getObject_iff hm).2 ho
    simp only [addTokenObject, addSessionObject, hreg, ite_self]
    exact ⟨h, m, rfl, hvalid hm hget, hm, hget, fun k e he => he, Nat.le_succ _⟩
  | none =>
    obtain ⟨hn, hh⟩ := hm.next hc
    have hreg : m.registered (home o) o = none := by simp [registered, ho]
    have hkeep : ∀ e' k e, m.handles k = some e →
        Function.update m.handles m.nextHandle (some e') k = some e := by
      intro e' k e he
      have hne : k ≠ m.nextHandle := by
        rintro rfl
        rw [hh] at he
        cases he
      rw [Function.update_of_ne hne, he]
    split
    · have hrep := rep_addTokenObject hm hc
        (p := object.attributes.getBooleanValue CKA_PRIVATE true) (o := o)
      simp only [addTokenObject, hreg] at hrep ⊢
      refine ⟨_, _, rfl, ?_, hrep, ?_, hkeep _, le_of_eq hn⟩
      · rw [hn]
        exact Nat.succ_ne_zero _
      · simp [getObject]
    · have hrep := rep_addSessionObject hm hc
        (p := object.attributes.getBooleanValue CKA_PRIVATE true) (o := o) (S := hSession)
        fun _ => ⟨x, hS⟩
      simp only [addSessionObject, hreg] at hrep ⊢
      refine ⟨_, _, rfl, ?_, hrep, ?_, hkeep _, le_of_eq hn⟩
      · rw [hn]
        exact Nat.succ_ne_zero _
      · simp [getObject]

lemma mem_insertHandle {h k : ℕ} {handles : List ℕ} :
    k ∈ insertHandle h handles ↔ k = h ∨ k ∈ handles := by
  unfold insertHandle
  split
  · rename_i hmem
    exact ⟨.inr, fun hk => hk.elim (fun e => e ▸ hmem) id⟩
  · rw [List.mem_orderedInsert]

/-! ### The loop -/

/-- Whether a verdict ends the search. -/
def stops (v : Verdict) : Bool := v = .refused ∨ v = .crash

/-- The first verdict that ends a search over objects. -/
def firstStop (decrypt : ByteString → Option ByteString) (isPublicSession : Bool)
    (pTemplate : List CK_ATTRIBUTE) (object : Obj → OSObject) (objects : List Obj) :
    Option Verdict :=
  ((objects.filter fun o => !skipped isPublicSession (object o)).map fun o =>
    verdict decrypt pTemplate (object o)).find? stops

section loop

variable {decrypt : ByteString → Option ByteString} {isPublicSession : Bool} {slotID hSession : ℕ}
  {T : List CK_ATTRIBUTE} {object : Obj → OSObject} {x : Sess}

lemma firstStop_none_iff {objects : List Obj} :
    firstStop decrypt isPublicSession T object objects = none ↔
      ∀ o ∈ objects, skipped isPublicSession (object o) = false →
        stops (verdict decrypt T (object o)) = false := by
  simp [firstStop]

lemma firstStop_cons (o : Obj) (objects : List Obj) :
    firstStop decrypt isPublicSession T object (o :: objects) =
      if skipped isPublicSession (object o) then
        firstStop decrypt isPublicSession T object objects
      else if stops (verdict decrypt T (object o)) then some (verdict decrypt T (object o))
      else firstStop decrypt isPublicSession T object objects := by
  unfold firstStop
  cases hs : skipped isPublicSession (object o)
  · simp only [List.filter_cons, hs, Bool.not_false, if_true, List.map_cons, List.find?_cons,
      Bool.false_eq_true, if_false]
    cases stops (verdict decrypt T (object o)) <;> rfl
  · simp only [List.filter_cons, hs, Bool.not_true, Bool.false_eq_true, if_false, if_true]

/-- The loop where no verdict ends it: each visible object that matches has a handle. -/
lemma findLoop_ok {objects : List Obj} (hhome : ∀ o ∈ objects, home o = slotID)
    {m : HandleManager Obj Sess} (hm : Rep home m)
    (hc : m.handleCounter + objects.length < 2 ^ 64)
    (hS : m.handles hSession = some (.session slotID x)) (handles : List ℕ)
    (hgo : ∀ o ∈ objects, skipped isPublicSession (object o) = false →
      stops (verdict decrypt T (object o)) = false) :
    ∃ m' handles',
      findLoop decrypt isPublicSession slotID hSession T object objects m handles =
        some (CKR_OK, m', handles') ∧ Rep home m' ∧
      (∀ k e, m.handles k = some e → m'.handles k = some e) ∧
      m'.handleCounter ≤ m.handleCounter + objects.length ∧
      (∀ o ∈ objects, skipped isPublicSession (object o) = false →
        verdict decrypt T (object o) = .matches → ∃ h, m'.getObject h = some o) ∧
      ∀ h, h ∈ handles' ↔ h ∈ handles ∨ ∃ o ∈ objects, skipped isPublicSession (object o) = false ∧
        verdict decrypt T (object o) = .matches ∧ m'.getObject h = some o := by
  induction objects generalizing m handles with
  | nil =>
    exact ⟨m, handles, rfl, hm, fun k e he => he, le_refl _, by simp, fun h => by simp⟩
  | cons o objects ih =>
    rw [List.length_cons] at hc
    have hhome' : ∀ o' ∈ objects, home o' = slotID :=
      fun o' ho' => hhome o' (List.mem_cons_of_mem _ ho')
    have hgo' : ∀ o' ∈ objects, skipped isPublicSession (object o') = false →
        stops (verdict decrypt T (object o')) = false :=
      fun o' ho' => hgo o' (List.mem_cons_of_mem _ ho')
    -- an object that is passed over changes nothing
    have hpass : (skipped isPublicSession (object o) = false →
          verdict decrypt T (object o) ≠ .matches) →
        findLoop decrypt isPublicSession slotID hSession T object (o :: objects) m handles =
          findLoop decrypt isPublicSession slotID hSession T object objects m handles →
        ∃ m' handles',
          findLoop decrypt isPublicSession slotID hSession T object (o :: objects) m handles =
            some (CKR_OK, m', handles') ∧ Rep home m' ∧
          (∀ k e, m.handles k = some e → m'.handles k = some e) ∧
          m'.handleCounter ≤ m.handleCounter + (objects.length + 1) ∧
          (∀ o' ∈ o :: objects, skipped isPublicSession (object o') = false →
            verdict decrypt T (object o') = .matches → ∃ h, m'.getObject h = some o') ∧
          ∀ h, h ∈ handles' ↔ h ∈ handles ∨ ∃ o' ∈ o :: objects,
            skipped isPublicSession (object o') = false ∧
            verdict decrypt T (object o') = .matches ∧ m'.getObject h = some o' := by
      intro hnot heq
      obtain ⟨m', handles', h1, h2, h3, h4, h5, h6⟩ := ih hhome' hm (by omega) hS handles hgo'
      refine ⟨m', handles', heq.trans h1, h2, h3, by omega, fun o' ho' hsk hv => ?_, fun h => ?_⟩
      · rcases List.mem_cons.1 ho' with rfl | ho'
        · exact absurd hv (hnot hsk)
        · exact h5 o' ho' hsk hv
      rw [h6 h]
      refine or_congr Iff.rfl ⟨?_, ?_⟩
      · exact fun ⟨o', ho', hr⟩ => ⟨o', List.mem_cons_of_mem _ ho', hr⟩
      · rintro ⟨o', ho', hsk, hv, hr⟩
        rcases List.mem_cons.1 ho' with rfl | ho'
        · exact absurd hv (hnot hsk)
        · exact ⟨o', ho', hsk, hv, hr⟩
    cases hsk : skipped isPublicSession (object o)
    case true =>
      refine hpass (fun h => absurd h (by simp [hsk])) ?_
      simp only [findLoop, hsk, if_true]
    case false =>
      have hstop := hgo o List.mem_cons_self hsk
      cases hv : verdict decrypt T (object o)
      case refused => rw [hv] at hstop; cases hstop
      case crash => rw [hv] at hstop; cases hstop
      case differs =>
        refine hpass (fun _ h => by rw [hv] at h; cases h) ?_
        simp only [findLoop, hsk, hv, Bool.false_eq_true, if_false]
      case «matches» =>
        have ho : home o = slotID := hhome o List.mem_cons_self
        subst ho
        obtain ⟨h0, m₁, ha, hne, hm₁, hget, hkeep, hcount⟩ :=
          addObject_spec hm (by omega) hS (object o)
        obtain ⟨m', handles', h1, h2, h3, h4, h5, h6⟩ :=
          ih hhome' hm₁ (by omega) (hkeep _ _ hS) (insertHandle h0 handles) hgo'
        have hget' : m'.getObject h0 = some o := by
          rw [getObject_iff h2, h2.objects]
          obtain ⟨e, he, hobj⟩ := (hm₁.objects o h0).1 ((getObject_iff hm₁).1 hget)
          exact ⟨e, h3 _ _ he, hobj⟩
        refine ⟨m', handles', ?_, h2, fun k e he => h3 _ _ (hkeep _ _ he), ?_, ?_, fun h => ?_⟩
        · simp only [findLoop, hsk, hv, ha, hne, Bool.false_eq_true, if_false]
          exact h1
        · rw [List.length_cons]
          omega
        · intro o' ho' hsk' hv'
          rcases List.mem_cons.1 ho' with rfl | ho'
          · exact ⟨h0, hget'⟩
          · exact h5 o' ho' hsk' hv'
        · rw [h6 h, mem_insertHandle, or_assoc, or_left_comm]
          refine or_congr Iff.rfl ⟨?_, ?_⟩
          · rintro (rfl | ⟨o', ho', hr⟩)
            · exact ⟨o, List.mem_cons_self, hsk, hv, hget'⟩
            · exact ⟨o', List.mem_cons_of_mem _ ho', hr⟩
          · rintro ⟨o', ho', hr1, hr2, hr3⟩
            rcases List.mem_cons.1 ho' with rfl | ho'
            · rw [getObject_iff h2] at hr3 hget'
              rw [hget', Option.some.injEq] at hr3
              exact .inl hr3.symm
            · exact .inr ⟨o', ho', hr1, hr2, hr3⟩

/-- The loop where a verdict ends it. -/
lemma findLoop_stop {objects : List Obj} (hhome : ∀ o ∈ objects, home o = slotID)
    {m : HandleManager Obj Sess} (hm : Rep home m)
    (hc : m.handleCounter + objects.length < 2 ^ 64)
    (hS : m.handles hSession = some (.session slotID x)) (handles : List ℕ) {v : Verdict}
    (hv : firstStop decrypt isPublicSession T object objects = some v) :
    (v = .crash ∧
      findLoop decrypt isPublicSession slotID hSession T object objects m handles = none) ∨
    (v = .refused ∧ ∃ m' handles',
      findLoop decrypt isPublicSession slotID hSession T object objects m handles =
        some (CKR_GENERAL_ERROR, m', handles')) := by
  induction objects generalizing m handles with
  | nil => cases hv
  | cons o objects ih =>
    rw [List.length_cons] at hc
    have hhome' : ∀ o' ∈ objects, home o' = slotID :=
      fun o' ho' => hhome o' (List.mem_cons_of_mem _ ho')
    rw [firstStop_cons] at hv
    simp only [findLoop]
    cases hsk : skipped isPublicSession (object o)
    case true =>
      rw [hsk, if_pos rfl] at hv
      exact ih hhome' hm (by omega) hS handles hv
    case false =>
      rw [hsk, if_neg Bool.false_ne_true] at hv
      simp only [Bool.false_eq_true, if_false]
      cases hver : verdict decrypt T (object o) <;> rw [hver] at hv
      case refused => cases hv; exact .inr ⟨rfl, _, _, rfl⟩
      case crash => cases hv; exact .inl ⟨rfl, rfl⟩
      case differs => exact ih hhome' hm (by omega) hS handles hv
      case «matches» =>
        have ho : home o = slotID := hhome o List.mem_cons_self
        subst ho
        obtain ⟨h0, m₁, ha, hne, hm₁, _, hkeep, _⟩ := addObject_spec hm (by omega) hS (object o)
        simp only [ha, hne, if_false]
        exact ih hhome' hm₁ (by omega) (hkeep _ _ hS) _ hv

end loop

/-! ### Comparing -/

section comparing

variable {decrypt : ByteString → Option ByteString} {isPrivate : Bool}

lemma matches_iff {attr : OSAttribute} {e : CK_ATTRIBUTE} :
    matchAttribute decrypt isPrivate attr e = .matches ↔
      (∃ b w, attr = .boolean b ∧ e.pValue = some w ∧ w.length = 1 ∧
        b = decide (w.headD 0 = CK_TRUE)) ∨
      (∃ n w, attr = .unsignedLong n ∧ e.pValue = some w ∧ w.length = 8 ∧ n = ulongAt w) ∨
      ∃ stored v, attr = .byteString stored ∧ compared decrypt isPrivate stored = some v ∧
        v.length = e.ulValueLen ∧ (v = [] ∨ e.pValue = some v) := by
  cases attr with
  | boolean b =>
    cases hp : e.pValue with
    | none => simp [matchAttribute, CK_ATTRIBUTE.ulValueLen, hp]
    | some w =>
      simp only [matchAttribute, CK_ATTRIBUTE.ulValueLen, CK_ATTRIBUTE.bool, CK_ATTRIBUTE.bytes, hp,
        sizeof_CK_BBOOL, Option.getD_some]
      by_cases hl : w.length = 1
      · simp [hl]
      · simp [hl, Ne.symm hl]
  | unsignedLong n =>
    cases hp : e.pValue with
    | none => simp [matchAttribute, CK_ATTRIBUTE.ulValueLen, hp]
    | some w =>
      simp only [matchAttribute, CK_ATTRIBUTE.ulValueLen, CK_ATTRIBUTE.bytes, hp,
        sizeof_CK_ULONG, Option.getD_some]
      by_cases hl : w.length = 8
      · simp [hl]
      · simp [hl, Ne.symm hl]
  | byteString stored =>
    simp only [matchAttribute]
    cases hc : compared decrypt isPrivate stored with
    | none => simp [hc]
    | some v =>
      by_cases hl : v.length = e.ulValueLen
      · have h0 : v = [] ↔ e.ulValueLen = 0 := by rw [← hl, List.length_eq_zero_iff]
        by_cases hz : e.ulValueLen = 0
        · simp [hc, hz, h0.2 hz]
        · have hne : v ≠ [] := fun hv => hz (h0.1 hv)
          cases hp : e.pValue with
          | none => simp [hc, hl, hz, hne]
          | some w => simp [hc, hl, hz, hne, eq_comm]
      · simp [hc, hl]
  | mechanismTypeSet value => simp [matchAttribute]
  | attributeMap value => simp [matchAttribute]

end comparing

/-! ### Reading one attribute -/

/-- The value that an attribute is shown with, a Boolean, a number or a byte string. -/
def shownValue (a : P11Attribute) (decrypt : ByteString → Option ByteString) (isPrivate : Bool) :
    OSAttribute → Option ByteString
  | .byteString stored => a.plain decrypt isPrivate stored
  | attr => simpleValue attr

/-- Whether the size of an attribute is that of its default. -/
def sizeFits (a : P11Attribute) : Bool :=
  match a.default with
  | .boolean _ => a.size = some sizeof_CK_BBOOL
  | .unsignedLong _ => a.size = some sizeof_CK_ULONG
  | _ => a.size = none

lemma sizeFits_table : ∀ x ∈ kinds, ∀ a ∈ x.2.attributes, sizeFits a = true := by decide

section retrieving

variable {decrypt : ByteString → Option ByteString} {isPrivate : Bool} {a : P11Attribute}
  {attr : OSAttribute}

lemma attrSize_eq (hs : (simpleValue attr).isSome = true) (hk : SameKind attr a.default)
    (hf : sizeFits a = true) :
    a.attrSize decrypt isPrivate attr = (shownValue a decrypt isPrivate attr).map List.length := by
  unfold sizeFits at hf
  cases attr with
  | boolean b =>
    cases hd : a.default <;> rw [hd] at hk hf <;> first | exact hk.elim | skip
    have hsize : a.size = some sizeof_CK_BBOOL := of_decide_eq_true hf
    simp only [P11Attribute.attrSize, hsize]
    rfl
  | unsignedLong n =>
    cases hd : a.default <;> rw [hd] at hk hf <;> first | exact hk.elim | skip
    have hsize : a.size = some sizeof_CK_ULONG := of_decide_eq_true hf
    simp only [P11Attribute.attrSize, hsize, shownValue, simpleValue, Option.map_some,
      length_ulongBytes, sizeof_CK_ULONG]
  | byteString stored =>
    cases hd : a.default <;> rw [hd] at hk hf <;> first | exact hk.elim | skip
    have hsize : a.size = none := of_decide_eq_true hf
    simp only [P11Attribute.attrSize, hsize]
    rfl
  | mechanismTypeSet value => cases hs
  | attributeMap value => cases hs

lemma copy_eq (hs : (simpleValue attr).isSome = true) (array : List Element) :
    a.copy decrypt isPrivate attr array =
      (shownValue a decrypt isPrivate attr).map fun v => (CKR_OK, .bytes v) := by
  cases attr with
  | boolean b => rfl
  | unsignedLong n => rfl
  | byteString stored => rfl
  | mechanismTypeSet value => cases hs
  | attributeMap value => cases hs

/-- Reading an attribute into a buffer gives what it is shown with. -/
lemma retrieve_ok_iff {m : AttributeMap} {n : ℕ} {v : ByteString}
    (hget : OrderedMap.get a.type m = some attr) (hs : (simpleValue attr).isSome = true)
    (hk : SameKind attr a.default) (hf : sizeFits a = true) :
    a.retrieve decrypt isPrivate ⟨a.type, true, n, []⟩ m = ⟨CKR_OK, v.length, .bytes v⟩ ↔
      a.hidden m = false ∧ shownValue a decrypt isPrivate attr = some v ∧ v.length ≤ n := by
  rw [P11Attribute.retrieve]
  cases hh : a.hidden m
  · simp only [Bool.false_eq_true, if_false, hget, attrSize_eq hs hk hf, copy_eq hs, true_and]
    cases hv : shownValue a decrypt isPrivate attr with
    | none => simp
    | some w =>
      simp only [Option.map_some, Bool.not_true, Bool.false_eq_true, if_false, Option.some.injEq]
      by_cases hl : w.length ≤ n
      · rw [if_pos hl, Retrieved.mk.injEq, Written.bytes.injEq]
        constructor
        · rintro ⟨_, _, rfl⟩
          exact ⟨rfl, hl⟩
        · rintro ⟨rfl, _⟩
          exact ⟨rfl, rfl, rfl⟩
      · rw [if_neg hl]
        constructor
        · intro h
          cases h
        · rintro ⟨rfl, h⟩
          exact absurd h hl
  · simp

end retrieving

lemma loadTemplate_single {p : P11Object} {decrypt : ByteString → Option ByteString} {r : Request}
    {m : AttributeMap} {x : Retrieved} :
    p.loadTemplate decrypt [r] m = (CKR_OK, [x]) ↔
      ∃ a, p.attributeOf r.type = some a ∧ a.retrieve decrypt (isPrivate m) r m = x ∧
        x.rv = CKR_OK := by
  simp only [P11Object.loadTemplate, P11Object.retrieveAll]
  cases ha : p.attributeOf r.type with
  | none => simp
  | some a =>
    rcases hx : a.retrieve decrypt (isPrivate m) r m with ⟨rv, len, w⟩
    simp only [hx, Option.some.injEq, exists_eq_left']
    by_cases h1 : rv = CKR_OK
    · subst h1
      simp only [true_or, if_true, List.any_cons, List.any_nil, Bool.or_false, reduceCtorEq,
        decide_false, Bool.false_eq_true, if_false, Prod.mk.injEq, true_and, List.cons.injEq,
        and_true]
      exact ⟨fun h => ⟨h, h ▸ rfl⟩, fun h => h.1⟩
    · constructor
      · intro h
        exfalso
        by_cases h2 : rv = CKR_ATTRIBUTE_SENSITIVE
        · subst h2
          simp at h
        by_cases h3 : rv = CKR_BUFFER_TOO_SMALL
        · subst h3
          simp at h
        simp [h1, h2, h3] at h
      · rintro ⟨rfl, hrv⟩
        exact absurd hrv h1

lemma loadTemplate_length (p : P11Object) (decrypt : ByteString → Option ByteString) (r : Request)
    (m : AttributeMap) : ∃ rv x, p.loadTemplate decrypt [r] m = (rv, [x]) := by
  simp only [P11Object.loadTemplate, P11Object.retrieveAll]
  cases p.attributeOf r.type with
  | none => exact ⟨_, _, rfl⟩
  | some a =>
    by_cases h : (a.retrieve decrypt (isPrivate m) r m).rv = CKR_OK ∨
        (a.retrieve decrypt (isPrivate m) r m).rv = CKR_ATTRIBUTE_SENSITIVE ∨
        (a.retrieve decrypt (isPrivate m) r m).rv = CKR_BUFFER_TOO_SMALL
    · simp only [if_pos h]
      exact ⟨_, _, rfl⟩
    · simp only [if_neg h]
      exact ⟨_, _, rfl⟩

/-! ### The state -/

/-- What holds of the library: the handle manager is consistent, each object is known in its slot
only, there are numbers left for handles (and the feature object has one that is far off), and
every valid object has what its kind asks for. -/
structure Store.Ok (home : Obj → CK_SLOT_ID) (st : Store Obj Sess) : Prop where
  handles : Rep home st.handleManager
  sessions : ∀ h slotID s, st.handleManager.handles h = some (.session slotID s) →
    (st.session s).slotID = slotID
  slot : ∀ slotID, ∀ o ∈ st.allObjects slotID, home o = slotID
  counter : ∀ slotID, st.handleManager.handleCounter + (st.allObjects slotID).length <
    if st.fakeRutokenECP then FAKE_RUTOKEN_FEATURE_HANDLE else 2 ^ 64
  complete : ∀ o, (st.object o).valid = true → Complete (st.object o).attributes

/-- An object that a session gets to see. -/
def Visible (st : Store Obj Sess) (s : Sess) (o : Obj) : Prop :=
  o ∈ st.allObjects (st.session s).slotID ∧
    skipped (isPublicSession (st.getState s)) (st.object o) = false

/-- What an attribute of an object is shown with, where it may be read. -/
def Shows (P : Primitives) (st : Store Obj Sess) (s : Sess) (o : Obj) (type : CK_ATTRIBUTE_TYPE)
    (attr : OSAttribute) (v : ByteString) : Prop :=
  (∃ p a, attributeKind (st.object o).attributes = some p ∧ p.attributeOf type = some a ∧
    a.hidden (st.object o).attributes = false ∧
    shownValue a (decrypt P (st.sdm (st.session s).slotID))
      ((st.object o).attributes.getBooleanValue CKA_PRIVATE true) attr = some v) ∧
  ¬ (st.fakeRutokenECP = true ∧ absentGeneratedGostParams (st.object o).attributes = true ∧
    type = CKA_GOST28147_PARAMS)

/-- Reading an attribute into a buffer gives a value. -/
def Reads (P : Primitives) (st : Store Obj Sess) (hSession hObject : ℕ) (type : CK_ATTRIBUTE_TYPE)
    (v : ByteString) : Prop :=
  ∃ stores n st', C_GetAttributeValue P stores hSession hObject (some [⟨type, true, n, []⟩]) st =
    (CKR_OK, [(v.length, .bytes v)], st')

section state

variable {P : Primitives} {st : Store Obj Sess} {hSession : ℕ} {s : Sess} {o : Obj}

lemma isPrivate_of_complete {m : AttributeMap} (h : Complete m) :
    isPrivate m = m.getBooleanValue CKA_PRIVATE true := by
  have htable : ∀ x ∈ kinds, ∃ a ∈ x.2.attributes, a.type = CKA_PRIVATE ∧ sizeFits a = true ∧
      a.size = some sizeof_CK_BBOOL := by decide
  obtain ⟨p, hk, hc⟩ := h
  obtain ⟨a, ha, ht, hf, hsz⟩ := htable _ (p11ObjectOf_mem hk)
  obtain ⟨attr, hget, hkind⟩ := hc a ha
  rw [ht] at hget
  have hb : ∃ b, attr = .boolean b := by
    unfold sizeFits at hf
    cases hd : a.default <;> rw [hd] at hf hkind <;> rw [hsz] at hf <;> cases hf
    cases attr <;> first | exact ⟨_, rfl⟩ | exact hkind.elim
  obtain ⟨b, rfl⟩ := hb
  simp [isPrivate, AttributeMap.attributeExists, AttributeMap.getBooleanValue, hget]

/-- Who sees an object may read it. -/
lemma haveRead_of_visible (h : Visible st s o) (isTokenObject : Bool) :
    haveRead (st.getState s) isTokenObject
      ((st.object o).attributes.getBooleanValue CKA_PRIVATE true) = CKR_OK := by
  obtain ⟨_, hsk⟩ := h
  simp only [skipped, Bool.or_eq_false_iff, Bool.and_eq_false_iff] at hsk
  cases hstate : st.getState s <;> rw [hstate] at hsk <;>
    simp only [isPublicSession, haveRead, Bool.true_eq_false, false_or] at hsk ⊢ <;>
    rw [hsk.2] <;> rfl

/-- **What reading an attribute gives.** -/
theorem reads_iff (hst : ∀ o, (st.object o).valid = true → Complete (st.object o).attributes)
    (hi : st.isInitialised = true)
    (hs : st.handleManager.getSession hSession = some s) (hvis : Visible st s o) {hObject : ℕ}
    (ho : st.handleManager.getObject hObject = some o)
    (hf : (st.fakeRutokenECP && decide (hObject = FAKE_RUTOKEN_FEATURE_HANDLE)) = false)
    {type : CK_ATTRIBUTE_TYPE} {attr : OSAttribute} {v : ByteString}
    (hget : OrderedMap.get type (st.object o).attributes = some attr)
    (hsimple : (simpleValue attr).isSome = true) :
    Reads P st hSession hObject type v ↔ Shows P st s o type attr v := by
  unfold Shows
  have hv : (st.object o).valid = true := by
    have hsk := hvis.2
    simp only [skipped, Bool.or_eq_false_iff, Bool.not_eq_false'] at hsk
    exact hsk.1
  have hcomp := hst o hv
  have hpriv := isPrivate_of_complete hcomp
  obtain ⟨p, hk, hattrs⟩ := hcomp
  have hnew : ∀ stores, newP11Object stores (st.object o) = (.ok p, st.object o) := by
    intro stores
    obtain ⟨q, hq, hn⟩ := newP11Object_of_complete hv (hst o hv) stores
    rw [hk, Option.some.injEq] at hq
    rw [hn, hq]
  -- what the call comes to, once the object is found
  have hcall : ∀ stores n rv x, p.loadTemplate (decrypt P (st.sdm (st.session s).slotID))
      [⟨type, true, n, []⟩] (st.object o).attributes = (rv, [x]) →
      C_GetAttributeValue P stores hSession hObject (some [⟨type, true, n, []⟩]) st =
        ((if st.fakeRutokenECP && absentGeneratedGostParams (st.object o).attributes then
            withoutGostParams [⟨type, true, n, []⟩] rv [(x.ulValueLen, x.written)]
          else (rv, [(x.ulValueLen, x.written)])).1,
        (if st.fakeRutokenECP && absentGeneratedGostParams (st.object o).attributes then
            withoutGostParams [⟨type, true, n, []⟩] rv [(x.ulValueLen, x.written)]
          else (rv, [(x.ulValueLen, x.written)])).2, st.setObject o (st.object o)) := by
    intro stores n rv x hload
    simp only [C_GetAttributeValue, hi, hs, hf, ho, hv, haveRead_of_visible hvis, hnew stores,
      hload, Bool.not_true, Bool.false_eq_true, if_false, ne_eq, not_true_eq_false]
    rfl
  by_cases hgost : st.fakeRutokenECP = true ∧
      absentGeneratedGostParams (st.object o).attributes = true ∧ type = CKA_GOST28147_PARAMS
  · refine iff_of_false ?_ fun h => h.2 hgost
    rintro ⟨stores, n, st', hcontra⟩
    obtain ⟨rv, x, hload⟩ := loadTemplate_length p (decrypt P (st.sdm (st.session s).slotID))
      ⟨type, true, n, []⟩ (st.object o).attributes
    rw [hcall stores n rv x hload, hgost.1, hgost.2.1, hgost.2.2] at hcontra
    simp only [Bool.and_self, if_true, withoutGostParams, List.any_cons, decide_true, List.any_nil,
      Bool.or_false, Prod.mk.injEq] at hcontra
    have hrv := hcontra.1
    split at hrv
    · rename_i h
      rw [h] at hrv
      cases hrv
    · cases hrv
  · have hplain : ∀ n rv (x : ℕ × Written),
        (if st.fakeRutokenECP && absentGeneratedGostParams (st.object o).attributes then
          withoutGostParams [⟨type, true, n, []⟩] rv [x] else (rv, [x])) = (rv, [x]) := by
      intro n rv x
      split
      · rename_i h
        have ht : type ≠ CKA_GOST28147_PARAMS := by
          rintro rfl
          obtain ⟨h1, h2⟩ := Bool.and_eq_true_iff.1 h
          exact hgost ⟨h1, h2, rfl⟩
        simp [withoutGostParams, ht]
      · rfl
    have hone : Reads P st hSession hObject type v ↔ ∃ n,
        p.loadTemplate (decrypt P (st.sdm (st.session s).slotID)) [⟨type, true, n, []⟩]
          (st.object o).attributes = (CKR_OK, [⟨CKR_OK, v.length, .bytes v⟩]) := by
      constructor
      · rintro ⟨stores, n, st', hread⟩
        obtain ⟨rv, x, hload⟩ := loadTemplate_length p
          (decrypt P (st.sdm (st.session s).slotID)) ⟨type, true, n, []⟩ (st.object o).attributes
        rw [hcall stores n rv x hload, hplain] at hread
        simp only [Prod.mk.injEq, List.cons.injEq, and_true] at hread
        obtain ⟨rfl, ⟨hlen, hw⟩, _⟩ := hread
        obtain ⟨a, _, _, hrv⟩ := loadTemplate_single.1 hload
        refine ⟨n, ?_⟩
        rw [hload, ← hlen, ← hw, ← hrv]
      · rintro ⟨n, hload⟩
        refine ⟨fun _ => .done, n, st.setObject o (st.object o), ?_⟩
        rw [hcall _ n _ _ hload, hplain]
    rw [hone, and_iff_left hgost]
    constructor
    · rintro ⟨n, hload⟩
      obtain ⟨a, ha, hret, _⟩ := loadTemplate_single.1 hload
      obtain ⟨hmem, hta⟩ := attributeOf_some ha
      simp only at hta
      subst hta
      obtain ⟨attr', hget', hkind⟩ := hattrs a hmem
      rw [hget, Option.some.injEq] at hget'
      subst hget'
      have hfit := sizeFits_table _ (p11ObjectOf_mem hk) a hmem
      obtain ⟨h1, h2, _⟩ := (retrieve_ok_iff hget hsimple hkind hfit).1 hret
      exact ⟨p, a, hk, ha, h1, hpriv ▸ h2⟩
    · rintro ⟨q, a, hq, ha, h1, h2⟩
      rw [hk, Option.some.injEq] at hq
      subst hq
      obtain ⟨hmem, rfl⟩ := attributeOf_some ha
      obtain ⟨attr', hget', hkind⟩ := hattrs a hmem
      rw [hget, Option.some.injEq] at hget'
      subst hget'
      have hfit := sizeFits_table _ (p11ObjectOf_mem hk) a hmem
      refine ⟨v.length, loadTemplate_single.2 ⟨a, ha, ?_, rfl⟩⟩
      exact (retrieve_ok_iff hget hsimple hkind hfit).2 ⟨h1, hpriv.symm ▸ h2, le_refl _⟩

/-! ### The outcome of a search -/

/-- A handle that the search of a session has found. -/
def Found (hSession : ℕ) (st : Store Obj Sess) (h : ℕ) : Prop :=
  ∃ n, h ∈ (C_FindObjects hSession n st).2.1

/-- The first verdict that ends a search of a session. -/
def Store.firstStop (P : Primitives) (st : Store Obj Sess) (s : Sess) (T : List CK_ATTRIBUTE) :
    Option Verdict :=
  Search.firstStop (decrypt P (st.sdm (st.session s).slotID)) (isPublicSession (st.getState s)) T
    st.object (st.allObjects (st.session s).slotID)

/-- What a search that nothing ends leaves. -/
structure Searched (P : Primitives) (st : Store Obj Sess) (hSession : ℕ) (s : Sess)
    (T : List CK_ATTRIBUTE) (st' : Store Obj Sess) : Prop where
  initialised : st'.isInitialised = true
  fakeRutokenECP : st'.fakeRutokenECP = st.fakeRutokenECP
  object : st'.object = st.object
  sdm : st'.sdm = st.sdm
  session : st'.handleManager.getSession hSession = some s
  visible : ∀ o, Visible st' s o ↔ Visible st s o
  slotID : (st'.session s).slotID = (st.session s).slotID
  feature : st.fakeRutokenECP = true →
    ∀ h o, st'.handleManager.getObject h = some o → h ≠ FAKE_RUTOKEN_FEATURE_HANDLE
  known : ∀ h o, st.handleManager.getObject h = some o → st'.handleManager.getObject h = some o
  handle : ∀ o, Visible st s o →
    verdict (decrypt P (st.sdm (st.session s).slotID)) T (st.object o) = .matches →
    ∃ h, st'.handleManager.getObject h = some o
  found : ∀ h, Found hSession st' h ↔
    (st.fakeRutokenECP = true ∧ fakeRutokenFeatureMatches T = true ∧
      h = FAKE_RUTOKEN_FEATURE_HANDLE) ∨
    ∃ o, Visible st s o ∧
      verdict (decrypt P (st.sdm (st.session s).slotID)) T (st.object o) = .matches ∧
      st'.handleManager.getObject h = some o

lemma found_iff {handles : List ℕ} {h : ℕ} (hi : st.isInitialised = true)
    (hs : st.handleManager.getSession hSession = some s) (hop : (st.session s).opType = .find)
    (hfind : (st.session s).findOp = some handles) : Found hSession st h ↔ h ∈ handles := by
  have hcall : ∀ n, (C_FindObjects hSession n st).2.1 = handles.take n := by
    intro n
    simp [C_FindObjects, hi, hs, hop, hfind]
  simp only [Found, hcall]
  exact ⟨fun ⟨n, hn⟩ => List.mem_of_mem_take hn, fun hh => ⟨handles.length, by simpa using hh⟩⟩

/-- **What `C_FindObjectsInit` comes to**, in a session without an operation. -/
theorem findObjectsInit_spec (hst : st.Ok home) (hi : st.isInitialised = true) {slotID : CK_SLOT_ID}
    (hs : st.handleManager.handles hSession = some (.session slotID s))
    (hop : (st.session s).opType = .none) (T : List CK_ATTRIBUTE) :
    (st.firstStop P s T = some .crash ∧ C_FindObjectsInit P hSession (some T) st = none) ∨
    (st.firstStop P s T = some .refused ∧
      ∃ st', C_FindObjectsInit P hSession (some T) st = some (CKR_GENERAL_ERROR, st')) ∨
    (st.firstStop P s T = none ∧ ∃ st', C_FindObjectsInit P hSession (some T) st =
      some (CKR_OK, st') ∧ Searched P st hSession s T st') := by
  have hslot : (st.session s).slotID = slotID := hst.sessions _ _ _ hs
  have hget : st.handleManager.getSession hSession = some s := by rw [getSession, hs]
  have hcount := hst.counter (st.session s).slotID
  have hcount64 : st.handleManager.handleCounter +
      (st.allObjects (st.session s).slotID).length < 2 ^ 64 := by
    refine lt_of_lt_of_le hcount ?_
    split
    · decide
    · exact le_refl _
  have hhome := hst.slot (st.session s).slotID
  rw [← hslot] at hs
  cases hstop : st.firstStop P s T with
  | some v =>
    rcases findLoop_stop hhome hst.handles hcount64 hs [] hstop with
      ⟨rfl, hloop⟩ | ⟨rfl, m', handles', hloop⟩
    · refine .inl ⟨rfl, ?_⟩
      simp only [C_FindObjectsInit, hi, hget, hop, hloop, Bool.not_true, Bool.false_eq_true,
        if_false, ne_eq, not_true_eq_false]
    · refine .inr (.inl ⟨rfl, ?_⟩)
      simp only [C_FindObjectsInit, hi, hget, hop, hloop, Bool.not_true, Bool.false_eq_true,
        if_false, ne_eq, not_true_eq_false]
      exact ⟨_, rfl⟩
  | none =>
    obtain ⟨m', handles', hloop, hrep, hkeep, hle, hhandle, hfound⟩ :=
      findLoop_ok hhome hst.handles hcount64 hs [] (firstStop_none_iff.1 hstop)
    obtain ⟨handles, hh⟩ : ∃ handles, handles =
        if st.fakeRutokenECP && fakeRutokenFeatureMatches T then
          insertHandle FAKE_RUTOKEN_FEATURE_HANDLE handles' else handles' := ⟨_, rfl⟩
    have hinit : C_FindObjectsInit P hSession (some T) st =
        some (CKR_OK, ({ st with handleManager := m' } : Store Obj Sess).setSession s
          { st.session s with opType := .find, findOp := some handles }) := by
      simp only [C_FindObjectsInit, hi, hget, hop, hloop, hh, Bool.not_true, Bool.false_eq_true,
        if_false, ne_eq, not_true_eq_false]
    have hmem : ∀ h, h ∈ handles ↔ (st.fakeRutokenECP = true ∧
        fakeRutokenFeatureMatches T = true ∧ h = FAKE_RUTOKEN_FEATURE_HANDLE) ∨ h ∈ handles' := by
      intro h
      rw [hh]
      by_cases hc : (st.fakeRutokenECP && fakeRutokenFeatureMatches T) = true
      · obtain ⟨h1, h2⟩ := Bool.and_eq_true_iff.1 hc
        simp [h1, h2, mem_insertHandle]
      · rw [if_neg hc]
        refine ⟨.inr, fun hor => hor.resolve_left fun ⟨h1, h2, _⟩ => hc ?_⟩
        rw [h1, h2]
        rfl
    have hget' : m'.getSession hSession = some s := by
      rw [getSession, hkeep _ _ hs]
    refine .inr (.inr ⟨rfl, _, hinit, ?_⟩)
    constructor
    case initialised => exact hi
    case fakeRutokenECP => rfl
    case object => rfl
    case sdm => rfl
    case session => exact hget'
    case slotID => simp [Store.setSession]
    case visible =>
      intro o
      have hstate : Store.getState (({ st with handleManager := m' } : Store Obj Sess).setSession s
          { st.session s with opType := .find, findOp := some handles }) s = st.getState s := by
        simp [Store.getState, Store.setSession, FindSession.getState, Session.getState]
      simp only [Visible, hstate]
      simp [Store.setSession]
    case feature =>
      intro hf h o ho
      obtain ⟨e, he, _⟩ := (hrep.objects o h).1 ((getObject_iff hrep).1 ho)
      have hissued := (hrep.issued h e he).2
      rw [if_pos hf] at hcount
      omega
    case known =>
      intro h o ho
      obtain ⟨e, he, hobj⟩ := (hst.handles.objects o h).1 ((getObject_iff hst.handles).1 ho)
      exact (getObject_iff hrep).2 ((hrep.objects o h).2 ⟨e, hkeep _ _ he, hobj⟩)
    case handle => exact fun o hvis hv => hhandle o hvis.1 hvis.2 hv
    case found =>
      intro h
      have hiff : Found hSession (({ st with handleManager := m' } : Store Obj Sess).setSession s
          { st.session s with opType := .find, findOp := some handles }) h ↔ h ∈ handles :=
        found_iff hi hget' (by simp [Store.setSession]) (by simp [Store.setSession])
      rw [hiff, hmem h, hfound h]
      simp [Visible, and_assoc, Store.setSession]

/-! ### Agreement -/

/-- **A search agrees with reading.** A value that reading gives for a visible object is found with
it; what any search finds is visible and reads back what was asked for; and an entry with a null
pointer and a length matches nothing. -/
structure Agrees (P : Primitives) (st : Store Obj Sess) (hSession : ℕ) (s : Sess)
    (T : List CK_ATTRIBUTE) : Prop where
  returns : C_FindObjectsInit P hSession (some T) st ≠ none
  finds : ∀ o hObject e attr v, Visible st s o → st.handleManager.getObject hObject = some o →
    T = [e] → e.pValue = some v → OrderedMap.get e.type (st.object o).attributes = some attr →
    (simpleValue attr).isSome = true → Reads P st hSession hObject e.type v →
    ∃ st' h, C_FindObjectsInit P hSession (some T) st = some (CKR_OK, st') ∧
      Found hSession st' h ∧ st'.handleManager.getObject h = some o
  visible : ∀ st' h, C_FindObjectsInit P hSession (some T) st = some (CKR_OK, st') →
    Found hSession st' h → st.fakeRutokenECP = true ∧ h = FAKE_RUTOKEN_FEATURE_HANDLE ∨
      ∃ o, Visible st s o ∧ st'.handleManager.getObject h = some o
  readsBack : ∀ st' h, C_FindObjectsInit P hSession (some T) st = some (CKR_OK, st') →
    Found hSession st' h → ∀ e ∈ T, ∀ v, Reads P st' hSession h e.type v →
      e.bytes = v ∧ e.ulValueLen = v.length
  nulls : ∀ st' h, C_FindObjectsInit P hSession (some T) st = some (CKR_OK, st') →
    Found hSession st' h → ∀ e ∈ T, e.pValue = none → e.ulValueLen = 0

/-- When it does: what ends the search, if anything, is no null pointer, and where it is a value
that cannot be decrypted, no visible object is shown with the value that was asked for; otherwise
no object that matches has a Boolean that is false and was asked for with a byte that is not. -/
structure Clean (P : Primitives) (st : Store Obj Sess) (s : Sess) (T : List CK_ATTRIBUTE) :
    Prop where
  noNull : st.firstStop P s T ≠ some .crash
  decrypted : st.firstStop P s T = some .refused → ¬ ∃ o hObject e attr v, Visible st s o ∧
    st.handleManager.getObject hObject = some o ∧ T = [e] ∧ e.pValue = some v ∧
    OrderedMap.get e.type (st.object o).attributes = some attr ∧
    (simpleValue attr).isSome = true ∧ Shows P st s o e.type attr v
  canonical : st.firstStop P s T = none → ∀ o, Visible st s o →
    verdict (decrypt P (st.sdm (st.session s).slotID)) T (st.object o) = .matches →
    ∀ e ∈ T, OrderedMap.get e.type (st.object o).attributes = some (.boolean false) →
    (∃ p a, attributeKind (st.object o).attributes = some p ∧ p.attributeOf e.type = some a) →
    e.bool = CK_FALSE

lemma matchTemplate_matches {decrypt : ByteString → Option ByteString} {isPrivate : Bool}
    {m : AttributeMap} {T : List CK_ATTRIBUTE} :
    matchTemplate decrypt isPrivate m T = .matches ↔ ∀ e ∈ T, ∃ attr,
      OrderedMap.get e.type m = some attr ∧ matchAttribute decrypt isPrivate attr e = .matches := by
  induction T with
  | nil => simp [matchTemplate]
  | cons e T ih =>
    simp only [matchTemplate, List.forall_mem_cons, ← ih]
    cases OrderedMap.get e.type m with
    | none => simp
    | some attr => cases hm : matchAttribute decrypt isPrivate attr e <;> simp [hm]

/-- A stored value that is too short for the bytes that an encryption starts with. -/
lemma decrypt_short {sdm : SecureDataManager} {b : ByteString} (h0 : b.length ≠ 0)
    (h : b.length < 16) : decrypt P sdm b = none := by
  have hIV : (ByteString.substr b 0 blockSize).length ≠ blockSize := by
    simp only [ByteString.substr, List.drop_zero, List.length_take, blockSize]
    omega
  simp only [decrypt, SecureDataManager.decrypt, if_neg h0, if_pos hIV]
  split <;> rfl

/-- What is compared is what is shown, but for dates that were stored in the clear: these are
shown and cannot be compared. -/
lemma compared_of_plain {a : P11Attribute} {sdm : SecureDataManager} {isPrivate : Bool}
    {stored v : ByteString} (h : a.plain (decrypt P sdm) isPrivate stored = some v) :
    compared (decrypt P sdm) isPrivate stored = some v ∨
      compared (decrypt P sdm) isPrivate stored = none := by
  unfold P11Attribute.plain P11Attribute.readStored at h
  unfold compared
  split
  · rename_i hc
    rw [if_pos hc] at h
    split at h
    · rename_i hleg
      right
      have h8 : stored.length = 8 := by
        unfold P11Attribute.isLegacyPlaintext at hleg
        split at hleg
        · exact of_decide_eq_true hleg
        · cases hleg
      exact decrypt_short (by omega) (by omega)
    · exact .inl h
  · rename_i hc
    rw [if_neg hc] at h
    exact .inl h

/-- An entry with the value that an attribute is shown with is not told apart from it. -/
lemma matchAttribute_of_shown {a : P11Attribute} {sdm : SecureDataManager} {isPrivate : Bool}
    {attr : OSAttribute} {v : ByteString} {e : CK_ATTRIBUTE} (hp : e.pValue = some v)
    (h : shownValue a (decrypt P sdm) isPrivate attr = some v) :
    matchAttribute (decrypt P sdm) isPrivate attr e = .matches ∨
      matchAttribute (decrypt P sdm) isPrivate attr e = .refused := by
  have hlen : e.ulValueLen = v.length := by rw [CK_ATTRIBUTE.ulValueLen, hp]
  cases attr with
  | boolean b =>
    refine .inl (matches_iff.2 (.inl ⟨b, v, rfl, hp, ?_⟩))
    cases h
    cases b <;> exact ⟨rfl, rfl⟩
  | unsignedLong n =>
    refine .inl (matches_iff.2 (.inr (.inl ⟨n, v, rfl, hp, ?_⟩)))
    cases h
    exact ⟨length_ulongBytes n, (ulongAt_ulongBytes n).symm⟩
  | byteString stored =>
    rcases compared_of_plain h with hc | hc
    · exact .inl (matches_iff.2 (.inr (.inr ⟨stored, v, rfl, hc, hlen.symm, .inr hp⟩)))
    · refine .inr ?_
      simp only [matchAttribute, hc]
  | mechanismTypeSet value => cases h
  | attributeMap value => cases h

/-- What matches an entry is shown with its value, but for a Boolean that is false. -/
lemma shown_of_matches {a : P11Attribute} {sdm : SecureDataManager} {isPrivate : Bool}
    {attr : OSAttribute} {v : ByteString} {e : CK_ATTRIBUTE}
    (hm : matchAttribute (decrypt P sdm) isPrivate attr e = .matches)
    (h : shownValue a (decrypt P sdm) isPrivate attr = some v)
    (hb : attr = .boolean false → e.bool = CK_FALSE) :
    e.bytes = v ∧ e.ulValueLen = v.length := by
  rcases matches_iff.1 hm with ⟨b, w, rfl, hp, hl, hbw⟩ | ⟨n, w, rfl, hp, hl, rfl⟩ |
    ⟨stored, w, rfl, hc, hl, hw⟩
  · have hbytes : e.bytes = w := by rw [CK_ATTRIBUTE.bytes, hp]; rfl
    have hlen : e.ulValueLen = w.length := by rw [CK_ATTRIBUTE.ulValueLen, hp]
    obtain ⟨x, rfl⟩ : ∃ x, w = [x] := List.length_eq_one_iff.1 hl
    have hv : v = [x] := by
      cases b
      · have hx : x = CK_FALSE := by
          have hfalse := hb rfl
          rw [CK_ATTRIBUTE.bool, hbytes] at hfalse
          exact hfalse
        cases h
        rw [hx]
        rfl
      · have hx : x = CK_TRUE := of_decide_eq_true hbw.symm
        cases h
        rw [hx]
        rfl
    rw [hbytes, hlen, hv]
    exact ⟨rfl, rfl⟩
  · have hbytes : e.bytes = w := by rw [CK_ATTRIBUTE.bytes, hp]; rfl
    have hlen : e.ulValueLen = w.length := by rw [CK_ATTRIBUTE.ulValueLen, hp]
    have hv : v = w := by
      cases h
      exact ulongBytes_ulongAt hl
    rw [hbytes, hlen, hv]
    exact ⟨rfl, rfl⟩
  · have hvw : w = v := by
      rcases compared_of_plain h with hc' | hc'
      · rw [hc, Option.some.injEq] at hc'
        exact hc'
      · rw [hc] at hc'
        cases hc'
    subst hvw
    refine ⟨?_, hl.symm⟩
    rcases hw with rfl | hp
    · rw [CK_ATTRIBUTE.bytes]
      cases hp : e.pValue with
      | none => rfl
      | some w =>
        rw [CK_ATTRIBUTE.ulValueLen, hp] at hl
        exact List.eq_nil_of_length_eq_zero hl.symm
    · rw [CK_ATTRIBUTE.bytes, hp]
      rfl

/-- A Boolean is never hidden. -/
lemma boolean_table : ∀ x ∈ kinds, ∀ a ∈ x.2.attributes, a.size = some sizeof_CK_BBOOL →
    a.has ck7 = false ∧ a.type ≠ CKA_GOST28147_PARAMS := by decide

lemma shows_boolean (hst : Complete (st.object o).attributes) {type : CK_ATTRIBUTE_TYPE} {b : Bool}
    (hget : OrderedMap.get type (st.object o).attributes = some (.boolean b))
    (hk : ∃ p a, attributeKind (st.object o).attributes = some p ∧ p.attributeOf type = some a) :
    Shows P st s o type (.boolean b) (bboolBytes b) := by
  obtain ⟨p, a, hp, ha⟩ := hk
  obtain ⟨hmem, rfl⟩ := attributeOf_some ha
  obtain ⟨q, hq, hattrs⟩ := hst
  rw [hp, Option.some.injEq] at hq
  subst hq
  obtain ⟨attr, hget', hkind⟩ := hattrs a hmem
  rw [hget, Option.some.injEq] at hget'
  subst hget'
  have hfit := sizeFits_table _ (p11ObjectOf_mem hp) a hmem
  have hsize : a.size = some sizeof_CK_BBOOL := by
    unfold sizeFits at hfit
    cases hd : a.default <;> rw [hd] at hkind hfit <;> first | exact hkind.elim | skip
    exact of_decide_eq_true hfit
  obtain ⟨h7, hgost⟩ := boolean_table _ (p11ObjectOf_mem hp) a hmem hsize
  refine ⟨⟨p, a, hp, ha, ?_, rfl⟩, fun h => hgost h.2.2⟩
  rw [P11Attribute.hidden, h7]
  rfl

/-- The feature object reads back what it was asked for with. -/
lemma feature_readsBack {st' : Store Obj Sess} (hi : st'.isInitialised = true)
    (hs : st'.handleManager.getSession hSession = some s) (hf : st'.fakeRutokenECP = true)
    {T : List CK_ATTRIBUTE} (hT : fakeRutokenFeatureMatches T = true) {e : CK_ATTRIBUTE} (he : e ∈ T)
    {v : ByteString} (hr : Reads P st' hSession FAKE_RUTOKEN_FEATURE_HANDLE e.type v) :
    e.pValue = some v := by
  obtain ⟨hall, _⟩ := Bool.and_eq_true_iff.1 hT
  have hentry := List.all_eq_true.1 hall e he
  obtain ⟨mine, hmine, hp⟩ := Option.any_eq_true _ _ |>.1 hentry
  have hp' : e.pValue = some mine := of_decide_eq_true hp
  obtain ⟨stores, n, st'', hread⟩ := hr
  simp only [C_GetAttributeValue, hi, hs, hf, Bool.not_true, Bool.false_eq_true, if_false,
    decide_true, Bool.and_self, if_true, fakeRutokenFeatureLoad, List.map_cons, List.map_nil,
    featureRetrieve, hmine, List.foldl_cons, List.foldl_nil, filled, List.length_cons,
    List.length_nil, Prod.mk.injEq] at hread
  obtain ⟨_, hw, _⟩ := hread
  split at hw
  · simp at hw
  · have hv : mine.length = v.length ∧ mine = v := by simpa using hw
    rw [hp', hv.2]

lemma matches_simple {decrypt : ByteString → Option ByteString} {isPrivate : Bool}
    {attr : OSAttribute} {e : CK_ATTRIBUTE}
    (h : matchAttribute decrypt isPrivate attr e = .matches) :
    (simpleValue attr).isSome = true := by
  rcases matches_iff.1 h with ⟨b, w, rfl, _⟩ | ⟨n, w, rfl, _⟩ | ⟨stored, w, rfl, _⟩ <;> rfl

/-- The first verdict where only one entry is asked for. -/
lemma Store.firstStop_none (h : st.firstStop P s T = none) {o : Obj} (hvis : Visible st s o) :
    stops (verdict (decrypt P (st.sdm (st.session s).slotID)) T (st.object o)) = false :=
  firstStop_none_iff.1 h o hvis.1 hvis.2

/-- **Searching and reading agree** exactly where nothing stops a search that it should not, and
no Boolean is asked for with a byte that is neither true nor false. -/
theorem search_agrees_iff (hst : st.Ok home) (hi : st.isInitialised = true) {slotID : CK_SLOT_ID}
    (hs : st.handleManager.handles hSession = some (.session slotID s))
    (hop : (st.session s).opType = .none) (T : List CK_ATTRIBUTE) :
    Agrees P st hSession s T ↔ Clean P st s T := by
  have hget : st.handleManager.getSession hSession = some s := by rw [getSession, hs]
  have hfar : ∀ {h o}, st.handleManager.getObject h = some o →
      (st.fakeRutokenECP && decide (h = FAKE_RUTOKEN_FEATURE_HANDLE)) = false := by
    intro h o ho
    cases hf : st.fakeRutokenECP
    · rfl
    · obtain ⟨e, he, _⟩ := (hst.handles.objects o h).1 ((getObject_iff hst.handles).1 ho)
      have hissued := (hst.handles.issued h e he).2
      have hcount := hst.counter slotID
      rw [if_pos hf] at hcount
      simp only [Bool.true_and, decide_eq_false_iff_not]
      omega
  have hreads : ∀ {o hObject type attr v}, Visible st s o →
      st.handleManager.getObject hObject = some o →
      OrderedMap.get type (st.object o).attributes = some attr →
      (simpleValue attr).isSome = true →
      (Reads P st hSession hObject type v ↔ Shows P st s o type attr v) := by
    intro o hObject type attr v hvis ho hattr hsimple
    exact reads_iff hst.complete hi hget hvis ho (hfar ho) hattr hsimple
  rcases findObjectsInit_spec (P := P) hst hi hs hop T with
    ⟨hstop, hinit⟩ | ⟨hstop, st', hinit⟩ | ⟨hstop, st', hinit, hsearched⟩
  · -- a null pointer is followed
    refine iff_of_false (fun h => h.returns hinit) fun h => h.noNull hstop
  · -- a value cannot be decrypted: the search fails
    have hfail : ∀ {st''}, C_FindObjectsInit P hSession (some T) st ≠ some (CKR_OK, st'') := by
      intro st'' h
      rw [hinit] at h
      cases h
    constructor
    · intro h
      refine ⟨by rw [hstop]; simp, fun _ => ?_, fun hn => by rw [hstop] at hn; cases hn⟩
      rintro ⟨o, hObject, e, attr, v, hvis, ho, hT, hp, hattr, hsimple, hshows⟩
      obtain ⟨st'', h', hok, _⟩ := h.finds o hObject e attr v hvis ho hT hp hattr hsimple
        ((hreads hvis ho hattr hsimple).2 hshows)
      exact hfail hok
    · intro h
      constructor
      case returns => rw [hinit]; simp
      case finds =>
        intro o hObject e attr v hvis ho hT hp hattr hsimple hread
        exact absurd ⟨o, hObject, e, attr, v, hvis, ho, hT, hp, hattr, hsimple,
          (hreads hvis ho hattr hsimple).1 hread⟩ (h.decrypted hstop)
      case visible => exact fun st'' _ hok => absurd hok hfail
      case readsBack => exact fun st'' _ hok => absurd hok hfail
      case nulls => exact fun st'' _ hok => absurd hok hfail
  · -- nothing ends the search
    have honly : ∀ {st''}, C_FindObjectsInit P hSession (some T) st = some (CKR_OK, st'') →
        st'' = st' := by
      intro st'' h
      rw [hinit, Option.some.injEq, Prod.mk.injEq] at h
      exact h.2.symm
    have hshows : ∀ {o type attr v}, Shows P st' s o type attr v ↔ Shows P st s o type attr v := by
      intro o type attr v
      simp only [Shows, hsearched.object, hsearched.sdm, hsearched.slotID,
        hsearched.fakeRutokenECP]
    have hreads' : ∀ {o h type attr v}, Visible st s o →
        st'.handleManager.getObject h = some o →
        OrderedMap.get type (st.object o).attributes = some attr →
        (simpleValue attr).isSome = true →
        (Reads P st' hSession h type v ↔ Shows P st s o type attr v) := by
      intro o h type attr v hvis ho hattr hsimple
      rw [← hshows]
      refine reads_iff ?_ hsearched.initialised hsearched.session ((hsearched.visible o).2 hvis) ho
        ?_ (by rw [hsearched.object]; exact hattr) hsimple
      · rw [hsearched.object]
        exact hst.complete
      · rw [hsearched.fakeRutokenECP]
        cases hf : st.fakeRutokenECP
        · rfl
        · simpa using hsearched.feature hf h o ho
    constructor
    · intro h
      refine ⟨by rw [hstop]; simp, (fun hr => by rw [hstop] at hr; cases hr), fun _ => ?_⟩
      intro o hvis hv e he hattr hk
      obtain ⟨h0, ho⟩ := hsearched.handle o hvis hv
      have hfound : Found hSession st' h0 := (hsearched.found h0).2 (.inr ⟨o, hvis, hv, ho⟩)
      have hvalid : (st.object o).valid = true := by
        have hsk := hvis.2
        simp only [skipped, Bool.or_eq_false_iff, Bool.not_eq_false'] at hsk
        exact hsk.1
      have hread := (hreads' hvis ho hattr rfl).2
        (shows_boolean (hst.complete o hvalid) hattr hk)
      have hbytes := (h.readsBack st' h0 hinit hfound e he _ hread).1
      rw [CK_ATTRIBUTE.bool, hbytes]
      rfl
    · intro h
      constructor
      case returns => rw [hinit]; simp
      case finds =>
        intro o hObject e attr v hvis ho hT hp hattr hsimple hread
        obtain ⟨⟨p, a, _, _, _, hshown⟩, _⟩ := (hreads hvis ho hattr hsimple).1 hread
        have hgo := st.firstStop_none hstop hvis
        have hv : verdict (decrypt P (st.sdm (st.session s).slotID)) T (st.object o) =
            .matches := by
          rcases matchAttribute_of_shown hp hshown with hm | hm
          · refine matchTemplate_matches.2 fun e' he' => ?_
            rw [hT, List.mem_singleton] at he'
            subst he'
            exact ⟨attr, hattr, hm⟩
          · exfalso
            rw [hT, verdict, matchTemplate, hattr] at hgo
            simp only [hm] at hgo
            cases hgo
        obtain ⟨h0, ho'⟩ := hsearched.handle o hvis hv
        exact ⟨st', h0, hinit, (hsearched.found h0).2 (.inr ⟨o, hvis, hv, ho'⟩), ho'⟩
      case visible =>
        intro st'' h0 hok hfound
        rw [honly hok] at hfound ⊢
        rcases (hsearched.found h0).1 hfound with ⟨h1, _, h2⟩ | ⟨o, hvis, _, ho⟩
        · exact .inl ⟨h1, h2⟩
        · exact .inr ⟨o, hvis, ho⟩
      case readsBack =>
        intro st'' h0 hok hfound e he v hread
        rw [honly hok] at hfound hread
        rcases (hsearched.found h0).1 hfound with ⟨h1, h2, rfl⟩ | ⟨o, hvis, hv, ho⟩
        · have hp := feature_readsBack hsearched.initialised hsearched.session
            (hsearched.fakeRutokenECP.trans h1) h2 he hread
          simp [CK_ATTRIBUTE.bytes, CK_ATTRIBUTE.ulValueLen, hp]
        · obtain ⟨attr, hattr, hm⟩ := matchTemplate_matches.1 hv e he
          obtain ⟨⟨p, a, hp, ha, _, hshown⟩, _⟩ :=
            (hreads' hvis ho hattr (matches_simple hm)).1 hread
          refine shown_of_matches hm hshown fun hfalse => ?_
          subst hfalse
          exact h.canonical hstop o hvis hv e he hattr ⟨p, a, hp, ha⟩
      case nulls =>
        intro st'' h0 hok hfound e he hp
        rw [honly hok] at hfound
        rcases (hsearched.found h0).1 hfound with ⟨h1, h2, rfl⟩ | ⟨o, hvis, hv, ho⟩
        · obtain ⟨hall, _⟩ := Bool.and_eq_true_iff.1 h2
          have hentry := List.all_eq_true.1 hall e he
          rw [hp] at hentry
          simp at hentry
        · obtain ⟨attr, _, hm⟩ := matchTemplate_matches.1 hv e he
          rcases matches_iff.1 hm with ⟨b, w, _, hw, _⟩ | ⟨n, w, _, hw, _⟩ |
            ⟨stored, w, _, _, hl, hw⟩
          · rw [hp] at hw; cases hw
          · rw [hp] at hw; cases hw
          · rcases hw with rfl | hw
            · exact hl.symm
            · rw [hp] at hw; cases hw

end state

/-! ### A key with a date that was stored in the clear -/

def startDate : ByteString := [0x32, 0x30, 0x32, 0x34, 0x30, 0x31, 0x30, 0x31]

/-- What a private key of a token holds before the defaults. -/
def datedStart : OSObject :=
  ⟨false, [(CKA_CLASS, .unsignedLong CKO_SECRET_KEY), (CKA_TOKEN, .boolean true),
    (CKA_PRIVATE, .boolean true), (CKA_KEY_TYPE, .unsignedLong CKK_GENERIC_SECRET),
    (CKA_START_DATE, .byteString startDate)], true, none, false⟩

def datedKey : OSObject := (newP11Object (fun _ => .done) datedStart).2

/-- One session of the user, and the key, which has a handle. -/
def oneDatedKey : Store Unit Unit where
  isInitialised := true
  fakeRutokenECP := false
  handleManager := ((HandleManager.empty.addSession 0 ()).2.addTokenObject 0 true ()).2
  session := fun _ => ⟨0, true, .none, none⟩
  sdm := fun _ => ⟨[], [], false, true, List.replicate 32 0, List.replicate 32 0⟩
  allObjects := fun slotID => if slotID = 0 then [()] else []
  object := fun _ => datedKey

def plainCopies : Primitives := ⟨id, fun _ _ x => x, fun _ _ x => some x⟩

lemma datedStart_kind :
    attributeKind datedStart.attributes = some (P11GenericSecretKeyObj CKK_GENERIC_SECRET) := by
  have hclass : datedStart.attributes.getUnsignedLongValue CKA_CLASS CKO_VENDOR_DEFINED =
      CKO_SECRET_KEY := by decide
  have htype : datedStart.attributes.getUnsignedLongValue CKA_KEY_TYPE CKK_RSA =
      CKK_GENERIC_SECRET := by decide
  rw [attributeKind, hclass, htype]
  rfl

lemma complete_datedKey : Complete datedKey.attributes := by
  have hinit : ((P11GenericSecretKeyObj CKK_GENERIC_SECRET).init (fun _ => .done)
      datedStart).1 = true := by decide
  have hnew : newP11Object (fun _ => .done) datedStart =
      (.ok (P11GenericSecretKeyObj CKK_GENERIC_SECRET), datedKey) := by
    unfold datedKey newP11Object
    rw [kindOf_of_valid rfl, datedStart_kind]
    rcases hr : (P11GenericSecretKeyObj CKK_GENERIC_SECRET).init (fun _ => .done) datedStart with
      ⟨ok, o⟩
    rw [hr] at hinit
    simp only at hinit
    subst hinit
    simp only [hr]
  refine complete_of_newP11Object rfl (fun q hq => ?_) hnew
  rw [datedStart_kind, Option.some.injEq] at hq
  subst hq
  exact kinded_of_all (by decide)

lemma ok_oneDatedKey : oneDatedKey.Ok (fun _ => 0) where
  handles := rep_addTokenObject (o := ())
    (rep_addSession (rep_empty fun _ => 0) (by decide) 0 ()) (by decide)
  sessions h slotID s hs := by
    have hslot : slotID = 0 := by
      change Function.update (Function.update (fun _ => none : ℕ → Option (Handle Unit Unit)) 1
        (some (.session 0 ()))) 2 (some (.object 0 0 true ())) h = some (.session slotID s) at hs
      by_cases h2 : h = 2
      · rw [h2, Function.update_self] at hs
        cases hs
      · rw [Function.update_of_ne h2] at hs
        by_cases h1 : h = 1
        · rw [h1, Function.update_self] at hs
          cases hs
          rfl
        · rw [Function.update_of_ne h1] at hs
          cases hs
    rw [hslot]
    rfl
  slot slotID o ho := by
    simp only [oneDatedKey] at ho
    split at ho
    · rename_i h
      exact h.symm
    · cases ho
  counter slotID := by
    simp only [oneDatedKey]
    split <;> decide
  complete _ _ := complete_datedKey

/-- A search by class agrees with reading. -/
theorem search_agrees_by_class :
    Agrees plainCopies oneDatedKey 1 () [⟨CKA_CLASS, some (ulongBytes CKO_SECRET_KEY), 0⟩] := by
  have hsession : oneDatedKey.handleManager.handles 1 = some (.session 0 ()) := rfl
  refine (search_agrees_iff ok_oneDatedKey rfl hsession rfl _).2 ?_
  have hstop : oneDatedKey.firstStop plainCopies ()
      [⟨CKA_CLASS, some (ulongBytes CKO_SECRET_KEY), 0⟩] = none := by decide
  refine ⟨by rw [hstop]; simp, (fun h => by rw [hstop] at h; cases h), fun _ o _ _ e he hget _ => ?_⟩
  rw [List.mem_singleton] at he
  subst he
  have hclass : datedKey.attributes.getUnsignedLongValue CKA_CLASS CKO_VENDOR_DEFINED =
      CKO_SECRET_KEY := by decide
  have hfalse : OrderedMap.get CKA_CLASS datedKey.attributes = some (.boolean false) := hget
  rw [AttributeMap.getUnsignedLongValue, hfalse] at hclass
  cases hclass

/-- The date is read, and the search for it fails. -/
theorem search_for_legacy_date_fails :
    oneDatedKey.Ok (fun _ => 0) ∧ Reads plainCopies oneDatedKey 1 2 CKA_START_DATE startDate ∧
    ¬ Agrees plainCopies oneDatedKey 1 () [⟨CKA_START_DATE, some startDate, 0⟩] := by
  have hread : Reads plainCopies oneDatedKey 1 2 CKA_START_DATE startDate := by
    refine ⟨fun _ => .done, 8, (C_GetAttributeValue plainCopies (fun _ => .done) 1 2
      (some [⟨CKA_START_DATE, true, 8, []⟩]) oneDatedKey).2.2, ?_⟩
    exact Prod.ext (by decide) (Prod.ext (by decide) rfl)
  have hfail : (C_FindObjectsInit plainCopies 1 (some [⟨CKA_START_DATE, some startDate, 0⟩])
      oneDatedKey).map (·.1) = some CKR_GENERAL_ERROR := by decide
  have hget : OrderedMap.get CKA_START_DATE datedKey.attributes = some (.byteString startDate) :=
    AttributeMap.get_of_getByteStringValue (by decide) (by decide)
  refine ⟨ok_oneDatedKey, hread, fun h => ?_⟩
  obtain ⟨st', _, hinit, _⟩ := h.finds () 2 _ (.byteString startDate) startDate
    ⟨by decide, by decide⟩ rfl rfl rfl hget rfl hread
  rw [hinit] at hfail
  cases hfail

end SoftHSM.Search
