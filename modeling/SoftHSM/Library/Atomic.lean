import SoftHSM.HandleMgr.Remove
import SoftHSM.Library.Stored

/-!
What a call that makes objects leaves behind when it fails: the objects that are still there, and
the handles. Only an object that already has a handle is removed.
-/

set_option linter.unusedSectionVars false

namespace SoftHSM.Create

open CK_RV Search P11Object OSObject
open RecordFile (Write)

variable {Obj Sess : Type} [DecidableEq Obj] [DecidableEq Sess]

/-! ### What is there -/

/-- An object that is there: it is valid, or it will be when its file is read. -/
def present (o : OSObject) : Bool := o.valid || !o.isSession && o.file.isSome

def presentObjects (st : Store Obj Sess) (slotID : CK_SLOT_ID) : List Obj :=
  (st.allObjects slotID).filter fun o => present (st.object o)

/-- The objects that are there are those before, as they were, and so are the handles. -/
structure Unchanged (st st' : Store Obj Sess) : Prop where
  objects : ∀ slotID, presentObjects st' slotID = presentObjects st slotID
  contents : ∀ slotID, ∀ o ∈ st.allObjects slotID, st'.object o = st.object o
  handles : ∀ h, st'.handleManager.getObject h = st.handleManager.getObject h

lemma Unchanged.refl (st : Store Obj Sess) : Unchanged st st :=
  ⟨fun _ => rfl, fun _ _ _ => rfl, fun _ => rfl⟩

/-- An object is still there. -/
def Left (o : Obj) (st : Store Obj Sess) : Prop :=
  (∃ slotID, o ∈ st.allObjects slotID) ∧ present (st.object o) = true

/-- What was there is as it was, besides objects at new addresses. -/
structure Beside (news : List Obj) (st st' : Store Obj Sess) : Prop where
  lists : ∀ slotID, (st'.allObjects slotID).filter (· ∉ news) = st.allObjects slotID
  objects : ∀ o ∉ news, st'.object o = st.object o

section beside

variable {news : List Obj} {st st' : Store Obj Sess} {o : Obj} {m : Making Obj} {y : OSObject}
  {slotID : CK_SLOT_ID}

lemma Beside.refl (hnew : ∀ o ∈ news, ∀ slotID, o ∉ st.allObjects slotID) : Beside news st st := by
  refine ⟨fun slotID => ?_, fun _ _ => rfl⟩
  rw [List.filter_eq_self]
  intro o ho
  simp only [decide_eq_true_eq]
  exact fun hn => hnew o hn slotID ho

/-- **Nothing has changed** exactly if no new object is left. -/
theorem Beside.unchanged_iff (h : Beside news st st')
    (hh : st'.handleManager.handles = st.handleManager.handles) :
    Unchanged st st' ↔ ∀ o ∈ news, ¬ Left o st' := by
  have hmem : ∀ {slotID o}, o ∈ st.allObjects slotID → o ∉ news := by
    intro slotID o ho
    rw [← h.lists slotID, List.mem_filter] at ho
    exact of_decide_eq_true ho.2
  constructor
  · rintro hu o ho ⟨⟨slotID, hin⟩, hp⟩
    have hpo : o ∈ presentObjects st' slotID := List.mem_filter.2 ⟨hin, hp⟩
    rw [hu.objects slotID] at hpo
    exact hmem (List.mem_filter.1 hpo).1 ho
  · intro hleft
    refine ⟨fun slotID => ?_, fun slotID o ho => h.objects o (hmem ho), fun k => ?_⟩
    · have hnews : presentObjects st' slotID =
          ((st'.allObjects slotID).filter (· ∉ news)).filter fun o => present (st'.object o) := by
        rw [presentObjects, List.filter_filter]
        refine List.filter_congr fun o ho => ?_
        cases hp : present (st'.object o)
        · rw [Bool.false_and]
        · have hn : o ∉ news := fun hn => hleft o hn ⟨⟨slotID, ho⟩, hp⟩
          rw [Bool.true_and, decide_eq_true hn]
      rw [hnews, h.lists, presentObjects]
      refine List.filter_congr fun o ho => ?_
      rw [h.objects o (hmem ho)]
    · rw [HandleManager.getObject, hh, HandleManager.getObject]

lemma Beside.insert (h : Beside news st st') (hm : m.newObject ∈ news) :
    Beside news st (insertObject slotID m y st') := by
  refine ⟨fun s => ?_, fun o ho => ?_⟩
  · rw [← h.lists s]
    by_cases hs : s = slotID
    · subst hs
      simp only [insertObject, Function.update_self, List.filter_append]
      rw [List.filter_cons_of_neg (by simpa using hm), ← List.filter_append, List.take_append_drop]
    · simp only [insertObject, Function.update_of_ne hs]
  · rw [← h.objects o ho]
    have hne : o ≠ m.newObject := fun he => ho (he ▸ hm)
    simp only [insertObject, Store.setObject, Function.update_of_ne hne]

lemma Beside.destroy (h : Beside news st st') (ho : o ∈ news) (r : Removal) :
    Beside news st (destroyObject r o st') := by
  have hset : ∀ x : OSObject, ∀ o' ∉ news, (st'.setObject o x).object o' = st.object o' := by
    intro x o' ho'
    rw [← h.objects o' ho']
    have hne : o' ≠ o := fun he => ho' (he ▸ ho)
    exact Function.update_of_ne hne _ _
  unfold destroyObject
  dsimp only
  split
  · refine ⟨fun s => ?_, fun o' ho' => hset _ o' ho'⟩
    rw [← h.lists s]
    have herase : ∀ l : List Obj, (l.erase o).filter (· ∉ news) = l.filter (· ∉ news) := by
      intro l
      induction l with
      | nil => rfl
      | cons a l ih =>
        by_cases ha : a = o
        · subst ha
          rw [List.erase_cons_head, List.filter_cons_of_neg (by simpa using ho)]
        · rw [List.erase_cons_tail (by simpa using ha), List.filter_cons, ih, List.filter_cons]
    exact herase _
  · split
    · exact ⟨h.lists, fun o' ho' => hset _ o' ho'⟩
    · exact ⟨h.lists, fun o' ho' => hset _ o' ho'⟩

lemma left_insert : Left m.newObject (insertObject slotID m y st) ↔ present y = true := by
  unfold Left
  simp only [insertObject, Store.setObject, Function.update_self, and_iff_right_iff_imp]
  intro _
  exact ⟨slotID, by simp⟩

lemma mem_insert_of_ne (hne : o ≠ m.newObject) (s : CK_SLOT_ID) :
    o ∈ (insertObject slotID m y st).allObjects s ↔ o ∈ st.allObjects s := by
  by_cases hs : s = slotID
  · subst hs
    simp only [insertObject, Function.update_self, List.mem_append, List.mem_cons, hne, false_or]
    rw [← List.mem_append, List.take_append_drop]
  · simp only [insertObject, Function.update_of_ne hs]

lemma object_insert_of_ne (hne : o ≠ m.newObject) :
    (insertObject slotID m y st).object o = st.object o := by
  simp only [insertObject, Store.setObject, Function.update_of_ne hne]

/-- What is left of an object that is destroyed. -/
def remains (r : Removal) (o : OSObject) : Bool := !o.isSession && !r.file && o.file.isSome

lemma left_destroy (r : Removal) : Left o (destroyObject r o st) ↔
    (∃ slotID, o ∈ st.allObjects slotID) ∧ remains r (st.object o) = true := by
  unfold Left destroyObject
  dsimp only
  split
  · rename_i hc
    simp only [Store.setObject, Function.update_self, present, remains]
    cases hs : (st.object o).isSession <;> cases hf : r.file <;> simp [hs, hf] at hc ⊢
  · rename_i hc
    split
    · rename_i hf
      simp [Store.setObject, present, remains, hf]
    · rename_i hf
      cases hs : (st.object o).isSession <;> simp [hs, hf] at hc
      simp [Store.setObject, present, remains, hf, hs]

lemma destroyObject_of_ne {o' : Obj} (hne : o' ≠ o) (r : Removal) :
    (∀ slotID, o' ∈ (destroyObject r o st).allObjects slotID ↔ o' ∈ st.allObjects slotID) ∧
      (destroyObject r o st).object o' = st.object o' := by
  unfold destroyObject
  dsimp only
  split
  · simp only [Store.setObject, Function.update_of_ne hne, List.mem_erase_of_ne hne,
      implies_true, and_self]
  · split <;> simp only [Store.setObject, Function.update_of_ne hne, implies_true, and_self]

end beside

/-! ### Handles -/

/-- One handle has been issued, for an object. -/
structure Issues (o : Obj) (h : ℕ) (handles : ℕ → Option (Handle Obj Sess))
    (m : HandleManager Obj Sess) : Prop where
  valid : h ≠ CK_INVALID_HANDLE
  free : handles h = none
  handles : ∃ s hSession isPrivate,
    m.handles = Function.update handles h (some (.object s hSession isPrivate o))

section handles

variable {m m' : HandleManager Obj Sess} {o : Obj} {h : ℕ} {st : Store Obj Sess}
  {handles : ℕ → Option (Handle Obj Sess)}

lemma Issues.getObject (hi : Issues o h handles m) : m.getObject h = some o := by
  obtain ⟨s, S, p, he⟩ := hi.handles
  rw [HandleManager.getObject, he, Function.update_self]

lemma Issues.getSession (hi : Issues o h m.handles m') (k : ℕ) :
    m'.getSession k = m.getSession k := by
  obtain ⟨s, S, p, he⟩ := hi.handles
  by_cases hk : k = h
  · subst hk
    rw [HandleManager.getSession, he, Function.update_self, HandleManager.getSession, hi.free]
  · rw [HandleManager.getSession, he, Function.update_of_ne hk, HandleManager.getSession]

/-- When the handle is destroyed, the handles are those before. -/
lemma Issues.destroy (hi : Issues o h handles m) : (m.destroyObject h).1.handles = handles := by
  obtain ⟨s, S, p, he⟩ := hi.handles
  have hm : m.handles h = some (.object s S p o) := by rw [he, Function.update_self]
  rw [HandleManager.destroyObject, hm]
  simp only [he, Function.update_idem, hi.free.symm, Function.update_eq_self]

/-- Room for new handles: no handle is above the counter, which does not wrap around. -/
structure Room (k : ℕ) (m : HandleManager Obj Sess) : Prop where
  issued : ∀ h e, m.handles h = some e → h ≤ m.handleCounter
  counter : m.handleCounter + k < 2 ^ 64

lemma addHandle_issues {k : ℕ} (slotID : CK_SLOT_ID) (hSession : ℕ) (isOnToken isPrivate : Bool)
    (st : Store Obj Sess) (hroom : Room (k + 1) st.handleManager) (ho : st.handleManager.objects o = none) :
    ∃ h hm, addHandle slotID hSession isOnToken isPrivate o st =
        (h, { st with handleManager := hm }) ∧
      Issues o h st.handleManager.handles hm ∧ Room k hm ∧
      hm.objects = Function.update st.handleManager.objects o (some h) := by
  have hnext : st.handleManager.nextHandle = st.handleManager.handleCounter + 1 :=
    Nat.mod_eq_of_lt (by have := hroom.counter; omega)
  have hfree : st.handleManager.handles (st.handleManager.handleCounter + 1) = none := by
    cases he : st.handleManager.handles (st.handleManager.handleCounter + 1) with
    | none => rfl
    | some e =>
      have := hroom.issued _ _ he
      omega
  have hissued : ∀ e', ∀ k e, Function.update st.handleManager.handles
      (st.handleManager.handleCounter + 1) (some e') k = some e →
      k ≤ st.handleManager.handleCounter + 1 := by
    intro e' k e hk
    by_cases hkh : k = st.handleManager.handleCounter + 1
    · omega
    · rw [Function.update_of_ne hkh] at hk
      have := hroom.issued _ _ hk
      omega
  have hcounter : st.handleManager.handleCounter + 1 + k < 2 ^ 64 := by
    have := hroom.counter
    omega
  cases isOnToken
  · refine ⟨_, _, by rw [addHandle, if_neg Bool.false_ne_true], ?_⟩
    rw [HandleManager.addSessionObject, HandleManager.registered, ho]
    simp only [hnext]
    exact ⟨⟨Nat.succ_ne_zero _, hfree, _, _, _, rfl⟩, ⟨hissued _, hcounter⟩, trivial⟩
  · refine ⟨_, _, by rw [addHandle, if_pos rfl], ?_⟩
    rw [HandleManager.addTokenObject, HandleManager.registered, ho]
    simp only [hnext]
    exact ⟨⟨Nat.succ_ne_zero _, hfree, _, _, _, rfl⟩, ⟨hissued _, hcounter⟩, trivial⟩

lemma Issues.frame (hi : Issues o h handles m) :
    (m.destroyObject h).1.objects = Function.update m.objects o none ∧
      (m.destroyObject h).1.handleCounter = m.handleCounter := by
  obtain ⟨s, S, p, he⟩ := hi.handles
  have hm : m.handles h = some (.object s S p o) := by rw [he, Function.update_self]
  rw [HandleManager.destroyObject, hm]
  exact ⟨rfl, rfl⟩

/-- Removing a key, where its handle was the last one issued. -/
lemma removeKey_eq (hi : Issues o h handles st.handleManager) (r : Removal) :
    removeKey r h st =
      destroyObject r o { st with handleManager := (st.handleManager.destroyObject h).1 } := by
  rw [removeKey, if_neg hi.valid, hi.getObject]

lemma destroyObject_frame (r : Removal) (o : Obj) (st : Store Obj Sess) :
    (destroyObject r o st).handleManager = st.handleManager ∧
    (destroyObject r o st).session = st.session ∧ (destroyObject r o st).sdm = st.sdm ∧
    (destroyObject r o st).isInitialised = st.isInitialised := by
  unfold destroyObject
  dsimp only
  split
  · exact ⟨rfl, rfl, rfl, rfl⟩
  · split <;> exact ⟨rfl, rfl, rfl, rfl⟩

end handles

/-! ### Making an object -/

/-- A new object. -/
def blank (isOnToken : Bool) : OSObject := stored isOnToken []

/-- What `CreateObject` makes: its answer, and the object unless there is not even a file. -/
def makeObject (plan : Plan) (m : Making Obj) (op : ObjectOp) : CK_RV × Option OSObject :=
  if plan.info.isOnToken ≠ CK_FALSE then
    match m.file with
    | .done => ((fillObject plan m op (blank true)).1, some (fillObject plan m op (blank true)).2)
    | .refused => (CKR_GENERAL_ERROR, none)
    | .torn => (CKR_GENERAL_ERROR, some ⟨false, [], false, some [], false⟩)
  else ((fillObject plan m op (blank false)).1, some (fillObject plan m op (blank false)).2)

section make

variable {P : Primitives} {x : Outside} {m : Making Obj} {hSession : ℕ} {op : ObjectOp}
  {pTemplate : Option (List CK_ATTRIBUTE)} {st st' : Store Obj Sess} {plan : Plan}

/-- The checks do not look at objects. -/
lemma planObject_congr (h1 : st'.isInitialised = st.isInitialised)
    (h2 : st'.handleManager.getSession hSession = st.handleManager.getSession hSession)
    (h3 : st'.session = st.session) (h4 : st'.sdm = st.sdm) :
    planObject P x hSession pTemplate st' = planObject P x hSession pTemplate st := by
  simp only [planObject, Store.getState, h1, h2, h3, h4]

lemma setObject_insertObject (slotID : CK_SLOT_ID) (y z : OSObject) :
    (insertObject slotID m y st).setObject m.newObject z = insertObject slotID m z st := by
  simp only [insertObject, Store.setObject, Function.update_idem]

lemma object_insertObject (slotID : CK_SLOT_ID) (y : OSObject) :
    (insertObject slotID m y st).object m.newObject = y := by
  simp only [insertObject, Store.setObject, Function.update_self]

/-- **What `CreateObject` does.** -/
theorem CreateObject_eq (hplan : planObject P x hSession pTemplate st = .ok plan) :
    CreateObject P x m hSession pTemplate op st =
      match makeObject plan m op with
      | (CKR_OK, some y) =>
        let (h, st) := addHandle plan.slotID hSession (plan.info.isOnToken ≠ CK_FALSE)
          (plan.info.isPrivate ≠ CK_FALSE) m.newObject (insertObject plan.slotID m y st)
        (CKR_OK, h, st)
      | (rv, some y) => (rv, CK_INVALID_HANDLE, insertObject plan.slotID m y st)
      | (rv, none) => (rv, CK_INVALID_HANDLE, st) := by
  unfold CreateObject
  rw [hplan]
  dsimp only
  by_cases ht : plan.info.isOnToken ≠ CK_FALSE
  · rw [makeObject, if_pos ht]
    simp only [createObject, decide_eq_true ht, if_true]
    cases m.file
    · dsimp only
      rw [object_insertObject]
      rcases hf : fillObject plan m op (blank true) with ⟨rv, y⟩
      rw [show ⟨false, [], true, some [], false⟩ = blank true from rfl, hf]
      cases rv <;> simp only [setObject_insertObject]
    · rfl
    · rfl
  · rw [makeObject, if_neg ht]
    simp only [createObject, decide_eq_false ht, Bool.false_eq_true, if_false]
    rw [object_insertObject]
    rcases hf : fillObject plan m op (blank false) with ⟨rv, y⟩
    rw [show ⟨true, [], true, none, false⟩ = blank false from rfl, hf]
    cases rv <;> simp only [setObject_insertObject]

end make

/-! ### The steps of the making of an object -/

/-- What is stored in the transaction of `CreateObject` itself. -/
def ownOf (plan : Plan) (op : ObjectOp) : List (CK_ATTRIBUTE_TYPE × OSAttribute) :=
  if op = .CREATE then ownAttributes plan.info.objClass else []

/-- The defaults that the template finds. -/
def defaults (b : Bool) (plan : Plan) (m : Making Obj) : AttributeMap :=
  (plan.p11object.init m.stores (blank b)).2.attributes

/-- The template is accepted, and has all that is needed. -/
structure Accepted (b : Bool) (plan : Plan) (m : Making Obj) (op : ObjectOp) : Prop where
  init : (plan.p11object.init m.stores (blank b)).1 = true
  template : (plan.p11object.updateAll plan.token (plan.info.isPrivate ≠ CK_FALSE) op plan.attribs
    (defaults b plan m)).1 = CKR_OK
  complete : incomplete plan.p11object op plan.attribs = false

/-- No step fails once there is an object. -/
structure Completes (b : Bool) (plan : Plan) (m : Making Obj) (op : ObjectOp) : Prop
    extends Accepted b plan m op where
  save : b = true → m.save.locks = true ∧ m.save.commit = .done
  own : b = true → ownOf plan op ≠ [] → m.own.locks = true ∧ m.own.commit = .done

/-- The first step that fails leaves a file that cannot be read. -/
inductive Unreadable (plan : Plan) (m : Making Obj) (op : ObjectOp) : Prop
  | init (h : (plan.p11object.init m.stores (blank true)).1 = false)
      (hfile : (plan.p11object.init m.stores (blank true)).2.file = none)
  | save (h : Accepted true plan m op) (hlocks : m.save.locks = true) (hw : m.save.commit = .torn)
  | own (h : Accepted true plan m op) (hlocks : m.save.locks = true) (hw : m.save.commit = .done)
      (hown : ownOf plan op ≠ []) (hlocks' : m.own.locks = true) (hw' : m.own.commit = .torn)

section steps

variable {b : Bool} {plan : Plan} {m : Making Obj} {op : ObjectOp}

lemma present_stored (m : AttributeMap) : present (stored b m) = true := by cases b <;> rfl

lemma fillObject_eq {m₀ : AttributeMap}
    (hi : plan.p11object.init m.stores (blank b) = (true, stored b m₀)) {rv : CK_RV} {o : OSObject}
    (hs : plan.p11object.saveTemplate plan.token (plan.info.isPrivate ≠ CK_FALSE) m.save
      plan.attribs op (stored b m₀) = (rv, o)) :
    fillObject plan m op (blank b) =
      if rv = CKR_OK then setOwn m.own (ownOf plan op) o else (rv, o) := by
  rw [fillObject, hi]
  dsimp only
  rw [hs]
  cases rv <;> rfl

/-- The transaction of `CreateObject` itself, the last step. -/
lemma setOwn_cases (b : Bool) (m : Making Obj) (m₀ : AttributeMap)
    (l : List (CK_ATTRIBUTE_TYPE × OSAttribute)) :
    (setOwn m.own l (stored b m₀)).1 = CKR_OK ∧
      (b = true → l ≠ [] → m.own.locks = true ∧ m.own.commit = .done) ∧
      (∃ m', (setOwn m.own l (stored b m₀)).2 = stored b m') ∨
    (setOwn m.own l (stored b m₀)).1 ≠ CKR_OK ∧ b = true ∧ l ≠ [] ∧
      ¬ (m.own.locks = true ∧ m.own.commit = .done) ∧
      (present (setOwn m.own l (stored b m₀)).2 = false ↔
        m.own.locks = true ∧ m.own.commit = .torn) := by
  rw [setOwn_stored]
  by_cases hl : l = []
  · rw [if_pos hl]
    exact .inl ⟨rfl, fun _ h => absurd hl h, m₀, rfl⟩
  rw [if_neg hl]
  cases b
  · rw [Bool.false_and, if_neg Bool.false_ne_true]
    exact .inl ⟨rfl, fun h _ => absurd h Bool.false_ne_true, putAll l m₀, rfl⟩
  · cases hlocks : m.own.locks
    · simp [present_stored, hl]
    · cases hw : m.own.commit <;> simp [committed, answered, present, hl, stored]

/-- **How the making of an object turns out.** -/
theorem fillObject_cases (hp : plan.p11object.attributes ≠ []) (h : op ≠ .SET) (h' : op ≠ .COPY) :
    (fillObject plan m op (blank b)).1 = CKR_OK ∧ Completes b plan m op ∧
      (∃ m', (fillObject plan m op (blank b)).2 = stored b m') ∨
    (fillObject plan m op (blank b)).1 ≠ CKR_OK ∧ ¬ Completes b plan m op ∧
      (present (fillObject plan m op (blank b)).2 = false ↔ b = true ∧ Unreadable plan m op) := by
  rcases init_stored (b := b) (m := []) m.stores hp with
    ⟨m₀, hi⟩ | ⟨rfl, o, hi, hv, hs⟩
  · have hinit : (plan.p11object.init m.stores (blank b)).1 = true := by rw [blank, hi]
    have hdef : defaults b plan m = m₀ := by
      rw [defaults, blank, hi]
      cases b <;> rfl
    have hacc : Accepted b plan m op ↔
        (plan.p11object.updateAll plan.token (plan.info.isPrivate ≠ CK_FALSE) op plan.attribs
          m₀).1 = CKR_OK ∧ incomplete plan.p11object op plan.attribs = false :=
      ⟨fun ha => ⟨hdef ▸ ha.template, ha.complete⟩, fun ha => ⟨hinit, hdef ▸ ha.1, ha.2⟩⟩
    have hread : ∀ {Q : Prop}, b = true → (Accepted true plan m op → Q) →
        Unreadable plan m op → m.save.locks = true ∧ Q := by
      rintro Q rfl hq (⟨hf, -⟩ | ⟨ha, hl, -⟩ | ⟨ha, hl, -⟩)
      · rw [hinit] at hf
        cases hf
      · exact ⟨hl, hq ha⟩
      · exact ⟨hl, hq ha⟩
    by_cases hl : (b && !m.save.locks) = true
    · have hres := saveTemplate_locked (p := plan.p11object) (m := m₀) h h' plan.token
        (plan.info.isPrivate ≠ CK_FALSE) plan.attribs hl
      rw [fillObject_eq (b := b) hi hres, if_neg (by simp)]
      simp only [Bool.and_eq_true, Bool.not_eq_true'] at hl
      refine .inr ⟨by simp, fun hc => ?_, ?_⟩
      · rw [(hc.save hl.1).1] at hl
        exact absurd hl.2 (by simp)
      · simp only [present_stored, Bool.true_eq_false, false_iff, not_and]
        intro hb hu
        have hlocks := (hread (Q := True) hb (fun _ => trivial) hu).1
        rw [hlocks] at hl
        exact absurd hl.2 (by simp)
    · rcases hu : plan.p11object.updateAll plan.token (plan.info.isPrivate ≠ CK_FALSE) op
        plan.attribs m₀ with ⟨rv, m₁⟩
      rw [hu] at hacc
      by_cases hrv : rv = CKR_OK
      · subst hrv
        have hres := saveTemplate_accepted (w := m.save) h h' hl hu
        by_cases hinc : incomplete plan.p11object op plan.attribs = true
        · rw [if_pos hinc] at hres
          rw [fillObject_eq hi hres, if_neg (by simp)]
          have hna : ¬ Accepted b plan m op := by
            rw [hacc, hinc]
            simp
          refine .inr ⟨by simp, fun hc => hna hc.toAccepted, ?_⟩
          simp only [present_stored, Bool.true_eq_false, false_iff, not_and]
          rintro rfl hun
          exact (hread rfl hna hun).2
        · rw [if_neg hinc] at hres
          rw [Bool.not_eq_true] at hinc
          have ha : Accepted b plan m op := hacc.2 ⟨rfl, hinc⟩
          cases b
          · have hs : (CKR_OK, stored false m₁) =
                answered CKR_GENERAL_ERROR (committed false m.save.commit m₀ m₁) := rfl
            rw [← hs] at hres
            rw [fillObject_eq hi hres, if_pos rfl]
            rcases setOwn_cases false m m₁ (ownOf plan op) with
              ⟨hr, -, hm⟩ | ⟨-, hb, -⟩
            · exact .inl ⟨hr, ⟨ha, fun hb => absurd hb Bool.false_ne_true,
                fun hb => absurd hb Bool.false_ne_true⟩, hm⟩
            · cases hb
          · simp only [Bool.true_and, Bool.not_eq_true', Bool.not_eq_false] at hl
            cases hw : m.save.commit with
            | done =>
              rw [hw] at hres
              rw [fillObject_eq (o := stored true m₁) hi hres, if_pos rfl]
              rcases setOwn_cases true m m₁ (ownOf plan op) with
                ⟨hr, hown, hm⟩ | ⟨hr, -, hne, hown, hpres⟩
              · exact .inl ⟨hr, ⟨ha, fun _ => ⟨hl, hw⟩, hown⟩, hm⟩
              · refine .inr ⟨hr, fun hc => hown (hc.own rfl hne), ?_⟩
                rw [hpres]
                constructor
                · rintro ⟨hlocks, ht⟩
                  exact ⟨rfl, .own ha hl hw hne hlocks ht⟩
                · rintro ⟨-, ⟨hf, -⟩ | ⟨-, -, ht⟩ | ⟨-, -, -, -, hlocks, ht⟩⟩
                  · rw [hinit] at hf
                    cases hf
                  · rw [hw] at ht
                    cases ht
                  · exact ⟨hlocks, ht⟩
            | refused =>
              rw [hw] at hres
              rw [fillObject_eq hi hres, if_neg (by simp)]
              refine .inr ⟨by simp, fun hc => ?_, ?_⟩
              · have hdone := (hc.save rfl).2
                rw [hw] at hdone
                cases hdone
              · simp only [present, Option.isSome_some, Bool.not_false, Bool.and_self, Bool.or_true,
                  Bool.true_eq_false, false_iff, not_and]
                rintro - (⟨hf, -⟩ | ⟨-, -, ht⟩ | ⟨-, -, ht, -⟩)
                · rw [hinit] at hf
                  cases hf
                · rw [hw] at ht
                  cases ht
                · rw [hw] at ht
                  cases ht
            | torn =>
              rw [hw] at hres
              rw [fillObject_eq hi hres, if_neg (by simp)]
              refine .inr ⟨by simp, fun hc => ?_, ?_⟩
              · have hdone := (hc.save rfl).2
                rw [hw] at hdone
                cases hdone
              · exact ⟨fun _ => ⟨rfl, .save ha hl hw⟩, fun _ => rfl⟩
      · have hna : ¬ Accepted b plan m op := fun ha => hrv (hacc.1 ha).1
        rw [fillObject_eq hi (saveTemplate_refused h h' hl hu hrv), if_neg hrv]
        refine .inr ⟨hrv, fun hc => hna hc.toAccepted, ?_⟩
        simp only [present_stored, Bool.true_eq_false, false_iff, not_and]
        rintro rfl hun
        exact (hread rfl hna hun).2
  · have hinit : (plan.p11object.init m.stores (blank true)).1 = false := by rw [blank, hi]
    have hfill : fillObject plan m op (blank true) = (CKR_GENERAL_ERROR, o) := by
      rw [fillObject, blank, hi]
    rw [hfill]
    refine .inr ⟨by simp, fun hc => ?_, ?_⟩
    · rw [hc.init] at hinit
      cases hinit
    · have hpo : present o = false ↔ o.file = none := by
        rw [present, hv, hs]
        cases o.file <;> simp
      rw [hpo]
      constructor
      · intro hf
        exact ⟨rfl, .init hinit (by rw [blank, hi]; exact hf)⟩
      · rintro ⟨-, ⟨-, hf⟩ | ⟨ha, -⟩ | ⟨ha, -⟩⟩
        · rw [blank, hi] at hf
          exact hf
        · rw [ha.init] at hinit
          cases hinit
        · rw [ha.init] at hinit
          cases hinit

/-- Whether the object is one of the token. -/
def Plan.onToken (plan : Plan) : Bool := plan.info.isOnToken ≠ CK_FALSE

/-- An object is made, with all that the template says. -/
def Made (plan : Plan) (m : Making Obj) (op : ObjectOp) : Prop :=
  (plan.onToken = true → m.file = .done) ∧ Completes plan.onToken plan m op

/-- An object that cannot be made leaves nothing that can be read. -/
def Clean (plan : Plan) (m : Making Obj) (op : ObjectOp) : Prop :=
  Made plan m op ∨ plan.onToken = true ∧
    (m.file = .refused ∨ m.file = .done ∧ Unreadable plan m op)

/-- **How `CreateObject` makes an object.** -/
theorem makeObject_cases (hp : plan.p11object.attributes ≠ []) (h : op ≠ .SET) (h' : op ≠ .COPY) :
    Made plan m op ∧ (∃ m', (fillObject plan m op (blank plan.onToken)).2 = stored plan.onToken m' ∧
      makeObject plan m op = (CKR_OK, some (stored plan.onToken m'))) ∨
    ¬ Made plan m op ∧ ∃ rv y, rv ≠ CKR_OK ∧ makeObject plan m op = (rv, y) ∧
      (Clean plan m op ↔ ∀ o, y = some o → present o = false) := by
  have hmake : plan.onToken = false ∨ m.file = .done → makeObject plan m op =
      ((fillObject plan m op (blank plan.onToken)).1,
        some (fillObject plan m op (blank plan.onToken)).2) := by
    unfold makeObject Plan.onToken
    rintro (hb | hb)
    · rw [if_neg (of_decide_eq_false hb), hb]
    · by_cases ht : plan.info.isOnToken ≠ CK_FALSE
      · rw [if_pos ht, hb, decide_eq_true ht]
      · rw [if_neg ht, decide_eq_false ht]
  by_cases hfile : plan.onToken = false ∨ m.file = .done
  · have hdone : plan.onToken = true → m.file = .done := by
      intro ht
      rcases hfile with hf | hf
      · rw [hf] at ht
        cases ht
      · exact hf
    rcases fillObject_cases (b := plan.onToken) (m := m) hp h h' with
      ⟨hrv, hc, m', hm'⟩ | ⟨hrv, hc, hpres⟩
    · exact .inl ⟨⟨hdone, hc⟩, m', hm', by rw [hmake hfile, hrv, hm']⟩
    · refine .inr ⟨fun hm => hc hm.2, _, _, hrv, hmake hfile, ?_⟩
      simp only [Option.some.injEq, forall_eq', hpres, Clean, Made]
      constructor
      · rintro (⟨-, hc'⟩ | ⟨ht, hr | ⟨-, hu⟩⟩)
        · exact absurd hc' hc
        · rw [hdone ht] at hr
          cases hr
        · exact ⟨ht, hu⟩
      · rintro ⟨ht, hu⟩
        exact .inr ⟨ht, .inr ⟨hdone ht, hu⟩⟩
  · rw [not_or, Bool.not_eq_false] at hfile
    obtain ⟨ht, hf⟩ := hfile
    have hnm : ¬ Made plan m op := fun hm => hf (hm.1 ht)
    have ht' : plan.info.isOnToken ≠ CK_FALSE := of_decide_eq_true ht
    refine .inr ⟨hnm, ?_⟩
    cases hw : m.file with
    | done => exact absurd hw hf
    | refused =>
      refine ⟨CKR_GENERAL_ERROR, none, by simp, by rw [makeObject, if_pos ht', hw], ?_⟩
      simp [Clean, ht, hw]
    | torn =>
      refine ⟨CKR_GENERAL_ERROR, _, by simp, by rw [makeObject, if_pos ht', hw], ?_⟩
      simp [Clean, hnm, hw, present]

/-- The object with all that the template says. -/
def filled (plan : Plan) (m : Making Obj) (op : ObjectOp) : AttributeMap :=
  (fillObject plan m op (blank plan.onToken)).2.attributes

/-- What belongs to the key can be stored. -/
structure Supplied (plan : Plan) (m : Making Obj) (op : ObjectOp) (supply : Supply) : Prop where
  supply : ∃ l, supply (filled plan m op) = .ok l
  commit : plan.onToken = true → m.supply.locks = true ∧ m.supply.commit = .done

/-- The object can be removed, or its file has become unreadable. -/
def Removable (plan : Plan) (m : Making Obj) (op : ObjectOp) (supply : Supply) : Prop :=
  plan.onToken = false ∨ m.removal.file = true ∨
    m.supply.locks = true ∧ m.supply.commit = .torn ∧ ∃ l, supply (filled plan m op) = .ok l

/-- The transaction of a caller. -/
lemma supplyKey_cases {m' : AttributeMap} {supply : Supply} (hs : ∀ m, supply m ≠ .error CKR_OK)
    (hm : (fillObject plan m op (blank plan.onToken)).2 = stored plan.onToken m')
    (aborts : Bool) :
    ((supplyKey m.supply aborts supply (stored plan.onToken m')).1 = CKR_OK ↔
      Supplied plan m op supply) ∧
    (remains m.removal (supplyKey m.supply aborts supply (stored plan.onToken m')).2 = false ↔
      Removable plan m op supply) := by
  have hfilled : filled plan m op = m' := by
    rw [filled, hm]
    cases plan.onToken <;> rfl
  have hsup : Supplied plan m op supply ↔ (∃ l, supply m' = .ok l) ∧
      (plan.onToken = true → m.supply.locks = true ∧ m.supply.commit = .done) := by
    rw [← hfilled]
    exact ⟨fun h => ⟨h.1, h.2⟩, fun h => ⟨h.1, h.2⟩⟩
  rw [hsup, Removable, hfilled, supplyKey_stored]
  cases hb : plan.onToken
  · simp only [Bool.false_and, Bool.false_eq_true, if_false, false_implies, and_true, true_or,
      iff_true]
    cases hx : supply m' with
    | error rv =>
      refine ⟨?_, by cases aborts <;> rfl⟩
      simp only [reduceCtorEq, exists_false, iff_false]
      rintro rfl
      exact hs m' hx
    | ok l => exact ⟨⟨fun _ => ⟨l, rfl⟩, fun _ => rfl⟩, rfl⟩
  · cases hl : m.supply.locks
    · simp [remains, stored]
    · cases hx : supply m' with
      | error rv =>
        refine ⟨?_, by cases aborts <;> simp [refused, remains, stored, opened]⟩
        simp only [Bool.not_true, Bool.and_false, Bool.false_eq_true, if_false, reduceCtorEq,
          exists_false, false_and, iff_false]
        rintro rfl
        exact hs m' hx
      | ok l =>
        cases hw : m.supply.commit <;> simp [committed, answered, remains, stored]

end steps

/-! ### What is left of an object that is made -/

/-- What a call has made of the objects, where only one new object may have changed. -/
structure Around (news : List Obj) (st₀ : Store Obj Sess) (o : Obj) (st st' : Store Obj Sess) :
    Prop where
  beside : Beside news st₀ st'
  mem : ∀ o' ≠ o, ∀ slotID, o' ∈ st'.allObjects slotID ↔ o' ∈ st.allObjects slotID
  object : ∀ o' ≠ o, st'.object o' = st.object o'
  fresh : ∀ o' ≠ o, st'.handleManager.objects o' = st.handleManager.objects o'
  session : st'.session = st.session
  sdm : st'.sdm = st.sdm
  isInitialised : st'.isInitialised = st.isInitialised

section left

variable {P : Primitives} {x : Outside} {m : Making Obj} {hSession : ℕ} {op : ObjectOp}
  {attribs : List CK_ATTRIBUTE} {st st₀ : Store Obj Sess} {plan : Plan} {news : List Obj} {k : ℕ}
  {supply : Supply} {o : Obj}

lemma Around.refl (hb : Beside news st₀ st) : Around news st₀ o st st :=
  ⟨hb, fun _ _ _ => Iff.rfl, fun _ _ => rfl, fun _ _ => rfl, rfl, rfl, rfl⟩

lemma Around.others {st' : Store Obj Sess} (h : Around news st₀ o st st') {o' : Obj}
    (hne : o' ≠ o) : Left o' st' ↔ Left o' st := by
  unfold Left
  rw [h.object o' hne, exists_congr (h.mem o' hne)]

lemma around_insert (hb : Beside news st₀ st) (hn : m.newObject ∈ news) (slotID : CK_SLOT_ID)
    (y : OSObject) : Around news st₀ m.newObject st (insertObject slotID m y st) :=
  ⟨hb.insert hn, fun _ ho => mem_insert_of_ne ho, fun _ ho => object_insert_of_ne ho,
    fun _ _ => rfl, rfl, rfl, rfl⟩

/-- **What `CreateObject` leaves.** -/
theorem CreateObject_cases {pTemplate : Option (List CK_ATTRIBUTE)} (hb : Beside news st₀ st)
    (hn : m.newObject ∈ news)
    (hnew : ¬ Left m.newObject st) (ho : st.handleManager.objects m.newObject = none)
    (hroom : Room (k + 1) st.handleManager)
    (hplan : planObject P x hSession pTemplate st = .ok plan)
    (hp : plan.p11object.attributes ≠ []) (h : op ≠ .SET) (h' : op ≠ .COPY) :
    (∃ rv st', CreateObject P x m hSession pTemplate op st = (rv, CK_INVALID_HANDLE, st') ∧
      rv ≠ CKR_OK ∧ ¬ Made plan m op ∧ st'.handleManager = st.handleManager ∧
      Around news st₀ m.newObject st st' ∧ (Left m.newObject st' ↔ ¬ Clean plan m op)) ∨
    ∃ m' h hm, CreateObject P x m hSession pTemplate op st =
        (CKR_OK, h, { insertObject plan.slotID m (stored plan.onToken m') st with
          handleManager := hm }) ∧
      Made plan m op ∧ (fillObject plan m op (blank plan.onToken)).2 = stored plan.onToken m' ∧
      Issues m.newObject h st.handleManager.handles hm ∧ Room k hm ∧
      hm.objects = Function.update st.handleManager.objects m.newObject (some h) := by
  rw [CreateObject_eq hplan]
  rcases makeObject_cases (m := m) hp h h' with
    ⟨hmade, m', hm', hmake⟩ | ⟨hnot, rv, y, hrv, hmake, hclean⟩
  · right
    obtain ⟨h, hm, hadd, hi, hroom', hobj⟩ := addHandle_issues plan.slotID hSession
      (plan.info.isOnToken ≠ CK_FALSE) (plan.info.isPrivate ≠ CK_FALSE)
      (insertObject plan.slotID m (stored plan.onToken m') st) hroom ho
    refine ⟨m', h, hm, ?_, hmade, hm', hi, hroom', hobj⟩
    rw [hmake]
    dsimp only
    rw [hadd]
  · left
    rw [hmake]
    cases y with
    | none =>
      refine ⟨rv, st, by cases rv <;> rfl, hrv, hnot, rfl, .refl hb, ?_⟩
      have hc : Clean plan m op := hclean.2 fun o ho => by cases ho
      exact ⟨fun hl => absurd hl hnew, fun hn => absurd hc hn⟩
    | some y =>
      refine ⟨rv, insertObject plan.slotID m y st,
        by cases rv <;> first | rfl | exact absurd rfl hrv, hrv, hnot, rfl,
        around_insert hb hn _ _, ?_⟩
      rw [left_insert, hclean]
      simp

/-- **What `storeKey` leaves**: without a handle, what `CreateObject` leaves; with one, what can
still be removed. -/
theorem storeKey_cases (aborts : Bool) (hb : Beside news st₀ st) (hn : m.newObject ∈ news)
    (hnew : ¬ Left m.newObject st) (ho : st.handleManager.objects m.newObject = none)
    (hroom : Room (k + 1) st.handleManager)
    (hplan : planObject P x hSession (some attribs) st = .ok plan)
    (hp : plan.p11object.attributes ≠ []) (h : op ≠ .SET) (h' : op ≠ .COPY)
    (hs : ∀ m, supply m ≠ .error CKR_OK) :
    (∃ rv st', storeKey P x m hSession attribs op aborts supply st =
        (rv, CK_INVALID_HANDLE, st') ∧
      rv ≠ CKR_OK ∧ ¬ Made plan m op ∧ st'.handleManager = st.handleManager ∧
      Around news st₀ m.newObject st st' ∧ (Left m.newObject st' ↔ ¬ Clean plan m op)) ∨
    ∃ rv h st', storeKey P x m hSession attribs op aborts supply st = (rv, h, st') ∧
      Made plan m op ∧ (rv = CKR_OK ↔ Supplied plan m op supply) ∧
      Issues m.newObject h st.handleManager.handles st'.handleManager ∧
      Room k st'.handleManager ∧ Around news st₀ m.newObject st st' ∧
      ∃ y slotID, st'.object m.newObject = y ∧ m.newObject ∈ st'.allObjects slotID ∧
        (remains m.removal y = false ↔ Removable plan m op supply) := by
  unfold storeKey
  rcases CreateObject_cases hb hn hnew ho hroom hplan hp h h' with
    ⟨rv, st', hr, hrv, hrest⟩ | ⟨m', h, hm, hr, hmade, hm', hi, hroom', hobj⟩
  · left
    refine ⟨rv, st', ?_, hrv, hrest⟩
    rw [hr]
    cases rv <;> first | rfl | exact absurd rfl hrv
  · right
    obtain ⟨hsup, hrem⟩ := supplyKey_cases hs hm' aborts
    rw [hr]
    dsimp only
    rw [hi.getObject]
    refine ⟨_, h, _, rfl, hmade, ?_, hi, hroom', ?_, ?_⟩
    · simp only [object_insertObject]
      exact hsup
    · have hst : ({ insertObject plan.slotID m (stored plan.onToken m') st with
            handleManager := hm } : Store Obj Sess).setObject m.newObject
          (supplyKey m.supply aborts supply (stored plan.onToken m')).2 =
          { insertObject plan.slotID m
              (supplyKey m.supply aborts supply (stored plan.onToken m')).2 st with
            handleManager := hm } := by
        rw [← setObject_insertObject plan.slotID (stored plan.onToken m')
          (supplyKey m.supply aborts supply (stored plan.onToken m')).2]
        rfl
      simp only [object_insertObject]
      rw [hst]
      have ha := around_insert hb hn plan.slotID
        (supplyKey m.supply aborts supply (stored plan.onToken m')).2
      refine ⟨⟨ha.beside.lists, ha.beside.objects⟩, ha.mem, ha.object, fun o' hne => ?_, rfl, rfl, rfl⟩
      show hm.objects o' = _
      rw [hobj, Function.update_of_ne hne]
    · refine ⟨_, plan.slotID, rfl, ?_, ?_⟩
      · simp [insertObject, Store.setObject]
      · simp only [Store.setObject, Function.update_self, object_insertObject]
        exact hrem

/-- **What is left of a key that is removed.** -/
theorem removeKey_cases {h : ℕ} {handles : ℕ → Option (Handle Obj Sess)} {y : OSObject}
    {slotID : CK_SLOT_ID} (hb : Beside news st₀ st) (hn : o ∈ news)
    (hi : Issues o h handles st.handleManager) (hroom : Room k st.handleManager)
    (hy : st.object o = y) (hin : o ∈ st.allObjects slotID) (r : Removal) :
    (removeKey r h st).handleManager.handles = handles ∧ Room k (removeKey r h st).handleManager ∧
      Around news st₀ o st (removeKey r h st) ∧
      (Left o (removeKey r h st) ↔ remains r y = true) := by
  obtain ⟨hobjects, hcounter⟩ := hi.frame
  obtain ⟨hm, hsession, hsdm, hinit⟩ := destroyObject_frame r o
    ({ st with handleManager := (st.handleManager.destroyObject h).1 } : Store Obj Sess)
  rw [removeKey_eq hi r]
  refine ⟨by rw [hm]; exact hi.destroy, ⟨fun k' e he => ?_, ?_⟩,
    ⟨?_, ?_, ?_, ?_, hsession, hsdm, hinit⟩, ?_⟩
  · rw [hm] at he ⊢
    dsimp only at he ⊢
    rw [hcounter]
    rw [hi.destroy] at he
    obtain ⟨s, S, p, hh⟩ := hi.handles
    by_cases hk : k' = h
    · subst hk
      rw [hi.free] at he
      cases he
    · exact hroom.issued k' e (by rw [hh, Function.update_of_ne hk, he])
  · rw [hm]
    dsimp only
    rw [hcounter]
    exact hroom.counter
  · have hb' : Beside news st₀
        ({ st with handleManager := (st.handleManager.destroyObject h).1 } : Store Obj Sess) :=
      ⟨hb.lists, hb.objects⟩
    exact hb'.destroy hn r
  · exact fun o' hne => (destroyObject_of_ne hne r).1
  · exact fun o' hne => (destroyObject_of_ne hne r).2
  · intro o' hne
    rw [hm]
    dsimp only
    rw [hobjects, Function.update_of_ne hne]
  · rw [left_destroy]
    subst hy
    exact and_iff_right ⟨slotID, hin⟩

end left

end SoftHSM.Create
