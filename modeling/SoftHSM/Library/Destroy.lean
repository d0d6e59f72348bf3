import SoftHSM.HandleMgr.Remove
import SoftHSM.Lib.Transition
import SoftHSM.Library.Search
import SoftHSM.ObjectStore.OSToken
import SoftHSM.ObjectStore.SessionObjectStore

/-!
`C_DestroyObject`. The handle is forgotten before the store of the object is asked to destroy it,
and a token of files makes the object invalid before it removes its file and then its lock; a
database deletes the row of the object in a transaction. Each of these steps may fail.
-/

set_option linter.unusedSectionVars false

namespace SoftHSM.Destroy

open CK_RV Search Transition

/-! ### The stores -/

/-- The class of an object, with the name of its file. -/
inductive Kind
  | sessionObject
  | objectFile (filename : { f : FileName // OSToken.isObjectFile f = true })
  | dbObject

/-- `Directory::remove`, which reads the directory again after the file is gone. -/
structure Removing where
  removes : Bool
  refreshes : Bool

/-- How the steps of a storage turn out. -/
structure Outcome where
  file : Removing
  lock : Removing
  beginTransaction : Bool
  delete : Bool
  commit : Bool
  rollback : Bool

/-- The objects of a slot: those of its sessions, and those of a token in files or in a database.
A row of the database is known by its number, which never comes again. -/
structure Stores (Obj : Type) where
  sessionObjects : SessionObjectStore Obj
  dir : Directory
  osToken : OSToken
  tokenValid : Bool
  fileValid : Obj → Bool
  connection : Bool
  rows : Finset ℕ
  saved : Option (Finset ℕ)
  objectId : Obj → ℕ
  transaction : Obj → Bool
  allObjects : ℕ → Option Obj

variable {Obj Sess : Type} [DecidableEq Obj]

def remove (r : Removing) (name : FileName) (dir : Directory) : Bool × Directory :=
  if name ∈ dir.files ∧ r.removes then (r.refreshes, { dir with files := dir.files.erase name })
  else (false, dir)

namespace Stores

variable (kind : Obj → Kind)

/-- `OSToken::index`; an object whose file has gone becomes invalid. -/
def index (st : Stores Obj) : Stores Obj :=
  let osToken := OSToken.index false st.dir st.osToken
  { st with
    osToken := osToken
    fileValid := fun o =>
      match kind o with
      | .objectFile name =>
        st.fileValid o && !decide (name.1 ∈ st.osToken.objects ∧ name.1 ∉ osToken.objects)
      | _ => st.fileValid o }

/-- `isValid`; an object of a token in files brings the list of its token up to date, and looks
for its file. -/
def isValid (o : Obj) (st : Stores Obj) : Bool × Stores Obj :=
  match kind o with
  | .sessionObject => ((st.sessionObjects.object o).valid, st)
  | .objectFile name =>
    ((st.index kind).fileValid o && decide (name.1 ∈ st.dir.files), st.index kind)
  | .dbObject => (st.connection && decide (st.objectId o ≠ 0), st)

/-- `SessionObjectStore::deleteObject`. -/
def deleteSessionObject (o : Obj) (st : Stores Obj) : Bool × Stores Obj :=
  let r := st.sessionObjects.deleteObject o
  (r.1, { st with sessionObjects := r.2.1 })

/-- `OSToken::deleteObject`. -/
def deleteObjectFile (w : Outcome) (name : FileName) (o : Obj) (st : Stores Obj) :
    Bool × Stores Obj :=
  if !st.tokenValid then (false, st)
  else if name ∉ st.osToken.objects then (false, st)
  else
    let st := { st with fileValid := Function.update st.fileValid o false }
    match remove w.file name st.dir with
    | (false, dir) => (false, { st with dir := dir })
    | (true, dir) =>
      match remove w.lock (OSToken.lockName name) dir with
      | (false, dir) => (false, { st with dir := dir })
      | (true, dir) =>
        let token := { st.osToken with objects := st.osToken.objects.erase name }
        let (dir, token) := OSToken.commit true dir token
        (true, { st with dir := dir, osToken := token })

/-- `abortTransaction` of an object in the database. -/
def abortTransaction (w : Outcome) (o : Obj) (st : Stores Obj) : Stores Obj :=
  { st with
    transaction := Function.update st.transaction o false
    rows := if w.rollback then st.saved.getD st.rows else st.rows
    saved := if w.rollback then none else st.saved }

/-- `DBToken::deleteObject`. A transaction that could not begin stays with its object, and the
number of a row is forgotten before the row is gone for good. -/
def deleteDBObject (w : Outcome) (o : Obj) (st : Stores Obj) : Bool × Stores Obj :=
  if !st.connection then (false, st)
  else if st.transaction o then (false, st)
  else
    let st := { st with transaction := Function.update st.transaction o true }
    if st.saved.isSome ∨ w.beginTransaction = false then (false, st)
    else
      let st := { st with saved := some st.rows }
      if w.delete = false then (false, st.abortTransaction w o)
      else
        let st := { st with
          rows := st.rows.erase (st.objectId o)
          objectId := Function.update st.objectId o 0 }
        if w.commit = false then (false, st.abortTransaction w o)
        else
          (true, { st with
            saved := none
            transaction := Function.update st.transaction o false })

def destroyObject (w : Outcome) (o : Obj) (st : Stores Obj) : Bool × Stores Obj :=
  match kind o with
  | .sessionObject => st.deleteSessionObject o
  | .objectFile name => st.deleteObjectFile w name.1 o
  | .dbObject => st.deleteDBObject w o

/-- What a search comes upon: an object that is listed and valid. -/
def found (o : Obj) (st : Stores Obj) : Bool :=
  (st.isValid kind o).1 &&
  match kind o with
  | .sessionObject => decide (o ∈ st.sessionObjects.objects)
  | .objectFile name => st.tokenValid && decide (name.1 ∈ (st.index kind).osToken.objects)
  | .dbObject => decide (∃ id ∈ st.rows, st.allObjects id = some o)

/-- An object has its place in its store: in the set of the sessions, a file, or a row. -/
def Stored (o : Obj) (st : Stores Obj) : Prop :=
  match kind o with
  | .sessionObject => o ∈ st.sessionObjects.objects
  | .objectFile name => name.1 ∈ st.dir.files
  | .dbObject => st.objectId o ∈ st.rows

/-- Nothing is left of an object whose row had a number. -/
def Absent (o : Obj) (id : ℕ) (st : Stores Obj) : Prop :=
  match kind o with
  | .sessionObject => (st.sessionObjects.object o).valid = false ∧ o ∉ st.sessionObjects.objects ∧
      o ∉ st.sessionObjects.allObjects
  | .objectFile name => name.1 ∉ st.dir.files ∧ OSToken.lockName name.1 ∉ st.dir.files
  | .dbObject => st.objectId o = 0 ∧ id ∉ st.rows ∧ ∀ rows, st.saved = some rows → id ∉ rows

end Stores

/-! ### The call -/

/-- The library, and the slot that each object belongs to. -/
structure Library (Obj Sess : Type) [DecidableEq Obj] where
  isInitialised : Bool
  fakeRutokenECP : Bool
  handleManager : HandleManager Obj Sess
  home : Obj → ℕ
  rep : handleManager.Rep home
  session : Sess → FindSession
  sdm : CK_SLOT_ID → SecureDataManager
  attributes : Obj → AttributeMap
  stores : Stores Obj

namespace Library

variable (kind : Obj → Kind) (l : Library Obj Sess)

def getState (s : Sess) : CK_STATE := (l.session s).getState (l.sdm (l.session s).slotID)

def setStores (stores : Stores Obj) : Library Obj Sess := { l with stores := stores }

def forget (hObject : ℕ) : Library Obj Sess :=
  { l with
    handleManager := (l.handleManager.destroyObject hObject).1
    rep := HandleManager.rep_destroyObject l.rep hObject }

/-- The checks of `C_DestroyObject`, with the object if it may be destroyed. -/
def destroyable (hSession hObject : ℕ) : Except CK_RV Obj × Library Obj Sess :=
  if !l.isInitialised then (.error CKR_CRYPTOKI_NOT_INITIALIZED, l)
  else
    match l.handleManager.getSession hSession with
    | none => (.error CKR_SESSION_HANDLE_INVALID, l)
    | some s =>
      if l.fakeRutokenECP && hObject = FAKE_RUTOKEN_FEATURE_HANDLE then
        (.error CKR_ACTION_PROHIBITED, l)
      else
        match l.handleManager.getObject hObject with
        | none => (.error CKR_OBJECT_HANDLE_INVALID, l)
        | some o =>
          let (valid, stores) := l.stores.isValid kind o
          let l := l.setStores stores
          if !valid then (.error CKR_OBJECT_HANDLE_INVALID, l)
          else
            let rv := haveWrite (l.getState s) ((l.attributes o).getBooleanValue CKA_TOKEN false)
              ((l.attributes o).getBooleanValue CKA_PRIVATE true)
            if rv ≠ CKR_OK then (.error rv, l)
            else if !(l.attributes o).getBooleanValue CKA_DESTROYABLE true then
              (.error CKR_ACTION_PROHIBITED, l)
            else (.ok o, l)

end Library

def C_DestroyObject (kind : Obj → Kind) (w : Outcome) (hSession hObject : ℕ) (l : Library Obj Sess) :
    CK_RV × Library Obj Sess :=
  match l.destroyable kind hSession hObject with
  | (.error rv, l) => (rv, l)
  | (.ok o, l) =>
    let l := l.forget hObject
    match l.stores.destroyObject kind w o with
    | (false, stores) => (CKR_FUNCTION_FAILED, l.setStores stores)
    | (true, stores) => (CKR_OK, l.setStores stores)

/-! ### All or nothing -/

/-- The object can be used through its handle, is found and has its place. -/
structure Usable (kind : Obj → Kind) (hObject : ℕ) (o : Obj)
    (a : HandleManager Obj Sess × Stores Obj) : Prop where
  handle : a.1.getObject hObject = some o
  valid : (a.2.isValid kind o).1 = true
  found : a.2.found kind o = true
  stored : a.2.Stored kind o

structure Gone (kind : Obj → Kind) (o : Obj) (id : ℕ) (a : HandleManager Obj Sess × Stores Obj) :
    Prop where
  noHandle : ∀ h, a.1.getObject h ≠ some o
  invalid : (a.2.isValid kind o).1 = false
  notFound : a.2.found kind o = false
  absent : a.2.Absent kind o id

/-- What comes after the call: searches, other objects, and other processes. -/
inductive Op (Obj : Type)
  | search (slotID hSession : ℕ) (isPrivate : Obj → Bool) (matching : List Obj)
  | createSessionObject (slotID hSession : ℕ) (isPrivate : Bool) (newObject : Obj)
  | createObjectFile (slotID : ℕ) (isPrivate : Bool) (newObject : Obj) (objectUUID : FileName)
  | createRow (slotID : ℕ) (isPrivate : Bool) (newObject : Obj) (id : ℕ)
  | destroy (hObject : ℕ) (object : Obj) (w : Outcome)
  | others (dir : Directory) (rows : Finset ℕ)

/-- An object that matches gets a handle if the search comes upon it. -/
def addFound (kind : Obj → Kind) (slotID hSession : ℕ) (isPrivate : Obj → Bool) (st : Stores Obj)
    (m : HandleManager Obj Sess) (o : Obj) : HandleManager Obj Sess :=
  if st.found kind o then
    match kind o with
    | .sessionObject => (m.addSessionObject slotID hSession (isPrivate o) o).2.1
    | _ => (m.addTokenObject slotID (isPrivate o) o).2
  else m

def exec (kind : Obj → Kind) (a : HandleManager Obj Sess × Stores Obj) :
    Op Obj → HandleManager Obj Sess × Stores Obj
  | .search slotID hSession isPrivate matching =>
    let st := a.2.index kind
    (matching.foldl (addFound kind slotID hSession isPrivate st) a.1, st)
  | .createSessionObject slotID hSession isPrivate newObject =>
    ((a.1.addSessionObject slotID hSession isPrivate newObject).2.1,
      { a.2 with
        sessionObjects := a.2.sessionObjects.createObject slotID hSession isPrivate newObject })
  | .createObjectFile slotID isPrivate newObject objectUUID =>
    let (dir, osToken) := OSToken.createObject objectUUID a.2.dir a.2.osToken
    ((a.1.addTokenObject slotID isPrivate newObject).2,
      { a.2 with
        dir := dir
        osToken := osToken
        fileValid := Function.update a.2.fileValid newObject true })
  | .createRow slotID isPrivate newObject id =>
    ((a.1.addTokenObject slotID isPrivate newObject).2,
      { a.2 with
        rows := insert id a.2.rows
        objectId := Function.update a.2.objectId newObject id
        allObjects := Function.update a.2.allObjects id (some newObject) })
  | .destroy hObject object w =>
    ((a.1.destroyObject hObject).1, (a.2.destroyObject kind w object).2)
  | .others dir rows => (a.1, { a.2 with dir := dir, rows := rows })

/-- The two names of the files of an object. -/
def Named (kind : Obj → Kind) (o : Obj) (f : FileName) : Prop :=
  match kind o with
  | .objectFile name => f = name.1 ∨ f = OSToken.lockName name.1
  | _ => False

/-- Other objects have other addresses, their files other names and their rows other numbers. -/
def Foreign (kind : Obj → Kind) (o : Obj) (id : ℕ) : Op Obj → Prop
  | .search _ _ _ _ => True
  | .createSessionObject _ _ _ newObject => newObject ≠ o
  | .createObjectFile _ _ newObject objectUUID => newObject ≠ o ∧
      ¬Named kind o (objectUUID ++ OSToken.dotObject) ∧ ¬Named kind o (objectUUID ++ OSToken.dotLock)
  | .createRow _ _ newObject id' => newObject ≠ o ∧ id' ≠ id
  | .destroy _ object _ => object ≠ o
  | .others dir rows => (∀ f ∈ dir.files, ¬Named kind o f) ∧ id ∉ rows

/-- **All or nothing.** Where the call succeeds, the object is gone and stays so; where it does not,
an object that could be used can be used. -/
structure AllOrNothing (kind : Obj → Kind) (w : Outcome) (hSession hObject : ℕ)
    (l : Library Obj Sess) : Prop where
  done : (C_DestroyObject kind w hSession hObject l).1 = CKR_OK →
    ∃ o, l.handleManager.getObject hObject = some o ∧ ∀ ops a,
      Run (Step (fun _ => Foreign kind o (l.stores.objectId o)) (exec kind))
        ((C_DestroyObject kind w hSession hObject l).2.handleManager,
          (C_DestroyObject kind w hSession hObject l).2.stores) ops a →
        Gone kind o (l.stores.objectId o) a
  kept : (C_DestroyObject kind w hSession hObject l).1 ≠ CKR_OK → ∀ o,
    Usable kind hObject o (l.handleManager, l.stores) →
      Usable kind hObject o ((C_DestroyObject kind w hSession hObject l).2.handleManager,
        (C_DestroyObject kind w hSession hObject l).2.stores)

/-- No step of the store fails. -/
def Succeeds (kind : Obj → Kind) (w : Outcome) (o : Obj) (st : Stores Obj) : Prop :=
  match kind o with
  | .sessionObject => True
  | .objectFile name => w.file.removes = true ∧ w.file.refreshes = true ∧
      OSToken.lockName name.1 ∈ st.dir.files ∧ w.lock.removes = true ∧ w.lock.refreshes = true
  | .dbObject => st.transaction o = false ∧ st.saved = none ∧ w.beginTransaction = true ∧
      w.delete = true ∧ w.commit = true

/-! ### Searches and the list of a token -/

namespace Stores

variable {kind : Obj → Kind} {st : Stores Obj} {o : Obj}

/-- A list that was brought up to date is up to date. -/
lemma osToken_index_index (d : Directory) (t : OSToken) :
    OSToken.index false d (OSToken.index false d t) = OSToken.index false d t := by
  cases hg : d.generation with
  | none => simp [OSToken.index, OSToken.wasUpdated, hg]
  | some v =>
    by_cases hv : v = t.currentValue
    · simp [OSToken.index, OSToken.wasUpdated, hg, hv]
    · simp [OSToken.index, OSToken.wasUpdated, hg, hv]

lemma index_index : (st.index kind).index kind = st.index kind := by
  have hfile : ((st.index kind).index kind).fileValid = (st.index kind).fileValid := by
    funext o
    have htoken := osToken_index_index st.dir st.osToken
    unfold index
    cases hk : kind o with
    | sessionObject => simp [hk]
    | dbObject => simp [hk]
    | objectFile name => simp [hk, htoken]
  unfold index at hfile ⊢
  simp only [osToken_index_index] at hfile ⊢
  rw [hfile]

/-- To look whether an object is valid changes nothing about an object that can be used. -/
lemma isValid_cases (o : Obj) (st : Stores Obj) :
    (st.isValid kind o).2 = st ∨ (st.isValid kind o).2 = st.index kind := by
  unfold isValid
  cases kind o
  · exact .inl rfl
  · exact .inr rfl
  · exact .inl rfl

lemma isValid_index (o : Obj) (st : Stores Obj) :
    ((st.index kind).isValid kind o).1 = (st.isValid kind o).1 := by
  unfold isValid
  cases hk : kind o with
  | objectFile name => simp only [index_index]; rfl
  | _ => rfl

lemma found_index (o : Obj) (st : Stores Obj) :
    (st.index kind).found kind o = st.found kind o := by
  unfold found
  rw [isValid_index, index_index]
  rfl

lemma stored_index (o : Obj) (st : Stores Obj) :
    (st.index kind).Stored kind o ↔ st.Stored kind o := Iff.rfl

lemma usable_isValid {m : HandleManager Obj Sess} {hObject : ℕ} {o' : Obj}
    (h : Usable kind hObject o (m, st)) : Usable kind hObject o (m, (st.isValid kind o').2) := by
  rcases @isValid_cases Obj _ kind o' st with heq | heq
  · rw [heq]
    exact h
  · rw [heq]
    exact ⟨h.handle, (isValid_index o st).trans h.valid, (found_index o st).trans h.found,
      (stored_index o st).2 h.stored⟩

/-! ### What is absent -/

variable {id : ℕ}

lemma Absent.isValid (h : st.Absent kind o id) : (st.isValid kind o).1 = false := by
  unfold Absent at h
  unfold Stores.isValid
  cases hk : kind o with
  | sessionObject =>
    rw [hk] at h
    exact h.1
  | objectFile name =>
    rw [hk] at h
    simp [h.1]
  | dbObject =>
    rw [hk] at h
    simp [h.1]

lemma Absent.found (h : st.Absent kind o id) : st.found kind o = false := by
  unfold Stores.found
  rw [h.isValid, Bool.false_and]

end Stores

lemma gone_of_absent {kind : Obj → Kind} {o : Obj} {id : ℕ} {a : HandleManager Obj Sess × Stores Obj}
    (hhandle : ∀ h, a.1.getObject h ≠ some o) (h : a.2.Absent kind o id) : Gone kind o id a :=
  ⟨hhandle, h.isValid, h.found, h⟩

/-! ### Handles -/

section Handles

variable {m : HandleManager Obj Sess} {o o' : Obj} {slotID hSession h : ℕ} {isPrivate : Bool}

lemma getObject_eq_some : m.getObject h = some o ↔
    ∃ slotID hSession isPrivate, m.handles h = some (.object slotID hSession isPrivate o) := by
  unfold HandleManager.getObject
  constructor
  · intro heq
    split at heq
    · next hm => exact ⟨_, _, _, hm.trans (by rw [← Option.some.inj heq])⟩
    · cases heq
  · rintro ⟨slotID, hSession, isPrivate, hm⟩
    rw [hm]

lemma registered_handles {m' : HandleManager Obj Sess} {h' : ℕ}
    (hr : m.registered slotID o' = some (h', m')) : m'.handles = m.handles := by
  unfold HandleManager.registered at hr
  split at hr
  · cases hr
  · split at hr
    · split at hr
      · cases hr
        rfl
      · cases hr
        rfl
    · cases hr
      rfl

/-- A table with one more entry for an object has no entry for another. -/
lemma getObject_update {m' : HandleManager Obj Sess} {h' s S : ℕ} {p : Bool} (hne : o' ≠ o)
    (hm : m'.handles = Function.update m.handles h' (some (.object s S p o')))
    (hno : ∀ h, m.getObject h ≠ some o) (h : ℕ) : m'.getObject h ≠ some o := by
  intro hget
  obtain ⟨s', S', p', hh⟩ := getObject_eq_some.1 hget
  rw [hm] at hh
  by_cases heq : h = h'
  · rw [heq, Function.update_self] at hh
    cases hh
    exact hne rfl
  · rw [Function.update_of_ne heq] at hh
    exact hno h (getObject_eq_some.2 ⟨s', S', p', hh⟩)

lemma getObject_registered {r : ℕ × HandleManager Obj Sess} (hr : m.registered slotID o' = some r)
    (hno : ∀ h, m.getObject h ≠ some o) (h : ℕ) : r.2.getObject h ≠ some o := by
  obtain ⟨h', m'⟩ := r
  unfold HandleManager.getObject at hno ⊢
  rw [registered_handles hr]
  exact hno h

lemma getObject_addTokenObject (hne : o' ≠ o) (hno : ∀ h, m.getObject h ≠ some o) (h : ℕ) :
    (m.addTokenObject slotID isPrivate o').2.getObject h ≠ some o := by
  unfold HandleManager.addTokenObject
  cases hr : m.registered slotID o' with
  | some r => exact getObject_registered hr hno h
  | none => exact getObject_update hne rfl hno h

lemma getObject_addSessionObject (hne : o' ≠ o) (hno : ∀ h, m.getObject h ≠ some o) (h : ℕ) :
    (m.addSessionObject slotID hSession isPrivate o').2.1.getObject h ≠ some o := by
  unfold HandleManager.addSessionObject
  cases hr : m.registered slotID o' with
  | some r => exact getObject_registered hr hno h
  | none => exact getObject_update hne rfl hno h

lemma getObject_destroyObject {hObject : ℕ} (hno : ∀ h, m.getObject h ≠ some o) (h : ℕ) :
    (m.destroyObject hObject).1.getObject h ≠ some o := by
  intro hget
  obtain ⟨s, S, p, hh⟩ := getObject_eq_some.1 hget
  exact hno h (getObject_eq_some.2
    ⟨s, S, p, (HandleManager.destroyObject_handles m hObject).sub hh⟩)

/-- An object has one handle. -/
lemma getObject_forgotten {home : Obj → ℕ} (hrep : m.Rep home) {hObject : ℕ}
    (ho : m.getObject hObject = some o) (h : ℕ) :
    (m.destroyObject hObject).1.getObject h ≠ some o := by
  intro hget
  obtain ⟨s, S, p, hh⟩ := getObject_eq_some.1 hget
  obtain ⟨s', S', p', ho⟩ := getObject_eq_some.1 ho
  obtain ⟨hm, hnot⟩ := (HandleManager.destroyObject_handles m hObject h _).1 hh
  have hsame : some h = some hObject := by
    rw [← (hrep.objects o h).2 ⟨_, hm, rfl⟩, ← (hrep.objects o hObject).2 ⟨_, ho, rfl⟩]
  exact hnot ⟨Option.some.inj hsame, by simp [Handle.objectOf]⟩

end Handles

/-! ### What a store does to an object -/

lemma remove_eq_true {r : Removing} {name : FileName} {dir dir' : Directory} :
    remove r name dir = (true, dir') ↔ name ∈ dir.files ∧ r.removes = true ∧ r.refreshes = true ∧
      dir' = { dir with files := dir.files.erase name } := by
  unfold remove
  split_ifs with h
  · rw [Prod.mk.injEq]
    exact ⟨fun ⟨hr, hd⟩ => ⟨h.1, h.2, hr, hd.symm⟩, fun ⟨_, _, hr, hd⟩ => ⟨hr, hd.symm⟩⟩
  · exact ⟨fun h0 => (nomatch h0), fun ⟨hmem, hr, _⟩ => absurd ⟨hmem, hr⟩ h⟩

lemma remove_subset (r : Removing) (name : FileName) (dir : Directory) :
    (remove r name dir).2.files ⊆ dir.files := by
  unfold remove
  split_ifs
  · exact Finset.erase_subset _ _
  · exact subset_rfl

lemma files_commit (pendingUpdate : Bool) (d : Directory) (t : OSToken) :
    (OSToken.commit pendingUpdate d t).1.files = d.files := by
  unfold OSToken.commit
  split <;> rfl

namespace Stores

variable {kind : Obj → Kind} {w : Outcome} {st : Stores Obj} {o object : Obj} {id : ℕ}

/-- A token in files changes its own directory, in which it removes files. -/
lemma deleteObjectFile_frame (w : Outcome) (name : FileName) (o : Obj) (st : Stores Obj) :
    (st.deleteObjectFile w name o).2.dir.files ⊆ st.dir.files ∧
      (st.deleteObjectFile w name o).2.sessionObjects = st.sessionObjects ∧
      (st.deleteObjectFile w name o).2.rows = st.rows ∧
      (st.deleteObjectFile w name o).2.saved = st.saved ∧
      (st.deleteObjectFile w name o).2.objectId = st.objectId := by
  unfold deleteObjectFile
  have hfile := remove_subset w.file name st.dir
  dsimp only
  split_ifs
  · exact ⟨subset_rfl, rfl, rfl, rfl, rfl⟩
  · rcases hr : remove w.file name st.dir with ⟨_ | _, dir⟩
    · rw [hr] at hfile
      exact ⟨hfile, rfl, rfl, rfl, rfl⟩
    · rw [hr] at hfile
      have hlock := remove_subset w.lock (OSToken.lockName name) dir
      dsimp only
      rcases hl : remove w.lock (OSToken.lockName name) dir with ⟨_ | _, dir'⟩
      · rw [hl] at hlock
        exact ⟨hlock.trans hfile, rfl, rfl, rfl, rfl⟩
      · rw [hl] at hlock
        dsimp only
        rw [files_commit]
        exact ⟨hlock.trans hfile, rfl, rfl, rfl, rfl⟩
  · exact ⟨subset_rfl, rfl, rfl, rfl, rfl⟩

/-- A database changes its rows, and the number of the object. -/
lemma deleteDBObject_frame (w : Outcome) (object : Obj) (st : Stores Obj) :
    (st.deleteDBObject w object).2.dir = st.dir ∧
      (st.deleteDBObject w object).2.sessionObjects = st.sessionObjects ∧
      (∀ o, o ≠ object → (st.deleteDBObject w object).2.objectId o = st.objectId o) ∧
      ∀ id, id ∉ st.rows → (∀ rows, st.saved = some rows → id ∉ rows) →
        id ∉ (st.deleteDBObject w object).2.rows ∧
          ∀ rows, (st.deleteDBObject w object).2.saved = some rows → id ∉ rows := by
  unfold deleteDBObject abortTransaction
  dsimp only
  refine ⟨?_, ?_, fun o hne => ?_, fun id hrows hsaved => ?_⟩
  · split_ifs <;> rfl
  · split_ifs <;> rfl
  · split_ifs <;> simp [Function.update_of_ne hne]
  · have herase : id ∉ st.rows.erase (st.objectId object) := fun h => hrows (Finset.mem_of_mem_erase h)
    split_ifs <;> simp_all

lemma absent_destroyObject (hne : object ≠ o) (h : st.Absent kind o id) :
    (st.destroyObject kind w object).2.Absent kind o id := by
  unfold destroyObject
  unfold Absent at h ⊢
  cases hk : kind object with
  | sessionObject =>
    cases ho : kind o with
    | sessionObject =>
      rw [ho] at h
      obtain ⟨hvalid, hobjects, hall⟩ := h
      simp only [deleteSessionObject, SessionObjectStore.deleteObject]
      split_ifs
      · refine ⟨?_, fun h0 => hobjects (Finset.mem_of_mem_erase h0),
          fun h0 => hall (Finset.mem_of_mem_erase h0)⟩
        simp [SessionObjectStore.invalidate, Ne.symm hne, hvalid]
      · exact ⟨hvalid, hobjects, hall⟩
    | objectFile name =>
      rw [ho] at h
      exact h
    | dbObject =>
      rw [ho] at h
      exact h
  | objectFile name =>
    obtain ⟨hfiles, hsession, hrows, hsaved, hid⟩ := deleteObjectFile_frame w name.1 object st
    dsimp only
    rw [hsession, hrows, hsaved, hid]
    cases ho : kind o with
    | sessionObject =>
      rw [ho] at h
      exact h
    | objectFile name' =>
      rw [ho] at h
      exact ⟨fun h0 => h.1 (hfiles h0), fun h0 => h.2 (hfiles h0)⟩
    | dbObject =>
      rw [ho] at h
      exact h
  | dbObject =>
    obtain ⟨hdir, hsession, hid, hrows⟩ := deleteDBObject_frame w object st
    dsimp only
    rw [hdir, hsession, hid o hne.symm]
    cases ho : kind o with
    | sessionObject =>
      rw [ho] at h
      exact h
    | objectFile name =>
      rw [ho] at h
      exact h
    | dbObject =>
      rw [ho] at h
      exact ⟨h.1, hrows id h.2.1 h.2.2⟩

/-- **A store that says so** has destroyed the object. -/
lemma absent_of_destroyed (h : (st.destroyObject kind w o).1 = true) :
    (st.destroyObject kind w o).2.Absent kind o (st.objectId o) := by
  unfold destroyObject at h ⊢
  unfold Absent
  cases hk : kind o with
  | sessionObject =>
    rw [hk] at h
    simp only [deleteSessionObject, SessionObjectStore.deleteObject] at h ⊢
    split_ifs at h ⊢
    simp [SessionObjectStore.invalidate]
  | objectFile name =>
    rw [hk] at h
    simp only [deleteObjectFile] at h ⊢
    split_ifs at h ⊢
    rcases hr : remove w.file name.1 st.dir with ⟨_ | _, dir⟩
    · simp [hr] at h
    · rcases hl : remove w.lock (OSToken.lockName name.1) dir with ⟨_ | _, dir'⟩
      · simp [hr, hl] at h
      · obtain ⟨-, -, -, rfl⟩ := remove_eq_true.1 hr
        obtain ⟨-, -, -, rfl⟩ := remove_eq_true.1 hl
        simp [hl, files_commit]
  | dbObject =>
    rw [hk] at h
    simp only [deleteDBObject] at h ⊢
    split_ifs at h ⊢
    simp

/-- An object that can be used is destroyed exactly if no step of its store fails. -/
lemma destroyed_iff {m : HandleManager Obj Sess} {hObject : ℕ}
    (h : Usable kind hObject o (m, st)) (hindex : ∀ name, kind o = .objectFile name →
      st.index kind = st) : (st.destroyObject kind w o).1 = true ↔ Succeeds kind w o st := by
  have hstored := h.stored
  have hfound := h.found
  unfold destroyObject Succeeds
  unfold Stored at hstored
  unfold Stores.found at hfound
  rw [Bool.and_eq_true] at hfound
  cases hk : kind o with
  | sessionObject =>
    rw [hk] at hstored
    simp [deleteSessionObject, SessionObjectStore.deleteObject, hstored]
  | objectFile name =>
    have hlist := hfound.2
    rw [hk] at hstored hlist
    simp only [hindex name hk, Bool.and_eq_true, decide_eq_true_eq] at hlist
    have hlock : OSToken.lockName name.1 ≠ name.1 := fun heq => by
      have hnot := OSToken.lockName_not_object name.2
      rw [heq, name.2] at hnot
      cases hnot
    simp only [deleteObjectFile, hlist.1, hlist.2, Bool.not_true, Bool.false_eq_true, if_false,
      not_true]
    rcases hr : remove w.file name.1 st.dir with ⟨_ | _, dir⟩
    · have hno : ¬(w.file.removes = true ∧ w.file.refreshes = true) := by
        rintro ⟨hf, hf'⟩
        rw [remove_eq_true.2 ⟨hstored, hf, hf', rfl⟩] at hr
        cases hr
      simp only [Bool.false_eq_true, false_iff]
      exact fun h0 => hno ⟨h0.1, h0.2.1⟩
    · obtain ⟨-, hf, hf', rfl⟩ := remove_eq_true.1 hr
      have hmem : OSToken.lockName name.1 ∈ st.dir.files.erase name.1 ↔
          OSToken.lockName name.1 ∈ st.dir.files := by
        simp [hlock]
      rcases hl : remove w.lock (OSToken.lockName name.1)
          { st.dir with files := st.dir.files.erase name.1 } with ⟨_ | _, dir'⟩
      · simp only [hl, Bool.false_eq_true, false_iff]
        rintro ⟨-, -, hin, hlr, hlr'⟩
        rw [remove_eq_true.2 ⟨hmem.2 hin, hlr, hlr', rfl⟩] at hl
        cases hl
      · obtain ⟨hin, hlr, hlr', -⟩ := remove_eq_true.1 hl
        simp only [hl, true_iff]
        exact ⟨hf, hf', hmem.1 hin, hlr, hlr'⟩
  | dbObject =>
    have hvalid := hfound.1
    rw [isValid, hk] at hvalid
    simp only [Bool.and_eq_true] at hvalid
    have hsaved : st.saved.isSome = true ↔ st.saved ≠ none := Option.isSome_iff_ne_none
    simp only [deleteDBObject, hvalid.1, hsaved, Bool.not_true, Bool.false_eq_true, if_false]
    split_ifs <;> grind

end Stores

/-! ### What comes later -/

section Later

variable {kind : Obj → Kind} {o : Obj} {id : ℕ} {a : HandleManager Obj Sess × Stores Obj}

/-- A search gives handles to what it comes upon. -/
lemma getObject_search {slotID hSession : ℕ} {isPrivate : Obj → Bool} {st : Stores Obj}
    (hfound : st.found kind o = false) (matching : List Obj) (m : HandleManager Obj Sess)
    (hno : ∀ h, m.getObject h ≠ some o) (h : ℕ) :
    (matching.foldl (addFound kind slotID hSession isPrivate st) m).getObject h ≠ some o := by
  induction matching generalizing m with
  | nil => exact hno h
  | cons o' rest ih =>
    rw [List.foldl_cons]
    apply ih
    unfold addFound
    split_ifs with hf
    · have hne : o' ≠ o := by
        rintro rfl
        rw [hfound] at hf
        cases hf
      cases kind o' with
      | sessionObject => exact getObject_addSessionObject hne hno
      | objectFile name => exact getObject_addTokenObject hne hno
      | dbObject => exact getObject_addTokenObject hne hno
    · exact hno

/-- **The step lemma.** What is not about the object leaves it gone. -/
lemma gone_exec {op : Op Obj} (h : Gone kind o id a) (hop : Foreign kind o id op) :
    Gone kind o id (exec kind a op) := by
  have habsent := h.absent
  cases op with
  | search slotID hSession isPrivate matching =>
    have hindex : (a.2.index kind).Absent kind o id := habsent
    exact gone_of_absent (getObject_search hindex.found matching a.1 h.noHandle) hindex
  | createSessionObject slotID hSession isPrivate newObject =>
    refine gone_of_absent (getObject_addSessionObject hop h.noHandle) ?_
    unfold Stores.Absent at habsent ⊢
    cases hk : kind o with
    | sessionObject =>
      rw [hk] at habsent
      simpa [SessionObjectStore.createObject, exec, Ne.symm hop] using habsent
    | objectFile name =>
      rw [hk] at habsent
      exact habsent
    | dbObject =>
      rw [hk] at habsent
      exact habsent
  | createObjectFile slotID isPrivate newObject objectUUID =>
    obtain ⟨hne, hobject, hlock⟩ := hop
    refine gone_of_absent (getObject_addTokenObject hne h.noHandle) ?_
    unfold Stores.Absent at habsent ⊢
    cases hk : kind o with
    | objectFile name =>
      rw [hk] at habsent
      simp only [Named, hk, not_or] at hobject hlock
      simp only [exec, OSToken.createObject, files_commit, Finset.mem_insert, not_or]
      exact ⟨⟨Ne.symm hobject.1, Ne.symm hlock.1, habsent.1⟩,
        ⟨Ne.symm hobject.2, Ne.symm hlock.2, habsent.2⟩⟩
    | sessionObject =>
      rw [hk] at habsent
      exact habsent
    | dbObject =>
      rw [hk] at habsent
      exact habsent
  | createRow slotID isPrivate newObject id' =>
    refine gone_of_absent (getObject_addTokenObject hop.1 h.noHandle) ?_
    unfold Stores.Absent at habsent ⊢
    cases hk : kind o with
    | dbObject =>
      rw [hk] at habsent
      simpa [exec, Ne.symm hop.1, Ne.symm hop.2] using habsent
    | sessionObject =>
      rw [hk] at habsent
      exact habsent
    | objectFile name =>
      rw [hk] at habsent
      exact habsent
  | destroy hObject object w =>
    exact gone_of_absent (getObject_destroyObject h.noHandle)
      (Stores.absent_destroyObject hop habsent)
  | others dir rows =>
    refine gone_of_absent h.noHandle ?_
    unfold Stores.Absent at habsent ⊢
    cases hk : kind o with
    | objectFile name =>
      exact ⟨fun h0 => hop.1 _ h0 (by simp [Named, hk]), fun h0 => hop.1 _ h0 (by simp [Named, hk])⟩
    | sessionObject =>
      rw [hk] at habsent
      exact habsent
    | dbObject =>
      rw [hk] at habsent
      exact ⟨habsent.1, hop.2, habsent.2.2⟩

end Later

/-! ### The call -/

section Call

variable {kind : Obj → Kind} {w : Outcome} {hSession hObject : ℕ} {l : Library Obj Sess}

/-- **What the checks come to.** A call that is refused has looked at the object at most. -/
lemma destroyable_cases (kind : Obj → Kind) (hSession hObject : ℕ) (l : Library Obj Sess) :
    (∃ rv, rv ≠ CKR_OK ∧ (l.destroyable kind hSession hObject = (.error rv, l) ∨
      ∃ o, l.destroyable kind hSession hObject =
        (.error rv, l.setStores (l.stores.isValid kind o).2))) ∨
    ∃ o, l.handleManager.getObject hObject = some o ∧
      l.destroyable kind hSession hObject = (.ok o, l.setStores (l.stores.isValid kind o).2) := by
  unfold Library.destroyable
  split
  · exact .inl ⟨_, CK_RV.noConfusion, .inl rfl⟩
  · split
    · exact .inl ⟨_, CK_RV.noConfusion, .inl rfl⟩
    · split
      · exact .inl ⟨_, CK_RV.noConfusion, .inl rfl⟩
      · split
        · exact .inl ⟨_, CK_RV.noConfusion, .inl rfl⟩
        · next o ho =>
          dsimp only
          split
          · exact .inl ⟨_, CK_RV.noConfusion, .inr ⟨o, rfl⟩⟩
          · split
            · next hwrite => exact .inl ⟨_, hwrite, .inr ⟨o, rfl⟩⟩
            · split
              · exact .inl ⟨_, CK_RV.noConfusion, .inr ⟨o, rfl⟩⟩
              · exact .inr ⟨o, ho, rfl⟩

lemma destroyable_ok {o : Obj} {l' : Library Obj Sess}
    (h : l.destroyable kind hSession hObject = (.ok o, l')) :
    l.handleManager.getObject hObject = some o ∧
      l' = l.setStores (l.stores.isValid kind o).2 := by
  obtain ⟨rv, -, heq | ⟨o', heq⟩⟩ | ⟨o', ho, heq⟩ := destroyable_cases kind hSession hObject l
  · cases heq.symm.trans h
  · cases heq.symm.trans h
  · cases heq.symm.trans h
    exact ⟨ho, rfl⟩

lemma destroyable_error {rv : CK_RV} {l' : Library Obj Sess}
    (h : l.destroyable kind hSession hObject = (.error rv, l')) :
    rv ≠ CKR_OK ∧ l'.handleManager = l.handleManager ∧
      (l'.stores = l.stores ∨ ∃ o, l'.stores = (l.stores.isValid kind o).2) := by
  obtain ⟨rv', hrv, heq | ⟨o, heq⟩⟩ | ⟨o, -, heq⟩ := destroyable_cases kind hSession hObject l
  · cases heq.symm.trans h
    exact ⟨hrv, rfl, .inl rfl⟩
  · cases heq.symm.trans h
    exact ⟨hrv, rfl, .inr ⟨o, rfl⟩⟩
  · cases heq.symm.trans h

lemma usable_refused {rv : CK_RV} {l' : Library Obj Sess} {o : Obj}
    (h : l.destroyable kind hSession hObject = (.error rv, l'))
    (hu : Usable kind hObject o (l.handleManager, l.stores)) :
    Usable kind hObject o (l'.handleManager, l'.stores) := by
  obtain ⟨-, hm, hst | ⟨o', hst⟩⟩ := destroyable_error h
  · rw [hm, hst]
    exact hu
  · rw [hm, hst]
    exact Stores.usable_isValid hu

/-- What a database or a token in files does with an object depends on the object's own store, which
a look at it leaves as it is. -/
lemma succeeds_isValid {o : Obj} (st : Stores Obj) :
    Succeeds kind w o (st.isValid kind o).2 ↔ Succeeds kind w o st := by
  rcases @Stores.isValid_cases Obj _ kind o st with heq | heq <;> rw [heq]
  rfl

lemma index_isValid {o : Obj} (st : Stores Obj)
    (name : { f : FileName // OSToken.isObjectFile f = true }) (hk : kind o = .objectFile name) :
    ((st.isValid kind o).2).index kind = (st.isValid kind o).2 := by
  rw [Stores.isValid, hk]
  exact Stores.index_index

/-- **Destruction is all or nothing** exactly where no step of the store fails for an object that can
be used and may be destroyed. -/
theorem destruction_iff (kind : Obj → Kind) (w : Outcome) (hSession hObject : ℕ)
    (l : Library Obj Sess) :
    AllOrNothing kind w hSession hObject l ↔
      ∀ o, Usable kind hObject o (l.handleManager, l.stores) →
        (l.destroyable kind hSession hObject).1 = .ok o → Succeeds kind w o l.stores := by
  rcases hd : l.destroyable kind hSession hObject with ⟨rv | o, l'⟩
  · obtain ⟨hrv, -⟩ := destroyable_error hd
    have hcall : C_DestroyObject kind w hSession hObject l = (rv, l') := by
      rw [C_DestroyObject, hd]
    refine ⟨fun _ o _ h => (nomatch h), fun _ => ⟨fun h => ?_, fun _ o hu => ?_⟩⟩
    · rw [hcall] at h
      exact absurd h hrv
    · rw [hcall]
      exact usable_refused hd hu
  · obtain ⟨ho, rfl⟩ := destroyable_ok hd
    have hcall : C_DestroyObject kind w hSession hObject l =
        (if ((l.stores.isValid kind o).2.destroyObject kind w o).1 = true then CKR_OK
          else CKR_FUNCTION_FAILED,
          ((l.setStores (l.stores.isValid kind o).2).forget hObject).setStores
            ((l.stores.isValid kind o).2.destroyObject kind w o).2) := by
      rw [C_DestroyObject, hd]
      dsimp only [Library.setStores, Library.forget]
      rcases (l.stores.isValid kind o).2.destroyObject kind w o with ⟨_ | _, st⟩ <;> rfl
    have hdestroyed : ∀ o', Usable kind hObject o' (l.handleManager, l.stores) →
        (((l.stores.isValid kind o).2.destroyObject kind w o).1 = true ↔
          Succeeds kind w o l.stores) := by
      intro o' hu
      obtain rfl : o = o' := Option.some.inj (ho.symm.trans hu.handle)
      rw [Stores.destroyed_iff (Stores.usable_isValid hu) (index_isValid l.stores),
        succeeds_isValid]
    have hid : (l.stores.isValid kind o).2.objectId o = l.stores.objectId o := by
      rcases @Stores.isValid_cases Obj _ kind o l.stores with heq | heq <;> rw [heq]
      rfl
    constructor
    · rintro h o' hu hok
      cases hok
      by_contra hfails
      have hfalse := fun h0 => hfails ((hdestroyed o hu).1 h0)
      have hkept := h.kept (by rw [hcall, if_neg hfalse]; exact CK_RV.noConfusion) o hu
      rw [hcall] at hkept
      exact getObject_forgotten l.rep ho hObject hkept.handle
    · intro h
      refine ⟨fun hrv => ⟨o, ho, fun ops a hrun => ?_⟩, fun hrv o' hu => ?_⟩
      · rw [hcall] at hrv hrun
        have htrue : ((l.stores.isValid kind o).2.destroyObject kind w o).1 = true := by
          by_contra hfalse
          rw [if_neg hfalse] at hrv
          cases hrv
        have habsent := Stores.absent_of_destroyed htrue
        rw [hid] at habsent
        refine Run.invariant hrun (gone_of_absent (getObject_forgotten l.rep ho) habsent) ?_
        rintro b op c hb ⟨hop, rfl⟩
        exact gone_exec hb hop
      · obtain rfl : o = o' := Option.some.inj (ho.symm.trans hu.handle)
        rw [hcall, if_pos ((hdestroyed o hu).2 (h o hu rfl))] at hrv
        exact absurd rfl hrv

end Call

/-! ### One object -/

/-- A session and a public object of the token. -/
def oneHandle : HandleManager Unit Unit :=
  ((HandleManager.empty.addSession 0 ()).2.addTokenObject 0 false ()).2

lemma rep_oneHandle : oneHandle.Rep fun _ => 0 :=
  HandleManager.rep_addTokenObject
    (HandleManager.rep_addSession (HandleManager.rep_empty _) (by decide) 0 ()) (by decide)

def objectName : { f : FileName // OSToken.isObjectFile f = true } :=
  ⟨['1'] ++ OSToken.dotObject, by decide⟩

/-- The object as a file with its lock, and as a row. -/
def oneStored : Stores Unit where
  sessionObjects := ⟨fun _ => ⟨0, 1, false, false⟩, ∅, ∅⟩
  dir := ⟨{objectName.1, OSToken.lockName objectName.1}, some 0⟩
  osToken := ⟨0, {objectName.1}, {objectName.1}⟩
  tokenValid := true
  fileValid := fun _ => true
  connection := true
  rows := {7}
  saved := none
  objectId := fun _ => 7
  transaction := fun _ => false
  allObjects := fun id => if id = 7 then some () else none

def oneLibrary : Library Unit Unit where
  isInitialised := true
  fakeRutokenECP := false
  handleManager := oneHandle
  home := fun _ => 0
  rep := rep_oneHandle
  session := fun _ => ⟨0, true, .none, none⟩
  sdm := fun _ => ⟨[], [], false, false, [], []⟩
  attributes := fun _ => [(CKA_TOKEN, .boolean true), (CKA_PRIVATE, .boolean false)]
  stores := oneStored

/-- Everything goes well but the removal of the lock, or the commit. -/
def lockStays : Outcome := ⟨⟨true, true⟩, ⟨false, true⟩, true, true, true, true⟩

def commitFails : Outcome := ⟨⟨true, true⟩, ⟨true, true⟩, true, true, false, true⟩

/-- A lock that cannot be removed leaves an object without a file and without a handle, and a
transaction that cannot be committed a row whose object has no number and no handle. -/
theorem half_destroyed :
    ¬ AllOrNothing (fun _ => .objectFile objectName) lockStays 1 2 oneLibrary ∧
    ¬ AllOrNothing (fun _ => .dbObject) commitFails 1 2 oneLibrary := by
  constructor
  · intro h
    have hkept := h.kept (by decide +kernel) () ⟨rfl, by decide +kernel, by decide +kernel,
      by unfold Stores.Stored; decide +kernel⟩
    exact absurd hkept.handle (by decide +kernel)
  · intro h
    have hkept := h.kept (by decide +kernel) () ⟨rfl, by decide +kernel, by decide +kernel,
      by unfold Stores.Stored; decide +kernel⟩
    exact absurd hkept.handle (by decide +kernel)

end SoftHSM.Destroy
