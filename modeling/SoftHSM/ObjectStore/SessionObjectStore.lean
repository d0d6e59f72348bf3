import Mathlib.Data.Finset.Basic
import Mathlib.Data.Nat.Notation
import Mathlib.Logic.Function.Basic

/-!
The store of the session objects. An object is known by its address; what is at an address
is given by the store. The operations that drop objects release them after the lock is gone,
and return them with the new store.
-/

namespace SoftHSM

/-- What `SessionObject` keeps beside its attributes. -/
structure SessionObject where
  slotID : ℕ
  hSession : ℕ
  isPrivate : Bool
  valid : Bool

namespace SessionObject

def hasSlotID (o : SessionObject) (slotID : ℕ) : Bool := o.slotID == slotID

def removeOnSessionClose (hSession : ℕ) (o : SessionObject) : Bool := o.hSession == hSession
def removeOnAllSessionsClose (slotID : ℕ) (o : SessionObject) : Bool := o.slotID == slotID
def removeOnTokenLogout (slotID : ℕ) (o : SessionObject) : Bool :=
  o.slotID == slotID && o.isPrivate

end SessionObject

structure SessionObjectStore (Obj : Type) where
  object : Obj → SessionObject
  objects : Finset Obj
  allObjects : Finset Obj

namespace SessionObjectStore

variable {Obj : Type} [DecidableEq Obj]

/-- `createObject`, with the address that the new object gets. -/
def createObject (s : SessionObjectStore Obj) (slotID hSession : ℕ) (isPrivate : Bool)
    (newObject : Obj) : SessionObjectStore Obj :=
  { object := Function.update s.object newObject ⟨slotID, hSession, isPrivate, true⟩
    objects := insert newObject s.objects
    allObjects := insert newObject s.allObjects }

def invalidate (s : SessionObjectStore Obj) (dropped : Finset Obj) : Obj → SessionObject :=
  fun o => if o ∈ dropped then { s.object o with valid := false } else s.object o

def deleteObject (s : SessionObjectStore Obj) (object : Obj) :
    Bool × SessionObjectStore Obj × Finset Obj :=
  if object ∉ s.objects then (false, s, ∅)
  else (true, ⟨s.invalidate {object}, s.objects.erase object, s.allObjects.erase object⟩,
    {object})

/-- The loop that `sessionClosed`, `allSessionsClosed` and `tokenLoggedOut` share: the
objects for which `removeOn` holds are invalidated and leave both sets. -/
def removeWhere (s : SessionObjectStore Obj) (removeOn : SessionObject → Bool) :
    SessionObjectStore Obj × Finset Obj :=
  let dropped := s.objects.filter (fun o => removeOn (s.object o))
  (⟨s.invalidate dropped, s.objects \ dropped, s.allObjects \ dropped⟩, dropped)

def sessionClosed (s : SessionObjectStore Obj) (hSession : ℕ) :
    SessionObjectStore Obj × Finset Obj :=
  s.removeWhere (SessionObject.removeOnSessionClose hSession)

def allSessionsClosed (s : SessionObjectStore Obj) (slotID : ℕ) :
    SessionObjectStore Obj × Finset Obj :=
  s.removeWhere (SessionObject.removeOnAllSessionsClose slotID)

def tokenLoggedOut (s : SessionObjectStore Obj) (slotID : ℕ) :
    SessionObjectStore Obj × Finset Obj :=
  s.removeWhere (SessionObject.removeOnTokenLogout slotID)

/-- `getObjects(slotID, ..)`: the objects that are acquired for the caller. -/
def getObjects (s : SessionObjectStore Obj) (slotID : ℕ) : Finset Obj :=
  s.objects.filter (fun o => (s.object o).hasSlotID slotID)

def clearStore (s : SessionObjectStore Obj) : SessionObjectStore Obj × Finset Obj :=
  (⟨s.object, ∅, ∅⟩, s.allObjects)

/-- The two sets of the store are one. -/
def OneSet (s : SessionObjectStore Obj) : Prop := s.objects = s.allObjects

/-- What an operation that drops objects does to the set. -/
structure Dropped (s s' : SessionObjectStore Obj) (dropped : Finset Obj) : Prop where
  sub : dropped ⊆ s.allObjects
  objects : s'.objects = s.objects \ dropped
  allObjects : s'.allObjects = s.allObjects \ dropped
  slotID : ∀ o, (s'.object o).slotID = (s.object o).slotID

lemma slotID_invalidate (s : SessionObjectStore Obj) (dropped : Finset Obj) (o : Obj) :
    (s.invalidate dropped o).slotID = (s.object o).slotID := by
  unfold invalidate
  split <;> rfl

lemma dropped_removeWhere {s : SessionObjectStore Obj} (h : s.OneSet)
    (removeOn : SessionObject → Bool) :
    Dropped s (s.removeWhere removeOn).1 (s.removeWhere removeOn).2 where
  sub := h ▸ Finset.filter_subset _ _
  objects := rfl
  allObjects := rfl
  slotID := s.slotID_invalidate _

lemma dropped_deleteObject {s : SessionObjectStore Obj} (h : s.OneSet) (o : Obj) :
    Dropped s (s.deleteObject o).2.1 (s.deleteObject o).2.2 := by
  unfold deleteObject
  split
  · exact ⟨by simp, by simp, by simp, fun _ => rfl⟩
  · rename_i ho
    have ho' : o ∈ s.allObjects := h ▸ (by simpa using ho)
    exact ⟨by simpa using ho', by simp [Finset.erase_eq], by simp [Finset.erase_eq],
      s.slotID_invalidate _⟩

lemma dropped_clearStore {s : SessionObjectStore Obj} (h : s.OneSet) :
    Dropped s s.clearStore.1 s.clearStore.2 := by
  have ho : s.objects = s.allObjects := h
  exact ⟨subset_refl _, by simp [clearStore, ho], by simp [clearStore], fun _ => rfl⟩

lemma Dropped.oneSet {s s' : SessionObjectStore Obj} {dropped : Finset Obj}
    (hd : Dropped s s' dropped) (h : s.OneSet) : s'.OneSet := by
  unfold OneSet at h ⊢
  rw [hd.objects, hd.allObjects, h]

/-- What a loop leaves in the store is as it was. -/
lemma mem_removeWhere {s : SessionObjectStore Obj} {removeOn : SessionObject → Bool} {o : Obj} :
    o ∈ (s.removeWhere removeOn).1.objects ↔
      o ∈ s.objects ∧ removeOn (s.object o) = false := by
  simp only [removeWhere, Finset.mem_sdiff, Finset.mem_filter, not_and, Bool.not_eq_true]
  tauto

lemma object_removeWhere {s : SessionObjectStore Obj} {removeOn : SessionObject → Bool} {o : Obj}
    (h : o ∈ (s.removeWhere removeOn).1.objects) :
    (s.removeWhere removeOn).1.object o = s.object o := by
  have hkept := (mem_removeWhere.1 h).2
  simp [removeWhere, invalidate, hkept]

lemma mem_deleteObject {s : SessionObjectStore Obj} {o d : Obj}
    (h : o ∈ (s.deleteObject d).2.1.objects) : o ∈ s.objects := by
  unfold deleteObject at h
  split at h
  · exact h
  · exact Finset.mem_of_mem_erase h

/-- Only the validity of an object that is deleted changes. -/
lemma object_deleteObject (s : SessionObjectStore Obj) (o d : Obj) :
    ((s.deleteObject d).2.1.object o).slotID = (s.object o).slotID ∧
      ((s.deleteObject d).2.1.object o).hSession = (s.object o).hSession ∧
      ((s.deleteObject d).2.1.object o).isPrivate = (s.object o).isPrivate := by
  unfold deleteObject
  split
  · exact ⟨rfl, rfl, rfl⟩
  · simp only [invalidate]
    split <;> exact ⟨rfl, rfl, rfl⟩

end SessionObjectStore

end SoftHSM
