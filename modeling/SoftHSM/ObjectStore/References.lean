import SoftHSM.HandleMgr.Released
import SoftHSM.HandleMgr.Runs
import SoftHSM.ObjectStore.SessionObjectStore

/-!
The references to session objects. An object starts with the reference of its store, gets one
with its handle, and one for every search that has it in hand; the two managers drop theirs
independently. The count is at all times the number of those that refer to the object.
-/

set_option linter.unusedSectionVars false

namespace SoftHSM.References

open HandleManager SessionObjectStore Transition

variable {Obj Sess : Type} [DecidableEq Obj]

/-- The two managers, the counter of every object, and the objects that the running searches
have acquired. -/
structure Managers (Obj Sess : Type) where
  manager : HandleManager Obj Sess
  store : SessionObjectStore Obj
  refCount : Obj → ℤ
  finds : List (Finset Obj)

/-- `OSObject::acquire` on every object of a set. -/
def acquire (xs : Finset Obj) (refCount : Obj → ℤ) (o : Obj) : ℤ :=
  if o ∈ xs then refCount o + 1 else refCount o

/-- `OSObject::release` on every object of a set. -/
def release (xs : Finset Obj) (refCount : Obj → ℤ) (o : Obj) : ℤ :=
  if o ∈ xs then refCount o - 1 else refCount o

/-- `OSObject::release` on every object of a list, as often as it is there. -/
def releaseAll (l : List Obj) (refCount : Obj → ℤ) (o : Obj) : ℤ := refCount o - l.count o

/-- The object that an operation of the handle manager acquires. -/
def acquired (m : HandleManager Obj Sess) : HandleManager.Op Obj Sess → Finset Obj
  | .addSessionObject s S p o => if (m.addSessionObject s S p o).2.2 then {o} else ∅
  | _ => ∅

/-- The objects that an operation of the handle manager releases. -/
def released (m : HandleManager Obj Sess) : HandleManager.Op Obj Sess → List Obj
  | .destroyObject h => (m.destroyObject h).2
  | .sessionClosed h => (m.sessionClosed h).2
  | .allSessionsClosed s => (m.allSessionsClosed s).2
  | .tokenLoggedOut s => (m.tokenLoggedOut s).2
  | _ => []

inductive Op (Obj Sess : Type)
  /-- an operation of the handle manager -/
  | handles (op : HandleManager.Op Obj Sess)
  /-- `createObject` of the store, with the address of the new object -/
  | createObject (slotID hSession : ℕ) (isPrivate : Bool) (newObject : Obj)
  | deleteObject (object : Obj)
  | storeSessionClosed (hSession : ℕ)
  | storeAllSessionsClosed (slotID : ℕ)
  | storeTokenLoggedOut (slotID : ℕ)
  | clearStore
  /-- `C_DestroyObject`, once its checks have passed -/
  | C_DestroyObject (hObject : ℕ)
  /-- `C_FindObjectsInit` acquires the objects of its slot -/
  | findBegin (slotID : ℕ)
  /-- and releases them at its exit -/
  | findEnd (sessionObjects : Finset Obj)

def handleOp (s : Managers Obj Sess) (op : HandleManager.Op Obj Sess) : Managers Obj Sess :=
  { s with
    manager := s.manager.exec op
    refCount := releaseAll (released s.manager op) (acquire (acquired s.manager op) s.refCount) }

def storeOp (s : Managers Obj Sess) (r : SessionObjectStore Obj × Finset Obj) :
    Managers Obj Sess :=
  { s with store := r.1, refCount := release r.2 s.refCount }

def exec (s : Managers Obj Sess) : Op Obj Sess → Managers Obj Sess
  | .handles op => handleOp s op
  | .createObject slotID hSession isPrivate o =>
    { s with
      store := s.store.createObject slotID hSession isPrivate o
      refCount := Function.update s.refCount o 1 }
  | .deleteObject o => storeOp s (s.store.deleteObject o).2
  | .storeSessionClosed S => storeOp s (s.store.sessionClosed S)
  | .storeAllSessionsClosed slotID => storeOp s (s.store.allSessionsClosed slotID)
  | .storeTokenLoggedOut slotID => storeOp s (s.store.tokenLoggedOut slotID)
  | .clearStore => storeOp s s.store.clearStore
  | .C_DestroyObject h =>
    match s.manager.handles h with
    | some (.object _ hSession _ o) =>
      if hSession = CK_INVALID_HANDLE then handleOp s (.destroyObject h)
      else if !(s.store.object o).valid then s
      else
        let s := handleOp s (.destroyObject h)
        storeOp s (s.store.deleteObject o).2
    | _ => s
  | .findBegin slotID =>
    let sessionObjects := s.store.getObjects slotID
    { s with
      refCount := acquire sessionObjects s.refCount
      finds := sessionObjects :: s.finds }
  | .findEnd sessionObjects =>
    { s with
      refCount := release sessionObjects s.refCount
      finds := s.finds.erase sessionObjects }

/-- Nothing created, nothing issued. -/
def empty (object : Obj → SessionObject) : Managers Obj Sess :=
  ⟨HandleManager.empty, ⟨object, ∅, ∅⟩, fun _ => 0, []⟩

/-- The searches that have the object in hand. -/
def outstanding (s : Managers Obj Sess) (o : Obj) : ℕ := s.finds.countP (fun xs => o ∈ xs)

open Classical in
/-- The reference of a handle with a session. -/
noncomputable def handleRefs (tbl : ℕ → Option (Handle Obj Sess)) (o : Obj) : ℕ :=
  if Holds tbl o then 1 else 0

/-- The reference of the store. -/
def storeRefs (s : SessionObjectStore Obj) (o : Obj) : ℕ := if o ∈ s.allObjects then 1 else 0

/-- Those that refer to the object: its store, its handle, and the searches. -/
noncomputable def owners (s : Managers Obj Sess) (o : Obj) : ℕ :=
  storeRefs s.store o + handleRefs s.manager.handles o + outstanding s o

/-- The counter of handles has not come to its last value. -/
def Unwrapped (m : HandleManager Obj Sess) : Prop := m.handleCounter + 1 < 2 ^ 64

/-- What the callers see to. A session object is registered by someone who has it, under its
own slot and a live session of it; a token object is no session object and is registered
under the slot it has; a new object gets an address that is free; and a search releases what
it acquired. -/
def Careful (s : Managers Obj Sess) : Op Obj Sess → Prop
  | .handles (.addSessionObject slotID hSession _ o) =>
    (o ∈ s.store.allObjects ∨ 0 < outstanding s o) ∧ slotID = (s.store.object o).slotID ∧
      ∃ x, s.manager.handles hSession = some (.session slotID x)
  | .handles (.addTokenObject slotID _ o) => s.refCount o = 0 ∧
      ∀ h e, s.manager.objects o = some h → s.manager.handles h = some e → e.slotID = slotID
  | .createObject _ _ _ o => s.refCount o = 0 ∧ s.manager.objects o = none
  | .findEnd sessionObjects => sessionObjects ∈ s.finds
  | _ => True

/-- Handles are issued only while the counter does not wrap. -/
def Allowed (s : Managers Obj Sess) (op : Op Obj Sess) : Prop :=
  Careful s op ∧
    match op with
    | .handles (.addSession _ _) | .handles (.addSessionObject _ _ _ _)
    | .handles (.addTokenObject _ _ _) => Unwrapped s.manager
    | _ => True

/-- The invariant. -/
structure Balanced (s : Managers Obj Sess) : Prop where
  rep : ∃ home, Rep home s.manager ∧ ∀ o, s.refCount o ≠ 0 → home o = (s.store.object o).slotID
  oneSet : s.store.OneSet
  count : ∀ o, s.refCount o = owners s o

/-! ### The handle manager -/

section account

variable {home : Obj → ℕ} {m : HandleManager Obj Sess}

lemma holds_insert {tbl : ℕ → Option (Handle Obj Sess)} {h : ℕ} (hh : tbl h = none)
    (e : Handle Obj Sess) (o : Obj) :
    Holds (Function.update tbl h (some e)) o ↔
      Holds tbl o ∨ e.objectOf = some o ∧ ∃ S, e.sessionOf = some S := by
  constructor
  · rintro ⟨k, e', S, hk, ho, hS⟩
    rcases eq_or_ne k h with rfl | hkh
    · rw [Function.update_self, Option.some.injEq] at hk
      subst hk
      exact .inr ⟨ho, S, hS⟩
    · rw [Function.update_of_ne hkh] at hk
      exact .inl ⟨k, e', S, hk, ho, hS⟩
  · rintro (⟨k, e', S, hk, ho, hS⟩ | ⟨ho, S, hS⟩)
    · have hkh : k ≠ h := by
        rintro rfl
        rw [hh] at hk
        cases hk
      exact ⟨k, e', S, by rwa [Function.update_of_ne hkh], ho, hS⟩
    · exact ⟨h, e, S, by rw [Function.update_self], ho, hS⟩

lemma handleRefs_of {tbl : ℕ → Option (Handle Obj Sess)} {o : Obj} (h : Holds tbl o) :
    handleRefs tbl o = 1 := if_pos h

lemma handleRefs_of_not {tbl : ℕ → Option (Handle Obj Sess)} {o : Obj} (h : ¬ Holds tbl o) :
    handleRefs tbl o = 0 := if_neg h

lemma handleRefs_congr {tbl tbl' : ℕ → Option (Handle Obj Sess)} {o : Obj}
    (h : Holds tbl o ↔ Holds tbl' o) : handleRefs tbl o = handleRefs tbl' o := by
  by_cases ho : Holds tbl' o
  · rw [handleRefs_of ho, handleRefs_of (h.2 ho)]
  · rw [handleRefs_of_not ho, handleRefs_of_not fun hn => ho (h.1 hn)]

lemma no_holds_of {tbl : ℕ → Option (Handle Obj Sess)} {o : Obj}
    (h : ∀ k e, tbl k = some e → e.objectOf = none) : ¬ Holds tbl o := by
  rintro ⟨k, e, S, hk, ho, -⟩
  rw [h k e hk] at ho
  cases ho

/-- The handles with a session before and after, against what was acquired and released. -/
def Accounted (m : HandleManager Obj Sess) (op : HandleManager.Op Obj Sess) : Prop :=
  ∀ o, handleRefs (m.exec op).handles o + (released m op).count o =
    handleRefs m.handles o + if o ∈ acquired m op then 1 else 0

lemma accounted_of_released {op : HandleManager.Op Obj Sess}
    (h : Released m.handles (m.exec op).handles (released m op)) (ha : acquired m op = ∅) :
    Accounted m op := by
  intro o
  have hh := h.holds o
  have hg := h.gone o
  rw [ha]
  by_cases ho : o ∈ released m op
  · have hc : (released m op).count o = 1 := List.count_eq_one_of_mem h.nodup ho
    rw [handleRefs_of (hh.2 (.inr ho)), handleRefs_of_not (hg ho), hc]
    rfl
  · have hc : (released m op).count o = 0 := List.count_eq_zero.2 ho
    have hsame : Holds (m.exec op).handles o ↔ Holds m.handles o := by simp [hh, ho]
    rw [handleRefs_congr hsame, hc]
    rfl

lemma accounted_of_same {op : HandleManager.Op Obj Sess}
    (h : ∀ o, Holds (m.exec op).handles o ↔ Holds m.handles o) (hr : released m op = [])
    (ha : acquired m op = ∅) : Accounted m op := by
  intro o
  rw [ha, hr, handleRefs_congr (h o)]
  rfl

/-- **The account of the handle manager.** -/
theorem accounted (hm : Rep home m) {op : HandleManager.Op Obj Sess}
    (hp : op.Presented home) (hu : op.UnderSession m) (hc : m.issue op ≠ [] → Unwrapped m) :
    Accounted m op := by
  cases op with
  | addSession s x =>
    obtain ⟨-, hh⟩ := hm.next (hc (by simp [issue]))
    refine accounted_of_same (fun o => ?_) rfl rfl
    simp only [HandleManager.exec, addSession, holds_insert hh]
    simp [Handle.objectOf]
  | addSessionObject s S p o =>
    obtain rfl : s = home o := hp
    rcases hm.addSessionObject_cases (S := S) (p := p) (o := o) with ⟨h, ho, heq⟩ | ⟨ho, hreg⟩
    · refine accounted_of_same (fun o' => ?_) rfl ?_
      · simp [HandleManager.exec, heq]
      · simp [acquired, heq]
    · obtain ⟨-, hh⟩ := hm.next (hc (by simp [issue, ho]))
      obtain ⟨x, hx⟩ := hu ho
      have hS : S ≠ CK_INVALID_HANDLE := fun h0 => by
        have := (hm.issued S _ hx).1
        rw [h0] at this
        exact absurd this (by decide)
      have hnot : ¬ Holds m.handles o := by
        rintro ⟨k, e, S', hk, hobj, -⟩
        have := (hm.objects o k).2 ⟨e, hk, hobj⟩
        rw [ho] at this
        cases this
      have hacq : acquired m (.addSessionObject (home o) S p o) = {o} := by
        simp [acquired, addSessionObject, hreg]
      have hheld : ∀ o', Holds (m.exec (.addSessionObject (home o) S p o)).handles o' ↔
          Holds m.handles o' ∨ o' = o := by
        intro o'
        simp only [HandleManager.exec, addSessionObject, hreg, holds_insert hh]
        simp [Handle.objectOf, Handle.sessionOf, hS, eq_comm]
      intro o'
      rw [hacq]
      rcases eq_or_ne o' o with rfl | hoo
      · rw [handleRefs_of ((hheld o').2 (.inr rfl)), handleRefs_of_not hnot]
        simp [released]
      · rw [handleRefs_congr ((hheld o').trans (or_iff_left hoo))]
        simp [released, hoo]
  | addTokenObject s p o =>
    obtain rfl : s = home o := hp
    refine accounted_of_same (fun o' => ?_) rfl rfl
    cases ho : m.objects o with
    | some h => simp [HandleManager.exec, addTokenObject, hm.registered_of_mem ho]
    | none =>
      obtain ⟨-, hh⟩ := hm.next (hc (by simp [issue, ho]))
      have hreg : m.registered (home o) o = none := by simp [registered, ho]
      simp only [HandleManager.exec, addTokenObject, hreg, holds_insert hh]
      simp [Handle.sessionOf]
  | destroyObject h => exact accounted_of_released (released_destroyObject hm h) rfl
  | sessionClosed h => exact accounted_of_released (released_sessionClosed hm h) rfl
  | allSessionsClosed s => exact accounted_of_released (released_allSessionsClosed hm s) rfl
  | tokenLoggedOut s => exact accounted_of_released (released_tokenLoggedOut hm s) rfl

end account

/-! ### One step -/

section step

variable {s : Managers Obj Sess}

lemma balanced_empty (object : Obj → SessionObject) :
    Balanced (empty object : Managers Obj Sess) where
  rep := ⟨fun _ => 0, rep_empty _, fun o ho => absurd rfl ho⟩
  oneSet := rfl
  count o := by
    have hn : ¬ Holds (HandleManager.empty : HandleManager Obj Sess).handles o := by
      rintro ⟨k, e, S, hk, -⟩
      cases hk
    simp [owners, storeRefs, empty, outstanding, handleRefs_of_not hn]

/-- A pointer that no handle knows may be moved to another slot. -/
lemma rep_rehome {home : Obj → ℕ} {m : HandleManager Obj Sess} (hm : Rep home m) {o : Obj}
    (ho : m.objects o = none) (slotID : ℕ) : Rep (Function.update home o slotID) m := by
  refine { hm with home := fun k e o' hk ho' => ?_ }
  have hne : o' ≠ o := by
    rintro rfl
    have := (hm.objects o' k).2 ⟨e, hk, ho'⟩
    rw [ho] at this
    cases this
  rw [Function.update_of_ne hne]
  exact hm.home k e o' hk ho'

/-- An operation of the handle manager keeps the balance. -/
lemma balanced_handleOp (hb : Balanced s) {op : HandleManager.Op Obj Sess} {home : Obj → ℕ}
    (hm : Rep home s.manager) (hhome : ∀ o, s.refCount o ≠ 0 → home o = (s.store.object o).slotID)
    (hp : op.Presented home) (hu : op.UnderSession s.manager)
    (hc : s.manager.issue op ≠ [] → Unwrapped s.manager)
    (hacq : ∀ o ∈ acquired s.manager op, s.refCount o ≠ 0) : Balanced (handleOp s op) := by
  have hsame : ∀ o, owners (handleOp s op) o =
      storeRefs s.store o + handleRefs (s.manager.exec op).handles o + outstanding s o :=
    fun o => rfl
  have hcount : ∀ o, (handleOp s op).refCount o = owners (handleOp s op) o := by
    intro o
    have ha := accounted hm hp hu hc o
    have hb' := hb.count o
    rw [hsame o]
    simp only [owners] at hb'
    simp only [handleOp, releaseAll, acquire]
    by_cases ho : o ∈ acquired s.manager op
    · rw [if_pos ho] at ha ⊢
      omega
    · rw [if_neg ho] at ha ⊢
      omega
  refine ⟨⟨home, rep_exec hm hp hu hc, fun o ho => ?_⟩, hb.oneSet, hcount⟩
  -- an object that is alive was alive before
  refine hhome o fun h0 => ho ?_
  have hb0 := hb.count o
  have ha := accounted hm hp hu hc o
  rw [if_neg fun h => hacq o h h0] at ha
  rw [hcount o, hsame o]
  rw [h0] at hb0
  simp only [owners] at hb0
  omega

/-- An operation of the store that drops objects keeps the balance. -/
lemma balanced_storeOp (hb : Balanced s) {r : SessionObjectStore Obj × Finset Obj}
    (hd : Dropped s.store r.1 r.2) : Balanced (storeOp s r) := by
  obtain ⟨home, hm, hhome⟩ := hb.rep
  have hcount : ∀ o, (storeOp s r).refCount o = owners (storeOp s r) o := by
    intro o
    have hb' := hb.count o
    have hs : owners (storeOp s r) o =
      storeRefs r.1 o + handleRefs s.manager.handles o + outstanding s o := rfl
    rw [hs]
    simp only [owners, storeRefs] at hb' ⊢
    simp only [storeOp, release, hd.allObjects, Finset.mem_sdiff]
    by_cases ho : o ∈ r.2
    · have hall := hd.sub ho
      simp only [ho, hall, not_true, and_false, if_true, if_false] at hb' ⊢
      omega
    · simp only [ho, not_false_eq_true, and_true, if_false] at hb' ⊢
      exact hb'
  refine ⟨⟨home, hm, fun o ho => ?_⟩, hd.oneSet hb.oneSet, hcount⟩
  rw [show ((storeOp s r).store.object o).slotID = (s.store.object o).slotID from hd.slotID o]
  refine hhome o fun h0 => ho ?_
  have hb0 := hb.count o
  have hnot : o ∉ r.2 := by
    intro hr
    have hall := hd.sub hr
    rw [h0] at hb0
    simp only [owners, storeRefs, hall, if_true] at hb0
    omega
  simp only [storeOp, release, hnot, if_false, h0]

lemma not_owned (hb : Balanced s) {o : Obj} (h0 : s.refCount o = 0) :
    o ∉ s.store.allObjects ∧ handleRefs s.manager.handles o = 0 ∧ outstanding s o = 0 := by
  have hb0 := hb.count o
  rw [h0] at hb0
  simp only [owners, storeRefs] at hb0
  refine ⟨fun hall => ?_, by omega, by omega⟩
  rw [if_pos hall] at hb0
  omega

lemma balanced_createObject (hb : Balanced s) {slotID hSession : ℕ} {isPrivate : Bool} {o : Obj}
    (h0 : s.refCount o = 0) (hfree : s.manager.objects o = none) :
    Balanced (exec s (.createObject slotID hSession isPrivate o)) := by
  obtain ⟨home, hm, hhome⟩ := hb.rep
  obtain ⟨hall, hh, hout⟩ := not_owned hb h0
  have hone : s.store.objects = s.store.allObjects := hb.oneSet
  refine ⟨⟨_, rep_rehome hm hfree slotID, fun o' ho' => ?_⟩, ?_, fun o' => ?_⟩
  · by_cases hoo : o' = o
    · subst hoo
      simp [exec, createObject]
    · simp only [exec, createObject, Function.update_of_ne hoo] at ho' ⊢
      exact hhome o' ho'
  · simp [OneSet, exec, createObject, hone]
  · have hb' := hb.count o'
    by_cases hoo : o' = o
    · subst hoo
      have hown : owners (exec s (.createObject slotID hSession isPrivate o')) o' =
          storeRefs (s.store.createObject slotID hSession isPrivate o') o' +
            handleRefs s.manager.handles o' + outstanding s o' := rfl
      rw [hown, hh, hout]
      simp [exec, storeRefs, createObject]
    · have hown : owners (exec s (.createObject slotID hSession isPrivate o)) o' =
          storeRefs (s.store.createObject slotID hSession isPrivate o) o' +
            handleRefs s.manager.handles o' + outstanding s o' := rfl
      rw [hown]
      simp only [owners, storeRefs] at hb'
      simp only [exec, storeRefs, createObject, Function.update_of_ne hoo, Finset.mem_insert, hoo,
        false_or]
      exact hb'

lemma balanced_findBegin (hb : Balanced s) (slotID : ℕ) :
    Balanced (exec s (.findBegin slotID)) := by
  obtain ⟨home, hm, hhome⟩ := hb.rep
  have hone : s.store.objects = s.store.allObjects := hb.oneSet
  refine ⟨⟨home, hm, fun o ho => hhome o fun h0 => ho ?_⟩, hb.oneSet, fun o => ?_⟩
  · obtain ⟨hall, -, -⟩ := not_owned hb h0
    simp [exec, acquire, getObjects, hone, hall, h0]
  · have hb' := hb.count o
    simp only [owners, outstanding] at hb'
    simp only [exec, owners, acquire, outstanding, List.countP_cons, decide_eq_true_eq]
    split <;> omega

lemma balanced_findEnd (hb : Balanced s) {xs : Finset Obj} (hxs : xs ∈ s.finds) :
    Balanced (exec s (.findEnd xs)) := by
  obtain ⟨home, hm, hhome⟩ := hb.rep
  have hpos : ∀ o ∈ xs, 0 < outstanding s o := fun o ho =>
    List.countP_pos_iff.2 ⟨xs, hxs, by simpa using ho⟩
  refine ⟨⟨home, hm, fun o ho => hhome o fun h0 => ho ?_⟩, hb.oneSet, fun o => ?_⟩
  · obtain ⟨-, -, hout⟩ := not_owned hb h0
    have hnot : o ∉ xs := fun hx => by
      have := hpos o hx
      omega
    simp [exec, release, hnot, h0]
  · have hb' := hb.count o
    simp only [owners, outstanding] at hb'
    simp only [exec, owners, release, outstanding, List.countP_erase, hxs, true_and,
      decide_eq_true_eq]
    by_cases ho : o ∈ xs
    · have := hpos o ho
      simp only [outstanding] at this
      simp only [ho, if_true]
      omega
    · simp only [ho, if_false]
      omega

lemma balanced_destroyObject (hb : Balanced s) (h : ℕ) :
    Balanced (handleOp s (.destroyObject h)) := by
  obtain ⟨home, hm, hhome⟩ := hb.rep
  exact balanced_handleOp hb hm hhome trivial trivial (by simp [issue]) (by simp [acquired])

/-- **One step keeps the balance.** -/
theorem balanced_exec (hb : Balanced s) {op : Op Obj Sess} (ha : Allowed s op) :
    Balanced (exec s op) := by
  obtain ⟨home, hm, hhome⟩ := hb.rep
  obtain ⟨hcare, hwrap⟩ := ha
  cases op with
  | handles op =>
    cases op with
    | addSession slotID x =>
      exact balanced_handleOp hb hm hhome trivial trivial (fun _ => hwrap) (by simp [acquired])
    | addSessionObject slotID S p o =>
      obtain ⟨hown, hslot, hlive⟩ := hcare
      have h0 : s.refCount o ≠ 0 := by
        intro h0
        obtain ⟨hall, -, hout⟩ := not_owned hb h0
        rcases hown with hown | hown
        · exact hall hown
        · omega
      refine balanced_handleOp hb hm hhome (hslot.trans (hhome o h0).symm) (fun _ => hlive)
        (fun _ => hwrap) fun o' ho' => ?_
      have hoo : o' = o := by
        simp only [acquired] at ho'
        split at ho'
        · exact Finset.mem_singleton.1 ho'
        · cases ho'
      exact hoo ▸ h0
    | addTokenObject slotID p o =>
      obtain ⟨h0, hslot⟩ := hcare
      rcases hobj : s.manager.objects o with _ | h
      · -- the pointer is new to the manager, and from now on at home in this slot
        refine balanced_handleOp hb (rep_rehome hm hobj slotID) (fun o' ho' => ?_)
          (by simp [HandleManager.Op.Presented]) trivial (fun _ => hwrap) (by simp [acquired])
        have hoo : o' ≠ o := by
          rintro rfl
          exact ho' h0
        rw [Function.update_of_ne hoo]
        exact hhome o' ho'
      · obtain ⟨e, he, ho⟩ := (hm.objects o h).1 hobj
        have hs := hslot h e hobj he
        exact balanced_handleOp hb hm hhome (hs.symm.trans (hm.home h e o he ho)) trivial
          (fun _ => hwrap) (by simp [acquired])
    | destroyObject h => exact balanced_destroyObject hb h
    | sessionClosed h =>
      exact balanced_handleOp hb hm hhome trivial trivial (by simp [issue]) (by simp [acquired])
    | allSessionsClosed slotID =>
      exact balanced_handleOp hb hm hhome trivial trivial (by simp [issue]) (by simp [acquired])
    | tokenLoggedOut slotID =>
      exact balanced_handleOp hb hm hhome trivial trivial (by simp [issue]) (by simp [acquired])
  | createObject slotID S p o => exact balanced_createObject hb hcare.1 hcare.2
  | deleteObject o => exact balanced_storeOp hb (dropped_deleteObject hb.oneSet o)
  | storeSessionClosed S => exact balanced_storeOp hb (dropped_removeWhere hb.oneSet _)
  | storeAllSessionsClosed slotID => exact balanced_storeOp hb (dropped_removeWhere hb.oneSet _)
  | storeTokenLoggedOut slotID => exact balanced_storeOp hb (dropped_removeWhere hb.oneSet _)
  | clearStore => exact balanced_storeOp hb (dropped_clearStore hb.oneSet)
  | C_DestroyObject h =>
    have hd := balanced_destroyObject hb h
    simp only [exec]
    split
    · split
      · exact hd
      split
      · exact hb
      · exact balanced_storeOp hd (dropped_deleteObject hd.oneSet _)
    · exact hb
  | findBegin slotID => exact balanced_findBegin hb slotID
  | findEnd xs => exact balanced_findEnd hb hcare

end step

/-! ### Runs -/

/-- **The references balance.** In every reachable state the count of an object is one for its
store, one for its handle with a session, and one for every search that has it in hand. So it
is never below zero; it is above zero as long as any of them refers to the object; and it is
zero, the object deleted, once all of them have dropped it. -/
theorem references_balanced {object : Obj → SessionObject} {ops : List (Op Obj Sess)}
    {s : Managers Obj Sess} (hr : Run (Step Allowed exec) (empty object) ops s) (o : Obj) :
    s.refCount o = storeRefs s.store o + handleRefs s.manager.handles o + outstanding s o ∧
    0 ≤ s.refCount o ∧
    (o ∈ s.store.allObjects ∨ Holds s.manager.handles o ∨ 0 < outstanding s o →
      0 < s.refCount o) ∧
    (o ∉ s.store.allObjects → ¬ Holds s.manager.handles o → outstanding s o = 0 →
      s.refCount o = 0) := by
  have hb : Balanced s := hr.invariant (P := Balanced) (balanced_empty object)
    fun _ _ _ hb hs => hs.2 ▸ balanced_exec hb hs.1
  have hc := hb.count o
  simp only [owners] at hc
  refine ⟨by exact_mod_cast hc, by omega, fun h => ?_, fun hs hh hf => ?_⟩
  · rcases h with h | h | h
    · have : storeRefs s.store o = 1 := if_pos h
      omega
    · have := handleRefs_of h
      omega
    · omega
  · have h1 : storeRefs s.store o = 0 := if_neg hs
    have h2 := handleRefs_of_not hh
    omega

/-- A session object that is created, found by a search, and destroyed while the search still
has it in hand. -/
def foundAndDestroyed : List (Op Unit Unit) :=
  [.handles (.addSession 0 ()), .createObject 0 1 false (),
    .handles (.addSessionObject 0 1 false ()), .findBegin 0, .C_DestroyObject 2]

theorem references_balanced_found :
    (foundAndDestroyed.foldl exec (empty fun _ => ⟨0, 0, false, false⟩)).refCount () = 1 := by
  have hr := @run_foldl _ _ Allowed exec (empty fun _ => ⟨0, 0, false, false⟩ : Managers Unit Unit)
    foundAndDestroyed
    ⟨⟨trivial, by unfold Unwrapped; decide⟩, ⟨⟨rfl, rfl⟩, trivial⟩,
      ⟨⟨.inl (by decide), rfl, (), rfl⟩, by unfold Unwrapped; decide⟩, ⟨trivial, trivial⟩,
      ⟨trivial, trivial⟩, trivial⟩
  have hcount := (references_balanced hr ()).1
  have hstore : storeRefs (foundAndDestroyed.foldl exec
      (empty fun _ => ⟨0, 0, false, false⟩ : Managers Unit Unit)).store () = 0 := by decide
  have hfind : outstanding (foundAndDestroyed.foldl exec
      (empty fun _ => ⟨0, 0, false, false⟩ : Managers Unit Unit)) () = 1 := by decide
  have htable : ∀ k, k ≠ 1 → k ≠ 2 → (foundAndDestroyed.foldl exec
      (empty fun _ => ⟨0, 0, false, false⟩ : Managers Unit Unit)).manager.handles k = none := by
    intro k h1 h2
    change Function.update (Function.update (Function.update (fun _ => none) 1 _) 2 _) 2 none k
      = none
    rw [Function.update_of_ne h2, Function.update_of_ne h2, Function.update_of_ne h1]
  have hhandle := @handleRefs_of_not _ _ _ (foundAndDestroyed.foldl exec
      (empty fun _ => ⟨0, 0, false, false⟩ : Managers Unit Unit)).manager.handles ()
    (no_holds_of fun k e hk => ?_)
  · rw [hcount, hstore, hfind, hhandle]
    rfl
  · rcases eq_or_ne k 1 with rfl | h1
    · cases hk
      rfl
    rcases eq_or_ne k 2 with rfl | h2
    · cases hk
    rw [htable k h1 h2] at hk
    cases hk

/-! ### The counter of handles -/

/-- A session object, its handle, and then the sessions of another slot. -/
def manySessions (n : ℕ) : List (Op Unit Unit) :=
  [.handles (.addSession 0 ()), .createObject 0 1 false (),
    .handles (.addSessionObject 0 1 false ())] ++ List.replicate n (.handles (.addSession 1 ()))

def afterSessions (n : ℕ) : Managers Unit Unit :=
  (manySessions n).foldl exec (empty fun _ => ⟨0, 0, false, false⟩)

lemma afterSessions_succ (n : ℕ) :
    afterSessions (n + 1) = exec (afterSessions n) (.handles (.addSession 1 ())) := by
  simp only [afterSessions, manySessions, List.replicate_succ', ← List.append_assoc]
  rw [List.foldl_append]
  rfl

lemma afterSessions_counter (n : ℕ) :
    (afterSessions n).manager.handleCounter = (2 + n) % 2 ^ 64 := by
  induction n with
  | zero => rfl
  | succ n ih =>
    rw [afterSessions_succ]
    change ((afterSessions n).manager.handleCounter + 1) % 2 ^ 64 = _
    rw [ih]
    omega

lemma afterSessions_kept (n : ℕ) : (afterSessions n).refCount () = 2 ∧
    (afterSessions n).store.allObjects = {()} ∧ (afterSessions n).finds = [] := by
  induction n with
  | zero => exact ⟨rfl, rfl, rfl⟩
  | succ n ih =>
    rw [afterSessions_succ]
    refine ⟨?_, ih.2.1, ih.2.2⟩
    simpa [exec, handleOp, releaseAll, released, acquire, acquired] using ih.1

lemma afterSessions_handles (n : ℕ) {k : ℕ} {e : Handle Unit Unit} (h2 : k ≠ 2)
    (hk : (afterSessions n).manager.handles k = some e) : e.objectOf = none := by
  induction n with
  | zero =>
    change Function.update (Function.update (fun _ => none) 1 _) 2 _ k = some e at hk
    rw [Function.update_of_ne h2] at hk
    rcases eq_or_ne k 1 with rfl | h1
    · cases hk
      rfl
    · rw [Function.update_of_ne h1] at hk
      cases hk
  | succ n ih =>
    rw [afterSessions_succ] at hk
    change Function.update (afterSessions n).manager.handles _ _ k = some e at hk
    rcases eq_or_ne k (afterSessions n).manager.nextHandle with rfl | hne
    · rw [Function.update_self, Option.some.injEq] at hk
      rw [← hk]
      rfl
    · rw [Function.update_of_ne hne] at hk
      exact ih hk

/-- When the counter comes to the handle again, the session takes its place. -/
lemma afterSessions_wrapped : ¬ Holds (afterSessions (2 ^ 64)).manager.handles () := by
  obtain ⟨n, hn⟩ : ∃ n : ℕ, 2 ^ 64 = n + 1 := ⟨2 ^ 64 - 1, by omega⟩
  have hnext : (afterSessions n).manager.nextHandle = 2 := by
    unfold nextHandle
    rw [afterSessions_counter]
    omega
  refine no_holds_of fun k e hk => ?_
  rcases eq_or_ne k 2 with rfl | h2
  · rw [hn, afterSessions_succ] at hk
    change Function.update (afterSessions n).manager.handles _ _ 2 = some e at hk
    rw [hnext, Function.update_self, Option.some.injEq] at hk
    rw [← hk]
    rfl
  · exact afterSessions_handles _ h2 hk

theorem references_need_counter :
    ¬ ∀ (ops : List (Op Unit Unit)) (s : Managers Unit Unit),
      Run (Step Careful exec) (empty fun _ => ⟨0, 0, false, false⟩) ops s →
        ∀ o, s.refCount o = owners s o := by
  intro h
  have hsessions : ∀ n s, AllAllowed Careful exec s
      (List.replicate n (.handles (.addSession 1 ())) : List (Op Unit Unit)) :=
    fun n s => allAllowed_of_forall fun l hl t => by
      rw [List.eq_of_mem_replicate hl]
      trivial
  have hr := h (manySessions (2 ^ 64)) (afterSessions (2 ^ 64)) (run_foldl
    ⟨trivial, ⟨rfl, rfl⟩, ⟨.inl (by decide), rfl, (), rfl⟩, hsessions _ _⟩) ()
  obtain ⟨hcount, hstore, hfinds⟩ := afterSessions_kept (2 ^ 64)
  rw [hcount, owners, storeRefs, hstore, outstanding, hfinds,
    handleRefs_of_not afterSessions_wrapped] at hr
  exact absurd hr (by decide)

end SoftHSM.References
