import Mathlib.Data.Set.Card
import SoftHSM.Lib.Table
import SoftHSM.HandleMgr.HandleManager

/-!
The representation invariant of the handle manager: the indexes are determined by the
table of handles, and every operation keeps them so.
-/

set_option linter.unusedSectionVars false

namespace SoftHSM.HandleManager

open SoftHSM.Table

variable {Obj Sess : Type} [DecidableEq Obj]

/-- The live session handles of a slot. -/
def sessionHandles (m : HandleManager Obj Sess) (s : ℕ) : Set ℕ :=
  {h | ∃ x, m.handles h = some (.session s x)}

/-- The indexes agree with the table of handles, a session object's session is a live
session of the same slot, and the object pointer `o` is known under the slot `home o` only. -/
structure Rep (home : Obj → ℕ) (m : HandleManager Obj Sess) : Prop where
  objects : IsInverse m.handles Handle.objectOf m.objects
  slots : IsIndex m.handles (fun e => some e.slotID) m.slotHandles
  slotsNodup : ∀ s, (m.slotHandles s).Nodup
  sessions : IsIndex m.handles Handle.sessionOf m.sessionObjectHandles
  sessionsNodup : ∀ S, (m.sessionObjectHandles S).Nodup
  live : ∀ h e S, m.handles h = some e → e.sessionOf = some S →
    ∃ x, m.handles S = some (.session e.slotID x)
  home : ∀ h e o, m.handles h = some e → e.objectOf = some o → e.slotID = home o
  count : ∀ s, m.slotSessionCount s = (m.sessionHandles s).ncard
  issued : ∀ h e, m.handles h = some e → 0 < h ∧ h ≤ m.handleCounter

variable {home : Obj → ℕ} {m : HandleManager Obj Sess}

lemma rep_empty (home : Obj → ℕ) : Rep home (empty : HandleManager Obj Sess) where
  objects := by intro o h; simp [empty]
  slots := by intro s h; simp [empty]
  slotsNodup := by simp [empty]
  sessions := by intro s h; simp [empty]
  sessionsNodup := by simp [empty]
  live := by simp [empty]
  home := by simp [empty]
  count := by intro s; simp [empty, sessionHandles]
  issued := by simp [empty]

lemma Rep.mem_slot (hm : Rep home m) {s h : ℕ} :
    h ∈ m.slotHandles s ↔ ∃ e, m.handles h = some e ∧ e.slotID = s := by
  simpa using hm.slots s h

lemma Rep.finite (hm : Rep home m) (s : ℕ) : (m.sessionHandles s).Finite := by
  refine (m.slotHandles s).finite_toSet.subset fun h ⟨x, hx⟩ => ?_
  exact hm.mem_slot.mpr ⟨_, hx, rfl⟩

/-! ### Issuing a handle -/

section issue

variable {h : ℕ}

lemma sessionHandles_insert_object (hh : m.handles h = none) {e : Handle Obj Sess}
    (he : ∀ s x, e ≠ .session s x) (s : ℕ) :
    {k | ∃ x, Function.update m.handles h (some e) k = some (.session s x)} =
      m.sessionHandles s := by
  ext k
  by_cases hk : k = h
  · subst hk
    simp [sessionHandles, hh, he]
  · simp [sessionHandles, hk]

lemma live_insert (hm : Rep home m) (hh : m.handles h = none) {e : Handle Obj Sess}
    (he : ∀ S, e.sessionOf = some S → ∃ x, m.handles S = some (.session e.slotID x)) :
    ∀ k e' S, Function.update m.handles h (some e) k = some e' → e'.sessionOf = some S →
      ∃ x, Function.update m.handles h (some e) S = some (.session e'.slotID x) := by
  intro k e' S hk hS
  have hlive : ∃ x, m.handles S = some (.session e'.slotID x) := by
    by_cases hkh : k = h
    · subst hkh
      rw [Function.update_self, Option.some.injEq] at hk
      subst hk
      exact he S hS
    · rw [Function.update_of_ne hkh] at hk
      exact hm.live k e' S hk hS
  obtain ⟨x, hx⟩ := hlive
  have hne : S ≠ h := by rintro rfl; rw [hh] at hx; exact absurd hx (by simp)
  exact ⟨x, by rw [Function.update_of_ne hne, hx]⟩

lemma home_insert (hm : Rep home m) {e : Handle Obj Sess}
    (he : ∀ o, e.objectOf = some o → e.slotID = home o) :
    ∀ k e' o, Function.update m.handles h (some e) k = some e' → e'.objectOf = some o →
      e'.slotID = home o := by
  intro k e' o hk ho
  by_cases hkh : k = h
  · subst hkh
    rw [Function.update_self, Option.some.injEq] at hk
    subst hk
    exact he o ho
  · rw [Function.update_of_ne hkh] at hk
    exact hm.home k e' o hk ho

lemma issued_insert (hm : Rep home m) {e : Handle Obj Sess} (h0 : 0 < h)
    (hle : m.handleCounter ≤ h) :
    ∀ k e', Function.update m.handles h (some e) k = some e' → 0 < k ∧ k ≤ h := by
  intro k e' hk
  by_cases hkh : k = h
  · subst hkh; exact ⟨h0, le_refl _⟩
  · rw [Function.update_of_ne hkh] at hk
    have := hm.issued k e' hk
    omega

lemma nodup_insert {idx : ℕ → List ℕ} (hn : ∀ s, (idx s).Nodup) (s : ℕ) :
    ∀ s', (Function.update idx s ((idx s).insert h) s').Nodup := by
  intro s'
  by_cases hs : s' = s
  · subst hs; simpa using (hn s').insert
  · simpa [hs] using hn s'

lemma nodup_erase {idx : ℕ → List ℕ} (hn : ∀ s, (idx s).Nodup) (s : ℕ) :
    ∀ s', (Function.update idx s ((idx s).erase h) s').Nodup := by
  intro s'
  by_cases hs : s' = s
  · subst hs; simpa using (hn s').erase h
  · simpa [hs] using hn s'

end issue

/-- As long as the counter does not wrap, the next handle is one that was never issued. -/
lemma Rep.next (hm : Rep home m) (hc : m.handleCounter + 1 < 2 ^ 64) :
    m.nextHandle = m.handleCounter + 1 ∧ m.handles m.nextHandle = none := by
  have hn : m.nextHandle = m.handleCounter + 1 := Nat.mod_eq_of_lt hc
  refine ⟨hn, ?_⟩
  by_contra hne
  obtain ⟨e, he⟩ := Option.ne_none_iff_exists'.mp hne
  have := (hm.issued _ e he).2
  omega

lemma rep_addSession (hm : Rep home m) (hc : m.handleCounter + 1 < 2 ^ 64) (s : ℕ) (x : Sess) :
    Rep home (m.addSession s x).2 := by
  obtain ⟨hn, hh⟩ := hm.next hc
  constructor
  case objects => exact hm.objects.insert_other hh rfl
  case slots => exact hm.slots.insert hh rfl
  case slotsNodup => exact nodup_insert hm.slotsNodup s
  case sessions => exact hm.sessions.insert_other hh rfl
  case sessionsNodup => exact hm.sessionsNodup
  case live => exact live_insert hm hh (by simp [Handle.sessionOf])
  case home => exact home_insert hm (by simp [Handle.objectOf])
  case issued => exact issued_insert hm (by omega) (by omega)
  case count =>
    intro s'
    have hset : (m.addSession s x).2.sessionHandles s' =
        if s' = s then insert m.nextHandle (m.sessionHandles s') else m.sessionHandles s' := by
      ext k
      by_cases hk : k = m.nextHandle
      · subst hk
        by_cases hs : s' = s
        · subst hs; simp [sessionHandles, addSession]
        · have : ¬ s = s' := fun e => hs e.symm
          simp [sessionHandles, addSession, hs, hh, this]
      · by_cases hs : s' = s <;> simp [sessionHandles, addSession, hs, hk]
    have hnot : m.nextHandle ∉ m.sessionHandles s' := by simp [sessionHandles, hh]
    rw [hset]
    by_cases hs : s' = s
    · subst hs
      rw [if_pos rfl, Set.ncard_insert_of_notMem hnot (hm.finite s')]
      simp [addSession, hm.count]
    · simp [addSession, hs, hm.count]

lemma Rep.registered_of_mem (hm : Rep home m) {o : Obj} {h : ℕ} (ho : m.objects o = some h) :
    m.registered (home o) o = some (h, m) := by
  obtain ⟨e, he, hobj⟩ := (hm.objects o h).mp ho
  have hhome := hm.home h e o he hobj
  cases e with
  | session s x => simp [Handle.objectOf] at hobj
  | object s S p o' =>
    have : home o = s := hhome.symm
    simp [registered, ho, he, this]

/-- What `addSessionObject` does, for an object presented under its slot. -/
lemma Rep.addSessionObject_cases (hm : Rep home m) {S : ℕ} {p : Bool} {o : Obj} :
    (∃ h, m.objects o = some h ∧ m.addSessionObject (home o) S p o = (h, m, false)) ∨
    (m.objects o = none ∧ m.registered (home o) o = none) := by
  cases ho : m.objects o with
  | none => exact .inr ⟨rfl, by simp [registered, ho]⟩
  | some h => exact .inl ⟨h, rfl, by simp [addSessionObject, hm.registered_of_mem ho]⟩

lemma rep_addSessionObject (hm : Rep home m) (hc : m.handleCounter + 1 < 2 ^ 64) {S : ℕ}
    {p : Bool} {o : Obj}
    (hS : m.objects o = none → ∃ x, m.handles S = some (.session (home o) x)) :
    Rep home (m.addSessionObject (home o) S p o).2.1 := by
  rcases hm.addSessionObject_cases (S := S) (p := p) (o := o) with ⟨h, -, heq⟩ | ⟨ho, hreg⟩
  · rw [heq]; exact hm
  obtain ⟨hn, hh⟩ := hm.next hc
  obtain ⟨x, hx⟩ := hS ho
  have hS0 : S ≠ CK_INVALID_HANDLE := by
    have := (hm.issued S _ hx).1
    unfold CK_INVALID_HANDLE
    omega
  simp only [addSessionObject, hreg]
  constructor
  case objects => exact hm.objects.insert hh ho rfl
  case slots => exact hm.slots.insert hh rfl
  case slotsNodup => exact nodup_insert hm.slotsNodup _
  case sessions => exact hm.sessions.insert hh (by simp [Handle.sessionOf, hS0])
  case sessionsNodup => exact nodup_insert hm.sessionsNodup _
  case live =>
    refine live_insert hm hh fun S' hS' => ?_
    simp only [Handle.sessionOf, hS0, if_false, Option.some.injEq] at hS'
    subst hS'
    exact ⟨x, hx⟩
  case home =>
    refine home_insert hm fun o' ho' => ?_
    simp only [Handle.objectOf, Option.some.injEq] at ho'
    subst ho'
    rfl
  case issued => exact issued_insert hm (by omega) (by omega)
  case count =>
    intro s
    exact (hm.count s).trans (congrArg Set.ncard
      (sessionHandles_insert_object hh (by simp) s).symm)

lemma rep_addTokenObject (hm : Rep home m) (hc : m.handleCounter + 1 < 2 ^ 64) {p : Bool}
    {o : Obj} : Rep home (m.addTokenObject (home o) p o).2 := by
  cases ho : m.objects o with
  | some h => simpa [addTokenObject, hm.registered_of_mem ho] using hm
  | none =>
    obtain ⟨hn, hh⟩ := hm.next hc
    have hreg : m.registered (home o) o = none := by simp [registered, ho]
    simp only [addTokenObject, hreg]
    constructor
    case objects => exact hm.objects.insert hh ho rfl
    case slots => exact hm.slots.insert hh rfl
    case slotsNodup => exact nodup_insert hm.slotsNodup _
    case sessions => exact hm.sessions.insert_other hh (by simp [Handle.sessionOf])
    case sessionsNodup => exact hm.sessionsNodup
    case live => exact live_insert hm hh (by simp [Handle.sessionOf])
    case home =>
      refine home_insert hm fun o' ho' => ?_
      simp only [Handle.objectOf, Option.some.injEq] at ho'
      subst ho'
      rfl
    case issued => exact issued_insert hm (by omega) (by omega)
    case count =>
      intro s
      exact (hm.count s).trans (congrArg Set.ncard
        (sessionHandles_insert_object hh (by simp) s).symm)

end SoftHSM.HandleManager
