import Mathlib.Data.Set.Card
import SoftHSM.HandleMgr.Listed
import SoftHSM.Library.Logins

/-!
The session manager, the handle manager and the store of the session objects each keep an account
of the sessions of their own. Over whole runs of the library the three agree, whatever addresses
the objects get.
-/

set_option linter.unusedSectionVars false

namespace SoftHSM

namespace SessionManager

/-- The places of the sessions of a slot. -/
def places (m : SessionManager) (slotID : CK_SLOT_ID) : Set ℕ :=
  {k | ∃ s, m.getSession k = some s ∧ s.slotID = slotID}

section places

variable {m m' : SessionManager} {slotID : CK_SLOT_ID}

lemma finite_places (m : SessionManager) (slotID : CK_SLOT_ID) : (m.places slotID).Finite := by
  refine (Finset.range (m.sessions.length + 1)).finite_toSet.subset ?_
  rintro k ⟨s, hs, -⟩
  obtain ⟨hpos, hget⟩ := getSession_eq_some.1 hs
  have hlt := (List.getElem?_eq_some_iff.1 hget).1
  rw [Finset.mem_coe, Finset.mem_range]
  omega

lemma haveSession_iff_places : m.haveSession slotID = true ↔ (m.places slotID).Nonempty :=
  haveSession_iff

lemma places_eq_empty_iff : m.places slotID = ∅ ↔ m.haveSession slotID = false := by
  rw [← Set.not_nonempty_iff_eq_empty, ← haveSession_iff_places, Bool.not_eq_true]

lemma ncard_places_eq_zero : (m.places slotID).ncard = 0 ↔ m.haveSession slotID = false := by
  rw [Set.ncard_eq_zero (finite_places m slotID), places_eq_empty_iff]

lemma places_opened {init so serial rw : Bool} {s : CK_SLOT_ID} {place : ℕ}
    (ho : m.openSession s init so serial rw = (CK_RV.CKR_OK, place, m')) (slotID : CK_SLOT_ID) :
    m'.places slotID = if slotID = s then insert place (m.places slotID) else m.places slotID := by
  obtain ⟨-, -, hfree, hget⟩ := openSession_ok ho
  have hmem : ∀ k, k ∈ m'.places slotID ↔ k ∈ m.places slotID ∨ slotID = s ∧ k = place := by
    intro k
    constructor
    · rintro ⟨t, ht, hts⟩
      rcases (hget k t).1 ht with ⟨rfl, rfl⟩ | ⟨-, ht⟩
      · exact .inr ⟨hts.symm, rfl⟩
      · exact .inl ⟨t, ht, hts⟩
    · rintro (⟨t, ht, hts⟩ | ⟨rfl, rfl⟩)
      · refine ⟨t, (hget k t).2 (.inr ⟨?_, ht⟩), hts⟩
        rintro rfl
        rw [hfree] at ht
        cases ht
      · exact ⟨_, (hget k _).2 (.inl ⟨rfl, rfl⟩), rfl⟩
  ext k
  rw [hmem]
  split <;> simp_all [or_comm]

lemma place_free {init so serial rw : Bool} {s : CK_SLOT_ID} {place : ℕ}
    (ho : m.openSession s init so serial rw = (CK_RV.CKR_OK, place, m')) (slotID : CK_SLOT_ID) :
    place ∉ m.places slotID := by
  rintro ⟨t, ht, -⟩
  rw [(openSession_ok ho).2.2.1] at ht
  cases ht

lemma places_setOperation (m : SessionManager) (k : ℕ) (active reAuthentication : Bool)
    (slotID : CK_SLOT_ID) :
    (m.setOperation k active reAuthentication).places slotID = m.places slotID := by
  ext p
  constructor
  · rintro ⟨t, ht, hts⟩
    obtain ⟨s, hs, hst, -⟩ := getSession_setOperation ht
    exact ⟨s, hs, hst.trans hts⟩
  · rintro ⟨s, hs, hss⟩
    obtain ⟨t, ht, hts, -⟩ := getSession_of_setOperation hs
    exact ⟨t, ht, hts.trans hss⟩

lemma places_closed {place : ℕ}
    (hm : ∀ k t, m'.getSession k = some t ↔ k ≠ place ∧ m.getSession k = some t)
    (slotID : CK_SLOT_ID) : m'.places slotID = m.places slotID \ {place} := by
  ext k
  constructor
  · rintro ⟨t, ht, hts⟩
    obtain ⟨hne, ht⟩ := (hm k t).1 ht
    exact ⟨⟨t, ht, hts⟩, hne⟩
  · rintro ⟨⟨t, ht, hts⟩, hne⟩
    exact ⟨t, (hm k t).2 ⟨hne, ht⟩, hts⟩

lemma places_closeAllSessions (m : SessionManager) (s slotID : CK_SLOT_ID) :
    (m.closeAllSessions s).places slotID = if slotID = s then ∅ else m.places slotID := by
  ext k
  constructor
  · rintro ⟨t, ht, hts⟩
    obtain ⟨ht, hne⟩ := getSession_closeAllSessions.1 ht
    rw [if_neg (hts ▸ hne)]
    exact ⟨t, ht, hts⟩
  · intro hk
    split at hk
    · cases hk
    · rename_i hne
      obtain ⟨t, ht, hts⟩ := hk
      exact ⟨t, getSession_closeAllSessions.2 ⟨ht, hts ▸ hne⟩, hts⟩

end places

end SessionManager

namespace Library

open CK_RV Token SessionManager HandleManager Transition Table

variable {Obj : Type} [LinearOrder Obj]

/-- The handle of an open session of the slot. -/
def LiveSession (l : Library Obj) (hSession : ℕ) (slotID : CK_SLOT_ID) : Prop :=
  ∃ place, l.handleManager.handles hSession = some (.session slotID place)

/-- The three components agree on the sessions: every handle of a session leads to its own open
session, they are counted, and there are handles and objects only where there are sessions. -/
structure Housed (l : Library Obj) : Prop where
  listed : Listed l.handleManager
  place : ∀ h slotID place, l.handleManager.handles h = some (.session slotID place) →
    place ∈ l.sessionManager.places slotID
  unique : ∀ h h' s s' place, l.handleManager.handles h = some (.session s place) →
    l.handleManager.handles h' = some (.session s' place) → h = h'
  count : ∀ slotID, l.handleManager.slotSessionCount slotID =
    (l.sessionManager.places slotID).ncard
  occupied : ∀ h e, l.handleManager.handles h = some e →
    l.sessionManager.haveSession e.slotID = true
  owned : ∀ o ∈ l.sessionObjectStore.objects,
    l.LiveSession (l.sessionObjectStore.object o).hSession (l.sessionObjectStore.object o).slotID

lemma housed_started {l : Library Obj} (h : Started l) : Housed l := by
  have hnone : ∀ k, l.handleManager.handles k = none := fun k => by rw [h.handles]; rfl
  refine ⟨h.handles ▸ listed_empty, fun k s p hk => ?_, fun k k' s s' p hk => ?_, fun s => ?_,
    fun k e hk => ?_, fun o ho => ?_⟩
  · rw [hnone] at hk
    cases hk
  · rw [hnone] at hk
    cases hk
  · have hempty : l.sessionManager.haveSession s = false := by rw [h.sessions]; rfl
    rw [ncard_places_eq_zero.2 hempty, h.handles]
    rfl
  · rw [hnone] at hk
    cases hk
  · rw [h.objects.1] at ho
    cases ho

section housed

variable {P : Primitives} {l l' : Library Obj}

/-- A session is known under its own slot. -/
lemma Housed.handle_of_getSession (hl : Housed l) {hSession place : ℕ} {session : Session}
    (hs : l.getSession hSession = some (some (place, session))) :
    l.handleManager.handles hSession = some (.session session.slotID place) ∧
      l.sessionManager.getSession place = some session := by
  rcases getSession_cases hs with h | ⟨place', session', heq, hh, hg⟩
  · cases h
  cases heq
  unfold HandleManager.getSession at hh
  split at hh
  · rename_i s x hx
    cases hh
    obtain ⟨t, ht, hts⟩ := hl.place _ _ _ hx
    rw [hg] at ht
    cases ht
    exact ⟨hts ▸ hx, hg⟩
  · cases hh

lemma haveSession_of_getSession {place : ℕ} {session : Session}
    (h : l.sessionManager.getSession place = some session) :
    l.sessionManager.haveSession session.slotID = true :=
  haveSession_iff.2 ⟨place, session, h, rfl⟩

/-- Nothing has changed that matters. -/
lemma Housed.same (hl : Housed l) (hh : SameHandles l.handleManager l'.handleManager)
    (hp : ∀ s, l'.sessionManager.places s = l.sessionManager.places s)
    (ho : l'.sessionObjectStore = l.sessionObjectStore) : Housed l' := by
  have hhave : ∀ s, l.sessionManager.haveSession s = true → l'.sessionManager.haveSession s = true :=
    fun s h => haveSession_iff_places.2 (hp s ▸ haveSession_iff_places.1 h)
  refine ⟨hl.listed.same hh, fun k s p hk => ?_, fun k k' s s' p hk hk' => ?_, fun s => ?_,
    fun k e hk => ?_, fun o hmem => ?_⟩
  · rw [hp]
    exact hl.place k s p (hh.handles ▸ hk)
  · exact hl.unique k k' s s' p (hh.handles ▸ hk) (hh.handles ▸ hk')
  · rw [hh.slotSessionCount, hp]
    exact hl.count s
  · exact hhave _ (hl.occupied k e (hh.handles ▸ hk))
  · unfold LiveSession
    rw [ho] at hmem ⊢
    rw [hh.handles]
    exact hl.owned o hmem

/-- A handle more for an object. -/
lemma Housed.issue (hl : Housed l) (hroom : l.handleManager.Room 1) {slotID S : ℕ} {p : Bool}
    {o : Obj} (hi : Issued l.handleManager (.object slotID S p o) l'.handleManager)
    (hc : l'.handleManager.slotSessionCount = l.handleManager.slotSessionCount)
    (hm : l'.sessionManager = l.sessionManager) (ho : l'.sessionObjectStore = l.sessionObjectStore)
    (hhave : l.sessionManager.haveSession slotID = true) : Housed l' := by
  have hfree := hl.listed.next_free hroom
  have hsession : ∀ k s place, l'.handleManager.handles k = some (.session s place) ↔
      l.handleManager.handles k = some (.session s place) := by
    intro k s place
    rw [hi.handles]
    by_cases hk : k = l.handleManager.nextHandle
    · rw [hk, Function.update_self, hfree]
      simp
    · rw [Function.update_of_ne hk]
  refine ⟨hl.listed.issue hroom hi, fun k s place hk => ?_, fun k k' s s' place hk hk' => ?_,
    fun s => ?_, fun k e hk => ?_, fun o' ho' => ?_⟩
  · rw [hm]
    exact hl.place k s place ((hsession k s place).1 hk)
  · exact hl.unique k k' s s' place ((hsession _ _ _).1 hk) ((hsession _ _ _).1 hk')
  · rw [hc, hm]
    exact hl.count s
  · rw [hi.handles] at hk
    rw [hm]
    by_cases hkn : k = l.handleManager.nextHandle
    · rw [hkn, Function.update_self, Option.some.injEq] at hk
      rw [← hk]
      exact hhave
    · rw [Function.update_of_ne hkn] at hk
      exact hl.occupied k e hk
  · rw [ho] at ho'
    obtain ⟨place, hplace⟩ := hl.owned o' ho'
    exact ⟨place, by rw [ho]; exact (hsession _ _ _).2 hplace⟩

/-- Handles of objects are dropped, and session objects. -/
lemma Housed.drop (hl : Housed l) {R : ℕ → Handle Obj ℕ → Prop} (hlisted : Listed l'.handleManager)
    (hw : Without l.handleManager.handles l'.handleManager.handles R)
    (hR : ∀ k s place, ¬ R k (.session s place))
    (hc : l'.handleManager.slotSessionCount = l.handleManager.slotSessionCount)
    (hm : l'.sessionManager = l.sessionManager)
    (ho : ∀ o ∈ l'.sessionObjectStore.objects, o ∈ l.sessionObjectStore.objects ∧
      (l'.sessionObjectStore.object o).hSession = (l.sessionObjectStore.object o).hSession ∧
      (l'.sessionObjectStore.object o).slotID = (l.sessionObjectStore.object o).slotID) :
    Housed l' := by
  refine ⟨hlisted, fun k s place hk => ?_, fun k k' s s' place hk hk' => ?_, fun s => ?_,
    fun k e hk => ?_, fun o hmem => ?_⟩
  · rw [hm]
    exact hl.place k s place (hw.sub hk)
  · exact hl.unique k k' s s' place (hw.sub hk) (hw.sub hk')
  · rw [hc, hm]
    exact hl.count s
  · rw [hm]
    exact hl.occupied k e (hw.sub hk)
  · obtain ⟨hold, hS, hslot⟩ := ho o hmem
    obtain ⟨place, hplace⟩ := hl.owned o hold
    rw [← hS, ← hslot] at hplace
    exact ⟨place, (hw _ _).2 ⟨hplace, hR _ _ _⟩⟩

/-! ### Sessions come and go -/

lemma housed_opened (hl : Housed l) (hroom : l.handleManager.Room 1) {slotID : CK_SLOT_ID}
    {init so serial rw : Bool} {place : ℕ} {m : SessionManager}
    (ho : l.sessionManager.openSession slotID init so serial rw = (CKR_OK, place, m)) :
    Housed { l with
      sessionManager := m, handleManager := (l.handleManager.addSession slotID place).2 } := by
  have hfree := hl.listed.next_free hroom
  have hplaces := places_opened ho
  have hmono : ∀ s k, k ∈ l.sessionManager.places s → k ∈ m.places s := by
    intro s k hk
    rw [hplaces]
    split
    · exact Set.mem_insert_of_mem _ hk
    · exact hk
  have hhandles : ∀ k e, (l.handleManager.addSession slotID place).2.handles k = some e →
      k = l.handleManager.nextHandle ∧ e = .session slotID place ∨
        k ≠ l.handleManager.nextHandle ∧ l.handleManager.handles k = some e := by
    intro k e hk
    change Function.update l.handleManager.handles _ _ k = some e at hk
    by_cases hkn : k = l.handleManager.nextHandle
    · rw [hkn, Function.update_self, Option.some.injEq] at hk
      exact .inl ⟨hkn, hk.symm⟩
    · rw [Function.update_of_ne hkn] at hk
      exact .inr ⟨hkn, hk⟩
  have hin : place ∈ m.places slotID := by
    rw [hplaces, if_pos rfl]
    exact Set.mem_insert _ _
  -- no old handle leads to the place of the new session
  have hnew : ∀ k s, l.handleManager.handles k ≠ some (.session s place) := fun k s hk =>
    place_free ho s (hl.place k s place hk)
  refine ⟨hl.listed.issue hroom (issued_addSession _ _ _), fun k s p hk => ?_,
    fun k k' s s' p hk hk' => ?_, fun s => ?_, fun k e hk => ?_, fun o hmem => ?_⟩
  · rcases hhandles k _ hk with ⟨-, heq⟩ | ⟨-, hk⟩
    · cases heq
      exact hin
    · exact hmono s p (hl.place k s p hk)
  · rcases hhandles k _ hk with ⟨hkn, heq⟩ | ⟨hkn, hk⟩ <;>
      rcases hhandles k' _ hk' with ⟨hkn', heq'⟩ | ⟨hkn', hk'⟩
    · exact hkn.trans hkn'.symm
    · cases heq
      exact absurd hk' (hnew k' s')
    · cases heq'
      exact absurd hk (hnew k s)
    · exact hl.unique k k' s s' p hk hk'
  · change Function.update _ _ _ s = _
    by_cases hs : s = slotID
    · subst hs
      rw [Function.update_self, hl.count, hplaces, if_pos rfl,
        Set.ncard_insert_of_notMem (place_free ho s) (finite_places _ _)]
    · rw [Function.update_of_ne hs, hl.count, hplaces, if_neg hs]
  · refine haveSession_iff_places.2 ?_
    rcases hhandles k e hk with ⟨-, rfl⟩ | ⟨-, hk⟩
    · exact ⟨place, hin⟩
    · obtain ⟨p, hp⟩ := haveSession_iff_places.1 (hl.occupied k e hk)
      exact ⟨p, hmono _ p hp⟩
  · obtain ⟨p, hp⟩ := hl.owned o hmem
    refine ⟨p, ?_⟩
    change Function.update _ _ _ _ = _
    rw [Function.update_of_ne, hp]
    intro heq
    rw [heq, hfree] at hp
    cases hp

/-- Closing a session, the last one of its slot or another. -/
lemma housed_closeSession (hl : Housed l) {hSession place : ℕ} {session : Session}
    {m : SessionManager} (hs : l.getSession hSession = some (some (place, session)))
    (hm : ∀ k t, m.getSession k = some t ↔ k ≠ place ∧ l.sessionManager.getSession k = some t) :
    Housed (l.closeSession hSession m) := by
  obtain ⟨hhandle, hget⟩ := hl.handle_of_getSession hs
  obtain ⟨hlisted, hwithout, hcount⟩ := sessionClosed_spec hl.listed hhandle
  have hplaces := places_closed hm
  have hin : place ∈ l.sessionManager.places session.slotID := ⟨session, hget, rfl⟩
  have hother : ∀ s, s ≠ session.slotID → m.places s = l.sessionManager.places s := by
    intro s hne
    rw [hplaces]
    refine Set.sdiff_singleton_eq_self ?_
    rintro ⟨t, ht, rfl⟩
    rw [hget] at ht
    cases ht
    exact hne rfl
  have hleft : (m.places session.slotID).ncard =
      l.handleManager.slotSessionCount session.slotID - 1 := by
    rw [hplaces, Set.ncard_sdiff_singleton_of_mem hin, hl.count]
  have hkept : ∀ k e, (l.handleManager.sessionClosed hSession).1.handles k = some e →
      k ≠ hSession ∧ l.handleManager.handles k = some e ∧
        (e.slotID = session.slotID → m.haveSession session.slotID = true) := by
    intro k e hk
    obtain ⟨hk, hnot⟩ := (hwithout k e).1 hk
    refine ⟨fun h => hnot (.inl (.inl h)), hk, fun hslot => ?_⟩
    rw [← Bool.not_eq_false]
    intro hnone
    exact hnot (.inr ⟨hleft ▸ ncard_places_eq_zero.2 hnone, hslot⟩)
  have hplace : ∀ k s p, k ≠ hSession → l.handleManager.handles k = some (.session s p) →
      p ∈ m.places s := by
    intro k s p hne hk
    rw [hplaces]
    refine ⟨hl.place k s p hk, ?_⟩
    rintro rfl
    exact hne (hl.unique k hSession s _ _ hk hhandle)
  refine ⟨hlisted, fun k s p hk => ?_, fun k k' s s' p hk hk' => ?_, fun s => ?_, fun k e hk => ?_,
    fun o ho => ?_⟩
  · obtain ⟨hne, hk, -⟩ := hkept k _ hk
    exact hplace k s p hne hk
  · exact hl.unique k k' s s' p (hkept k _ hk).2.1 (hkept k' _ hk').2.1
  · change (l.handleManager.sessionClosed hSession).1.slotSessionCount s = (m.places s).ncard
    rw [hcount]
    by_cases hslot : s = session.slotID
    · subst hslot
      rw [Function.update_self, hleft]
    · rw [Function.update_of_ne hslot, hother s hslot, hl.count]
  · obtain ⟨-, hk, hlast⟩ := hkept k e hk
    by_cases hslot : e.slotID = session.slotID
    · rw [hslot]
      exact hlast hslot
    · refine haveSession_iff_places.2 ?_
      change (m.places e.slotID).Nonempty
      rw [hother _ hslot]
      exact haveSession_iff_places.1 (hl.occupied k e hk)
  · -- an object that stays belongs to another session, which keeps its handle
    have hmem : o ∈ l.sessionObjectStore.objects ∧
        (l.sessionObjectStore.object o).hSession ≠ hSession := by
      simpa [SessionObject.removeOnSessionClose] using SessionObjectStore.mem_removeWhere.1 ho
    have hsame : (l.closeSession hSession m).sessionObjectStore.object o =
        l.sessionObjectStore.object o := SessionObjectStore.object_removeWhere ho
    rw [hsame]
    obtain ⟨p, hp⟩ := hl.owned o hmem.1
    refine ⟨p, (hwithout _ _).2 ⟨hp, ?_⟩⟩
    rintro ((hk | ⟨-, hobj⟩) | ⟨hzero, hslot⟩)
    · exact hmem.2 hk
    · exact hobj rfl
    · have hempty := ncard_places_eq_zero.1 (hleft.trans hzero)
      have hp' := hplace _ _ _ hmem.2 hp
      rw [show (l.sessionObjectStore.object o).slotID = session.slotID from hslot] at hp'
      rw [places_eq_empty_iff.2 hempty] at hp'
      cases hp'

lemma housed_closeAllSessions (hl : Housed l) (slotID : CK_SLOT_ID) :
    Housed (l.closeAllSessions slotID) := by
  have hwithout := hl.listed.allSessionsClosed_without slotID
  have hplaces := places_closeAllSessions l.sessionManager slotID
  have hkept : ∀ k e, (l.handleManager.allSessionsClosed slotID).1.handles k = some e →
      l.handleManager.handles k = some e ∧ e.slotID ≠ slotID := fun k e hk => (hwithout k e).1 hk
  refine ⟨listed_allSessionsClosed hl.listed slotID, fun k s p hk => ?_,
    fun k k' s s' p hk hk' => ?_, fun s => ?_, fun k e hk => ?_, fun o ho => ?_⟩
  · obtain ⟨hk, hne⟩ := hkept k _ hk
    change p ∈ (l.sessionManager.closeAllSessions slotID).places s
    rw [hplaces, if_neg (show s ≠ slotID from hne)]
    exact hl.place k s p hk
  · exact hl.unique k k' s s' p (hkept k _ hk).1 (hkept k' _ hk').1
  · change (l.handleManager.allSessionsClosed slotID).1.slotSessionCount s =
      ((l.sessionManager.closeAllSessions slotID).places s).ncard
    rw [allSessionsClosed_count, hplaces]
    by_cases hs : s = slotID
    · subst hs
      rw [Function.update_self, if_pos rfl, Set.ncard_empty]
    · rw [Function.update_of_ne hs, if_neg hs, hl.count]
  · obtain ⟨hk, hne⟩ := hkept k e hk
    refine haveSession_iff_places.2 ?_
    change ((l.sessionManager.closeAllSessions slotID).places e.slotID).Nonempty
    rw [hplaces, if_neg hne]
    exact haveSession_iff_places.1 (hl.occupied k e hk)
  · have hmem : o ∈ l.sessionObjectStore.objects ∧
        (l.sessionObjectStore.object o).slotID ≠ slotID := by
      simpa [SessionObject.removeOnAllSessionsClose] using SessionObjectStore.mem_removeWhere.1 ho
    have hsame : (l.closeAllSessions slotID).sessionObjectStore.object o =
        l.sessionObjectStore.object o := SessionObjectStore.object_removeWhere ho
    rw [hsame]
    obtain ⟨p, hp⟩ := hl.owned o hmem.1
    exact ⟨p, (hwithout _ _).2 ⟨hp, hmem.2⟩⟩

/-! ### Objects come and go -/

lemma housed_setToken (hl : Housed l) (slotID : CK_SLOT_ID) (t : Option Token) :
    Housed (l.setToken slotID t) := ⟨hl.1, hl.2, hl.3, hl.4, hl.5, hl.6⟩

lemma housed_operation (hl : Housed l) (place : ℕ) (active reAuthentication : Bool) :
    Housed { l with
      sessionManager := l.sessionManager.setOperation place active reAuthentication } :=
  hl.same (sameHandles_refl _) (places_setOperation _ _ _ _) rfl

lemma housed_clear (hl : Housed l) (hSession : ℕ) : Housed (l.clearReAuthentication hSession) := by
  unfold clearReAuthentication
  split
  · exact housed_operation hl _ _ _
  · exact hl

/-- An object of a live session is put into the store, at whatever address. -/
lemma housed_makeObject (hl : Housed l) {slotID hSession : ℕ} (hlive : l.LiveSession hSession slotID)
    (isOnToken isPrivate : Bool) (o : Obj) :
    Housed (l.makeObject slotID hSession isOnToken isPrivate o) := by
  unfold makeObject
  split
  · exact ⟨hl.1, hl.2, hl.3, hl.4, hl.5, hl.6⟩
  refine ⟨hl.1, hl.2, hl.3, hl.4, hl.5, fun o' ho' => ?_⟩
  change l.LiveSession (Function.update l.sessionObjectStore.object o _ o').hSession
    (Function.update l.sessionObjectStore.object o _ o').slotID
  by_cases hoo : o' = o
  · rw [hoo, Function.update_self]
    exact hlive
  · rw [Function.update_of_ne hoo]
    exact hl.owned o' (Finset.mem_of_mem_insert_of_ne ho' hoo)

lemma destroyObject_store (l : Library Obj) (removed : Bool) (d o : Obj)
    (h : o ∈ (l.destroyObject removed d).2.sessionObjectStore.objects) :
    o ∈ l.sessionObjectStore.objects ∧
      ((l.destroyObject removed d).2.sessionObjectStore.object o).slotID =
        (l.sessionObjectStore.object o).slotID ∧
      ((l.destroyObject removed d).2.sessionObjectStore.object o).hSession =
        (l.sessionObjectStore.object o).hSession ∧
      ((l.destroyObject removed d).2.sessionObjectStore.object o).isPrivate =
        (l.sessionObjectStore.object o).isPrivate := by
  unfold destroyObject at h ⊢
  split at h
  · rename_i htoken
    rw [if_pos htoken]
    exact ⟨h, rfl, rfl, rfl⟩
  · rename_i htoken
    rw [if_neg htoken]
    exact ⟨SessionObjectStore.mem_deleteObject h, SessionObjectStore.object_deleteObject _ _ _⟩

lemma destroyObject_handleManager (l : Library Obj) (removed : Bool) (d : Obj) :
    (l.destroyObject removed d).2.handleManager = l.handleManager := by
  unfold destroyObject
  split <;> rfl

lemma housed_destroyObject (hl : Housed l) (removed : Bool) (d : Obj) :
    Housed (l.destroyObject removed d).2 := by
  have hm := destroyObject_handleManager l removed d
  refine hl.drop (R := fun _ _ => False) (hm ▸ hl.listed) ?_ (fun _ _ _ h => h)
    (congrArg HandleManager.slotSessionCount hm) (destroyObject_same l removed d).2 fun o ho => ?_
  · rw [hm]
    exact Without.refl fun _ _ _ h => h
  · obtain ⟨hold, hslot, hS, -⟩ := destroyObject_store l removed d o ho
    exact ⟨hold, hS, hslot⟩

lemma destroyObject_count (m : HandleManager Obj ℕ) (h : ℕ) :
    (m.destroyObject h).1.slotSessionCount = m.slotSessionCount := by
  unfold HandleManager.destroyObject
  split <;> rfl

lemma tokenLoggedOut_count (m : HandleManager Obj ℕ) (slotID : ℕ) :
    (m.tokenLoggedOut slotID).1.slotSessionCount = m.slotSessionCount := by
  suffices h : ∀ (ks : List ℕ) (acc : HandleManager Obj ℕ × List Obj),
      (ks.foldl (tokenLoggedOutRound slotID) acc).1.slotSessionCount = acc.1.slotSessionCount from
    h (m.slotHandles slotID) (m, [])
  intro ks
  induction ks with
  | nil => exact fun acc => rfl
  | cons k ks ih =>
    intro acc
    rw [List.foldl_cons, ih]
    unfold tokenLoggedOutRound
    split <;> rfl

lemma housed_dropHandle (hl : Housed l) (hObject : ℕ) :
    Housed { l with handleManager := (l.handleManager.destroyObject hObject).1 } :=
  hl.drop (listed_destroyObject hl.listed hObject) (destroyObject_handles _ _)
    (fun _ _ _ h => h.2 rfl) (destroyObject_count _ _) rfl fun _ ho => ⟨ho, rfl, rfl⟩

lemma housed_dropPrivate (hl : Housed l) (slotID : CK_SLOT_ID) : Housed (l.dropPrivate slotID) := by
  refine hl.drop (listed_tokenLoggedOut hl.listed slotID) (hl.listed.tokenLoggedOut_without slotID)
    (fun _ _ _ h => h.2) (tokenLoggedOut_count _ _) rfl fun o ho => ?_
  have hsame : (l.dropPrivate slotID).sessionObjectStore.object o =
      l.sessionObjectStore.object o := SessionObjectStore.object_removeWhere ho
  rw [hsame]
  exact ⟨(SessionObjectStore.mem_removeWhere.1 ho).1, rfl, rfl⟩

/-- What the handle of an object may do to the manager. -/
lemma addObject_cases (m : HandleManager Obj ℕ) (slotID hSession : ℕ) (isOnToken isPrivate : Bool)
    (o : Obj) :
    let m' := (addObject m slotID hSession isOnToken isPrivate o).2
    SameHandles m m' ∨ ∃ S, Issued m (.object slotID S isPrivate o) m' ∧
      m'.slotSessionCount = m.slotSessionCount := by
  unfold addObject
  split
  · rcases addTokenObject_cases m slotID isPrivate o with h | h
    · exact .inl h
    · exact .inr ⟨_, h⟩
  · rcases addSessionObject_cases m slotID hSession isPrivate o with h | h
    · exact .inl h
    · exact .inr ⟨_, h⟩

lemma housed_addObject (hl : Housed l) (hroom : l.handleManager.Room 1) {slotID : CK_SLOT_ID}
    (hhave : l.sessionManager.haveSession slotID = true) (hSession : ℕ)
    (isOnToken isPrivate : Bool) (o : Obj) :
    Housed (l.registerObject slotID hSession isOnToken isPrivate o) := by
  rcases addObject_cases l.handleManager slotID hSession isOnToken isPrivate o with h | ⟨S, hi, hc⟩
  · exact hl.same h (fun _ => rfl) rfl
  · exact hl.issue hroom hi hc rfl rfl hhave

/-- The handles that a search gives out are for objects that it may see. -/
structure Searched (m m' : HandleManager Obj ℕ) (slotID : CK_SLOT_ID) (isPublicSession : Bool)
    (n : ℕ) : Prop where
  later : Later m m'
  counter : m'.handleCounter ≤ m.handleCounter + n
  found : ∀ h e, m'.handles h = some e → m.handles h = some e ∨
    ∃ S isPrivate o, e = .object slotID S isPrivate o ∧ (isPublicSession = true → isPrivate = false)

/-- The loop of the search, handle by handle. -/
lemma findObjects_invariant {slotID : CK_SLOT_ID}
    (hhave : l.sessionManager.haveSession slotID = true) (ask : Obj → Asked)
    (matching : Obj → Option Bool) (hSession : ℕ) (isPublicSession : Bool) :
    ∀ (os : List Obj) (m : HandleManager Obj ℕ), Housed { l with handleManager := m } →
      m.Room os.length →
      let m' := (findObjects ask matching slotID hSession isPublicSession os m).2
      Housed { l with handleManager := m' } ∧ Searched m m' slotID isPublicSession os.length
  | [], m, hl, _ => ⟨hl, later_refl m, le_refl _, fun _ _ he => .inl he⟩
  | o :: os, m, hl, hroom => by
    have hnil : ∀ n, Searched m m slotID isPublicSession n := fun n =>
      ⟨later_refl m, Nat.le_add_right _ _, fun _ _ he => .inl he⟩
    have hroom1 : m.Room 1 := lt_of_le_of_lt
      (Nat.add_le_add_left (by rw [List.length_cons]; omega) _) hroom
    have hskip := findObjects_invariant hhave ask matching hSession isPublicSession os m hl
      (lt_of_le_of_lt (Nat.add_le_add_left (Nat.le_succ _) _) hroom)
    have hweaken : ∀ m', Searched m m' slotID isPublicSession os.length →
        Searched m m' slotID isPublicSession (o :: os).length := fun m' h =>
      ⟨h.later, h.counter.trans (by rw [List.length_cons]; omega), h.found⟩
    unfold findObjects
    dsimp only
    split
    · exact ⟨hskip.1, hweaken _ hskip.2⟩
    rename_i hvisible
    split
    · exact ⟨hl, hnil _⟩
    · exact ⟨hskip.1, hweaken _ hskip.2⟩
    have hadd := housed_addObject hl hroom1 hhave hSession (ask o).CKA_TOKEN (ask o).CKA_PRIVATE o
    set m₁ := (addObject m slotID hSession (ask o).CKA_TOKEN (ask o).CKA_PRIVATE o).2 with hm₁
    have hpublic : isPublicSession = true → (ask o).CKA_PRIVATE = false := by
      intro h
      simp only [h, Bool.true_and, Bool.or_eq_true, not_or, Bool.not_eq_true] at hvisible
      exact hvisible.2
    have hone : Searched m m₁ slotID isPublicSession 1 := by
      rcases addObject_cases m slotID hSession (ask o).CKA_TOKEN (ask o).CKA_PRIVATE o with
        h | ⟨S, hi, -⟩
      · exact ⟨h.later, by rw [h.counter]; omega, fun k e he => .inl (h.handles ▸ he)⟩
      · refine ⟨hi.later hroom1, by rw [hi.counter, nextHandle_of_room hroom1], fun k e he => ?_⟩
        rw [hi.handles] at he
        by_cases hk : k = m.nextHandle
        · rw [hk, Function.update_self, Option.some.injEq] at he
          exact .inr ⟨S, _, o, he.symm, hpublic⟩
        · rw [Function.update_of_ne hk] at he
          exact .inl he
    split
    · exact ⟨hadd, hone.later, hone.counter.trans (by rw [List.length_cons]; omega), hone.found⟩
    · have hrest := findObjects_invariant hhave ask matching hSession isPublicSession os m₁ hadd (by
          have hcounter := hone.counter
          unfold Room at hroom ⊢
          rw [List.length_cons] at hroom
          omega)
      refine ⟨hrest.1, hone.later.trans hrest.2.later, ?_, fun k e he => ?_⟩
      · refine hrest.2.counter.trans ?_
        have hcounter := hone.counter
        rw [List.length_cons]
        omega
      · rcases hrest.2.found k e he with he | hnew
        · exact hone.found k e he
        · exact .inr hnew

/-! ### One call -/

/-- How many handles a call may issue. -/
def Op.handles (l : Library Obj) : Op Obj → ℕ
  | .C_FindObjectsInit tokenObjects _ _ _ =>
    (tokenObjects ∪ l.sessionObjectStore.objects).card + 1
  | _ => 1

lemma search_room {tokenObjects : Finset Obj} {ask : Obj → Asked} {matching : Obj → Option Bool}
    {hSession : ℕ} (hroom : l.handleManager.Room
      (Op.handles l (.C_FindObjectsInit tokenObjects ask matching hSession)))
    (slotID : CK_SLOT_ID) : l.handleManager.Room
      (tokenObjects ∪ l.sessionObjectStore.getObjects slotID).sort.length := by
  have hsub : tokenObjects ∪ l.sessionObjectStore.getObjects slotID ⊆
      tokenObjects ∪ l.sessionObjectStore.objects :=
    Finset.union_subset_union_right (Finset.filter_subset _ _)
  have hcard := Finset.card_le_card hsub
  unfold Room at hroom ⊢
  rw [Finset.length_sort]
  change _ + (_ + 1) < _ at hroom
  omega

lemma room_of_newObject {op : Op Obj} {o : Obj} (hnew : op.newObject = some o)
    (hroom : l.handleManager.Room (op.handles l)) : l.handleManager.Room 1 := by
  cases op with
  | C_FindObjectsInit tokenObjects ask matching hSession => cases hnew
  | _ => exact hroom

/-- **One call** keeps the components in agreement, and gives no old handle a new meaning. -/
lemma housed_effect (hl : Housed l) {op : Op Obj} (he : Effect P l op l')
    (hroom : l.handleManager.Room (op.handles l)) :
    Housed l' ∧ Later l.handleManager l'.handleManager := by
  have hsame := later_refl l.handleManager
  cases he with
  | refused => exact ⟨hl, hsame⟩
  | opened hslot ho => exact ⟨housed_opened hl hroom ho, (issued_addSession _ _ _).later hroom⟩
  | @closed hSession place session m hs hm hmore =>
    have hspec := sessionClosed_spec hl.listed (hl.handle_of_getSession hs).1
    exact ⟨housed_closeSession hl hs hm,
      later_of_without hspec.2.1 (sessionClosed_counter l.handleManager hSession)⟩
  | @closedLast hSession place session m hs hm hlast =>
    have hspec := sessionClosed_spec hl.listed (hl.handle_of_getSession hs).1
    exact ⟨housed_setToken (housed_closeSession hl hs hm) _ _,
      later_of_without hspec.2.1 (sessionClosed_counter l.handleManager hSession)⟩
  | @allClosed slotID =>
    exact ⟨housed_setToken (housed_closeAllSessions hl slotID) _ _,
      later_of_without (hl.listed.allSessionsClosed_without slotID)
        (allSessionsClosed_counter _ _)⟩
  | operation => exact ⟨housed_operation hl _ _ _, hsame⟩
  | asked => exact ⟨housed_setToken hl _ _, hsame⟩
  | @reAuthenticated _ slotID q hSession =>
    refine ⟨housed_clear (housed_setToken hl _ _) hSession, ?_⟩
    unfold clearReAuthentication
    split <;> exact hsame
  | @loggedOut hSession place session hs =>
    exact ⟨housed_dropPrivate (housed_setToken hl _ _) _,
      later_of_without (hl.listed.tokenLoggedOut_without _) (tokenLoggedOut_counter _ _)⟩
  | formatted => exact ⟨housed_setToken hl _ _, hsame⟩
  | formattedExtended => exact ⟨housed_setToken hl _ _, hsame⟩
  | inserted => exact ⟨housed_setToken hl _ _, hsame⟩
  | @made _ hSession place session isOnToken isPrivate o hs =>
    refine ⟨housed_makeObject hl ⟨place, (hl.handle_of_getSession hs).1⟩ _ _ _, ?_⟩
    unfold makeObject
    split <;> exact hsame
  | @unmade _ hSession place session isOnToken isPrivate removed o hs =>
    refine ⟨housed_destroyObject (housed_makeObject hl ⟨place, (hl.handle_of_getSession hs).1⟩ _ _ _)
      _ _, ?_⟩
    rw [destroyObject_handleManager]
    unfold makeObject
    split <;> exact hsame
  | @registered op hSession place session isOnToken isPrivate o hs _ hnew =>
    obtain ⟨hhandle, hget⟩ := hl.handle_of_getSession hs
    have hmade := housed_makeObject hl ⟨place, hhandle⟩ isOnToken isPrivate o
    have hm : (l.makeObject session.slotID hSession isOnToken isPrivate o).handleManager =
        l.handleManager := by
      unfold makeObject
      split <;> rfl
    have hroom1 := room_of_newObject hnew hroom
    refine ⟨housed_addObject hmade (hm ▸ hroom1) ?_ _ _ _ _, ?_⟩
    · rw [(makeObject_same _ _ _ _ _ _).2]
      exact haveSession_of_getSession hget
    · unfold registerObject
      rw [hm]
      rcases addObject_cases l.handleManager session.slotID hSession isOnToken isPrivate o with
        h | ⟨S, hi, -⟩
      · exact h.later
      · exact hi.later hroom1
  | @destroyed _ hObject removed o =>
    refine ⟨housed_destroyObject (housed_dropHandle hl hObject) _ _, ?_⟩
    rw [destroyObject_handleManager]
    exact later_of_without (destroyObject_handles _ _) (destroyObject_counter _ _)
  | @searched hSession place session tokenObjects ask matching isPublicSession hs hpublic =>
    obtain ⟨hhandle, hget⟩ := hl.handle_of_getSession hs
    obtain ⟨hfound, hsearched⟩ := findObjects_invariant (haveSession_of_getSession hget) ask matching
      hSession isPublicSession _ l.handleManager hl (search_room hroom session.slotID)
    refine ⟨?_, hsearched.later⟩
    exact (housed_operation hfound place true session.reAuthentication).same (sameHandles_refl _)
      (fun _ => rfl) rfl

end housed

/-! ### Whole runs -/

/-- A call, with its answer, that has room for its handles. -/
def StepWithRoom (P : Primitives) (l : Library Obj) (c : Op Obj × CK_RV) (l' : Library Obj) :
    Prop := l.exec P c.1 = some (c.2, l') ∧ l.handleManager.Room (c.1.handles l)

lemma housed_run {P : Primitives} {l l' : Library Obj} {calls : List (Op Obj × CK_RV)}
    (hrun : Run (StepWithRoom P) l calls l') (hl : Housed l) :
    Housed l' ∧ Later l.handleManager l'.handleManager := by
  refine hrun.invariant (P := fun a => Housed a ∧ Later l.handleManager a.handleManager)
    ⟨hl, later_refl _⟩ ?_
  rintro a ⟨op, rv⟩ b ⟨ha, hlater⟩ ⟨hexec, hroom⟩
  obtain ⟨hb, hab⟩ := housed_effect ha (effect_of_exec hexec) hroom
  exact ⟨hb, hlater.trans hab⟩

/-- **The three accounts agree.** In every state that is reached, every handle of a session leads
to an open session of its slot and no two to the same one, a call never follows a handle to a
session that is gone, the sessions of each slot are counted right, a slot without a session has
no handle left, every session object belongs to an open session of its slot, and a handle that
was issued has its meaning or none ever after. -/
theorem accounts_agree {P : Primitives} {l₀ l₁ l₂ : Library Obj}
    {calls₁ calls₂ : List (Op Obj × CK_RV)} (h₀ : Started l₀)
    (hrun₁ : Run (StepWithRoom P) l₀ calls₁ l₁) (hrun₂ : Run (StepWithRoom P) l₁ calls₂ l₂) :
    (∀ h, l₂.getSession h ≠ none) ∧
    (∀ h slotID place, l₂.handleManager.handles h = some (.session slotID place) →
      (∃ s, l₂.sessionManager.getSession place = some s ∧ s.slotID = slotID) ∧
      ∀ h' s', l₂.handleManager.handles h' = some (.session s' place) → h' = h) ∧
    (∀ slotID, l₂.handleManager.slotSessionCount slotID =
      (l₂.sessionManager.places slotID).ncard) ∧
    (∀ slotID, l₂.sessionManager.haveSession slotID = false →
      ∀ h e, l₂.handleManager.handles h = some e → e.slotID ≠ slotID) ∧
    (∀ o ∈ l₂.sessionObjectStore.objects, ∃ place s,
      l₂.getSession (l₂.sessionObjectStore.object o).hSession = some (some (place, s)) ∧
        s.slotID = (l₂.sessionObjectStore.object o).slotID) ∧
    ∀ h e, h ≤ l₁.handleManager.handleCounter → l₂.handleManager.handles h = some e →
      l₁.handleManager.handles h = some e := by
  obtain ⟨hl₁, -⟩ := housed_run hrun₁ (housed_started h₀)
  obtain ⟨hl, hlater⟩ := housed_run hrun₂ hl₁
  have hsession : ∀ h slotID place,
      l₂.handleManager.handles h = some (.session slotID place) →
        ∃ s, l₂.getSession h = some (some (place, s)) ∧ s.slotID = slotID := by
    intro h slotID place hh
    obtain ⟨s, hs, hslot⟩ := hl.place h slotID place hh
    refine ⟨s, ?_, hslot⟩
    simp [Library.getSession, HandleManager.getSession, hh, hs]
  refine ⟨fun h => ?_, fun h slotID place hh => ⟨hl.place h slotID place hh, fun h' s' hh' =>
    hl.unique h' h s' slotID place hh' hh⟩, hl.count, ?_, fun o ho => ?_, hlater.old⟩
  · rcases hh : l₂.handleManager.handles h with _ | ⟨slotID, place⟩ | ⟨s, S, p, o⟩
    · simp [Library.getSession, HandleManager.getSession, hh]
    · obtain ⟨s, hs, -⟩ := hsession h slotID place hh
      rw [hs]
      exact Option.some_ne_none _
    · simp [Library.getSession, HandleManager.getSession, hh]
  · rintro slotID hno h e hh rfl
    have hhave := hl.occupied h e hh
    rw [hno] at hhave
    cases hhave
  · obtain ⟨place, hplace⟩ := hl.owned o ho
    obtain ⟨s, hs, hslot⟩ := hsession _ _ _ hplace
    exact ⟨place, s, hs, hslot⟩

/-- Two sessions are opened, and the first is closed. -/
theorem accounts_agree_two :
    ∃ (l₀ l₁ l₂ : Library ℕ) (calls₁ calls₂ : List (Op ℕ × CK_RV)), Started l₀ ∧
      Run (StepWithRoom SecureDataManager.plainPrimitives) l₀ calls₁ l₁ ∧
      Run (StepWithRoom SecureDataManager.plainPrimitives) l₁ calls₂ l₂ ∧
      l₁.handleManager.slotSessionCount 0 = 2 ∧ l₂.getSession 1 = some none ∧
      (l₂.sessionManager.places 0).ncard = 1 := by
  have hroom : ∀ n < 8, n + 1 < 2 ^ 64 := by omega
  let l₀ : Library ℕ := holding (stored [] none)
  let l₁ := (l₀.C_OpenSession 0 true true).2.2
  let l₂ := (l₁.C_OpenSession 0 true false).2.2
  let l₃ := l₂.closeSession 1 (l₂.sessionManager.closeSession 1).2.2
  have hopen : StepWithRoom SecureDataManager.plainPrimitives l₀ (.C_OpenSession 0 true true, CKR_OK) l₁ :=
    ⟨rfl, hroom 0 (by decide)⟩
  have hagain : StepWithRoom SecureDataManager.plainPrimitives l₁ (.C_OpenSession 0 true false, CKR_OK) l₂ :=
    ⟨rfl, hroom 1 (by decide)⟩
  have hclose : StepWithRoom SecureDataManager.plainPrimitives l₂ (.C_CloseSession 1, CKR_OK) l₃ :=
    ⟨rfl, hroom 2 (by decide)⟩
  have hrun₁ := (Run.single hopen).snoc hagain
  have hrun₂ := Run.single hclose
  refine ⟨l₀, l₂, l₃, _, _, started_holding _ _, hrun₁, hrun₂, rfl, rfl, ?_⟩
  rw [← (accounts_agree (started_holding _ _) hrun₁ hrun₂).2.2.1 0]
  rfl

end Library

end SoftHSM
