import SoftHSM.Library.Housed
import SoftHSM.SlotMgr.LoginKept

/-!
Private objects, over whole runs of the library. The login is kept with the token, the handles in
the handle manager and the objects of the sessions in their store; where the user is not logged
in, neither of the last two has anything private of the slot.
-/

set_option linter.unusedSectionVars false

namespace SoftHSM.Library

open CK_RV Token SessionManager HandleManager Transition Table

variable {Obj : Type} [LinearOrder Obj]

/-! ### What is private -/

/-- Where the user is not logged in, nothing of the slot is private. -/
structure Hidden (l : Library Obj) (slotID : CK_SLOT_ID) : Prop where
  handles : ∀ h S o, l.handleManager.handles h = some (.object slotID S true o) →
    isUserLoggedIn (l.getToken slotID) = true
  objects : ∀ o ∈ l.sessionObjectStore.objects, (l.sessionObjectStore.object o).slotID = slotID →
    (l.sessionObjectStore.object o).isPrivate = true → isUserLoggedIn (l.getToken slotID) = true

/-- The user of the slot is not logged out by the answer to somebody's PIN. -/
def Unrevoked (l : Library Obj) (slotID : CK_SLOT_ID) (op : Op Obj) (rv : CK_RV) : Prop :=
  ∀ q, l.checks op = some (.request slotID q) → isUserLoggedIn (l.getToken slotID) = true →
    ¬ Revokes rv

section hidden

variable {P : Primitives} {l l' : Library Obj} {slotID : CK_SLOT_ID}

/-- Nothing private is new, unless the user is logged in, and the user stays. -/
lemma Hidden.of (hl : Hidden l slotID)
    (hu : isUserLoggedIn (l.getToken slotID) = true → isUserLoggedIn (l'.getToken slotID) = true)
    (hh : ∀ h S o, l'.handleManager.handles h = some (.object slotID S true o) →
      l.handleManager.handles h = some (.object slotID S true o) ∨
        isUserLoggedIn (l'.getToken slotID) = true)
    (ho : ∀ o ∈ l'.sessionObjectStore.objects, (l'.sessionObjectStore.object o).slotID = slotID →
      (l'.sessionObjectStore.object o).isPrivate = true →
      (o ∈ l.sessionObjectStore.objects ∧ (l.sessionObjectStore.object o).slotID = slotID ∧
        (l.sessionObjectStore.object o).isPrivate = true) ∨
        isUserLoggedIn (l'.getToken slotID) = true) : Hidden l' slotID := by
  refine ⟨fun h S o hk => ?_, fun o hmem hs hp => ?_⟩
  · rcases hh h S o hk with hold | hin
    · exact hu (hl.handles h S o hold)
    · exact hin
  · rcases ho o hmem hs hp with ⟨hold, hs', hp'⟩ | hin
    · exact hu (hl.objects o hold hs' hp')
    · exact hin

/-- The handles and the session objects are the same. -/
lemma Hidden.same (hl : Hidden l slotID)
    (hu : isUserLoggedIn (l.getToken slotID) = true → isUserLoggedIn (l'.getToken slotID) = true)
    (hh : l'.handleManager.handles = l.handleManager.handles)
    (ho : l'.sessionObjectStore = l.sessionObjectStore) : Hidden l' slotID :=
  hl.of hu (fun _ _ _ hk => .inl (hh ▸ hk)) fun _ hmem hs hp => .inl (by
    rw [ho] at hmem hs hp
    exact ⟨hmem, hs, hp⟩)

/-- Where there is no session there is nothing at all. -/
lemma Housed.hidden_of_noSession (hl : Housed l)
    (hno : l.sessionManager.haveSession slotID = false) : Hidden l slotID := by
  refine ⟨fun h S o hk => ?_, fun o ho hs _ => ?_⟩
  · have hhave := hl.occupied h _ hk
    rw [show (Handle.object slotID S true o : Handle Obj ℕ).slotID = slotID from rfl, hno] at hhave
    cases hhave
  · obtain ⟨place, hplace⟩ := hl.owned o ho
    have hhave := hl.occupied _ _ hplace
    rw [show (Handle.session (l.sessionObjectStore.object o).slotID place : Handle Obj ℕ).slotID =
      slotID from hs, hno] at hhave
    cases hhave

lemma getToken_makeObject (s hSession : ℕ) (isOnToken isPrivate : Bool) (o : Obj)
    (slotID : CK_SLOT_ID) :
    (l.makeObject s hSession isOnToken isPrivate o).getToken slotID = l.getToken slotID := by
  unfold getToken
  rw [(makeObject_same _ _ _ _ _ _).1]

/-- A new object is private only if its maker may see it. -/
lemma hidden_makeObject (hl : Hidden l slotID) {session : Session} {isPrivate : Bool}
    (hp : l.MayBePrivate session isPrivate) (hSession : ℕ) (isOnToken : Bool) (o : Obj) :
    Hidden (l.makeObject session.slotID hSession isOnToken isPrivate o) slotID := by
  have htoken := @getToken_makeObject _ _ l session.slotID hSession isOnToken isPrivate o
  refine hl.of (by rw [htoken]; exact id) (fun h S o' hk => .inl ?_) fun o' hmem hs hpr => ?_
  · unfold makeObject at hk
    split at hk <;> exact hk
  rw [htoken]
  unfold makeObject at hmem hs hpr
  split at hmem
  · rename_i ht
    rw [if_pos ht] at hs hpr
    exact .inl ⟨hmem, hs, hpr⟩
  rename_i ht
  rw [if_neg ht] at hs hpr
  change (Function.update l.sessionObjectStore.object o _ o').slotID = _ at hs
  change (Function.update l.sessionObjectStore.object o _ o').isPrivate = _ at hpr
  by_cases hoo : o' = o
  · rw [hoo, Function.update_self] at hs hpr
    exact .inr (hs ▸ hp hpr)
  · rw [Function.update_of_ne hoo] at hs hpr
    exact .inl ⟨Finset.mem_of_mem_insert_of_ne hmem hoo, hs, hpr⟩

lemma hidden_destroyObject (hl : Hidden l slotID) (removed : Bool) (d : Obj) :
    Hidden (l.destroyObject removed d).2 slotID := by
  have htoken : (l.destroyObject removed d).2.getToken slotID = l.getToken slotID := by
    unfold getToken
    rw [(destroyObject_same _ _ _).1]
  refine hl.of (by rw [htoken]; exact id) (fun h S o hk => .inl ?_) fun o hmem hs hp => .inl ?_
  · rwa [destroyObject_handleManager] at hk
  · obtain ⟨hold, hslot, -, hpriv⟩ := destroyObject_store l removed d o hmem
    exact ⟨hold, hslot ▸ hs, hpriv ▸ hp⟩

lemma hidden_clear (hl : Hidden l slotID) (hSession : ℕ) :
    Hidden (l.clearReAuthentication hSession) slotID := by
  unfold clearReAuthentication
  split
  · exact hl.same id rfl rfl
  · exact hl

/-- A token in place of another, with the user logged in there if he was. -/
lemma hidden_setToken (hl : Hidden l slotID) {s : CK_SLOT_ID} {t : Option Token}
    (hu : s = slotID → isUserLoggedIn (l.getToken slotID) = true → isUserLoggedIn t = true) :
    Hidden (l.setToken s t) slotID := by
  refine hl.same (fun h => ?_) rfl rfl
  rw [getToken_setToken]
  split
  · rename_i hs
    exact hu hs.symm h
  · exact h

lemma checks_ne_logout {op : Op Obj} {q : Token.Request}
    (h : l.checks op = some (.request slotID q)) : q ≠ .logout := by
  rintro rfl
  exact offered_of_checks h

/-- A request that is answered neither with a lock nor with a storage error. -/
lemma hidden_request (hl : Hidden l slotID) {s : CK_SLOT_ID} {q : Token.Request} (hq : q ≠ .logout)
    (hrv : s = slotID → isUserLoggedIn (l.getToken slotID) = true →
      ¬ Revokes (l.request P s q).1) : Hidden (l.request P s q).2 slotID := by
  refine hidden_setToken hl ?_
  rintro rfl hu
  exact user_kept_call hq rfl (hrv rfl hu) hu

/-- The token of a slot is logged out where there is nothing private left. -/
lemma hidden_logout_of_ne (hl : Hidden l slotID) {s : CK_SLOT_ID} (hne : slotID ≠ s) :
    Hidden (l.logout P s) slotID :=
  hidden_setToken hl fun h => absurd h.symm hne

/-- The answer of a call that comes to an operation on a token is that of the operation. -/
lemma answer_of_checks {op : Op Obj} {s : CK_SLOT_ID} {q : Token.Request} {rv : CK_RV}
    (hc : l.checks op = some (.request s q)) (h : l.exec P op = some (rv, l')) :
    rv = (l.request P s q).1 := by
  have hmap : ∀ c : Option Checked, c = some (.request s q) →
      c.map (l.perform P) = some (rv, l') → rv = (l.request P s q).1 := by
    rintro c rfl hp
    exact (congrArg Prod.fst (Option.some.inj hp)).symm
  cases op with
  | C_Login r e hSession userType pPin =>
    change l.checkLogin r e hSession userType pPin = _ at hc
    change l.C_Login P r e hSession userType pPin = _ at h
    unfold C_Login at h
    rw [hc] at h
    simp only [Option.bind_eq_bind, Option.bind_some] at h
    split at h <;> exact (congrArg Prod.fst (Option.some.inj h)).symm
  | C_InitPIN e hSession pPin => exact hmap _ hc h
  | C_SetPIN e hSession pOldPin pNewPin => exact hmap _ hc h
  | C_EX_UnblockUserPIN policy flags hSession => exact hmap _ hc h
  | C_EX_SetLocalPIN e s pUserPin pNewLocalPin ulLocalID => exact hmap _ hc h
  | _ => cases hc

/-- **One call** leaves nothing private behind where the user is not logged in. -/
lemma hidden_effect (hl : Housed l) (hh : Hidden l slotID) {op : Op Obj} {rv : CK_RV}
    (hexec : l.exec P op = some (rv, l')) (hroom : l.handleManager.Room (op.handles l))
    (hrevoked : Unrevoked l slotID op rv) : Hidden l' slotID := by
  have he := effect_of_exec hexec
  have hl' := (housed_effect hl he hroom).1
  have hanswer : ∀ {s q}, l.checks op = some (.request s q) → s = slotID →
      isUserLoggedIn (l.getToken slotID) = true → ¬ Revokes (l.request P s q).1 := by
    rintro s q hc rfl hu
    exact answer_of_checks hc hexec ▸ hrevoked q hc hu
  cases he with
  | refused => exact hh
  | opened hslot ho =>
    refine hh.of id (fun h S o hk => .inl ?_) fun o hmem hs hp => .inl ⟨hmem, hs, hp⟩
    change Function.update l.handleManager.handles _ _ h = _ at hk
    by_cases hkn : h = l.handleManager.nextHandle
    · rw [hkn, Function.update_self] at hk
      cases hk
    · rwa [Function.update_of_ne hkn] at hk
  | @closed hSession place session m hs hm hmore =>
    have hspec := sessionClosed_spec hl.listed (hl.handle_of_getSession hs).1
    refine hh.of id (fun h S o hk => .inl (hspec.2.1.sub hk)) fun o hmem hs' hp => .inl ?_
    rw [show (l.closeSession hSession m).sessionObjectStore.object o =
      l.sessionObjectStore.object o from SessionObjectStore.object_removeWhere hmem] at hs' hp
    exact ⟨(SessionObjectStore.mem_removeWhere.1 hmem).1, hs', hp⟩
  | @closedLast hSession place session m hs hm hlast =>
    by_cases hslot : slotID = session.slotID
    · subst hslot
      exact hl'.hidden_of_noSession hlast
    have hspec := sessionClosed_spec hl.listed (hl.handle_of_getSession hs).1
    refine hidden_logout_of_ne ?_ hslot
    refine hh.of id (fun h S o hk => .inl (hspec.2.1.sub hk)) fun o hmem hs' hp => .inl ?_
    rw [show (l.closeSession hSession m).sessionObjectStore.object o =
      l.sessionObjectStore.object o from SessionObjectStore.object_removeWhere hmem] at hs' hp
    exact ⟨(SessionObjectStore.mem_removeWhere.1 hmem).1, hs', hp⟩
  | @allClosed s =>
    by_cases hslot : slotID = s
    · subst hslot
      refine hl'.hidden_of_noSession (places_eq_empty_iff.1 ?_)
      exact (places_closeAllSessions l.sessionManager slotID slotID).trans (if_pos rfl)
    refine hidden_logout_of_ne ?_ hslot
    have hwithout := hl.listed.allSessionsClosed_without s
    refine hh.of id (fun h S o hk => .inl (hwithout.sub hk)) fun o hmem hs' hp => .inl ?_
    rw [show (l.closeAllSessions s).sessionObjectStore.object o =
      l.sessionObjectStore.object o from SessionObjectStore.object_removeWhere hmem] at hs' hp
    exact ⟨(SessionObjectStore.mem_removeWhere.1 hmem).1, hs', hp⟩
  | operation => exact hh.same id rfl rfl
  | asked hc => exact hidden_request hh (checks_ne_logout hc) (hanswer hc)
  | reAuthenticated hc => exact hidden_clear (hidden_request hh (checks_ne_logout hc) (hanswer hc)) _
  | @loggedOut hSession place session hs =>
    have hwithout := hl.listed.tokenLoggedOut_without session.slotID
    by_cases hslot : slotID = session.slotID
    · subst hslot
      refine ⟨fun h S o hk => ?_, fun o hmem hs' hp => ?_⟩
      · exact absurd ⟨rfl, rfl⟩ ((hwithout h _).1 hk).2
      · rw [show ((l.logout P session.slotID).dropPrivate session.slotID).sessionObjectStore.object
          o = l.sessionObjectStore.object o from SessionObjectStore.object_removeWhere hmem] at hs' hp
        have hkept := (SessionObjectStore.mem_removeWhere.1 hmem).2
        have hdropped : SessionObject.removeOnTokenLogout session.slotID
            (l.sessionObjectStore.object o) = true := by
          simp [SessionObject.removeOnTokenLogout, hs', hp]
        exact absurd (hdropped.symm.trans hkept) (by decide)
    · have hout := hidden_logout_of_ne (P := P) hh hslot
      refine hout.of id (fun h S o hk => .inl (hwithout.sub hk)) fun o hmem hs' hp => .inl ?_
      rw [show ((l.logout P session.slotID).dropPrivate session.slotID).sessionObjectStore.object o =
        l.sessionObjectStore.object o from SessionObjectStore.object_removeWhere hmem] at hs' hp
      exact ⟨(SessionObjectStore.mem_removeWhere.1 hmem).1, hs', hp⟩
  | @formatted e requested s soPIN pLabel token token' rv' hslot hno =>
    by_cases hs : slotID = s
    · subst hs
      exact hl'.hidden_of_noSession hno
    · exact hidden_setToken hh fun h => absurd h.symm hs
  | @formattedExtended _ e s soPIN c token hslot hno =>
    by_cases hs : slotID = s
    · subst hs
      exact hl'.hidden_of_noSession hno
    · exact hidden_setToken hh fun h => absurd h.symm hs
  | @inserted _ s hslot =>
    refine hidden_setToken hh ?_
    rintro rfl hu
    unfold getToken at hu
    rw [hslot] at hu
    cases hu
  | made hs hp => exact hidden_makeObject hh hp _ _ _
  | unmade hs hp => exact hidden_destroyObject (hidden_makeObject hh hp _ _ _) _ _
  | @registered _ hSession place session isOnToken isPrivate o hs hp hnew =>
    have hmade := hidden_makeObject hh hp hSession isOnToken o
    have htoken := @getToken_makeObject _ _ l session.slotID hSession isOnToken isPrivate o slotID
    refine hmade.of id (fun h S o' hk => ?_) fun o' hmem hs' hp' => .inl ⟨hmem, hs', hp'⟩
    rcases addObject_cases (l.makeObject session.slotID hSession isOnToken isPrivate o).handleManager
      session.slotID hSession isOnToken isPrivate o with hsame | ⟨S', hi, -⟩
    · exact .inl (hsame.handles ▸ hk)
    · change (addObject _ _ _ _ _ _).2.handles h = _ at hk
      rw [hi.handles] at hk
      by_cases hkn : h = (l.makeObject session.slotID hSession isOnToken isPrivate
          o).handleManager.nextHandle
      · rw [hkn, Function.update_self, Option.some.injEq, Handle.object.injEq] at hk
        right
        change isUserLoggedIn ((l.makeObject _ _ _ _ _).getToken slotID) = true
        rw [htoken, ← hk.1]
        exact hp hk.2.2.1
      · rw [Function.update_of_ne hkn] at hk
        exact .inl hk
  | @destroyed _ hObject removed o =>
    refine hidden_destroyObject ?_ _ _
    exact hh.of id (fun h S o' hk => .inl ((destroyObject_handles _ _).sub hk))
      fun o' hmem hs hp => .inl ⟨hmem, hs, hp⟩
  | @searched hSession place session tokenObjects ask matching isPublicSession hs hpublic =>
    obtain ⟨hhandle, hget⟩ := hl.handle_of_getSession hs
    obtain ⟨-, hsearched⟩ := findObjects_invariant (haveSession_of_getSession hget) ask matching
      hSession isPublicSession _ l.handleManager hl (search_room hroom session.slotID)
    refine hh.of id (fun h S o hk => ?_) fun o hmem hs' hp => .inl ⟨hmem, hs', hp⟩
    rcases hsearched.found h _ hk with hold | ⟨S', isPrivate, o', heq, hpriv⟩
    · exact .inl hold
    · cases heq
      right
      change isUserLoggedIn (l.getToken session.slotID) = true
      refine hpublic (Bool.eq_false_iff.2 fun hpub => ?_)
      cases hpriv hpub

end hidden

/-! ### Whole runs -/

/-- A call, with its answer, that has room for its handles and does not log the user of the slot
out by the way. -/
def StepUnrevoked (P : Primitives) (slotID : CK_SLOT_ID) (l : Library Obj) (c : Op Obj × CK_RV)
    (l' : Library Obj) : Prop :=
  l.exec P c.1 = some (c.2, l') ∧ l.handleManager.Room (c.1.handles l) ∧
    Unrevoked l slotID c.1 c.2

section runs

variable {P : Primitives} {slotID : CK_SLOT_ID} {l l' : Library Obj} {calls : List (Op Obj × CK_RV)}

lemma hidden_started (h : Started l) (slotID : CK_SLOT_ID) : Hidden l slotID := by
  refine ⟨fun k S o hk => ?_, fun o ho => ?_⟩
  · rw [h.handles] at hk
    cases hk
  · rw [h.objects.1] at ho
    cases ho

/-- The invariant of a run: the components agree, nothing private is left behind, and a handle
that was issued before has its old meaning or none. -/
lemma unrevoked_run (hrun : Run (StepUnrevoked P slotID) l calls l') (hl : Housed l)
    (hh : Hidden l slotID) :
    (Housed l' ∧ Hidden l' slotID) ∧ Later l.handleManager l'.handleManager := by
  refine hrun.invariant (P := fun a => (Housed a ∧ Hidden a slotID) ∧
    Later l.handleManager a.handleManager) ⟨⟨hl, hh⟩, later_refl _⟩ ?_
  rintro a ⟨op, rv⟩ b ⟨⟨ha, hha⟩, hlater⟩ ⟨hexec, hroom, hrevoked⟩
  obtain ⟨hb, hab⟩ := housed_effect ha (effect_of_exec hexec) hroom
  exact ⟨⟨hb, hidden_effect ha hha hexec hroom hrevoked⟩, hlater.trans hab⟩

end runs

/-! ### A login and a logout -/

open SecureDataManager

/-- A private object of the session that is made as it should be. -/
def newPrivateObject : NewObject ℕ := ⟨CKR_OK, CKR_OK, some 0, true, CKR_OK, true⟩

end SoftHSM.Library
