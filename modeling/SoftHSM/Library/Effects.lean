import SoftHSM.Library.Calls
import SoftHSM.SlotMgr.LoginState

/-!
What a call can do to the library. A call that is refused does nothing; one that is not does
one of a few things, each of which is known with the checks that it has passed.
-/

set_option linter.unusedSectionVars false

namespace SoftHSM.Library

open CK_RV CK_STATE Token SessionManager

variable {Obj : Type} [LinearOrder Obj]

/-- The checks of the calls that come to an operation on a token. -/
def checks (l : Library Obj) : Op Obj → Option Checked
  | .C_Login r e hSession userType pPin => l.checkLogin r e hSession userType pPin
  | .C_InitPIN e hSession pPin => l.checkInitPIN e hSession pPin
  | .C_SetPIN e hSession pOldPin pNewPin => l.checkSetPIN e hSession pOldPin pNewPin
  | .C_EX_UnblockUserPIN policy flags hSession => l.checkUnblockUserPIN policy flags hSession
  | .C_EX_SetLocalPIN e slotID pUserPin pNewLocalPin ulLocalID =>
    some (l.checkSetLocalPIN e slotID pUserPin pNewLocalPin ulLocalID)
  | _ => none

/-- The address that a call gives to a new object. -/
def Op.newObject : Op Obj → Option Obj
  | .CreateObject e _ _ _ => e.object
  | .C_CopyObject e _ _ _ _ _ _ => e.object
  | _ => none

/-- The library after `C_CloseSession`, but for the logout. -/
def closeSession (l : Library Obj) (hSession : ℕ) (m : SessionManager) : Library Obj :=
  { l with
    handleManager := (l.handleManager.sessionClosed hSession).1
    sessionObjectStore := (l.sessionObjectStore.sessionClosed hSession).1
    sessionManager := m }

/-- The library after `C_CloseAllSessions`, but for the logout. -/
def closeAllSessions (l : Library Obj) (slotID : CK_SLOT_ID) : Library Obj :=
  { l with
    handleManager := (l.handleManager.allSessionsClosed slotID).1
    sessionObjectStore := (l.sessionObjectStore.allSessionsClosed slotID).1
    sessionManager := l.sessionManager.closeAllSessions slotID }

/-- The library after `C_Logout`, but for the logout itself. -/
def dropPrivate (l : Library Obj) (slotID : CK_SLOT_ID) : Library Obj :=
  { l with
    handleManager := (l.handleManager.tokenLoggedOut slotID).1
    sessionObjectStore := (l.sessionObjectStore.tokenLoggedOut slotID).1 }

/-- The new object with its handle. -/
def registerObject (l : Library Obj) (slotID hSession : ℕ) (isOnToken isPrivate : Bool)
    (object : Obj) : Library Obj :=
  { l with
    handleManager := (addObject l.handleManager slotID hSession isOnToken isPrivate object).2 }

/-- The library after a search that has found these objects on the token. -/
def searched (l : Library Obj) (place : ℕ) (session : Session) (tokenObjects : Finset Obj)
    (m : HandleManager Obj ℕ) : Library Obj :=
  { l with
    tokenObjects := fun o => if o ∈ tokenObjects then some session.slotID else l.tokenObjects o
    sessionManager := l.sessionManager.setOperation place true session.reAuthentication
    handleManager := m }

/-- Whoever makes a private object is logged in as the user. -/
def MayBePrivate (l : Library Obj) (session : Session) (isPrivate : Bool) : Prop :=
  isPrivate = true → isUserLoggedIn (l.getToken session.slotID) = true

variable (P : Primitives)

/-- What a call does to the library. -/
inductive Effect (l : Library Obj) : Op Obj → Library Obj → Prop
  | refused {op : Op Obj} : Effect l op l
  | opened {slotID : CK_SLOT_ID} {serial rw : Bool} {token : Option Token} {place : ℕ}
      {m : SessionManager} (hslot : l.slots slotID = some token)
      (ho : l.sessionManager.openSession slotID token.isSome (isSOLoggedIn token) serial rw =
        (CKR_OK, place, m)) :
      Effect l (.C_OpenSession slotID serial rw) { l with
        sessionManager := m, handleManager := (l.handleManager.addSession slotID place).2 }
  | closed {hSession place : ℕ} {session : Session} {m : SessionManager}
      (hs : l.getSession hSession = some (some (place, session)))
      (hm : ∀ k t, m.getSession k = some t ↔ k ≠ place ∧ l.sessionManager.getSession k = some t)
      (hmore : m.haveSession session.slotID = true) :
      Effect l (.C_CloseSession hSession) (l.closeSession hSession m)
  | closedLast {hSession place : ℕ} {session : Session} {m : SessionManager}
      (hs : l.getSession hSession = some (some (place, session)))
      (hm : ∀ k t, m.getSession k = some t ↔ k ≠ place ∧ l.sessionManager.getSession k = some t)
      (hlast : m.haveSession session.slotID = false) :
      Effect l (.C_CloseSession hSession) ((l.closeSession hSession m).logout P session.slotID)
  | allClosed {slotID : CK_SLOT_ID} :
      Effect l (.C_CloseAllSessions slotID) ((l.closeAllSessions slotID).logout P slotID)
  | operation {op : Op Obj} {place : ℕ} {active reAuthentication : Bool} :
      Effect l op { l with
        sessionManager := l.sessionManager.setOperation place active reAuthentication }
  | asked {op : Op Obj} {slotID : CK_SLOT_ID} {q : Token.Request}
      (hc : l.checks op = some (.request slotID q)) : Effect l op (l.request P slotID q).2
  | reAuthenticated {op : Op Obj} {slotID : CK_SLOT_ID} {q : Token.Request} {hSession : ℕ}
      (hc : l.checks op = some (.request slotID q)) :
      Effect l op ((l.request P slotID q).2.clearReAuthentication hSession)
  | loggedOut {hSession place : ℕ} {session : Session}
      (hs : l.getSession hSession = some (some (place, session))) :
      Effect l (.C_Logout hSession) ((l.logout P session.slotID).dropPrivate session.slotID)
  | formatted {e : FormatEnv} {requested : Option ByteString} {slotID : CK_SLOT_ID}
      {soPIN : ByteString} {pLabel : Option ByteString} {token token' : Option Token}
      {rv : CK_RV} (hslot : l.slots slotID = some token)
      (hno : l.sessionManager.haveSession slotID = false)
      (hallowed : l.rejectsInit slotID = none)
      (hcreate : createToken P e requested soPIN pLabel token = some (rv, token')) :
      Effect l (.C_InitToken e requested slotID (some soPIN) pLabel) (l.setToken slotID token')
  | formattedExtended {op : Op Obj} {e : FormatEnv} {slotID : CK_SLOT_ID} {soPIN : ByteString}
      {c : CK_RUTOKEN_INIT_PARAM.Checked} {token : Option Token}
      (hslot : l.slots slotID = some token)
      (hno : l.sessionManager.haveSession slotID = false) :
      Effect l op (l.setToken slotID (initTokenExtended P e soPIN c token).2)
  | inserted {op : Op Obj} {slotID : CK_SLOT_ID} (hslot : l.slots slotID = none) :
      Effect l op (l.setToken slotID none)
  | made {op : Op Obj} {hSession place : ℕ} {session : Session} {isOnToken isPrivate : Bool}
      {object : Obj} (hs : l.getSession hSession = some (some (place, session)))
      (hp : l.MayBePrivate session isPrivate) (hnew : op.newObject = some object) :
      Effect l op (l.makeObject session.slotID hSession isOnToken isPrivate object)
  | unmade {op : Op Obj} {hSession place : ℕ} {session : Session}
      {isOnToken isPrivate removed : Bool} {object : Obj}
      (hs : l.getSession hSession = some (some (place, session)))
      (hp : l.MayBePrivate session isPrivate) (hnew : op.newObject = some object) :
      Effect l op
        ((l.makeObject session.slotID hSession isOnToken isPrivate object).destroyObject removed
          object).2
  | registered {op : Op Obj} {hSession place : ℕ} {session : Session}
      {isOnToken isPrivate : Bool} {object : Obj}
      (hs : l.getSession hSession = some (some (place, session)))
      (hp : l.MayBePrivate session isPrivate) (hnew : op.newObject = some object) :
      Effect l op ((l.makeObject session.slotID hSession isOnToken isPrivate object).registerObject
        session.slotID hSession isOnToken isPrivate object)
  | destroyed {op : Op Obj} {hObject : ℕ} {removed : Bool} {object : Obj} :
      Effect l op (({ l with handleManager := (l.handleManager.destroyObject hObject).1 } :
        Library Obj).destroyObject removed object).2
  | searched {hSession place : ℕ} {session : Session} {tokenObjects : Finset Obj}
      {ask : Obj → Asked} {matching : Obj → Option Bool} {isPublicSession : Bool}
      (hs : l.getSession hSession = some (some (place, session)))
      (hpublic : isPublicSession = false → isUserLoggedIn (l.getToken session.slotID) = true) :
      Effect l (.C_FindObjectsInit tokenObjects ask matching hSession)
        (l.searched place session tokenObjects (findObjects ask matching session.slotID hSession
          isPublicSession (tokenObjects ∪ l.sessionObjectStore.getObjects session.slotID).sort
          l.handleManager).2)

variable {P} {l l' : Library Obj} {rv : CK_RV}

/-! ### Each call -/

lemma effect_openSession (slotID : CK_SLOT_ID) (serial rw : Bool) :
    Effect P l (.C_OpenSession slotID serial rw) (l.C_OpenSession slotID serial rw).2.2 := by
  unfold C_OpenSession
  rcases hslot : l.slots slotID with _ | token
  · exact .refused
  rcases ho : l.sessionManager.openSession slotID token.isSome (isSOLoggedIn token) serial rw
    with ⟨rv, place, m⟩
  dsimp only
  rw [ho]
  dsimp only
  split
  · exact .refused
  · rename_i hrv
    rw [ne_eq, not_not] at hrv
    exact .opened hslot (hrv ▸ ho)

/-- Whoever has a session gets on. -/
lemma getSession_cases {hSession : ℕ} {s : Option (ℕ × Session)}
    (h : l.getSession hSession = some s) : s = none ∨ ∃ place session, s = some (place, session) ∧
      l.handleManager.getSession hSession = some place ∧
      l.sessionManager.getSession place = some session := by
  unfold getSession at h
  rcases hh : l.handleManager.getSession hSession with _ | place
  · rw [hh] at h
    exact .inl (Option.some.inj h).symm
  · rw [hh] at h
    obtain ⟨session, hs, rfl⟩ := Option.map_eq_some_iff.1 h
    exact .inr ⟨place, session, rfl, rfl, hs⟩

lemma effect_closeSession {hSession : ℕ} (h : l.C_CloseSession P hSession = some (rv, l')) :
    Effect P l (.C_CloseSession hSession) l' := by
  unfold C_CloseSession at h
  rcases hs : l.getSession hSession with _ | s
  · rw [hs] at h
    cases h
  rw [hs] at h
  rcases getSession_cases hs with rfl | ⟨place, session, rfl, -, hg⟩
  · cases h
    exact .refused
  obtain ⟨m, hclose, hm⟩ := closeSession_ok hg
  simp only [Option.bind_eq_bind, Option.bind_some, hclose] at h
  rcases hhave : m.haveSession session.slotID
  · rw [hhave] at h
    cases h
    exact .closedLast hs hm hhave
  · rw [hhave] at h
    cases h
    exact .closed hs hm hhave

lemma effect_logout {hSession : ℕ} (h : l.C_Logout P hSession = some (rv, l')) :
    Effect P l (.C_Logout hSession) l' := by
  unfold C_Logout at h
  rcases hs : l.getSession hSession with _ | s
  · rw [hs] at h
    cases h
  rw [hs] at h
  rcases getSession_cases hs with rfl | ⟨place, session, rfl, -, hg⟩
  · cases h
    exact .refused
  · cases h
    exact .loggedOut hs

lemma effect_setOperation {hSession : ℕ} {active reAuthentication : Bool} {op : Op Obj}
    (h : l.setOperation hSession active reAuthentication = some (rv, l')) : Effect P l op l' := by
  unfold setOperation at h
  rcases hs : l.getSession hSession with _ | s
  · rw [hs] at h
    cases h
  rw [hs] at h
  rcases getSession_cases hs with rfl | ⟨place, session, rfl, -, hg⟩
  · cases h
    exact .refused
  · cases h
    exact .operation

lemma effect_perform {op : Op Obj} {c : Option Checked} (hc : l.checks op = c)
    (h : c.map (l.perform P) = some (rv, l')) : Effect P l op l' := by
  obtain ⟨c', rfl, hp⟩ := Option.map_eq_some_iff.1 h
  rcases c' with rv' | ⟨slotID, q⟩
  · cases hp
    exact .refused
  · have hl : (l.request P slotID q).2 = l' := congrArg Prod.snd hp
    rw [← hl]
    exact .asked hc

lemma effect_login {r : Draws} {e : ResultWrites} {hSession userType : ℕ}
    {pPin : Option ByteString} (h : l.C_Login P r e hSession userType pPin = some (rv, l')) :
    Effect P l (.C_Login r e hSession userType pPin) l' := by
  have hchecks : l.checks (.C_Login r e hSession userType pPin) =
    l.checkLogin r e hSession userType pPin := rfl
  unfold C_Login at h
  rcases hc : l.checkLogin r e hSession userType pPin with _ | c
  · rw [hc] at h
    cases h
  rw [hc] at h hchecks
  simp only [Option.bind_eq_bind, Option.bind_some] at h
  split at h
  · cases h
    rcases c with rv' | ⟨slotID, q⟩
    · change Effect P l _ (l.clearReAuthentication hSession)
      unfold clearReAuthentication
      split
      · exact .operation
      · exact .refused
    · exact .reAuthenticated hchecks
  · cases h
    rcases c with rv' | ⟨slotID, q⟩
    · exact .refused
    · exact .asked hchecks

lemma effect_initToken {e : FormatEnv} {requested : Option ByteString} {slotID : CK_SLOT_ID}
    {pPin pLabel : Option ByteString}
    (h : l.C_InitToken P e requested slotID pPin pLabel = some (rv, l')) :
    Effect P l (.C_InitToken e requested slotID pPin pLabel) l' := by
  unfold C_InitToken at h
  rcases hslot : l.slots slotID with _ | token
  · rw [hslot] at h
    cases h
    exact .refused
  rw [hslot] at h
  dsimp only at h
  split at h
  · cases h
    exact .refused
  rename_i hno
  rcases hr : l.rejectsInit slotID with _ | rv'
  swap
  · rw [hr] at h
    cases h
    exact .refused
  rw [hr] at h
  rcases pPin with _ | soPIN
  · cases h
    exact .refused
  dsimp only at h
  rcases hcreate : createToken P e requested soPIN pLabel token with _ | ⟨rv', token'⟩
  · rw [hcreate] at h
    cases h
  · rw [hcreate] at h
    cases h
    exact .formatted hslot (by simpa using hno) hr hcreate

lemma effect_initTokenExtended (e : FormatEnv) (slotID : CK_SLOT_ID) (pPin : Option ByteString)
    (pInitInfo : Option CK_RUTOKEN_INIT_PARAM) :
    Effect P l (.C_EX_InitToken e slotID pPin pInitInfo)
      (l.C_EX_InitToken P e slotID pPin pInitInfo).2 := by
  unfold C_EX_InitToken
  split
  · exact .refused
  rcases hslot : l.slots slotID with _ | token
  · exact .refused
  dsimp only
  split
  · exact .refused
  rename_i hno
  split
  · exact .refused
  · exact .formattedExtended hslot (by simpa using hno)

lemma effect_insertToken {op : Op Obj} (slotID : CK_SLOT_ID) :
    Effect P l op (l.insertToken slotID) := by
  unfold insertToken
  split
  · rename_i hslot
    exact .inserted (by simpa using hslot)
  · exact .refused

/-! ### The calls on objects -/

lemma mayBePrivate_of_haveWrite {session : Session} {isOnToken isPrivate : Bool}
    (h : ¬ haveWrite (l.getState session) isOnToken isPrivate ≠ CKR_OK) :
    l.MayBePrivate session isPrivate := by
  rintro rfl
  exact user_of_haveWrite (not_not.1 h)

lemma effect_createObject {e : NewObject Obj} {hSession : ℕ} {isOnToken isPrivate : Bool}
    {h : ℕ} (hc : l.CreateObject e hSession isOnToken isPrivate = some (rv, h, l')) :
    Effect P l (.CreateObject e hSession isOnToken isPrivate) l' := by
  unfold CreateObject at hc
  rcases hs : l.getSession hSession with _ | s
  · rw [hs] at hc
    cases hc
  rw [hs] at hc
  rcases getSession_cases hs with rfl | ⟨place, session, rfl, -, hg⟩
  · cases hc
    exact .refused
  simp only [Option.bind_eq_bind, Option.bind_some] at hc
  split at hc
  · cases hc
    exact .refused
  split at hc
  · cases hc
    exact .refused
  rename_i hw
  have hp := mayBePrivate_of_haveWrite hw
  split at hc
  · cases hc
    exact .refused
  rcases hnew : e.object with _ | object
  · rw [hnew] at hc
    cases hc
    exact .refused
  rw [hnew] at hc
  dsimp only at hc
  split at hc
  · cases hc
    exact .made hs hp hnew
  split at hc
  · cases hc
    exact .made hs hp hnew
  · cases hc
    exact .registered hs hp hnew

lemma effect_copyObject {e : NewObject Obj} {original : Asked} {isCopyable : Bool}
    {hSession hObject : ℕ} {onToken priv : Option Bool} {h : ℕ}
    (hc : l.C_CopyObject e original isCopyable hSession hObject onToken priv =
      some (rv, h, l')) :
    Effect P l (.C_CopyObject e original isCopyable hSession hObject onToken priv) l' := by
  unfold C_CopyObject at hc
  rcases hs : l.getSession hSession with _ | s
  · rw [hs] at hc
    cases hc
  rw [hs] at hc
  rcases getSession_cases hs with rfl | ⟨place, session, rfl, -, hg⟩
  · cases hc
    exact .refused
  simp only [Option.bind_eq_bind, Option.bind_some] at hc
  split at hc
  · cases hc
    exact .refused
  split at hc
  · cases hc
    exact .refused
  split at hc
  · cases hc
    exact .refused
  split at hc
  · cases hc
    exact .refused
  split at hc
  · cases hc
    exact .refused
  rename_i hw
  have hp := mayBePrivate_of_haveWrite hw
  rcases hnew : e.object with _ | object
  · rw [hnew] at hc
    cases hc
    exact .refused
  rw [hnew] at hc
  dsimp only at hc
  split at hc
  · cases hc
    exact .unmade hs hp hnew
  split at hc
  · cases hc
    exact .unmade hs hp hnew
  · cases hc
    exact .registered hs hp hnew

lemma effect_destroyObject {asked : Asked} {isDestroyable removed : Bool} {hSession hObject : ℕ}
    {op : Op Obj}
    (h : l.C_DestroyObject asked isDestroyable removed hSession hObject = some (rv, l')) :
    Effect P l op l' := by
  unfold C_DestroyObject at h
  rcases hs : l.getSession hSession with _ | s
  · rw [hs] at h
    cases h
  rw [hs] at h
  rcases getSession_cases hs with rfl | ⟨place, session, rfl, -, hg⟩
  · cases h
    exact .refused
  simp only [Option.bind_eq_bind, Option.bind_some] at h
  split at h
  · cases h
    exact .refused
  rcases ho : l.handleManager.getObject hObject with _ | object
  · rw [ho] at h
    cases h
    exact .refused
  rw [ho] at h
  dsimp only at h
  split at h
  · cases h
    exact .refused
  split at h
  · cases h
    exact .refused
  split at h
  · cases h
    exact .refused
  · cases h
    exact .destroyed

/-- A session that is not public is one of the user. -/
lemma user_of_not_public {session : Session}
    (h : (match l.getState session with
      | CKS_RO_USER_FUNCTIONS | CKS_RW_USER_FUNCTIONS => false
      | _ => true) = false) : isUserLoggedIn (l.getToken session.slotID) = true := by
  split at h
  · exact (user_of_getState (.inl ‹_›)).1
  · exact (user_of_getState (.inr ‹_›)).1
  · cases h

lemma effect_findObjectsInit {tokenObjects : Finset Obj} {ask : Obj → Asked}
    {matching : Obj → Option Bool} {hSession : ℕ}
    (h : l.C_FindObjectsInit tokenObjects ask matching hSession = some (rv, l')) :
    Effect P l (.C_FindObjectsInit tokenObjects ask matching hSession) l' := by
  unfold C_FindObjectsInit at h
  rcases hs : l.getSession hSession with _ | s
  · rw [hs] at h
    cases h
  rw [hs] at h
  rcases getSession_cases hs with rfl | ⟨place, session, rfl, -, hg⟩
  · cases h
    exact .refused
  simp only [Option.bind_eq_bind, Option.bind_some] at h
  split at h
  · cases h
    exact .refused
  · cases h
    exact .searched hs user_of_not_public

/-- **What a call can do.** -/
theorem effect_of_exec {op : Op Obj} (h : l.exec P op = some (rv, l')) : Effect P l op l' := by
  cases op with
  | C_OpenSession slotID serial rw =>
    have hl : (l.C_OpenSession slotID serial rw).2.2 = l' :=
      congrArg Prod.snd (Option.some.inj h)
    rw [← hl]
    exact effect_openSession _ _ _
  | C_CloseSession hSession => exact effect_closeSession h
  | C_CloseAllSessions slotID =>
    have hl : (l.C_CloseAllSessions P slotID).2 = l' := congrArg Prod.snd (Option.some.inj h)
    rw [← hl]
    unfold C_CloseAllSessions
    split
    · exact .refused
    · exact .allClosed
  | setOperation hSession active reAuthentication => exact effect_setOperation h
  | C_Login r e hSession userType pPin => exact effect_login h
  | C_Logout hSession => exact effect_logout h
  | C_InitPIN e hSession pPin => exact effect_perform rfl h
  | C_SetPIN e hSession pOldPin pNewPin => exact effect_perform rfl h
  | C_EX_UnblockUserPIN policy flags hSession => exact effect_perform rfl h
  | C_EX_SetLocalPIN e slotID pUserPin pNewLocalPin ulLocalID => exact effect_perform rfl h
  | C_InitToken e requested slotID pPin pLabel => exact effect_initToken h
  | C_EX_InitToken e slotID pPin pInitInfo =>
    have hl : (l.C_EX_InitToken P e slotID pPin pInitInfo).2 = l' :=
      congrArg Prod.snd (Option.some.inj h)
    rw [← hl]
    exact effect_initTokenExtended _ _ _ _
  | insertToken slotID =>
    have hl : l.insertToken slotID = l' := congrArg Prod.snd (Option.some.inj h)
    rw [← hl]
    exact effect_insertToken _
  | CreateObject e hSession isOnToken isPrivate =>
    obtain ⟨r, hr, hrl⟩ := Option.map_eq_some_iff.1 h
    cases hrl
    exact effect_createObject hr
  | C_CopyObject e original isCopyable hSession hObject onToken priv =>
    obtain ⟨r, hr, hrl⟩ := Option.map_eq_some_iff.1 h
    cases hrl
    exact effect_copyObject hr
  | C_DestroyObject asked isDestroyable removed hSession hObject => exact effect_destroyObject h
  | C_FindObjectsInit tokenObjects ask matching hSession => exact effect_findObjectsInit h

end SoftHSM.Library
