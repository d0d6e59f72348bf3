import Mathlib.Data.List.Basic
import SoftHSM.Cryptoki

/-!
The sessions of the library. They are kept in a vector whose closed places are filled first;
the handle of a session here is its place, counted from one. What the functions tell the token
of a slot is left to the caller: they take its login state and return the slot to log out.
-/

namespace SoftHSM

open CK_RV CK_STATE

structure Session where
  slotID : CK_SLOT_ID
  isReadWrite : Bool
  /-- whether an operation is under way, `getOpType() != SESSION_OP_NONE` -/
  active : Bool
  reAuthentication : Bool
  deriving DecidableEq

/-- `Session::getState`, with who is logged in on the token. -/
def Session.getState (session : Session) (isSOLoggedIn isUserLoggedIn : Bool) : CK_STATE :=
  if isSOLoggedIn then CKS_RW_SO_FUNCTIONS
  else if isUserLoggedIn then
    if session.isReadWrite then CKS_RW_USER_FUNCTIONS else CKS_RO_USER_FUNCTIONS
  else if session.isReadWrite then CKS_RW_PUBLIC_SESSION else CKS_RO_PUBLIC_SESSION

/-- The states of the user's sessions. -/
lemma user_of_getState {session : Session} {so user : Bool}
    (h : session.getState so user = CKS_RO_USER_FUNCTIONS ∨
      session.getState so user = CKS_RW_USER_FUNCTIONS) : user = true ∧ so = false := by
  cases so <;> cases user <;> cases hrw : session.isReadWrite <;>
    simp [Session.getState, hrw] at h ⊢

lemma so_of_getState {session : Session} {so user : Bool} :
    session.getState so user = CKS_RW_SO_FUNCTIONS ↔ so = true := by
  cases so <;> cases user <;> cases hrw : session.isReadWrite <;> simp [Session.getState, hrw]

/-! ### Access -/

def haveRead (sessionState : CK_STATE) (_isTokenObject isPrivateObject : Bool) : CK_RV :=
  match sessionState with
  | CKS_RO_PUBLIC_SESSION | CKS_RW_PUBLIC_SESSION | CKS_RW_SO_FUNCTIONS =>
    if isPrivateObject then CKR_USER_NOT_LOGGED_IN else CKR_OK
  | CKS_RO_USER_FUNCTIONS | CKS_RW_USER_FUNCTIONS => CKR_OK

def haveWrite (sessionState : CK_STATE) (isTokenObject isPrivateObject : Bool) : CK_RV :=
  match sessionState with
  | CKS_RO_PUBLIC_SESSION =>
    if isTokenObject then CKR_SESSION_READ_ONLY
    else if isPrivateObject then CKR_USER_NOT_LOGGED_IN else CKR_OK
  | CKS_RW_PUBLIC_SESSION | CKS_RW_SO_FUNCTIONS =>
    if isPrivateObject then CKR_USER_NOT_LOGGED_IN else CKR_OK
  | CKS_RO_USER_FUNCTIONS => if isTokenObject then CKR_SESSION_READ_ONLY else CKR_OK
  | CKS_RW_USER_FUNCTIONS => CKR_OK

/-- Private objects are for the user: nobody else may write one. -/
lemma user_of_haveWrite {session : Session} {so user isTokenObject : Bool}
    (h : haveWrite (session.getState so user) isTokenObject true = CKR_OK) : user = true := by
  cases user
  · cases so <;> cases hrw : session.isReadWrite <;> cases isTokenObject <;>
      simp [Session.getState, haveWrite, hrw] at h
  · rfl

/-! ### The session manager -/

structure SessionManager where
  sessions : List (Option Session)

namespace SessionManager

/-- The constructor. -/
def empty : SessionManager := ⟨[]⟩

/-- The place of a new session, the first that is empty or else a new one, with the vector. -/
def fill (session : Session) : List (Option Session) → ℕ × List (Option Session)
  | [] => (1, [some session])
  | none :: sessions => (1, some session :: sessions)
  | some s :: sessions =>
    ((fill session sessions).1 + 1, some s :: (fill session sessions).2)

/-- `openSession` on a slot, with whether its token is initialised and its SO logged in. -/
def openSession (m : SessionManager) (slotID : CK_SLOT_ID) (isInitialized isSOLoggedIn : Bool)
    (serial rw : Bool) : CK_RV × ℕ × SessionManager :=
  if !serial then (CKR_SESSION_PARALLEL_NOT_SUPPORTED, 0, m)
  else if !isInitialized then (CKR_TOKEN_NOT_RECOGNIZED, 0, m)
  else if !rw && isSOLoggedIn then (CKR_SESSION_READ_WRITE_SO_EXISTS, 0, m)
  else
    let r := fill ⟨slotID, rw, false, false⟩ m.sessions
    (CKR_OK, r.1, ⟨r.2⟩)

/-- `CK_INVALID_HANDLE` has no place. -/
def getSession (m : SessionManager) (hSession : ℕ) : Option Session :=
  if hSession = 0 then none else (m.sessions[hSession - 1]?).join

def haveSession (m : SessionManager) (slotID : CK_SLOT_ID) : Bool :=
  m.sessions.any fun s => s.any (·.slotID == slotID)

def haveROSession (m : SessionManager) (slotID : CK_SLOT_ID) : Bool :=
  m.sessions.any fun s => s.any fun s => s.slotID == slotID && !s.isReadWrite

/-- `closeSession`, with the slot whose token is to be logged out. -/
def closeSession (m : SessionManager) (hSession : ℕ) :
    CK_RV × Option CK_SLOT_ID × SessionManager :=
  match m.getSession hSession with
  | none => (CKR_SESSION_HANDLE_INVALID, none, m)
  | some session =>
    let m' : SessionManager := ⟨m.sessions.set (hSession - 1) none⟩
    let lastSession := !m'.haveSession session.slotID
    (CKR_OK, if lastSession then some session.slotID else none, m')

def closeAllSessions (m : SessionManager) (slotID : CK_SLOT_ID) : SessionManager :=
  ⟨m.sessions.map (Option.filter (·.slotID != slotID))⟩

/-- A change of what a session keeps about its operation. -/
def setOperation (m : SessionManager) (hSession : ℕ) (active reAuthentication : Bool) :
    SessionManager :=
  ⟨m.sessions.modify (hSession - 1) (Option.map fun s =>
    { s with active := active, reAuthentication := reAuthentication })⟩

/-! ### The sessions by their handles -/

lemma getSession_eq_some {m : SessionManager} {h : ℕ} {s : Session} :
    m.getSession h = some s ↔ 0 < h ∧ m.sessions[h - 1]? = some (some s) := by
  unfold getSession
  split
  · simp_all
  · rw [Option.join_eq_some_iff]
    constructor
    · exact fun hs => ⟨by omega, hs⟩
    · exact fun hs => hs.2

lemma haveSession_iff {m : SessionManager} {slotID : CK_SLOT_ID} :
    m.haveSession slotID = true ↔ ∃ h s, m.getSession h = some s ∧ s.slotID = slotID := by
  simp only [haveSession, List.any_eq_true, Option.any_eq_true, beq_iff_eq]
  constructor
  · rintro ⟨_, hmem, s, rfl, hs⟩
    obtain ⟨i, hi⟩ := List.mem_iff_getElem?.1 hmem
    exact ⟨i + 1, s, getSession_eq_some.2 ⟨by omega, by simpa using hi⟩, hs⟩
  · rintro ⟨h, s, hg, hs⟩
    exact ⟨_, List.mem_of_getElem? (getSession_eq_some.1 hg).2, s, rfl, hs⟩

lemma haveROSession_iff {m : SessionManager} {slotID : CK_SLOT_ID} :
    m.haveROSession slotID = true ↔
      ∃ h s, m.getSession h = some s ∧ s.slotID = slotID ∧ s.isReadWrite = false := by
  simp only [haveROSession, List.any_eq_true, Option.any_eq_true, Bool.and_eq_true, beq_iff_eq,
    Bool.not_eq_true']
  constructor
  · rintro ⟨_, hmem, s, rfl, hs⟩
    obtain ⟨i, hi⟩ := List.mem_iff_getElem?.1 hmem
    exact ⟨i + 1, s, getSession_eq_some.2 ⟨by omega, by simpa using hi⟩, hs⟩
  · rintro ⟨h, s, hg, hs⟩
    exact ⟨_, List.mem_of_getElem? (getSession_eq_some.1 hg).2, s, rfl, hs⟩

lemma fill_spec (session : Session) (l : List (Option Session)) :
    0 < (fill session l).1 ∧ (∀ s, l[(fill session l).1 - 1]? ≠ some (some s)) ∧
      ∀ i s, (fill session l).2[i]? = some (some s) ↔
        i = (fill session l).1 - 1 ∧ s = session ∨
          i ≠ (fill session l).1 - 1 ∧ l[i]? = some (some s) := by
  induction l with
  | nil =>
    refine ⟨by simp [fill], by simp [fill], fun i s => ?_⟩
    rcases i with _ | i
    · simp [fill, eq_comm]
    · simp [fill]
  | cons t l ih =>
    rcases t with _ | t
    · refine ⟨by simp [fill], by simp [fill], fun i s => ?_⟩
      rcases i with _ | i
      · simp [fill, eq_comm]
      · simp [fill]
    · obtain ⟨hpos, hfree, hget⟩ := ih
      obtain ⟨n, hn⟩ : ∃ n, (fill session l).1 = n + 1 := ⟨(fill session l).1 - 1, by omega⟩
      simp only [hn, Nat.add_sub_cancel] at hfree hget
      refine ⟨by simp [fill], fun s => by simpa [fill, hn] using hfree s, fun i s => ?_⟩
      rcases i with _ | i
      · simp [fill, hn]
      · simpa [fill, hn] using hget i s

/-- What a successful `openSession` does: the new session has a handle that was free. -/
lemma openSession_ok {m m' : SessionManager} {slotID : CK_SLOT_ID} {init so serial rw : Bool}
    {h : ℕ} (ho : m.openSession slotID init so serial rw = (CKR_OK, h, m')) :
    init = true ∧ (rw = false → so = false) ∧ m.getSession h = none ∧
      ∀ k s, m'.getSession k = some s ↔
        k = h ∧ s = ⟨slotID, rw, false, false⟩ ∨ k ≠ h ∧ m.getSession k = some s := by
  unfold openSession at ho
  split at ho
  · cases ho
  split at ho
  · cases ho
  split at ho
  · cases ho
  rename_i hinit hso
  simp only [Prod.mk.injEq, true_and] at ho
  obtain ⟨rfl, rfl⟩ := ho
  obtain ⟨hpos, hfree, hget⟩ := fill_spec ⟨slotID, rw, false, false⟩ m.sessions
  refine ⟨by simpa using hinit, fun hrw => by simpa [hrw] using hso, ?_, fun k s => ?_⟩
  · rw [Option.eq_none_iff_forall_ne_some]
    exact fun s hs => hfree s (getSession_eq_some.1 hs).2
  · rw [getSession_eq_some, getSession_eq_some, hget]
    constructor
    · rintro ⟨hk, ⟨hi, rfl⟩ | ⟨hi, hs⟩⟩
      · exact .inl ⟨by omega, rfl⟩
      · exact .inr ⟨by omega, hk, hs⟩
    · rintro (⟨rfl, rfl⟩ | ⟨hne, hk, hs⟩)
      · exact ⟨hpos, .inl ⟨rfl, rfl⟩⟩
      · exact ⟨hk, .inr ⟨by omega, hs⟩⟩

/-- What `closeSession` does to a session that is open. -/
lemma closeSession_ok {m : SessionManager} {h : ℕ} {s : Session} (hs : m.getSession h = some s) :
    ∃ m', m.closeSession h =
        (CKR_OK, if !m'.haveSession s.slotID then some s.slotID else none, m') ∧
      ∀ k t, m'.getSession k = some t ↔ k ≠ h ∧ m.getSession k = some t := by
  refine ⟨⟨m.sessions.set (h - 1) none⟩, by simp only [closeSession, hs], fun k t => ?_⟩
  have hpos := (getSession_eq_some.1 hs).1
  rw [getSession_eq_some, getSession_eq_some]
  dsimp only
  by_cases hk : k - 1 = h - 1
  · have hge : m.sessions[h - 1]? = some (some s) := (getSession_eq_some.1 hs).2
    have hset : (m.sessions.set (h - 1) none)[k - 1]? = some none := by
      rw [hk, List.getElem?_set_self']
      simp [hge]
    rw [hset]
    constructor
    · exact fun ⟨_, ht⟩ => nomatch ht
    · exact fun ⟨hne, hk0, _⟩ => absurd (show k = h by omega) hne
  · rw [List.getElem?_set_ne (Ne.symm hk)]
    constructor
    · exact fun ⟨h0, ht⟩ => ⟨by rintro rfl; exact hk rfl, h0, ht⟩
    · exact fun ⟨_, h0, ht⟩ => ⟨h0, ht⟩

lemma getSession_closeAllSessions {m : SessionManager} {slotID : CK_SLOT_ID} {k : ℕ}
    {t : Session} : (m.closeAllSessions slotID).getSession k = some t ↔
      m.getSession k = some t ∧ t.slotID ≠ slotID := by
  rw [getSession_eq_some, getSession_eq_some]
  simp only [closeAllSessions, List.getElem?_map, Option.map_eq_some_iff, Option.filter_eq_some_iff,
    bne_iff_ne]
  constructor
  · rintro ⟨h0, _, hx, rfl, hne⟩
    exact ⟨⟨h0, hx⟩, hne⟩
  · rintro ⟨⟨h0, hx⟩, hne⟩
    exact ⟨h0, _, hx, rfl, hne⟩

/-- An operation on a session leaves the slots and the modes of all. -/
lemma getSession_setOperation {m : SessionManager} {h : ℕ} {active reAuth : Bool} {k : ℕ}
    {t : Session} : (m.setOperation h active reAuth).getSession k = some t →
      ∃ s, m.getSession k = some s ∧ s.slotID = t.slotID ∧ s.isReadWrite = t.isReadWrite := by
  intro ht
  obtain ⟨h0, hx⟩ := getSession_eq_some.1 ht
  simp only [setOperation, List.getElem?_modify] at hx
  obtain ⟨s, hs, hst⟩ := Option.map_eq_some_iff.1 hx
  split at hst
  · obtain ⟨s', rfl, rfl⟩ := Option.map_eq_some_iff.1 hst
    exact ⟨s', getSession_eq_some.2 ⟨h0, hs⟩, rfl, rfl⟩
  · subst hst
    exact ⟨t, getSession_eq_some.2 ⟨h0, hs⟩, rfl, rfl⟩

lemma getSession_of_setOperation {m : SessionManager} {h : ℕ} {active reAuth : Bool} {k : ℕ}
    {s : Session} (hs : m.getSession k = some s) :
    ∃ t, (m.setOperation h active reAuth).getSession k = some t ∧
      t.slotID = s.slotID ∧ t.isReadWrite = s.isReadWrite := by
  obtain ⟨h0, hx⟩ := getSession_eq_some.1 hs
  by_cases hk : h - 1 = k - 1
  · exact ⟨{ s with active := active, reAuthentication := reAuth }, getSession_eq_some.2
      ⟨h0, by simp [setOperation, hk, hx]⟩, rfl, rfl⟩
  · exact ⟨s, getSession_eq_some.2
      ⟨h0, by simp [setOperation, hk, hx]⟩, rfl, rfl⟩

end SessionManager

end SoftHSM
