import SoftHSM.Lib.Transition
import SoftHSM.Library.Effects
import SoftHSM.SlotMgr.PolicyRuns

/-!
Who is logged in, over whole runs of the library. Nobody is logged in on a slot without
session, the SO and the user are never logged in together, and where the SO is logged in there
is no read-only session: as long as every `C_InitToken` that gets to log the SO in on the
manager in use goes through.
-/

set_option linter.unusedSectionVars false

namespace SoftHSM.Library

open RecordFile TokenObject SecureDataManager Token SessionManager Transition CK_RV

variable {Obj : Type} [LinearOrder Obj]

/-! ### Sessions and roles -/

/-- The roles that may be logged in on a slot with these sessions. -/
structure Guarded (m : SessionManager) (slotID : CK_SLOT_ID) (roles : Bool × Bool) : Prop where
  session : m.haveSession slotID = false → roles = (false, false)
  exclusive : roles ≠ (true, true)
  readOnly : roles.1 = true → m.haveROSession slotID = false

section guarded

variable {m m' : SessionManager} {slotID : CK_SLOT_ID} {roles roles' : Bool × Bool}

lemma guarded_none (m : SessionManager) (slotID : CK_SLOT_ID) :
    Guarded m slotID (false, false) :=
  ⟨fun _ => rfl, by simp, fun h => by cases h⟩

lemma Guarded.calm (hg : Guarded m slotID roles) (h : roles' = roles ∨ roles' = (false, false)) :
    Guarded m slotID roles' := by
  rcases h with rfl | rfl
  · exact hg
  · exact guarded_none _ _

/-- Other sessions, as long as the slot keeps one and gets no read-only one. -/
lemma Guarded.of_sessions (hg : Guarded m slotID roles)
    (h : m'.haveSession slotID = false → m.haveSession slotID = false)
    (hro : m.haveROSession slotID = false → m'.haveROSession slotID = false) :
    Guarded m' slotID roles :=
  ⟨fun hn => hg.session (h hn), hg.exclusive, fun hr => hro (hg.readOnly hr)⟩

/-- As many sessions and read-only sessions on the slot as before, or fewer of the latter. -/
lemma Guarded.of_fewer (hg : Guarded m slotID roles)
    (hkeep : ∀ k s, m.getSession k = some s → s.slotID = slotID → m'.haveSession slotID = true)
    (hsub : ∀ k s, m'.getSession k = some s → s.slotID = slotID →
      ∃ t, m.getSession k = some t ∧ t.slotID = slotID ∧ t.isReadWrite = s.isReadWrite) :
    Guarded m' slotID roles := by
  refine hg.of_sessions (fun hn => ?_) fun hro => ?_
  · rw [Bool.eq_false_iff] at hn ⊢
    intro hh
    obtain ⟨k, s, hk, hs⟩ := haveSession_iff.1 hh
    exact hn (hkeep k s hk hs)
  · rw [Bool.eq_false_iff] at hro ⊢
    intro hh
    obtain ⟨k, s, hk, hs, hrw⟩ := haveROSession_iff.1 hh
    obtain ⟨t, ht, hts, htr⟩ := hsub k s hk hs
    exact hro (haveROSession_iff.2 ⟨k, t, ht, hts, htr.trans hrw⟩)

lemma Guarded.opened {init so serial rw : Bool} {s : CK_SLOT_ID} {place : ℕ}
    (hg : Guarded m slotID roles)
    (ho : m.openSession s init so serial rw = (CKR_OK, place, m'))
    (hso : s = slotID → so = roles.1) : Guarded m' slotID roles := by
  obtain ⟨-, hrw, hfree, hget⟩ := openSession_ok ho
  refine ⟨fun hn => hg.session ?_, hg.exclusive, fun hr => ?_⟩
  · rw [Bool.eq_false_iff] at hn ⊢
    intro hh
    obtain ⟨k, t, hk, ht⟩ := haveSession_iff.1 hh
    have hne : k ≠ place := by
      rintro rfl
      rw [hfree] at hk
      cases hk
    exact hn (haveSession_iff.2 ⟨k, t, (hget k t).2 (.inr ⟨hne, hk⟩), ht⟩)
  · have hro := hg.readOnly hr
    rw [Bool.eq_false_iff] at hro ⊢
    intro hh
    obtain ⟨k, t, hk, ht, htr⟩ := haveROSession_iff.1 hh
    rcases (hget k t).1 hk with ⟨rfl, rfl⟩ | ⟨hne, hk'⟩
    · -- a read-only session is not opened while the SO is logged in
      have hfalse := hrw htr
      rw [hso ht, hr] at hfalse
      cases hfalse
    · exact hro (haveROSession_iff.2 ⟨k, t, hk', ht, htr⟩)

end guarded

lemma getToken_setToken (l : Library Obj) (s s' : CK_SLOT_ID) (t : Option Token) :
    (l.setToken s t).getToken s' = if s' = s then t else l.getToken s' := by
  unfold getToken setToken
  by_cases h : s' = s
  · subst h
    simp
  · simp [h]

/-- The roles on the slots are those that their sessions allow, and what a token has read is
what is stored. -/
structure Supervised (l : Library Obj) : Prop where
  guarded : ∀ slotID, Guarded l.sessionManager slotID (slotRoles (l.getToken slotID))
  coherent : ∀ slotID t, l.getToken slotID = some t → t.token.Coherent

/-- A format by `C_InitToken` that gets to log the SO in goes through. -/
def GoesThrough (P : Primitives) (l : Library Obj) : Op Obj → Prop
  | .C_InitToken e requested slotID (some soPIN) pLabel =>
    l.sessionManager.haveSession slotID = false → l.rejectsInit slotID = none →
      ∀ t, l.getToken slotID = some t → Completes P e requested soPIN pLabel t
  | _ => True

/-- A call that goes through where it has to, with its answer. -/
def StepThrough (P : Primitives) (l : Library Obj) (c : Op Obj × CK_RV) (l' : Library Obj) :
    Prop := l.exec P c.1 = some (c.2, l') ∧ GoesThrough P l c.1

/-- `C_Initialize` has just found the tokens, whatever is in them. -/
structure Started (l : Library Obj) : Prop where
  sessions : l.sessionManager = .empty
  handles : l.handleManager = .empty
  objects : l.sessionObjectStore.objects = ∅ ∧ l.sessionObjectStore.allObjects = ∅
  tokenObjects : ∀ o, l.tokenObjects o = none
  roles : ∀ slotID, slotRoles (l.getToken slotID) = (false, false)
  coherent : ∀ slotID t, l.getToken slotID = some t → t.token.Coherent

lemma supervised_started {l : Library Obj} (h : Started l) : Supervised l :=
  ⟨fun slotID => h.roles slotID ▸ guarded_none _ _, h.coherent⟩

/-! ### The operations on tokens -/

section steps

variable {P : Primitives} {l l' : Library Obj}

lemma coherent_request {q : Token.Request} {s : Option Token}
    (hs : ∀ t, s = some t → t.token.Coherent) :
    ∀ t, (call q.null (q.prog P) s).2 = some t → t.token.Coherent := by
  intro t ht
  rcases hc : call q.null (q.prog P) s with ⟨rv, s'⟩
  rw [hc] at ht
  rcases call_cases hc with ⟨rfl, -⟩ | ⟨token, sdm, rfl, -, rfl⟩
  · exact hs t ht
  · cases ht
    exact Prog.coherent_run (hs _ rfl)

lemma coherent_created (label : ByteString) :
    File.Coherent ⟨some (created label), created label, true⟩ := fun _ => rfl

lemma coherent_createToken {s s' : Option Token} {rv : CK_RV} {e : FormatEnv}
    {requested : Option ByteString} {soPIN : ByteString} {label : Option ByteString}
    (hs : ∀ t, s = some t → t.token.Coherent)
    (h : createToken P e requested soPIN label s = some (rv, s')) :
    ∀ t, s' = some t → t.token.Coherent := by
  unfold createToken at h
  split at h
  · cases h
    exact hs
  split at h
  · cases h
    exact hs
  split at h
  · cases h
    exact hs
  · have hs' := congrArg Prod.snd (Option.some.inj h)
    dsimp only at hs'
    rw [← hs']
    unfold createNew
    split
    split
    · rintro t ⟨⟩
    split
    · rintro t ⟨⟩
    split
    rename_i token hrun
    have hstored : token.Coherent := by
      have hc := congrArg Prod.snd hrun
      dsimp only at hc
      rw [← hc]
      exact Prog.coherent_run (coherent_created _)
    split
    · rintro t ⟨⟩
    · rintro t ⟨⟩
      exact Prog.coherent_run (p := storePolicy e _ soPIN none) hstored
  · obtain ⟨r, hr, hrs⟩ := Option.map_eq_some_iff.1 h
    cases hrs
    rintro t ⟨⟩
    exact Prog.coherent_run (hs _ rfl)

lemma coherent_initTokenExtended {s : Option Token} {e : FormatEnv} {soPIN : ByteString}
    {c : CK_RUTOKEN_INIT_PARAM.Checked} (hs : ∀ t, s = some t → t.token.Coherent) :
    ∀ t, (initTokenExtended P e soPIN c s).2 = some t → t.token.Coherent := by
  rcases s with _ | t
  · change ∀ t, (initNew P e c).2 = some t → t.token.Coherent
    unfold initNew
    split
    · rintro t ⟨⟩
    split
    · rintro t ⟨⟩
    dsimp only
    split
    · rintro t ⟨⟩
    · rintro t ⟨⟩
      exact Prog.coherent_run (Prog.coherent_run (coherent_created _))
  · rintro t' ⟨⟩
    exact Prog.coherent_run (hs _ rfl)

/-- A token in place of another: only its own slot is affected. -/
lemma Supervised.setToken (hs : Supervised l) {slotID : CK_SLOT_ID} {t : Option Token}
    (hg : Guarded l.sessionManager slotID (slotRoles t))
    (hc : ∀ t', t = some t' → t'.token.Coherent) : Supervised (l.setToken slotID t) := by
  refine ⟨fun s => ?_, fun s t' ht' => ?_⟩
  · rw [getToken_setToken]
    by_cases h : s = slotID
    · subst h
      rw [if_pos rfl]
      exact hg
    · rw [if_neg h]
      exact hs.guarded s
  · rw [getToken_setToken] at ht'
    by_cases h : s = slotID
    · rw [if_pos h] at ht'
      exact hc t' ht'
    · rw [if_neg h] at ht'
      exact hs.coherent s t' ht'

/-- Other sessions with the same roles. -/
lemma Supervised.of_tokens (hs : Supervised l) (ht : ∀ s, l'.getToken s = l.getToken s)
    (hg : ∀ s, Guarded l'.sessionManager s (slotRoles (l.getToken s))) : Supervised l' :=
  ⟨fun s => (ht s).symm ▸ hg s, fun s t h => hs.coherent s t ((ht s) ▸ h)⟩

/-- What a call may ask of a token. -/
def Offered (l : Library Obj) (slotID : CK_SLOT_ID) : Token.Request → Prop
  | .loginSO _ _ _ => l.sessionManager.haveSession slotID = true ∧
      l.sessionManager.haveROSession slotID = false
  | .loginUser _ _ _ => l.sessionManager.haveSession slotID = true
  | .setUserPIN _ _ _ => isSOLoggedIn (l.getToken slotID) = false
  | .setSOPIN _ _ _ | .initUserPIN _ _ | .unblockUserPIN _ _ =>
    isSOLoggedIn (l.getToken slotID) = true
  | .reAuthenticate _ _ | .setLocalPIN _ _ _ _ => True
  | .logout => False

/-- What a request does to the roles of its slot. -/
lemma guarded_request {slotID : CK_SLOT_ID} (hs : Supervised l) {q : Token.Request}
    (hq : q.logsIn = true → Offered l slotID q) {rv : CK_RV} {t : Option Token}
    (h : call q.null (q.prog P) (l.getToken slotID) = (rv, t)) :
    Guarded l.sessionManager slotID (slotRoles t) := by
  have hg := hs.guarded slotID
  by_cases hlog : q.logsIn = true
  · have hoff := hq hlog
    cases q with
    | loginSO r e pin =>
      rcases slotRoles_loginSO h with hr | hr | hr
      · exact hg.calm (.inl hr)
      · rw [hr]
        exact ⟨fun hn => absurd hoff.1 (by simp [hn]), by simp, fun _ => hoff.2⟩
      · exact hg.calm (.inr hr)
    | loginUser r e pin =>
      rcases slotRoles_loginUser h with hr | hr | hr
      · exact hg.calm (.inl hr)
      · rw [hr]
        exact ⟨fun hn => absurd hoff (by simp [Offered, hn]), by simp, fun hso => by cases hso⟩
      · exact hg.calm (.inr hr)
    | _ => cases hlog
  · exact hg.calm (calm_call hg.exclusive (Bool.eq_false_iff.2 hlog) h)

lemma supervised_request (hs : Supervised l) {slotID : CK_SLOT_ID} {q : Token.Request}
    (hq : q.logsIn = true → Offered l slotID q) : Supervised (l.request P slotID q).2 :=
  hs.setToken (guarded_request hs hq rfl) (coherent_request (hs.coherent slotID))

lemma slotRoles_logout (slotID : CK_SLOT_ID) :
    slotRoles ((l.logout P slotID).getToken slotID) = (false, false) := by
  unfold logout request
  rw [getToken_setToken, if_pos rfl]
  rcases l.getToken slotID with _ | ⟨token, _ | sdm⟩ <;> rfl

lemma getToken_logout_of_ne {slotID s : CK_SLOT_ID} (h : s ≠ slotID) :
    (l.logout P slotID).getToken s = l.getToken s := by
  unfold logout request
  rw [getToken_setToken, if_neg h]

/-- Closing the last sessions of a slot and logging out. -/
lemma supervised_closed (hs : Supervised l) {slotID : CK_SLOT_ID}
    (ht : ∀ s, l'.getToken s = l.getToken s)
    (hg : ∀ s, s ≠ slotID → Guarded l'.sessionManager s (slotRoles (l.getToken s))) :
    Supervised (l'.logout P slotID) := by
  refine ⟨fun s => ?_, fun s t h => ?_⟩
  · by_cases hsl : s = slotID
    · subst hsl
      rw [slotRoles_logout]
      exact guarded_none _ _
    · rw [getToken_logout_of_ne hsl, ht]
      exact hg s hsl
  · by_cases hsl : s = slotID
    · subst hsl
      unfold logout request at h
      rw [getToken_setToken, if_pos rfl] at h
      exact coherent_request (fun t' h' => hs.coherent s t' ((ht s) ▸ h')) t h
    · rw [getToken_logout_of_ne hsl, ht] at h
      exact hs.coherent s t h

end steps

/-! ### One call -/

section effects

variable {P : Primitives} {l l' : Library Obj}

lemma offered_checkLogin {r : Draws} {e : ResultWrites} {hSession userType : ℕ}
    {pPin : Option ByteString} {slotID : CK_SLOT_ID} {q : Token.Request}
    (h : l.checkLogin r e hSession userType pPin = some (.request slotID q)) :
    Offered l slotID q := by
  unfold checkLogin at h
  rcases hs : l.getSession hSession with _ | s
  · rw [hs] at h
    cases h
  rw [hs] at h
  rcases getSession_cases hs with rfl | ⟨place, session, rfl, -, hg⟩
  · cases h
  have hhave := haveSession_iff.2 ⟨place, session, hg, rfl⟩
  rcases pPin with _ | pin
  · cases h
  simp only [Option.bind_eq_bind, Option.bind_some] at h
  split at h
  · split at h
    · cases h
    · rename_i hro
      cases h
      exact ⟨hhave, by simpa using hro⟩
  split at h
  · cases h
    exact hhave
  split at h
  · split at h
    · cases h
    · cases h
      trivial
  · cases h

lemma offered_checkInitPIN {e : PinEnv} {hSession : ℕ} {pPin : Option ByteString}
    {slotID : CK_SLOT_ID} {q : Token.Request}
    (h : l.checkInitPIN e hSession pPin = some (.request slotID q)) : Offered l slotID q := by
  unfold checkInitPIN at h
  rcases hs : l.getSession hSession with _ | s
  · rw [hs] at h
    cases h
  rw [hs] at h
  rcases getSession_cases hs with rfl | ⟨place, session, rfl, -, hg⟩
  · cases h
  simp only [Option.bind_eq_bind, Option.bind_some] at h
  split at h
  · cases h
  rename_i hso
  rcases pPin with _ | userPIN
  · cases h
  dsimp only at h
  split at h
  swap
  · cases h
  split at h
  · cases h
  split at h
  · cases h
  · cases h
    exact so_of_getState.1 (not_not.1 hso)

lemma offered_checkSetPIN {e : PinEnv} {hSession : ℕ} {pOldPin pNewPin : Option ByteString}
    {slotID : CK_SLOT_ID} {q : Token.Request}
    (h : l.checkSetPIN e hSession pOldPin pNewPin = some (.request slotID q)) :
    Offered l slotID q := by
  unfold checkSetPIN at h
  rcases hs : l.getSession hSession with _ | s
  · rw [hs] at h
    cases h
  rw [hs] at h
  rcases getSession_cases hs with rfl | ⟨place, session, rfl, -, hg⟩
  · cases h
  simp only [Option.bind_eq_bind, Option.bind_some] at h
  rcases pOldPin with _ | oldPIN
  · cases h
  rcases pNewPin with _ | newPIN
  · cases h
  dsimp only at h
  split at h
  swap
  · cases h
  split at h
  · cases h
  split at h
  · rename_i hso
    split at h
    · cases h
    · rw [hso] at h
      cases h
      exact so_of_getState.1 hso
  · rename_i hso
    have hpublic : isSOLoggedIn (l.getToken session.slotID) = false :=
      Bool.eq_false_iff.2 fun h => hso (so_of_getState.2 h)
    split at h
    · cases h
    split at h
    · cases h
      exact hpublic
    · cases h
      exact hpublic
    · exact absurd ‹_› hso
    · cases h

lemma offered_checkUnblock {policy flags : RecordFile.Write} {hSession : ℕ}
    {slotID : CK_SLOT_ID} {q : Token.Request}
    (h : l.checkUnblockUserPIN policy flags hSession = some (.request slotID q)) :
    Offered l slotID q := by
  unfold checkUnblockUserPIN at h
  split at h
  · cases h
  rcases hs : l.getSession hSession with _ | s
  · rw [hs] at h
    cases h
  rw [hs] at h
  rcases getSession_cases hs with rfl | ⟨place, session, rfl, -, hg⟩
  · cases h
  simp only [Option.bind_eq_bind, Option.bind_some] at h
  split at h
  · cases h
  · rename_i hso
    cases h
    exact so_of_getState.1 (not_not.1 hso)

/-- **What the checks see to.** -/
lemma offered_of_checks {op : Op Obj} {slotID : CK_SLOT_ID} {q : Token.Request}
    (h : l.checks op = some (.request slotID q)) : Offered l slotID q := by
  cases op with
  | C_Login r e hSession userType pPin => exact offered_checkLogin h
  | C_InitPIN e hSession pPin => exact offered_checkInitPIN h
  | C_SetPIN e hSession pOldPin pNewPin => exact offered_checkSetPIN h
  | C_EX_UnblockUserPIN policy flags hSession => exact offered_checkUnblock h
  | C_EX_SetLocalPIN e s pUserPin pNewLocalPin ulLocalID =>
    have h' := Option.some.inj h
    unfold checkSetLocalPIN at h'
    split at h'
    · cases h'
    split at h'
    · cases h'
    split at h'
    · split at h'
      · cases h'
      · cases h'
        trivial
    · cases h'
  | _ => cases h

lemma getToken_of_slots {slotID : CK_SLOT_ID} {token : Option Token}
    (h : l.slots slotID = some token) : l.getToken slotID = token := by
  unfold getToken
  rw [h]
  rfl

/-- A change of what the sessions keep of their operations. -/
lemma Supervised.operation (hs : Supervised l) (place : ℕ) (active reAuthentication : Bool) :
    Supervised { l with
      sessionManager := l.sessionManager.setOperation place active reAuthentication } := by
  refine hs.of_tokens (fun s => rfl) fun s => (hs.guarded s).of_fewer (fun k t hk ht => ?_) ?_
  · obtain ⟨t', hk', hslot, -⟩ := getSession_of_setOperation hk
    exact haveSession_iff.2 ⟨k, t', hk', hslot.trans ht⟩
  · intro k t hk ht
    obtain ⟨t', hk', hslot, hrw⟩ := getSession_setOperation hk
    exact ⟨t', hk', hslot.trans ht, hrw⟩

lemma supervised_clear (hs : Supervised l) (hSession : ℕ) :
    Supervised (l.clearReAuthentication hSession) := by
  unfold clearReAuthentication
  split
  · exact hs.operation _ _ _
  · exact hs

/-- What touches neither the tokens nor the sessions. -/
lemma Supervised.of_same (hs : Supervised l) (ht : l'.slots = l.slots)
    (hm : l'.sessionManager = l.sessionManager) : Supervised l' := by
  have htok : ∀ s, l'.getToken s = l.getToken s := fun s => by unfold getToken; rw [ht]
  exact hs.of_tokens htok fun s => hm ▸ hs.guarded s

lemma makeObject_same (l : Library Obj) (slotID hSession : ℕ) (isOnToken isPrivate : Bool)
    (o : Obj) : (l.makeObject slotID hSession isOnToken isPrivate o).slots = l.slots ∧
      (l.makeObject slotID hSession isOnToken isPrivate o).sessionManager = l.sessionManager := by
  unfold makeObject
  split <;> exact ⟨rfl, rfl⟩

lemma destroyObject_same (l : Library Obj) (removed : Bool) (o : Obj) :
    (l.destroyObject removed o).2.slots = l.slots ∧
      (l.destroyObject removed o).2.sessionManager = l.sessionManager := by
  unfold destroyObject
  split <;> exact ⟨rfl, rfl⟩

/-- **One call.** -/
lemma supervised_effect (hs : Supervised l) {op : Op Obj} (he : Effect P l op l')
    (hgo : GoesThrough P l op) : Supervised l' := by
  cases he with
  | refused => exact hs
  | @opened slotID serial rw token place m hslot ho =>
    refine hs.of_tokens (fun s => rfl) fun s => (hs.guarded s).opened ho ?_
    rintro rfl
    rw [getToken_of_slots hslot]
    rfl
  | @closed hSession place session m hsess hm hmore =>
    refine hs.of_tokens (fun s => rfl) fun s => (hs.guarded s).of_fewer (fun k t hk ht => ?_) ?_
    · by_cases hkp : k = place
      · rcases getSession_cases hsess with h | ⟨place', session', hps, -, hg⟩
        · cases h
        · cases hps
          rw [hkp, hg] at hk
          cases hk
          exact ht ▸ hmore
      · exact haveSession_iff.2 ⟨k, t, (hm k t).2 ⟨hkp, hk⟩, ht⟩
    · exact fun k t hk ht => ⟨t, ((hm k t).1 hk).2, ht, rfl⟩
  | @closedLast hSession place session m hsess hm hlast =>
    refine supervised_closed hs (fun s => rfl) fun s hne => ?_
    refine (hs.guarded s).of_fewer (fun k t hk ht => ?_) ?_
    · refine haveSession_iff.2 ⟨k, t, (hm k t).2 ⟨?_, hk⟩, ht⟩
      rintro rfl
      rcases getSession_cases hsess with h | ⟨place', session', hps, -, hg⟩
      · cases h
      · cases hps
        rw [hg] at hk
        cases hk
        exact hne ht.symm
    · exact fun k t hk ht => ⟨t, ((hm k t).1 hk).2, ht, rfl⟩
  | @allClosed slotID =>
    refine supervised_closed hs (fun s => rfl) fun s hne => ?_
    refine (hs.guarded s).of_fewer (fun k t hk ht => ?_) ?_
    · exact haveSession_iff.2 ⟨k, t, getSession_closeAllSessions.2 ⟨hk, ht ▸ hne⟩, ht⟩
    · exact fun k t hk ht => ⟨t, (getSession_closeAllSessions.1 hk).1, ht, rfl⟩
  | operation => exact hs.operation _ _ _
  | asked hc => exact supervised_request hs fun _ => offered_of_checks hc
  | reAuthenticated hc =>
    exact supervised_clear (supervised_request hs fun _ => offered_of_checks hc) _
  | @loggedOut hSession place session hsess =>
    have hlogout : Supervised (l.logout P session.slotID) :=
      supervised_request hs (q := .logout) fun h => by cases h
    exact hlogout.of_same rfl rfl
  | @formatted e requested slotID soPIN pLabel token token' rv hslot hno hallowed hcreate =>
    have htoken := getToken_of_slots hslot
    have hcoh := htoken ▸ hs.coherent slotID
    have hcalm := calm_createToken hcoh (fun t ht => hgo hno hallowed t (htoken.trans ht)) hcreate
    exact hs.setToken ((htoken ▸ hs.guarded slotID).calm hcalm) (coherent_createToken hcoh hcreate)
  | @formattedExtended _ e slotID soPIN c token hslot hno =>
    have htoken := getToken_of_slots hslot
    exact hs.setToken ((htoken ▸ hs.guarded slotID).calm (calm_initTokenExtended e soPIN c token))
      (coherent_initTokenExtended (htoken ▸ hs.coherent slotID))
  | inserted hslot => exact hs.setToken (guarded_none _ _) fun t ht => nomatch ht
  | made => exact hs.of_same (makeObject_same _ _ _ _ _ _).1 (makeObject_same _ _ _ _ _ _).2
  | unmade =>
    exact hs.of_same ((destroyObject_same _ _ _).1.trans (makeObject_same _ _ _ _ _ _).1)
      ((destroyObject_same _ _ _).2.trans (makeObject_same _ _ _ _ _ _).2)
  | registered =>
    exact hs.of_same (makeObject_same _ _ _ _ _ _).1 (makeObject_same _ _ _ _ _ _).2
  | destroyed => exact hs.of_same (destroyObject_same _ _ _).1 (destroyObject_same _ _ _).2
  | searched hsess hpublic => exact (hs.operation _ _ _).of_same rfl rfl

end effects

/-! ### Whole runs -/

/-- **No login without a session.** In every run in which each `C_InitToken` that gets to log
the SO in goes through: nobody is logged in on a slot without session, the SO and the user are
never logged in together, and there is no read-only session where the SO is logged in. -/
theorem no_login_without_session {P : Primitives} {l₀ l : Library Obj}
    {calls : List (Op Obj × CK_RV)} (h₀ : Started l₀) (hrun : Run (StepThrough P) l₀ calls l)
    (slotID : CK_SLOT_ID) :
    (l.sessionManager.haveSession slotID = false →
      isSOLoggedIn (l.getToken slotID) = false ∧ isUserLoggedIn (l.getToken slotID) = false) ∧
    ¬ (isSOLoggedIn (l.getToken slotID) = true ∧ isUserLoggedIn (l.getToken slotID) = true) ∧
    (isSOLoggedIn (l.getToken slotID) = true → l.sessionManager.haveROSession slotID = false) := by
  have hs : Supervised l := hrun.invariant (supervised_started h₀) fun a c b ha hstep =>
    supervised_effect ha (effect_of_exec hstep.1) hstep.2
  have hg := hs.guarded slotID
  refine ⟨fun hn => ?_, fun hboth => hg.exclusive ?_, hg.readOnly⟩
  · exact Prod.mk.inj (hg.session hn)
  · exact Prod.ext hboth.1 hboth.2

/-! ### A format that stops half-way -/

/-- A library with one slot, for one token. -/
def holding (t : Token) : Library ℕ where
  fakeRutokenECP := false
  slots slotID := if slotID = 0 then some (some t) else none
  tokenObjects _ := none
  sessionManager := .empty
  handleManager := .empty
  sessionObjectStore := ⟨fun _ => ⟨0, 0, false, false⟩, ∅, ∅⟩

/-- A token with these blobs, fresh from its file. -/
def stored (soPINBlob : ByteString) (userPINBlob : Option ByteString) : Token :=
  ⟨File.settled { created [] with SOPIN := some soPINBlob, USERPIN := userPINBlob },
    some (create zeroDraws soPINBlob (userPINBlob.getD []))⟩

lemma getToken_holding (t : Token) (slotID : CK_SLOT_ID) :
    (holding t).getToken slotID = if slotID = 0 then some t else none := by
  change (if slotID = 0 then some (some t) else none).join = _
  split <;> rfl

lemma started_holding (soPINBlob : ByteString) (userPINBlob : Option ByteString) :
    Started (holding (stored soPINBlob userPINBlob)) := by
  refine ⟨rfl, rfl, ⟨rfl, rfl⟩, fun _ => rfl, fun slotID => ?_, fun slotID t ht => ?_⟩
  · rw [getToken_holding]
    split <;> rfl
  · rw [getToken_holding] at ht
    split at ht
    · cases ht
      exact fun _ => rfl
    · cases ht

/-- There is a blob under every PIN. -/
lemma exists_seals (P : Primitives) {p : ByteString} (hp : 0 < p.length) :
    ∃ key blob, key.length = 32 ∧ Seals P key p blob := by
  obtain ⟨m, key, -, hkey, hseals, -⟩ := setSOPIN_blank (P := P) (r := zeroDraws) hp
  exact ⟨key, m.soEncryptedKey, hkey, hseals⟩

theorem no_login_without_session_so :
    ∃ (l₀ l : Library ℕ) (calls : List (Op ℕ × CK_RV)), Started l₀ ∧
      Run (StepThrough plainPrimitives) l₀ calls l ∧ isSOLoggedIn (l.getToken 0) = true ∧
      l.sessionManager.haveROSession 0 = false := by
  obtain ⟨key, blob, -, hs⟩ := exists_seals plainPrimitives (p := factorySOPIN) (by decide)
  obtain ⟨a, sdm, hlogin, hroles⟩ := run_loginSO lawful_plainPrimitives
    (a := { created [] with SOPIN := some blob, USERPIN := none }) (p := {})
    (m := create zeroDraws blob []) rfl rfl (by decide) hs rfl zeroDraws
  have hcall : call CKR_GENERAL_ERROR (loginSO plainPrimitives zeroDraws .done factorySOPIN)
      (some (stored blob none)) = (CKR_OK, some ⟨File.settled a, some sdm⟩) := call_of_run hlogin
  have hopen : StepThrough plainPrimitives (holding (stored blob none))
      (.C_OpenSession 0 true true, CKR_OK)
      ((holding (stored blob none)).C_OpenSession 0 true true).2.2 := ⟨rfl, trivial⟩
  have hin : StepThrough plainPrimitives ((holding (stored blob none)).C_OpenSession 0 true true).2.2
      (.C_Login zeroDraws .done 1 CKU_SO (some factorySOPIN), CKR_OK)
      (((holding (stored blob none)).C_OpenSession 0 true true).2.2.setToken 0
        (call CKR_GENERAL_ERROR (loginSO plainPrimitives zeroDraws .done factorySOPIN)
          (some (stored blob none))).2) := by
    refine ⟨?_, trivial⟩
    exact congrArg (fun rv => some (rv, _)) (congrArg Prod.fst hcall)
  have hrun := (Run.single hopen).snoc hin
  have hso : isSOLoggedIn (call CKR_GENERAL_ERROR (loginSO plainPrimitives zeroDraws .done
      factorySOPIN) (some (stored blob none))).2 = true := by
    rw [hcall]
    exact congrArg Prod.fst hroles
  exact ⟨_, _, _, started_holding _ _, hrun, hso,
    (no_login_without_session (started_holding _ _) hrun 0).2.2 hso⟩

/-- The objects of the token cannot be removed. -/
def stoppedFormat : FormatEnv :=
  { doneFormat with reset := { doneFormat.reset with objects := false } }

/-- Where a format stops after its login, the SO stays logged in. -/
lemma createToken_stopped {P : Primitives} (hP : Lawful P) {key blob : ByteString}
    (hs : Seals P key factorySOPIN blob) :
    ∃ token sdm, createToken P stoppedFormat none factorySOPIN (some []) (some (stored blob none)) =
        some (CKR_DEVICE_ERROR, some ⟨token, some sdm⟩) ∧ sdm.soLoggedIn = true := by
  have hlogin := loginSO_of_seals hP (r := stoppedFormat.verifier) (m := create zeroDraws blob []) hs
  have hblob : (create zeroDraws blob []).soEncryptedKey.length > 0 := hs.ne_nil
  have hrun : ((recreate P stoppedFormat {} factorySOPIN [] (stored blob none).sdm).run
      (stored blob none).token).1 = some (CKR_DEVICE_ERROR,
        some (SecureDataManager.loginSO P stoppedFormat.verifier factorySOPIN
          (create zeroDraws blob [])).2) := by
    unfold recreate
    rw [show (stored blob none).token = File.settled _ from rfl, Prog.run_bind,
      run_pinLocked_settled]
    simp only [stored, Option.getD_none, hlogin, hblob, if_true]
    rfl
  have hcreate : createToken P stoppedFormat none factorySOPIN (some []) (some (stored blob none)) =
      ((recreate P stoppedFormat {} factorySOPIN [] (stored blob none).sdm).run
        (stored blob none).token).1.map fun r => (r.1, some ⟨((recreate P stoppedFormat {}
          factorySOPIN [] (stored blob none).sdm).run (stored blob none).token).2, r.2⟩) := rfl
  refine ⟨_, _, by rw [hcreate, hrun]; rfl, ?_⟩
  rw [hlogin]

theorem format_keeps_so_loggedIn :
    ∃ l₀ l₁ l₂ : Library ℕ, Started l₀ ∧
      l₀.exec plainPrimitives (.C_InitToken stoppedFormat none 0 (some factorySOPIN) (some [])) =
        some (CKR_DEVICE_ERROR, l₁) ∧
      l₁.sessionManager.haveSession 0 = false ∧ isSOLoggedIn (l₁.getToken 0) = true ∧
      l₁.exec plainPrimitives (.C_OpenSession 0 true true) = some (CKR_OK, l₂) ∧
      ∃ session, l₂.getSession 1 = some (some (1, session)) ∧
        l₂.getState session = CK_STATE.CKS_RW_SO_FUNCTIONS := by
  obtain ⟨key, blob, -, hs⟩ := exists_seals plainPrimitives (p := factorySOPIN) (by decide)
  obtain ⟨token, sdm, hcreate, hso⟩ := createToken_stopped lawful_plainPrimitives hs
  refine ⟨holding (stored blob none), (holding (stored blob none)).setToken 0
    (some ⟨token, some sdm⟩), _, started_holding _ _, ?_, rfl, ?_, rfl, ⟨0, true, false, false⟩, rfl,
    so_of_getState.2 ?_⟩
  · change (createToken plainPrimitives stoppedFormat none factorySOPIN (some [])
      (some (stored blob none))).bind _ = _
    rw [hcreate]
    rfl
  · exact hso
  · exact hso

end SoftHSM.Library
