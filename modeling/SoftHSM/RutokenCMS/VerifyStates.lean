import SoftHSM.Lib.Ledger
import SoftHSM.Lib.OrderedMap
import SoftHSM.Lib.Transition
import SoftHSM.RutokenCMS.Chain

/-!
The states of verifications, which are kept by session handle outside the sessions: any number of
threads, each in a call of which only the operations on the map and the checks of a session are
atomic.
-/

namespace SoftHSM.RutokenCMS

open CK_RV

/-! ### What `verifyInit` is given -/

def maxCms : ℕ := 16 * 1024 * 1024
def maxData : ℕ := 64 * 1024 * 1024
def maxCertificate : ℕ := 1024 * 1024

def ALL_CRL_CHECK : UInt64 := 2

/-- A buffer, or the size that comes with a null pointer. -/
structure CK_VENDOR_BUFFER where
  pData : Option ByteString
  nullSize : ℕ := 0

/-- An array of buffers, or the count that comes with a null pointer. -/
structure Buffers where
  source : Option (List CK_VENDOR_BUFFER)
  nullCount : ℕ := 0

structure CK_VENDOR_X509_STORE where
  trustedCertificates : Buffers
  certificates : Buffers
  crls : Buffers

def CK_VENDOR_BUFFER.copy (b : CK_VENDOR_BUFFER) : Option ByteString :=
  match b.pData with
  | some data => if maxCertificate < data.length then none else some data
  | none => if b.nullSize ≠ 0 then none else some []

/-- `copyBuffers`; `none` is `CKR_ARGUMENTS_BAD`. -/
def copyBuffers (b : Buffers) : Option (List ByteString) :=
  match b.source with
  | some source => if 256 < source.length then none else source.mapM CK_VENDOR_BUFFER.copy
  | none => if b.nullCount ≠ 0 then none else some []

structure InitArgs where
  cms : Option ByteString
  store : Option CK_VENDOR_X509_STORE
  crlMode : UInt64
  flags : CK_FLAGS

/-- The checks that come before the one of the session. -/
def InitArgs.bad (a : InitArgs) : Bool :=
  a.cms.all (fun cms => cms.length = 0 || maxCms < cms.length) || ALL_CRL_CHECK < a.crlMode ||
    a.flags &&& ~~~(CKF_VENDOR_DO_NOT_USE_INTERNAL_CMS_CERTS ||| CKF_VENDOR_ALLOW_PARTIAL_CHAINS |||
      CKF_VENDOR_CHECK_SIGNATURE_ONLY ||| CKF_VENDOR_USE_TRUSTED_CERTS_FROM_TOKEN) ≠ 0 ||
    a.store.isNone && a.flags = 0

/-- The state that `verifyInit` makes, without the trusted certificates of the token; which
messages `decodeCms` takes is given. -/
def InitArgs.state (isCms : ByteString → Bool) (a : InitArgs) : Except CK_RV VerifyState :=
  let cms := a.cms.getD []
  if !isCms cms then .error CKR_SIGNATURE_INVALID
  else
    match a.store with
    | none => .ok ⟨cms, [], [], [], [], a.crlMode, a.flags, false⟩
    | some store =>
      match copyBuffers store.trustedCertificates, copyBuffers store.certificates,
          copyBuffers store.crls with
      | some trusted, some certificates, some crls =>
        .ok ⟨cms, [], trusted, certificates, crls, a.crlMode, a.flags, false⟩
      | _, _, _ => .error CKR_ARGUMENTS_BAD

/-! ### The calls, step by step -/

/-- Where a thread is in a call. -/
inductive Pending
  | searching (hSession : ℕ) (state : VerifyState)
  | ready (hSession : ℕ) (state : VerifyState)
  | verify (hSession : ℕ)
  | verifyUpdate (hSession : ℕ) (data : ByteString)
  | verifyFinal (hSession : ℕ)
  | closeSession (hSession : ℕ)
  | closeAllSessions (slotID : CK_SLOT_ID)
  | finalize

/-- The sessions that are open, with their slots, the map of states, and the threads. -/
structure System where
  sessions : ℕ → Option CK_SLOT_ID
  states : List (ℕ × VerifyState)
  pending : ℕ → Option Pending

namespace System

def setPending (s : System) (t : ℕ) (p : Option Pending) : System :=
  { s with pending := Function.update s.pending t p }

def isOpen (s : System) (hSession : ℕ) : Bool := (s.sessions hSession).isSome

end System

/-- A step of a thread. What is outside is given: what the search of the token finds, the verdict
on a message, and whether a call that closes sessions gets through. -/
inductive Event
  | openSession (hSession : ℕ) (slotID : CK_SLOT_ID)
  | verifyInit (t hSession : ℕ) (a : InitArgs)
  | found (t : ℕ) (r : Except CK_RV (Option ByteString))
  | insert (t : ℕ)
  | verify (t hSession : ℕ) (pointers : Bool)
  | verifyUpdate (t hSession : ℕ) (data : Option ByteString) (nullLen : ℕ)
  | verifyFinal (t hSession : ℕ) (pointers : Bool)
  | underLock (t : ℕ) (verdict : VerifyState → Bool → CK_RV)
  | closeSession (t hSession : ℕ)
  | closeAllSessions (t : ℕ) (slotID : CK_SLOT_ID)
  | finalize (t : ℕ)
  | logout
  | close (t : ℕ) (getsThrough : Bool)

def Event.thread : Event → Option ℕ
  | .openSession _ _ | .logout => none
  | .verifyInit t _ _ | .found t _ | .insert t | .verify t _ _ | .verifyUpdate t _ _ _
  | .verifyFinal t _ _ | .underLock t _ | .closeSession t _ | .closeAllSessions t _ | .finalize t
  | .close t _ => some t

/-- What comes of a step: it was not possible, the call goes on, it has returned, or what it has done
to the map. `took` has the state, whether the data is detached, and whether the message has been
verified with it. -/
inductive Outcome
  | impossible
  | goesOn
  | returned (rv : CK_RV)
  | inserted (hSession : ℕ) (state : VerifyState)
  | appended (hSession : ℕ) (data : ByteString)
  | took (hSession : ℕ) (state : VerifyState) (detached verified : Bool) (rv : CK_RV)
  | cleared (hSession : ℕ)
  | clearedAll

open Outcome

/-- The call has not returned. -/
def Outcome.goes : Outcome → Bool
  | impossible | goesOn => true
  | _ => false

/-- `maxData - size`, of the unsigned numbers. -/
def room (size : ℕ) : UInt64 := UInt64.ofNat maxData - UInt64.ofNat size

/-- A call that a thread begins. -/
def begins (s : System) (t : ℕ) (p : Except CK_RV Pending) : Outcome × System :=
  match s.pending t, p with
  | some _, _ => (impossible, s)
  | none, .error rv => (returned rv, s)
  | none, .ok p => (goesOn, s.setPending t (some p))

/-- `activeSession`, and then the call goes on. -/
def ifActive (s : System) (hSession : ℕ) (p : Except CK_RV Pending) : Except CK_RV Pending :=
  if !s.isOpen hSession then .error CKR_SESSION_HANDLE_INVALID else p

/-- `verify` and `verifyFinal` under the lock and after it. -/
def take (s : System) (t hSession : ℕ) (detached : Bool)
    (verdict : VerifyState → Bool → CK_RV) : Outcome × System :=
  match OrderedMap.get hSession s.states with
  | none => (returned CKR_OPERATION_NOT_INITIALIZED, s.setPending t none)
  | some state =>
    let s := { s.setPending t none with states := OrderedMap.erase hSession s.states }
    if state.updated ≠ detached then
      (took hSession state detached false CKR_ARGUMENTS_BAD, s)
    else (took hSession state detached true (verdict state detached), s)

/-- The sessions that a call closes. -/
def Pending.closes (s : System) (hSession : ℕ) : Pending → Bool
  | .closeSession hSession' => hSession = hSession'
  | .closeAllSessions slotID => s.sessions hSession = some slotID
  | .finalize => true
  | _ => false

def exec (isCms : ByteString → Bool) (s : System) : Event → Outcome × System
  | .openSession hSession slotID =>
    if s.isOpen hSession then (impossible, s)
    else (goesOn, { s with sessions := Function.update s.sessions hSession (some slotID) })
  | .verifyInit t hSession a =>
    begins s t <|
      if a.bad then .error CKR_ARGUMENTS_BAD
      else ifActive s hSession <|
        match a.state isCms with
        | .error rv => .error rv
        | .ok state =>
          if a.flags &&& CKF_VENDOR_USE_TRUSTED_CERTS_FROM_TOKEN ≠ 0 then
            .ok (.searching hSession state)
          else .ok (.ready hSession state)
  | .found t r =>
    match s.pending t with
    | some (.searching hSession state) =>
      if !s.isOpen hSession then (returned CKR_SESSION_HANDLE_INVALID, s.setPending t none)
      else
        match r with
        | .error rv => (returned rv, s.setPending t none)
        | .ok none => (goesOn, s.setPending t (some (.ready hSession state)))
        | .ok (some der) =>
          (goesOn, s.setPending t
            (some (.searching hSession { state with trusted := state.trusted ++ [der] })))
    | _ => (impossible, s)
  | .insert t =>
    match s.pending t with
    | some (.ready hSession state) =>
      let (ok, states) := OrderedMap.insert hSession state s.states
      if ok then (inserted hSession state, { s.setPending t none with states := states })
      else (returned CKR_OPERATION_ACTIVE, s.setPending t none)
    | _ => (impossible, s)
  | .verify t hSession pointers =>
    begins s t <|
      if !pointers then .error CKR_ARGUMENTS_BAD
      else ifActive s hSession (.ok (.verify hSession))
  | .verifyUpdate t hSession data nullLen =>
    begins s t <|
      if data.isNone && nullLen ≠ 0 then .error CKR_ARGUMENTS_BAD
      else ifActive s hSession (.ok (.verifyUpdate hSession (data.getD [])))
  | .verifyFinal t hSession pointers =>
    begins s t <|
      if !pointers then .error CKR_ARGUMENTS_BAD
      else ifActive s hSession (.ok (.verifyFinal hSession))
  | .underLock t verdict =>
    match s.pending t with
    | some (.verify hSession) => take s t hSession false verdict
    | some (.verifyFinal hSession) => take s t hSession true verdict
    | some (.verifyUpdate hSession data) =>
      match OrderedMap.get hSession s.states with
      | none => (returned CKR_OPERATION_NOT_INITIALIZED, s.setPending t none)
      | some state =>
        if (room state.data.length).toNat < data.length then
          (returned CKR_DATA_LEN_RANGE, s.setPending t none)
        else
          let state := { state with data := state.data ++ data, updated := true }
          (appended hSession data,
            { s.setPending t none with states := OrderedMap.put hSession state s.states })
    | _ => (impossible, s)
  | .closeSession t hSession =>
    match s.pending t with
    | some _ => (impossible, s)
    | none =>
      (cleared hSession, { s.setPending t (some (.closeSession hSession)) with
        states := OrderedMap.erase hSession s.states })
  | .closeAllSessions t slotID =>
    match s.pending t with
    | some _ => (impossible, s)
    | none => (clearedAll, { s.setPending t (some (.closeAllSessions slotID)) with states := [] })
  | .finalize t =>
    match s.pending t with
    | some _ => (impossible, s)
    | none => (clearedAll, { s.setPending t (some .finalize) with states := [] })
  | .logout => (clearedAll, { s with states := [] })
  | .close t getsThrough =>
    match s.pending t with
    | some p =>
      match p with
      | .closeSession _ | .closeAllSessions _ | .finalize =>
        if getsThrough then
          (goesOn, { s.setPending t none with
            sessions := fun h => if p.closes s h then none else s.sessions h })
        else (goesOn, s.setPending t none)
      | _ => (impossible, s)
    | none => (impossible, s)

/-! ### What a step does to the map -/

section step

variable {isCms : ByteString → Bool} {s s' : System} {e : Event} {o : Outcome}

/-- What an outcome says of the map. -/
def Acts (s : System) (e : Event) (o : Outcome) (s' : System) : Prop :=
  match o with
  | impossible => s' = s
  | goesOn | returned _ => s'.states = s.states
  | inserted hSession state => OrderedMap.get hSession s.states = none ∧
      s'.states = OrderedMap.put hSession state s.states ∧
      ∃ t, e = .insert t ∧ s.pending t = some (.ready hSession state)
  | appended hSession data => ∃ state, OrderedMap.get hSession s.states = some state ∧
      data.length ≤ (room state.data.length).toNat ∧
      s'.states = OrderedMap.put hSession
        { state with data := state.data ++ data, updated := true } s.states
  | took hSession state detached verified rv => OrderedMap.get hSession s.states = some state ∧
      s'.states = OrderedMap.erase hSession s.states ∧ ∃ t verdict, e = .underLock t verdict ∧
        s.pending t = some (if detached then .verifyFinal hSession else .verify hSession) ∧
        if state.updated = detached then verified = true ∧ rv = verdict state detached
        else verified = false ∧ rv = CKR_ARGUMENTS_BAD
  | cleared hSession => s'.states = OrderedMap.erase hSession s.states
  | clearedAll => s'.states = []

lemma acts_begins {t : ℕ} {p : Except CK_RV Pending} (h : begins s t p = (o, s')) :
    Acts s e o s' := by
  unfold begins at h
  split at h <;> cases h <;> rfl

lemma acts_take {t hSession : ℕ} {detached : Bool} {verdict : VerifyState → Bool → CK_RV}
    (he : e = .underLock t verdict)
    (hp : s.pending t = some (if detached then .verifyFinal hSession else .verify hSession))
    (h : take s t hSession detached verdict = (o, s')) : Acts s e o s' := by
  unfold take at h
  split at h
  · cases h
    rfl
  · rename_i state hget
    dsimp only at h
    split at h
    · rename_i hupdated
      cases h
      refine ⟨hget, rfl, t, verdict, he, hp, ?_⟩
      rw [if_neg hupdated]
      exact ⟨rfl, rfl⟩
    · rename_i hupdated
      cases h
      refine ⟨hget, rfl, t, verdict, he, hp, ?_⟩
      rw [if_pos (not_not.1 hupdated)]
      exact ⟨rfl, rfl⟩

/-- **What a step does to the map** is what its outcome says. -/
theorem exec_acts (h : exec isCms s e = (o, s')) : Acts s e o s' := by
  cases e with
  | openSession hSession slotID =>
    rw [exec] at h
    split at h <;> cases h <;> rfl
  | verifyInit t hSession a => exact acts_begins h
  | found t r =>
    rw [exec] at h
    split at h
    · split at h
      · cases h
        rfl
      · split at h <;> cases h <;> rfl
    · cases h
      rfl
  | insert t =>
    rw [exec] at h
    split at h
    · rename_i hSession state hp
      unfold OrderedMap.insert at h
      cases hget : OrderedMap.get hSession s.states with
      | none =>
        rw [hget] at h
        cases h
        exact ⟨hget, rfl, t, rfl, hp⟩
      | some state' =>
        rw [hget] at h
        cases h
        rfl
    · cases h
      rfl
  | verify t hSession pointers => exact acts_begins h
  | verifyUpdate t hSession data nullLen => exact acts_begins h
  | verifyFinal t hSession pointers => exact acts_begins h
  | underLock t verdict =>
    rw [exec] at h
    split at h
    · rename_i hp
      exact acts_take rfl (by exact hp) h
    · rename_i hp
      exact acts_take rfl (by exact hp) h
    · split at h
      · cases h
        rfl
      · rename_i state hget
        split at h
        · cases h
          rfl
        · rename_i hroom
          cases h
          exact ⟨state, hget, not_lt.1 hroom, rfl⟩
    · cases h
      rfl
  | closeSession t hSession =>
    rw [exec] at h
    split at h <;> cases h <;> rfl
  | closeAllSessions t slotID =>
    rw [exec] at h
    split at h <;> cases h <;> rfl
  | finalize t =>
    rw [exec] at h
    split at h <;> cases h <;> rfl
  | logout =>
    cases h
    rfl
  | close t getsThrough =>
    rw [exec] at h
    split at h
    · split at h
      · split at h <;> cases h <;> rfl
      · split at h <;> cases h <;> rfl
      · split at h <;> cases h <;> rfl
      · cases h
        rfl
    · cases h
      rfl

end step

/-! ### The history of a state -/

/-- What has happened to the state of a session. -/
def ofSession (hSession : ℕ) : Ledger (Event × Outcome) VerifyState where
  opens x :=
    match x.2 with
    | inserted h state => if h = hSession then some state else none
    | _ => none
  ends x :=
    match x.2 with
    | took h _ _ _ _ | cleared h => h = hSession
    | clearedAll => true
    | _ => false
  adds state x :=
    match x.2 with
    | appended h data =>
      if h = hSession then { state with data := state.data ++ data, updated := true } else state
    | _ => state

/-- What the `verifyInit` has collected that a thread is in, and the session. -/
def ofThread (isCms : ByteString → Bool) (t : ℕ) : Ledger (Event × Outcome) (ℕ × VerifyState) where
  opens x :=
    match x.1, x.2 with
    | .verifyInit t' hSession a, goesOn =>
      if t' = t then (a.state isCms).toOption.map (hSession, ·) else none
    | _, _ => none
  ends x := x.1.thread = some t && !x.2.goes
  adds r x :=
    match x.1, x.2 with
    | .found t' (.ok (some der)), goesOn =>
      if t' = t then (r.1, { r.2 with trusted := r.2.trusted ++ [der] }) else r
    | _, _ => r

/-- What a `verifyInit` has collected, by where it is. -/
def Pending.collected : Pending → Option (ℕ × VerifyState)
  | .searching hSession state | .ready hSession state => some (hSession, state)
  | _ => none

def System.collected (s : System) (t : ℕ) : Option (ℕ × VerifyState) :=
  (s.pending t).bind Pending.collected

section history

variable {isCms : ByteString → Bool} {s s' : System} {e : Event} {o : Outcome}

lemma get_states (hexec : exec isCms s e = (o, s')) (hSession : ℕ) :
    OrderedMap.get hSession s'.states =
      (ofSession hSession).enter (OrderedMap.get hSession s.states) (e, o) := by
  have hacts := exec_acts hexec
  have hkeep : ∀ {o}, (ofSession hSession).ends (e, o) = false →
      (ofSession hSession).opens (e, o) = none →
      (∀ state, (ofSession hSession).adds state (e, o) = state) → ∀ {m : Option VerifyState},
      (ofSession hSession).enter m (e, o) = m := by
    intro o he ho ha m
    rw [Ledger.enter_of_between he ho]
    cases m with
    | none => rfl
    | some state => rw [Option.map_some, ha]
  cases o with
  | impossible => rw [hkeep rfl rfl fun _ => rfl, show s' = s from hacts]
  | goesOn => rw [hkeep rfl rfl fun _ => rfl, show s'.states = s.states from hacts]
  | returned rv => rw [hkeep rfl rfl fun _ => rfl, show s'.states = s.states from hacts]
  | inserted h' state =>
    obtain ⟨hnone, hput, -⟩ := hacts
    rw [hput]
    by_cases hh : h' = hSession
    · subst hh
      rw [OrderedMap.get_put_self, Ledger.enter_of_opens rfl (if_pos rfl)]
    · rw [OrderedMap.get_put_of_ne (Ne.symm hh), hkeep (o := inserted h' state) rfl
        (if_neg hh) fun _ => rfl]
  | appended h' data =>
    obtain ⟨state, hget, -, hput⟩ := hacts
    rw [hput, Ledger.enter_of_between rfl rfl]
    by_cases hh : h' = hSession
    · subst hh
      rw [OrderedMap.get_put_self, hget, Option.map_some]
      simp [ofSession]
    · rw [OrderedMap.get_put_of_ne (Ne.symm hh)]
      cases OrderedMap.get hSession s.states <;> simp [ofSession, hh]
  | took h' state detached verified rv =>
    obtain ⟨-, herase, -⟩ := hacts
    rw [herase, OrderedMap.get_erase]
    by_cases hh : h' = hSession
    · rw [if_pos hh.symm, Ledger.enter_of_ends (by simp [ofSession, hh])]
    · rw [if_neg (Ne.symm hh), hkeep (by simp [ofSession, hh]) rfl fun _ => rfl]
  | cleared h' =>
    rw [show s'.states = OrderedMap.erase h' s.states from hacts, OrderedMap.get_erase]
    by_cases hh : h' = hSession
    · rw [if_pos hh.symm, Ledger.enter_of_ends (by simp [ofSession, hh])]
    · rw [if_neg (Ne.symm hh), hkeep (by simp [ofSession, hh]) rfl fun _ => rfl]
  | clearedAll =>
    rw [show s'.states = [] from hacts, Ledger.enter_of_ends rfl]
    rfl

/-- A thread moves, or none does. -/
def Moves (s : System) (e : Event) (s' : System) : Prop :=
  s'.pending = s.pending ∨
    ∃ t p, e.thread = some t ∧ s'.pending = Function.update s.pending t p

lemma moves_begins {t : ℕ} {p : Except CK_RV Pending} (ht : e.thread = some t)
    (h : begins s t p = (o, s')) : Moves s e s' := by
  unfold begins at h
  split at h <;> cases h
  · exact .inl rfl
  · exact .inl rfl
  · exact .inr ⟨t, _, ht, rfl⟩

lemma moves_take {t hSession : ℕ} {detached : Bool} {verdict : VerifyState → Bool → CK_RV}
    (ht : e.thread = some t) (h : take s t hSession detached verdict = (o, s')) :
    Moves s e s' := by
  unfold take at h
  split at h
  · cases h
    exact .inr ⟨t, _, ht, rfl⟩
  · dsimp only at h
    split at h <;> cases h <;> exact .inr ⟨t, _, ht, rfl⟩

lemma exec_moves (h : exec isCms s e = (o, s')) : Moves s e s' := by
  cases e with
  | openSession hSession slotID =>
    rw [exec] at h
    split at h <;> cases h <;> exact .inl rfl
  | verifyInit t hSession a => exact moves_begins rfl h
  | found t r =>
    rw [exec] at h
    split at h
    · split at h
      · cases h
        exact .inr ⟨t, _, rfl, rfl⟩
      · split at h <;> cases h <;> exact .inr ⟨t, _, rfl, rfl⟩
    · cases h
      exact .inl rfl
  | insert t =>
    rw [exec] at h
    split at h
    · dsimp only at h
      split at h <;> cases h <;> exact .inr ⟨t, _, rfl, rfl⟩
    · cases h
      exact .inl rfl
  | verify t hSession pointers => exact moves_begins rfl h
  | verifyUpdate t hSession data nullLen => exact moves_begins rfl h
  | verifyFinal t hSession pointers => exact moves_begins rfl h
  | underLock t verdict =>
    rw [exec] at h
    split at h
    · exact moves_take rfl h
    · exact moves_take rfl h
    · split at h
      · cases h
        exact .inr ⟨t, _, rfl, rfl⟩
      · split at h <;> cases h <;> exact .inr ⟨t, _, rfl, rfl⟩
    · cases h
      exact .inl rfl
  | closeSession t hSession =>
    rw [exec] at h
    split at h <;> cases h
    · exact .inl rfl
    · exact .inr ⟨t, _, rfl, rfl⟩
  | closeAllSessions t slotID =>
    rw [exec] at h
    split at h <;> cases h
    · exact .inl rfl
    · exact .inr ⟨t, _, rfl, rfl⟩
  | finalize t =>
    rw [exec] at h
    split at h <;> cases h
    · exact .inl rfl
    · exact .inr ⟨t, _, rfl, rfl⟩
  | logout =>
    cases h
    exact .inl rfl
  | close t getsThrough =>
    rw [exec] at h
    split at h
    · split at h
      · split at h <;> cases h <;> exact .inr ⟨t, _, rfl, rfl⟩
      · split at h <;> cases h <;> exact .inr ⟨t, _, rfl, rfl⟩
      · split at h <;> cases h <;> exact .inr ⟨t, _, rfl, rfl⟩
      · cases h
        exact .inl rfl
    · cases h
      exact .inl rfl

/-- A thread stays where it is while others go on. -/
lemma pending_of_ne {t : ℕ} (h : exec isCms s e = (o, s')) (ht : e.thread ≠ some t) :
    s'.pending t = s.pending t := by
  rcases exec_moves h with h | ⟨t', p, ht', h⟩
  · rw [h]
  · rw [h, Function.update_of_ne]
    rintro rfl
    exact ht ht'

@[simp] lemma collected_setPending (s : System) (t : ℕ) (p : Option Pending) :
    (s.setPending t p).collected t = p.bind Pending.collected := by
  simp [System.collected, System.setPending]

@[simp] lemma collected_states (s : System) (t : ℕ) (states : List (ℕ × VerifyState)) :
    System.collected { s with states := states } t = s.collected t := rfl

lemma collected_eq {t : ℕ} {p : Pending} (h : s.pending t = some p) :
    s.collected t = p.collected := by
  rw [System.collected, h, Option.bind_some]

lemma enter_impossible {t : ℕ} (c : Option (ℕ × VerifyState)) :
    (ofThread isCms t).enter c (e, impossible) = c := by
  rw [Ledger.enter_of_between (by simp [ofThread, Outcome.goes]) (by cases e <;> rfl)]
  cases c with
  | none => rfl
  | some r =>
    rw [Option.map_some]
    cases e with
    | found t' r' =>
      cases r' with
      | error rv => rfl
      | ok der => cases der <;> rfl
    | _ => rfl

lemma enter_ends {t : ℕ} (c : Option (ℕ × VerifyState)) (ht : e.thread = some t)
    (ho : o.goes = false) : (ofThread isCms t).enter c (e, o) = none :=
  Ledger.enter_of_ends (by simp [ofThread, ht, ho]) c

lemma enter_goesOn_none {t : ℕ} (he : ∀ h a, e ≠ .verifyInit t h a) :
    (ofThread isCms t).enter none (e, goesOn) = none := by
  rw [Ledger.enter_of_between (by simp [ofThread, Outcome.goes])]
  · rfl
  · cases e with
    | verifyInit t' h a => exact if_neg fun ht => he h a (by rw [ht])
    | _ => rfl

lemma collected_begins {t : ℕ} {p : Except CK_RV Pending} (ht : e.thread = some t)
    (hp : ∀ p', p = .ok p' → p'.collected = (ofThread isCms t).enter none (e, goesOn))
    (h : begins s t p = (o, s')) :
    s'.collected t = (ofThread isCms t).enter (s.collected t) (e, o) := by
  unfold begins at h
  split at h
  · cases h
    rw [enter_impossible]
  · rename_i hnone
    cases h
    rw [enter_ends _ ht rfl, System.collected, hnone, Option.bind_none]
  · rename_i p' hnone
    cases h
    rw [collected_setPending, Option.bind_some, hp p' rfl, System.collected, hnone,
      Option.bind_none]

lemma collected_take {t hSession : ℕ} {detached : Bool} {verdict : VerifyState → Bool → CK_RV}
    (ht : e.thread = some t) (h : take s t hSession detached verdict = (o, s')) :
    s'.collected t = (ofThread isCms t).enter (s.collected t) (e, o) := by
  unfold take at h
  split at h
  · cases h
    rw [enter_ends _ ht rfl, collected_setPending, Option.bind_none]
  · dsimp only at h
    split at h <;> cases h
    · rw [enter_ends _ ht rfl, collected_states, collected_setPending, Option.bind_none]
    · rw [enter_ends _ ht rfl, collected_states, collected_setPending, Option.bind_none]

lemma of_ifActive {hSession : ℕ} {p : Except CK_RV Pending} {p' : Pending}
    (h : ifActive s hSession p = .ok p') : s.isOpen hSession = true ∧ p = .ok p' := by
  unfold ifActive at h
  split at h
  · cases h
  · rename_i hopen
    exact ⟨by simpa using hopen, h⟩

/-- Where a thread is after its step, as far as a `verifyInit` is concerned. -/
lemma collected_self {t : ℕ} (hexec : exec isCms s e = (o, s')) (ht : e.thread = some t) :
    s'.collected t = (ofThread isCms t).enter (s.collected t) (e, o) := by
  cases e with
  | openSession hSession slotID => cases ht
  | logout => cases ht
  | verifyInit t' hSession a =>
    cases ht
    refine collected_begins rfl (fun p' hp => ?_) hexec
    have hstate : p'.collected = (a.state isCms).toOption.map (hSession, ·) := by
      split at hp
      · cases hp
      · obtain ⟨-, hp⟩ := of_ifActive hp
        split at hp
        · cases hp
        · rename_i state hstate
          rw [hstate]
          split at hp <;> cases hp <;> rfl
    rw [hstate, Ledger.enter, if_neg (by simp [ofThread, Outcome.goes])]
    simp [ofThread]
  | found t' r =>
    cases ht
    rw [exec] at hexec
    split at hexec
    · rename_i hSession state hp
      rw [collected_eq hp]
      split at hexec
      · cases hexec
        rw [enter_ends _ rfl rfl, collected_setPending, Option.bind_none]
      · split at hexec
        · cases hexec
          rw [enter_ends _ rfl rfl, collected_setPending, Option.bind_none]
        · cases hexec
          rw [collected_setPending, Ledger.enter_of_between
            (by simp [ofThread, Outcome.goes]) rfl]
          rfl
        · cases hexec
          rw [collected_setPending, Ledger.enter_of_between
            (by simp [ofThread, Outcome.goes]) rfl]
          simp [ofThread, Pending.collected]
    · cases hexec
      rw [enter_impossible]
  | insert t' =>
    cases ht
    rw [exec] at hexec
    split at hexec
    · dsimp only at hexec
      split at hexec <;> cases hexec
      · rw [enter_ends _ rfl rfl, collected_states, collected_setPending, Option.bind_none]
      · rw [enter_ends _ rfl rfl, collected_setPending, Option.bind_none]
    · cases hexec
      rw [enter_impossible]
  | verify t' hSession pointers =>
    cases ht
    refine collected_begins rfl (fun p' hp => ?_) hexec
    rw [enter_goesOn_none fun h a he => by cases he]
    split at hp
    · cases hp
    · obtain ⟨-, hp⟩ := of_ifActive hp
      cases hp
      rfl
  | verifyUpdate t' hSession data nullLen =>
    cases ht
    refine collected_begins rfl (fun p' hp => ?_) hexec
    rw [enter_goesOn_none fun h a he => by cases he]
    split at hp
    · cases hp
    · obtain ⟨-, hp⟩ := of_ifActive hp
      cases hp
      rfl
  | verifyFinal t' hSession pointers =>
    cases ht
    refine collected_begins rfl (fun p' hp => ?_) hexec
    rw [enter_goesOn_none fun h a he => by cases he]
    split at hp
    · cases hp
    · obtain ⟨-, hp⟩ := of_ifActive hp
      cases hp
      rfl
  | underLock t' verdict =>
    cases ht
    rw [exec] at hexec
    split at hexec
    · exact collected_take rfl hexec
    · exact collected_take rfl hexec
    · split at hexec
      · cases hexec
        rw [enter_ends _ rfl rfl, collected_setPending, Option.bind_none]
      · split at hexec <;> cases hexec
        · rw [enter_ends _ rfl rfl, collected_setPending, Option.bind_none]
        · rw [enter_ends _ rfl rfl, collected_states, collected_setPending, Option.bind_none]
    · cases hexec
      rw [enter_impossible]
  | closeSession t' hSession =>
    cases ht
    rw [exec] at hexec
    split at hexec <;> cases hexec
    · rw [enter_impossible]
    · rw [enter_ends _ rfl rfl, collected_states, collected_setPending]
      rfl
  | closeAllSessions t' slotID =>
    cases ht
    rw [exec] at hexec
    split at hexec <;> cases hexec
    · rw [enter_impossible]
    · rw [enter_ends _ rfl rfl, collected_states, collected_setPending]
      rfl
  | finalize t' =>
    cases ht
    rw [exec] at hexec
    split at hexec <;> cases hexec
    · rw [enter_impossible]
    · rw [enter_ends _ rfl rfl, collected_states, collected_setPending]
      rfl
  | close t' getsThrough =>
    cases ht
    have hdone : ∀ {p : Pending} {s'' : System}, p.collected = none → s''.pending t = none →
        s''.collected t = (ofThread isCms t).enter p.collected (.close t getsThrough, goesOn) := by
      intro p s'' hp hs
      rw [hp, enter_goesOn_none fun h a he => (by cases he), System.collected, hs,
        Option.bind_none]
    have hself : (s.setPending t none).pending t = none := Function.update_self ..
    rw [exec] at hexec
    split at hexec
    · rename_i p hp
      split at hexec
      · rw [collected_eq hp]
        split at hexec <;> cases hexec <;> exact hdone rfl hself
      · rw [collected_eq hp]
        split at hexec <;> cases hexec <;> exact hdone rfl hself
      · rw [collected_eq hp]
        split at hexec <;> cases hexec <;> exact hdone rfl hself
      · cases hexec
        rw [enter_impossible]
    · cases hexec
      rw [enter_impossible]

/-- What a thread has collected is not another's. -/
lemma collected_of_ne {t : ℕ} (hexec : exec isCms s e = (o, s')) (ht : e.thread ≠ some t) :
    s'.collected t = (ofThread isCms t).enter (s.collected t) (e, o) := by
  have hends : (ofThread isCms t).ends (e, o) = false := by simp [ofThread, ht]
  have hopens : (ofThread isCms t).opens (e, o) = none := by
    cases e with
    | verifyInit t' h a =>
      cases o with
      | goesOn => exact if_neg fun hh => ht (congrArg some hh)
      | _ => rfl
    | _ => rfl
  have hadds : ∀ r, (ofThread isCms t).adds r (e, o) = r := by
    intro r
    cases e with
    | found t' r' =>
      cases r' with
      | error rv => rfl
      | ok der =>
        cases der with
        | none => rfl
        | some der =>
          cases o with
          | goesOn => exact if_neg fun hh => ht (congrArg some hh)
          | _ => rfl
    | _ => rfl
  rw [Ledger.enter_of_between hends hopens, System.collected, pending_of_ne hexec ht,
    ← System.collected]
  cases s.collected t with
  | none => rfl
  | some r => rw [Option.map_some, hadds]

lemma get_collected (hexec : exec isCms s e = (o, s')) (t : ℕ) :
    s'.collected t = (ofThread isCms t).enter (s.collected t) (e, o) :=
  (em (e.thread = some t)).elim (collected_self hexec) (collected_of_ne hexec)

end history

end SoftHSM.RutokenCMS
