import SoftHSM.Library.SearchAgrees

/-!
Searches over whole runs of calls. What a search has found is handed out in order, each handle
once, however the calls of `C_FindObjects` cut it, and whatever is read or searched for in other
sessions in between.
-/

set_option linter.unusedSectionVars false

namespace SoftHSM.Search

open CK_RV HandleManager

/-! ### Lists that are dealt out -/

section deal

variable {α : Type*}

/-- What comes of taking so many at a time off a list. -/
def deal : List α → List ℕ → List (List α)
  | _, [] => []
  | l, n :: ns => l.take n :: deal (l.drop n) ns

/-- **Dealing** takes the elements in order, and each once. -/
lemma flatten_deal (l : List α) (ns : List ℕ) : (deal l ns).flatten = l.take ns.sum := by
  induction ns generalizing l with
  | nil => simp [deal]
  | cons n ns ih => rw [deal, List.flatten_cons, ih, List.sum_cons, List.take_add]

end deal

variable {Obj Sess : Type} [DecidableEq Obj] [DecidableEq Sess] {home : Obj → CK_SLOT_ID}
  {P : Primitives} {st st' : Store Obj Sess} {hSession : ℕ} {s : Sess}

/-! ### The handles that are found -/

lemma pairwise_insertHandle {h : ℕ} {handles : List ℕ} (hs : handles.Pairwise (· < ·)) :
    (insertHandle h handles).Pairwise (· < ·) := by
  unfold insertHandle
  split_ifs with hmem
  · exact hs
  · have hle : (handles.orderedInsert (· ≤ ·) h).Pairwise (· ≤ ·) :=
      List.Pairwise.orderedInsert h handles (hs.imp Nat.le_of_lt)
    have hnodup : (handles.orderedInsert (· ≤ ·) h).Nodup :=
      (List.perm_orderedInsert (· ≤ ·) h handles).nodup_iff.2
        (List.nodup_cons.2 ⟨hmem, hs.imp Nat.ne_of_lt⟩)
    exact hle.imp₂ (fun _ _ hab hne => Nat.lt_of_le_of_ne hab hne) hnodup

/-- Adding an object adds no session. -/
lemma getSession_addObject {m : HandleManager Obj Sess} {slotID : CK_SLOT_ID} {o : Obj}
    {object : OSObject} {k : ℕ} {x : Sess}
    (h : (addObject slotID hSession o object m).2.getSession k = some x) :
    m.getSession k = some x := by
  have hadded : ∀ e : Handle Obj Sess, (∀ slot y, e ≠ .session slot y) → ∀ rest : HandleManager Obj Sess,
      rest.handles = Function.update m.handles m.nextHandle (some e) →
      rest.getSession k = some x → m.getSession k = some x := by
    intro e he rest hrest hk
    by_cases hnew : k = m.nextHandle
    · rw [getSession, hrest, hnew, Function.update_self] at hk
      cases e with
      | session slot y => exact absurd rfl (he slot y)
      | object _ _ _ _ => cases hk
    · rwa [getSession, hrest, Function.update_of_ne hnew] at hk
  have hregistered : ∀ r, m.registered slotID o = some r → r.2.handles = m.handles := by
    intro r hr
    unfold registered at hr
    split at hr
    · cases hr
    · split at hr
      · split_ifs at hr <;> · obtain rfl := Option.some.inj hr; rfl
      · obtain rfl := Option.some.inj hr
        rfl
  have hsame : ∀ r : HandleManager Obj Sess, r.handles = m.handles → r.getSession k = some x →
      m.getSession k = some x := by
    intro r hr hk
    rwa [getSession, hr] at hk
  unfold addObject at h
  dsimp only at h
  split_ifs at h
  · unfold addTokenObject at h
    split at h
    · exact hsame _ (hregistered _ ‹_›) h
    · exact hadded _ (by rintro _ _ ⟨⟩) _ rfl h
  · unfold addSessionObject at h
    split at h
    · exact hsame _ (hregistered _ ‹_›) h
    · exact hadded _ (by rintro _ _ ⟨⟩) _ rfl h

/-- A handle manager that has been added to, with so many handles at most. -/
structure Extends (home : Obj → CK_SLOT_ID) (m : HandleManager Obj Sess) (n : ℕ)
    (m' : HandleManager Obj Sess) : Prop where
  rep : Rep home m'
  keep : ∀ k e, m.handles k = some e → m'.handles k = some e
  session : ∀ k x, m'.getSession k = some x → m.getSession k = some x
  counter : m'.handleCounter ≤ m.handleCounter + n

lemma extends_refl {m : HandleManager Obj Sess} (hm : Rep home m) (n : ℕ) : Extends home m n m :=
  ⟨hm, fun _ _ he => he, fun _ _ he => he, Nat.le_add_right ..⟩

lemma Extends.trans {m m₁ m₂ : HandleManager Obj Sess} {n k : ℕ} (h : Extends home m n m₁)
    (h' : Extends home m₁ k m₂) : Extends home m (n + k) m₂ :=
  ⟨h'.rep, fun i e he => h'.keep i e (h.keep i e he), fun i x hx => h.session i x (h'.session i x hx),
    by have := h.counter; have := h'.counter; omega⟩

lemma Extends.mono {m m' : HandleManager Obj Sess} {n k : ℕ} (h : Extends home m n m')
    (hle : n ≤ k) : Extends home m k m' :=
  ⟨h.rep, h.keep, h.session, h.counter.trans (Nat.add_le_add_left hle _)⟩

/-- **However the loop ends**, the handle manager has been added to, and the handles are in order. -/
lemma findLoop_extends {decrypt : ByteString → Option ByteString} {isPublicSession : Bool}
    {slotID : CK_SLOT_ID} {T : List CK_ATTRIBUTE} {object : Obj → OSObject} {x : Sess}
    {objects : List Obj} (hhome : ∀ o ∈ objects, home o = slotID) {m : HandleManager Obj Sess}
    (hm : Rep home m) (hc : m.handleCounter + objects.length < 2 ^ 64)
    (hS : m.handles hSession = some (.session slotID x)) {handles : List ℕ}
    (hsorted : handles.Pairwise (· < ·)) {rv : CK_RV} {m' : HandleManager Obj Sess}
    {handles' : List ℕ}
    (h : findLoop decrypt isPublicSession slotID hSession T object objects m handles =
      some (rv, m', handles')) :
    Extends home m objects.length m' ∧ handles'.Pairwise (· < ·) := by
  induction objects generalizing m handles with
  | nil =>
    obtain ⟨-, rfl, rfl⟩ : CKR_OK = rv ∧ m = m' ∧ handles = handles' := by
      simpa [findLoop] using h
    exact ⟨extends_refl hm _, hsorted⟩
  | cons o objects ih =>
    have hrest : ∀ o ∈ objects, home o = slotID := fun o ho => hhome o (List.mem_cons_of_mem _ ho)
    rw [List.length_cons] at hc ⊢
    have hskip : findLoop decrypt isPublicSession slotID hSession T object objects m handles =
        some (rv, m', handles') →
        Extends home m (objects.length + 1) m' ∧ handles'.Pairwise (· < ·) := by
      intro h
      obtain ⟨hext, hs⟩ := ih hrest hm (by omega) hS hsorted h
      exact ⟨hext.mono (Nat.le_succ _), hs⟩
    rw [findLoop] at h
    split_ifs at h
    · exact hskip h
    · split at h
      · cases h
      · obtain ⟨-, rfl, rfl⟩ : CKR_GENERAL_ERROR = rv ∧ m = m' ∧ handles = handles' := by
          simpa using h
        exact ⟨extends_refl hm _, hsorted⟩
      · exact hskip h
      · have hslot := hhome o List.mem_cons_self
        rw [← hslot] at hS
        obtain ⟨k, m₁, hadd, hne, hrep, -, hkeep, hcount⟩ :=
          addObject_spec hm (by omega) hS (object o)
        rw [hslot] at hadd hS
        have hext : Extends home m 1 m₁ :=
          ⟨hrep, hkeep, fun i y hi => getSession_addObject (by rw [hadd]; exact hi), hcount⟩
        rw [hadd] at h
        dsimp only at h
        rw [if_neg hne] at h
        obtain ⟨hext', hs⟩ := ih hrest hrep (by omega) (hkeep _ _ hS) (pairwise_insertHandle hsorted) h
        exact ⟨(hext.trans hext').mono (by omega), hs⟩

/-! ### A session that enumerates -/

/-- What keeps a search going: the session is known under its own handle only, and there are
numbers left for the handles of so many more objects. -/
structure Steady (home : Obj → CK_SLOT_ID) (hSession : ℕ) (s : Sess) (N room : ℕ)
    (st : Store Obj Sess) : Prop where
  initialised : st.isInitialised = true
  handles : Rep home st.handleManager
  sessions : ∀ h slotID x, st.handleManager.handles h = some (.session slotID x) →
    (st.session x).slotID = slotID
  slot : ∀ slotID, ∀ o ∈ st.allObjects slotID, home o = slotID
  size : ∀ slotID, (st.allObjects slotID).length ≤ N
  counter : st.handleManager.handleCounter + room < 2 ^ 64
  own : st.handleManager.getSession hSession = some s
  alone : ∀ h, st.handleManager.getSession h = some s → h = hSession

/-- A session with these handles still to be handed out. -/
def Enumerating (s : Sess) (st : Store Obj Sess) (rest : List ℕ) : Prop :=
  (st.session s).opType = .find ∧ (st.session s).findOp = some rest

lemma handles_of_getSession {m : HandleManager Obj Sess} {h : ℕ} {x : Sess}
    (hx : m.getSession h = some x) : ∃ slotID, m.handles h = some (.session slotID x) := by
  unfold getSession at hx
  split at hx
  · rename_i slotID y he
    obtain rfl := Option.some.inj hx
    exact ⟨slotID, he⟩
  · cases hx

variable {N room : ℕ} {rest : List ℕ}

/-- Less room is asked for later. -/
lemma Steady.mono (h : Steady home hSession s N room st) {room' : ℕ} (hle : room' ≤ room) :
    Steady home hSession s N room' st :=
  { h with counter := by have := h.counter; omega }

lemma Steady.setObject (h : Steady home hSession s N room st) (o : Obj) (object : OSObject) :
    Steady home hSession s N room (st.setObject o object) :=
  ⟨h.initialised, h.handles, h.sessions, h.slot, h.size, h.counter, h.own, h.alone⟩

@[simp] lemma session_setSession (x : Sess) (r : FindSession) : (st.setSession x r).session x = r :=
  Function.update_self ..

lemma session_setSession_of_ne {x y : Sess} (h : y ≠ x) (r : FindSession) :
    (st.setSession x r).session y = st.session y := Function.update_of_ne h ..

/-- The record of a session is changed, but for its slot. -/
lemma Steady.setSession (h : Steady home hSession s N room st) {x : Sess} {r : FindSession}
    (hr : r.slotID = (st.session x).slotID) : Steady home hSession s N room (st.setSession x r) := by
  refine ⟨h.initialised, h.handles, fun k slotID y hy => ?_, h.slot, h.size, h.counter, h.own,
    h.alone⟩
  by_cases hyx : y = x
  · subst hyx
    rw [session_setSession, hr]
    exact h.sessions k slotID y hy
  · rw [session_setSession_of_ne hyx]
    exact h.sessions k slotID y hy

lemma Steady.extends (h : Steady home hSession s N (room + N) st) {m' : HandleManager Obj Sess}
    {n : ℕ} (hn : n ≤ N) (hext : Extends home st.handleManager n m') :
    Steady home hSession s N room { st with handleManager := m' } := by
  refine ⟨h.initialised, hext.rep, fun k slotID y hy => ?_, h.slot, h.size, ?_, ?_,
    fun k hk => h.alone k (hext.session k s hk)⟩
  · obtain ⟨slotID', hy'⟩ := handles_of_getSession
      (hext.session k y (by rw [getSession, show m'.handles k = _ from hy]))
    have hsame := hext.keep k _ hy'
    rw [show m'.handles k = _ from hy] at hsame
    obtain ⟨rfl, -⟩ := Handle.session.inj (Option.some.inj hsame)
    exact h.sessions k slotID y hy'
  · have := h.counter
    have := hext.counter
    dsimp only
    omega
  · obtain ⟨slotID, hs⟩ := handles_of_getSession h.own
    rw [getSession, show m'.handles hSession = _ from hext.keep _ _ hs]

/-! ### One call -/

/-- Reading changes no more than an object, which gets its defaults. -/
lemma getAttributeValue_cases (stores : CK_ATTRIBUTE_TYPE → RecordFile.Write) (h hObject : ℕ)
    (pTemplate : Option (List Request)) (st : Store Obj Sess) :
    (C_GetAttributeValue P stores h hObject pTemplate st).2.2 = st ∨
      ∃ o object, (C_GetAttributeValue P stores h hObject pTemplate st).2.2 =
        st.setObject o object := by
  unfold C_GetAttributeValue
  split
  · exact .inl rfl
  split
  · exact .inl rfl
  split
  · exact .inl rfl
  split
  · exact .inl rfl
  split
  · exact .inl rfl
  dsimp only
  split
  · exact .inl rfl
  split
  · exact .inl rfl
  split <;> exact .inr ⟨_, _, rfl⟩

/-- What another session's search leaves. -/
lemma findObjectsInit_steady (h : Steady home hSession s N (room + N) st)
    (he : Enumerating s st rest) {k : ℕ} {pTemplate : Option (List CK_ATTRIBUTE)} {rv : CK_RV}
    (hcall : C_FindObjectsInit P k pTemplate st = some (rv, st')) :
    Steady home hSession s N room st' ∧ st'.session s = st.session s := by
  have hsame : st = st' → Steady home hSession s N room st' ∧ st'.session s = st.session s := by
    rintro rfl
    exact ⟨h.mono (Nat.le_add_right ..), rfl⟩
  unfold C_FindObjectsInit at hcall
  split at hcall
  · exact hsame (Prod.ext_iff.1 (Option.some.inj hcall)).2
  split at hcall
  · exact hsame (Prod.ext_iff.1 (Option.some.inj hcall)).2
  split at hcall
  · exact hsame (Prod.ext_iff.1 (Option.some.inj hcall)).2
  rename_i T _ x hx
  dsimp only at hcall
  split at hcall
  · exact hsame (Prod.ext_iff.1 (Option.some.inj hcall)).2
  rename_i hnone
  -- The session that enumerates has an operation, so this is another one.
  have hne : s ≠ x := by
    rintro rfl
    rw [not_not, he.1] at hnone
    cases hnone
  obtain ⟨slotID, hslot⟩ := handles_of_getSession hx
  have hslotID := h.sessions k slotID x hslot
  have hloop : ∀ {rv m' handles'}, findLoop (decrypt P (st.sdm (st.session x).slotID))
      (isPublicSession (st.getState x)) (st.session x).slotID k T st.object
      (st.allObjects (st.session x).slotID) st.handleManager [] = some (rv, m', handles') →
      Steady home hSession s N room { st with handleManager := m' } := by
    intro rv m' handles' hrun
    have hsize := h.size (st.session x).slotID
    have hcounter := h.counter
    rw [← hslotID] at hslot
    exact h.extends hsize
      (findLoop_extends (h.slot _) h.handles (by omega) hslot List.Pairwise.nil hrun).1
  split at hcall
  · cases hcall
  · rename_i hrun
    obtain ⟨-, rfl⟩ := Prod.ext_iff.1 (Option.some.inj hcall)
    exact ⟨(hloop hrun).setSession rfl, session_setSession_of_ne hne _⟩
  · rename_i hrun
    obtain ⟨-, rfl⟩ := Prod.ext_iff.1 (Option.some.inj hcall)
    exact ⟨(hloop hrun).setSession rfl, session_setSession_of_ne hne _⟩

/-- What another session's call of `C_FindObjects` or `C_FindObjectsFinal` leaves. -/
lemma Steady.other (h : Steady home hSession s N room st) {k : ℕ} (hk : k ≠ hSession) {x : Sess}
    (hx : st.handleManager.getSession k = some x) {r : FindSession}
    (hr : r.slotID = (st.session x).slotID) :
    Steady home hSession s N room (st.setSession x r) ∧
      (st.setSession x r).session s = st.session s := by
  have hne : s ≠ x := by
    rintro rfl
    exact hk (h.alone k hx)
  exact ⟨h.setSession hr, session_setSession_of_ne hne r⟩

/-- How many handles a call asks a session for. -/
def countOf (hSession : ℕ) : Call → Option ℕ
  | .findObjects h n => if h = hSession then some n else none
  | _ => none

/-- The handles that a call gives in a session. -/
def handlesOf (hSession : ℕ) : Call × Option Answer → Option (List ℕ)
  | (.findObjects h _, some (.handles _ handles)) => if h = hSession then some handles else none
  | _ => none

/-- What one call does to a session that enumerates: it hands out the next handles there, or leaves
them. -/
structure Stepped (home : Obj → CK_SLOT_ID) (hSession : ℕ) (s : Sess) (N room : ℕ)
    (rest : List ℕ) (c : Call) (a : Answer) (st' : Store Obj Sess) : Prop where
  steady : Steady home hSession s N room st'
  handed : ∀ n, countOf hSession c = some n →
    handlesOf hSession (c, some a) = some (rest.take n) ∧ Enumerating s st' (rest.drop n)
  left : countOf hSession c = none →
    handlesOf hSession (c, some a) = none ∧ Enumerating s st' rest

lemma exec_enumerating (h : Steady home hSession s N (room + N) st) (he : Enumerating s st rest)
    {c : Call} (hno : c ≠ .findObjectsFinal hSession) {a : Answer}
    (hx : exec P st c = some (a, st')) : Stepped home hSession s N room rest c a st' := by
  have hle : room ≤ room + N := Nat.le_add_right ..
  have hleft : ∀ {st' : Store Obj Sess}, st'.session s = st.session s → Enumerating s st' rest := by
    intro st' hs
    rwa [Enumerating, hs]
  cases c with
  | getAttributeValue stores k hObject pTemplate =>
    have hx : (Answer.attributes (C_GetAttributeValue P stores k hObject pTemplate st).1
        (C_GetAttributeValue P stores k hObject pTemplate st).2.1,
        (C_GetAttributeValue P stores k hObject pTemplate st).2.2) = (a, st') := Option.some.inj hx
    obtain ⟨rfl, hst'⟩ := Prod.ext_iff.1 hx
    dsimp only at hst'
    rcases getAttributeValue_cases (P := P) stores k hObject pTemplate st with hst | ⟨o, x, hst⟩
    · obtain rfl := hst.symm.trans hst'
      exact ⟨h.mono hle, (fun n hn => absurd hn (Option.some_ne_none n).symm),
        fun _ => ⟨rfl, he⟩⟩
    · obtain rfl := hst.symm.trans hst'
      exact ⟨(h.mono hle).setObject o x, (fun n hn => absurd hn (Option.some_ne_none n).symm),
        fun _ => ⟨rfl, hleft rfl⟩⟩
  | findObjectsInit k pTemplate =>
    obtain ⟨⟨rv, st₁⟩, hcall, heq⟩ := Option.map_eq_some_iff.1 hx
    obtain ⟨rfl, rfl⟩ := Prod.ext_iff.1 heq
    obtain ⟨hsteady, hsame⟩ := findObjectsInit_steady h he hcall
    exact ⟨hsteady, (fun n hn => absurd hn (Option.some_ne_none n).symm),
      fun _ => ⟨rfl, hleft hsame⟩⟩
  | findObjects k n =>
    have hx : (Answer.handles (C_FindObjects k n st).1 (C_FindObjects k n st).2.1,
        (C_FindObjects k n st).2.2) = (a, st') := Option.some.inj hx
    by_cases hk : k = hSession
    · subst hk
      have hcall : C_FindObjects k n st = (CKR_OK, rest.take n,
          st.setSession s { st.session s with findOp := some (rest.drop n) }) := by
        simp [C_FindObjects, h.initialised, h.own, he.1, he.2]
      rw [hcall] at hx
      obtain ⟨rfl, rfl⟩ := Prod.ext_iff.1 hx
      refine ⟨(h.mono hle).setSession rfl, fun n' hn => ?_, fun hn => ?_⟩
      · obtain rfl : n = n' := by simpa [countOf] using hn
        refine ⟨by simp [handlesOf], ?_⟩
        rw [Enumerating, session_setSession]
        exact ⟨he.1, rfl⟩
      · simp [countOf] at hn
    · have hnone : countOf hSession (.findObjects k n) = none := if_neg hk
      have hgiven : ∀ b : Answer, handlesOf hSession (.findObjects k n, some b) = none := by
        intro b
        cases b with
        | handles _ _ => exact if_neg hk
        | attributes _ _ => rfl
        | rv _ => rfl
      have hcall : Steady home hSession s N room (C_FindObjects k n st).2.2 ∧
          (C_FindObjects k n st).2.2.session s = st.session s := by
        unfold C_FindObjects
        split
        · exact ⟨h.mono hle, rfl⟩
        split
        · exact ⟨h.mono hle, rfl⟩
        rename_i x hget
        dsimp only
        split
        · exact ⟨h.mono hle, rfl⟩
        split
        · exact ⟨h.mono hle, rfl⟩
        · exact (h.mono hle).other hk hget rfl
      obtain ⟨rfl, rfl⟩ := Prod.ext_iff.1 hx
      refine ⟨hcall.1, fun n' hn => ?_, fun _ => ⟨hgiven _, hleft hcall.2⟩⟩
      rw [hnone] at hn
      cases hn
  | findObjectsFinal k =>
    have hx : (Answer.rv (C_FindObjectsFinal k st).1, (C_FindObjectsFinal k st).2) = (a, st') :=
      Option.some.inj hx
    obtain ⟨rfl, rfl⟩ := Prod.ext_iff.1 hx
    have hk : k ≠ hSession := by
      rintro rfl
      exact hno rfl
    have hcall : Steady home hSession s N room (C_FindObjectsFinal k st).2 ∧
        (C_FindObjectsFinal k st).2.session s = st.session s := by
      unfold C_FindObjectsFinal
      split
      · exact ⟨h.mono hle, rfl⟩
      split
      · exact ⟨h.mono hle, rfl⟩
      rename_i x hget
      dsimp only
      split
      · exact ⟨h.mono hle, rfl⟩
      · exact (h.mono hle).other hk hget rfl
    exact ⟨hcall.1, (fun n hn => absurd hn (Option.some_ne_none n).symm),
      fun _ => ⟨rfl, hleft hcall.2⟩⟩

/-! ### Runs -/

/-- How many handles the calls of a run ask a session for, one after the other. -/
def asked (hSession : ℕ) (cs : List Call) : List ℕ := cs.filterMap (countOf hSession)

/-- The handles that these calls give. -/
def given (hSession : ℕ) (cs : List Call) (answers : List (Option Answer)) : List (List ℕ) :=
  (cs.zip answers).filterMap (handlesOf hSession)

/-- **Over a run** a session gets its handles one after the other, up to the end or to a call that
kills the process. -/
lemma run_enumerating {cs : List Call} (h : Steady home hSession s N (cs.length * N) st)
    (he : Enumerating s st rest) (hno : .findObjectsFinal hSession ∉ cs) :
    given hSession cs (run P cs st) <+: deal rest (asked hSession cs) ∧
      (none ∉ run P cs st → given hSession cs (run P cs st) = deal rest (asked hSession cs)) := by
  induction cs generalizing st rest with
  | nil => exact ⟨List.prefix_refl _, fun _ => rfl⟩
  | cons c cs ih =>
    rw [List.length_cons, Nat.add_mul, Nat.one_mul] at h
    rw [run]
    cases hx : exec P st c with
    | none =>
      have hnil : given hSession (c :: cs) [none] = [] := by
        cases c <;> simp [given, handlesOf]
      rw [hnil]
      exact ⟨List.nil_prefix, fun hnone => absurd List.mem_cons_self hnone⟩
    | some r =>
      obtain ⟨a, st'⟩ := r
      obtain ⟨hne, hrest⟩ : c ≠ .findObjectsFinal hSession ∧ .findObjectsFinal hSession ∉ cs :=
        ⟨fun hc => hno (hc ▸ List.mem_cons_self), fun hc => hno (List.mem_cons_of_mem _ hc)⟩
      have hstep := exec_enumerating h he hne hx
      have hgiven : given hSession (c :: cs) (some a :: run P cs st') =
          (handlesOf hSession (c, some a)).toList ++ given hSession cs (run P cs st') := by
        rw [given, List.zip_cons_cons, List.filterMap_cons]
        cases handlesOf hSession (c, some a) <;> rfl
      have hasked : asked hSession (c :: cs) =
          (countOf hSession c).toList ++ asked hSession cs := by
        rw [asked, List.filterMap_cons]
        cases countOf hSession c <;> rfl
      simp only [List.mem_cons, not_or]
      cases hcount : countOf hSession c with
      | none =>
        obtain ⟨hhandles, henum⟩ := hstep.left hcount
        rw [hgiven, hasked, hcount, hhandles]
        obtain ⟨hpre, hall⟩ := ih hstep.steady henum hrest
        exact ⟨hpre, fun hnone => hall hnone.2⟩
      | some n =>
        obtain ⟨hhandles, henum⟩ := hstep.handed n hcount
        rw [hgiven, hasked, hcount, hhandles]
        obtain ⟨hpre, hall⟩ := ih hstep.steady henum hrest
        exact ⟨(List.prefix_cons_inj _).2 hpre, fun hnone => congrArg (_ :: ·) (hall hnone.2)⟩

/-- A search that ends well leaves its handles in order. -/
lemma enumerating_of_init (h : Steady home hSession s N (room + N) st)
    (hop : (st.session s).opType = .none) {T : List CK_ATTRIBUTE}
    (hinit : C_FindObjectsInit P hSession (some T) st = some (CKR_OK, st')) :
    ∃ found, found.Pairwise (· < ·) ∧ Enumerating s st' found ∧ Steady home hSession s N room st' := by
  obtain ⟨slotID, hslot⟩ := handles_of_getSession h.own
  have hslotID := h.sessions hSession slotID s hslot
  have hsize := h.size (st.session s).slotID
  have hcounter := h.counter
  unfold C_FindObjectsInit at hinit
  rw [if_neg (by rw [h.initialised]; decide)] at hinit
  simp only [h.own] at hinit
  rw [if_neg (not_not.2 hop)] at hinit
  split at hinit
  · cases hinit
  · rename_i m' handles' hrun
    obtain ⟨-, rfl⟩ := Prod.ext_iff.1 (Option.some.inj hinit)
    rw [← hslotID] at hslot
    obtain ⟨hext, hsorted⟩ :=
      findLoop_extends (h.slot _) h.handles (by omega) hslot List.Pairwise.nil hrun
    refine ⟨_, ?_, ⟨congrArg FindSession.opType (session_setSession ..),
      congrArg FindSession.findOp (session_setSession ..)⟩, (h.extends hsize hext).setSession rfl⟩
    split_ifs
    · exact pairwise_insertHandle hsorted
    · exact hsorted
  · rename_i hnot hrun
    obtain ⟨hrv, -⟩ := Prod.ext_iff.1 (Option.some.inj hinit)
    exact (hnot hrv).elim

/-- **Each object that is found is handed out once.** A search that ends well has found the handles
of the visible objects that match, and the calls of `C_FindObjects` in its session give them one
after the other, as many as each call has room for, whatever is read and searched for in between. -/
theorem found_once (hst : st.Ok home) (hi : st.isInitialised = true) {slotID : CK_SLOT_ID}
    (hs : st.handleManager.handles hSession = some (.session slotID s))
    (hop : (st.session s).opType = .none)
    (halone : ∀ h, st.handleManager.getSession h = some s → h = hSession)
    (hN : ∀ slotID, (st.allObjects slotID).length ≤ N) {cs : List Call}
    (hroom : st.handleManager.handleCounter + (cs.length * N + N) < 2 ^ 64)
    (hno : .findObjectsFinal hSession ∉ cs) {T : List CK_ATTRIBUTE}
    (hinit : C_FindObjectsInit P hSession (some T) st = some (CKR_OK, st')) :
    ∃ found, found.Pairwise (· < ·) ∧
      (∀ h, h ∈ found ↔
        (st.fakeRutokenECP = true ∧ fakeRutokenFeatureMatches T = true ∧
          h = FAKE_RUTOKEN_FEATURE_HANDLE) ∨
        ∃ o, Visible st s o ∧
          verdict (decrypt P (st.sdm (st.session s).slotID)) T (st.object o) = .matches ∧
          st'.handleManager.getObject h = some o) ∧
      (given hSession cs (run P cs st')).flatten <+: found ∧
      given hSession cs (run P cs st') <+: deal found (asked hSession cs) ∧
      (none ∉ run P cs st' → given hSession cs (run P cs st') = deal found (asked hSession cs)) := by
  have hown : st.handleManager.getSession hSession = some s := by rw [getSession, hs]
  have hsteady : Steady home hSession s N (cs.length * N + N) st :=
    ⟨hi, hst.handles, hst.sessions, hst.slot, hN, hroom, hown, halone⟩
  obtain ⟨found, hsorted, henum, hsteady'⟩ := enumerating_of_init hsteady hop hinit
  obtain ⟨hpre, hall⟩ := run_enumerating (P := P) hsteady' henum hno
  have hsearched : Searched P st hSession s T st' := by
    rcases findObjectsInit_spec (P := P) hst hi hs hop T with
      ⟨-, hcrash⟩ | ⟨-, _, hrefused⟩ | ⟨-, _, hok, hsearched⟩
    · rw [hcrash] at hinit
      cases hinit
    · rw [hrefused] at hinit
      cases hinit
    · rw [hok] at hinit
      obtain ⟨-, rfl⟩ := Prod.ext_iff.1 (Option.some.inj hinit)
      exact hsearched
  have hmem : ∀ h, Found hSession st' h ↔ h ∈ found := fun h =>
    found_iff hsteady'.initialised hsteady'.own henum.1 henum.2
  refine ⟨found, hsorted, fun h => (hmem h).symm.trans (hsearched.found h), ?_, hpre, hall⟩
  have hflatten : (deal found (asked hSession cs)).flatten <+: found := by
    rw [flatten_deal]
    exact List.take_prefix ..
  exact hpre.flatten.trans hflatten

/-- Two calls of a session, with a reading and another search in between. -/
def keyCalls : List Call :=
  [.findObjects 1 1, .getAttributeValue (fun _ => .done) 1 2 none, .findObjectsInit 7 (some []),
    .findObjects 1 1]

/-- The key is searched for by its class. -/
theorem found_once_key :
    ∃ st' found, C_FindObjectsInit plainCopies 1
        (some [⟨CKA_CLASS, some (ulongBytes CKO_SECRET_KEY), 8⟩]) oneDatedKey =
          some (CKR_OK, st') ∧
      found.Pairwise (· < ·) ∧
      given 1 keyCalls (run plainCopies keyCalls st') <+: deal found [1, 1] := by
  have hrv : (C_FindObjectsInit plainCopies 1
      (some [⟨CKA_CLASS, some (ulongBytes CKO_SECRET_KEY), 8⟩]) oneDatedKey).map (·.1) =
        some CKR_OK := by decide
  obtain ⟨⟨rv, st'⟩, hcall, rfl⟩ := Option.map_eq_some_iff.1 hrv
  have hsession : oneDatedKey.handleManager.handles 1 = some (.session 0 ()) := rfl
  have halone : ∀ h, oneDatedKey.handleManager.getSession h = some () → h = 1 := by
    intro h hh
    obtain ⟨slotID, hslot⟩ := handles_of_getSession hh
    change Function.update (Function.update (fun _ => none : ℕ → Option (Handle Unit Unit)) 1
      (some (.session 0 ()))) 2 (some (.object 0 0 true ())) h = some (.session slotID ()) at hslot
    by_cases h2 : h = 2
    · rw [h2, Function.update_self] at hslot
      cases hslot
    · by_contra h1
      rw [Function.update_of_ne h2, Function.update_of_ne h1] at hslot
      cases hslot
  have hsize : ∀ slotID, (oneDatedKey.allObjects slotID).length ≤ 1 := by
    intro slotID
    simp only [oneDatedKey]
    split <;> decide
  have hroom : oneDatedKey.handleManager.handleCounter + (keyCalls.length * 1 + 1) < 2 ^ 64 := by
    decide
  have hno : Call.findObjectsFinal 1 ∉ keyCalls := by
    simp [keyCalls]
  obtain ⟨found, hsorted, -, -, hdealt, -⟩ :=
    found_once ok_oneDatedKey rfl hsession rfl halone hsize hroom hno hcall
  exact ⟨st', found, hcall, hsorted, hdealt⟩

end SoftHSM.Search
