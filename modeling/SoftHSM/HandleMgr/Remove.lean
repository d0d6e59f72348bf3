import SoftHSM.HandleMgr.Rep

/-!
The operations that remove handles keep the representation invariant, and which handles
each of them removes.
-/

set_option linter.unusedSectionVars false

namespace SoftHSM.HandleManager

open SoftHSM.Table

variable {Obj Sess : Type} [DecidableEq Obj] {home : Obj → ℕ} {m : HandleManager Obj Sess}

/-! ### Removing handles -/

/-- What is left to show of an operation that only removes handles. -/
lemma Rep.without (hm : Rep home m) {m' : HandleManager Obj Sess}
    {R : ℕ → Handle Obj Sess → Prop} (hw : Without m.handles m'.handles R)
    (hobj : IsInverse m'.handles Handle.objectOf m'.objects)
    (hslots : IsIndex m'.handles (fun e => some e.slotID) m'.slotHandles)
    (hslotsN : ∀ s, (m'.slotHandles s).Nodup)
    (hsess : IsIndex m'.handles Handle.sessionOf m'.sessionObjectHandles)
    (hsessN : ∀ S, (m'.sessionObjectHandles S).Nodup)
    (hlive : ∀ k e S x, m.handles k = some e → e.sessionOf = some S →
      m.handles S = some (.session e.slotID x) → R S (.session e.slotID x) → R k e)
    (hcount : ∀ s, m'.slotSessionCount s = (m'.sessionHandles s).ncard)
    (hcounter : m'.handleCounter = m.handleCounter) : Rep home m' where
  objects := hobj
  slots := hslots
  slotsNodup := hslotsN
  sessions := hsess
  sessionsNodup := hsessN
  live := by
    intro k e S hk hS
    obtain ⟨hk, hn⟩ := (hw k e).mp hk
    obtain ⟨x, hx⟩ := hm.live k e S hk hS
    exact ⟨x, (hw S _).mpr ⟨hx, fun hr => hn (hlive k e S x hk hS hx hr)⟩⟩
  home := fun k e o hk ho => hm.home k e o (hw.sub hk) ho
  count := hcount
  issued := by
    intro k e hk
    rw [hcounter]
    exact hm.issued k e (hw.sub hk)

lemma sessionHandles_without {m' : HandleManager Obj Sess} {R : ℕ → Handle Obj Sess → Prop}
    (hw : Without m.handles m'.handles R) (hR : ∀ k s x, ¬ R k (.session s x)) (s : ℕ) :
    m'.sessionHandles s = m.sessionHandles s := by
  ext k
  simp only [sessionHandles, Set.mem_ofPred_eq]
  exact exists_congr fun x => by rw [hw k]; simp [hR]

lemma destroyObject_of_object {h s S : ℕ} {p : Bool} {o : Obj}
    (hh : m.handles h = some (.object s S p o)) :
    m.destroyObject h = ({ m with
      sessionObjectHandles :=
        if S ≠ CK_INVALID_HANDLE then
          Function.update m.sessionObjectHandles S ((m.sessionObjectHandles S).erase h)
        else m.sessionObjectHandles
      slotHandles := Function.update m.slotHandles s ((m.slotHandles s).erase h)
      objects := Function.update m.objects o none
      handles := Function.update m.handles h none },
      if S ≠ CK_INVALID_HANDLE then [o] else []) := by
  simp [destroyObject, hh]

lemma destroyObject_of_not_object {h : ℕ} (hh : ∀ e, m.handles h = some e → e.objectOf = none) :
    m.destroyObject h = (m, []) := by
  rcases he : m.handles h with _ | ⟨s, x⟩ | ⟨s, S, p, o⟩
  · simp [destroyObject, he]
  · simp [destroyObject, he]
  · exact absurd (hh _ he) (by simp [Handle.objectOf])

lemma destroyObject_handles (m : HandleManager Obj Sess) (h : ℕ) :
    Without m.handles (m.destroyObject h).1.handles fun k v => k = h ∧ v.objectOf ≠ none := by
  rcases he : m.handles h with _ | ⟨s, x⟩ | ⟨s, S, p, o⟩
  · rw [destroyObject_of_not_object (by simp [he])]
    exact Without.refl (by rintro k v hk ⟨rfl, -⟩; simp [he] at hk)
  · rw [destroyObject_of_not_object (by simp [he, Handle.objectOf])]
    refine Without.refl ?_
    rintro k v hk ⟨rfl, hv⟩
    rw [he, Option.some.injEq] at hk
    subst hk
    exact hv rfl
  · rw [destroyObject_of_object he]
    refine (Without.update m.handles h).congr fun k v hk => ⟨?_, fun hr => hr.1⟩
    rintro rfl
    rw [he, Option.some.injEq] at hk
    subst hk
    exact ⟨rfl, by simp [Handle.objectOf]⟩

lemma rep_destroyObject (hm : Rep home m) (h : ℕ) : Rep home (m.destroyObject h).1 := by
  have hw := destroyObject_handles m h
  rcases he : m.handles h with _ | ⟨s, x⟩ | ⟨s, S, p, o⟩
  · rw [destroyObject_of_not_object (by simp [he])]; exact hm
  · rw [destroyObject_of_not_object (by simp [he, Handle.objectOf])]; exact hm
  rw [destroyObject_of_object he] at hw ⊢
  refine hm.without hw ?objects ?slots ?slotsN ?sess ?sessN ?live ?count rfl
  case objects => exact hm.objects.erase he rfl
  case slots => exact hm.slots.erase (hm.slotsNodup s) he rfl
  case slotsN => exact nodup_erase hm.slotsNodup s
  case sess =>
    by_cases hS : S = CK_INVALID_HANDLE
    · simp only [hS, ne_eq, not_true, if_false]
      refine hm.sessions.erase_other fun v hv => ?_
      rw [he, Option.some.injEq] at hv
      subst hv
      simp [Handle.sessionOf, hS]
    · simp only [hS, ne_eq, not_false_iff, if_true]
      exact hm.sessions.erase (hm.sessionsNodup S) he (by simp [Handle.sessionOf, hS])
  case sessN =>
    by_cases hS : S = CK_INVALID_HANDLE
    · simpa only [hS, ne_eq, not_true, if_false] using hm.sessionsNodup
    · simpa only [hS, ne_eq, not_false_iff, if_true] using nodup_erase hm.sessionsNodup S
  case live =>
    rintro k e S' x - - - ⟨-, hx⟩
    exact absurd rfl hx
  case count =>
    intro s'
    rw [sessionHandles_without hw (by simp [Handle.objectOf])]
    exact hm.count s'

/-! ### Logging the token out -/

/-- A private object handle. -/
def isPrivateObject : Handle Obj Sess → Prop
  | .object _ _ p _ => p = true
  | .session _ _ => False

lemma tokenLoggedOutRound_handles (slotID : ℕ) (acc : HandleManager Obj Sess × List Obj)
    (h : ℕ) :
    Without acc.1.handles (tokenLoggedOutRound slotID acc h).1.handles
      fun k v => k = h ∧ isPrivateObject v := by
  rcases he : acc.1.handles h with _ | ⟨s, x⟩ | ⟨s, S, _ | _, o⟩
  case some.object.true =>
    simp only [tokenLoggedOutRound, he]
    refine (Without.update acc.1.handles h).congr fun k v hk => ⟨?_, fun hr => hr.1⟩
    rintro rfl
    rw [he, Option.some.injEq] at hk
    subst hk
    exact ⟨rfl, rfl⟩
  · simp only [tokenLoggedOutRound, he]
    exact Without.refl (by rintro k v hk ⟨rfl, -⟩; simp [he] at hk)
  all_goals
    simp only [tokenLoggedOutRound, he]
    refine Without.refl ?_
    rintro k v hk ⟨rfl, hv⟩
    rw [he, Option.some.injEq] at hk
    subst hk
    simp [isPrivateObject] at hv

/-- Under the invariant a round of `tokenLoggedOut` destroys a private object handle. -/
lemma tokenLoggedOutRound_eq {slotID h : ℕ} {acc : HandleManager Obj Sess × List Obj}
    (hs : ∀ e, acc.1.handles h = some e → e.slotID = slotID) :
    (tokenLoggedOutRound slotID acc h).1 = acc.1 ∨
      (tokenLoggedOutRound slotID acc h).1 = (acc.1.destroyObject h).1 := by
  rcases he : acc.1.handles h with _ | ⟨s, x⟩ | ⟨s, S, _ | _, o⟩
  case some.object.true =>
    right
    have : s = slotID := hs _ he
    subst this
    rw [destroyObject_of_object he]
    simp [tokenLoggedOutRound, he]
  all_goals
    left
    simp [tokenLoggedOutRound, he]

lemma rep_tokenLoggedOut_foldl {slotID : ℕ} (l : List ℕ)
    (acc : HandleManager Obj Sess × List Obj) (hacc : Rep home acc.1)
    (hl : ∀ k ∈ l, ∀ e, acc.1.handles k = some e → e.slotID = slotID) :
    Rep home (l.foldl (tokenLoggedOutRound slotID) acc).1 := by
  induction l generalizing acc with
  | nil => exact hacc
  | cons h l ih =>
    rw [List.foldl_cons]
    refine ih _ ?_ fun k hk e he => ?_
    · rcases tokenLoggedOutRound_eq (hl h (by simp)) with heq | heq
      · rw [heq]; exact hacc
      · rw [heq]; exact rep_destroyObject hacc h
    · exact hl k (by simp [hk]) e ((tokenLoggedOutRound_handles slotID acc h).sub he)

lemma rep_tokenLoggedOut (hm : Rep home m) (slotID : ℕ) :
    Rep home (m.tokenLoggedOut slotID).1 := by
  refine rep_tokenLoggedOut_foldl _ (m, []) hm fun k hk e he => ?_
  obtain ⟨e', he', hs⟩ := hm.mem_slot.mp hk
  rw [he, Option.some.injEq] at he'
  rw [he']
  exact hs

/-- Exactly the private object handles of the slot are gone. -/
lemma tokenLoggedOut_handles (hm : Rep home m) (slotID : ℕ) :
    Without m.handles (m.tokenLoggedOut slotID).1.handles
      fun _ v => v.slotID = slotID ∧ isPrivateObject v := by
  have h := Without.foldl (T := fun acc : HandleManager Obj Sess × List Obj => acc.1.handles)
    (tokenLoggedOutRound_handles slotID) (m.slotHandles slotID) (m, [])
  refine h.congr fun k v hk => and_congr_left fun _ => ?_
  rw [hm.mem_slot]
  simp [show m.handles k = some v from hk]

/-! ### Closing all sessions of a slot -/

lemma allSessionsClosedRound_handles (acc : HandleManager Obj Sess × List Obj) (h : ℕ) :
    Without acc.1.handles (allSessionsClosedRound acc h).1.handles
      fun k _ => k = h ∧ True := by
  rcases he : acc.1.handles h with _ | ⟨s, x⟩ | ⟨s, S, p, o⟩
  · simp only [allSessionsClosedRound, he]
    exact Without.refl (by rintro k v hk ⟨rfl, -⟩; simp [he] at hk)
  all_goals
    simp only [allSessionsClosedRound, he, and_true]
    exact Without.update acc.1.handles h

lemma allSessionsClosedRound_objects {acc : HandleManager Obj Sess × List Obj} (h : ℕ)
    (hacc : IsInverse acc.1.handles Handle.objectOf acc.1.objects) :
    IsInverse (allSessionsClosedRound acc h).1.handles Handle.objectOf
      (allSessionsClosedRound acc h).1.objects := by
  rcases he : acc.1.handles h with _ | ⟨s, x⟩ | ⟨s, S, p, o⟩
  · simpa only [allSessionsClosedRound, he] using hacc
  · simp only [allSessionsClosedRound, he]
    refine hacc.erase_other fun v hv => ?_
    rw [he, Option.some.injEq] at hv
    subst hv
    rfl
  · simp only [allSessionsClosedRound, he]
    exact hacc.erase he rfl

lemma allSessionsClosed_objects (l : List ℕ) {acc : HandleManager Obj Sess × List Obj}
    (hacc : IsInverse acc.1.handles Handle.objectOf acc.1.objects) :
    IsInverse (l.foldl allSessionsClosedRound acc).1.handles Handle.objectOf
      (l.foldl allSessionsClosedRound acc).1.objects := by
  induction l generalizing acc with
  | nil => exact hacc
  | cons h l ih => exact ih (allSessionsClosedRound_objects h hacc)

/-- The loop of `allSessionsClosed` touches, besides handles and objects, only the object
lists of the sessions it passes. -/
lemma allSessionsClosed_frame (l : List ℕ) (acc : HandleManager Obj Sess × List Obj) :
    let r := (l.foldl allSessionsClosedRound acc).1
    r.slotHandles = acc.1.slotHandles ∧ r.slotSessionCount = acc.1.slotSessionCount ∧
      r.handleCounter = acc.1.handleCounter ∧
      ∀ S, r.sessionObjectHandles S = acc.1.sessionObjectHandles S ∨
        r.sessionObjectHandles S = [] := by
  induction l generalizing acc with
  | nil => exact ⟨rfl, rfl, rfl, fun S => .inl rfl⟩
  | cons h l ih =>
    obtain ⟨h1, h2, h3, h4⟩ := ih (allSessionsClosedRound acc h)
    rcases he : acc.1.handles h with _ | ⟨s, x⟩ | ⟨s, S, p, o⟩ <;>
      simp only [allSessionsClosedRound, he] at h1 h2 h3 h4 <;>
      simp only [List.foldl_cons, allSessionsClosedRound, he] <;>
      refine ⟨h1, h2, h3, fun S' => ?_⟩
    · exact h4 S'
    · rcases h4 S' with h5 | h5
      · by_cases hS : S' = h
        · subst hS; right; rw [h5]; simp
        · left; rw [h5]; simp [hS]
      · exact .inr h5
    · exact h4 S'

/-- A session list that is not cleared belongs to a session that is not passed. -/
lemma allSessionsClosed_cleared {S : ℕ} {s : ℕ} {x : Sess} (l : List ℕ)
    (acc : HandleManager Obj Sess × List Obj) (hS : acc.1.handles S = some (.session s x))
    (hmem : S ∈ l) :
    (l.foldl allSessionsClosedRound acc).1.sessionObjectHandles S = [] := by
  induction l generalizing acc with
  | nil => simp at hmem
  | cons h l ih =>
    rw [List.foldl_cons]
    by_cases hSh : S = h
    · subst hSh
      rcases (allSessionsClosed_frame l (allSessionsClosedRound acc S)).2.2.2 S with h1 | h1
      · rw [h1]; simp [allSessionsClosedRound, hS]
      · exact h1
    · refine ih _ ?_ (by simpa [hSh] using hmem)
      exact (allSessionsClosedRound_handles acc h S _).mpr ⟨hS, by simp [hSh]⟩

/-- A session list stays as it was when the session is not passed. -/
lemma allSessionsClosed_kept {S : ℕ} (l : List ℕ) (acc : HandleManager Obj Sess × List Obj)
    (hS : ∀ s x, acc.1.handles S = some (.session s x) → S ∉ l) :
    (l.foldl allSessionsClosedRound acc).1.sessionObjectHandles S =
      acc.1.sessionObjectHandles S := by
  induction l generalizing acc with
  | nil => rfl
  | cons h l ih =>
    rw [List.foldl_cons, ih]
    · rcases he : acc.1.handles h with _ | ⟨s, x⟩ | ⟨s, S', p, o⟩ <;>
        simp only [allSessionsClosedRound, he]
      have hne : S ≠ h := by
        rintro rfl
        exact hS s x he (by simp)
      rw [Function.update_of_ne hne]
    · intro s x hx hmem
      exact hS s x ((allSessionsClosedRound_handles acc h).sub hx) (by simp [hmem])

/-- Exactly the handles of the slot are gone. -/
lemma allSessionsClosed_handles (hm : Rep home m) (slotID : ℕ) :
    Without m.handles (m.allSessionsClosed slotID).1.handles fun _ v => v.slotID = slotID := by
  have h := Without.foldl (P := fun _ : Handle Obj Sess => True)
    (T := fun acc : HandleManager Obj Sess × List Obj => acc.1.handles)
    allSessionsClosedRound_handles (m.slotHandles slotID) (m, [])
  refine h.congr fun k v hk => ?_
  rw [and_true, hm.mem_slot]
  simp [show m.handles k = some v from hk]

lemma rep_allSessionsClosed (hm : Rep home m) (slotID : ℕ) :
    Rep home (m.allSessionsClosed slotID).1 := by
  have hw := allSessionsClosed_handles hm slotID
  obtain ⟨hf1, hf2, hf3, hf4⟩ := allSessionsClosed_frame (m.slotHandles slotID) (m, [])
  have hslotH : (m.allSessionsClosed slotID).1.slotHandles =
      Function.update m.slotHandles slotID [] := by
    simp only [allSessionsClosed]; rw [hf1]
  have hcountH : (m.allSessionsClosed slotID).1.slotSessionCount =
      Function.update m.slotSessionCount slotID 0 := by
    simp only [allSessionsClosed]; rw [hf2]
  refine hm.without hw ?objects ?slots ?slotsN ?sess ?sessN ?live ?count hf3
  case objects => exact allSessionsClosed_objects _ hm.objects
  case slots =>
    rw [hslotH]
    refine hm.slots.without hw (fun c k v hk hc => ?_) fun c k hk => ?_
    · rw [Option.some.injEq] at hc
      by_cases hcs : c = slotID
      · subst hcs; simp [hc]
      · rw [Function.update_of_ne hcs, hc]; simp [hcs]
    · by_cases hcs : c = slotID
      · subst hcs; simp at hk
      · rwa [Function.update_of_ne hcs] at hk
  case slotsN =>
    intro s
    rw [hslotH]
    by_cases hs : s = slotID
    · subst hs; simp
    · simpa [hs] using hm.slotsNodup s
  case sess =>
    refine hm.sessions.without hw (fun S k v hk hS => ?_) fun S k hk => ?_
    · obtain ⟨x, hx⟩ := hm.live k v S hk hS
      by_cases hs : v.slotID = slotID
      · have hmem : S ∈ m.slotHandles slotID := hm.mem_slot.mpr ⟨_, hx, hs⟩
        have hcl := allSessionsClosed_cleared (m.slotHandles slotID) (m, []) hx hmem
        simp [allSessionsClosed, hcl, hs]
      · have hkept := allSessionsClosed_kept (S := S) (m.slotHandles slotID) (m, [])
          fun s' x' hx' hmem => by
            obtain ⟨e, he, hes⟩ := hm.mem_slot.mp hmem
            rw [hx, Option.some.injEq] at he
            subst he
            exact hs hes
        simp [allSessionsClosed, hkept, hs]
    · rcases hf4 S with h1 | h1
      · simpa [allSessionsClosed, h1] using hk
      · simp [allSessionsClosed, h1] at hk
  case sessN =>
    intro S
    rcases hf4 S with h1 | h1
    · simpa [allSessionsClosed, h1] using hm.sessionsNodup S
    · simp [allSessionsClosed, h1]
  case live =>
    intro k e S x _ _ _ hs
    exact hs
  case count =>
    intro s
    rw [hcountH]
    by_cases hs : s = slotID
    · subst hs
      have : (m.allSessionsClosed s).1.sessionHandles s = ∅ := by
        rw [Set.eq_empty_iff_forall_notMem]
        rintro k ⟨x, hx⟩
        exact ((hw k _).mp hx).2 rfl
      simp [this]
    · rw [Function.update_of_ne hs, hm.count s]
      congr 1
      ext k
      simp only [sessionHandles, Set.mem_ofPred_eq]
      exact exists_congr fun x => by rw [hw k]; simp [Handle.slotID, hs]

/-! ### Closing one session -/

lemma sessionClosedRound_handles (slotID : ℕ) (acc : HandleManager Obj Sess × List Obj)
    (h : ℕ) :
    Without acc.1.handles (sessionClosedRound slotID acc h).1.handles
      fun k v => k = h ∧ v.objectOf ≠ none := by
  rcases he : acc.1.handles h with _ | ⟨s, x⟩ | ⟨s, S, p, o⟩
  · simp only [sessionClosedRound, he]
    exact Without.refl (by rintro k v hk ⟨rfl, -⟩; simp [he] at hk)
  · simp only [sessionClosedRound, he]
    refine Without.refl ?_
    rintro k v hk ⟨rfl, hv⟩
    rw [he, Option.some.injEq] at hk
    subst hk
    exact hv rfl
  · simp only [sessionClosedRound, he]
    refine (Without.update acc.1.handles h).congr fun k v hk => ⟨?_, fun hr => hr.1⟩
    rintro rfl
    rw [he, Option.some.injEq] at hk
    subst hk
    exact ⟨rfl, by simp [Handle.objectOf]⟩

/-- What the loop of `sessionClosed` keeps: the object index and the slot index. -/
structure Closing (slotID : ℕ) (m : HandleManager Obj Sess) : Prop where
  objects : IsInverse m.handles Handle.objectOf m.objects
  slots : IsIndex m.handles (fun e => some e.slotID) m.slotHandles
  slotsNodup : ∀ s, (m.slotHandles s).Nodup

lemma closing_round {slotID h : ℕ} {acc : HandleManager Obj Sess × List Obj}
    (hc : Closing slotID acc.1) (hs : ∀ e, acc.1.handles h = some e → e.slotID = slotID) :
    Closing slotID (sessionClosedRound slotID acc h).1 := by
  rcases he : acc.1.handles h with _ | ⟨s, x⟩ | ⟨s, S, p, o⟩
  · simpa only [sessionClosedRound, he] using hc
  · simpa only [sessionClosedRound, he] using hc
  · have : s = slotID := hs _ he
    subst this
    simp only [sessionClosedRound, he]
    exact ⟨hc.objects.erase he rfl, hc.slots.erase (hc.slotsNodup s) he rfl,
      nodup_erase hc.slotsNodup s⟩

lemma closing_foldl {slotID : ℕ} (l : List ℕ) {acc : HandleManager Obj Sess × List Obj}
    (hc : Closing slotID acc.1)
    (hl : ∀ k ∈ l, ∀ e, acc.1.handles k = some e → e.slotID = slotID) :
    Closing slotID (l.foldl (sessionClosedRound slotID) acc).1 := by
  induction l generalizing acc with
  | nil => exact hc
  | cons h l ih =>
    refine ih (closing_round hc (hl h (by simp))) fun k hk e he => ?_
    exact hl k (by simp [hk]) e ((sessionClosedRound_handles slotID acc h).sub he)

lemma sessionClosed_frame (slotID : ℕ) (l : List ℕ) (acc : HandleManager Obj Sess × List Obj) :
    let r := (l.foldl (sessionClosedRound slotID) acc).1
    r.sessionObjectHandles = acc.1.sessionObjectHandles ∧
      r.slotSessionCount = acc.1.slotSessionCount ∧ r.handleCounter = acc.1.handleCounter := by
  induction l generalizing acc with
  | nil => exact ⟨rfl, rfl, rfl⟩
  | cons h l ih =>
    have := ih (sessionClosedRound slotID acc h)
    rcases he : acc.1.handles h with _ | ⟨s, x⟩ | ⟨s, S, p, o⟩ <;>
      simpa only [List.foldl_cons, sessionClosedRound, he] using this

section close

variable {hSession slotID : ℕ} {x : Sess}

/-- Exactly the session and the object handles of the session are gone. -/
lemma closeSession_handles (hm : Rep home m) (hSession slotID : ℕ) :
    Without m.handles (m.closeSession hSession slotID).1.handles
      fun k v => k = hSession ∨ v.sessionOf = some hSession := by
  have h := (Without.update m.handles hSession).trans (Without.foldl
    (P := fun v : Handle Obj Sess => v.objectOf ≠ none)
    (T := fun acc : HandleManager Obj Sess × List Obj => acc.1.handles)
    (sessionClosedRound_handles slotID) (m.sessionObjectHandles hSession)
    ({ m with
      slotHandles :=
        Function.update m.slotHandles slotID ((m.slotHandles slotID).erase hSession)
      handles := Function.update m.handles hSession none }, []))
  refine h.congr fun k v hk => or_congr_right ?_
  rw [hm.sessions hSession k]
  constructor
  · rintro ⟨⟨v', hv', hs⟩, -⟩
    rw [hk, Option.some.injEq] at hv'
    rw [hv']
    exact hs
  · intro hs
    refine ⟨⟨v, hk, hs⟩, ?_⟩
    cases v with
    | session => simp [Handle.sessionOf] at hs
    | object => simp [Handle.objectOf]

lemma rep_closeSession (hm : Rep home m) (hx : m.handles hSession = some (.session slotID x)) :
    Rep home (m.closeSession hSession slotID).1 := by
  have hw := closeSession_handles hm hSession slotID
  obtain ⟨hf1, hf2, hf3⟩ := sessionClosed_frame slotID (m.sessionObjectHandles hSession)
    ({ m with
      slotHandles :=
        Function.update m.slotHandles slotID ((m.slotHandles slotID).erase hSession)
      handles := Function.update m.handles hSession none }, [])
  have hcl : Closing slotID (m.closeSession hSession slotID).1 := by
    have := @closing_foldl _ _ _ slotID (m.sessionObjectHandles hSession)
      ({ m with
        slotHandles :=
          Function.update m.slotHandles slotID ((m.slotHandles slotID).erase hSession)
        handles := Function.update m.handles hSession none }, [])
      ⟨hm.objects.erase_other fun v hv => by
          rw [hx, Option.some.injEq] at hv; subst hv; rfl,
        hm.slots.erase (hm.slotsNodup slotID) hx rfl, nodup_erase hm.slotsNodup slotID⟩
      fun k hk e he => by
        obtain ⟨e', he', hs⟩ := (hm.sessions hSession k).mp hk
        have he := (Without.update m.handles hSession).sub he
        rw [he, Option.some.injEq] at he'
        subst he'
        obtain ⟨x', hx'⟩ := hm.live k e hSession he hs
        rw [hx, Option.some.injEq, Handle.session.injEq] at hx'
        exact hx'.1.symm
    exact ⟨this.objects, this.slots, this.slotsNodup⟩
  have hsessH : (m.closeSession hSession slotID).1.sessionObjectHandles =
      Function.update m.sessionObjectHandles hSession [] := by
    simp only [closeSession]; rw [hf1]
  have hcountH : (m.closeSession hSession slotID).1.slotSessionCount =
      Function.update m.slotSessionCount slotID (m.slotSessionCount slotID - 1) := by
    simp only [closeSession]; rw [hf2]
  refine hm.without hw hcl.objects hcl.slots hcl.slotsNodup ?sess ?sessN ?live ?count hf3
  case sess =>
    rw [hsessH]
    refine hm.sessions.without hw (fun S k v hk hS => ?_) fun S k hk => ?_
    · have hne : k ≠ hSession := by
        rintro rfl
        rw [hx, Option.some.injEq] at hk
        rw [← hk] at hS
        simp [Handle.sessionOf] at hS
      by_cases hSS : S = hSession
      · subst hSS; simp [hS]
      · rw [Function.update_of_ne hSS, hS]
        simp [hne, hSS]
    · by_cases hSS : S = hSession
      · subst hSS; simp at hk
      · rwa [Function.update_of_ne hSS] at hk
  case sessN =>
    intro S
    rw [hsessH]
    by_cases hSS : S = hSession
    · subst hSS; simp
    · simpa [hSS] using hm.sessionsNodup S
  case live =>
    intro k e S x' hk hS hx' hR
    rcases hR with rfl | hR
    · exact .inr hS
    · simp [Handle.sessionOf] at hR
  case count =>
    intro s
    have hset : (m.closeSession hSession slotID).1.sessionHandles s =
        m.sessionHandles s \ {hSession} := by
      ext k
      simp only [sessionHandles, Set.mem_ofPred_eq, Set.mem_sdiff, Set.mem_singleton_iff]
      rw [← exists_and_right]
      exact exists_congr fun x' => by rw [hw k]; simp [Handle.sessionOf]
    rw [hset, hcountH]
    by_cases hs : s = slotID
    · subst hs
      rw [Set.ncard_sdiff_singleton_of_mem (show hSession ∈ m.sessionHandles s from ⟨x, hx⟩)]
      simp [hm.count]
    · have hnot : hSession ∉ m.sessionHandles s := by
        rintro ⟨x', hx'⟩
        rw [hx, Option.some.injEq, Handle.session.injEq] at hx'
        exact hs hx'.1.symm
      rw [Set.sdiff_singleton_eq_self hnot, Function.update_of_ne hs, hm.count]

end close

lemma rep_sessionClosed (hm : Rep home m) (hSession : ℕ) :
    Rep home (m.sessionClosed hSession).1 := by
  unfold sessionClosed
  rcases hx : m.handles hSession with _ | ⟨slotID, x⟩ | ⟨s, S, p, o⟩
  · exact hm
  · have hc := rep_closeSession hm hx
    dsimp only
    split
    · exact rep_allSessionsClosed hc slotID
    · exact hc
  · exact hm

/-! ### No removal issues a handle -/

lemma destroyObject_counter (m : HandleManager Obj Sess) (h : ℕ) :
    (m.destroyObject h).1.handleCounter = m.handleCounter := by
  unfold destroyObject
  split <;> rfl

lemma tokenLoggedOut_counter (m : HandleManager Obj Sess) (slotID : ℕ) :
    (m.tokenLoggedOut slotID).1.handleCounter = m.handleCounter := by
  suffices h : ∀ (l : List ℕ) (acc : HandleManager Obj Sess × List Obj),
      (l.foldl (tokenLoggedOutRound slotID) acc).1.handleCounter = acc.1.handleCounter from
    h (m.slotHandles slotID) (m, [])
  intro l
  induction l with
  | nil => intro acc; rfl
  | cons h l ih =>
    intro acc
    rw [List.foldl_cons, ih]
    unfold tokenLoggedOutRound
    split <;> rfl

lemma allSessionsClosed_counter (m : HandleManager Obj Sess) (slotID : ℕ) :
    (m.allSessionsClosed slotID).1.handleCounter = m.handleCounter :=
  (allSessionsClosed_frame (m.slotHandles slotID) (m, [])).2.2.1

lemma closeSession_counter (m : HandleManager Obj Sess) (hSession slotID : ℕ) :
    (m.closeSession hSession slotID).1.handleCounter = m.handleCounter :=
  (sessionClosed_frame slotID (m.sessionObjectHandles hSession) (_, [])).2.2

lemma sessionClosed_counter (m : HandleManager Obj Sess) (hSession : ℕ) :
    (m.sessionClosed hSession).1.handleCounter = m.handleCounter := by
  unfold sessionClosed
  split
  · dsimp only
    split
    · rw [allSessionsClosed_counter, closeSession_counter]
    · exact closeSession_counter m hSession _
  · rfl

end SoftHSM.HandleManager
