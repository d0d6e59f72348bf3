import SoftHSM.HandleMgr.Remove

/-!
What the handle manager keeps whoever calls it, and whatever address an object has: a handle is
listed under its own slot and under no other. That is enough for the two operations that drop
all handles of a kind to find each of them.
-/

set_option linter.unusedSectionVars false

namespace SoftHSM.HandleManager

open SoftHSM.Table

variable {Obj Sess : Type} [DecidableEq Obj]

/-- A handle is listed under its own slot only, and nothing is listed that was not issued. -/
structure Listed (m : HandleManager Obj Sess) : Prop where
  listed : ∀ h e, m.handles h = some e → h ∈ m.slotHandles e.slotID
  only : ∀ s h e, h ∈ m.slotHandles s → m.handles h = some e → e.slotID = s
  issued : ∀ s, ∀ h ∈ m.slotHandles s, h ≤ m.handleCounter

/-- There is room for so many handles. -/
def Room (m : HandleManager Obj Sess) (n : ℕ) : Prop := m.handleCounter + n < 2 ^ 64

lemma listed_empty : Listed (empty : HandleManager Obj Sess) :=
  ⟨fun _ _ h => (nomatch h), fun _ _ _ h => (nomatch h), fun _ _ h => (nomatch h)⟩

/-- The manager with a handle more. -/
structure Issued (m : HandleManager Obj Sess) (e : Handle Obj Sess) (m' : HandleManager Obj Sess) :
    Prop where
  counter : m'.handleCounter = m.nextHandle
  handles : m'.handles = Function.update m.handles m.nextHandle (some e)
  slotHandles : m'.slotHandles = Function.update m.slotHandles e.slotID
    ((m.slotHandles e.slotID).insert m.nextHandle)

section listed

variable {m m' : HandleManager Obj Sess}

lemma nextHandle_of_room (hroom : m.Room 1) : m.nextHandle = m.handleCounter + 1 :=
  Nat.mod_eq_of_lt hroom

lemma Listed.handle_le (hm : Listed m) {h : ℕ} {e : Handle Obj Sess}
    (he : m.handles h = some e) : h ≤ m.handleCounter :=
  hm.issued _ h (hm.listed h e he)

lemma Listed.next_free (hm : Listed m) (hroom : m.Room 1) : m.handles m.nextHandle = none := by
  by_contra hne
  obtain ⟨e, he⟩ := Option.ne_none_iff_exists'.1 hne
  have hle := hm.handle_le he
  rw [nextHandle_of_room hroom] at hle
  omega

lemma Listed.issue (hm : Listed m) (hroom : m.Room 1) {e : Handle Obj Sess}
    (hi : Issued m e m') : Listed m' := by
  have hnext := nextHandle_of_room hroom
  have hmem : ∀ s h, h ∈ m'.slotHandles s ↔
      h ∈ m.slotHandles s ∨ s = e.slotID ∧ h = m.nextHandle := by
    intro s h
    rw [hi.slotHandles]
    by_cases hs : s = e.slotID
    · subst hs
      rw [Function.update_self, List.mem_insert_iff]
      tauto
    · rw [Function.update_of_ne hs]
      tauto
  refine ⟨fun h e' he => ?_, fun s h e' hh he => ?_, fun s h hh => ?_⟩
  · rw [hmem]
    rw [hi.handles] at he
    by_cases hk : h = m.nextHandle
    · rw [hk, Function.update_self, Option.some.injEq] at he
      exact .inr ⟨he ▸ rfl, hk⟩
    · rw [Function.update_of_ne hk] at he
      exact .inl (hm.listed h e' he)
  · rw [hi.handles] at he
    rcases (hmem s h).1 hh with hold | ⟨rfl, rfl⟩
    · have hk : h ≠ m.nextHandle := by
        have hle := hm.issued s h hold
        omega
      rw [Function.update_of_ne hk] at he
      exact hm.only s h e' hold he
    · rw [Function.update_self, Option.some.injEq] at he
      rw [he]
  · rw [hi.counter, hnext]
    rcases (hmem s h).1 hh with hold | ⟨-, rfl⟩
    · exact (hm.issued s h hold).trans (Nat.le_succ _)
    · exact hnext.le

/-- A handle is dropped, and from a list perhaps. -/
lemma Listed.erase (hm : Listed m) (h : ℕ)
    (hh : m'.handles = Function.update m.handles h none)
    (hs : ∀ s, m'.slotHandles s = m.slotHandles s ∨ m'.slotHandles s = (m.slotHandles s).erase h)
    (hc : m'.handleCounter = m.handleCounter) : Listed m' := by
  have hsub : ∀ s k, k ∈ m'.slotHandles s → k ∈ m.slotHandles s := by
    intro s k hk
    rcases hs s with heq | heq
    · exact heq ▸ hk
    · rw [heq] at hk
      exact List.mem_of_mem_erase hk
  have hkeep : ∀ k e, m'.handles k = some e → k ≠ h ∧ m.handles k = some e := by
    intro k e he
    rw [hh] at he
    by_cases hk : k = h
    · rw [hk, Function.update_self] at he
      cases he
    · rw [Function.update_of_ne hk] at he
      exact ⟨hk, he⟩
  refine ⟨fun k e he => ?_, fun s k e hk he => ?_, fun s k hk => ?_⟩
  · obtain ⟨hk, he⟩ := hkeep k e he
    rcases hs e.slotID with heq | heq
    · rw [heq]
      exact hm.listed k e he
    · rw [heq]
      exact (List.mem_erase_of_ne hk).2 (hm.listed k e he)
  · exact hm.only s k e (hsub s k hk) (hkeep k e he).2
  · rw [hc]
    exact hm.issued s k (hsub s k hk)

lemma update_erase_cases (idx : ℕ → List ℕ) (s h s' : ℕ) :
    Function.update idx s ((idx s).erase h) s' = idx s' ∨
      Function.update idx s ((idx s).erase h) s' = (idx s').erase h := by
  by_cases hs : s' = s
  · subst hs
    exact .inr (Function.update_self _ _ _)
  · exact .inl (Function.update_of_ne hs _ _)

/-! ### What was issued before -/

/-- A later state: a handle that was issued before has its old meaning, or none. -/
structure Later (m m' : HandleManager Obj Sess) : Prop where
  counter : m.handleCounter ≤ m'.handleCounter
  old : ∀ h e, h ≤ m.handleCounter → m'.handles h = some e → m.handles h = some e

lemma later_refl (m : HandleManager Obj Sess) : Later m m := ⟨le_refl _, fun _ _ _ he => he⟩

lemma Later.trans {m'' : HandleManager Obj Sess} (h : Later m m') (h' : Later m' m'') :
    Later m m'' :=
  ⟨h.counter.trans h'.counter, fun k e hk he => h.old k e hk (h'.old k e (hk.trans h.counter) he)⟩

lemma Issued.later {e : Handle Obj Sess} (hroom : m.Room 1) (hi : Issued m e m') : Later m m' := by
  have hnext := nextHandle_of_room hroom
  refine ⟨by rw [hi.counter, hnext]; omega, fun k e' hk he => ?_⟩
  rwa [hi.handles, Function.update_of_ne (by omega)] at he

lemma later_of_without {R : ℕ → Handle Obj Sess → Prop} (hw : Without m.handles m'.handles R)
    (hc : m'.handleCounter = m.handleCounter) : Later m m' :=
  ⟨hc.ge, fun _ _ _ he => hw.sub he⟩

/-! ### Issuing -/

lemma issued_addSession (m : HandleManager Obj Sess) (slotID : ℕ) (x : Sess) :
    Issued m (.session slotID x) (m.addSession slotID x).2 := ⟨rfl, rfl, rfl⟩

/-- The manager but for the index of the objects. -/
structure SameHandles (m m' : HandleManager Obj Sess) : Prop where
  counter : m'.handleCounter = m.handleCounter
  handles : m'.handles = m.handles
  slotHandles : m'.slotHandles = m.slotHandles
  slotSessionCount : m'.slotSessionCount = m.slotSessionCount

lemma sameHandles_refl (m : HandleManager Obj Sess) : SameHandles m m := ⟨rfl, rfl, rfl, rfl⟩

lemma sameHandles_registered {slotID : ℕ} {o : Obj} {r : ℕ × HandleManager Obj Sess}
    (hr : m.registered slotID o = some r) : SameHandles m r.2 := by
  unfold registered at hr
  split at hr
  · cases hr
  split at hr
  · split at hr
    · cases hr
      exact ⟨rfl, rfl, rfl, rfl⟩
    · cases hr
      exact sameHandles_refl _
  · cases hr
    exact ⟨rfl, rfl, rfl, rfl⟩

lemma addSessionObject_cases (m : HandleManager Obj Sess) (slotID hSession : ℕ) (isPrivate : Bool)
    (o : Obj) :
    let m' := (m.addSessionObject slotID hSession isPrivate o).2.1
    SameHandles m m' ∨ Issued m (.object slotID hSession isPrivate o) m' ∧
      m'.slotSessionCount = m.slotSessionCount := by
  unfold addSessionObject
  split
  · rename_i hr
    exact .inl (sameHandles_registered hr)
  · exact .inr ⟨⟨rfl, rfl, rfl⟩, rfl⟩

lemma addTokenObject_cases (m : HandleManager Obj Sess) (slotID : ℕ) (isPrivate : Bool) (o : Obj) :
    let m' := (m.addTokenObject slotID isPrivate o).2
    SameHandles m m' ∨ Issued m (.object slotID CK_INVALID_HANDLE isPrivate o) m' ∧
      m'.slotSessionCount = m.slotSessionCount := by
  unfold addTokenObject
  split
  · rename_i hr
    exact .inl (sameHandles_registered hr)
  · exact .inr ⟨⟨rfl, rfl, rfl⟩, rfl⟩

lemma SameHandles.later (hs : SameHandles m m') : Later m m' :=
  ⟨hs.counter.ge, fun _ _ _ he => hs.handles ▸ he⟩

lemma Listed.same (hm : Listed m) (hs : SameHandles m m') : Listed m' := by
  refine ⟨fun h e he => ?_, fun s h e hh he => ?_, fun s h hh => ?_⟩
  · rw [hs.slotHandles]
    exact hm.listed h e (hs.handles ▸ he)
  · exact hm.only s h e (hs.slotHandles ▸ hh) (hs.handles ▸ he)
  · rw [hs.counter]
    exact hm.issued s h (hs.slotHandles ▸ hh)

/-! ### Dropping -/

lemma listed_destroyObject (hm : Listed m) (h : ℕ) : Listed (m.destroyObject h).1 := by
  rcases he : m.handles h with _ | ⟨s, x⟩ | ⟨s, S, p, o⟩
  · rw [destroyObject_of_not_object (by simp [he])]
    exact hm
  · rw [destroyObject_of_not_object (by simp [he, Handle.objectOf])]
    exact hm
  · rw [destroyObject_of_object he]
    exact hm.erase h rfl (update_erase_cases _ _ _) rfl

/-- What a loop keeps, round by round. -/
lemma listed_foldl {f : HandleManager Obj Sess × List Obj → ℕ → HandleManager Obj Sess × List Obj}
    (hf : ∀ acc h, Listed acc.1 → Listed (f acc h).1) (l : List ℕ)
    {acc : HandleManager Obj Sess × List Obj} (hm : Listed acc.1) : Listed (l.foldl f acc).1 := by
  induction l generalizing acc with
  | nil => exact hm
  | cons h l ih => exact ih (hf acc h hm)

lemma listed_tokenLoggedOut (hm : Listed m) (slotID : ℕ) : Listed (m.tokenLoggedOut slotID).1 := by
  refine listed_foldl (fun acc h hacc => ?_) _ hm
  rcases he : acc.1.handles h with _ | ⟨s, x⟩ | ⟨s, S, _ | _, o⟩
  case some.object.true =>
    simp only [tokenLoggedOutRound, he]
    exact hacc.erase h rfl (update_erase_cases _ _ _) rfl
  all_goals simpa only [tokenLoggedOutRound, he] using hacc

/-- A listed handle is one of the slot. -/
lemma Listed.mem_iff (hm : Listed m) {s h : ℕ} {e : Handle Obj Sess} (he : m.handles h = some e) :
    h ∈ m.slotHandles s ↔ e.slotID = s := by
  constructor
  · exact fun hh => hm.only s h e hh he
  · rintro rfl
    exact hm.listed h e he

/-- Exactly the private objects of the slot have lost their handles. -/
lemma Listed.tokenLoggedOut_without (hm : Listed m) (slotID : ℕ) :
    Without m.handles (m.tokenLoggedOut slotID).1.handles
      fun _ v => v.slotID = slotID ∧ isPrivateObject v := by
  have h := Without.foldl (T := fun acc : HandleManager Obj Sess × List Obj => acc.1.handles)
    (tokenLoggedOutRound_handles slotID) (m.slotHandles slotID) (m, [])
  exact h.congr fun k v hk => and_congr_left fun _ => hm.mem_iff hk

/-- Exactly the handles of the slot are gone. -/
lemma Listed.allSessionsClosed_without (hm : Listed m) (slotID : ℕ) :
    Without m.handles (m.allSessionsClosed slotID).1.handles fun _ v => v.slotID = slotID := by
  have h := Without.foldl (P := fun _ : Handle Obj Sess => True)
    (T := fun acc : HandleManager Obj Sess × List Obj => acc.1.handles)
    allSessionsClosedRound_handles (m.slotHandles slotID) (m, [])
  refine h.congr fun k v hk => ?_
  rw [and_true]
  exact hm.mem_iff hk

lemma listed_allSessionsClosed (hm : Listed m) (slotID : ℕ) :
    Listed (m.allSessionsClosed slotID).1 := by
  have hloop : Listed ((m.slotHandles slotID).foldl allSessionsClosedRound (m, [])).1 := by
    refine listed_foldl (fun acc h hacc => ?_) _ hm
    rcases he : acc.1.handles h with _ | ⟨s, x⟩ | ⟨s, S, p, o⟩
    · simpa only [allSessionsClosedRound, he] using hacc
    all_goals
      simp only [allSessionsClosedRound, he]
      exact hacc.erase h rfl (fun s => .inl rfl) rfl
  have hgone := hm.allSessionsClosed_without slotID
  -- the list of the slot is cleared after the loop, when it has served
  have hkept : ∀ s h, h ∈ (m.allSessionsClosed slotID).1.slotHandles s →
      h ∈ ((m.slotHandles slotID).foldl allSessionsClosedRound (m, [])).1.slotHandles s := by
    intro s h hh
    by_cases hs : s = slotID
    · subst hs
      simp [allSessionsClosed] at hh
    · simpa [allSessionsClosed, hs] using hh
  refine ⟨fun h e he => ?_, fun s h e hh he => hloop.only s h e (hkept s h hh) he,
    fun s h hh => hloop.issued s h (hkept s h hh)⟩
  have hne : e.slotID ≠ slotID := ((hgone h e).1 he).2
  simpa [allSessionsClosed, hne] using hloop.listed h e he

/-- The handle of the session is gone, and no other one of a session. -/
lemma closeSession_without (m : HandleManager Obj Sess) (hSession slotID : ℕ) :
    Without m.handles (m.closeSession hSession slotID).1.handles
      fun k v => k = hSession ∨ k ∈ m.sessionObjectHandles hSession ∧ v.objectOf ≠ none :=
  (Without.update m.handles hSession).trans
    (Without.foldl (T := fun acc : HandleManager Obj Sess × List Obj => acc.1.handles)
      (sessionClosedRound_handles slotID) (m.sessionObjectHandles hSession) (_, []))

lemma listed_closeSession (hm : Listed m) (hSession slotID : ℕ) :
    Listed (m.closeSession hSession slotID).1 := by
  have h1 : Listed { m with
      slotHandles :=
        Function.update m.slotHandles slotID ((m.slotHandles slotID).erase hSession)
      handles := Function.update m.handles hSession none } :=
    hm.erase hSession rfl (update_erase_cases _ _ _) rfl
  have hround : ∀ (acc : HandleManager Obj Sess × List Obj) (h : ℕ), Listed acc.1 →
      Listed (sessionClosedRound slotID acc h).1 := by
    intro acc h hacc
    rcases he : acc.1.handles h with _ | ⟨s, x⟩ | ⟨s, S, p, o⟩
    · simpa only [sessionClosedRound, he] using hacc
    · simpa only [sessionClosedRound, he] using hacc
    · simp only [sessionClosedRound, he]
      exact hacc.erase h rfl (update_erase_cases _ _ _) rfl
  have hloop := @listed_foldl _ _ _ _ hround (m.sessionObjectHandles hSession) (_, []) h1
  exact ⟨hloop.listed, hloop.only, hloop.issued⟩

lemma closeSession_count (m : HandleManager Obj Sess) (hSession slotID : ℕ) :
    (m.closeSession hSession slotID).1.slotSessionCount =
      Function.update m.slotSessionCount slotID (m.slotSessionCount slotID - 1) := by
  simp only [closeSession]
  rw [(sessionClosed_frame slotID (m.sessionObjectHandles hSession) (_, [])).2.1]

lemma allSessionsClosed_count (m : HandleManager Obj Sess) (slotID : ℕ) :
    (m.allSessionsClosed slotID).1.slotSessionCount =
      Function.update m.slotSessionCount slotID 0 := by
  simp only [allSessionsClosed]
  rw [(allSessionsClosed_frame (m.slotHandles slotID) (m, [])).2.1]

/-- What goes with a session: its handle, objects of its own, and after the last session of a
slot everything on the slot. -/
def GoesWith (m : HandleManager Obj Sess) (hSession slotID : ℕ) (k : ℕ) (v : Handle Obj Sess) :
    Prop :=
  (k = hSession ∨ k ∈ m.sessionObjectHandles hSession ∧ v.objectOf ≠ none) ∨
    m.slotSessionCount slotID - 1 = 0 ∧ v.slotID = slotID

/-- **What closing a session does**, the last one of its slot or another. -/
lemma sessionClosed_spec (hm : Listed m) {hSession slotID : ℕ} {x : Sess}
    (hx : m.handles hSession = some (.session slotID x)) :
    Listed (m.sessionClosed hSession).1 ∧
      Without m.handles (m.sessionClosed hSession).1.handles (GoesWith m hSession slotID) ∧
      (m.sessionClosed hSession).1.slotSessionCount =
        Function.update m.slotSessionCount slotID (m.slotSessionCount slotID - 1) := by
  have hclosed := listed_closeSession hm hSession slotID
  have hwithout := closeSession_without m hSession slotID
  have hcount := closeSession_count m hSession slotID
  have hleft : (m.closeSession hSession slotID).1.slotSessionCount slotID =
      m.slotSessionCount slotID - 1 := by
    rw [hcount, Function.update_self]
  unfold sessionClosed
  rw [hx]
  dsimp only
  rw [hleft]
  split
  · rename_i hlast
    refine ⟨listed_allSessionsClosed hclosed slotID,
      (hwithout.trans (hclosed.allSessionsClosed_without slotID)).congr fun k v _ => ?_, ?_⟩
    · unfold GoesWith
      simp only [hlast, true_and]
    · dsimp only
      rw [allSessionsClosed_count, hcount, hlast]
      exact Function.update_idem _ _ _
  · rename_i hmore
    refine ⟨hclosed, hwithout.congr fun k v _ => ?_, hcount⟩
    unfold GoesWith
    simp only [hmore, false_and, or_false]

end listed

end SoftHSM.HandleManager
