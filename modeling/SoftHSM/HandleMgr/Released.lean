import SoftHSM.HandleMgr.Remove

/-!
What the removing operations of the handle manager release: exactly the objects that had a
handle with a session before and have none after, each once.
-/

set_option linter.unusedSectionVars false

namespace SoftHSM.HandleManager

open SoftHSM.Table

variable {Obj Sess : Type} [DecidableEq Obj] {home : Obj → ℕ} {m : HandleManager Obj Sess}

/-- Some handle of the table is one of the object, with a session. -/
def Holds (tbl : ℕ → Option (Handle Obj Sess)) (o : Obj) : Prop :=
  ∃ k e S, tbl k = some e ∧ e.objectOf = some o ∧ e.sessionOf = some S

/-- From one table to the other exactly the objects of the list lost their handle with a
session. -/
structure Released (tbl tbl' : ℕ → Option (Handle Obj Sess)) (l : List Obj) : Prop where
  nodup : l.Nodup
  holds : ∀ o, Holds tbl o ↔ Holds tbl' o ∨ o ∈ l
  gone : ∀ o ∈ l, ¬ Holds tbl' o

lemma Released.refl (tbl : ℕ → Option (Handle Obj Sess)) : Released tbl tbl [] :=
  ⟨List.nodup_nil, by simp, by simp⟩

lemma Released.append {t0 t1 t2 : ℕ → Option (Handle Obj Sess)} {l l' : List Obj}
    (h : Released t0 t1 l) (h' : Released t1 t2 l') : Released t0 t2 (l' ++ l) where
  nodup := by
    refine List.nodup_append'.2 ⟨h'.nodup, h.nodup, fun o ho' ho => ?_⟩
    exact h.gone o ho ((h'.holds o).2 (.inr ho'))
  holds o := by
    rw [h.holds, h'.holds, List.mem_append, or_assoc]
  gone o ho := by
    rcases List.mem_append.1 ho with ho | ho
    · exact h'.gone o ho
    · exact fun hh => h.gone o ho ((h'.holds o).2 (.inl hh))

/-- Dropping a handle takes from its object the handle it has, if that has a session. -/
lemma holds_erase {tbl : ℕ → Option (Handle Obj Sess)} {inv : Obj → Option ℕ}
    (hinv : IsInverse tbl Handle.objectOf inv) {h : ℕ} {e : Handle Obj Sess}
    (he : tbl h = some e) (o : Obj) :
    Holds (Function.update tbl h none) o ↔
      Holds tbl o ∧ ¬ (e.objectOf = some o ∧ ∃ S, e.sessionOf = some S) := by
  constructor
  · rintro ⟨k, e', S, hk, ho, hS⟩
    have hkh : k ≠ h := by
      rintro rfl
      rw [Function.update_self] at hk
      cases hk
    rw [Function.update_of_ne hkh] at hk
    refine ⟨⟨k, e', S, hk, ho, hS⟩, fun ⟨ho', _⟩ => hkh ?_⟩
    exact hinv.unique hk ho he ho'
  · rintro ⟨⟨k, e', S, hk, ho, hS⟩, hn⟩
    have hkh : k ≠ h := by
      rintro rfl
      rw [he, Option.some.injEq] at hk
      subst hk
      exact hn ⟨ho, S, hS⟩
    exact ⟨k, e', S, by rwa [Function.update_of_ne hkh], ho, hS⟩

/-- A loop that drops handles and collects their objects, after some rounds. -/
structure Collecting (tbl : ℕ → Option (Handle Obj Sess))
    (acc : HandleManager Obj Sess × List Obj) : Prop where
  inverse : IsInverse acc.1.handles Handle.objectOf acc.1.objects
  released : Released tbl acc.1.handles acc.2

section round

variable {tbl : ℕ → Option (Handle Obj Sess)} {acc : HandleManager Obj Sess × List Obj}
  {r : HandleManager Obj Sess × List Obj} {h s S : ℕ} {p : Bool} {o : Obj}

/-- A round that drops the handle of an object. -/
lemma Collecting.erase (hc : Collecting tbl acc)
    (he : acc.1.handles h = some (.object s S p o))
    (hh : r.1.handles = Function.update acc.1.handles h none)
    (hobj : r.1.objects = Function.update acc.1.objects o none)
    (hl : r.2 = if S ≠ CK_INVALID_HANDLE then acc.2.insert o else acc.2) :
    Collecting tbl r := by
  have herase := holds_erase hc.inverse he
  refine ⟨by rw [hh, hobj]; exact hc.inverse.erase he rfl, ?_⟩
  by_cases hS : S = CK_INVALID_HANDLE
  · -- a token object has no handle with a session to lose
    have hsame : ∀ o', Holds r.1.handles o' ↔ Holds acc.1.handles o' := by
      intro o'
      rw [hh, herase]
      simp [Handle.sessionOf, hS]
    rw [if_neg (by simpa using hS)] at hl
    rw [hl]
    exact ⟨hc.released.nodup, fun o' => by rw [hc.released.holds, hsame],
      fun o' ho' => by rw [hsame]; exact hc.released.gone o' ho'⟩
  · have hheld : Holds acc.1.handles o := ⟨h, _, S, he, rfl, by simp [Handle.sessionOf, hS]⟩
    have hnew : o ∉ acc.2 := fun ho => hc.released.gone o ho hheld
    have hless : ∀ o', Holds r.1.handles o' ↔ Holds acc.1.handles o' ∧ o' ≠ o := by
      intro o'
      rw [hh, herase]
      simp [Handle.objectOf, Handle.sessionOf, hS, eq_comm]
    rw [if_pos hS, List.insert_of_not_mem hnew] at hl
    rw [hl]
    refine ⟨List.nodup_cons.2 ⟨hnew, hc.released.nodup⟩, fun o' => ?_, fun o' ho' => ?_⟩
    · rw [hc.released.holds, hless, List.mem_cons]
      by_cases hoo : o' = o
      · subst hoo
        simp [hheld]
      · simp [hoo]
    · rw [hless]
      rcases List.mem_cons.1 ho' with rfl | ho'
      · exact fun hn => hn.2 rfl
      · exact fun hn => hc.released.gone o' ho' hn.1

/-- A round that drops the handle of a session. -/
lemma Collecting.erase_session {x : Sess} (hc : Collecting tbl acc)
    (he : acc.1.handles h = some (.session s x))
    (hh : r.1.handles = Function.update acc.1.handles h none)
    (hobj : r.1.objects = acc.1.objects) (hl : r.2 = acc.2) : Collecting tbl r := by
  have hsame : ∀ o', Holds r.1.handles o' ↔ Holds acc.1.handles o' := by
    intro o'
    rw [hh, holds_erase hc.inverse he]
    simp [Handle.objectOf]
  refine ⟨?_, hl ▸ ⟨hc.released.nodup, fun o' => by rw [hc.released.holds, hsame],
    fun o' ho' => by rw [hsame]; exact hc.released.gone o' ho'⟩⟩
  rw [hh, hobj]
  refine hc.inverse.erase_other fun v hv => ?_
  rw [he, Option.some.injEq] at hv
  subst hv
  rfl

end round

lemma Rep.collecting (hm : Rep home m) : Collecting m.handles (m, []) :=
  ⟨hm.objects, .refl _⟩

lemma released_destroyObject (hm : Rep home m) (h : ℕ) :
    Released m.handles (m.destroyObject h).1.handles (m.destroyObject h).2 := by
  rcases he : m.handles h with _ | ⟨s, x⟩ | ⟨s, S, p, o⟩
  · rw [destroyObject_of_not_object (by simp [he])]
    exact .refl _
  · rw [destroyObject_of_not_object (by simp [he, Handle.objectOf])]
    exact .refl _
  · rw [destroyObject_of_object he]
    refine (hm.collecting.erase he rfl rfl ?_).released
    by_cases hS : S = CK_INVALID_HANDLE <;> simp [hS]

lemma released_tokenLoggedOut (hm : Rep home m) (slotID : ℕ) :
    Released m.handles (m.tokenLoggedOut slotID).1.handles (m.tokenLoggedOut slotID).2 := by
  suffices h : ∀ (l : List ℕ) (acc : HandleManager Obj Sess × List Obj),
      Collecting m.handles acc →
      Collecting m.handles (l.foldl (tokenLoggedOutRound slotID) acc) from
    (h _ _ hm.collecting).released
  intro l
  induction l with
  | nil => exact fun acc hacc => hacc
  | cons k l ih =>
    intro acc hacc
    refine ih _ ?_
    rcases he : acc.1.handles k with _ | ⟨s, x⟩ | ⟨s, S, _ | _, o⟩
    case some.object.true =>
      simp only [tokenLoggedOutRound, he]
      exact hacc.erase he rfl rfl rfl
    all_goals simpa only [tokenLoggedOutRound, he] using hacc

lemma released_allSessionsClosed (hm : Rep home m) (slotID : ℕ) :
    Released m.handles (m.allSessionsClosed slotID).1.handles (m.allSessionsClosed slotID).2 := by
  suffices h : ∀ (l : List ℕ) (acc : HandleManager Obj Sess × List Obj),
      Collecting m.handles acc → Collecting m.handles (l.foldl allSessionsClosedRound acc) from
    (h _ _ hm.collecting).released
  intro l
  induction l with
  | nil => exact fun acc hacc => hacc
  | cons k l ih =>
    intro acc hacc
    refine ih _ ?_
    rcases he : acc.1.handles k with _ | ⟨s, x⟩ | ⟨s, S, p, o⟩
    · simpa only [allSessionsClosedRound, he] using hacc
    · simp only [allSessionsClosedRound, he]
      exact hacc.erase_session he rfl rfl rfl
    · simp only [allSessionsClosedRound, he]
      exact hacc.erase he rfl rfl rfl

/-- The loop of `sessionClosed` passes handles of session objects only. -/
lemma released_closeSession (hm : Rep home m) {hSession slotID : ℕ} {x : Sess}
    (hx : m.handles hSession = some (.session slotID x)) :
    Released m.handles (m.closeSession hSession slotID).1.handles
      (m.closeSession hSession slotID).2 := by
  suffices h : ∀ (l : List ℕ) (acc : HandleManager Obj Sess × List Obj),
      Collecting m.handles acc →
      (∀ k ∈ l, ∀ e, acc.1.handles k = some e → ∃ S, e.sessionOf = some S) →
      Collecting m.handles (l.foldl (sessionClosedRound slotID) acc) by
    refine (h (m.sessionObjectHandles hSession) ({ m with
      slotHandles :=
        Function.update m.slotHandles slotID ((m.slotHandles slotID).erase hSession)
      handles := Function.update m.handles hSession none }, [])
      (hm.collecting.erase_session hx rfl rfl rfl) fun k hk e he => ?_).released
    obtain ⟨e', he', hs⟩ := (hm.sessions hSession k).1 hk
    have hsub := (Without.update m.handles hSession).sub he
    rw [hsub, Option.some.injEq] at he'
    exact ⟨_, he' ▸ hs⟩
  intro l
  induction l with
  | nil => exact fun acc hacc _ => hacc
  | cons k l ih =>
    intro acc hacc hl
    refine ih _ ?_ fun k' hk' e he =>
      hl k' (by simp [hk']) e ((sessionClosedRound_handles slotID acc k).sub he)
    rcases he : acc.1.handles k with _ | ⟨s, x⟩ | ⟨s, S, p, o⟩
    · simpa only [sessionClosedRound, he] using hacc
    · simpa only [sessionClosedRound, he] using hacc
    · obtain ⟨S', hS'⟩ := hl k (by simp) _ he
      have hS : S ≠ CK_INVALID_HANDLE := by
        rintro rfl
        simp [Handle.sessionOf] at hS'
      simp only [sessionClosedRound, he]
      exact hacc.erase he rfl rfl (by rw [if_pos hS])

/-- **What closing a session releases.** -/
theorem released_sessionClosed (hm : Rep home m) (hSession : ℕ) :
    Released m.handles (m.sessionClosed hSession).1.handles (m.sessionClosed hSession).2 := by
  unfold sessionClosed
  rcases hx : m.handles hSession with _ | ⟨slotID, x⟩ | ⟨s, S, p, o⟩
  · exact .refl _
  · have hc := released_closeSession hm hx
    dsimp only
    split
    · exact hc.append (released_allSessionsClosed (rep_closeSession hm hx) slotID)
    · exact hc
  · exact .refl _

end SoftHSM.HandleManager
