import SoftHSM.Lib.Transition
import SoftHSM.Library.Outcomes
import SoftHSM.Library.Copying
import SoftHSM.Library.OneWay

/-!
Runs of the calls that make, change and copy objects, with anything else that may happen to objects
between them, and the way of an object and of its copies through a run.
-/

set_option linter.unusedSectionVars false

namespace SoftHSM.Create

open CK_RV Search P11Object OSObject AttributeMap
open RecordFile (Write)
open Transition

variable {Obj Sess : Type} [DecidableEq Obj] [DecidableEq Sess]

/-! ### Events -/

/-- What may happen to an object besides: nothing, its file is read again, it is destroyed, or it is
given the defaults that it lacks. -/
inductive Elsewhere (o : OSObject) : OSObject → Prop
  | same : Elsewhere o o
  | reloaded (hs : o.isSession = false) (ht : o.inTransaction = false) : Elsewhere o o.reload
  | destroyed (o' : OSObject) (hs : o'.Settled) (h : o'.shown = none) : Elsewhere o o'
  | read (stores : CK_ATTRIBUTE_TYPE → Write) (hv : o.valid = true) :
      Elsewhere o (newP11Object stores o).2

/-- A call, with what it takes from outside; the last stands for all other ones. -/
inductive Event (Obj : Type)
  | creation (x : Outside) (c : Creation Obj)
  | setAttributeValue (x : Outside) (stores : CK_ATTRIBUTE_TYPE → Write) (w : Storage)
      (hSession hObject : ℕ) (pTemplate : Option (List CK_ATTRIBUTE))
  | copyObject (x : Outside) (m : Making Obj) (hSession hObject : ℕ)
      (pTemplate : Option (List CK_ATTRIBUTE))
  | other

namespace Event

/-- The addresses of new objects. -/
def news : Event Obj → List Obj
  | .creation _ c => c.news
  | .copyObject _ m _ _ _ => [m.newObject]
  | _ => []

/-- The answer of a call. -/
def answer (P : Primitives) (st : Store Obj Sess) : Event Obj → CK_RV
  | .creation x c => (c.exec P x st).1
  | .setAttributeValue x stores w hSession hObject pTemplate =>
    (C_SetAttributeValue P x stores w hSession hObject pTemplate st).1
  | .copyObject x m hSession hObject pTemplate =>
    (C_CopyObject P x m hSession hObject pTemplate st).1
  | .other => CKR_OK

/-- The store after a call. Other calls may change all but the objects as they like. -/
def Step (P : Primitives) (st : Store Obj Sess) (ev : Event Obj) (st' : Store Obj Sess) : Prop :=
  match ev with
  | .creation x c => Ready c.news st ∧ st' = (c.exec P x st).2
  | .setAttributeValue x stores w hSession hObject pTemplate =>
    st' = (C_SetAttributeValue P x stores w hSession hObject pTemplate st).2
  | .copyObject x m hSession hObject pTemplate => Ready [m.newObject] st ∧
    st' = (C_CopyObject P x m hSession hObject pTemplate st).2.2
  | .other => ∀ o, Elsewhere (st.object o) (st'.object o)

/-- A successful copy of one object into another. -/
def Copies (P : Primitives) (st : Store Obj Sess) (o o' : Obj) : Event Obj → Prop
  | .copyObject x m hSession hObject pTemplate =>
    (C_CopyObject P x m hSession hObject pTemplate st).1 = CKR_OK ∧
      st.handleManager.getObject hObject = some o ∧ o' = m.newObject
  | _ => False

/-- Whether the security officer is logged in to the token of the session of a call. -/
def SoLoggedIn (st : Store Obj Sess) (hSession : ℕ) : Prop :=
  ∃ s, st.handleManager.getSession hSession = some s ∧
    (st.sdm (st.session s).slotID).soLoggedIn = true

end Event

/-- What one event does to an object. -/
inductive ObjectStep (P : Primitives) (st st' : Store Obj Sess) (o : Obj) : Event Obj → Prop
  | kept (ev : Event Obj) (h : st'.object o = st.object o) : ObjectStep P st st' o ev
  | made (x : Outside) (c : Creation Obj) (j : Job Obj) (hm : c.Makes P x st j)
      (ho : j.making.newObject = o) (h : Outcome P x st j st') :
      ObjectStep P st st' o (.creation x c)
  | changed (x : Outside) (stores : CK_ATTRIBUTE_TYPE → Write) (w : Storage)
      (hSession hObject : ℕ) (t : List CK_ATTRIBUTE) (s : Sess) (p : P11Object)
      (hs : st.handleManager.getSession hSession = some s)
      (ho : st.handleManager.getObject hObject = some o)
      (h : Changed (changing p (token P x (st.sdm (st.session s).slotID))
        ((st.object o).attributes.getBooleanValue CKA_PRIVATE true) .SET t) (st.object o)
        (st'.object o)) :
      ObjectStep P st st' o (.setAttributeValue x stores w hSession hObject (some t))
  | copied (x : Outside) (m : Making Obj) (hSession hObject : ℕ) (t : List CK_ATTRIBUTE) (s : Sess)
      (source : Obj) (hs : st.handleManager.getSession hSession = some s)
      (hsource : st.handleManager.getObject hObject = some source) (ho : o = m.newObject)
      (h : CopyOf (token P x (st.sdm (st.session s).slotID)) t (st.object source)
        (C_CopyObject P x m hSession hObject (some t) st).1 (st'.object o)) :
      ObjectStep P st st' o (.copyObject x m hSession hObject (some t))
  | elsewhere (h : Elsewhere (st.object o) (st'.object o)) : ObjectStep P st st' o .other

/-- All objects are as their files have them. -/
def AllSettled (st : Store Obj Sess) : Prop := ∀ o, (st.object o).Settled

section step

variable {P : Primitives} {st st' : Store Obj Sess} {ev : Event Obj}

/-- **What one event does to the objects.** -/
theorem step_cases (hset : AllSettled st) (h : ev.Step P st st') (o : Obj) :
    ObjectStep P st st' o ev := by
  cases ev with
  | creation x c =>
    obtain ⟨hready, rfl⟩ := h
    have hfin := creation_finished (P := P) (x := x) c hready
    by_cases ho : o ∈ c.news
    · rcases hfin.outcome o ho with hsame | ⟨j, hm, hj, hout⟩
      · exact .kept _ hsame
      · exact .made x c j hm hj hout
    · exact .kept _ (hfin.others o ho)
  | setAttributeValue x stores w hSession hObject pTemplate =>
    subst h
    rcases hr : C_SetAttributeValue P x stores w hSession hObject pTemplate st with ⟨rv, st'⟩
    rcases setAttributeValue_changed hset hr with
      ⟨-, rfl⟩ | ⟨t, s, o', object, p, rfl, hs, ho', rfl, hc, -⟩
    · exact .kept _ rfl
    · by_cases heq : o = o'
      · subst heq
        refine .changed x stores w hSession hObject t s p hs ho' ?_
        simp only [Store.setObject, Function.update_self]
        exact hc
      · exact .kept _ (by simp only [Store.setObject, Function.update_of_ne heq])
  | copyObject x m hSession hObject pTemplate =>
    obtain ⟨-, rfl⟩ := h
    rcases hr : C_CopyObject P x m hSession hObject pTemplate st with ⟨rv, hNew, st'⟩
    rcases copyObject_outcome hr with ⟨-, rfl⟩ | ⟨t, s, source, rfl, hs, hsource, hothers, hc⟩
    · exact .kept _ rfl
    · by_cases heq : o = m.newObject
      · subst heq
        refine .copied x m hSession hObject t s source hs hsource rfl ?_
        rw [hr]
        exact hc
      · exact .kept _ (hothers o heq)
  | other => exact .elsewhere (h o)

lemma elsewhere_settled {o o' : OSObject} (h : Elsewhere o o') (ho : o.Settled) : o'.Settled := by
  cases h with
  | same => exact ho
  | reloaded hs ht => exact (reload_cases hs ht).1
  | destroyed _ hs _ => exact hs
  | read stores hv =>
    rcases newP11Object_cases stores hv with ⟨-, hn⟩ | ⟨p, -, hn⟩ <;> rw [hn]
    · exact ho
    · exact (init_settled ho).1

lemma objectStep_settled {o : Obj} (h : ObjectStep P st st' o ev) (ho : (st.object o).Settled) :
    (st'.object o).Settled := by
  cases h with
  | kept _ h => exact h ▸ ho
  | made x c j hm hj hout => exact hj ▸ hout.settled
  | changed _ _ _ _ _ _ _ _ _ _ h => exact h.settled
  | copied _ _ _ _ _ _ _ _ _ _ h => exact h.settled
  | elsewhere h => exact elsewhere_settled h ho

theorem step_settled (hset : AllSettled st) (h : ev.Step P st st') : AllSettled st' :=
  fun o => objectStep_settled (step_cases hset h o) (hset o)

end step

end SoftHSM.Create
