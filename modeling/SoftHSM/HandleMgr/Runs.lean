import SoftHSM.Lib.Transition
import SoftHSM.HandleMgr.Remove

/-!
Whole runs of the handle manager: sequences of its seven operations from the empty table,
with the log of the handle values issued on the way.
-/

set_option linter.unusedSectionVars false

namespace SoftHSM.HandleManager

open SoftHSM.Table SoftHSM.Transition

variable {Obj Sess : Type} [DecidableEq Obj]

inductive Op (Obj Sess : Type)
  | addSession (slotID : ℕ) (session : Sess)
  | addSessionObject (slotID hSession : ℕ) (isPrivate : Bool) (object : Obj)
  | addTokenObject (slotID : ℕ) (isPrivate : Bool) (object : Obj)
  | destroyObject (hObject : ℕ)
  | sessionClosed (hSession : ℕ)
  | allSessionsClosed (slotID : ℕ)
  | tokenLoggedOut (slotID : ℕ)

def exec (m : HandleManager Obj Sess) : Op Obj Sess → HandleManager Obj Sess
  | .addSession s x => (m.addSession s x).2
  | .addSessionObject s S p o => (m.addSessionObject s S p o).2.1
  | .addTokenObject s p o => (m.addTokenObject s p o).2
  | .destroyObject h => (m.destroyObject h).1
  | .sessionClosed h => (m.sessionClosed h).1
  | .allSessionsClosed s => (m.allSessionsClosed s).1
  | .tokenLoggedOut s => (m.tokenLoggedOut s).1

/-- The handle value an operation issues: what it returns, unless the object was known. -/
def issue (m : HandleManager Obj Sess) : Op Obj Sess → List ℕ
  | .addSession s x => [(m.addSession s x).1]
  | .addSessionObject s S p o => if m.objects o = none then [(m.addSessionObject s S p o).1] else []
  | .addTokenObject s p o => if m.objects o = none then [(m.addTokenObject s p o).1] else []
  | _ => []

/-- Every object pointer is presented with the slot `home` gives it. -/
def Op.Presented (home : Obj → ℕ) : Op Obj Sess → Prop
  | .addSessionObject s _ _ o => s = home o
  | .addTokenObject s _ o => s = home o
  | _ => True

/-- A session object that is not known yet is registered under a live session of its slot. -/
def Op.UnderSession (m : HandleManager Obj Sess) : Op Obj Sess → Prop
  | .addSessionObject s S _ o =>
    m.objects o = none → ∃ x, m.handles S = some (.session s x)
  | _ => True

/-- The manager together with the log of the handles it has issued. -/
def execLog (a : HandleManager Obj Sess × List ℕ) (op : Op Obj Sess) :
    HandleManager Obj Sess × List ℕ :=
  (a.1.exec op, a.2 ++ a.1.issue op)

/-- What the callers of the manager see to. -/
def Allowed (home : Obj → ℕ) (a : HandleManager Obj Sess × List ℕ) (op : Op Obj Sess) : Prop :=
  op.Presented home ∧ op.UnderSession a.1

variable {home : Obj → ℕ} {m : HandleManager Obj Sess}

/-- What one operation issues: nothing, or the successor of the counter. -/
lemma issue_cases (hm : Rep home m) {op : Op Obj Sess} (hp : op.Presented home) :
    (m.issue op = [] ∧ (m.exec op).handleCounter = m.handleCounter) ∨
      (m.issue op = [m.nextHandle] ∧ (m.exec op).handleCounter = m.nextHandle) := by
  cases op with
  | addSession s x => exact .inr ⟨rfl, rfl⟩
  | addSessionObject s S p o =>
    obtain rfl : s = home o := hp
    rcases hm.addSessionObject_cases (S := S) (p := p) (o := o) with ⟨h, ho, heq⟩ | ⟨ho, hreg⟩
    · exact .inl ⟨by simp [issue, ho], by simp [exec, heq]⟩
    · exact .inr ⟨by simp [issue, ho, addSessionObject, hreg],
        by simp [exec, addSessionObject, hreg]⟩
  | addTokenObject s p o =>
    obtain rfl : s = home o := hp
    cases ho : m.objects o with
    | some h =>
      exact .inl ⟨by simp [issue, ho], by simp [exec, addTokenObject, hm.registered_of_mem ho]⟩
    | none =>
      have hreg : m.registered (home o) o = none := by simp [registered, ho]
      exact .inr ⟨by simp [issue, ho, addTokenObject, hreg],
        by simp [exec, addTokenObject, hreg]⟩
  | destroyObject h => exact .inl ⟨rfl, destroyObject_counter m h⟩
  | sessionClosed h => exact .inl ⟨rfl, sessionClosed_counter m h⟩
  | allSessionsClosed s => exact .inl ⟨rfl, allSessionsClosed_counter m s⟩
  | tokenLoggedOut s => exact .inl ⟨rfl, tokenLoggedOut_counter m s⟩

/-- **The step lemma.** An operation keeps the invariant as long as the counter does not
wrap. -/
lemma rep_exec (hm : Rep home m) {op : Op Obj Sess} (hp : op.Presented home)
    (hu : op.UnderSession m) (hc : m.issue op ≠ [] → m.handleCounter + 1 < 2 ^ 64) :
    Rep home (m.exec op) := by
  cases op with
  | addSession s x => exact rep_addSession hm (hc (by simp [issue])) s x
  | addSessionObject s S p o =>
    obtain rfl : s = home o := hp
    cases ho : m.objects o with
    | none => exact rep_addSessionObject hm (hc (by simp [issue, ho])) hu
    | some h => simpa [exec, addSessionObject, hm.registered_of_mem ho] using hm
  | addTokenObject s p o =>
    obtain rfl : s = home o := hp
    cases ho : m.objects o with
    | none => exact rep_addTokenObject hm (hc (by simp [issue, ho]))
    | some h => simpa [exec, addTokenObject, hm.registered_of_mem ho] using hm
  | destroyObject h => exact rep_destroyObject hm h
  | sessionClosed h => exact rep_sessionClosed hm h
  | allSessionsClosed s => exact rep_allSessionsClosed hm s
  | tokenLoggedOut s => exact rep_tokenLoggedOut hm s

/-- The manager and its log: the handles issued are `1, 2, …` up to the counter. -/
structure Logged (home : Obj → ℕ) (a : HandleManager Obj Sess × List ℕ) : Prop where
  rep : Rep home a.1
  log : a.2 = List.range' 1 a.1.handleCounter

/-- **The run lemma.** -/
lemma logged_run {ops : List (Op Obj Sess)} {a : HandleManager Obj Sess × List ℕ}
    (hrun : Run (Step (Allowed home) execLog) (empty, []) ops a) (hlog : a.2.length < 2 ^ 64) : Logged home a := by
  induction hrun with
  | nil => exact ⟨rep_empty home, rfl⟩
  | @snoc b c ops op hr hstep ih =>
    obtain ⟨⟨hp, hu⟩, rfl⟩ := hstep
    simp only [execLog, List.length_append] at hlog
    obtain ⟨hrep, hl⟩ := ih (by omega)
    have hlen : b.2.length = b.1.handleCounter := by rw [hl]; simp
    refine ⟨rep_exec hrep hp hu fun hne => ?_, ?_⟩
    · have : 0 < (b.1.issue op).length := List.length_pos_iff.mpr hne
      omega
    · rcases issue_cases hrep hp with ⟨h1, h2⟩ | ⟨h1, h2⟩
      · simpa [execLog, h1, h2] using hl
      · have hn := (hrep.next (by rw [h1] at hlog; simp at hlog; omega)).1
        simp only [execLog, h1, h2, hn, hl]
        rw [List.range'_concat]
        simp [Nat.add_comm]

lemma registered_count {s : ℕ} {o : Obj} {r : ℕ × HandleManager Obj Sess}
    (h : m.registered s o = some r) : r.2.slotSessionCount = m.slotSessionCount := by
  unfold registered at h
  split at h
  · cases h
  · split at h
    · split at h <;> (cases h; rfl)
    · cases h; rfl

/-- What is left of a slot once its session count has dropped to zero: nothing. -/
lemma count_drop (hm : Rep home m) {op : Op Obj Sess} {s : ℕ} (h0 : 0 < m.slotSessionCount s)
    (h1 : (m.exec op).slotSessionCount s = 0) :
    ∀ h e, (m.exec op).handles h = some e → e.slotID ≠ s := by
  cases op with
  | addSession s' x =>
    by_cases hs : s = s'
    · subst hs; simp [exec, addSession] at h1
    · simp [exec, addSession, hs] at h1; omega
  | addSessionObject s' S p o =>
    have : (m.exec (.addSessionObject s' S p o)).slotSessionCount = m.slotSessionCount := by
      simp only [exec, addSessionObject]
      split
      · rename_i heq; exact registered_count heq
      · rfl
    rw [this] at h1; omega
  | addTokenObject s' p o =>
    have : (m.exec (.addTokenObject s' p o)).slotSessionCount = m.slotSessionCount := by
      simp only [exec, addTokenObject]
      split
      · rename_i heq; exact registered_count heq
      · rfl
    rw [this] at h1; omega
  | destroyObject h =>
    have : (m.exec (.destroyObject h)).slotSessionCount = m.slotSessionCount := by
      simp only [exec, destroyObject]
      split <;> rfl
    rw [this] at h1; omega
  | sessionClosed h =>
    simp only [exec, sessionClosed] at h1 ⊢
    rcases hx : m.handles h with _ | ⟨s', x⟩ | ⟨s', S, p, o⟩
    · simp only [hx] at h1; omega
    · simp only [hx] at h1 ⊢
      have hcl := rep_closeSession hm hx
      have hkeep : ∀ t, t ≠ s' →
          (m.closeSession h s').1.slotSessionCount t = m.slotSessionCount t := by
        intro t ht
        simp only [closeSession, Function.update_of_ne ht]
        rw [(sessionClosed_frame s' (m.sessionObjectHandles h) (_, [])).2.1]
      split at h1
      · rename_i hz
        rw [if_pos hz]
        by_cases hs : s = s'
        · subst hs
          exact fun k e he => ((allSessionsClosed_handles hcl s k e).mp he).2
        · simp only [allSessionsClosed, Function.update_of_ne hs] at h1
          rw [(allSessionsClosed_frame _ _).2.1, hkeep s hs] at h1
          omega
      · rename_i hz
        by_cases hs : s = s'
        · subst hs; exact absurd h1 hz
        · rw [hkeep s hs] at h1; omega
    · simp only [hx] at h1; omega
  | allSessionsClosed s' =>
    by_cases hs : s = s'
    · subst hs
      exact fun k e he => ((allSessionsClosed_handles hm s k e).mp he).2
    · simp only [exec, allSessionsClosed, Function.update_of_ne hs] at h1
      rw [(allSessionsClosed_frame _ _).2.1] at h1
      dsimp only at h1
      omega
  | tokenLoggedOut s' =>
    have hw := tokenLoggedOut_handles hm s'
    have hrep := rep_tokenLoggedOut hm s'
    have hc := hrep.count s
    rw [sessionHandles_without hw (by simp [isPrivateObject]), ← hm.count s] at hc
    simp only [exec] at h1
    omega

/-! ### The representation invariant over runs -/

/-- **The representation invariant.** After any run in which every object pointer comes with
its slot, a new session object comes with a live session of that slot, and fewer than `2⁶⁴`
handles are issued: the indexes say what the table says, no handle was issued twice, and
whatever operation drops a slot's session count to zero leaves no handle of the slot. -/
theorem representation {ops : List (Op Obj Sess)} {a : HandleManager Obj Sess × List ℕ}
    (hrun : Run (Step (Allowed home) execLog) (empty, []) ops a) (hlog : a.2.length < 2 ^ 64) :
    (∀ o h, a.1.objects o = some h ↔ ∃ s S p, a.1.handles h = some (.object s S p o)) ∧
    (∀ s h, h ∈ a.1.slotHandles s ↔ ∃ e, a.1.handles h = some e ∧ e.slotID = s) ∧
    (∀ S, S ≠ CK_INVALID_HANDLE → ∀ h, h ∈ a.1.sessionObjectHandles S ↔
      ∃ s p o, a.1.handles h = some (.object s S p o)) ∧
    (∀ S h, h ∈ a.1.sessionObjectHandles S → ∃ s x, a.1.handles S = some (.session s x)) ∧
    (∀ s, a.1.slotSessionCount s = (a.1.sessionHandles s).ncard) ∧
    a.2.Nodup ∧
    (∀ op s, 0 < a.1.slotSessionCount s → (a.1.exec op).slotSessionCount s = 0 →
      ∀ h e, (a.1.exec op).handles h = some e → e.slotID ≠ s) := by
  obtain ⟨hm, hl⟩ := logged_run hrun hlog
  refine ⟨?_, fun s h => hm.mem_slot, ?_, ?_, hm.count, ?_, fun op s => count_drop hm⟩
  · intro o h
    rw [hm.objects o h]
    constructor
    · rintro ⟨⟨s, x⟩ | ⟨s, S, p, o'⟩, he, ho⟩
      · cases ho
      · cases ho; exact ⟨s, S, p, he⟩
    · rintro ⟨s, S, p, he⟩
      exact ⟨_, he, rfl⟩
  · intro S hS h
    rw [hm.sessions S h]
    constructor
    · rintro ⟨⟨s, x⟩ | ⟨s, S', p, o⟩, he, hs⟩
      · cases hs
      · simp only [Handle.sessionOf] at hs
        split at hs
        · cases hs
        · cases hs; exact ⟨s, p, o, he⟩
    · rintro ⟨s, p, o, he⟩
      exact ⟨_, he, by simp [Handle.sessionOf, hS]⟩
  · intro S h hh
    obtain ⟨e, he, hs⟩ := (hm.sessions S h).mp hh
    exact ⟨_, hm.live h e S he hs⟩
  · rw [hl]; exact List.nodup_range'

/-- A session, one of its objects and a token object, and the session closed again. -/
theorem representation_closed :
    let a : HandleManager Bool Unit × List ℕ := [.addSession 7 (), .addSessionObject 7 1 true false,
      .addTokenObject 7 false true, .sessionClosed 1].foldl execLog (empty, [])
    (∀ o h, a.1.objects o = some h ↔ ∃ s S p, a.1.handles h = some (.object s S p o)) ∧
      a.2.Nodup := by
  have hrun : Run (Step (Allowed fun _ : Bool => 7) execLog) (empty, []) _ _ := run_foldl
    (show AllAllowed (Allowed fun _ : Bool => 7) execLog (empty, []) [.addSession 7 (),
      .addSessionObject 7 1 true false, .addTokenObject 7 false true, .sessionClosed 1] from
        ⟨⟨trivial, trivial⟩, ⟨rfl, fun _ => ⟨(), rfl⟩⟩, ⟨rfl, trivial⟩, ⟨trivial, trivial⟩,
          trivial⟩)
  have h := representation hrun (by decide)
  exact ⟨h.1, h.2.2.2.2.2.1⟩

/-! ### What the invariant needs of its callers -/

/-- Opening and closing a session of an otherwise empty manager only moves the counter. -/
lemma open_close (c : ℕ) (x : Sess) :
    let m : HandleManager Obj Sess := { empty with handleCounter := c }
    (m.exec (.addSession 0 x)).exec (.sessionClosed ((c + 1) % 2 ^ 64)) =
      { empty with handleCounter := (c + 1) % 2 ^ 64 } := by
  simp [exec, addSession, sessionClosed, closeSession, allSessionsClosed, nextHandle, empty]

/-- `n` sessions opened and closed one after the other. -/
def openClose : ℕ → List (Op Unit Unit)
  | 0 => []
  | n + 1 => openClose n ++ [.addSession 0 (), .sessionClosed ((n + 1) % 2 ^ 64)]

lemma openClose_run (n : ℕ) :
    (openClose n).foldl execLog (empty, []) =
      ({ empty with handleCounter := n % 2 ^ 64 }, (List.range' 1 n).map (· % 2 ^ 64)) := by
  induction n with
  | zero => rfl
  | succ n ih =>
    have hc : (n % 2 ^ 64 + 1) % 2 ^ 64 = (n + 1) % 2 ^ 64 := Nat.mod_add_mod n _ 1
    have h := @open_close Unit Unit _ (n % 2 ^ 64) ()
    dsimp only at h
    rw [hc] at h
    simp only [openClose, List.foldl_append, ih, List.foldl_cons, List.foldl_nil, execLog, h]
    simp [issue, addSession, nextHandle, List.range'_concat, Nat.add_comm]

lemma openClose_allowed (n : ℕ) : ∀ op ∈ openClose n ++ [.addSession 0 ()],
    ∀ a : HandleManager Unit Unit × List ℕ, Allowed (fun _ => 0) a op := by
  have h : ∀ op ∈ openClose n, ∀ a : HandleManager Unit Unit × List ℕ,
      Allowed (fun _ => 0) a op := by
    induction n with
    | zero => simp [openClose]
    | succ n ih =>
      intro op hop a
      rcases List.mem_append.mp hop with hop | hop
      · exact ih op hop a
      · simp only [List.mem_cons, List.not_mem_nil, or_false] at hop
        rcases hop with rfl | rfl <;> exact ⟨trivial, trivial⟩
  intro op hop a
  rcases List.mem_append.mp hop with hop | hop
  · exact h op hop a
  · rw [List.mem_singleton.mp hop]
    exact ⟨trivial, trivial⟩

lemma openClose_reissues {n : ℕ} (h0 : 0 < n) (hn : n % 2 ^ 64 = 0) :
    ∃ a : HandleManager Unit Unit × List ℕ,
      Run (Step (Allowed fun _ => 0) execLog) (empty, []) (openClose n ++ [.addSession 0 ()]) a ∧
        ¬ a.2.Nodup := by
  refine ⟨_, run_foldl (allAllowed_of_forall (openClose_allowed n)), ?_⟩
  rw [List.foldl_append, openClose_run, hn]
  intro hnd
  refine (List.nodup_append.mp hnd).2.2 1 ?_ 1 ?_ rfl
  · exact List.mem_map.mpr ⟨1, List.mem_range'_1.mpr ⟨le_refl _, by omega⟩, rfl⟩
  · simp [issue, addSession, nextHandle]

/-- Without its callers' care the invariant does not hold. An object registered under a
session that was never opened is listed under a handle that is not a live session; and
after `2⁶⁴` sessions the counter wraps and a handle value is issued again. -/
theorem representation_needs_callers :
    (∃ a : HandleManager Unit Unit × List ℕ,
      Run (Step (fun _ op => op.Presented fun _ => 0) execLog) (empty, [])
        [.addSessionObject 0 5 false ()] a ∧
      1 ∈ a.1.sessionObjectHandles 5 ∧ a.1.handles 5 = none) ∧
    (∃ a : HandleManager Unit Unit × List ℕ,
      Run (Step (Allowed fun _ => 0) execLog) (empty, [])
        (openClose (2 ^ 64) ++ [.addSession 0 ()]) a ∧ ¬ a.2.Nodup) :=
  ⟨⟨_, run_foldl ⟨rfl, trivial⟩, by decide, rfl⟩,
    openClose_reissues (Nat.two_pow_pos 64) (Nat.mod_self _)⟩

end SoftHSM.HandleManager
