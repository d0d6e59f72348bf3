import Mathlib.Data.List.Basic
import Mathlib.Logic.Function.Basic
import SoftHSM.Cryptoki
import SoftHSM.Lib.Transition

/-!
The monitor of slot events, which outlives the library: its four critical sections, and what
the callers of `C_WaitForSlotEvent` hear in any interleaving of them.

A blocking call is two critical sections. In between its caller sleeps, with the epoch it read
on the way in; it may be woken at any time, and goes back to sleep where nothing has happened.
-/

namespace SoftHSM

open CK_RV Transition

def CKF_DONT_BLOCK : CK_FLAGS := 1

structure SlotEventState where
  pending : List CK_SLOT_ID
  /-- set by `C_Initialize`, cleared by `C_Finalize` -/
  isOpen : Bool
  waiting : Bool
  epoch : UInt64

namespace SlotEventState

/-- The constructor. -/
def init : SlotEventState := ⟨[], false, false, 0⟩

def postSlotEvent (slotID : CK_SLOT_ID) (state : SlotEventState) : SlotEventState :=
  { state with pending := state.pending ++ [slotID] }

def beginSlotEventEpoch (state : SlotEventState) : SlotEventState := { state with isOpen := true }

def endSlotEventEpoch (state : SlotEventState) : SlotEventState :=
  { state with isOpen := false, pending := [], epoch := state.epoch + 1 }

/-- Where a caller of `awaitSlotEvent` is when it gives up the lock. -/
inductive Answer
  | returned (rv : CK_RV) (slotID : Option CK_SLOT_ID)
  | asleep (epoch : UInt64)
  deriving DecidableEq

/-- `awaitSlotEvent` up to its return, or up to where it waits. -/
def awaitSlotEvent (flags : CK_FLAGS) (hasSlot hasReserved : Bool) (state : SlotEventState) :
    Answer × SlotEventState :=
  if !state.isOpen then (.returned CKR_CRYPTOKI_NOT_INITIALIZED none, state)
  else if hasReserved then (.returned CKR_ARGUMENTS_BAD none, state)
  else if !hasSlot then (.returned CKR_ARGUMENTS_BAD none, state)
  else
    match state.pending with
    | slotID :: pending => (.returned CKR_OK (some slotID), { state with pending := pending })
    | [] =>
      if flags &&& CKF_DONT_BLOCK ≠ 0 then (.returned CKR_NO_EVENT none, state)
      else if state.waiting then (.returned CKR_FUNCTION_FAILED none, state)
      else (.asleep state.epoch, { state with waiting := true })

/-- The rest of `awaitSlotEvent`, from where the caller is woken up: no result where it reads the
front of an empty queue. -/
def wakeUp (epoch : UInt64) (state : SlotEventState) : Option (Answer × SlotEventState) :=
  if state.pending.isEmpty && state.epoch = epoch then some (.asleep epoch, state)
  else
    let state := { state with waiting := false }
    if state.epoch ≠ epoch then some (.returned CKR_CRYPTOKI_NOT_INITIALIZED none, state)
    else
      match state.pending with
      | [] => none
      | slotID :: pending =>
        some (.returned CKR_OK (some slotID), { state with pending := pending })

/-- What a call does up to its return or its wait. -/
lemma awaitSlotEvent_cases (flags : CK_FLAGS) (hasSlot hasReserved : Bool)
    (s : SlotEventState) :
    (∃ rv, rv ≠ CKR_OK ∧ awaitSlotEvent flags hasSlot hasReserved s = (.returned rv none, s)) ∨
    (∃ slotID pending, s.pending = slotID :: pending ∧
      awaitSlotEvent flags hasSlot hasReserved s =
        (.returned CKR_OK (some slotID), { s with pending := pending })) ∨
    s.waiting = false ∧
      awaitSlotEvent flags hasSlot hasReserved s =
        (.asleep s.epoch, { s with waiting := true }) := by
  unfold awaitSlotEvent
  split
  · exact .inl ⟨_, by decide, rfl⟩
  split
  · exact .inl ⟨_, by decide, rfl⟩
  split
  · exact .inl ⟨_, by decide, rfl⟩
  split
  · exact .inr (.inl ⟨_, _, ‹_›, rfl⟩)
  split
  · exact .inl ⟨_, by decide, rfl⟩
  split
  · exact .inl ⟨_, by decide, rfl⟩
  · rename_i hwaiting
    exact .inr (.inr ⟨by simpa using hwaiting, rfl⟩)

/-- What a caller does that is woken up. The queue is not empty where it is read. -/
lemma wakeUp_cases (epoch : UInt64) (s : SlotEventState) :
    (s.pending = [] ∧ s.epoch = epoch ∧ wakeUp epoch s = some (.asleep epoch, s)) ∨
    (s.epoch ≠ epoch ∧ wakeUp epoch s =
      some (.returned CKR_CRYPTOKI_NOT_INITIALIZED none, { s with waiting := false })) ∨
    ∃ slotID pending, s.pending = slotID :: pending ∧ s.epoch = epoch ∧ wakeUp epoch s =
      some (.returned CKR_OK (some slotID), { s with waiting := false, pending := pending }) := by
  unfold wakeUp
  by_cases he : s.epoch = epoch
  · rcases hp : s.pending with _ | ⟨slotID, pending⟩
    · exact .inl ⟨rfl, he, by simp [he]⟩
    · exact .inr (.inr ⟨slotID, pending, rfl, he, by simp [he]⟩)
  · exact .inr (.inl ⟨he, by simp [he]⟩)

end SlotEventState

open SlotEventState

/-! ### Callers -/

/-- The state, and the callers that are asleep with the epoch each has read. -/
structure SlotEvents (ι : Type) where
  state : SlotEventState
  parked : ι → Option UInt64

namespace SlotEvents

variable {ι : Type} [DecidableEq ι]

inductive Op (ι : Type)
  | post (slotID : CK_SLOT_ID)
  | begin
  | finish
  | call (c : ι) (flags : CK_FLAGS) (hasSlot hasReserved : Bool)
  | wake (c : ι)

/-- Where the caller is now. -/
def settle (m : SlotEvents ι) (c : ι) (r : Answer × SlotEventState) : SlotEvents ι :=
  ⟨r.2, Function.update m.parked c
    (match r.1 with
    | .asleep epoch => some epoch
    | .returned _ _ => none)⟩

/-- One critical section, with what its caller hears: no result where a caller that is not
asleep is woken, or where the front of an empty queue is read. -/
def exec (m : SlotEvents ι) : Op ι → Option (Option Answer × SlotEvents ι)
  | .post slotID => some (none, { m with state := postSlotEvent slotID m.state })
  | .begin => some (none, { m with state := beginSlotEventEpoch m.state })
  | .finish => some (none, { m with state := endSlotEventEpoch m.state })
  | .call c flags hasSlot hasReserved =>
    let r := awaitSlotEvent flags hasSlot hasReserved m.state
    some (some r.1, m.settle c r)
  | .wake c => do
    let r ← wakeUp (← m.parked c) m.state
    return (some r.1, m.settle c r)

/-! ### The record of a run -/

/-- The events that were posted and returned so far, each with an epoch: the one it was posted
in, and the one its caller came in. -/
structure Record (ι : Type) where
  closed : ℕ
  posted : List (ℕ × CK_SLOT_ID)
  returned : List (ℕ × CK_SLOT_ID)
  entered : ι → ℕ

def Record.start : Record ι := ⟨0, [], [], fun _ => 0⟩

/-- An event that the caller returns with. -/
def Record.hears (h : Record ι) (c : ι) : Option Answer → Record ι
  | some (.returned _ (some slotID)) =>
    { h with returned := h.returned ++ [(h.entered c, slotID)] }
  | _ => h

def Record.add (h : Record ι) : Op ι × Option Answer → Record ι
  | (.post slotID, _) => { h with posted := h.posted ++ [(h.closed, slotID)] }
  | (.begin, _) => h
  | (.finish, _) => { h with closed := h.closed + 1 }
  | (.call c _ _ _, answer) =>
    { h with entered := Function.update h.entered c h.closed }.hears c answer
  | (.wake c, answer) => h.hears c answer

/-- The events of one epoch, in their order. -/
def inEpoch (events : List (ℕ × CK_SLOT_ID)) (k : ℕ) : List CK_SLOT_ID :=
  (events.filter (·.1 = k)).map Prod.snd

@[simp] lemma inEpoch_nil (k : ℕ) : inEpoch [] k = [] := rfl

lemma inEpoch_snoc (events : List (ℕ × CK_SLOT_ID)) (j k : ℕ) (slotID : CK_SLOT_ID) :
    inEpoch (events ++ [(j, slotID)]) k =
      inEpoch events k ++ if j = k then [slotID] else [] := by
  unfold inEpoch
  by_cases h : j = k
  · simp [h]
  · simp [h]

structure Observed (ι : Type) where
  monitor : SlotEvents ι
  history : Record ι

def Observed.start : Observed ι := ⟨⟨.init, fun _ => none⟩, .start⟩

/-- A caller that is asleep does not call again. -/
def Awake (m : SlotEvents ι) : Op ι → Prop
  | .call c _ _ _ => m.parked c = none
  | _ => True

def Step (o : Observed ι) (l : Op ι × Option Answer) (o' : Observed ι) : Prop :=
  Awake o.monitor l.1 ∧ o.monitor.exec l.1 = some (l.2, o'.monitor) ∧
    o'.history = o.history.add l

/-- The counter of epochs does not come round while a caller is asleep. -/
def Unwrapped (o : Observed ι) : Op ι → Prop
  | .finish => ∀ c epoch, o.monitor.parked c = some epoch →
      o.history.closed + 1 < o.history.entered c + 2 ^ 64
  | _ => True

def StepUnwrapped (o : Observed ι) (l : Op ι × Option Answer) (o' : Observed ι) : Prop :=
  Step o l o' ∧ Unwrapped o l.1

/-! ### The callers that are asleep -/

/-- There is one caller asleep exactly while the flag is set, and the epoch it knows is the one
it came in. -/
structure Sleepers (parked : ι → Option UInt64) (waiting : Bool) (h : Record ι) : Prop where
  known : ∀ c epoch, parked c = some epoch → epoch = UInt64.ofNat (h.entered c) ∧
    h.entered c ≤ h.closed ∧ h.closed < h.entered c + 2 ^ 64
  flag : ∀ c, parked c ≠ none → waiting = true
  one : ∀ c c', parked c ≠ none → parked c' ≠ none → c = c'
  someone : waiting = true → ∃ c, parked c ≠ none

variable {parked : ι → Option UInt64} {waiting : Bool} {h : Record ι}

omit [DecidableEq ι] in
lemma sleepers_nobody (h : Record ι) : Sleepers (fun _ => none) false h :=
  ⟨fun _ _ hc => (nomatch hc), fun _ hc => absurd rfl hc, fun _ _ hc => absurd rfl hc,
    fun hw => (nomatch hw)⟩

lemma update_entered_of_parked {c c' : ι} (hc : parked c = none) (hc' : parked c' ≠ none) (n : ℕ) :
    Function.update h.entered c n c' = h.entered c' := by
  refine Function.update_of_ne ?_ _ _
  rintro rfl
  exact hc' hc

/-- A caller that does not go to sleep. -/
lemma Sleepers.returned (hs : Sleepers parked waiting h) {c : ι} (hc : parked c = none) (n : ℕ)
    (l : List (ℕ × CK_SLOT_ID)) : Sleepers (Function.update parked c none) waiting
      { h with entered := Function.update h.entered c n, returned := l } := by
  rw [show Function.update parked c none = parked from hc ▸ Function.update_eq_self c parked]
  refine ⟨fun c' epoch hc' => ?_, hs.flag, hs.one, hs.someone⟩
  have hne : parked c' ≠ none := by simp [hc']
  change epoch = UInt64.ofNat (Function.update h.entered c n c') ∧
    Function.update h.entered c n c' ≤ h.closed ∧
      h.closed < Function.update h.entered c n c' + 2 ^ 64
  rw [update_entered_of_parked hc hne]
  exact hs.known c' epoch hc'

/-- A caller that goes to sleep, where nobody sleeps. -/
lemma Sleepers.asleep (hs : Sleepers parked false h) (c : ι) :
    Sleepers (Function.update parked c (some (UInt64.ofNat h.closed))) true
      { h with entered := Function.update h.entered c h.closed } := by
  have hnobody : ∀ c', parked c' = none := by
    intro c'
    by_contra hc'
    cases hs.flag c' hc'
  have honly : ∀ c', Function.update parked c (some (UInt64.ofNat h.closed)) c' ≠ none →
      c' = c := by
    intro c' hc'
    by_contra hne
    exact hc' ((Function.update_of_ne hne _ _).trans (hnobody c'))
  refine ⟨fun c' epoch hc' => ?_, fun _ _ => rfl, fun c₁ c₂ h₁ h₂ => ?_, fun _ => ⟨c, ?_⟩⟩
  · obtain rfl := honly c' (by rw [hc']; exact Option.some_ne_none _)
    rw [Function.update_self] at hc'
    refine ⟨?_, ?_, ?_⟩
    · change epoch = UInt64.ofNat (Function.update h.entered c' h.closed c')
      rw [Function.update_self, ← Option.some.inj hc']
    · exact Nat.le_of_eq (Function.update_self _ _ _)
    · change h.closed < Function.update h.entered c' h.closed c' + 2 ^ 64
      rw [Function.update_self]
      omega
  · rw [honly c₁ h₁, honly c₂ h₂]
  · rw [Function.update_self]
    exact Option.some_ne_none _

/-- The one that sleeps is awake again. -/
lemma Sleepers.awake (hs : Sleepers parked waiting h) {c : ι} (hc : parked c ≠ none)
    (h' : Record ι) : Sleepers (Function.update parked c none) false h' := by
  have hnobody : Function.update parked c none = fun _ => none := by
    funext c'
    by_cases hne : c' = c
    · rw [hne, Function.update_self]
    · rw [Function.update_of_ne hne]
      by_contra hc'
      exact hne (hs.one c' c hc' hc)
  rw [hnobody]
  exact sleepers_nobody h'

/-- As long as the counter does not come round, a caller sees whether its epoch is closed. -/
lemma epoch_eq_iff {entered closed : ℕ} (hle : entered ≤ closed)
    (hlt : closed < entered + 2 ^ 64) :
    UInt64.ofNat closed = UInt64.ofNat entered ↔ closed = entered := by
  rw [← UInt64.toNat_inj, UInt64.toNat_ofNat', UInt64.toNat_ofNat']
  omega

omit [DecidableEq ι] in
lemma Sleepers.epoch_eq_iff (hs : Sleepers parked waiting h) {c : ι} {epoch : UInt64}
    (hc : parked c = some epoch) : UInt64.ofNat h.closed = epoch ↔ h.closed = h.entered c := by
  obtain ⟨rfl, hle, hlt⟩ := hs.known c epoch hc
  exact SlotEvents.epoch_eq_iff hle hlt

/-! ### The queue -/

/-- The events of every epoch leave in the order they came in, and the queue holds those of the
epoch that is open. -/
structure Queue (pending : List CK_SLOT_ID) (h : Record ι) : Prop where
  current : inEpoch h.posted h.closed = inEpoch h.returned h.closed ++ pending
  earlier : ∀ k, k < h.closed → inEpoch h.returned k <+: inEpoch h.posted k
  later : ∀ k, h.closed < k → inEpoch h.posted k = [] ∧ inEpoch h.returned k = []

variable {pending : List CK_SLOT_ID}

omit [DecidableEq ι] in
lemma queue_start : Queue [] (.start : Record ι) :=
  ⟨rfl, fun k hk => absurd hk (Nat.not_lt_zero k), fun _ _ => ⟨rfl, rfl⟩⟩

omit [DecidableEq ι] in
lemma Queue.post (hq : Queue pending h) (slotID : CK_SLOT_ID) :
    Queue (pending ++ [slotID]) { h with posted := h.posted ++ [(h.closed, slotID)] } := by
  refine ⟨?_, fun k hk => ?_, fun k hk => ?_⟩
  · change inEpoch (h.posted ++ [(h.closed, slotID)]) h.closed = _
    rw [inEpoch_snoc, if_pos rfl, hq.current, List.append_assoc]
  · have hne : h.closed ≠ k := Nat.ne_of_gt hk
    change _ <+: inEpoch (h.posted ++ [(h.closed, slotID)]) k
    rw [inEpoch_snoc, if_neg hne, List.append_nil]
    exact hq.earlier k hk
  · have hne : h.closed ≠ k := Nat.ne_of_lt hk
    change inEpoch (h.posted ++ [(h.closed, slotID)]) k = [] ∧ _
    rw [inEpoch_snoc, if_neg hne, List.append_nil]
    exact hq.later k hk

omit [DecidableEq ι] in
/-- A caller of the epoch that is open takes the first event. -/
lemma Queue.take {slotID : CK_SLOT_ID} (hq : Queue (slotID :: pending) h) (entered : ι → ℕ) {n : ℕ}
    (hn : n = h.closed) :
    Queue pending { h with entered := entered, returned := h.returned ++ [(n, slotID)] } := by
  subst hn
  refine ⟨?_, fun k hk => ?_, fun k hk => ?_⟩
  · change _ = inEpoch (h.returned ++ [(h.closed, slotID)]) h.closed ++ pending
    rw [inEpoch_snoc, if_pos rfl, List.append_assoc]
    exact hq.current
  · have hne : h.closed ≠ k := Nat.ne_of_gt hk
    change inEpoch (h.returned ++ [(h.closed, slotID)]) k <+: _
    rw [inEpoch_snoc, if_neg hne, List.append_nil]
    exact hq.earlier k hk
  · have hne : h.closed ≠ k := Nat.ne_of_lt hk
    change _ ∧ inEpoch (h.returned ++ [(h.closed, slotID)]) k = []
    rw [inEpoch_snoc, if_neg hne, List.append_nil]
    exact hq.later k hk

omit [DecidableEq ι] in
/-- What is left of an epoch that is closed is not returned any more. -/
lemma Queue.finish (hq : Queue pending h) : Queue [] { h with closed := h.closed + 1 } := by
  refine ⟨?_, fun k hk => ?_, fun k hk => hq.later k (Nat.lt_of_succ_lt hk)⟩
  · obtain ⟨hp, hr⟩ := hq.later (h.closed + 1) (Nat.lt_succ_self _)
    exact hp.trans (congrArg (· ++ []) hr).symm
  · rcases Nat.lt_succ_iff_lt_or_eq.1 hk with hk | rfl
    · exact hq.earlier k hk
    · exact ⟨_, hq.current.symm⟩

omit [DecidableEq ι] in
lemma Queue.prefix (hq : Queue pending h) (k : ℕ) :
    inEpoch h.returned k <+: inEpoch h.posted k := by
  rcases Nat.lt_trichotomy k h.closed with hk | rfl | hk
  · exact hq.earlier k hk
  · exact ⟨_, hq.current.symm⟩
  · have hr : inEpoch h.returned k = [] := (hq.later k hk).2
    exact hr ▸ List.nil_prefix

/-! ### Runs -/

structure Inv (o : Observed ι) : Prop where
  epoch : o.monitor.state.epoch = UInt64.ofNat o.history.closed
  sleepers : Sleepers o.monitor.parked o.monitor.state.waiting o.history
  queue : Queue o.monitor.state.pending o.history

variable {o o' : Observed ι}

omit [DecidableEq ι] in
lemma inv_start : Inv (.start : Observed ι) := ⟨rfl, sleepers_nobody _, queue_start⟩

lemma ofNat_succ (n : ℕ) : UInt64.ofNat n + 1 = UInt64.ofNat (n + 1) := by
  rw [← UInt64.toNat_inj, UInt64.toNat_add, UInt64.toNat_ofNat', UInt64.toNat_ofNat']
  simp

lemma inv_call (hi : Inv o) {c : ι} (hc : o.monitor.parked c = none) (flags : CK_FLAGS)
    (hasSlot hasReserved : Bool) :
    let r := awaitSlotEvent flags hasSlot hasReserved o.monitor.state
    Inv ⟨o.monitor.settle c r, o.history.add (.call c flags hasSlot hasReserved, some r.1)⟩ := by
  intro r
  rcases awaitSlotEvent_cases flags hasSlot hasReserved o.monitor.state with
    ⟨rv, -, he⟩ | ⟨slotID, pending, hp, he⟩ | ⟨hw, he⟩
  · rw [show r = _ from he]
    exact ⟨hi.epoch, hi.sleepers.returned hc _ _, ⟨hi.queue.current, hi.queue.earlier,
      hi.queue.later⟩⟩
  · rw [show r = _ from he]
    exact ⟨hi.epoch, hi.sleepers.returned hc _ _,
      (hp ▸ hi.queue).take _ (Function.update_self _ _ _)⟩
  · rw [show r = _ from he]
    exact ⟨hi.epoch, hi.epoch ▸ (hw ▸ hi.sleepers).asleep c, ⟨hi.queue.current, hi.queue.earlier,
      hi.queue.later⟩⟩

lemma exec_wake {m m' : SlotEvents ι} {c : ι} {answer : Option Answer}
    (h : m.exec (.wake c) = some (answer, m')) : ∃ epoch r, m.parked c = some epoch ∧
      wakeUp epoch m.state = some r ∧ answer = some r.1 ∧ m' = m.settle c r := by
  obtain ⟨epoch, hc, h⟩ := Option.bind_eq_some_iff.1 h
  obtain ⟨r, hr, h⟩ := Option.bind_eq_some_iff.1 h
  obtain ⟨rfl, rfl⟩ := Prod.mk.inj (Option.some.inj h)
  exact ⟨epoch, r, hc, hr, rfl, rfl⟩

/-- A caller that goes back to sleep. -/
lemma settle_asleep {m : SlotEvents ι} {c : ι} {epoch : UInt64} (hc : m.parked c = some epoch) :
    m.settle c (.asleep epoch, m.state) = m := by
  have hparked : Function.update m.parked c (some epoch) = m.parked :=
    hc ▸ Function.update_eq_self c m.parked
  exact congrArg (SlotEvents.mk _) hparked

lemma inv_wake (hi : Inv o) {c : ι} {epoch : UInt64} (hc : o.monitor.parked c = some epoch)
    {r : Answer × SlotEventState} (hr : wakeUp epoch o.monitor.state = some r) :
    Inv ⟨o.monitor.settle c r, o.history.add (.wake c, some r.1)⟩ := by
  have hne : o.monitor.parked c ≠ none := by simp [hc]
  rcases wakeUp_cases epoch o.monitor.state with
    ⟨-, -, he⟩ | ⟨-, he⟩ | ⟨slotID, pending, hp, hep, he⟩
  · obtain rfl := Option.some.inj (he.symm.trans hr)
    rw [settle_asleep hc]
    exact hi
  · obtain rfl := Option.some.inj (he.symm.trans hr)
    exact ⟨hi.epoch, hi.sleepers.awake hne _, hi.queue⟩
  · obtain rfl := Option.some.inj (he.symm.trans hr)
    have hcur := (hi.sleepers.epoch_eq_iff hc).1 (hi.epoch ▸ hep)
    exact ⟨hi.epoch, hi.sleepers.awake hne _, (hp ▸ hi.queue).take o.history.entered hcur.symm⟩

/-- **One critical section.** -/
lemma inv_step (hi : Inv o) {l : Op ι × Option Answer} (hs : StepUnwrapped o l o') : Inv o' := by
  obtain ⟨op, answer⟩ := l
  obtain ⟨monitor, history⟩ := o'
  obtain ⟨⟨hawake, hexec, rfl⟩, hw⟩ := hs
  cases op with
  | post slotID =>
    obtain ⟨rfl, rfl⟩ := Prod.mk.inj (Option.some.inj hexec)
    exact ⟨hi.epoch, ⟨hi.sleepers.known, hi.sleepers.flag, hi.sleepers.one, hi.sleepers.someone⟩,
      hi.queue.post slotID⟩
  | begin =>
    obtain ⟨rfl, rfl⟩ := Prod.mk.inj (Option.some.inj hexec)
    exact ⟨hi.epoch, hi.sleepers, hi.queue⟩
  | finish =>
    obtain ⟨rfl, rfl⟩ := Prod.mk.inj (Option.some.inj hexec)
    refine ⟨?_, ⟨fun c epoch hc => ?_, hi.sleepers.flag, hi.sleepers.one, hi.sleepers.someone⟩,
      hi.queue.finish⟩
    · change o.monitor.state.epoch + 1 = _
      rw [hi.epoch, ofNat_succ]
      rfl
    · obtain ⟨he, hle, -⟩ := hi.sleepers.known c epoch hc
      exact ⟨he, Nat.le_succ_of_le hle, hw c epoch hc⟩
  | call c flags hasSlot hasReserved =>
    obtain ⟨rfl, rfl⟩ := Prod.mk.inj (Option.some.inj hexec)
    exact inv_call hi hawake flags hasSlot hasReserved
  | wake c =>
    obtain ⟨epoch, r, hc, hr, rfl, rfl⟩ := exec_wake hexec
    exact inv_wake hi hc hr

/-- **The monitor.** In any interleaving in which the counter of epochs does not come round
while a caller is asleep: the front of an empty queue is never read, every epoch returns a
prefix of what was posted in it to callers that came in it, whoever was asleep when its epoch
was closed hears so, and the flag is set exactly while one caller is asleep. -/
theorem slot_events_delivered {ls : List (Op ι × Option Answer)}
    (hr : Run StepUnwrapped .start ls o) :
    (∀ c, o.monitor.parked c ≠ none → o.monitor.exec (.wake c) ≠ none) ∧
    (∀ k, inEpoch o.history.returned k <+: inEpoch o.history.posted k) ∧
    inEpoch o.history.posted o.history.closed =
      inEpoch o.history.returned o.history.closed ++ o.monitor.state.pending ∧
    (∀ c m answer, o.monitor.exec (.wake c) = some (some answer, m) →
      (∃ slotID, answer = .returned CKR_OK (some slotID) ∧
          o.history.entered c = o.history.closed) ∨
        answer = .returned CKR_CRYPTOKI_NOT_INITIALIZED none ∧
          o.history.entered c < o.history.closed ∨
        (∃ epoch, answer = .asleep epoch) ∧ o.history.entered c = o.history.closed) ∧
    (o.monitor.state.waiting = true ↔ ∃ c, o.monitor.parked c ≠ none) ∧
    (∀ c c', o.monitor.parked c ≠ none → o.monitor.parked c' ≠ none → c = c') := by
  have hi : Inv o := hr.invariant inv_start fun _ _ _ ha hs => inv_step ha hs
  refine ⟨fun c hc => ?_, hi.queue.prefix, hi.queue.current, fun c m answer hexec => ?_,
    ⟨hi.sleepers.someone, fun ⟨c, hc⟩ => hi.sleepers.flag c hc⟩, hi.sleepers.one⟩
  · obtain ⟨epoch, hc⟩ := Option.ne_none_iff_exists'.1 hc
    have hwake : ∃ r, wakeUp epoch o.monitor.state = some r := by
      rcases wakeUp_cases epoch o.monitor.state with ⟨-, -, he⟩ | ⟨-, he⟩ | ⟨_, _, -, -, he⟩ <;>
        exact ⟨_, he⟩
    obtain ⟨r, hr⟩ := hwake
    simp [exec, hc, hr]
  · obtain ⟨epoch, r, hc, hr, ha, -⟩ := exec_wake hexec
    obtain rfl := Option.some.inj ha
    have hiff := hi.sleepers.epoch_eq_iff hc
    rw [← hi.epoch] at hiff
    obtain ⟨-, hle, -⟩ := hi.sleepers.known c epoch hc
    rcases wakeUp_cases epoch o.monitor.state with
      ⟨-, hep, he⟩ | ⟨hep, he⟩ | ⟨slotID, pending, -, hep, he⟩
    · obtain rfl := Option.some.inj (he.symm.trans hr)
      exact .inr (.inr ⟨⟨_, rfl⟩, (hiff.1 hep).symm⟩)
    · obtain rfl := Option.some.inj (he.symm.trans hr)
      exact .inr (.inl ⟨rfl, Nat.lt_of_le_of_ne hle fun h => hep (hiff.2 h.symm)⟩)
    · obtain rfl := Option.some.inj (he.symm.trans hr)
      exact .inl ⟨slotID, rfl, (hiff.1 hep).symm⟩

/-- A caller that blocks in a library that has just been initialised. -/
def blocked : List (Op Unit × Option Answer) :=
  [(.begin, none), (.call () 0 true false, some (.asleep 0))]

/-- The state with this caller, after its epoch and `n` more than that were closed. -/
def blockedFor (n : ℕ) : Observed Unit :=
  ⟨⟨⟨[], decide (n = 0), true, UInt64.ofNat n⟩, fun _ => some 0⟩, ⟨n, [], [], fun _ => 0⟩⟩

lemma step_begin : StepUnwrapped (.start : Observed Unit) (.begin, none)
    ⟨⟨beginSlotEventEpoch .init, fun _ => none⟩, .start⟩ := ⟨⟨trivial, rfl, rfl⟩, trivial⟩

lemma step_block : StepUnwrapped
    (⟨⟨beginSlotEventEpoch .init, fun _ => none⟩, .start⟩ : Observed Unit)
    (.call () 0 true false, some (.asleep 0)) (blockedFor 0) := by
  have hparked : Function.update (fun _ : Unit => (none : Option UInt64)) () (some 0) =
      fun _ => some 0 := by
    funext c
    exact Function.update_self _ _ _
  have hentered : Function.update (fun _ : Unit => 0) () 0 = fun _ => 0 :=
    Function.update_eq_self _ _
  refine ⟨⟨rfl, ?_, ?_⟩, trivial⟩
  · change some (some (Answer.asleep 0), SlotEvents.mk _ (Function.update _ () (some 0))) = _
    rw [hparked]
    rfl
  · change _ = Record.mk 0 [] [] (Function.update (fun _ : Unit => 0) () 0)
    rw [hentered]
    rfl

lemma step_finish (n : ℕ) : Step (blockedFor n) (.finish, none) (blockedFor (n + 1)) := by
  refine ⟨trivial, ?_, rfl⟩
  change some (none, SlotEvents.mk ⟨[], false, true, UInt64.ofNat n + 1⟩ _) = _
  rw [ofNat_succ]
  rfl

lemma run_finish (n : ℕ) :
    Run Step (blockedFor 0) (List.replicate n (.finish, none)) (blockedFor n) := by
  induction n with
  | zero => exact .nil _
  | succ n ih =>
    rw [List.replicate_succ']
    exact ih.snoc (step_finish n)

theorem slot_events_delivered_closed :
    ∃ o : Observed Unit, Run StepUnwrapped .start (blocked ++ [(.finish, none)]) o ∧
      o.history.entered () < o.history.closed ∧ o.monitor.exec (.wake ()) ≠ none := by
  have hblock : Run StepUnwrapped (.start : Observed Unit) blocked (blockedFor 0) :=
    (Run.single step_begin).snoc step_block
  have hw : Unwrapped (blockedFor 0) .finish := fun _ _ _ => by
    change 0 + 1 < 0 + 2 ^ 64
    omega
  have hrun := hblock.snoc (show StepUnwrapped _ (.finish, none) _ from ⟨step_finish 0, hw⟩)
  exact ⟨blockedFor 1, hrun, Nat.zero_lt_one,
    (slot_events_delivered hrun).1 () (Option.some_ne_none _)⟩

lemma wake_blocked {n : ℕ} (h : UInt64.ofNat n = 0) : (blockedFor n).monitor.exec (.wake ()) =
    some (some (.asleep 0), (blockedFor n).monitor) := by
  have hwake : wakeUp 0 (blockedFor n).monitor.state =
      some (.asleep 0, (blockedFor n).monitor.state) := by
    simp [wakeUp, blockedFor, h]
  change (wakeUp 0 (blockedFor n).monitor.state).bind _ = _
  rw [hwake]
  exact congrArg (fun m => some (some (Answer.asleep 0), m)) (settle_asleep rfl)

/-- The counter comes round while a caller is asleep: it never hears that its epoch was closed. -/
theorem epoch_comes_round :
    ∃ (ls : List (Op Unit × Option Answer)) (o : Observed Unit), Run Step .start ls o ∧
      o.monitor.parked () = some 0 ∧ o.history.entered () < o.history.closed ∧
      o.monitor.exec (.wake ()) = some (some (.asleep 0), o.monitor) := by
  have hblock : Run Step (.start : Observed Unit) blocked (blockedFor 0) :=
    (Run.single step_begin.1).snoc step_block.1
  exact ⟨_, _, hblock.trans (run_finish (2 ^ 64)), rfl, Nat.two_pow_pos 64, wake_blocked rfl⟩

end SlotEvents

end SoftHSM
