import SoftHSM.RutokenCMS.VerifyStates

/-!
Whole runs of verifications: what is taken out of the map is what one `verifyInit` has put there
with the data that has come since, and exactly when the map has the states of open sessions only.
-/

namespace SoftHSM.RutokenCMS

open Transition Outcome

/-! ### Runs -/

/-- The library as it is initialised, with some sessions opened. -/
def start (sessions : ℕ → Option CK_SLOT_ID) : System := ⟨sessions, [], fun _ => none⟩

def next (isCms : ByteString → Bool) (s : System) (e : Event) : System := (exec isCms s e).2

/-- The steps with what has come of them. -/
def history (isCms : ByteString → Bool) : System → List Event → List (Event × Outcome)
  | _, [] => []
  | s, e :: es => (e, (exec isCms s e).1) :: history isCms (next isCms s e) es

def Step (isCms : ByteString → Bool) (s : System) (x : Event × Outcome) (s' : System) : Prop :=
  exec isCms s x.1 = (x.2, s')

section runs

variable {isCms : ByteString → Bool} {s s' : System} {x : Event × Outcome}
  {ls : List (Event × Outcome)} {sessions : ℕ → Option CK_SLOT_ID}

lemma run_history (s : System) (es : List Event) :
    Run (Step isCms) s (history isCms s es) (es.foldl (next isCms) s) := by
  induction es generalizing s with
  | nil => exact .nil s
  | cons e es ih =>
    have hstep : Step isCms s (e, (exec isCms s e).1) (next isCms s e) := rfl
    exact (Run.single hstep).trans (ih _)

/-- The entry of a session is what its history says. -/
lemma get_eq_standing (hr : Run (Step isCms) (start sessions) ls s) (hSession : ℕ) :
    OrderedMap.get hSession s.states = (ofSession hSession).standing ls := by
  refine hr.history (P := fun ls s => OrderedMap.get hSession s.states =
    (ofSession hSession).standing ls) rfl fun ls a x b ih hx => ?_
  rw [Ledger.standing_snoc, ← ih]
  exact get_states hx hSession

lemma collected_eq_standing (hr : Run (Step isCms) (start sessions) ls s) (t : ℕ) :
    s.collected t = (ofThread isCms t).standing ls := by
  refine hr.history (P := fun ls s => s.collected t = (ofThread isCms t).standing ls) rfl
    fun ls a x b ih hx => ?_
  rw [Ledger.standing_snoc, ← ih]
  exact get_collected hx t

/-! ### What a verification works with -/

/-- The data that an update has given to a session. -/
def given (hSession : ℕ) (x : Event × Outcome) : Option ByteString :=
  match x.2 with
  | appended h data => if h = hSession then some data else none
  | _ => none

/-- The certificate that the search of a thread has found. -/
def foundBy (t : ℕ) (x : Event × Outcome) : Option ByteString :=
  match x.1, x.2 with
  | .found t' (.ok (some der)), goesOn => if t' = t then some der else none
  | _, _ => none

lemma adds_eq (hSession : ℕ) (v : VerifyState) (x : Event × Outcome) :
    (ofSession hSession).adds v x = match given hSession x with
      | some data => { v with data := v.data ++ data, updated := true }
      | none => v := by
  obtain ⟨e, o⟩ := x
  cases o with
  | appended h data =>
    by_cases hh : h = hSession
    · simp [ofSession, given, hh]
    · simp [ofSession, given, hh]
  | _ => rfl

/-- The updates append their data. -/
lemma foldl_adds (hSession : ℕ) (v : VerifyState) (ls : List (Event × Outcome)) :
    ls.foldl (ofSession hSession).adds v =
      { v with
        data := v.data ++ (ls.filterMap (given hSession)).flatten
        updated := v.updated || !(ls.filterMap (given hSession)).isEmpty } := by
  induction ls generalizing v with
  | nil => simp
  | cons x ls ih =>
    rw [List.foldl_cons, ih, adds_eq]
    cases hx : given hSession x with
    | none => simp [hx]
    | some data => simp [hx]

lemma adds_found (t : ℕ) (r : ℕ × VerifyState) (x : Event × Outcome) :
    (ofThread isCms t).adds r x =
      (r.1, { r.2 with trusted := r.2.trusted ++ (foundBy t x).toList }) := by
  obtain ⟨e, o⟩ := x
  cases e with
  | found t' r' =>
    cases r' with
    | error rv => simp [ofThread, foundBy]
    | ok der =>
      cases der with
      | none => simp [ofThread, foundBy]
      | some der =>
        cases o with
        | goesOn =>
          by_cases ht : t' = t
          · simp [ofThread, foundBy, ht]
          · simp [ofThread, foundBy, ht]
        | _ => simp [ofThread, foundBy]
  | _ => simp [ofThread, foundBy]

/-- The search appends to the trusted certificates. -/
lemma foldl_found (t : ℕ) (r : ℕ × VerifyState) (ls : List (Event × Outcome)) :
    ls.foldl (ofThread isCms t).adds r =
      (r.1, { r.2 with trusted := r.2.trusted ++ ls.filterMap (foundBy t) }) := by
  induction ls generalizing r with
  | nil => simp
  | cons x ls ih =>
    rw [List.foldl_cons, ih, adds_found]
    cases hx : foundBy t x with
    | none => simp [hx]
    | some der => simp [hx]

/-- A state is made without data. -/
lemma state_unused {a : InitArgs} {v : VerifyState} (h : a.state isCms = .ok v) :
    v.data = [] ∧ v.updated = false := by
  rw [InitArgs.state] at h
  split at h
  · cases h
  · split at h
    · cases h
      exact ⟨rfl, rfl⟩
    · split at h
      · cases h
        exact ⟨rfl, rfl⟩
      · cases h

lemma opens_session {hSession : ℕ} {v : VerifyState}
    (h : (ofSession hSession).opens x = some v) : x.2 = inserted hSession v := by
  obtain ⟨e, o⟩ := x
  cases o with
  | inserted h' v' =>
    rw [ofSession] at h
    dsimp only at h
    split at h
    · rename_i hh
      cases h
      rw [hh]
    · cases h
  | _ => cases h

lemma opens_thread {t : ℕ} {r : ℕ × VerifyState} (h : (ofThread isCms t).opens x = some r) :
    ∃ a, x = (.verifyInit t r.1 a, goesOn) ∧ a.state isCms = .ok r.2 := by
  obtain ⟨e, o⟩ := x
  cases e with
  | verifyInit t' hSession a =>
    cases o with
    | goesOn =>
      rw [ofThread] at h
      dsimp only at h
      split at h
      · rename_i ht
        cases ht
        cases hstate : a.state isCms with
        | error rv =>
          rw [hstate] at h
          cases h
        | ok v =>
          rw [hstate] at h
          cases h
          exact ⟨a, rfl, hstate⟩
      · cases h
    | _ => cases h
  | _ => cases h

/-- The state of a `verifyInit` that a thread is still in: what it was given and, with the flag for
it, the trusted certificates of the token. -/
def MadeBy (isCms : ByteString → Bool) (t hSession : ℕ) (ls : List (Event × Outcome))
    (v : VerifyState) : Prop :=
  ∃ ls₁ a ls₂ v₀, ls = ls₁ ++ (.verifyInit t hSession a, goesOn) :: ls₂ ∧
    (∀ x ∈ ls₂, (ofThread isCms t).ends x = false ∧ (ofThread isCms t).opens x = none) ∧
    a.state isCms = .ok v₀ ∧ v = { v₀ with trusted := v₀.trusted ++ ls₂.filterMap (foundBy t) }

lemma MadeBy.unused {t hSession : ℕ} {v : VerifyState} (h : MadeBy isCms t hSession ls v) :
    v.data = [] ∧ v.updated = false := by
  obtain ⟨-, a, -, v₀, -, -, hstate, rfl⟩ := h
  have hunused := state_unused hstate
  exact hunused

/-- The state of a session as it is: what one `verifyInit` has put there, and the data that has
come since. -/
def StandsFor (isCms : ByteString → Bool) (hSession : ℕ) (ls : List (Event × Outcome))
    (v : VerifyState) : Prop :=
  ∃ ls₁ t v₀ ls₂, ls = ls₁ ++ (.insert t, inserted hSession v₀) :: ls₂ ∧
    (∀ x ∈ ls₂, (ofSession hSession).ends x = false ∧ (ofSession hSession).opens x = none) ∧
    MadeBy isCms t hSession ls₁ v₀ ∧
    v = { v₀ with
      data := (ls₂.filterMap (given hSession)).flatten
      updated := !(ls₂.filterMap (given hSession)).isEmpty }

lemma madeBy_of_inserted {e : Event} {hSession : ℕ} {v : VerifyState}
    (hr : Run (Step isCms) (start sessions) ls s)
    (hx : Step isCms s (e, inserted hSession v) s') :
    ∃ t, e = .insert t ∧ MadeBy isCms t hSession ls v := by
  obtain ⟨-, -, t, rfl, hp⟩ := exec_acts hx
  have hcollected : (ofThread isCms t).standing ls = some (hSession, v) := by
    rw [← collected_eq_standing hr t, collected_eq hp]
    rfl
  obtain ⟨ls₁, y, ls₂, r, rfl, -, hopens, hbetween, hadds⟩ := Ledger.standing_eq_some.1 hcollected
  obtain ⟨a, rfl, hstate⟩ := opens_thread hopens
  rw [foldl_found] at hadds
  obtain ⟨rfl, rfl⟩ := Prod.mk.inj hadds
  exact ⟨t, rfl, ls₁, a, ls₂, r.2, rfl, hbetween, hstate, rfl⟩

lemma standsFor_of_get {hSession : ℕ} {v : VerifyState}
    (hr : Run (Step isCms) (start sessions) ls s)
    (hget : OrderedMap.get hSession s.states = some v) : StandsFor isCms hSession ls v := by
  rw [get_eq_standing hr] at hget
  obtain ⟨ls₁, y, ls₂, v₀, rfl, -, hopens, hbetween, rfl⟩ := Ledger.standing_eq_some.1 hget
  obtain ⟨a, b, hr₁, hy, -⟩ := hr.step_at
  obtain ⟨e, o⟩ := y
  cases opens_session hopens
  obtain ⟨t, rfl, hmade⟩ := madeBy_of_inserted hr₁ hy
  obtain ⟨hdata, hupdated⟩ := hmade.unused
  refine ⟨ls₁, t, v₀, ls₂, rfl, hbetween, hmade, ?_⟩
  rw [foldl_adds, hdata, hupdated, List.nil_append, Bool.false_or]

/-! ### The data of a state -/

/-- Every session has one state at most, and no more data than allowed. -/
structure System.Bounded (s : System) : Prop where
  sorted : OrderedMap.Sorted s.states
  data_le : ∀ {h v}, OrderedMap.get h s.states = some v → v.data.length ≤ maxData

lemma room_toNat {size : ℕ} (h : size ≤ maxData) : (room size).toNat = maxData - size := by
  have hmax : maxData = 67108864 := rfl
  have hsize : (UInt64.ofNat size).toNat = size := by
    rw [UInt64.toNat_ofNat']
    omega
  have hmax' : (UInt64.ofNat maxData).toNat = maxData := by
    rw [UInt64.toNat_ofNat']
    omega
  rw [room, UInt64.toNat_sub_of_le, hsize, hmax']
  rw [UInt64.le_iff_toNat_le, hsize, hmax']
  exact h

lemma bounded_start : (start sessions).Bounded :=
  ⟨OrderedMap.sorted_nil, fun h => by cases h⟩

lemma bounded_of_erase {s s' : System} (hb : s.Bounded) {h : ℕ}
    (herase : s'.states = OrderedMap.erase h s.states) : s'.Bounded where
  sorted := by
    rw [herase]
    exact OrderedMap.sorted_erase hb.sorted h
  data_le := fun {h' v} hget => by
    rw [herase, OrderedMap.get_erase] at hget
    split at hget
    · cases hget
    · exact hb.data_le hget

lemma bounded_of_put {s s' : System} (hb : s.Bounded) {h : ℕ} {v : VerifyState}
    (hput : s'.states = OrderedMap.put h v s.states) (hv : v.data.length ≤ maxData) :
    s'.Bounded where
  sorted := by
    rw [hput]
    exact OrderedMap.sorted_put hb.sorted h v
  data_le := fun {h' v'} hget => by
    rw [hput] at hget
    by_cases hh : h' = h
    · subst hh
      rw [OrderedMap.get_put_self] at hget
      cases hget
      exact hv
    · rw [OrderedMap.get_put_of_ne hh] at hget
      exact hb.data_le hget

lemma bounded_of_eq {s s' : System} (hb : s.Bounded) (h : s'.states = s.states) : s'.Bounded :=
  ⟨h ▸ hb.sorted, fun hget => hb.data_le (h ▸ hget)⟩

/-- The states of a run have no more data than allowed. -/
lemma bounded_of_run (hr : Run (Step isCms) (start sessions) ls s) : s.Bounded := by
  -- the data of a state is compared with the history only for what is inserted, so both are kept
  have hboth : (Run (Step isCms) (start sessions) ls s) ∧ s.Bounded := by
    refine hr.history (P := fun ls s => Run (Step isCms) (start sessions) ls s ∧ s.Bounded)
      ⟨.nil _, bounded_start⟩ ?_
    rintro ls a ⟨e, o⟩ b ⟨hra, hb⟩ hx
    refine ⟨.snoc hra hx, ?_⟩
    have hacts := exec_acts hx
    cases o with
    | impossible =>
      rw [show b = a from hacts]
      exact hb
    | goesOn => exact bounded_of_eq hb hacts
    | returned rv => exact bounded_of_eq hb hacts
    | inserted h v =>
      obtain ⟨t, -, hmade⟩ := madeBy_of_inserted hra hx
      exact bounded_of_put hb hacts.2.1 (by simp [hmade.unused.1])
    | appended h data =>
      obtain ⟨v, hget, hroom, hput⟩ := hacts
      have hle := hb.data_le hget
      rw [room_toNat hle] at hroom
      refine bounded_of_put hb hput ?_
      dsimp only
      rw [List.length_append]
      omega
    | took h v detached verified rv => exact bounded_of_erase hb hacts.2.1
    | cleared h => exact bounded_of_erase hb hacts
    | clearedAll =>
      refine ⟨?_, fun hget => ?_⟩
      · rw [show b.states = [] from hacts]
        exact OrderedMap.sorted_nil
      · rw [show b.states = [] from hacts] at hget
        cases hget
  exact hboth.2

/-! ### Open sessions -/

/-- The map has states of open sessions only. -/
def System.OpenOnly (s : System) : Prop :=
  ∀ h v, OrderedMap.get h s.states = some v → s.isOpen h = true

/-- A state is put where a session is still open, and no call closes a session for which a state
has been put since the call has cleared the map. -/
def InTime (s : System) : Event → Prop
  | .insert t => ∀ h v, s.pending t = some (.ready h v) → s.isOpen h = true
  | .close t true => ∀ p, s.pending t = some p → ∀ h, p.closes s h = true →
      OrderedMap.get h s.states = none
  | _ => True

lemma sessions_begins {o : Outcome} {t : ℕ} {p : Except CK_RV Pending}
    (h : begins s t p = (o, s')) : s'.sessions = s.sessions := by
  unfold begins at h
  split at h <;> cases h <;> rfl

lemma sessions_take {t hSession : ℕ} {detached : Bool} {verdict : VerifyState → Bool → CK_RV}
    {o : Outcome} (h : take s t hSession detached verdict = (o, s')) :
    s'.sessions = s.sessions := by
  unfold take at h
  split at h
  · cases h
    rfl
  · dsimp only at h
    split at h <;> cases h <;> rfl

/-- Sessions are opened and closed by nothing else. -/
lemma sessions_eq {e : Event} {o : Outcome} (hx : exec isCms s e = (o, s'))
    (hopen : ∀ h slotID, e ≠ .openSession h slotID) (hclose : ∀ t, e ≠ .close t true) :
    s'.sessions = s.sessions := by
  cases e with
  | openSession h slotID => exact absurd rfl (hopen h slotID)
  | verifyInit t h a => exact sessions_begins hx
  | found t r =>
    rw [exec] at hx
    split at hx
    · split at hx
      · cases hx
        rfl
      · split at hx <;> cases hx <;> rfl
    · cases hx
      rfl
  | insert t =>
    rw [exec] at hx
    split at hx
    · dsimp only at hx
      split at hx <;> cases hx <;> rfl
    · cases hx
      rfl
  | verify t h pointers => exact sessions_begins hx
  | verifyUpdate t h data nullLen => exact sessions_begins hx
  | verifyFinal t h pointers => exact sessions_begins hx
  | underLock t verdict =>
    rw [exec] at hx
    split at hx
    · exact sessions_take hx
    · exact sessions_take hx
    · split at hx
      · cases hx
        rfl
      · split at hx <;> cases hx <;> rfl
    · cases hx
      rfl
  | closeSession t h =>
    rw [exec] at hx
    split at hx <;> cases hx <;> rfl
  | closeAllSessions t slotID =>
    rw [exec] at hx
    split at hx <;> cases hx <;> rfl
  | finalize t =>
    rw [exec] at hx
    split at hx <;> cases hx <;> rfl
  | logout =>
    cases hx
    rfl
  | close t getsThrough =>
    have hfails : getsThrough = false := Bool.eq_false_iff.2 fun h => hclose t (h ▸ rfl)
    subst hfails
    rw [exec] at hx
    split at hx
    · split at hx <;> cases hx <;> rfl
    · cases hx
      rfl

/-- Only an insertion gives a session a state. -/
lemma had_of_acts {e : Event} {o : Outcome} (hacts : Acts s e o s') (he : ∀ t, e ≠ .insert t)
    {h : ℕ} {v : VerifyState} (hget : OrderedMap.get h s'.states = some v) :
    ∃ v', OrderedMap.get h s.states = some v' := by
  cases o with
  | impossible =>
    rw [show s' = s from hacts] at hget
    exact ⟨v, hget⟩
  | goesOn =>
    rw [show s'.states = s.states from hacts] at hget
    exact ⟨v, hget⟩
  | returned rv =>
    rw [show s'.states = s.states from hacts] at hget
    exact ⟨v, hget⟩
  | inserted h' v' =>
    obtain ⟨-, -, t, ht, -⟩ := hacts
    exact absurd ht (he t)
  | appended h' data =>
    obtain ⟨v', hget', -, hput⟩ := hacts
    rw [hput] at hget
    by_cases hh : h = h'
    · exact ⟨v', hh ▸ hget'⟩
    · rw [OrderedMap.get_put_of_ne hh] at hget
      exact ⟨v, hget⟩
  | took h' v' detached verified rv =>
    rw [hacts.2.1, OrderedMap.get_erase] at hget
    split at hget
    · cases hget
    · exact ⟨v, hget⟩
  | cleared h' =>
    rw [show s'.states = OrderedMap.erase h' s.states from hacts, OrderedMap.get_erase] at hget
    split at hget
    · cases hget
    · exact ⟨v, hget⟩
  | clearedAll =>
    rw [show s'.states = [] from hacts] at hget
    cases hget

lemma openOnly_of_kept (hs : s.OpenOnly) (hopen : ∀ h, s.isOpen h = true → s'.isOpen h = true)
    (hstates : ∀ {h v}, OrderedMap.get h s'.states = some v →
      ∃ v', OrderedMap.get h s.states = some v') : s'.OpenOnly := by
  intro h v hget
  obtain ⟨v', hget'⟩ := hstates hget
  exact hopen h (hs h v' hget')

lemma openOnly_insert {t : ℕ} (hs : s.OpenOnly) :
    InTime s (.insert t) ↔ (next isCms s (.insert t)).OpenOnly := by
  rw [next, exec]
  cases hp : s.pending t with
  | none =>
    refine iff_of_true (fun h v hp' => ?_) hs
    rw [hp] at hp'
    cases hp'
  | some p =>
    cases p with
    | ready hSession v =>
      have hstep : InTime s (.insert t) ↔ s.isOpen hSession = true := by
        refine ⟨fun hin => hin _ _ hp, fun hopen h v' hp' => ?_⟩
        rw [hp] at hp'
        cases hp'
        exact hopen
      rw [hstep]
      cases hget : OrderedMap.get hSession s.states with
      | some v' =>
        have hfails : OrderedMap.insert hSession v s.states = (false, s.states) := by
          simp [OrderedMap.insert, hget]
        dsimp only
        rw [hfails]
        refine iff_of_true (hs _ _ hget) fun h v'' hget' => ?_
        exact hs h v'' hget'
      | none =>
        have hputs : OrderedMap.insert hSession v s.states =
            (true, OrderedMap.put hSession v s.states) := by
          simp [OrderedMap.insert, hget]
        dsimp only
        rw [hputs]
        constructor
        · intro hopen h v' hget'
          by_cases hh : h = hSession
          · subst hh
            exact hopen
          · change OrderedMap.get h (OrderedMap.put hSession v s.states) = some v' at hget'
            rw [OrderedMap.get_put_of_ne hh] at hget'
            exact hs h v' hget'
        · intro hout
          refine hout hSession v ?_
          exact OrderedMap.get_put_self ..
    | _ =>
      refine iff_of_true (fun h v hp' => ?_) hs
      rw [hp] at hp'
      cases hp'

lemma openOnly_close {t : ℕ} (hs : s.OpenOnly) :
    InTime s (.close t true) ↔ (next isCms s (.close t true)).OpenOnly := by
  rw [next, exec]
  cases hp : s.pending t with
  | none =>
    refine iff_of_true (fun p hp' => ?_) hs
    rw [hp] at hp'
    cases hp'
  | some p =>
    have hstep : InTime s (.close t true) ↔ ∀ h, p.closes s h = true →
        OrderedMap.get h s.states = none := by
      refine ⟨fun hin => hin p hp, fun hin p' hp' => ?_⟩
      rw [hp] at hp'
      cases hp'
      exact hin
    have hclosed : (∀ h, p.closes s h = true → OrderedMap.get h s.states = none) ↔
        ∀ h v, OrderedMap.get h s.states = some v →
          (if p.closes s h then none else s.sessions h).isSome = true := by
      refine forall_congr' fun h => ?_
      cases hget : OrderedMap.get h s.states with
      | none => simp
      | some v =>
        have hopen : (s.sessions h).isSome = true := hs h v hget
        cases hc : p.closes s h <;> simp [hopen]
    rw [hstep]
    cases p with
    | closeSession h => exact hclosed
    | closeAllSessions slotID => exact hclosed
    | finalize => exact hclosed
    | _ => exact iff_of_true (fun h hc => by cases hc) hs

/-- **One step** keeps to the open sessions exactly when it comes in time. -/
lemma openOnly_step (e : Event) (hs : s.OpenOnly) :
    InTime s e ↔ (next isCms s e).OpenOnly := by
  have hx : exec isCms s e = ((exec isCms s e).1, next isCms s e) := rfl
  have hkept : (∀ h slotID, e ≠ .openSession h slotID) → (∀ t, e ≠ .close t true) →
      (∀ t, e ≠ .insert t) → (next isCms s e).OpenOnly := by
    intro hopen hclose hinsert
    refine openOnly_of_kept hs (fun h => ?_) (had_of_acts (exec_acts hx) hinsert)
    rw [System.isOpen, System.isOpen, sessions_eq hx hopen hclose]
    exact id
  cases e with
  | openSession hSession slotID =>
    refine iff_of_true trivial ?_
    rw [next, exec]
    split
    · exact hs
    · refine openOnly_of_kept hs (fun h hopen => ?_) fun hget => ⟨_, hget⟩
      by_cases hh : h = hSession
      · simp [System.isOpen, hh]
      · simpa [System.isOpen, hh] using hopen
  | insert t => exact openOnly_insert hs
  | close t getsThrough =>
    cases getsThrough with
    | true => exact openOnly_close hs
    | false =>
      exact iff_of_true trivial (hkept (fun _ _ h => by cases h) (fun _ h => by cases h)
        fun _ h => by cases h)
  | _ =>
    exact iff_of_true trivial (hkept (fun _ _ h => by cases h) (fun _ h => by cases h)
      fun _ h => by cases h)

/-! ### The lifecycle of a verification -/

/-- The state of the session is taken, or put. -/
def takes (hSession : ℕ) (o : Outcome) : Prop := ∃ v d verified rv, o = took hSession v d verified rv
def puts (hSession : ℕ) (o : Outcome) : Prop := ∃ v, o = inserted hSession v

/-- What every run keeps to: a state is put by the `verifyInit` that has made it; what is taken is
the state that stands, and the message is verified with it; a state is taken once. -/
structure Accounted (isCms : ByteString → Bool) (ls : List (Event × Outcome)) : Prop where
  inserted : ∀ ls₁ e h v ls₂, ls = ls₁ ++ (e, inserted h v) :: ls₂ →
    ∃ t, e = .insert t ∧ MadeBy isCms t h ls₁ v
  took : ∀ ls₁ e h v detached verified rv ls₂,
    ls = ls₁ ++ (e, took h v detached verified rv) :: ls₂ →
      StandsFor isCms h ls₁ v ∧ v.data.length ≤ maxData ∧ ∃ t verdict, e = .underLock t verdict ∧
        if v.updated = detached then verified = true ∧ rv = verdict v detached
        else verified = false ∧ rv = CK_RV.CKR_ARGUMENTS_BAD
  once : ∀ ls₁ x ls₂ y ls₃ h, ls = ls₁ ++ x :: ls₂ ++ y :: ls₃ → takes h x.2 → takes h y.2 →
    ∃ z ∈ ls₂, puts h z.2

lemma accounted_of_run (hr : Run (Step isCms) (start sessions) ls s) : Accounted isCms ls where
  inserted := by
    rintro ls₁ e h v ls₂ rfl
    obtain ⟨a, b, hr₁, hx, -⟩ := hr.step_at
    exact madeBy_of_inserted hr₁ hx
  took := by
    rintro ls₁ e h v detached verified rv ls₂ rfl
    obtain ⟨a, b, hr₁, hx, -⟩ := hr.step_at
    obtain ⟨hget, -, t, verdict, he, -, hverdict⟩ := exec_acts hx
    exact ⟨standsFor_of_get hr₁ hget, (bounded_of_run hr₁).data_le hget, t, verdict, he, hverdict⟩
  once := by
    rintro ls₁ x ls₂ ⟨e, o⟩ ls₃ h rfl hx ⟨v, d, verified, rv, ho⟩
    obtain ⟨a, b, hr₁, hy, -⟩ := hr.step_at
    change o = _ at ho
    subst ho
    obtain ⟨hget, -⟩ := exec_acts hy
    rw [get_eq_standing hr₁] at hget
    have hends : (ofSession h).ends x = true := by
      obtain ⟨v', d', verified', rv', hx⟩ := hx
      simp [ofSession, hx]
    obtain ⟨z, hz, hopens⟩ := Ledger.opens_of_ends hget hends
    obtain ⟨v', hv'⟩ := Option.isSome_iff_exists.1 hopens
    exact ⟨z, hz, v', opens_session hv'⟩

end runs

/-- **The lifecycle of verifications.** Whatever sessions are open at the start and however the
steps of the threads interleave: every state that is taken is that of one `verifyInit`, with the
data of the updates since, and is taken once; each session has one state at most, never with more
data than allowed, so that the room left is no negative number; and the states in the map are those
of open sessions in every state reached if and only if every insertion and every closing comes in
time. -/
theorem verifications_accounted (isCms : ByteString → Bool) (sessions : ℕ → Option CK_SLOT_ID)
    (es : List Event) :
    Accounted isCms (history isCms (start sessions) es) ∧
      EveryState (fun s => OrderedMap.Sorted s.states ∧ ∀ h v,
        OrderedMap.get h s.states = some v → v.data.length ≤ maxData ∧
          (room v.data.length).toNat = maxData - v.data.length)
        (next isCms) (start sessions) es ∧
      (AllAllowed InTime (next isCms) (start sessions) es ↔
        EveryState System.OpenOnly (next isCms) (start sessions) es) := by
  refine ⟨accounted_of_run (run_history _ es), everyState_iff.2 fun ms _ => ?_, ?_⟩
  · have hb : (ms.foldl (next isCms) (start sessions)).Bounded :=
      bounded_of_run (run_history (start sessions) ms)
    refine ⟨hb.sorted, fun h v hget => ⟨hb.data_le hget, room_toNat (hb.data_le hget)⟩⟩
  · refine allAllowed_iff_everyState (I := fun _ => True)
      (fun s e _ hs _ => ⟨trivial, openOnly_step e hs⟩) trivial ?_
      (allAllowed_of_forall  fun _ _ _ => trivial)
    intro h v hget
    cases hget

/-- A session is closed between the check of a `verifyInit` and its insertion. -/
def closedBetween : List Event :=
  [.verifyInit 0 1 ⟨some [0x30], none, 0, CKF_VENDOR_CHECK_SIGNATURE_ONLY⟩, .closeSession 1 1,
    .close 1 true, .insert 0]

/-- The state outlives the session. -/
theorem state_of_closed :
    ¬ ∀ (isCms : ByteString → Bool) (sessions : ℕ → Option CK_SLOT_ID) (es : List Event),
      EveryState System.OpenOnly (next isCms) (start sessions) es := by
  intro h
  have hlast := everyState_iff.1 (h (fun _ => true) (fun _ => some 0) closedBetween) closedBetween
    (List.prefix_refl _)
  have hopen := hlast 1 _ rfl
  revert hopen
  decide

end SoftHSM.RutokenCMS
