import SoftHSM.Library.Activities

/-!
Keys that want the PIN for every use. What such a key signs or decrypts comes out only after the
PIN has been given for it, after the operation began; and with it the operation is over, so that the
next use wants the PIN again.
-/

namespace SoftHSM.Operation

open CK_RV Create Transition

variable {B : Backend} {b : Build} {fakeRutokenECP : Bool}

/-- A call that works with a private key, or with a code or a cipher in its place. -/
def Call.uses : Call B → Bool
  | .sign _ _ _ => true
  | .signUpdate _ => true
  | .signFinal _ _ => true
  | .decrypt _ _ => true
  | _ => false

/-- The call has done something. A signature may come with an answer that is not `CKR_OK`, where it
could not be kept for the journal. -/
def Reply.yields (r : Reply) : Prop := r.rv = CKR_OK ∨ r.output ≠ []

/-- The PIN is given, and it is right. -/
def Call.Unlocks (x : Call B × Reply) : Prop := x.1 = .contextLogin CKR_OK ∧ x.2.rv = CKR_OK

section locked

variable {s s' : Session B} {a : Activity B} {t : Traces} {c : Call B} {r : Reply}

lemma not_yields_refused {rv : CK_RV} (h : rv ≠ CKR_OK) : ¬Reply.yields { rv := rv } := by
  rintro (hok | hgiven)
  · exact h hok
  · exact hgiven rfl

lemma not_yields_guard {op : SESSION_OP} {x : Reply × Session B}
    (h : a.operation = op → ¬x.1.yields) {locked : Bool} :
    ¬(if (a.session t locked).operation ≠ op then
      (a.session t locked).keep CKR_OPERATION_NOT_INITIALIZED else x).1.yields := by
  rw [Activity.session_operation]
  by_cases hop : a.operation = op
  · rw [if_neg (not_not.2 hop)]
    exact h hop
  · rw [if_pos hop]
    exact not_yields_refused (by simp)

/-- An answer that has done nothing stays one in the journal. -/
lemma not_yields_journalled {asked : Bool} {recorded : CK_RV} {out : Buffer}
    {x : Reply × Session B} (h : ¬x.1.yields) : ¬(journalled asked recorded out x).1.yields := by
  unfold journalled
  rw [if_pos (.inl fun hok => h (.inl hok))]
  exact h

/-- A session that waits for the PIN refuses whatever its operation is asked for. -/
lemma not_yields_waiting {p : Prop} [Decidable p] {x y : CK_RV} (hx : x ≠ CKR_OK) (hy : y ≠ CKR_OK)
    (s : Session B) (z : Reply × Session B) :
    ¬(if p then s.close x else if true = true then s.close y else z).1.yields := by
  split
  · exact not_yields_refused hx
  · rw [if_pos rfl]
    exact not_yields_refused hy

/-- A session that waits for the PIN, or is at nothing that works with a key of these calls. -/
def Shut (a : Activity B) (locked : Bool) : Prop :=
  locked = true ∧ a.keyed = true ∨ a.worker = none ∧ a.keyed = false

lemma Shut.waits {locked : Bool} (h : Shut a locked) (hkeyed : a.keyed = true) : locked = true := by
  rcases h with ⟨hlocked, -⟩ | ⟨-, hnot⟩
  · exact hlocked
  · rw [hnot] at hkeyed
    cases hkeyed

lemma Shut.worker_none {locked : Bool} (h : Shut a locked) (hkeyed : a.keyed = false) :
    a.worker = none := by
  rcases h with ⟨-, hnot⟩ | ⟨hworker, -⟩
  · rw [hnot] at hkeyed
    cases hkeyed
  · exact hworker

/-- There nothing comes of a call for a private key. -/
lemma not_yields_of_shut {locked : Bool} (hs : At s a locked) (hshut : Shut a locked)
    (h : Answers b fakeRutokenECP s (c, r) s') (hc : c.uses = true) : ¬r.yields := by
  obtain ⟨t, rfl⟩ := hs
  have hsign : a.operation = .SIGN → ∃ work, a = .signing work ∧ locked = true := by
    intro hop
    obtain ⟨mac, key, singlePart, rfl⟩ | ⟨work, rfl⟩ := Activity.of_sign hop
    · cases hshut.worker_none rfl
    · exact ⟨work, rfl, hshut.waits rfl⟩
  have hdecrypt : a.operation = .DECRYPT → ∃ work, a = .asymDecrypting work ∧ locked = true := by
    intro hop
    obtain ⟨cipher, key, rfl⟩ | ⟨work, rfl⟩ := Activity.of_decrypt hop
    · cases hshut.worker_none rfl
    · exact ⟨work, rfl, hshut.waits rfl⟩
  have hr : r = (r, s').1 := rfl
  cases c with
  | sign recorded pData out =>
    rw [hr, ← Option.some.inj h]
    unfold C_Sign
    split
    · refine not_yields_guard fun hop => ?_
      obtain ⟨work, rfl, rfl⟩ := hsign hop
      exact not_yields_journalled (not_yields_waiting (by simp) (by simp) _ _)
    · exact not_yields_refused (by simp)
  | signUpdate pPart =>
    rw [hr, ← Option.some.inj h]
    cases pPart with
    | none => exact not_yields_refused (by simp)
    | some part =>
      refine not_yields_guard fun hop => ?_
      obtain ⟨work, rfl, rfl⟩ := hsign hop
      exact not_yields_waiting (by simp) (by simp) _ _
  | signFinal recorded out =>
    rw [hr, ← Option.some.inj h]
    cases out with
    | none => exact not_yields_refused (by simp)
    | some out =>
      unfold C_SignFinal
      dsimp only
      split
      · exact not_yields_refused (by simp)
      · rename_i hop
        rw [Activity.session_operation] at hop
        obtain ⟨work, rfl, rfl⟩ := hsign (not_not.1 fun hne => hop (.inl hne))
        rw [if_neg (by simp [Activity.session, Traces.session, Session.create])]
        refine not_yields_journalled ?_
        exact not_yields_refused (show CKR_USER_NOT_LOGGED_IN ≠ CKR_OK by simp)
  | decrypt pEncryptedData out =>
    rw [hr, ← Option.some.inj h]
    unfold C_Decrypt
    split
    · refine not_yields_guard fun hop => ?_
      obtain ⟨work, rfl, rfl⟩ := hdecrypt hop
      exact not_yields_refused (by simp)
    · exact not_yields_refused (by simp)
  | _ => cases hc

/-- **What a session is shut to** it stays shut to, until the PIN is given or another operation
begins. -/
lemma Moves.shut {a' : Activity B} {locked locked' : Bool} (h : Moves b c r a locked a' locked')
    (hshut : Shut a locked) (hbegins : r.rv = CKR_OK → c.begins b = none)
    (hlogin : ¬Call.Unlocks (c, r)) : Shut a' locked' := by
  cases h with
  | kept => exact hshut
  | ended => exact .inr ⟨rfl, rfl⟩
  | @carriedOn _ _ w w' part worker taken given =>
    rcases hshut with ⟨hlocked, hkeyed⟩ | ⟨hworker, -⟩
    · cases a with
      | signing work => cases w' <;> exact .inl ⟨hlocked, rfl⟩
      | asymDecrypting work => cases worker
      | _ => cases hkeyed
    · rw [hworker] at worker
      cases worker
  | began ok begins =>
    rw [hbegins ok] at begins
    cases begins
  | searching => exact .inr ⟨rfl, rfl⟩
  | found => exact .inr ⟨rfl, rfl⟩
  | locked => exact .inr ⟨rfl, rfl⟩
  | unlocked call ok => exact absurd ⟨call, ok⟩ hlogin

lemma begins_of_uses (hc : c.uses = true) : c.begins b = none := by
  cases c <;> first | rfl | cases hc

lemma output_signUpdate {pPart : Option ByteString} : (C_SignUpdate s pPart).1.output = [] := by
  unfold C_SignUpdate MacSignUpdate AsymSignUpdate
  repeat' split
  all_goals rfl

/-- What a call for a private key gives out, it gives out at the end of the operation. -/
lemma over_of_output (hs : At s a locked) (h : Answers b fakeRutokenECP s (c, r) s')
    (hc : c.uses = true) (hgiven : r.output ≠ []) : At s' .idle false := by
  have hpart : c.part r = none := by
    cases c with
    | signUpdate pPart =>
      have hnone : (C_SignUpdate s pPart).1.output = [] := output_signUpdate
      rw [Option.some.inj h] at hnone
      exact absurd hnone hgiven
    | sign => rfl
    | signFinal => rfl
    | decrypt => rfl
    | _ => cases hc
  obtain ⟨a', locked', hs', hmoves⟩ := moves_of_answers hs h
  cases hmoves with
  | kept _ given => exact absurd given hgiven
  | ended => exact hs'
  | carriedOn _ taken =>
    rw [hpart] at taken
    cases taken
  | began _ begins =>
    rw [begins_of_uses hc] at begins
    cases begins
  | searching _ given => exact absurd given hgiven
  | found calls =>
    obtain ⟨n, rfl⟩ := calls
    cases hc
  | locked call =>
    subst call
    cases hc
  | unlocked call =>
    subst call
    cases hc

end locked

lemma at_of_run {s s' : Session B} {calls : List (Call B × Reply)}
    (hr : Run (Answers b fakeRutokenECP) s calls s') (hs : ∃ a locked, At s a locked) :
    ∃ a locked, At s' a locked := by
  refine hr.invariant (P := fun s => ∃ a locked, At s a locked) hs ?_
  rintro s ⟨c, r⟩ s' ⟨a, locked, hs⟩ hstep
  obtain ⟨a', locked', hs', -⟩ := moves_of_answers hs hstep
  exact ⟨a', locked', hs'⟩

/-- Over a run that gives no PIN and begins nothing a session stays shut. -/
lemma shut_run {s s' : Session B} {calls : List (Call B × Reply)} {a : Activity B} {locked : Bool}
    (hr : Run (Answers b fakeRutokenECP) s calls s') (hs : At s a locked) (hshut : Shut a locked)
    (hcalls : ∀ x ∈ calls, (x.2.rv = CKR_OK → x.1.begins b = none) ∧ ¬Call.Unlocks x) :
    ∃ a' locked', At s' a' locked' ∧ Shut a' locked' := by
  refine hr.history (P := fun calls s =>
    (∀ x ∈ calls, (x.2.rv = CKR_OK → x.1.begins b = none) ∧ ¬Call.Unlocks x) →
      ∃ a' locked', At s a' locked' ∧ Shut a' locked') ?_ ?_ hcalls
  · exact fun _ => ⟨a, locked, hs, hshut⟩
  rintro calls s ⟨c, r⟩ s' hbefore hstep hcalls
  have hlast := hcalls (c, r) (List.mem_append_right _ (List.mem_singleton_self _))
  obtain ⟨a', locked', hs', hshut'⟩ := hbefore fun x hx => hcalls x (List.mem_append_left _ hx)
  obtain ⟨a'', locked'', hs'', hmoves⟩ := moves_of_answers hs' hstep
  exact ⟨a'', locked'', hs'', hmoves.shut hshut' hlast.1 hlast.2⟩

/-- **A key that always wants the PIN.** Where a signature or a decryption has begun with such a key,
and no other operation has begun since, nothing comes of the calls for it unless the PIN has been
given in between; and once a signature or a plaintext has come out, the operation is over. -/
theorem always_authenticates {s s₁ s₂ s₃ : Session B} {calls₁ calls₂ : List (Call B × Reply)}
    {c₀ c : Call B} {r₀ r : Reply} {a : Activity B}
    (hrun₁ : Run (Answers b fakeRutokenECP) Session.create calls₁ s)
    (hbegin : Answers b fakeRutokenECP s (c₀, r₀) s₁) (hok : r₀.rv = CKR_OK)
    (hasks : c₀.begins b = some (a, true)) (hrun₂ : Run (Answers b fakeRutokenECP) s₁ calls₂ s₂)
    (hno : ∀ x ∈ calls₂, x.2.rv = CKR_OK → x.1.begins b = none)
    (huse : Answers b fakeRutokenECP s₂ (c, r) s₃) (hc : c.uses = true) (hyields : r.yields) :
    (∃ x ∈ calls₂, Call.Unlocks x) ∧ (r.output ≠ [] → At s₃ .idle false) := by
  obtain ⟨a₀, locked₀, hs⟩ := at_of_run hrun₁ ⟨.idle, false, at_create⟩
  have hs₁ : At s₁ a true := Bool.or_true locked₀ ▸ at_of_begins hs hbegin hok hasks
  have hshut₁ : Shut a true := .inl ⟨rfl, keyed_of_begins hasks⟩
  obtain ⟨a₂, locked₂, hs₂⟩ := at_of_run hrun₂ ⟨a, true, hs₁⟩
  refine ⟨?_, over_of_output hs₂ huse hc⟩
  by_contra hnever
  push Not at hnever
  obtain ⟨a', locked', hs', hshut'⟩ :=
    shut_run hrun₂ hs₁ hshut₁ fun x hx => ⟨hno x hx, hnever x hx⟩
  exact not_yields_of_shut hs' hshut' huse hc hyields

/-- The signature of two, after the PIN. -/
theorem always_authenticates_signing :
    (∃ x ∈ bareCalls.tail, Call.Unlocks x) ∧
      (power (3233, 2753) [0, 2] ≠ [] → At (bareSigning false).resetOp .idle false) := by
  have hbegin : Answers plainBuild true Session.create
      (.asymSignInit (.ok bareBegin), { rv := CKR_OK }) (bareSigning true) := rfl
  have hlogin : Run (Answers plainBuild true) (bareSigning true) bareCalls.tail
      (bareSigning false) := .snoc (.nil _) rfl
  have hsign : Answers plainBuild true (bareSigning false)
      (.sign CKR_OK (some [2]) (some ⟨true, 2⟩),
        { rv := CKR_OK, length := some 2, output := power (3233, 2753) [0, 2] })
      (bareSigning false).resetOp := rfl
  exact always_authenticates (.nil _) hbegin rfl rfl hlogin (by simp [bareCalls, Call.begins]) hsign
    rfl (.inl rfl)

end SoftHSM.Operation
