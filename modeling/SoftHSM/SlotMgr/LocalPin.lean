import SoftHSM.Cryptoki
import SoftHSM.DataMgr.MasterKey
import SoftHSM.Lib.Optimistic
import SoftHSM.SlotMgr.PinPolicy

/-!
Local PINs. A local PIN is a stored record of three bytes (version, budget, attempts left)
and the blob that the PIN opens. `setLocalPIN` takes no lock over its rounds: it reads the
record, verifies the current PIN on it, and replaces or decrements the very bytes it read,
with `updateLocalPIN` as the compare-and-swap.
-/

namespace SoftHSM.LocalPin

open ByteString SecureDataManager Optimistic CK_RV PinPolicy

/-- `isFactoryPIN`: eight bytes, "87654321" for the SO and "12345678" for the others. -/
def isFactoryPIN (pin : ByteString) (so : Bool) : Bool :=
  pin == if so then [0x38, 0x37, 0x36, 0x35, 0x34, 0x33, 0x32, 0x31]
    else [0x31, 0x32, 0x33, 0x34, 0x35, 0x36, 0x37, 0x38]

/-- The attributes of one local PIN: the record, and the mark of a factory PIN. -/
structure Stored where
  record : Option ByteString
  pinDefault : Bool
  deriving DecidableEq

/-- `OSToken::updateLocalPIN` once the record was found unchanged. -/
def updateLocalPIN (replacement : ByteString) (isDefault : Option Bool) (s : Stored) : Stored :=
  ⟨some replacement, isDefault.getD s.pinDefault⟩

structure Call where
  currentPIN : ByteString
  newPIN : ByteString

/-- What a call finds before its rounds: the token, and its policy if it can be read. -/
structure Admission where
  present : Bool
  policy : Option PinPolicy

/-- What a call meets in one round beside the record: a token that cannot be read, the random
bytes, the faults of the primitives, and, where there is no record yet, the verdict on the
user PIN that the first local PIN is set with. -/
structure Round where
  unreadable : Bool
  verifier : Draws
  replacement : Draws
  faults : PbeFaults
  userPIN : CK_RV

variable (P : Primitives)

def precheck (c : Call) (a : Admission) : Option CK_RV :=
  if !a.present then some CKR_TOKEN_NOT_PRESENT
  else
    match a.policy with
    | none => some CKR_DEVICE_ERROR
    | some policy =>
      if c.newPIN.length < policy.minLength.toNat || c.newPIN.length > 249 then
        some CKR_PIN_LEN_RANGE
      else none

/-- The second half of a round: a fresh blob under the new PIN, with all attempts left. -/
def replace (c : Call) (n : Round) : Plan Stored CK_RV :=
  let (rv, replacement) := setSOPIN P n.faults n.replacement c.newPIN (blank n.replacement)
  if !rv then .answer CKR_DEVICE_ERROR
  else .update (updateLocalPIN ([1, 10, 10] ++ replacement.soEncryptedKey)
    (some (isFactoryPIN c.newPIN false))) CKR_OK

/-- One round of `Token::setLocalPIN`. -/
def round (c : Call) (n : Round) (stored : Stored) : Plan Stored CK_RV :=
  if n.unreadable then .answer CKR_DEVICE_ERROR
  else
    match stored.record with
    | some record =>
      if record.length < 43 || byte record 0 != 1 || byte record 1 != 10 ||
          byte record 2 > 10 then .answer CKR_DEVICE_ERROR
      else if byte record 2 = 0 then .answer CKR_PIN_LOCKED
      else if !(loginSO P n.verifier c.currentPIN
          (create n.verifier (substrFrom record 3) [])).1 then
        .update (updateLocalPIN (record.set 2 (byte record 2 - 1)) none) CKR_PIN_INCORRECT
      else replace P c n
    | none =>
      if n.userPIN ≠ CKR_OK then .answer n.userPIN else replace P c n

/-- `Token::setLocalPIN`: at most 16 rounds, each compare-and-swap on the whole record. -/
def setLocalPIN {ι : Type*} (calls : ι → Call) :
    Program ι Stored ByteString CK_RV Admission Round where
  view s := s.record.getD []
  rounds := 16
  precheck i := precheck (calls i)
  plan i := round P (calls i)
  exhausted := CKR_DEVICE_ERROR
  failed := CKR_DEVICE_ERROR

/-- The record accepts the PIN: its blob opens. -/
def Accepts (pin record : ByteString) : Prop := (openBlob P pin (substrFrom record 3)).isSome

lemma verifier_iff (r : Draws) (pin record : ByteString) :
    (loginSO P r pin (create r (substrFrom record 3) [])).1 = true ↔ Accepts P pin record := by
  unfold loginSO login Accepts create
  simp only
  rcases openBlob P pin (substrFrom record 3) with _ | key <;> simp

/-- The update is the one that a wrong PIN costs: one attempt of the record it was tried on. -/
def Lowered (c : Call) (old new : Stored) : Prop :=
  ∃ record n, old.record = some record ∧ ¬ Accepts P c.currentPIN record ∧
    new = ⟨some (record.set 2 n), old.pinDefault⟩ ∧ byte (record.set 2 n) 2 = n ∧
    n.toNat + 1 = (byte record 2).toNat

/-- The update replaces the record that the current PIN was verified on, with all attempts
left and a blob under the new PIN. -/
def Replaced (c : Call) (old new : Stored) : Prop :=
  ∃ record, old.record = some record ∧ byte record 2 ≠ 0 ∧ Accepts P c.currentPIN record ∧
    ∃ f r m, setSOPIN P f r c.newPIN (blank r) = (true, m) ∧
      new = ⟨some ([1, 10, 10] ++ m.soEncryptedKey), isFactoryPIN c.newPIN false⟩

variable {P}

lemma replace_update {c : Call} {n : Round} {f : Stored → Stored} {rv : CK_RV}
    (h : replace P c n = .update f rv) :
    rv = CKR_OK ∧ ∃ m, setSOPIN P n.faults n.replacement c.newPIN (blank n.replacement) = (true, m) ∧
      f = updateLocalPIN ([1, 10, 10] ++ m.soEncryptedKey) (some (isFactoryPIN c.newPIN false)) := by
  rcases hs : setSOPIN P n.faults n.replacement c.newPIN (blank n.replacement) with ⟨b, m⟩
  cases b with
  | false => simp [replace, hs] at h
  | true =>
    simp only [replace, hs, Bool.not_true, Bool.false_eq_true, if_false, Plan.update.injEq] at h
    exact ⟨h.2.symm, m, rfl, h.1.symm⟩

lemma replace_answer {c : Call} {n : Round} {rv : CK_RV} (h : replace P c n = .answer rv) :
    rv = CKR_DEVICE_ERROR := by
  rcases hs : setSOPIN P n.faults n.replacement c.newPIN (blank n.replacement) with ⟨b, m⟩
  cases b with
  | false =>
    simp only [replace, hs, Bool.not_false, if_true, Plan.answer.injEq] at h
    exact h.symm
  | true => simp [replace, hs] at h

/-- What a round does with a record that is there. -/
lemma round_cases {c : Call} {n : Round} {stored : Stored} {record : ByteString}
    (hs : stored.record = some record) :
    round P c n stored = .answer CKR_DEVICE_ERROR ∨ round P c n stored = .answer CKR_PIN_LOCKED ∨
    43 ≤ record.length ∧ byte record 2 ≠ 0 ∧
      (¬ Accepts P c.currentPIN record ∧ round P c n stored =
        .update (updateLocalPIN (record.set 2 (byte record 2 - 1)) none) CKR_PIN_INCORRECT ∨
      Accepts P c.currentPIN record ∧ round P c n stored = replace P c n) := by
  unfold round
  rw [hs]
  split
  · exact .inl rfl
  simp only
  split
  · exact .inl rfl
  rename_i hform
  split
  · exact .inr (.inl rfl)
  rename_i h0
  have hlen : 43 ≤ record.length := by
    simp only [Bool.or_eq_true, decide_eq_true_eq, not_or] at hform
    omega
  refine .inr (.inr ⟨hlen, h0, ?_⟩)
  have hv := verifier_iff P n.verifier c.currentPIN record
  split
  · rename_i hr
    exact .inl ⟨fun ha => by simp [hv.2 ha] at hr, rfl⟩
  · rename_i hr
    exact .inr ⟨hv.1 (by simpa using hr), rfl⟩

/-- There is a record. -/
def Present (s : Stored) : Prop := s.record.isSome

lemma round_update {c : Call} {n : Round} {v s : Stored} {f : Stored → Stored} {rv : CK_RV}
    (hv : Present v) (hp : round P c n v = .update f rv) (hs : Present s)
    (he : s.record.getD [] = v.record.getD []) :
    rv = CKR_PIN_INCORRECT ∧ Lowered P c s (f s) ∨
      rv = CKR_OK ∧ Replaced P c s (f s) := by
  obtain ⟨record, hr⟩ := Option.isSome_iff_exists.1 hv
  obtain ⟨record', hr'⟩ := Option.isSome_iff_exists.1 hs
  obtain rfl : record' = record := by simpa [hr, hr'] using he
  rcases round_cases (P := P) (c := c) (n := n) hr with h | h | ⟨hlen, h0, ⟨ha, h⟩ | ⟨ha, h⟩⟩
  · rw [h] at hp
    cases hp
  · rw [h] at hp
    cases hp
  · rw [h] at hp
    cases hp
    exact .inl ⟨rfl, record', _, hr', ha, rfl, byte_set (by omega) _, toNat_pred h0⟩
  · rw [h] at hp
    obtain ⟨rfl, m, hm, rfl⟩ := replace_update hp
    exact .inr ⟨rfl, record', hr', h0, ha, n.faults, n.replacement, m, hm, rfl⟩

lemma round_answer {c : Call} {n : Round} {v : Stored} {rv : CK_RV} (hv : Present v)
    (hp : round P c n v = .answer rv) : rv ≠ CKR_OK ∧ rv ≠ CKR_PIN_INCORRECT := by
  obtain ⟨record, hr⟩ := Option.isSome_iff_exists.1 hv
  rcases round_cases (P := P) (c := c) (n := n) hr with h | h | ⟨-, -, ⟨-, h⟩ | ⟨-, h⟩⟩
  · rw [h] at hp
    cases hp
    decide
  · rw [h] at hp
    cases hp
    decide
  · rw [h] at hp
    cases hp
  · rw [h] at hp
    obtain rfl := replace_answer hp
    decide

lemma precheck_answer {c : Call} {a : Admission} {rv : CK_RV} (h : precheck c a = some rv) :
    rv ≠ CKR_OK ∧ rv ≠ CKR_PIN_INCORRECT := by
  unfold precheck at h
  split at h
  · cases h
    decide
  split at h
  · cases h
    decide
  split at h
  · cases h
    decide
  · cases h

section Runs

variable {ι : Type*} {calls : ι → Call}

lemma keeps_present : Keeps (setLocalPIN P calls) Present := by
  intro i n v f r c hv hp hc hcv
  rcases round_update hv hp hc hcv with ⟨-, record, k, -, -, hf, -⟩ |
    ⟨-, record, -, -, -, g, r', m, -, hf⟩ <;> rw [hf] <;> rfl

lemma declined_present {i : ι} {rv : CK_RV} (h : Declined (setLocalPIN P calls) Present i rv) :
    rv ≠ CKR_OK ∧ rv ≠ CKR_PIN_INCORRECT := by
  rcases h with ⟨a, h⟩ | ⟨n, v, hv, h⟩ | h | h
  · exact precheck_answer h
  · exact round_answer hv h
  · obtain rfl : rv = CKR_DEVICE_ERROR := h
    decide
  · obtain rfl : rv = CKR_DEVICE_ERROR := h
    decide

/-- A record without attempts left is final. -/
lemma final_of_locked {s : Stored} {record : ByteString} (hs : s.record = some record)
    (h0 : byte record 2 = 0) : Final (setLocalPIN P calls) Present s := by
  intro i n u f r hu hus hp
  obtain ⟨record', hr⟩ := Option.isSome_iff_exists.1 hu
  obtain rfl : record' = record := by simpa [setLocalPIN, hr, hs] using hus
  rcases round_cases (P := P) (c := calls i) (n := n) hr with h | h | ⟨-, h1, -⟩
  · rw [show round P (calls i) n u = _ from hp] at h
    cases h
  · rw [show round P (calls i) n u = _ from hp] at h
    cases h
  · exact h1 h0

/-- **Local PINs are linearized by their updates.** The updates that happened lead from the
first record to the present one. Each is made by one call, which answers with its result: the
calls that answer `CKR_PIN_INCORRECT` are those that took one attempt off the record they
tried a wrong PIN on, the calls that answer `CKR_OK` those that replaced the record they
verified the current PIN on, and a record without attempts left stays. -/
theorem setLocalPIN_linearized [DecidableEq ι] {record0 : ByteString} {d : Bool}
    {evs : List (Event ι Admission Round)} {s : State ι Stored ByteString CK_RV}
    (hr : Steps (setLocalPIN P calls) (.fresh ⟨some record0, d⟩) evs s) :
    Chain ⟨some record0, d⟩ s.log s.cell ∧
    (∀ i, s.phase i = .returned CKR_PIN_INCORRECT →
      ∃ e, updatesOf s i = [e] ∧ Lowered P (calls i) e.old e.new) ∧
    (∀ i, s.phase i = .returned CKR_OK →
      ∃ e, updatesOf s i = [e] ∧ Replaced P (calls i) e.old e.new) ∧
    (∀ e ∈ s.log, updatesOf s e.caller = [e] ∧ s.phase e.caller = .returned e.result ∧
      (e.result = CKR_PIN_INCORRECT ∧ Lowered P (calls e.caller) e.old e.new ∨
        e.result = CKR_OK ∧ Replaced P (calls e.caller) e.old e.new)) ∧
    (∀ e ∈ s.log, ∀ record, e.old.record = some record →
      ¬ Accepts P (calls e.caller).currentPIN record → s.phase e.caller ≠ .returned CKR_OK) ∧
    (∀ record, s.cell.record = some record → byte record 2 = 0 →
      ∀ evs' t, Steps (setLocalPIN P calls) s evs' t → t.cell = s.cell ∧ t.log = s.log) := by
  have hsound : Sound (setLocalPIN P calls) Present ⟨some record0, d⟩ s :=
    sound_steps (by rfl) keeps_present hr
  have hlog : ∀ e ∈ s.log, updatesOf s e.caller = [e] ∧ s.phase e.caller = .returned e.result ∧
      (e.result = CKR_PIN_INCORRECT ∧ Lowered P (calls e.caller) e.old e.new ∨
        e.result = CKR_OK ∧ Replaced P (calls e.caller) e.old e.new) := by
    intro e he
    obtain ⟨hu, hp⟩ := hsound.caller_answered he
    obtain ⟨hold, f, hf, n, v, hv, hview, hplan⟩ := hsound.planned e he
    rw [hf]
    exact ⟨hu, hp, round_update hv hplan hold hview.symm⟩
  -- an answer that needs an update comes with one
  have hret : ∀ i rv, s.phase i = .returned rv → (rv = CKR_OK ∨ rv = CKR_PIN_INCORRECT) →
      ∃ e ∈ s.log, updatesOf s i = [e] ∧ e.result = rv ∧ e.caller = i := by
    intro i rv hi hrv
    rcases hsound.answered i rv hi with ⟨e, he, hres⟩ | ⟨-, hd⟩
    · have hmem : e ∈ updatesOf s i := by rw [he]; exact List.mem_singleton_self e
      obtain ⟨hm, hc⟩ := List.mem_filter.1 hmem
      exact ⟨e, hm, he, hres, by simpa using hc⟩
    · obtain ⟨h1, h2⟩ := declined_present hd
      rcases hrv with hrv | hrv
      · exact absurd hrv h1
      · exact absurd hrv h2
  refine ⟨hsound.chain, fun i hi => ?_, fun i hi => ?_, hlog, fun e he record hrec hna hok => ?_,
    fun record hrec h0 evs' t ht => hsound.final_steps keeps_present (final_of_locked hrec h0) ht⟩
  · obtain ⟨e, hm, he, hres, rfl⟩ := hret i _ hi (.inr rfl)
    rcases (hlog e hm).2.2 with ⟨-, h⟩ | ⟨h, -⟩
    · exact ⟨e, he, h⟩
    · rw [hres] at h
      cases h
  · obtain ⟨e, hm, he, hres, rfl⟩ := hret i _ hi (.inl rfl)
    rcases (hlog e hm).2.2 with ⟨h, -⟩ | ⟨-, h⟩
    · rw [hres] at h
      cases h
    · exact ⟨e, he, h⟩
  · obtain ⟨-, hp, h | ⟨-, record', hrec', -, ha, -⟩⟩ := hlog e he
    · rw [hok, h.1] at hp
      cases hp
    · rw [hrec] at hrec'
      cases hrec'
      exact hna ha

end Runs

/-- Two calls that race with a wrong PIN for a record with two attempts left. -/
def race : List (Event Bool Admission Round) :=
  let a : Admission := ⟨true, some {}⟩
  let n : Round := ⟨false, zeroDraws, zeroDraws, .none, CKR_OK⟩
  [.start true a, .start false a, .read true n, .read false n, .update true, .update false,
    .read false n, .update false]

def raceCalls : Bool → Call := fun _ => ⟨[], factoryUserPIN⟩

def raced : State Bool Stored ByteString CK_RV :=
  race.foldl (exec (setLocalPIN plainPrimitives raceCalls))
    (.fresh ⟨some ([1, 10, 2] ++ List.replicate 40 0), false⟩)

theorem setLocalPIN_linearized_race :
    (∃ e, updatesOf raced true = [e] ∧ Lowered plainPrimitives (raceCalls true) e.old e.new) ∧
    (∃ e, updatesOf raced false = [e] ∧ Lowered plainPrimitives (raceCalls false) e.old e.new) ∧
    ∀ evs t, Steps (setLocalPIN plainPrimitives raceCalls) raced evs t → t.cell = raced.cell := by
  have hs : Steps (setLocalPIN plainPrimitives raceCalls) (.fresh _) race raced :=
    Transition.run_foldl (Transition.allAllowed_of_forall fun _ _ _ => trivial)
  obtain ⟨-, hwrong, -, -, -, hlast⟩ := setLocalPIN_linearized hs
  obtain ⟨record, hrecord⟩ : ∃ record, raced.cell.record = some record := ⟨_, rfl⟩
  have h0 : raced.cell.record.map (fun r => byte r 2) = some 0 := by decide
  rw [hrecord] at h0
  exact ⟨hwrong true rfl, hwrong false rfl,
    fun evs t ht => (hlast record hrecord (Option.some.inj h0) evs t ht).1⟩

end SoftHSM.LocalPin
