import SoftHSM.Lib.RecordFile
import SoftHSM.Lib.Tlv
import SoftHSM.Library.Facade

/-!
The journal of signatures: one record on the token object, which the next signature replaces.
Four bytes of a counter come before the item that is shown, and the counter is in the item too.
-/

namespace SoftHSM.Journal

open CK_RV RecordFile Tlv Transition

/-! ### The functions -/

/-- The counter before a record. -/
def count (old : ByteString) : ℕ := (old.take 4).foldl (fun n b => n * 256 + b.toNat) 0

def advance (count : ℕ) : ℕ := if count < 0xFFFFFFFF then count + 1 else count

def countByte (count i : ℕ) : UInt8 := UInt8.ofNat (count >>> (24 - 8 * i))

/-- The loop of `advanceJournal` that puts the counter into both places. -/
def stamp (count countOffset : ℕ) (journal : ByteString) : ByteString :=
  (List.range 4).foldl (fun journal i =>
    (journal.set i (countByte count i)).set (countOffset + i) (countByte count i)) journal

/-- `OSToken::advanceJournal` on the attribute of the token object. -/
def advanceJournal (valid : Bool) (w : Transaction) (journal : ByteString) (countOffset : ℕ) :
    Prog (Option ByteString) Bool :=
  if countOffset + 4 > journal.length || !valid then return false
  else do
    match ← Prog.transact w (fun stored =>
      match stored with
      | none => some (some (stamp (advance 0) countOffset journal))
      | some old =>
        if old.length < 4 then none
        else some (some (stamp (advance (count old)) countOffset journal))) .ret with
    | .committed _ => return true
    | _ => return false

/-- A signature on the token. -/
structure Signature where
  digest : ByteString
  signature : ByteString
  rsfType : UInt8
  hashedOnToken : Bool
  deriving DecidableEq

def operation (c : Signature) : ByteString :=
  (((List.replicate 12 0).set 0 1).set 1 c.rsfType).set 3 (if c.hashedOnToken then 1 else 0)

/-- The items before the operation, with the header of the operation. -/
def beforeOperation (c : Signature) : ByteString :=
  let inner := if c.digest.length = 32 ∨ c.digest.length = 64 then
      [0xAA] ++ [UInt8.ofNat c.digest.length] ++ c.digest
    else []
  let inner := inner ++ [0xB6]
  let inner := if c.signature.length ≥ 128 then inner ++ [0x81] else inner
  let inner := inner ++ [UInt8.ofNat c.signature.length]
  let inner := inner ++ c.signature.reverse
  inner ++ [0x85] ++ [12]

/-- The record without its counters, and where the second one is. -/
def journalRecord (c : Signature) : ByteString × ℕ :=
  let inner := beforeOperation c
  let countOffsetInInner := inner.length + 8
  let inner := inner ++ operation c
  let stored := List.replicate 4 0 ++ [0x80]
  let stored := if inner.length ≥ 128 then stored ++ [0x81] else stored
  let stored := stored ++ [UInt8.ofNat inner.length]
  (stored ++ inner, stored.length + countOffsetInInner)

/-- `Token::recordSignature`. -/
def recordSignature (present valid : Bool) (w : Transaction) (c : Signature) :
    Prog (Option ByteString) CK_RV :=
  if !present then return CKR_TOKEN_NOT_PRESENT
  else if c.signature.length = 0 || c.signature.length > 128 then return CKR_DEVICE_ERROR
  else do
    let (stored, countOffset) := journalRecord c
    if ← advanceJournal valid w stored countOffset then return CKR_OK
    else return CKR_DEVICE_ERROR

/-- `Token::getJournal` on the attribute of a token object that can be read. -/
def getJournal (attr : Option (Option ByteString)) : Option ByteString :=
  match attr with
  | none => none
  | some none => some []
  | some (some stored) => if stored.length < 4 then none else some (stored.drop 4)

/-- The part of `C_EX_GetJournal` that adds the serial number, where it is to be added. -/
def appendSerial (info : CK_RV × Vector UInt8 8) (journal : ByteString) :
    Except CK_RV ByteString :=
  if journal.length ≥ 3 && journal.getD 0 0 = 0x80 then
    let header := if journal.getD 1 0 = 0x81 then 3 else 2
    if journal.length > header && journal.getD header 0 ≠ 0x85 then
      if info.1 ≠ CKR_OK then .error info.1
      else
        let inner := journal.drop header ++ [0x83] ++ [8] ++ info.2.toList
        let journal : ByteString := [0x80]
        let journal := if inner.length ≥ 128 then journal ++ [0x81] else journal
        .ok (journal ++ [UInt8.ofNat inner.length] ++ inner)
    else .ok journal
  else .ok journal

/-- What the caller gives, what the library finds, and what `C_EX_GetTokenInfoExtended`
answers for the slot. -/
structure Request where
  isInitialised : Bool
  fakeRutokenECP : Bool
  /-- whether `pJournal` is not a null pointer -/
  pJournal : Bool
  pulJournalSize : Option ℕ
  info : CK_RV × Vector UInt8 8

/-- `C_EX_GetJournal`: its answer, the size that it gives back, and the bytes. -/
def C_EX_GetJournal {Tok : Type} [DecidableEq Tok] (r : Request)
    (journalOf : Tok → Option (Option ByteString)) (slotID : CK_SLOT_ID) (s : Facade Tok) :
    CK_RV × Option ℕ × Option ByteString :=
  if !r.isInitialised then (CKR_CRYPTOKI_NOT_INITIALIZED, r.pulJournalSize, none)
  else if !r.fakeRutokenECP then (CKR_FUNCTION_NOT_SUPPORTED, r.pulJournalSize, none)
  else if s.fakeRutokenLayout.length ≤ slotID then
    (if slotID < FAKE_RUTOKEN_SLOT_COUNT then CKR_TOKEN_NOT_PRESENT else CKR_SLOT_ID_INVALID,
      r.pulJournalSize, none)
  else
    match r.pulJournalSize with
    | none => (CKR_ARGUMENTS_BAD, none, none)
    | some room =>
      match (s.fakeRutokenSlot slotID).join with
      | none => (CKR_TOKEN_NOT_PRESENT, some room, none)
      | some token =>
        match getJournal (journalOf token) with
        | none => (CKR_DEVICE_ERROR, some room, none)
        | some journal =>
          match appendSerial r.info journal with
          | .error rv => (rv, some room, none)
          | .ok journal =>
            if !r.pJournal then (CKR_OK, some journal.length, none)
            else if room < journal.length then (CKR_BUFFER_TOO_SMALL, some journal.length, none)
            else (CKR_OK, some journal.length, some journal)

/-! ### The record -/

/-- The items in a record of a signature, the last with the operation. -/
def itemsOf (c : Signature) (operation : ByteString) : List (UInt8 × ByteString) :=
  (if c.digest.length = 32 ∨ c.digest.length = 64 then [(0xAA, c.digest)] else []) ++
    [(0xB6, c.signature.reverse), (0x85, operation)]

/-- The operation up to its counter. -/
def opening (c : Signature) : ByteString :=
  [1, c.rsfType, 0, if c.hashedOnToken then 1 else 0, 0, 0, 0, 0]

/-- Four bytes, and an item whose content is the items of the signature; its operation ends
with the four bytes. -/
def IsRecord (c : Signature) (record : ByteString) : Prop :=
  ∃ content operation, (record.take 4).length = 4 ∧
    IsItem 0x80 content (record.drop 4) ∧ AreItems (itemsOf c operation) content ∧
    operation.length = 12 ∧ operation.take 8 = opening c ∧ operation.drop 8 = record.take 4

def countBytes (n : ℕ) : ByteString := (List.range 4).map (countByte n)

lemma length_countBytes (n : ℕ) : (countBytes n).length = 4 := by simp [countBytes]

lemma count_countBytes {n : ℕ} (h : n < 2 ^ 32) (rest : ByteString) :
    count (countBytes n ++ rest) = n := by
  have ht : (countBytes n ++ rest).take 4 = countBytes n := by
    rw [List.take_append_of_le_length (length_countBytes n).ge, List.take_of_length_le]
    exact (length_countBytes n).le
  unfold count
  rw [ht]
  simp only [countBytes, countByte, List.range, List.range.loop, List.map_cons, List.map_nil,
    List.foldl_cons, List.foldl_nil, UInt8.toNat_ofNat', Nat.shiftRight_eq_div_pow]
  omega

/-- The two places of the counter. -/
lemma stamp_eq (n : ℕ) (mid : ByteString) :
    stamp n (4 + mid.length) (List.replicate 4 0 ++ mid ++ List.replicate 4 0) =
      countBytes n ++ mid ++ countBytes n := by
  have hfront : ∀ (p q : ByteString) (i : ℕ) (x : UInt8), i < p.length →
      (p ++ mid ++ q).set i x = p.set i x ++ mid ++ q := by
    intro p q i x hi
    rw [List.append_assoc, List.append_assoc, List.set_append_left _ _ hi]
  have hback : ∀ (p q : ByteString) (i : ℕ) (x : UInt8), p.length = 4 →
      (p ++ mid ++ q).set (4 + mid.length + i) x = p ++ mid ++ q.set i x := by
    intro p q i x hp
    rw [List.set_append_right _ _ (by rw [List.length_append, hp]; omega)]
    congr 2
    rw [List.length_append, hp]
    omega
  simp only [stamp, List.range, List.range.loop, List.foldl_cons, List.foldl_nil,
    List.replicate, countBytes, List.map_cons, List.map_nil]
  rw [hfront _ _ 0 _ (by simp), hback _ _ 0 _ (by simp), hfront _ _ 1 _ (by simp),
    hback _ _ 1 _ (by simp), hfront _ _ 2 _ (by simp), hback _ _ 2 _ (by simp),
    hfront _ _ 3 _ (by simp), hback _ _ 3 _ (by simp)]
  rfl

lemma operation_eq (c : Signature) : operation c = opening c ++ List.replicate 4 0 := rfl

lemma header_eq (s : ByteString) (n : ℕ) :
    (if n ≥ 128 then s ++ [0x81] else s) ++ [UInt8.ofNat n] = s ++ lengthOctets n := by
  unfold lengthOctets
  split
  · rw [if_neg (by omega)]
    simp
  · rw [if_pos (by omega)]

/-- What is in a record around the opening of its operation. -/
lemma content_eq (c : Signature) {op : ByteString} (hop : op.length = 12) :
    beforeOperation c ++ op = (itemsOf c op).flatMap fun x => encode x.1 x.2 := by
  have h12 : encode 0x85 op = [0x85] ++ [12] ++ op := by
    unfold encode
    rw [hop]
    rfl
  have hb6 : ∀ s : ByteString, (if c.signature.length ≥ 128 then s ++ [0xB6] ++ [0x81]
      else s ++ [0xB6]) ++ [UInt8.ofNat c.signature.length] ++ c.signature.reverse =
      s ++ encode 0xB6 c.signature.reverse := by
    intro s
    rw [header_eq]
    simp [encode, List.append_assoc]
  unfold beforeOperation itemsOf
  simp only [hb6]
  split
  · rename_i hd
    have hlt : c.digest.length < 128 := by omega
    simp [encode, lengthOctets, hlt, hop]
  · simp [encode, lengthOctets, hop]

lemma length_beforeOperation {c : Signature} (hs : c.signature.length ≤ 128) :
    (beforeOperation c).length ≤ 199 := by
  unfold beforeOperation
  split
  · split <;> simp <;> omega
  · split <;> simp <;> omega

/-- Everything of a record between its counters. -/
def middle (c : Signature) : ByteString :=
  [0x80] ++ lengthOctets ((beforeOperation c).length + 12) ++ beforeOperation c ++ opening c

lemma journalRecord_eq (c : Signature) :
    journalRecord c =
      (List.replicate 4 0 ++ middle c ++ List.replicate 4 0, 4 + (middle c).length) := by
  have hn : (beforeOperation c ++ operation c).length = (beforeOperation c).length + 12 := by
    rw [List.length_append]
    rfl
  unfold journalRecord
  simp only [header_eq, hn]
  unfold middle
  refine Prod.ext ?_ ?_
  · simp only [operation_eq, List.append_assoc]
  · simp only [List.length_append, List.length_replicate, List.length_singleton]
    have h8 : (opening c).length = 8 := rfl
    omega

lemma middle_countBytes (c : Signature) (n : ℕ) : middle c ++ countBytes n =
    encode 0x80 (beforeOperation c ++ (opening c ++ countBytes n)) := by
  have hop : (opening c ++ countBytes n).length = 12 := by
    rw [List.length_append, length_countBytes]
    rfl
  unfold middle encode
  rw [List.length_append, hop]
  simp [List.append_assoc]

/-- What `advanceJournal` makes of the record at a count. -/
lemma isRecord_stamp {c : Signature} (hs : c.signature.length ≤ 128) (n : ℕ) :
    IsRecord c (stamp n (journalRecord c).2 (journalRecord c).1) := by
  have h4 := length_countBytes n
  have hop : (opening c ++ countBytes n).length = 12 := by
    rw [List.length_append, h4]
    rfl
  have hcontent := content_eq c hop
  have hlen : (beforeOperation c ++ (opening c ++ countBytes n)).length < 256 := by
    have := length_beforeOperation hs
    rw [List.length_append, hop]
    omega
  have htake : (countBytes n ++ (middle c ++ countBytes n)).take 4 = countBytes n := by
    rw [List.take_append_of_le_length h4.ge, List.take_of_length_le h4.le]
  have hdrop : (countBytes n ++ (middle c ++ countBytes n)).drop 4 = middle c ++ countBytes n := by
    rw [List.drop_append_of_le_length h4.ge, List.drop_of_length_le h4.le]
    rfl
  rw [journalRecord_eq, stamp_eq, List.append_assoc]
  refine ⟨beforeOperation c ++ (opening c ++ countBytes n), opening c ++ countBytes n, ?_, ?_, ?_,
    hop, rfl, ?_⟩
  · rw [htake, h4]
  · rw [hdrop, middle_countBytes]
    exact isItem_encode hlen
  · rw [hcontent]
    refine areItems_encode fun x hx => ?_
    unfold itemsOf at hx
    rcases List.mem_append.1 hx with hx | hx
    · split at hx
      · obtain rfl := List.mem_singleton.1 hx
        simp only
        omega
      · cases hx
    · rcases List.mem_pair.1 hx with rfl | rfl
      · simp only [List.length_reverse]
        omega
      · simp only [hop]
        omega
  · rw [htake]
    rfl

lemma count_stamp {c : Signature} {n : ℕ} (hn : n < 2 ^ 32) :
    count (stamp n (journalRecord c).2 (journalRecord c).1) = n := by
  rw [journalRecord_eq, stamp_eq, List.append_assoc]
  exact count_countBytes hn _

/-! ### The item that is shown -/

lemma appendSerial_encode {content : ByteString} {tag : UInt8} (ht : content.head? = some tag)
    (h85 : tag ≠ 0x85) (serial : Vector UInt8 8) :
    appendSerial (CKR_OK, serial) (encode 0x80 content) =
      .ok (encode 0x80 (content ++ [0x83] ++ [8] ++ serial.toList)) := by
  obtain ⟨rest, rfl⟩ : ∃ rest, content = tag :: rest := by
    cases content with
    | nil => cases ht
    | cons a rest =>
      obtain rfl : a = tag := by simpa using ht
      exact ⟨rest, rfl⟩
  have hout : ∀ inner : ByteString, (if inner.length ≥ 128 then [0x80] ++ [0x81] else [0x80]) ++
      [UInt8.ofNat inner.length] ++ inner = encode 0x80 inner := by
    intro inner
    rw [header_eq]
    rfl
  by_cases hs : (tag :: rest).length < 128
  · have h81 : UInt8.ofNat (tag :: rest).length ≠ 0x81 := by
      intro he
      have := congrArg UInt8.toNat he
      rw [Tlv.toNat_ofNat (by omega)] at this
      have h129 : (0x81 : UInt8).toNat = 129 := rfl
      omega
    have he : encode 0x80 (tag :: rest) = 0x80 :: UInt8.ofNat (tag :: rest).length :: tag :: rest := by
      simp only [encode, lengthOctets, if_pos hs]
      rfl
    unfold appendSerial
    rw [he]
    simp only [List.getD_cons_zero, List.getD_cons_succ, if_neg h81, List.drop_succ_cons,
      List.drop_zero, hout, ne_eq, not_true_eq_false, if_false]
    simp [h85]
  · have he : encode 0x80 (tag :: rest) =
        0x80 :: 0x81 :: UInt8.ofNat (tag :: rest).length :: tag :: rest := by
      simp only [encode, lengthOctets, if_neg hs]
      rfl
    unfold appendSerial
    rw [he]
    simp only [List.getD_cons_zero, List.getD_cons_succ, List.drop_succ_cons, if_true,
      List.drop_zero, hout, ne_eq, not_true_eq_false, if_false]
    simp [h85]

lemma head_itemsOf (c : Signature) (op : ByteString) :
    ∃ tag, ((itemsOf c op).flatMap fun x => encode x.1 x.2).head? = some tag ∧ tag ≠ 0x85 := by
  unfold itemsOf
  split
  · exact ⟨0xAA, rfl, by decide⟩
  · exact ⟨0xB6, rfl, by decide⟩

/-! ### Any number of processes -/

/-- A call that has succeeded, and the record that it left. -/
structure Entry where
  call : Signature
  record : ByteString

/-- The journal in the file, unless the file is unreadable, the copies of the processes, and the
calls that have succeeded. -/
structure State (ι : Type*) where
  disk : Option (Option ByteString)
  copies : ι → Option ByteString × Bool
  log : List Entry

/-- A call of `recordSignature`, and what it meets. -/
structure Call (ι : Type*) where
  process : ι
  present : Bool
  valid : Bool
  w : Transaction
  signature : Signature

variable {ι : Type*}

def State.file (s : State ι) (i : ι) : File (Option ByteString) :=
  ⟨s.disk, (s.copies i).1, (s.copies i).2⟩

def exec [DecidableEq ι] (s : State ι) (e : Call ι) : State ι :=
  let (rv, o) := (recordSignature e.present e.valid e.w e.signature).run (s.file e.process)
  ⟨o.disk, Function.update s.copies e.process (o.attributes, o.valid),
    if rv = CKR_OK then s.log ++ [⟨e.signature, o.disk.join.getD []⟩] else s.log⟩

def Steps [DecidableEq ι] : State ι → List (Call ι) → State ι → Prop :=
  Run (Step (fun _ _ => True) exec)

/-- The counter of a journal, 0 where there is none. -/
def counter (stored : Option ByteString) : ℕ := (stored.map count).getD 0

/-- The journal after some calls. -/
def current (stored0 : Option ByteString) (log : List Entry) : Option ByteString :=
  (log.getLast?.map Entry.record).or stored0

/-- What a call does: nothing, it spoils the file, or it answers `CKR_OK` and leaves a record
with the next count. -/
lemma recordSignature_cases (e : Call ι) (o : File (Option ByteString)) :
    let r := (recordSignature e.present e.valid e.w e.signature).run o
    (r.1 ≠ CKR_OK ∧ (r.2.disk = o.disk ∨ r.2.disk = none)) ∨
    (r.1 = CKR_OK ∧ e.signature.signature.length ≤ 128 ∧ ∃ stored, o.disk = some stored ∧
      r.2.disk = some (some (stamp (advance (counter stored)) (journalRecord e.signature).2
        (journalRecord e.signature).1))) := by
  simp only
  unfold recordSignature
  split
  · exact .inl ⟨CK_RV.noConfusion, .inl rfl⟩
  split
  · exact .inl ⟨CK_RV.noConfusion, .inl rfl⟩
  rename_i hlen
  have hlen : e.signature.signature.length ≤ 128 := by
    simp only [Bool.or_eq_true, decide_eq_true_eq, not_or] at hlen
    omega
  rw [Prog.run_bind]
  unfold advanceJournal
  split
  · exact .inl ⟨CK_RV.noConfusion, .inl rfl⟩
  rw [Prog.run_bind]
  simp only [Prog.run]
  generalize hf : (fun stored : Option ByteString => _) = f
  rcases File.disk_transact o e.w f with ⟨h1, h2⟩ | ⟨h1, h2⟩ | ⟨h1, h2⟩ | ⟨a, a', ha, hfa, h1, h2⟩
  · simp [h1, h2, Prog.run_pure]
  · simp [h1, h2, Prog.run_pure]
  · simp [h1, h2, Prog.run_pure]
  · refine .inr ⟨by simp [h1, Prog.run_pure], hlen, a, ha, ?_⟩
    simp only [h1, Prog.run_pure, if_true]
    rw [h2]
    subst hf
    cases a with
    | none => exact congrArg some (Option.some.inj hfa).symm
    | some old =>
      simp only at hfa
      split at hfa
      · cases hfa
      · exact congrArg some (Option.some.inj hfa).symm

lemma count_lt (old : ByteString) : count old < 2 ^ 32 := by
  have hfold : ∀ (l : ByteString) (n : ℕ),
      l.foldl (fun n b => n * 256 + b.toNat) n < (n + 1) * 256 ^ l.length := by
    intro l
    induction l with
    | nil => simp
    | cons b l ih =>
      intro n
      have hb := b.toNat_lt
      calc _ < (n * 256 + b.toNat + 1) * 256 ^ l.length := ih _
        _ ≤ ((n + 1) * 256) * 256 ^ l.length := Nat.mul_le_mul_right _ (by omega)
        _ = (n + 1) * 256 ^ (b :: l).length := by
          rw [List.length_cons, Nat.pow_succ', Nat.mul_assoc]
  calc count old < (0 + 1) * 256 ^ (old.take 4).length := hfold _ 0
    _ ≤ 1 * 256 ^ 4 := by
      rw [Nat.zero_add]
      exact Nat.mul_le_mul_left _ (Nat.pow_le_pow_right (by omega) (by simp))
    _ = 2 ^ 32 := rfl

lemma counter_lt (stored : Option ByteString) : counter stored < 2 ^ 32 := by
  cases stored with
  | none => simp [counter]
  | some old => exact count_lt old

lemma advance_lt {n : ℕ} (h : n < 2 ^ 32) : advance n < 2 ^ 32 := by
  unfold advance
  split <;> omega

/-- The calls that have succeeded left records of their signatures, each with the next count. -/
structure Sound (stored0 : Option ByteString) (s : State ι) : Prop where
  disk : s.disk = none ∨ s.disk = some (current stored0 s.log)
  records : ∀ e ∈ s.log, e.call.signature.length ≤ 128 ∧ ∃ n < 2 ^ 32,
    e.record = stamp n (journalRecord e.call).2 (journalRecord e.call).1
  counts : ∀ (i : ℕ) (e : Entry), s.log[i]? = some e →
    count e.record = min (counter stored0 + (i + 1)) 0xFFFFFFFF

lemma Sound.counter_current {stored0 : Option ByteString} {s : State ι} (h : Sound stored0 s) :
    counter (current stored0 s.log) = min (counter stored0 + s.log.length) 0xFFFFFFFF := by
  unfold current
  rcases hl : s.log.getLast? with _ | e
  · obtain hnil := List.getLast?_eq_none_iff.1 hl
    have := counter_lt stored0
    simp only [hnil, Option.map_none, Option.none_or, List.length_nil]
    omega
  · rw [List.getLast?_eq_getElem?] at hl
    have hc := h.counts _ _ hl
    have hpos : 0 < s.log.length := by
      by_contra h0
      rw [List.eq_nil_of_length_eq_zero (by omega : s.log.length = 0)] at hl
      cases hl
    rw [show s.log.length - 1 + 1 = s.log.length by omega] at hc
    exact hc

lemma Sound.exec [DecidableEq ι] {stored0 : Option ByteString} {s : State ι} (h : Sound stored0 s)
    (e : Call ι) : Sound stored0 (exec s e) := by
  have hcases := recordSignature_cases e (s.file e.process)
  unfold Journal.exec
  rcases hr : (recordSignature e.present e.valid e.w e.signature).run (s.file e.process) with ⟨rv, o⟩
  simp only [hr] at hcases ⊢
  rcases hcases with ⟨hrv, hd⟩ | ⟨rfl, hlen, stored, hd, ho⟩
  · rw [if_neg hrv]
    refine ⟨?_, h.records, h.counts⟩
    rcases hd with hd | hd
    · rw [hd]
      exact h.disk
    · exact .inl hd
  · have hstored : stored = current stored0 s.log := by
      rcases h.disk with h0 | h0
      · rw [show s.disk = some stored from hd] at h0
        cases h0
      · rw [show s.disk = some stored from hd] at h0
        exact Option.some.inj h0
    have hn : advance (counter stored) < 2 ^ 32 := advance_lt (counter_lt stored)
    rw [if_pos rfl]
    refine ⟨.inr ?_, fun f hf => ?_, fun i f hi => ?_⟩
    · simp [current, ho]
    · rcases List.mem_append.1 hf with hf | hf
      · exact h.records f hf
      · obtain rfl := List.mem_singleton.1 hf
        exact ⟨hlen, _, hn, by simp [ho]⟩
    · rcases Nat.lt_trichotomy i s.log.length with hlt | rfl | hgt
      · rw [List.getElem?_append_left hlt] at hi
        exact h.counts i f hi
      · rw [List.getElem?_concat_length, Option.some.injEq] at hi
        subst hi
        simp only [ho, Option.join_some, Option.getD_some]
        rw [count_stamp hn, hstored, h.counter_current]
        unfold advance
        split <;> omega
      · rw [List.getElem?_eq_none (by simp; omega)] at hi
        cases hi

/-- The facade has a token in the slot whose journal is the record, and the request is one that
it can answer. -/
structure Shows {Tok : Type} [DecidableEq Tok] (r : Request)
    (journalOf : Tok → Option (Option ByteString)) (slotID : CK_SLOT_ID) (s : Facade Tok)
    (record : ByteString) (serial : Vector UInt8 8) (room : ℕ) : Prop where
  isInitialised : r.isInitialised = true
  fakeRutokenECP : r.fakeRutokenECP = true
  slot : slotID < s.fakeRutokenLayout.length
  token : ∃ token, s.fakeRutokenSlot slotID = some (some token) ∧
    journalOf token = some (some record)
  info : r.info = (CKR_OK, serial)
  size : r.pulJournalSize = some room

/-- The size of an item, or the item where there is room for it. -/
def give (pJournal : Bool) (room : ℕ) (shown : ByteString) : CK_RV × Option ℕ × Option ByteString :=
  if !pJournal then (CKR_OK, some shown.length, none)
  else if room < shown.length then (CKR_BUFFER_TOO_SMALL, some shown.length, none)
  else (CKR_OK, some shown.length, some shown)

lemma C_EX_GetJournal_record {c : Signature} (hs : c.signature.length ≤ 128) {n : ℕ} {Tok : Type}
    [DecidableEq Tok] {r : Request} {journalOf : Tok → Option (Option ByteString)}
    {slotID : CK_SLOT_ID} {s : Facade Tok} {record : ByteString} {serial : Vector UInt8 8} {room : ℕ}
    (hrec : record = stamp n (journalRecord c).2 (journalRecord c).1)
    (hr : Shows r journalOf slotID s record serial room) :
    ∃ content shown, IsItem 0x80 content (record.drop 4) ∧
      IsItem 0x80 (content ++ [0x83] ++ [8] ++ serial.toList) shown ∧
      C_EX_GetJournal r journalOf slotID s = give r.pJournal room shown := by
  have h4 := length_countBytes n
  have hop : (opening c ++ countBytes n).length = 12 := by
    rw [List.length_append, h4]
    rfl
  obtain ⟨content, hcontent⟩ : ∃ x, x = beforeOperation c ++ (opening c ++ countBytes n) := ⟨_, rfl⟩
  have hlen : content.length + 10 < 256 := by
    have := length_beforeOperation hs
    rw [hcontent, List.length_append, hop]
    omega
  have hdrop : record.drop 4 = encode 0x80 content := by
    rw [hrec, journalRecord_eq, stamp_eq, List.append_assoc, List.drop_append_of_le_length h4.ge,
      List.drop_of_length_le h4.le, List.nil_append, hcontent]
    exact middle_countBytes c n
  have hlong : ¬ record.length < 4 := by
    intro hshort
    rw [List.drop_of_length_le hshort.le] at hdrop
    cases hdrop
  obtain ⟨tag, htag, h85⟩ := head_itemsOf c (opening c ++ countBytes n)
  rw [← content_eq c hop, ← hcontent] at htag
  refine ⟨content, encode 0x80 (content ++ [0x83] ++ [8] ++ serial.toList), ?_, ?_, ?_⟩
  · rw [hdrop]
    exact isItem_encode (by omega)
  · refine isItem_encode ?_
    simp only [List.length_append, List.length_singleton, Vector.length_toList]
    omega
  · obtain ⟨token, htoken, hjournal⟩ := hr.token
    unfold C_EX_GetJournal
    rw [hr.isInitialised, hr.fakeRutokenECP, if_neg (by simp), if_neg (by simp),
      if_neg (Nat.not_le.2 hr.slot), hr.size, htoken, hr.info]
    simp only [Option.join_some, hjournal, getJournal, if_neg hlong, hdrop,
      appendSerial_encode htag h85]
    rfl

/-- Two processes that sign in turn. -/
def signedTwice : List (Call Bool) :=
  [⟨true, true, true, .done, ⟨[0xDD], [1, 2, 3], 7, true⟩⟩,
    ⟨false, true, true, .done, ⟨[], [5], 9, false⟩⟩]

def unsigned : State Bool := ⟨some none, fun _ => (none, false), []⟩

end SoftHSM.Journal
