import Mathlib.Data.List.Basic
import Mathlib.Data.Nat.Basic
import Mathlib.Logic.ExistsUnique
import Mathlib.Logic.Function.Basic
import SoftHSM.Cryptoki
import SoftHSM.DataMgr.SecureDataManager
import SoftHSM.Lib.OrderedMap
import SoftHSM.Lib.Transition

/-!
The slot manager over the tokens of the object store: which slot every token gets, and what
becomes of that when tokens are made and the spare slot is put back.

A token is known by its address. The assertion in `insertToken` is the one of the source: it
says whether the slot was free, and nothing depends on it.
-/

set_option linter.unusedSectionVars false

namespace SoftHSM

open CK_RV Transition

/-- The tokens of the object store, in its order. -/
structure ObjectStore (Tok : Type) where
  tokens : List Tok
  getTokenSerial : Tok → ByteString

/-- The slots in the order of their numbers, each with its token if that is initialised. -/
structure SlotManager (Tok : Type) where
  slots : List (CK_SLOT_ID × Option Tok)

namespace SlotManager

variable {Tok : Type} [DecidableEq Tok]

/-! ### Slot numbers -/

def isspace (c : UInt8) : Bool := c = 0x20 || 0x09 ≤ c && c ≤ 0x0D

def hexDigit (c : UInt8) : Option ℕ :=
  if 0x30 ≤ c && c ≤ 0x39 then some (c.toNat - 0x30)
  else if 0x41 ≤ c && c ≤ 0x46 then some (c.toNat - 0x41 + 10)
  else if 0x61 ≤ c && c ≤ 0x66 then some (c.toNat - 0x61 + 10)
  else none

/-- The number that the leading digits say. -/
def hexValue : ByteString → ℕ → ℕ
  | [], n => n
  | c :: s, n =>
    match hexDigit c with
    | none => n
    | some d => hexValue s (16 * n + d)

/-- The digits after `0x`, if there are any. -/
def skipPrefix : ByteString → ByteString
  | 0x30 :: x :: c :: s =>
    if (x = 0x58 || x = 0x78) && (hexDigit c).isSome then c :: s else 0x30 :: x :: c :: s
  | s => s

/-- `strtoul(s, NULL, 16)` of a string that ends at its first zero byte. -/
def strtoul (s : ByteString) : ℕ :=
  let s := (s.takeWhile (· ≠ 0)).dropWhile isspace
  let value := fun s => min (hexValue (skipPrefix s) 0) (2 ^ 64 - 1)
  match s with
  | 0x2D :: s => (2 ^ 64 - value s) % 2 ^ 64
  | 0x2B :: s => value s
  | s => value s

/-- The number of the slot for a token that is stored already: the last eight digits of the
serial, without the sign bit of a Java `int`. -/
def slotIDOf (serial : ByteString) : CK_SLOT_ID :=
  let l := if serial.length < 8 then strtoul serial
    else strtoul (ByteString.substrFrom serial (serial.length - 8))
  (2 ^ 31 - 1) &&& l

/-! ### The functions -/

/-- `insertToken`, with what the assertion checks. -/
def insertToken (slotID : CK_SLOT_ID) (pToken : Option Tok) (m : SlotManager Tok) :
    Bool × SlotManager Tok :=
  let (inserted, slots) := OrderedMap.insert slotID pToken m.slots
  (inserted, ⟨slots⟩)

/-- The constructor: a slot for each token, and an empty slot. -/
def new (objectStore : ObjectStore Tok) : SlotManager Tok :=
  let m := objectStore.tokens.foldl
    (fun m pToken => (insertToken (slotIDOf (objectStore.getTokenSerial pToken)) (some pToken) m).2)
    ⟨[]⟩
  (insertToken objectStore.tokens.length none m).2

def isTokenPresent (_slot : Option Tok) : Bool := true

/-- `getSlotList`: the list of slots where there is a place for it, and their number. -/
def getSlotList (objectStore : ObjectStore Tok) (tokenPresent pSlotList : Bool)
    (pulCount : Option ℕ) (m : SlotManager Tok) :
    CK_RV × List CK_SLOT_ID × Option ℕ × SlotManager Tok :=
  match pulCount with
  | none => (CKR_ARGUMENTS_BAD, [], none, m)
  | some count =>
    let shown := m.slots.filter fun slot => !tokenPresent || isTokenPresent slot.2
    let size := shown.length
    let uninitialized := m.slots.any fun slot => slot.2.isNone
    if !pSlotList then
      -- always have an uninitialised token
      if !uninitialized then
        (CKR_OK, [], some (size + 1), (insertToken objectStore.tokens.length none m).2)
      else (CKR_OK, [], some size, m)
    else if count < size then (CKR_BUFFER_TOO_SMALL, [], some size, m)
    else
      -- uninitialised slots are filled in from the end
      let (last, first) := shown.partition fun slot => isTokenPresent slot.2 && slot.2.isNone
      (CKR_OK, (first ++ last.reverse).map Prod.fst, some size, m)

/-- How the making of a token turns out. -/
structure NewToken (Tok : Type) where
  /-- the checks before there is a token -/
  refused : Option CK_RV
  /-- the token that the object store makes, with its serial -/
  token : Option (Tok × ByteString)
  /-- whether its PINs could be stored, and otherwise whether it could be removed again -/
  stored : Bool
  destroyed : Bool
  /-- the rest -/
  finished : CK_RV

end SlotManager

open SlotManager

namespace ObjectStore

variable {Tok : Type} [DecidableEq Tok]

def newToken (t : Tok) (serial : ByteString) (s : ObjectStore Tok) : ObjectStore Tok :=
  ⟨s.tokens ++ [t], Function.update s.getTokenSerial t serial⟩

def destroyToken (t : Tok) (s : ObjectStore Tok) : ObjectStore Tok :=
  { s with tokens := s.tokens.erase t }

end ObjectStore

/-- The object store and the slot manager over it. -/
structure SlotSystem (Tok : Type) where
  store : ObjectStore Tok
  manager : SlotManager Tok

namespace SlotSystem

variable {Tok : Type} [DecidableEq Tok]

/-- `createToken` and `initTokenExtended` on a slot, as far as the object store and the slot
notice. -/
def createToken (e : NewToken Tok) (store : ObjectStore Tok) :
    Option Tok → CK_RV × ObjectStore Tok × Option Tok
  | some t => (e.refused.getD e.finished, store, some t)
  | none =>
    match e.refused, e.token with
    | some rv, _ => (rv, store, none)
    | none, none => (CKR_DEVICE_ERROR, store, none)
    | none, some (t, serial) =>
      let store := store.newToken t serial
      if !e.stored then
        (CKR_DEVICE_ERROR, if e.destroyed then store.destroyToken t else store, none)
      else (e.finished, store, some t)

def C_InitToken (e : NewToken Tok) (slotID : CK_SLOT_ID) (s : SlotSystem Tok) :
    CK_RV × SlotSystem Tok :=
  match OrderedMap.get slotID s.manager.slots with
  | none => (CKR_SLOT_ID_INVALID, s)
  | some slot =>
    let (rv, store, slot) := createToken e s.store slot
    (rv, ⟨store, ⟨OrderedMap.put slotID slot s.manager.slots⟩⟩)

inductive Op (Tok : Type)
  | getSlotList (tokenPresent pSlotList : Bool) (pulCount : Option ℕ)
  | C_InitToken (e : NewToken Tok) (slotID : CK_SLOT_ID)

def exec (s : SlotSystem Tok) : Op Tok → SlotSystem Tok
  | .getSlotList tokenPresent pSlotList pulCount =>
    { s with manager := (getSlotList s.store tokenPresent pSlotList pulCount s.manager).2.2.2 }
  | .C_InitToken e slotID => (s.C_InitToken e slotID).2

def start (store : ObjectStore Tok) : SlotSystem Tok := ⟨store, .new store⟩

/-! ### Slot identity -/

/-- The slot of a number. -/
def slot (s : SlotSystem Tok) (slotID : CK_SLOT_ID) : Option (Option Tok) :=
  OrderedMap.get slotID s.manager.slots

/-- Every token of the object store has one slot, and one slot at most is empty. -/
structure Identity (s : SlotSystem Tok) : Prop where
  token : ∀ t ∈ s.store.tokens, ∃! slotID, s.slot slotID = some (some t)
  spare : ∀ i j, s.slot i = some none → s.slot j = some none → i = j

/-- No two tokens come to the same slot. -/
def DistinctSlots (store : ObjectStore Tok) : Prop :=
  ∀ t ∈ store.tokens, ∀ t' ∈ store.tokens,
    slotIDOf (store.getTokenSerial t) = slotIDOf (store.getTokenSerial t') → t = t'

/-- A token that is made is a new one. -/
def Fresh (s : SlotSystem Tok) : Op Tok → Prop
  | .getSlotList _ _ _ => True
  | .C_InitToken e _ => ∀ t serial, e.token = some (t, serial) →
      t ∉ s.store.tokens ∧ ∀ i, s.slot i ≠ some (some t)

/-- A new token that does not get its PINs can be removed again. -/
def NothingLeft (s : SlotSystem Tok) : Op Tok → Prop
  | .getSlotList _ _ _ => True
  | .C_InitToken e slotID => s.slot slotID = some none → e.refused = none → e.token.isSome →
      e.stored = false → e.destroyed = true

/-- The constructor gives a slot to the first token of each number. -/
lemma get_foldl_insertToken (id : Tok → CK_SLOT_ID) (ts : List Tok) (m : SlotManager Tok)
    (i : CK_SLOT_ID) :
    OrderedMap.get i (ts.foldl (fun m t => (insertToken (id t) (some t) m).2) m).slots =
      (OrderedMap.get i m.slots).or ((ts.find? fun t => id t = i).map some) := by
  induction ts generalizing m with
  | nil => simp
  | cons t ts ih =>
    rw [List.foldl_cons, ih, List.find?_cons]
    have hget : OrderedMap.get i (insertToken (id t) (some t) m).2.slots = _ :=
      OrderedMap.get_insert (id t) i (some t) m.slots
    rw [hget]
    by_cases h : id t = i
    · subst h
      rcases OrderedMap.get (id t) m.slots with _ | x <;> simp
    · have h' : i ≠ id t := fun hi => h hi.symm
      simp [h, h']

lemma slot_start (store : ObjectStore Tok) (i : CK_SLOT_ID) : (start store).slot i =
    (((store.tokens.find? fun t => slotIDOf (store.getTokenSerial t) = i).map some).or
      (if i = store.tokens.length then some none else none)) := by
  have hget : (start store).slot i = _ := OrderedMap.get_insert store.tokens.length i none _
  rw [hget, get_foldl_insertToken, get_foldl_insertToken]
  by_cases h : i = store.tokens.length
  · subst h
    rcases store.tokens.find? _ with _ | t <;> simp [OrderedMap.get]
  · simp [h, OrderedMap.get]

/-- A token has the slot of its serial, if it has one at all. -/
lemma slot_start_token {store : ObjectStore Tok} {i : CK_SLOT_ID} {t : Tok}
    (h : (start store).slot i = some (some t)) : slotIDOf (store.getTokenSerial t) = i := by
  rw [slot_start] at h
  rcases hf : store.tokens.find? fun t => slotIDOf (store.getTokenSerial t) = i with _ | t'
  · rw [hf] at h
    split at h <;> cases h
  · rw [hf] at h
    cases h
    simpa using List.find?_some hf

lemma identity_start (store : ObjectStore Tok) : Identity (start store) ↔ DistinctSlots store := by
  constructor
  · intro h t ht t' ht' heq
    obtain ⟨i, hi, -⟩ := h.token t ht
    obtain ⟨j, hj, -⟩ := h.token t' ht'
    have hij : i = j := by rw [← slot_start_token hi, ← slot_start_token hj, heq]
    subst hij
    exact Option.some.inj (Option.some.inj (hi.symm.trans hj))
  · intro h
    refine ⟨fun t ht => ⟨slotIDOf (store.getTokenSerial t), ?_, fun i hi => ?_⟩, ?_⟩
    · have hfind : store.tokens.find? (fun t' => slotIDOf (store.getTokenSerial t') =
          slotIDOf (store.getTokenSerial t)) = some t := by
        rcases hf : store.tokens.find? (fun t' => slotIDOf (store.getTokenSerial t') =
          slotIDOf (store.getTokenSerial t)) with _ | t'
        · have hnone := List.find?_eq_none.1 hf t ht
          simp at hnone
        · have heq := List.find?_some hf
          rw [h t' (List.mem_of_find?_eq_some hf) t ht (by simpa using heq)]
      change (start store).slot _ = _
      rw [slot_start, hfind]
      rfl
    · exact (slot_start_token hi).symm
    · have hspare : ∀ i, (start store).slot i = some none → i = store.tokens.length := by
        intro i hi
        rw [slot_start] at hi
        by_contra hne
        rw [if_neg hne, Option.or_none] at hi
        obtain ⟨t, -, ht⟩ := Option.map_eq_some_iff.1 hi
        cases ht
      intro i j hi hj
      rw [hspare i hi, hspare j hj]

/-! ### Steps -/

variable {s s' : SlotSystem Tok}

lemma Identity.of_same (h : Identity s) (ht : s'.store.tokens = s.store.tokens)
    (hslot : ∀ i, s'.slot i = s.slot i) : Identity s' := by
  refine ⟨fun t hmem => ?_, fun i j => ?_⟩
  · simp only [hslot]
    exact h.token t (ht ▸ hmem)
  · rw [hslot, hslot]
    exact h.spare i j

/-- A spare slot is added only where there is none. -/
lemma getSlotList_cases (store : ObjectStore Tok) (tokenPresent pSlotList : Bool)
    (pulCount : Option ℕ) (m : SlotManager Tok) :
    (getSlotList store tokenPresent pSlotList pulCount m).2.2.2 = m ∨
    (∀ i, OrderedMap.get i m.slots ≠ some none) ∧
      (getSlotList store tokenPresent pSlotList pulCount m).2.2.2 =
        (insertToken store.tokens.length none m).2 := by
  unfold getSlotList
  rcases pulCount with _ | count
  · exact .inl rfl
  dsimp only
  split
  · split
    · rename_i hany
      refine .inr ⟨fun i hi => ?_, rfl⟩
      have hmem := OrderedMap.mem_of_get hi
      simp only [Bool.not_eq_true', List.any_eq_false] at hany
      exact hany _ hmem rfl
    · exact .inl rfl
  split
  · exact .inl rfl
  · exact .inl rfl

lemma identity_getSlotList (h : Identity s) (tokenPresent pSlotList : Bool)
    (pulCount : Option ℕ) : Identity (s.exec (.getSlotList tokenPresent pSlotList pulCount)) := by
  rcases getSlotList_cases s.store tokenPresent pSlotList pulCount s.manager with he | ⟨hno, he⟩
  · exact h.of_same rfl fun i => by
      change OrderedMap.get i (getSlotList s.store tokenPresent pSlotList pulCount _).2.2.2.slots = _
      rw [he]
      rfl
  have hget : ∀ i, (s.exec (.getSlotList tokenPresent pSlotList pulCount)).slot i =
      if i = s.store.tokens.length then some ((s.slot s.store.tokens.length).getD none)
      else s.slot i := by
    intro i
    change OrderedMap.get i (getSlotList s.store tokenPresent pSlotList pulCount _).2.2.2.slots = _
    rw [he]
    exact OrderedMap.get_insert _ _ _ _
  have htoken : ∀ i t, (s.exec (.getSlotList tokenPresent pSlotList pulCount)).slot i =
      some (some t) ↔ s.slot i = some (some t) := by
    intro i t
    rw [hget]
    by_cases hi : i = s.store.tokens.length
    · subst hi
      rcases s.slot s.store.tokens.length with _ | x <;> simp
    · simp [hi]
  have hspare : ∀ i, (s.exec (.getSlotList tokenPresent pSlotList pulCount)).slot i =
      some none → i = s.store.tokens.length := by
    intro i hi
    by_contra hne
    rw [hget, if_neg hne] at hi
    exact hno i hi
  refine ⟨fun t ht => ?_, fun i j hi hj => by rw [hspare i hi, hspare j hj]⟩
  simp only [htoken]
  exact h.token t ht

/-- What `createToken` leaves of the object store and of the slot. -/
inductive Made (s : SlotSystem Tok) (slotID : CK_SLOT_ID) (s' : SlotSystem Tok) : Prop
  | same (tokens : s'.store.tokens = s.store.tokens) (slots : ∀ i, s'.slot i = s.slot i)
  | token (t : Tok) (free : s.slot slotID = some none) (new : ∀ i, s.slot i ≠ some (some t))
      (tokens : s'.store.tokens = s.store.tokens ++ [t])
      (slots : ∀ i, s'.slot i = if i = slotID then some (some t) else s.slot i)

lemma slot_put (s : SlotSystem Tok) (store : ObjectStore Tok) (slotID i : CK_SLOT_ID)
    (x : Option Tok) :
    (⟨store, ⟨OrderedMap.put slotID x s.manager.slots⟩⟩ : SlotSystem Tok).slot i =
      if i = slotID then some x else s.slot i := by
  by_cases h : i = slotID
  · rw [h, if_pos rfl]
    exact OrderedMap.get_put_self _ _ _
  · rw [if_neg h]
    exact OrderedMap.get_put_of_ne h _ _

/-- Putting back what is there changes no slot. -/
lemma slot_put_same {slotID : CK_SLOT_ID} {x : Option Tok} (h : s.slot slotID = some x)
    (store : ObjectStore Tok) (i : CK_SLOT_ID) :
    (⟨store, ⟨OrderedMap.put slotID x s.manager.slots⟩⟩ : SlotSystem Tok).slot i = s.slot i := by
  rw [slot_put]
  by_cases hi : i = slotID
  · rw [hi, if_pos rfl, h]
  · rw [if_neg hi]

/-- A token that is left over is in the object store, and in no slot. -/
def LeftOver (s : SlotSystem Tok) (s' : SlotSystem Tok) : Prop :=
  ∃ t ∈ s'.store.tokens, (∀ i, s.slot i ≠ some (some t)) ∧ ∀ i, s'.slot i = s.slot i

/-- **What `C_InitToken` does** to the tokens and to the slots. -/
lemma initToken_cases {e : NewToken Tok} {slotID : CK_SLOT_ID}
    (hfresh : Fresh s (.C_InitToken e slotID)) :
    NothingLeft s (.C_InitToken e slotID) ∧ Made s slotID (s.C_InitToken e slotID).2 ∨
      ¬ NothingLeft s (.C_InitToken e slotID) ∧ LeftOver s (s.C_InitToken e slotID).2 := by
  unfold C_InitToken
  rcases hs : OrderedMap.get slotID s.manager.slots with _ | _ | t₀
  · refine .inl ⟨fun hn => ?_, .same rfl fun i => rfl⟩
    rw [slot, hs] at hn
    cases hn
  swap
  · refine .inl ⟨fun hn => ?_, .same rfl fun i => slot_put_same hs _ i⟩
    rw [slot, hs] at hn
    cases hn
  rcases hr : e.refused with _ | rv
  swap
  · simp only [createToken, hr]
    refine .inl ⟨fun _ hn => ?_, .same rfl fun i => slot_put_same hs _ i⟩
    rw [hr] at hn
    cases hn
  rcases ht : e.token with _ | ⟨t, serial⟩
  · simp only [createToken, hr, ht]
    refine .inl ⟨fun _ _ hn => ?_, .same rfl fun i => slot_put_same hs _ i⟩
    rw [ht] at hn
    cases hn
  obtain ⟨hnew, hnone⟩ := hfresh t serial ht
  rcases hst : e.stored with _ | _
  · rcases hd : e.destroyed with _ | _
    · simp only [createToken, hr, ht, hst, hd, Bool.not_false, if_true, Bool.false_eq_true, if_false]
      refine .inr ⟨fun hn => ?_, t, List.mem_append_right _ (List.mem_singleton.2 rfl), hnone,
        fun i => slot_put_same hs _ i⟩
      have htrue := hn hs hr (by rw [ht]; rfl) hst
      rw [hd] at htrue
      cases htrue
    · simp only [createToken, hr, ht, hst, hd, Bool.not_false, if_true]
      refine .inl ⟨fun _ _ _ _ => hd, .same ?_ fun i => slot_put_same hs _ i⟩
      change (s.store.tokens ++ [t]).erase t = s.store.tokens
      rw [List.erase_append_right _ hnew, List.erase_cons_head, List.append_nil]
  · simp only [createToken, hr, ht, hst, Bool.not_true, Bool.false_eq_true, if_false]
    refine .inl ⟨fun _ _ _ hn => ?_, .token t hs hnone rfl fun i => slot_put s _ slotID i _⟩
    rw [hst] at hn
    cases hn

lemma Identity.made (h : Identity s) {slotID : CK_SLOT_ID} (hm : Made s slotID s') :
    Identity s' := by
  cases hm with
  | same tokens slots => exact h.of_same tokens slots
  | token t free new tokens slots =>
    have hother : ∀ i t', t' ≠ t → (s'.slot i = some (some t') ↔ s.slot i = some (some t')) := by
      intro i t' hne
      rw [slots]
      by_cases hi : i = slotID
      · subst hi
        simp [free, hne.symm]
      · simp [hi]
    refine ⟨fun t' ht' => ?_, fun i j hi hj => ?_⟩
    · by_cases hne : t' = t
      · subst hne
        refine ⟨slotID, by simp [slots], fun i hi => ?_⟩
        by_contra hi'
        simp only [slots, if_neg hi'] at hi
        exact new i hi
      · rw [tokens, List.mem_append, List.mem_singleton, or_iff_left hne] at ht'
        simp only [hother _ t' hne]
        exact h.token t' ht'
    · have hspare : ∀ i, s'.slot i = some none → s.slot i = some none := by
        intro i hi
        rw [slots] at hi
        by_cases hi' : i = slotID
        · rw [hi']
          exact free
        · rwa [if_neg hi'] at hi
      exact h.spare i j (hspare i hi) (hspare j hj)

lemma not_identity_of_leftOver (h : LeftOver s s') : ¬ Identity s' := by
  obtain ⟨t, ht, hnone, hslot⟩ := h
  intro hid
  obtain ⟨i, hi, -⟩ := hid.token t ht
  exact hnone i ((hslot i).symm.trans hi)

/-- **One step.** -/
lemma identity_step (h : Identity s) {op : Op Tok} (hfresh : Fresh s op) :
    NothingLeft s op ↔ Identity (s.exec op) := by
  cases op with
  | getSlotList tokenPresent pSlotList pulCount =>
    exact iff_of_true trivial (identity_getSlotList h _ _ _)
  | C_InitToken e slotID =>
    rcases initToken_cases hfresh with ⟨hleft, hm⟩ | ⟨hleft, hl⟩
    · exact iff_of_true hleft (h.made hm)
    · exact iff_of_false hleft (not_identity_of_leftOver hl)

/-- **Slot identity.** For any tokens in the object store and any calls after that: in every
state each token has exactly one slot and at most one slot is empty, if and only if no two
tokens come to the same slot at the start and no token is left over later. -/
theorem slot_identity_iff {store : ObjectStore Tok} {ops : List (Op Tok)}
    (ha : AllAllowed Fresh exec (start store) ops) :
    EveryState Identity exec (start store) ops ↔
      DistinctSlots store ∧ AllAllowed NothingLeft exec (start store) ops := by
  have hstep : ∀ (s : SlotSystem Tok) (op : Op Tok), True → Identity s → Fresh s op →
      True ∧ (NothingLeft s op ↔ Identity (s.exec op)) :=
    fun s op _ hid hfresh => ⟨trivial, identity_step hid hfresh⟩
  by_cases hd : DistinctSlots store
  · have hid : Identity (start store) := (identity_start store).2 hd
    have hrun := @allAllowed_iff_everyState _ _ Fresh NothingLeft exec (fun _ => True) Identity
      hstep (start store) ops trivial hid ha
    exact ⟨fun h => ⟨hd, hrun.2 h⟩, fun h => hrun.1 h.2⟩
  · refine ⟨fun h => absurd ((identity_start store).1 ?_) hd, fun h => absurd h.1 hd⟩
    cases ops with
    | nil => exact h
    | cons op ops => exact h.1

/-- A first token, and then a spare slot again. -/
def firstToken : List (Op Unit) :=
  [.C_InitToken ⟨none, some ((), []), true, true, CKR_OK⟩ 0, .getSlotList false false (some 0)]

theorem slot_identity_iff_firstToken :
    EveryState Identity exec (start (⟨[], fun _ => []⟩ : ObjectStore Unit)) firstToken := by
  have hfresh : AllAllowed Fresh exec (start (⟨[], fun _ => []⟩ : ObjectStore Unit))
      firstToken := by
    refine And.intro (fun t serial _ => ⟨List.not_mem_nil, fun i hi => ?_⟩) ⟨trivial, trivial⟩
    rw [slot_start] at hi
    change (if i = 0 then some none else none) = _ at hi
    split at hi <;> cases hi
  refine (slot_identity_iff hfresh).2 ⟨fun t ht => (nomatch ht), ?_⟩
  exact And.intro (fun _ _ _ hst => (nomatch hst)) ⟨trivial, trivial⟩

/-- Two tokens whose serials differ in the bit that is masked. -/
def masked : ObjectStore Bool where
  tokens := [false, true]
  getTokenSerial t := (if t then 0x38 else 0x30) :: List.replicate 7 0x31

theorem masked_token_lost :
    ¬ Identity (start masked) ∧ ∀ i, (start masked).slot i ≠ some (some true) := by
  have hsame : ∀ t, slotIDOf (masked.getTokenSerial t) = 0x01111111 := by decide
  have hfirst : (start masked).slot 0x01111111 = some (some false) := by
    rw [slot_start]
    rfl
  have hlost : ∀ i, (start masked).slot i ≠ some (some true) := by
    intro i hi
    obtain rfl : 0x01111111 = i := (hsame true).symm.trans (slot_start_token hi)
    cases hfirst.symm.trans hi
  refine ⟨fun h => ?_, hlost⟩
  obtain ⟨i, hi, -⟩ := h.token true (List.mem_cons_of_mem _ (List.mem_singleton.2 rfl))
  exact hlost i hi

end SlotSystem

end SoftHSM
