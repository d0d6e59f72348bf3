import Mathlib.Data.List.Lex
import Mathlib.Data.Prod.Lex
import Mathlib.Order.WithBot
import SoftHSM.Lib.Ranking
import SoftHSM.Library.SlotEvents
import SoftHSM.SlotMgr.InitPolicy
import SoftHSM.SlotMgr.SlotManager

/-!
The fifteen slots of the Rutoken profile over the slots of the slot manager, and the calls that
put a token into the spare one.
-/

set_option linter.unusedSectionVars false

namespace SoftHSM

open CK_RV Transition SlotManager

def FAKE_RUTOKEN_SLOT_COUNT : ℕ := 15

/-- Microseconds since the epoch as eight bytes, the highest first. -/
def tokenCreationStamp (microseconds : UInt64) : ByteString :=
  (List.range 8).map fun i => (microseconds >>> UInt64.ofNat (8 * (7 - i)) &&& 0xFF).toUInt8

/-- A token as the layout sees it, with its creation time if it has one. -/
structure FakeRutokenPlacement where
  created : Option ByteString
  serial : ByteString
  backingSlotID : CK_SLOT_ID
  deriving DecidableEq

/-- The comparison of two byte strings of one length. -/
def memcmp : ByteString → ByteString → Ordering
  | a :: s, b :: t => if a < b then .lt else if b < a then .gt else memcmp s t
  | _, _ => .eq

def bytesAreLower (left right : ByteString) : Bool :=
  let shared := min left.length right.length
  let difference := memcmp (left.take shared) (right.take shared)
  if difference ≠ .eq then difference = .lt else left.length < right.length

def olderFirst (left right : FakeRutokenPlacement) : Bool :=
  if left.created.isSome ≠ right.created.isSome then !left.created.isSome
  else if left.created.isSome && left.created ≠ right.created then
    bytesAreLower (left.created.getD []) (right.created.getD [])
  else if left.serial ≠ right.serial then bytesAreLower left.serial right.serial
  else left.backingSlotID < right.backingSlotID

/-! ### The order of the tokens -/

lemma bytesAreLower_iff (left right : ByteString) :
    bytesAreLower left right = true ↔ left.map UInt8.toNat < right.map UInt8.toNat := by
  induction left generalizing right with
  | nil => cases right <;> simp [bytesAreLower, memcmp]
  | cons a s ih =>
    rcases right with _ | ⟨b, t⟩
    · simp [bytesAreLower, memcmp]
    rw [List.map_cons, List.map_cons, List.cons_lt_cons_iff, ← ih]
    rcases lt_trichotomy a.toNat b.toNat with h | h | h
    · have hab : a < b := h
      simp [bytesAreLower, memcmp, hab, h]
    · obtain rfl : a = b := UInt8.toNat_inj.1 h
      simp [bytesAreLower, memcmp, Nat.add_min_add_right]
    · have hba : b < a := h
      have hab : ¬ a < b := fun hlt => absurd (show a.toNat < b.toNat from hlt) h.not_gt
      simp [bytesAreLower, memcmp, Nat.add_min_add_right, hba, hab, h.not_gt, h.ne']

namespace FakeRutokenPlacement

/-- The creation time, before all others where there is none. -/
def createdKey : Option ByteString → WithBot (List ℕ)
  | none => ⊥
  | some c => (c.map UInt8.toNat : List ℕ)

/-- What `olderFirst` compares. -/
def key (p : FakeRutokenPlacement) : WithBot (List ℕ) ×ₗ List ℕ ×ₗ ℕ :=
  toLex (createdKey p.created, toLex (p.serial.map UInt8.toNat, p.backingSlotID))

end FakeRutokenPlacement

open FakeRutokenPlacement

lemma map_toNat_injective : Function.Injective (List.map UInt8.toNat) :=
  List.map_injective_iff.2 fun _ _ h => UInt8.toNat_inj.1 h

lemma createdKey_injective : Function.Injective createdKey := by
  rintro (_ | c) (_ | c') h
  · rfl
  · cases h
  · cases h
  · rw [map_toNat_injective (WithBot.coe_injective h)]

lemma key_injective : Function.Injective key := by
  rintro ⟨c, s, i⟩ ⟨c', s', i'⟩ h
  have h1 := congrArg Prod.fst (congrArg ofLex h)
  have h2 := congrArg ofLex (congrArg Prod.snd (congrArg ofLex h))
  have hc : c = c' := createdKey_injective h1
  have hs : s = s' := map_toNat_injective (congrArg Prod.fst h2)
  have hi : i = i' := congrArg Prod.snd h2
  rw [hc, hs, hi]

lemma olderFirst_iff (left right : FakeRutokenPlacement) :
    olderFirst left right = true ↔ left.key < right.key := by
  obtain ⟨c, s, i⟩ := left
  obtain ⟨c', s', i'⟩ := right
  have hserial : (if s ≠ s' then bytesAreLower s s' else decide (i < i')) = true ↔
      (toLex (s.map UInt8.toNat, i) : List ℕ ×ₗ ℕ) < toLex (s'.map UInt8.toNat, i') := by
    rw [Prod.Lex.toLex_lt_toLex]
    by_cases h : s = s'
    · subst h
      simp
    · have hne : s.map UInt8.toNat ≠ s'.map UInt8.toNat := fun he => h (map_toNat_injective he)
      simp [h, hne, bytesAreLower_iff]
  unfold olderFirst key
  rw [Prod.Lex.toLex_lt_toLex]
  rcases c with _ | c <;> rcases c' with _ | c'
  · simpa using hserial
  · simp [createdKey]
  · simp [createdKey]
  · simp only [createdKey, WithBot.coe_lt_coe, WithBot.coe_inj]
    by_cases h : c = c'
    · subst h
      simpa using hserial
    · have hne : c.map UInt8.toNat ≠ c'.map UInt8.toNat := fun he => h (map_toNat_injective he)
      simp [h, hne, bytesAreLower_iff]

/-- `olderFirst` read as an order: no placement sorts after itself. -/
def NotYounger (left right : FakeRutokenPlacement) : Prop := (!olderFirst right left) = true

instance : DecidableRel NotYounger := fun _ _ => inferInstanceAs (Decidable (_ = true))

lemma notYounger_iff (left right : FakeRutokenPlacement) :
    NotYounger left right ↔ left.key ≤ right.key := by
  rw [NotYounger, Bool.not_eq_true', Bool.eq_false_iff, ne_eq, olderFirst_iff, not_lt]

instance : Std.Total NotYounger :=
  ⟨fun a b => by simpa only [notYounger_iff] using le_total a.key b.key⟩

instance : IsTrans _ NotYounger :=
  ⟨fun a b c => by simpa only [notYounger_iff] using le_trans⟩

instance : Std.Antisymm NotYounger :=
  ⟨fun a b hab hba => key_injective
    (le_antisymm ((notYounger_iff a b).1 hab) ((notYounger_iff b a).1 hba))⟩

/-- Of two different placements one is older. -/
lemma olderFirst_of_ne {left right : FakeRutokenPlacement} (h : left ≠ right) :
    NotYounger left right ↔ olderFirst left right = true := by
  rw [notYounger_iff, olderFirst_iff]
  exact ⟨fun hle => lt_of_le_of_ne hle fun he => h (key_injective he), le_of_lt⟩

/-- The slots of the slot manager, the stamps of the tokens and the queue of slot events. -/
structure Facade (Tok : Type) where
  system : SlotSystem Tok
  getCreationTime : Tok → Option ByteString
  events : SlotEventState

namespace Facade

variable {Tok : Type} [DecidableEq Tok]

/-! ### The layout -/

/-- The token of a slot of the slot manager. -/
def getSlot (s : Facade Tok) (slotID : CK_SLOT_ID) : Option (Option Tok) := s.system.slot slotID

def placement (s : Facade Tok) (slotID : CK_SLOT_ID) (token : Tok) : FakeRutokenPlacement :=
  ⟨s.getCreationTime token, s.system.store.getTokenSerial token, slotID⟩

def initialized (s : Facade Tok) : List FakeRutokenPlacement :=
  s.system.manager.slots.filterMap fun slot => slot.2.map (s.placement slot.1)

/-- The first slot without a token. -/
def spare (s : Facade Tok) : Option CK_SLOT_ID :=
  (s.system.manager.slots.find? fun slot => slot.2.isNone).map Prod.fst

def fakeRutokenLayout (s : Facade Tok) : List CK_SLOT_ID :=
  let sorted := s.initialized.insertionSort NotYounger
  let layout := (sorted.map FakeRutokenPlacement.backingSlotID).take FAKE_RUTOKEN_SLOT_COUNT
  match s.spare with
  | some spare => if layout.length < FAKE_RUTOKEN_SLOT_COUNT then layout ++ [spare] else layout
  | none => layout

def fakeRutokenPresentCount (s : Facade Tok) : ℕ :=
  (s.fakeRutokenLayout.takeWhile fun slotID => (s.getSlot slotID).join.isSome).length

def fakeRutokenBackingSlotID (s : Facade Tok) (externalSlotID : CK_SLOT_ID) : CK_SLOT_ID :=
  s.fakeRutokenLayout.getD externalSlotID CK_UNAVAILABLE_INFORMATION

def fakeRutokenFacadeSlotID (s : Facade Tok) (backingSlotID : CK_SLOT_ID) : CK_SLOT_ID :=
  (s.fakeRutokenLayout.findIdx? (· = backingSlotID)).getD CK_UNAVAILABLE_INFORMATION

def fakeRutokenSlot (s : Facade Tok) (externalSlotID : CK_SLOT_ID) : Option (Option Tok) :=
  let backing := s.fakeRutokenBackingSlotID externalSlotID
  if backing = CK_UNAVAILABLE_INFORMATION then none else s.getSlot backing

/-! ### The calls -/

/-- What a call meets: whether the library is initialised, the slots that have a session, the
clock, and how the making of the token turns out. -/
structure Env (Tok : Type) where
  isInitialised : Bool
  haveSession : CK_SLOT_ID → Bool
  microseconds : UInt64
  token : NewToken Tok

/-- `Slot::initToken` and `Slot::initTokenExtended`. A token that is made is stamped. -/
def initToken (e : Env Tok) (slotID : CK_SLOT_ID) (s : Facade Tok) : CK_RV × Facade Tok :=
  let getCreationTime :=
    match s.getSlot slotID, e.token.refused, e.token.token with
    | some none, none, some (t, _) =>
      Function.update s.getCreationTime t (some (tokenCreationStamp e.microseconds))
    | _, _, _ => s.getCreationTime
  let (rv, system) := s.system.C_InitToken e.token slotID
  (rv, ⟨system, getCreationTime, s.events⟩)

/-- `C_InitToken` and `C_EX_InitToken` around their own checks on the token in the slot. -/
def initSlot (e : Env Tok) (check : Option Tok → Option CK_RV) (slotID : CK_SLOT_ID)
    (s : Facade Tok) : CK_RV × Facade Tok :=
  if !e.isInitialised then (CKR_CRYPTOKI_NOT_INITIALIZED, s)
  else if s.fakeRutokenLayout.length ≤ slotID then
    (if slotID < FAKE_RUTOKEN_SLOT_COUNT then CKR_TOKEN_NOT_PRESENT else CKR_SLOT_ID_INVALID, s)
  else
    let backingSlotID := s.fakeRutokenBackingSlotID slotID
    match s.fakeRutokenSlot slotID with
    | none => (CKR_SLOT_ID_INVALID, s)
    | some token =>
      if e.haveSession backingSlotID then (CKR_SESSION_EXISTS, s)
      else
        match check token with
        | some rv => (rv, s)
        | none =>
          let (rv, s) := s.initToken e backingSlotID
          (rv, if rv = CKR_OK && token.isNone then
            { s with events := s.events.postSlotEvent slotID } else s)

/-- `getPinPolicy` gives no policy, or one of which `changeUserPINPolicy` is here. -/
def C_InitToken (e : Env Tok) (policy : Option UInt64) (hasPin : Bool) :
    CK_SLOT_ID → Facade Tok → CK_RV × Facade Tok :=
  initSlot e fun token =>
    let allowed :=
      match token, policy with
      | none, _ => none
      | some _, none => some CKR_DEVICE_ERROR
      | some _, some policy =>
        if policy &&& TOKEN_FLAGS_ADMIN_CHANGE_USER_PIN = 0 then some CKR_FUNCTION_REJECTED
        else none
    allowed.or (if hasPin then none else some CKR_ARGUMENTS_BAD)

/-- `hasPin` says that the old PIN is not a null pointer of some length. -/
def C_EX_InitToken (e : Env Tok) (pInitInfo : Option CK_RUTOKEN_INIT_PARAM) (hasPin : Bool) :
    CK_SLOT_ID → Facade Tok → CK_RV × Facade Tok :=
  initSlot e fun _ =>
    if (pInitInfo.bind CK_RUTOKEN_INIT_PARAM.check).isSome && hasPin then none
    else some CKR_ARGUMENTS_BAD

/-- `C_GetSlotList` asks the slot manager for the size of its list. -/
def C_GetSlotList (isInitialised tokenPresent pSlotList : Bool) (pulCount : Option ℕ)
    (s : Facade Tok) : CK_RV × List CK_SLOT_ID × Option ℕ × Facade Tok :=
  if !isInitialised then (CKR_CRYPTOKI_NOT_INITIALIZED, [], pulCount, s)
  else
    match pulCount with
    | none => (CKR_ARGUMENTS_BAD, [], none, s)
    | some room =>
      let s := { s with system := s.system.exec (.getSlotList false false (some 0)) }
      let count := if tokenPresent then s.fakeRutokenPresentCount else FAKE_RUTOKEN_SLOT_COUNT
      if !pSlotList then (CKR_OK, [], some count, s)
      else if room < count then (CKR_BUFFER_TOO_SMALL, [], some count, s)
      else (CKR_OK, List.range count, some count, s)

inductive Op (Tok : Type)
  | C_GetSlotList (isInitialised tokenPresent pSlotList : Bool) (pulCount : Option ℕ)
  | C_InitToken (e : Env Tok) (policy : Option UInt64) (hasPin : Bool) (slotID : CK_SLOT_ID)
  | C_EX_InitToken (e : Env Tok) (pInitInfo : Option CK_RUTOKEN_INIT_PARAM) (hasPin : Bool)
      (slotID : CK_SLOT_ID)
  /-- whatever else happens to the queue of slot events -/
  | slotEvents (events : SlotEventState)

def exec (s : Facade Tok) : Op Tok → Facade Tok
  | .C_GetSlotList isInitialised tokenPresent pSlotList pulCount =>
    (s.C_GetSlotList isInitialised tokenPresent pSlotList pulCount).2.2.2
  | .C_InitToken e policy hasPin slotID => (C_InitToken e policy hasPin slotID s).2
  | .C_EX_InitToken e pInitInfo hasPin slotID => (C_EX_InitToken e pInitInfo hasPin slotID s).2
  | .slotEvents events => { s with events := events }

/-! ### The layout in every state -/

/-- The numbers of the slots are in order, and none is the number for no slot. -/
structure Inv (s : Facade Tok) : Prop where
  sorted : OrderedMap.Sorted s.system.manager.slots
  bounded : ∀ e ∈ s.system.manager.slots, e.1 < CK_UNAVAILABLE_INFORMATION

variable {s s' : Facade Tok}

lemma mem_initialized (h : Inv s) {p : FakeRutokenPlacement} : p ∈ s.initialized ↔
    ∃ t, s.getSlot p.backingSlotID = some (some t) ∧ p = s.placement p.backingSlotID t := by
  unfold initialized
  rw [List.mem_filterMap]
  constructor
  · rintro ⟨⟨b, x⟩, hmem, hx⟩
    obtain ⟨t, rfl, rfl⟩ := Option.map_eq_some_iff.1 hx
    exact ⟨t, OrderedMap.get_of_mem h.sorted hmem, rfl⟩
  · rintro ⟨t, hget, hp⟩
    exact ⟨(p.backingSlotID, some t), OrderedMap.mem_of_get hget, by rw [hp]; rfl⟩

/-- The slots of the tokens in the order of the layout. -/
def sortedSlots (s : Facade Tok) : List CK_SLOT_ID :=
  (s.initialized.insertionSort NotYounger).map FakeRutokenPlacement.backingSlotID

lemma mem_sortedSlots (h : Inv s) {b : CK_SLOT_ID} :
    b ∈ s.sortedSlots ↔ ∃ t, s.getSlot b = some (some t) := by
  unfold sortedSlots
  rw [List.mem_map]
  constructor
  · rintro ⟨p, hp, rfl⟩
    obtain ⟨t, ht, -⟩ := (mem_initialized h).1 ((List.mem_insertionSort _).1 hp)
    exact ⟨t, ht⟩
  · rintro ⟨t, ht⟩
    exact ⟨s.placement b t, (List.mem_insertionSort _).2 ((mem_initialized h).2 ⟨t, ht, rfl⟩), rfl⟩

lemma nodup_sortedSlots (h : Inv s) : s.sortedSlots.Nodup := by
  have hids : (s.initialized.map FakeRutokenPlacement.backingSlotID).Nodup := by
    have hsub : (s.initialized.map FakeRutokenPlacement.backingSlotID).Sublist
        (s.system.manager.slots.map Prod.fst) := by
      unfold initialized
      induction s.system.manager.slots with
      | nil => exact List.Sublist.slnil
      | cons e l ih =>
        obtain ⟨b, _ | t⟩ := e
        · exact ih.cons _
        · exact ih.cons_cons _
    have hkeys : (s.system.manager.slots.map Prod.fst).Nodup :=
      List.pairwise_map.2 (h.sorted.imp fun hlt => hlt.ne)
    exact hkeys.sublist hsub
  exact (((List.perm_insertionSort _ _).map _).nodup_iff).2 hids

lemma getSlot_spare (h : Inv s) {b : CK_SLOT_ID} (hb : s.spare = some b) :
    s.getSlot b = some none := by
  obtain ⟨⟨b', x⟩, hfind, rfl⟩ := Option.map_eq_some_iff.1 hb
  have hnone : x = none := by simpa using List.find?_some hfind
  subst hnone
  exact OrderedMap.get_of_mem h.sorted (List.mem_of_find?_eq_some hfind)

/-- The slots with a token come first, and a slot without one at most once, at the end. -/
lemma layout_cases (h : Inv s) : ∃ rest, s.fakeRutokenLayout =
    s.sortedSlots.take FAKE_RUTOKEN_SLOT_COUNT ++ rest ∧
    (rest = [] ∨ ∃ b, rest = [b] ∧ s.getSlot b = some none) := by
  unfold fakeRutokenLayout
  rcases hs : s.spare with _ | b
  · exact ⟨[], (List.append_nil _).symm, .inl rfl⟩
  dsimp only
  split
  · exact ⟨[b], rfl, .inr ⟨b, rfl, getSlot_spare h hs⟩⟩
  · exact ⟨[], (List.append_nil _).symm, .inl rfl⟩

lemma mem_take_sortedSlots (h : Inv s) {b : CK_SLOT_ID}
    (hb : b ∈ s.sortedSlots.take FAKE_RUTOKEN_SLOT_COUNT) : ∃ t, s.getSlot b = some (some t) :=
  (mem_sortedSlots h).1 (List.mem_of_mem_take hb)

lemma nodup_layout (h : Inv s) : s.fakeRutokenLayout.Nodup := by
  have htake : (s.sortedSlots.take FAKE_RUTOKEN_SLOT_COUNT).Nodup :=
    (nodup_sortedSlots h).sublist (List.take_sublist _ _)
  obtain ⟨rest, heq, rfl | ⟨b, rfl, hb⟩⟩ := layout_cases h
  · rw [heq, List.append_nil]
    exact htake
  · rw [heq]
    refine htake.append (List.nodup_singleton b) fun b' hb' hmem => ?_
    rw [List.mem_singleton.1 hmem] at hb'
    obtain ⟨t, ht⟩ := mem_take_sortedSlots h hb'
    cases ht.symm.trans hb

lemma presentCount_eq (h : Inv s) :
    s.fakeRutokenPresentCount = (s.sortedSlots.take FAKE_RUTOKEN_SLOT_COUNT).length := by
  unfold fakeRutokenPresentCount
  obtain ⟨rest, heq, hrest⟩ := layout_cases h
  have hall : ∀ b ∈ s.sortedSlots.take FAKE_RUTOKEN_SLOT_COUNT,
      (s.getSlot b).join.isSome = true := by
    intro b hb
    obtain ⟨t, ht⟩ := mem_take_sortedSlots h hb
    rw [ht]
    rfl
  rw [heq, List.takeWhile_append_of_pos hall]
  rcases hrest with rfl | ⟨b, rfl, hb⟩
  · rw [List.takeWhile_nil, List.append_nil]
  · rw [List.takeWhile_cons_of_neg (by rw [hb]; exact Bool.false_ne_true), List.append_nil]

lemma backing_eq {k b : CK_SLOT_ID} (hk : s.fakeRutokenLayout[k]? = some b) :
    s.fakeRutokenBackingSlotID k = b := by
  unfold fakeRutokenBackingSlotID
  rw [List.getD_eq_getElem?_getD, hk, Option.getD_some]

lemma facade_eq (h : Inv s) {k b : CK_SLOT_ID} (hk : s.fakeRutokenLayout[k]? = some b) :
    s.fakeRutokenFacadeSlotID b = k := by
  obtain ⟨hlt, hkb⟩ := List.getElem?_eq_some_iff.1 hk
  have hfind : s.fakeRutokenLayout.findIdx? (· = b) = some k := by
    refine List.findIdx?_eq_some_iff_getElem.2 ⟨hlt, decide_eq_true hkb, fun j hj hjb => ?_⟩
    have heq := of_decide_eq_true hjb
    exact hj.ne ((nodup_layout h).getElem_inj_iff.1 (heq.trans hkb.symm))
  unfold fakeRutokenFacadeSlotID
  rw [hfind, Option.getD_some]

lemma mem_layout_getSlot (h : Inv s) {b : CK_SLOT_ID} (hb : b ∈ s.fakeRutokenLayout) :
    ∃ x, s.getSlot b = some x ∧ b ≠ CK_UNAVAILABLE_INFORMATION := by
  have hsome : ∃ x, s.getSlot b = some x := by
    obtain ⟨rest, heq, hrest⟩ := layout_cases h
    rw [heq, List.mem_append] at hb
    rcases hb with hb | hb
    · obtain ⟨t, ht⟩ := mem_take_sortedSlots h hb
      exact ⟨_, ht⟩
    · rcases hrest with rfl | ⟨b', rfl, hb'⟩
      · cases hb
      · rw [List.mem_singleton.1 hb]
        exact ⟨_, hb'⟩
  obtain ⟨x, hx⟩ := hsome
  exact ⟨x, hx, (h.bounded _ (OrderedMap.mem_of_get hx)).ne⟩

lemma fakeRutokenSlot_eq (h : Inv s) (k : CK_SLOT_ID) :
    s.fakeRutokenSlot k = (s.fakeRutokenLayout[k]?).bind s.getSlot := by
  unfold fakeRutokenSlot
  rcases hk : s.fakeRutokenLayout[k]? with _ | b
  · have hun : s.fakeRutokenBackingSlotID k = CK_UNAVAILABLE_INFORMATION := by
      unfold fakeRutokenBackingSlotID
      rw [List.getD_eq_getElem?_getD, hk, Option.getD_none]
    rw [hun, if_pos rfl, Option.bind_none]
  · obtain ⟨x, -, hne⟩ := mem_layout_getSlot h (List.mem_of_getElem? hk)
    rw [backing_eq hk, if_neg hne, Option.bind_some]

/-- The two numberings agree, and the slots that count as present are those with a token. -/
structure Consistent (s : Facade Tok) : Prop where
  facade_backing : ∀ k < s.fakeRutokenLayout.length,
    s.fakeRutokenFacadeSlotID (s.fakeRutokenBackingSlotID k) = k
  backing_facade : ∀ b ∈ s.fakeRutokenLayout,
    s.fakeRutokenBackingSlotID (s.fakeRutokenFacadeSlotID b) = b
  present : ∀ k, k < s.fakeRutokenPresentCount ↔ ∃ t, s.fakeRutokenSlot k = some (some t)

lemma consistent (h : Inv s) : Consistent s := by
  refine ⟨fun k hk => ?_, fun b hb => ?_, fun k => ?_⟩
  · have hget := List.getElem?_eq_getElem hk
    rw [backing_eq hget]
    exact facade_eq h hget
  · obtain ⟨k, hk⟩ := List.mem_iff_getElem?.1 hb
    rw [facade_eq h hk]
    exact backing_eq hk
  · obtain ⟨rest, heq, hrest⟩ := layout_cases h
    rw [presentCount_eq h, fakeRutokenSlot_eq h, heq]
    constructor
    · intro hlt
      rw [List.getElem?_append_left hlt, List.getElem?_eq_getElem hlt, Option.bind_some]
      exact mem_take_sortedSlots h (List.getElem_mem hlt)
    · rintro ⟨t, ht⟩
      by_contra hge
      rw [List.getElem?_append_right (not_lt.1 hge)] at ht
      obtain ⟨b, hb, hslot⟩ := Option.bind_eq_some_iff.1 ht
      rcases hrest with rfl | ⟨b', rfl, hb'⟩
      · cases hb
      · rw [List.mem_singleton.1 (List.mem_of_getElem? hb)] at hslot
        cases hslot.symm.trans hb'

/-! ### Runs -/

def start (store : ObjectStore Tok) (getCreationTime : Tok → Option ByteString)
    (events : SlotEventState) : Facade Tok := ⟨.start store, getCreationTime, events⟩

/-- A token that is made is a new one, and what refuses to make one is an error. -/
def New (s : Facade Tok) (e : NewToken Tok) : Prop :=
  e.refused ≠ some CKR_OK ∧
    ∀ t serial, e.token = some (t, serial) → ∀ slotID, s.getSlot slotID ≠ some (some t)

/-- New tokens are new, and the number of the tokens fits its type. -/
def Allowed (s : Facade Tok) : Op Tok → Prop
  | .C_GetSlotList .. => s.system.store.tokens.length < CK_UNAVAILABLE_INFORMATION
  | .C_InitToken e .. => s.New e.token
  | .C_EX_InitToken e .. => s.New e.token
  | .slotEvents _ => True

/-- Slots that are put into the map keep it in order. -/
lemma Inv.of_slots (h : Inv s) {slotID : CK_SLOT_ID} {x : Option Tok}
    (hid : slotID < CK_UNAVAILABLE_INFORMATION)
    (hs : s'.system.manager.slots = s.system.manager.slots ∨
      s'.system.manager.slots = OrderedMap.put slotID x s.system.manager.slots) : Inv s' := by
  rcases hs with heq | heq
  · exact ⟨heq ▸ h.sorted, heq ▸ h.bounded⟩
  · refine ⟨heq ▸ OrderedMap.sorted_put h.sorted _ _, fun e he => ?_⟩
    rw [heq] at he
    rcases OrderedMap.mem_put he with rfl | he
    · exact hid
    · exact h.bounded e he

lemma insertToken_slots (slotID : CK_SLOT_ID) (x : Option Tok) (m : SlotManager Tok) :
    (insertToken slotID x m).2.slots = m.slots ∨
      (insertToken slotID x m).2.slots = OrderedMap.put slotID x m.slots := by
  change (OrderedMap.insert slotID x m.slots).2 = _ ∨ (OrderedMap.insert slotID x m.slots).2 = _
  unfold OrderedMap.insert
  split
  · exact .inl rfl
  · exact .inr rfl

lemma inv_start {store : ObjectStore Tok} (getCreationTime : Tok → Option ByteString)
    (events : SlotEventState) (hcount : store.tokens.length < CK_UNAVAILABLE_INFORMATION) :
    Inv (start store getCreationTime events) := by
  have hall : ∀ (ts : List Tok) (m : SlotManager Tok),
      Inv (⟨⟨store, m⟩, getCreationTime, events⟩ : Facade Tok) →
      Inv (⟨⟨store, ts.foldl (fun m pToken => (insertToken (slotIDOf
        (store.getTokenSerial pToken)) (some pToken) m).2) m⟩, getCreationTime, events⟩) := by
    intro ts
    induction ts with
    | nil => exact fun m hm => hm
    | cons t ts ih =>
      intro m hm
      have hid : slotIDOf (store.getTokenSerial t) < CK_UNAVAILABLE_INFORMATION :=
        lt_of_le_of_lt Nat.and_le_left (by decide)
      exact ih _ (hm.of_slots hid (insertToken_slots _ _ _))
  have hempty : Inv (⟨⟨store, ⟨[]⟩⟩, getCreationTime, events⟩ : Facade Tok) :=
    ⟨OrderedMap.sorted_nil, fun e he => nomatch he⟩
  exact (hall store.tokens _ hempty).of_slots hcount (insertToken_slots _ _ _)

lemma initToken_slots (e : Env Tok) (slotID : CK_SLOT_ID) (s : Facade Tok) :
    (s.initToken e slotID).2.system.manager.slots = s.system.manager.slots ∨
      (∃ x, s.getSlot slotID = some x) ∧ ∃ x, (s.initToken e slotID).2.system.manager.slots =
        OrderedMap.put slotID x s.system.manager.slots := by
  unfold initToken SlotSystem.C_InitToken getSlot SlotSystem.slot
  rcases hs : OrderedMap.get slotID s.system.manager.slots with _ | x
  · exact .inl rfl
  · exact .inr ⟨⟨x, rfl⟩, _, rfl⟩

lemma inv_initSlot (h : Inv s) (e : Env Tok) (check : Option Tok → Option CK_RV)
    (slotID : CK_SLOT_ID) : Inv (initSlot e check slotID s).2 := by
  unfold initSlot
  split
  · exact h
  split
  · exact h
  dsimp only
  split
  · exact h
  split
  · exact h
  split
  · exact h
  have hinit : Inv (s.initToken e (s.fakeRutokenBackingSlotID slotID)).2 := by
    rcases initToken_slots e (s.fakeRutokenBackingSlotID slotID) s with heq | ⟨⟨x, hx⟩, y, heq⟩
    · exact ⟨heq ▸ h.sorted, heq ▸ h.bounded⟩
    · exact h.of_slots (h.bounded _ (OrderedMap.mem_of_get hx)) (.inr heq)
  dsimp only
  split
  · exact ⟨hinit.sorted, hinit.bounded⟩
  · exact hinit

lemma getSlotList_state (isInitialised tokenPresent pSlotList : Bool) (pulCount : Option ℕ)
    (s : Facade Tok) :
    s.exec (.C_GetSlotList isInitialised tokenPresent pSlotList pulCount) = s ∨
      s.exec (.C_GetSlotList isInitialised tokenPresent pSlotList pulCount) =
        { s with system := s.system.exec (.getSlotList false false (some 0)) } := by
  change (s.C_GetSlotList isInitialised tokenPresent pSlotList pulCount).2.2.2 = _ ∨
    (s.C_GetSlotList isInitialised tokenPresent pSlotList pulCount).2.2.2 = _
  unfold C_GetSlotList
  split
  · exact .inl rfl
  split
  · exact .inl rfl
  refine .inr ?_
  dsimp only
  generalize (if tokenPresent = true then _ else _) = count
  split
  · rfl
  split
  · rfl
  · rfl

lemma inv_step (h : Inv s) {op : Op Tok} (ha : Allowed s op) : Inv (s.exec op) := by
  cases op with
  | C_GetSlotList isInitialised tokenPresent pSlotList pulCount =>
    have hreplenish :
        Inv { s with system := s.system.exec (.getSlotList false false (some 0)) } := by
      rcases SlotSystem.getSlotList_cases s.system.store false false (some 0) s.system.manager with
        heq | ⟨-, heq⟩
      · exact h.of_slots (x := none) ha (.inl (congrArg SlotManager.slots heq))
      · refine h.of_slots (x := none) ha ?_
        change (getSlotList s.system.store false false (some 0) _).2.2.2.slots = _ ∨
          (getSlotList s.system.store false false (some 0) _).2.2.2.slots = _
        rw [heq]
        exact insertToken_slots _ _ _
    rcases getSlotList_state isInitialised tokenPresent pSlotList pulCount s with heq | heq
    · exact heq.symm ▸ h
    · exact heq.symm ▸ hreplenish
  | C_InitToken e policy hasPin slotID => exact inv_initSlot h _ _ _
  | C_EX_InitToken e pInitInfo hasPin slotID => exact inv_initSlot h _ _ _
  | slotEvents events => exact ⟨h.sorted, h.bounded⟩

lemma inv_run {store : ObjectStore Tok} {getCreationTime : Tok → Option ByteString}
    {events : SlotEventState} {ops : List (Op Tok)}
    (hcount : store.tokens.length < CK_UNAVAILABLE_INFORMATION)
    (hr : Run (Step Allowed exec) (start store getCreationTime events) ops s) : Inv s := by
  refine hr.invariant (inv_start _ _ hcount) ?_
  rintro a op b ha ⟨hallowed, rfl⟩
  exact inv_step ha hallowed

/-! ### Growth -/

/-- The state in which a slot has got a new token. -/
def withToken (s : Facade Tok) (b : CK_SLOT_ID) (t : Tok) (serial stamp : ByteString)
    (events : SlotEventState) : Facade Tok :=
  ⟨⟨s.system.store.newToken t serial, ⟨OrderedMap.put b (some t) s.system.manager.slots⟩⟩,
    Function.update s.getCreationTime t (some stamp), events⟩

lemma initToken_ok {e : Env Tok} {b : CK_SLOT_ID} (hnew : s.New e.token)
    (hslot : s.getSlot b = some none) (hok : (s.initToken e b).1 = CKR_OK) :
    ∃ t serial, e.token.token = some (t, serial) ∧ (s.initToken e b).2 =
      s.withToken b t serial (tokenCreationStamp e.microseconds) s.events := by
  have hget : OrderedMap.get b s.system.manager.slots = some none := hslot
  unfold initToken SlotSystem.C_InitToken at hok ⊢
  simp only [hslot, hget] at hok ⊢
  rcases hr : e.token.refused with _ | rv
  swap
  · simp only [SlotSystem.createToken, hr] at hok
    exact absurd (hok ▸ hr) hnew.1
  rcases ht : e.token.token with _ | ⟨t, serial⟩
  · simp only [SlotSystem.createToken, hr, ht] at hok
    cases hok
  rcases hst : e.token.stored with _ | _
  · simp only [SlotSystem.createToken, hr, ht, hst, Bool.not_false, if_true] at hok
    cases hok
  · refine ⟨t, serial, rfl, ?_⟩
    simp only [SlotSystem.createToken, hr, ht, hst, Bool.not_true, Bool.false_eq_true, if_false]
    rfl

/-- What a successful call on the spare leaves. -/
lemma initSlot_ok {e : Env Tok} {check : Option Tok → Option CK_RV} {k : CK_SLOT_ID}
    (h : Inv s) (hcheck : ∀ x, check x ≠ some CKR_OK) (hnew : s.New e.token)
    (hk : s.fakeRutokenSlot k = some none) (hok : (initSlot e check k s).1 = CKR_OK) :
    ∃ b t serial, s.fakeRutokenLayout[k]? = some b ∧ s.getSlot b = some none ∧
      e.token.token = some (t, serial) ∧ (initSlot e check k s).2 =
        s.withToken b t serial (tokenCreationStamp e.microseconds) (s.events.postSlotEvent k) := by
  obtain ⟨b, hb, hslot⟩ := Option.bind_eq_some_iff.1 ((fakeRutokenSlot_eq h k).symm.trans hk)
  have hlen : ¬ s.fakeRutokenLayout.length ≤ k := not_le.2 (List.getElem?_eq_some_iff.1 hb).1
  unfold initSlot at hok ⊢
  simp only [backing_eq hb, hk, if_neg hlen] at hok ⊢
  by_cases hinit : (!e.isInitialised) = true
  · rw [if_pos hinit] at hok
    cases hok
  rw [if_neg hinit] at hok ⊢
  by_cases hsession : e.haveSession b = true
  · rw [if_pos hsession] at hok
    cases hok
  rw [if_neg hsession] at hok ⊢
  rcases hc : check none with _ | rv
  swap
  · rw [hc] at hok
    exact absurd (hc.trans (congrArg some hok)) (hcheck none)
  rw [hc] at hok
  dsimp only at hok ⊢
  obtain ⟨t, serial, ht, hstate⟩ := initToken_ok hnew hslot hok
  refine ⟨b, t, serial, hb, hslot, ht, ?_⟩
  rw [hok, hstate]
  rfl

/-- What the making of a token does to the placements: there is one more. -/
lemma initialized_grown {b : CK_SLOT_ID} {t : Tok} {serial stamp : ByteString}
    {events : SlotEventState} (h : Inv s) (hslot : s.getSlot b = some none)
    (hnew : ∀ i, s.getSlot i ≠ some (some t)) :
    (s.withToken b t serial stamp events).initialized.Perm
      (s.initialized ++ [⟨some stamp, serial, b⟩]) := by
  set s' := s.withToken b t serial stamp events with hs'
  obtain ⟨l, l', hsplit⟩ := List.append_of_mem (OrderedMap.mem_of_get hslot)
  have hsorted : OrderedMap.Sorted (l ++ (b, none) :: l') := hsplit ▸ h.sorted
  have hold : ∀ e ∈ s.system.manager.slots, e.2.map (s'.placement e.1) =
      e.2.map (s.placement e.1) := by
    rintro ⟨i, _ | t'⟩ he
    · rfl
    · have hne : t' ≠ t := fun heq => hnew i (heq ▸ OrderedMap.get_of_mem h.sorted he)
      simp only [hs', withToken, placement, ObjectStore.newToken, Option.map_some,
        Function.update_of_ne hne]
  have hnewest : s'.placement b t = ⟨some stamp, serial, b⟩ := by
    simp only [hs', withToken, placement, ObjectStore.newToken, Function.update_self]
  have hinit : s.initialized = l.filterMap (fun e => e.2.map (s.placement e.1)) ++
      l'.filterMap (fun e => e.2.map (s.placement e.1)) := by
    rw [initialized, hsplit, List.filterMap_append, List.filterMap_cons_none rfl]
  have hslots : s'.system.manager.slots = l ++ (b, some t) :: l' := by
    rw [hs', withToken, hsplit]
    exact OrderedMap.put_split hsorted (some t)
  have hinit' : s'.initialized = l.filterMap (fun e => e.2.map (s.placement e.1)) ++
      ⟨some stamp, serial, b⟩ :: l'.filterMap (fun e => e.2.map (s.placement e.1)) := by
    rw [initialized, hslots, List.filterMap_append]
    refine congrArg₂ _ (List.filterMap_congr fun e he => hold e ?_) ?_
    · rw [hsplit]
      exact List.mem_append_left _ he
    rw [List.filterMap_cons_some (b := ⟨some stamp, serial, b⟩) (by rw [← hnewest]; rfl)]
    refine congrArg _ (List.filterMap_congr fun e he => hold e ?_)
    rw [hsplit]
    exact List.mem_append_right _ (List.mem_cons_of_mem _ he)
  rw [hinit, hinit', List.append_assoc]
  exact List.Perm.append_left _ (List.perm_append_singleton _ _).symm

/-- A new token joins at the slot of the spare, every other one stays where it was, and the
next caller of `C_WaitForSlotEvent` hears of that slot. -/
structure Grown (s s' : Facade Tok) (k : CK_SLOT_ID) (t : Tok) : Prop where
  stays : ∀ b t', s.getSlot b = some (some t') → s'.getSlot b = some (some t') ∧
    s'.fakeRutokenFacadeSlotID b = s.fakeRutokenFacadeSlotID b
  holds : s'.fakeRutokenSlot k = some (some t)
  event : s'.events = s.events.postSlotEvent k
  reported : ∀ flags, s.events.isOpen = true → s.events.pending = [] →
    (s'.events.awaitSlotEvent flags true false).1 = .returned CKR_OK (some k)

lemma length_sortedSlots (s : Facade Tok) : s.sortedSlots.length = s.initialized.length := by
  unfold sortedSlots
  rw [List.length_map, List.length_insertionSort]

/-- Where there is room for all tokens and a spare, the layout is all tokens and the spare. -/
lemma layout_of_spare (h : Inv s) {k b : CK_SLOT_ID} (hroom : s.initialized.length ≤ 14)
    (hk : s.fakeRutokenLayout[k]? = some b) (hb : s.getSlot b = some none) :
    s.fakeRutokenLayout = s.sortedSlots ++ [b] ∧ k = s.sortedSlots.length := by
  have htake : s.sortedSlots.take FAKE_RUTOKEN_SLOT_COUNT = s.sortedSlots :=
    List.take_of_length_le (by rw [length_sortedSlots, FAKE_RUTOKEN_SLOT_COUNT]; omega)
  obtain ⟨rest, heq, hrest⟩ := layout_cases h
  rw [htake] at heq
  have hmem : b ∈ s.sortedSlots ++ rest := heq ▸ List.mem_of_getElem? hk
  have hnot : b ∉ s.sortedSlots := by
    intro hb'
    obtain ⟨t, ht⟩ := (mem_sortedSlots h).1 hb'
    cases ht.symm.trans hb
  have hrest' : rest = [b] := by
    rcases hrest with rfl | ⟨b', rfl, -⟩
    · exact absurd (by simpa using hmem) hnot
    · rcases List.mem_append.1 hmem with hb' | hb'
      · exact absurd hb' hnot
      · rw [List.mem_singleton.1 hb']
  rw [hrest'] at heq
  refine ⟨heq, ?_⟩
  have hlast : s.fakeRutokenLayout[s.sortedSlots.length]? = some b := by
    rw [heq]
    simp
  rw [← facade_eq h hk, ← facade_eq h hlast]

lemma initialized_unique (h : Inv s) {p q : FakeRutokenPlacement} (hp : p ∈ s.initialized)
    (hq : q ∈ s.initialized) (heq : p.backingSlotID = q.backingSlotID) : p = q := by
  obtain ⟨t, ht, hpt⟩ := (mem_initialized h).1 hp
  obtain ⟨t', ht', hqt⟩ := (mem_initialized h).1 hq
  rw [heq, ht'] at ht
  cases ht
  rw [hpt, hqt, heq]

lemma sortedSlots_get {i : ℕ} {p : FakeRutokenPlacement}
    (hp : (s.initialized.insertionSort NotYounger)[i]? = some p) :
    s.sortedSlots[i]? = some p.backingSlotID := by
  rw [sortedSlots, List.getElem?_map, hp, Option.map_some]

/-- **One new token.** -/
lemma grown_iff (h : Inv s) (h' : Inv s') {k b : CK_SLOT_ID} {t : Tok}
    {serial stamp : ByteString} (hroom : s.initialized.length ≤ 14)
    (hk : s.fakeRutokenLayout[k]? = some b) (hslot : s.getSlot b = some none)
    (hnew : ∀ i, s.getSlot i ≠ some (some t))
    (hs' : s' = s.withToken b t serial stamp (s.events.postSlotEvent k)) :
    Grown s s' k t ↔ ∀ p ∈ s.initialized, olderFirst p ⟨some stamp, serial, b⟩ = true := by
  have hperm : s'.initialized.Perm (s.initialized ++ [⟨some stamp, serial, b⟩]) :=
    hs' ▸ initialized_grown h hslot hnew
  have hget : ∀ i, s'.getSlot i = if i = b then some (some t) else s.getSlot i := fun i =>
    hs' ▸ SlotSystem.slot_put s.system _ b i (some t)
  have hkeep : ∀ i t', s.getSlot i = some (some t') → s'.getSlot i = some (some t') := by
    intro i t' hi
    have hne : i ≠ b := fun heq => by
      rw [heq, hslot] at hi
      cases hi
    rw [hget, if_neg hne, hi]
  have hne : ∀ p ∈ s.initialized, p ≠ ⟨some stamp, serial, b⟩ := by
    rintro p hp rfl
    obtain ⟨t', ht', -⟩ := (mem_initialized h).1 hp
    cases ht'.symm.trans hslot
  obtain ⟨hlayout, hklen⟩ := layout_of_spare h hroom hk hslot
  have hplaces := Ranking.keeps_places_iff (r := NotYounger) hperm
  have holder : (∀ p ∈ s.initialized, NotYounger p ⟨some stamp, serial, b⟩) ↔
      ∀ p ∈ s.initialized, olderFirst p ⟨some stamp, serial, b⟩ = true :=
    forall₂_congr fun p hp => olderFirst_of_ne (hne p hp)
  have hlength : s'.initialized.length ≤ FAKE_RUTOKEN_SLOT_COUNT := by
    rw [hperm.length_eq, List.length_append, List.length_singleton, FAKE_RUTOKEN_SLOT_COUNT]
    omega
  obtain ⟨rest, hlayout', -⟩ := layout_cases h'
  rw [List.take_of_length_le ((length_sortedSlots s').trans_le hlength)] at hlayout'
  rw [← holder]
  constructor
  · intro hg
    refine hplaces.1 fun i y hi => ?_
    have hy := (List.mem_insertionSort _).1 (List.mem_of_getElem? hi)
    obtain ⟨t', ht', -⟩ := (mem_initialized h).1 hy
    have hold : s.fakeRutokenLayout[i]? = some y.backingSlotID := by
      have hi' := sortedSlots_get hi
      rw [hlayout, List.getElem?_append_left (List.getElem?_eq_some_iff.1 hi').1, hi']
    -- the slot of this token is in the new layout, and only one place there has its number
    have hmem : y.backingSlotID ∈ s'.sortedSlots :=
      (mem_sortedSlots h').2 ⟨t', hkeep _ _ ht'⟩
    obtain ⟨j, hj⟩ := List.mem_iff_getElem?.1 hmem
    have hj' : s'.fakeRutokenLayout[j]? = some y.backingSlotID := by
      rw [hlayout', List.getElem?_append_left (List.getElem?_eq_some_iff.1 hj).1, hj]
    have hji : j = i := by
      rw [← facade_eq h' hj', (hg.stays _ _ ht').2, facade_eq h hold]
    rw [sortedSlots, List.getElem?_map, hji] at hj
    obtain ⟨z, hz, hzy⟩ := Option.map_eq_some_iff.1 hj
    have hzmem := hperm.mem_iff.1 ((List.mem_insertionSort _).1 (List.mem_of_getElem? hz))
    rcases List.mem_append.1 hzmem with hzold | hznew
    · rw [hz, initialized_unique h hzold hy hzy]
    · rw [List.mem_singleton.1 hznew] at hzy
      rw [← hzy, hslot] at ht'
      cases ht'
  · intro hx
    have hsorted' : s'.sortedSlots = s.sortedSlots ++ [b] := by
      rw [sortedSlots, Ranking.insertionSort_of_last hperm hx, List.map_append]
      rfl
    have hgrown : s'.fakeRutokenLayout = s.fakeRutokenLayout ++ rest := by
      rw [hlayout', hsorted', hlayout]
    have hplace : ∀ (i : ℕ) (b' : CK_SLOT_ID), s.fakeRutokenLayout[i]? = some b' →
        s'.fakeRutokenLayout[i]? = some b' := by
      intro i b' hi
      rw [hgrown, List.getElem?_append_left (List.getElem?_eq_some_iff.1 hi).1, hi]
    refine ⟨fun b' t' ht' => ⟨hkeep b' t' ht', ?_⟩, ?_, ?_, fun flags hopen hnone => ?_⟩
    · have hmem : b' ∈ s.fakeRutokenLayout :=
        hlayout ▸ List.mem_append_left _ ((mem_sortedSlots h).2 ⟨t', ht'⟩)
      obtain ⟨i, hi⟩ := List.mem_iff_getElem?.1 hmem
      rw [facade_eq h hi, facade_eq h' (hplace i b' hi)]
    · rw [fakeRutokenSlot_eq h', hplace k b hk, Option.bind_some, hget, if_pos rfl]
    · rw [hs', withToken]
    · rw [hs', withToken]
      simp [SlotEventState.awaitSlotEvent, SlotEventState.postSlotEvent, hopen, hnone]

/-- The successful calls that initialise the token of a slot of the profile. -/
inductive Initialises (e : Env Tok) (k : CK_SLOT_ID) (s : Facade Tok) : Facade Tok → Prop
  | C_InitToken (policy : Option UInt64) (hasPin : Bool)
      (ok : (C_InitToken e policy hasPin k s).1 = CKR_OK) :
      Initialises e k s (C_InitToken e policy hasPin k s).2
  | C_EX_InitToken (pInitInfo : Option CK_RUTOKEN_INIT_PARAM) (hasPin : Bool)
      (ok : (C_EX_InitToken e pInitInfo hasPin k s).1 = CKR_OK) :
      Initialises e k s (C_EX_InitToken e pInitInfo hasPin k s).2

/-- Both calls are `initSlot` with checks that only answer errors. -/
lemma Initialises.exists_check {e : Env Tok} {k : CK_SLOT_ID} (hi : Initialises e k s s') :
    ∃ check, (∀ x, check x ≠ some CKR_OK) ∧ (initSlot e check k s).1 = CKR_OK ∧
      s' = (initSlot e check k s).2 := by
  cases hi with
  | C_InitToken policy hasPin ok =>
    refine ⟨_, fun x => ?_, ok, rfl⟩
    rcases x with _ | t
    · cases hasPin <;> simp
    · rcases policy with _ | policy
      · simp
      · dsimp only
        split <;> cases hasPin <;> simp
  | C_EX_InitToken pInitInfo hasPin ok =>
    refine ⟨_, fun x => ?_, ok, rfl⟩
    split <;> simp

/-- A call at a time of the clock that makes the token `t`. -/
def makes (microseconds : UInt64) (t : Tok) : Env Tok :=
  ⟨true, fun _ => false, microseconds, ⟨none, some (t, []), true, true, CKR_OK⟩⟩

/-- No token yet, and the clock at zero. -/
def empty : Facade Unit := start ⟨[], fun _ => []⟩ (fun _ => none) .init

/-- One token in slot 7, made a microsecond after the epoch. -/
def stamped : Facade Bool :=
  start ⟨[false], fun _ => [0x37]⟩ (fun _ => some (tokenCreationStamp 1)) .init

end Facade

end SoftHSM
