import Mathlib.Data.List.GetD
import Mathlib.Data.List.Nodup
import SoftHSM.SlotMgr.SlotManager

/-!
The list of slots as it is written into the buffer of the caller: two indexes run towards each
other, and the one from the end is a number without a sign that begins before the first entry when
there are no slots. The query of the size changes the map that it has counted.
-/

set_option linter.unusedSectionVars false

namespace SoftHSM.SlotManager

open CK_RV

variable {Tok : Type} [DecidableEq Tok]

/-! ### The buffer -/

/-- The buffer and the two indexes. -/
structure Fill where
  pSlotList : ℕ → CK_SLOT_ID
  startIx : UInt64
  endIx : UInt64

/-- A slot that is put into the list. -/
def Fill.slot (tokenPresent : Bool) (f : Fill) (slot : CK_SLOT_ID × Option Tok) : Fill :=
  if tokenPresent && !isTokenPresent slot.2 then f
  -- uninitialised slots last
  else if isTokenPresent slot.2 && slot.2.isNone then
    { f with pSlotList := Function.update f.pSlotList f.endIx.toNat slot.1, endIx := f.endIx - 1 }
  else
    { f with pSlotList := Function.update f.pSlotList f.startIx.toNat slot.1, startIx := f.startIx + 1 }

/-- What a call leaves: whether the assertions held, and the buffer if there was one. -/
structure Answer (Tok : Type) where
  rv : CK_RV
  asserted : Bool
  pSlotList : Option (ℕ → CK_SLOT_ID)
  pulCount : Option ℕ
  manager : SlotManager Tok

/-- `getSlotList` with the buffer of the caller. -/
def getSlotListInto (objectStore : ObjectStore Tok) (tokenPresent : Bool)
    (pSlotList : Option (ℕ → CK_SLOT_ID)) (pulCount : Option ℕ) (m : SlotManager Tok) : Answer Tok :=
  match pulCount with
  | none => ⟨CKR_ARGUMENTS_BAD, true, pSlotList, none, m⟩
  | some count =>
    let size := (m.slots.filter fun slot => !tokenPresent || isTokenPresent slot.2).length
    let uninitialized := m.slots.any fun slot => slot.2.isNone
    match pSlotList with
    | none =>
      if uninitialized = false then
        let (inserted, m) := insertToken objectStore.tokens.length none m
        ⟨CKR_OK, inserted, none, some (size + 1), m⟩
      else ⟨CKR_OK, true, none, some size, m⟩
    | some pSlotList =>
      if count < size then ⟨CKR_BUFFER_TOO_SMALL, true, some pSlotList, some size, m⟩
      else
        let f := m.slots.foldl (Fill.slot tokenPresent) ⟨pSlotList, 0, UInt64.ofNat size - 1⟩
        ⟨CKR_OK, f.startIx = f.endIx + 1, some f.pSlotList, some size, m⟩

/-- The slots in the order of the list. -/
def listed (slots : List (CK_SLOT_ID × Option Tok)) : List CK_SLOT_ID :=
  (slots.filter fun slot => slot.2.isSome).map Prod.fst ++
    ((slots.filter fun slot => slot.2.isNone).map Prod.fst).reverse

@[simp] lemma listed_nil : listed ([] : List (CK_SLOT_ID × Option Tok)) = [] := rfl

lemma listed_cons_some (id : CK_SLOT_ID) (t : Tok) (slots : List (CK_SLOT_ID × Option Tok)) :
    listed ((id, some t) :: slots) = id :: listed slots := by
  simp [listed]

lemma listed_cons_none (id : CK_SLOT_ID) (slots : List (CK_SLOT_ID × Option Tok)) :
    listed ((id, none) :: slots) = listed slots ++ [id] := by
  simp [listed]

@[simp] lemma length_listed (slots : List (CK_SLOT_ID × Option Tok)) :
    (listed slots).length = slots.length := by
  induction slots with
  | nil => rfl
  | cons slot slots ih =>
    obtain ⟨id, t⟩ := slot
    cases t with
    | none => rw [listed_cons_none, List.length_append, ih, List.length_singleton, List.length_cons]
    | some t => rw [listed_cons_some, List.length_cons, ih, List.length_cons]

/-- **The two indexes meet**: between them there is room for the slots that are left, so each slot
has its place and nothing else is written. -/
lemma foldl_slot (tokenPresent : Bool) (slots : List (CK_SLOT_ID × Option Tok)) (f : Fill)
    (hroom : f.startIx.toNat + slots.length < 2 ^ 64)
    (hmeet : f.endIx + 1 = f.startIx + UInt64.ofNat slots.length) :
    (slots.foldl (Fill.slot tokenPresent) f).startIx =
        (slots.foldl (Fill.slot tokenPresent) f).endIx + 1 ∧
      ∀ j, (slots.foldl (Fill.slot tokenPresent) f).pSlotList j =
        if f.startIx.toNat ≤ j ∧ j < f.startIx.toNat + slots.length then
          (listed slots).getD (j - f.startIx.toNat) 0
        else f.pSlotList j := by
  induction slots generalizing f with
  | nil =>
    refine ⟨?_, fun j => (if_neg (by rw [List.length_nil]; omega)).symm⟩
    rw [List.foldl_nil, hmeet, List.length_nil]
    exact (UInt64.add_zero _).symm
  | cons slot slots ih =>
    obtain ⟨id, t⟩ := slot
    rw [List.length_cons] at hroom hmeet ⊢
    have hcast : UInt64.ofNat (slots.length + 1) = UInt64.ofNat slots.length + 1 := by
      rw [UInt64.ofNat_add]
      rfl
    rw [List.foldl_cons]
    cases t with
    | some t =>
      have hnat : (f.startIx + 1).toNat = f.startIx.toNat + 1 := by
        rw [UInt64.toNat_add, show (1 : UInt64).toNat = 1 from rfl]
        omega
      have hstep : f.slot tokenPresent (id, some t) =
          { f with
            pSlotList := Function.update f.pSlotList f.startIx.toNat id
            startIx := f.startIx + 1 } := by
        simp [Fill.slot, isTokenPresent]
      obtain ⟨hend, hbuf⟩ := ih (f.slot tokenPresent (id, some t))
        (by rw [hstep]; dsimp only; omega)
        (by rw [hstep]; dsimp only; rw [hmeet, hcast, UInt64.add_assoc, UInt64.add_comm 1])
      refine ⟨hend, fun j => ?_⟩
      rw [hbuf j, hstep, listed_cons_some]
      dsimp only
      rw [hnat]
      rcases lt_trichotomy j f.startIx.toNat with hj | rfl | hj
      · rw [if_neg (by omega), if_neg (by omega), Function.update_of_ne (by omega)]
      · rw [if_neg (by omega), if_pos (by omega), Function.update_self, Nat.sub_self]
        rfl
      · have hsub : j - f.startIx.toNat = j - (f.startIx.toNat + 1) + 1 := by omega
        rw [Function.update_of_ne (by omega), hsub, List.getD_cons_succ]
        by_cases hin : j < f.startIx.toNat + 1 + slots.length
        · rw [if_pos (by omega), if_pos (by omega)]
        · rw [if_neg (by omega), if_neg (by omega)]
    | none =>
      have hstep : f.slot tokenPresent (id, (none : Option Tok)) =
          { f with
            pSlotList := Function.update f.pSlotList f.endIx.toNat id
            endIx := f.endIx - 1 } := by
        simp [Fill.slot, isTokenPresent]
      have hendIx : f.endIx = f.startIx + UInt64.ofNat slots.length := by
        rw [hcast, ← UInt64.add_assoc] at hmeet
        exact (UInt64.add_left_inj 1).1 hmeet
      have hnat : f.endIx.toNat = f.startIx.toNat + slots.length := by
        rw [hendIx, UInt64.toNat_add, UInt64.toNat_ofNat']
        omega
      obtain ⟨hend, hbuf⟩ := ih (f.slot tokenPresent (id, (none : Option Tok)))
        (by rw [hstep]; dsimp only; omega)
        (by rw [hstep]; dsimp only; rw [UInt64.sub_add_cancel, hendIx])
      refine ⟨hend, fun j => ?_⟩
      rw [hbuf j, hstep, listed_cons_none, hnat]
      dsimp only
      rcases lt_trichotomy j (f.startIx.toNat + slots.length) with hj | rfl | hj
      · rw [Function.update_of_ne (by omega)]
        by_cases hin : f.startIx.toNat ≤ j
        · rw [if_pos (by omega), if_pos (by omega), List.getD_append _ _ _ _ (by
            rw [length_listed]
            omega)]
        · rw [if_neg (by omega), if_neg (by omega)]
      · have hlast : f.startIx.toNat + slots.length - f.startIx.toNat = (listed slots).length := by
          rw [length_listed]
          omega
        rw [if_neg (by omega), if_pos (by omega), Function.update_self, hlast,
          List.getD_append_right _ _ _ _ (Nat.le_refl _), Nat.sub_self]
        rfl
      · rw [if_neg (by omega), if_neg (by omega), Function.update_of_ne (by omega)]

/-- The loop from the start: the indexes meet, and the buffer has the list and is as it was behind
it. -/
lemma foldl_slot_start (tokenPresent : Bool) (pSlotList : ℕ → CK_SLOT_ID)
    {slots : List (CK_SLOT_ID × Option Tok)} (hlen : slots.length < 2 ^ 64) :
    ∀ f, f = slots.foldl (Fill.slot tokenPresent) ⟨pSlotList, 0, UInt64.ofNat slots.length - 1⟩ →
      f.startIx = f.endIx + 1 ∧ (∀ j, slots.length ≤ j → f.pSlotList j = pSlotList j) ∧
        (List.range slots.length).map f.pSlotList = listed slots := by
  rintro f rfl
  have hmeet : UInt64.ofNat slots.length - 1 + 1 = 0 + UInt64.ofNat slots.length := by
    rw [UInt64.sub_add_cancel, UInt64.zero_add]
  obtain ⟨hend, hbuf⟩ := foldl_slot tokenPresent slots ⟨pSlotList, 0, UInt64.ofNat slots.length - 1⟩
    (by simpa using hlen) hmeet
  have hzero : (0 : UInt64).toNat = 0 := rfl
  simp only [hzero, Nat.zero_le, true_and, Nat.zero_add, Nat.sub_zero] at hbuf
  refine ⟨hend, fun j hj => ?_, List.ext_getElem (by simp) fun j hj hj' => ?_⟩
  · rw [hbuf, if_neg (Nat.not_lt.2 hj)]
  · rw [length_listed] at hj'
    rw [List.getElem_map, List.getElem_range, hbuf, if_pos hj', List.getD_eq_getElem]

/-! ### Calls -/

/-- The slots of a map: those with initialised tokens first and in order, and each of them once. -/
def Lists (m : SlotManager Tok) (ids : List CK_SLOT_ID) : Prop :=
  ∃ first last, ids = first ++ last ∧ first.Pairwise (· < ·) ∧ last.Nodup ∧
    (∀ id, id ∈ first ↔ ∃ t, OrderedMap.get id m.slots = some (some t)) ∧
    ∀ id, id ∈ last ↔ OrderedMap.get id m.slots = some none

lemma lists_listed {m : SlotManager Tok} (hs : OrderedMap.Sorted m.slots) :
    Lists m (listed m.slots) := by
  have hnodup : ∀ q : CK_SLOT_ID × Option Tok → Bool,
      ((m.slots.filter q).map Prod.fst).Pairwise (· < ·) := fun q =>
    List.pairwise_map.2 (OrderedMap.sorted_filter hs q)
  refine ⟨_, _, rfl, hnodup _, ?_, fun id => ?_, fun id => ?_⟩
  · exact List.nodup_reverse.2 ((hnodup _).imp fun h => h.ne)
  · rw [List.mem_map]
    constructor
    · rintro ⟨⟨_, t⟩, hmem, rfl⟩
      obtain ⟨hmem, hsome⟩ := List.mem_filter.1 hmem
      obtain ⟨t, rfl⟩ := Option.isSome_iff_exists.1 hsome
      exact ⟨t, OrderedMap.get_of_mem hs hmem⟩
    · rintro ⟨t, ht⟩
      exact ⟨(id, some t), List.mem_filter.2 ⟨OrderedMap.mem_of_get ht, rfl⟩, rfl⟩
  · rw [List.mem_reverse, List.mem_map]
    constructor
    · rintro ⟨⟨_, t⟩, hmem, rfl⟩
      obtain ⟨hmem, hnone⟩ := List.mem_filter.1 hmem
      obtain rfl := Option.isNone_iff_eq_none.1 hnone
      exact OrderedMap.get_of_mem hs hmem
    · intro h
      exact ⟨(id, none), List.mem_filter.2 ⟨OrderedMap.mem_of_get h, rfl⟩, rfl⟩

/-- A call that returns, which without `NDEBUG` a failed assertion keeps it from. -/
def Answer.Succeeds (ndebug : Bool) (a : Answer Tok) : Prop :=
  (ndebug || a.asserted) = true ∧ a.rv = CKR_OK

/-- An answer with the entries of a map in the buffer, as many as it says and no others. -/
def Answer.Fetched (ndebug : Bool) (a : Answer Tok) (m : SlotManager Tok) (size : ℕ)
    (pSlotList : ℕ → CK_SLOT_ID) : Prop :=
  a.Succeeds ndebug ∧ a.pulCount = some size ∧
    ∃ pSlotList', a.pSlotList = some pSlotList' ∧ (∀ j, size ≤ j → pSlotList' j = pSlotList j) ∧
      Lists m ((List.range size).map pSlotList')

lemma size_eq (m : SlotManager Tok) (tokenPresent : Bool) :
    (m.slots.filter fun slot => !tokenPresent || isTokenPresent slot.2).length = m.slots.length := by
  have hall : ∀ slot ∈ m.slots, (!tokenPresent || isTokenPresent slot.2) = true := fun _ _ =>
    Bool.or_true _
  rw [List.filter_eq_self.2 hall]

/-- **A call with a buffer** that is large enough. -/
lemma fetched (ndebug : Bool) (objectStore : ObjectStore Tok) (tokenPresent : Bool) (pSlotList : ℕ → CK_SLOT_ID)
    {count : ℕ} {m : SlotManager Tok} (hs : OrderedMap.Sorted m.slots) (hlen : m.slots.length < 2 ^ 64)
    (hcount : m.slots.length ≤ count) :
    (getSlotListInto objectStore tokenPresent (some pSlotList) (some count) m).Fetched ndebug m
      m.slots.length pSlotList := by
  obtain ⟨hend, hout, hids⟩ := foldl_slot_start tokenPresent pSlotList hlen _ rfl
  rw [getSlotListInto]
  simp only [size_eq, if_neg (Nat.not_lt.2 hcount)]
  refine ⟨⟨?_, rfl⟩, rfl, _, rfl, fun j hj => ?_, ?_⟩
  · rw [decide_eq_true hend, Bool.or_true]
  · exact hout j hj
  · rw [hids]
    exact lists_listed hs

lemma any_isNone {m : SlotManager Tok} (hs : OrderedMap.Sorted m.slots) :
    (m.slots.any fun slot => slot.2.isNone) = true ↔ ∃ id, OrderedMap.get id m.slots = some none := by
  rw [List.any_eq_true]
  constructor
  · rintro ⟨⟨id, t⟩, hmem, hnone⟩
    obtain rfl := Option.isNone_iff_eq_none.1 hnone
    exact ⟨id, OrderedMap.get_of_mem hs hmem⟩
  · rintro ⟨id, h⟩
    exact ⟨(id, none), OrderedMap.mem_of_get h, rfl⟩

/-- What is listed has the length of the map. -/
lemma length_of_lists {m : SlotManager Tok} (hs : OrderedMap.Sorted m.slots) {ids : List CK_SLOT_ID}
    (h : Lists m ids) : ids.length = m.slots.length := by
  obtain ⟨first, last, rfl, hfirst, hlast, hin, hout⟩ := h
  obtain ⟨first', last', heq, hfirst', hlast', hin', hout'⟩ := lists_listed hs
  have h1 : first.Perm first' := (List.perm_ext_iff_of_nodup (hfirst.imp fun h => h.ne)
    (hfirst'.imp fun h => h.ne)).2 fun id => (hin id).trans (hin' id).symm
  have h2 : last.Perm last' := (List.perm_ext_iff_of_nodup hlast hlast').2 fun id =>
    (hout id).trans (hout' id).symm
  rw [← length_listed, heq, List.length_append, List.length_append, h1.length_eq, h2.length_eq]

/-- A query of the size, and a call with a buffer of that size right after it. -/
def QueryFetch (ndebug : Bool) (objectStore : ObjectStore Tok) (m : SlotManager Tok) : Prop :=
  ∀ tokenPresent count, ∃ size,
    (getSlotListInto objectStore tokenPresent none (some count) m).Succeeds ndebug ∧
    (getSlotListInto objectStore tokenPresent none (some count) m).pulCount = some size ∧
    ∀ pSlotList, (getSlotListInto objectStore tokenPresent (some pSlotList) (some size)
        (getSlotListInto objectStore tokenPresent none (some count) m).manager).Fetched ndebug
      (getSlotListInto objectStore tokenPresent none (some count) m).manager size pSlotList

/-- A query where an empty slot is there. -/
lemma query_of_empty (objectStore : ObjectStore Tok) (tokenPresent : Bool) (count : ℕ)
    {m : SlotManager Tok} (hany : (m.slots.any fun slot => slot.2.isNone) = true) :
    getSlotListInto objectStore tokenPresent none (some count) m =
      ⟨CKR_OK, true, none, some m.slots.length, m⟩ := by
  rw [getSlotListInto]
  simp only [hany, size_eq, Bool.true_eq_false, if_false]

/-- A query where none is there: it counts one more, whether that comes to be or not. -/
lemma query_of_full (objectStore : ObjectStore Tok) (tokenPresent : Bool) (count : ℕ)
    {m : SlotManager Tok} (hany : (m.slots.any fun slot => slot.2.isNone) = false) :
    getSlotListInto objectStore tokenPresent none (some count) m =
      ⟨CKR_OK, (insertToken objectStore.tokens.length none m).1, none, some (m.slots.length + 1),
        (insertToken objectStore.tokens.length none m).2⟩ := by
  rw [getSlotListInto]
  simp only [hany, size_eq, if_true]

/-- What the call with no buffer of its own lists. -/
lemma listed_eq (objectStore : ObjectStore Tok) (tokenPresent : Bool) {count : ℕ} {m : SlotManager Tok}
    (hcount : m.slots.length ≤ count) :
    (getSlotList objectStore tokenPresent true (some count) m).2.1 = listed m.slots := by
  have hall : (m.slots.filter fun slot => !tokenPresent || isTokenPresent slot.2) = m.slots :=
    List.filter_eq_self.2 fun _ _ => Bool.or_true _
  have hsome : ∀ slot : CK_SLOT_ID × Option Tok,
      (!(isTokenPresent slot.2 && slot.2.isNone)) = slot.2.isSome := by
    rintro ⟨id, t⟩
    cases t <;> rfl
  rw [getSlotList]
  simp only [hall, if_neg (Nat.not_lt.2 hcount), Bool.not_true, Bool.false_eq_true, if_false,
    List.partition_eq_filter_filter, List.map_append, List.map_reverse, listed, Function.comp_def,
    hsome]
  rfl

/-- **The list in the buffer** is the list of the call without one, and so is the rest of the
answer. -/
theorem getSlotListInto_refines (objectStore : ObjectStore Tok) (tokenPresent : Bool)
    (pSlotList : Option (ℕ → CK_SLOT_ID)) (count : ℕ) {m : SlotManager Tok}
    (hlen : m.slots.length < 2 ^ 64) :
    ∀ a, a = getSlotListInto objectStore tokenPresent pSlotList (some count) m →
      ∀ l, l = getSlotList objectStore tokenPresent pSlotList.isSome (some count) m →
        a.rv = l.1 ∧ a.pulCount = l.2.2.1 ∧ a.manager = l.2.2.2 ∧
          ∀ pSlotList', a.pSlotList = some pSlotList' → m.slots.length ≤ count →
            l.2.1 = (List.range m.slots.length).map pSlotList' := by
  rintro a rfl l rfl
  cases pSlotList with
  | none =>
    rw [getSlotListInto, getSlotList]
    cases hany : m.slots.any fun slot => slot.2.isNone with
    | false => exact ⟨rfl, rfl, rfl, fun _ h => by cases h⟩
    | true => exact ⟨rfl, rfl, rfl, fun _ h => by cases h⟩
  | some pSlotList =>
    by_cases hcount : count < m.slots.length
    · rw [getSlotListInto, getSlotList]
      simp only [size_eq, if_pos hcount, Option.isSome_some, Bool.not_true, Bool.false_eq_true, if_false]
      exact ⟨trivial, trivial, trivial, fun _ _ h => absurd hcount (Nat.not_lt.2 h)⟩
    · obtain ⟨-, -, hids⟩ := foldl_slot_start tokenPresent pSlotList hlen _ rfl
      rw [Option.isSome_some, listed_eq objectStore tokenPresent (Nat.not_lt.1 hcount), getSlotListInto,
        getSlotList]
      simp only [size_eq, if_neg hcount, Bool.not_true, Bool.false_eq_true, if_false]
      refine ⟨trivial, trivial, trivial, fun _ h _ => ?_⟩
      rw [← Option.some.inj h, hids]

end SoftHSM.SlotManager
