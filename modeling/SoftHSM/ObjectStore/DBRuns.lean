import SoftHSM.Lib.Transition
import SoftHSM.ObjectStore.DBTables

/-!
The database object over runs: as long as no step goes wrong, it answers as a map of attributes
does that a transaction changes and an abort brings back.

Four things go wrong. A type without a kind is not read back. An attribute that is deleted is still
kept where it is not listed as modifiable. A transaction that has deleted an attribute which is kept
besides cannot be committed. And walking over the types ends where it begins.
-/

namespace SoftHSM

open DB Transition

namespace AttributeMap

/-- The type behind another one; the first one behind the last. -/
def nextAttributeType (m : AttributeMap) (type : CK_ATTRIBUTE_TYPE) : CK_ATTRIBUTE_TYPE :=
  ((m.find? fun e => type < e.1).map (·.1)).getD CKA_CLASS

end AttributeMap

/-- The types that `C_CopyObject` comes to, in at most so many rounds. -/
def walk (next : CK_ATTRIBUTE_TYPE → CK_ATTRIBUTE_TYPE) : ℕ → CK_ATTRIBUTE_TYPE →
    List CK_ATTRIBUTE_TYPE
  | 0, _ => []
  | n + 1, type => type :: if next type = CKA_CLASS then [] else walk next n (next type)

namespace DBObject

/-! ### Operations -/

inductive Op
  | startTransaction
  | setAttribute (type : CK_ATTRIBUTE_TYPE) (given : OSAttribute)
  | deleteAttribute (type : CK_ATTRIBUTE_TYPE)
  | attributeExists (type : CK_ATTRIBUTE_TYPE)
  | getAttribute (type : CK_ATTRIBUTE_TYPE)
  | getBooleanValue (type : CK_ATTRIBUTE_TYPE) (val : Bool)
  | getUnsignedLongValue (type : CK_ATTRIBUTE_TYPE) (val : UInt64)
  | getByteStringValue (type : CK_ATTRIBUTE_TYPE)
  | nextAttributeType (type : CK_ATTRIBUTE_TYPE)
  | commitTransaction
  | abortTransaction
  | reopen

inductive Answer
  | done (ok : Bool)
  | value (attr : OSAttribute)
  | boolean (value : Bool)
  | unsignedLong (value : UInt64)
  | byteString (value : ByteString)
  | type (type : CK_ATTRIBUTE_TYPE)

/-- One operation, nothing where the process is killed. -/
def exec (o : DBObject) : Op → Option (Answer × DBObject)
  | .startTransaction =>
    let (ok, o) := o.startTransaction
    some (.done ok, o)
  | .setAttribute type given =>
    let (ok, o) := o.setAttribute type given
    some (.done ok, o)
  | .deleteAttribute type =>
    let (ok, o) := o.deleteAttribute type
    some (.done ok, o)
  | .attributeExists type =>
    let (value, o) := o.attributeExists type
    some (.boolean value, o)
  | .getAttribute type =>
    let (attr, o) := o.getAttribute type
    some (.value attr, o)
  | .getBooleanValue type val =>
    let (value, o) := o.getBooleanValue type val
    some (.boolean value, o)
  | .getUnsignedLongValue type val =>
    let (value, o) := o.getUnsignedLongValue type val
    some (.unsignedLong value, o)
  | .getByteStringValue type =>
    let (value, o) := o.getByteStringValue type
    some (.byteString value, o)
  | .nextAttributeType type => some (.type (o.nextAttributeType type), o)
  | .commitTransaction => o.commitTransaction.map fun (ok, o) => (.done ok, o)
  | .abortTransaction =>
    let (ok, o) := o.abortTransaction
    some (.done ok, o)
  | .reopen => some (.done true, o.reopen)

/-- The answers to a sequence of operations, nothing where the process is killed. -/
def run : List Op → DBObject → Option (List Answer)
  | [], _ => some []
  | op :: ops, o =>
    match o.exec op with
    | none => none
    | some (answer, o) => (run ops o).map (answer :: ·)

end DBObject

/-- A map of attributes, with what an abort brings back. -/
structure AttributeStore where
  map : AttributeMap
  saved : Option AttributeMap

namespace AttributeStore

open DBObject (Op Answer)

/-- What an operation on the map is answered, and what it does. -/
def exec (a : AttributeStore) : Op → Answer × AttributeStore
  | .startTransaction =>
    if a.saved.isSome then (.done false, a) else (.done true, { a with saved := some a.map })
  | .setAttribute type given => (.done true, { a with map := a.map.setAttribute type given })
  | .deleteAttribute type =>
    (.done (AttributeMap.attributeExists a.map type),
      { a with map := OrderedMap.erase type a.map })
  | .attributeExists type => (.boolean (AttributeMap.attributeExists a.map type), a)
  | .getAttribute type => (.value ((OrderedMap.get type a.map).getD (.unsignedLong 0)), a)
  | .getBooleanValue type val => (.boolean (a.map.getBooleanValue type val), a)
  | .getUnsignedLongValue type val => (.unsignedLong (a.map.getUnsignedLongValue type val), a)
  | .getByteStringValue type => (.byteString (a.map.getByteStringValue type), a)
  | .nextAttributeType type => (.type (a.map.nextAttributeType type), a)
  | .commitTransaction =>
    if a.saved.isSome then (.done true, { a with saved := none }) else (.done false, a)
  | .abortTransaction =>
    match a.saved with
    | some m => (.done true, ⟨m, none⟩)
    | none => (.done false, a)
  | .reopen => (.done true, ⟨a.saved.getD a.map, none⟩)

end AttributeStore

/-! ### Walking -/

section walking

variable {m l : AttributeMap} {t : CK_ATTRIBUTE_TYPE} {attr : OSAttribute}

lemma nextAttributeType_append (hs : OrderedMap.Sorted (l ++ (t, attr) :: m)) :
    (l ++ (t, attr) :: m : AttributeMap).nextAttributeType t = ((m.head?).map (·.1)).getD CKA_CLASS := by
  have hbefore : ∀ e ∈ l, ¬ t < e.1 := fun e he =>
    ((List.pairwise_append.1 hs).2.2 e he (t, attr) (List.mem_cons_self ..)).not_gt
  have hafter := (List.pairwise_append.1 hs).2.1
  rw [AttributeMap.nextAttributeType, List.find?_append,
    List.find?_eq_none.2 fun e he => by simpa using hbefore e he, Option.none_or,
    List.find?_cons_of_neg (by simp)]
  cases m with
  | nil => rfl
  | cons e m =>
    have hlt : t < e.1 := List.rel_of_pairwise_cons hafter (List.mem_cons_self ..)
    rw [List.find?_cons_of_pos (by simpa using hlt), List.head?_cons]

/-- **Walking over a map** comes to each of its types once. -/
theorem walk_map (hs : OrderedMap.Sorted (l ++ (t, attr) :: m)) :
    walk (l ++ (t, attr) :: m : AttributeMap).nextAttributeType (m.length + 1) t =
      t :: m.map (·.1) := by
  induction m generalizing l t attr with
  | nil =>
    rw [walk, nextAttributeType_append hs]
    rfl
  | cons e m ih =>
    have hlt : t < e.1 :=
      List.rel_of_pairwise_cons (List.pairwise_append.1 hs).2.1 (List.mem_cons_self ..)
    have hne : e.1 ≠ CKA_CLASS := fun h => absurd (h ▸ hlt) UInt64.not_lt_zero
    have happ : l ++ (t, attr) :: e :: m = (l ++ [(t, attr)]) ++ (e.1, e.2) :: m := by simp
    rw [walk, nextAttributeType_append hs, List.head?_cons]
    simp only [Option.map_some, Option.getD_some]
    rw [if_neg hne, List.length_cons, happ, ih (happ ▸ hs), List.map_cons]

end walking

namespace DBObject

/-! ### The object and the map -/

/-- The object agrees with a map: so do its tables, before the transaction too, what it keeps of the
types that it reads once, and what the transaction keeps. -/
structure Agrees (o : DBObject) (a : AttributeStore) : Prop where
  holds : o.connection.tables.Holds a.map
  active : o.transaction.isSome = a.saved.isSome
  saved : match o.connection.saved, a.saved with
    | none, none => True
    | some tables, some m => tables.Holds m
    | _, _ => False
  fixed : ∀ t v, isModifiable t = false → OrderedMap.get t o.attributes = some v →
    v = OrderedMap.get t (a.saved.getD a.map)
  overlay : ∀ transaction, o.transaction = some transaction → OrderedMap.Sorted transaction ∧
    (∀ t v, OrderedMap.get t transaction = some v → v = OrderedMap.get t a.map) ∧
    ∀ t, OrderedMap.get t transaction = none → OrderedMap.get t a.map =
      OrderedMap.get t (a.saved.getD a.map)

section steps

variable {o o' : DBObject} {a : AttributeStore} {t type : CK_ATTRIBUTE_TYPE}
  {attr given : OSAttribute} {v : Option OSAttribute}

@[simp] lemma keep_connection : (o.keep type attr).connection = o.connection := by
  unfold keep
  split <;> rfl

lemma keep_of_none (h : o.transaction = none) : o.keep type attr =
    { o with attributes := OrderedMap.put type (some attr) o.attributes } := by
  rw [keep, h]

lemma keep_of_some {transaction : AttributePointers} (h : o.transaction = some transaction) :
    o.keep type attr =
      { o with transaction := some (OrderedMap.put type (some attr) transaction) } := by
  rw [keep, h]

lemma Agrees.inactive (h : Agrees o a) (ht : o.transaction = none) : a.saved = none := by
  have hactive := h.active
  rw [ht, Option.isSome_none] at hactive
  exact Option.isSome_eq_false_iff.1 hactive.symm |> Option.isNone_iff_eq_none.1

/-- A value that is set is kept. -/
lemma Agrees.keep_set {o₀ : DBObject} {tables : Tables} (h : Agrees o₀ a)
    (hholds : tables.Holds (a.map.setAttribute type given)) :
    Agrees ((o₀.setTables tables).keep type given)
      { a with map := a.map.setAttribute type given } := by
  have hget : ∀ t, t ≠ type → OrderedMap.get t (a.map.setAttribute type given) =
      OrderedMap.get t a.map := fun t ht => OrderedMap.get_put_of_ne ht _ _
  have hself : OrderedMap.get type (a.map.setAttribute type given) = some given :=
    OrderedMap.get_put_self _ _ _
  cases htr : o₀.transaction with
  | none =>
    have hnone := h.inactive htr
    rw [keep_of_none (o := o₀.setTables tables) htr]
    refine ⟨hholds, h.active, h.saved, fun t v ht hv => ?_, fun _ he => ?_⟩
    · have hfixed := h.fixed t
      simp only [hnone, Option.getD_none] at hfixed ⊢
      by_cases he : t = type
      · subst he
        rw [OrderedMap.get_put_self] at hv
        rw [hself, Option.some.inj hv]
      · rw [OrderedMap.get_put_of_ne he] at hv
        rw [hget t he]
        exact hfixed v ht hv
    · rw [show o₀.transaction = some _ from he] at htr
      cases htr
  | some transaction =>
    obtain ⟨hsorted, hin, hout⟩ := h.overlay transaction htr
    have hsome : a.saved.isSome = true := by rw [← h.active, htr, Option.isSome_some]
    obtain ⟨m, hm⟩ := Option.isSome_iff_exists.1 hsome
    rw [keep_of_some (o := o₀.setTables tables) htr]
    refine ⟨hholds, by rw [← h.active, htr]; rfl, h.saved, fun t v ht hv => ?_, ?_⟩
    · have hfixed := h.fixed t v ht hv
      simpa only [hm, Option.getD_some] using hfixed
    · rintro transaction' he
      cases he
      refine ⟨OrderedMap.sorted_put hsorted _ _, fun t v hv => ?_, fun t hv => ?_⟩
      · by_cases he : t = type
        · subst he
          rw [OrderedMap.get_put_self] at hv
          rw [hself, Option.some.inj hv]
        · rw [OrderedMap.get_put_of_ne he] at hv
          rw [hget t he]
          exact hin t v hv
      · by_cases he : t = type
        · subst he
          rw [OrderedMap.get_put_self] at hv
          cases hv
        · rw [OrderedMap.get_put_of_ne he] at hv
          have hsaved := hout t hv
          rw [hm, Option.getD_some] at hsaved ⊢
          rw [hget t he]
          exact hsaved

/-- A value that is read is kept. -/
lemma Agrees.keep (h : Agrees o a) (hv : OrderedMap.get type a.map = some attr) :
    Agrees (o.keep type attr) a := by
  cases htr : o.transaction with
  | none =>
    have hnone := h.inactive htr
    rw [keep_of_none htr]
    refine ⟨h.holds, h.active, h.saved, fun t v ht hget => ?_, h.overlay⟩
    by_cases he : t = type
    · subst he
      rw [OrderedMap.get_put_self] at hget
      rw [hnone, Option.getD_none, hv, Option.some.inj hget]
    · rw [OrderedMap.get_put_of_ne he] at hget
      exact h.fixed t v ht hget
  | some transaction =>
    obtain ⟨hsorted, hin, hout⟩ := h.overlay transaction htr
    rw [keep_of_some htr]
    refine ⟨h.holds, by rw [← h.active, htr]; rfl, h.saved, h.fixed, ?_⟩
    rintro transaction' he
    cases he
    refine ⟨OrderedMap.sorted_put hsorted _ _, fun t v hget => ?_, fun t hget => ?_⟩
    · by_cases he : t = type
      · subst he
        rw [OrderedMap.get_put_self] at hget
        rw [hv, Option.some.inj hget]
      · rw [OrderedMap.get_put_of_ne he] at hget
        exact hin t v hget
    · by_cases he : t = type
      · subst he
        rw [OrderedMap.get_put_self] at hget
        cases hget
      · rw [OrderedMap.get_put_of_ne he] at hget
        exact hout t hget

/-- Where an attribute is found: among what is kept, or in the tables. -/
lemma getAttributeDB_cases (o : DBObject) (type : CK_ATTRIBUTE_TYPE) :
    (∃ transaction v, o.transaction = some transaction ∧
      OrderedMap.get type transaction = some v ∧ o.getAttributeDB type = (v, o)) ∨
    (∃ v, isModifiable type = false ∧ o.transaction.bind (OrderedMap.get type) = none ∧
      OrderedMap.get type o.attributes = some v ∧ o.getAttributeDB type = (v, o)) ∨
    (o.transaction.bind (OrderedMap.get type) = none ∧
      o.getAttributeDB type = o.accessAttribute type) := by
  unfold getAttributeDB
  split
  · rename_i v hv
    obtain ⟨transaction, htr, hget⟩ := Option.bind_eq_some_iff.1 hv
    exact .inl ⟨transaction, v, htr, hget, rfl⟩
  · rename_i hnone
    split
    · exact .inr (.inr ⟨hnone, rfl⟩)
    · rename_i hm
      split
      · rename_i v hv
        exact .inr (.inl ⟨v, Bool.not_eq_true _ ▸ hm, hnone, hv, rfl⟩)
      · exact .inr (.inr ⟨hnone, rfl⟩)

/-- **What is read** is what the map has. -/
theorem Agrees.getAttributeDB (h : Agrees o a) (type : CK_ATTRIBUTE_TYPE) :
    (o.getAttributeDB type).1 = OrderedMap.get type a.map ∧
      Agrees (o.getAttributeDB type).2 a := by
  rcases getAttributeDB_cases o type with
    ⟨transaction, v, htr, hget, he⟩ | ⟨v, hm, hnone, hget, he⟩ | ⟨-, he⟩ <;> rw [he]
  · exact ⟨(h.overlay transaction htr).2.1 type v hget, h⟩
  · refine ⟨?_, h⟩
    have hfixed := h.fixed type v hm hget
    cases htr : o.transaction with
    | none => rwa [h.inactive htr, Option.getD_none] at hfixed
    | some transaction =>
      rw [htr, Option.bind_some] at hnone
      rw [(h.overlay transaction htr).2.2 type hnone]
      exact hfixed
  · unfold accessAttribute
    split
    · rename_i hv
      exact ⟨hv.symm.trans (h.holds.value type), h⟩
    · rename_i attr hv
      have hmap := (h.holds.value type).symm.trans hv
      exact ⟨hmap.symm, h.keep hmap⟩

/-- An attribute that is deleted is gone, where nothing of it is kept. -/
lemma Agrees.delete (h : Agrees o a) (hsome : OrderedMap.get type a.map = some attr)
    (hout : o.transaction = none → isModifiable type = true) :
    Agrees { o.setTables (o.connection.tables.delete type attr) with
        transaction := o.transaction.map (OrderedMap.put type none) }
      { a with map := OrderedMap.erase type a.map } := by
  have hself : OrderedMap.get type (OrderedMap.erase type a.map) = none := by
    rw [OrderedMap.get_erase, if_pos rfl]
  have hrest : ∀ t, t ≠ type → OrderedMap.get t (OrderedMap.erase type a.map) =
      OrderedMap.get t a.map := fun t ht => by rw [OrderedMap.get_erase, if_neg ht]
  refine ⟨h.holds.delete hsome, ?_, h.saved, fun t v ht hv => ?_, fun tr htr => ?_⟩
  · rw [Option.isSome_map]
    exact h.active
  · have hfixed := h.fixed t v ht hv
    cases hs : a.saved with
    | some m => rwa [hs, Option.getD_some] at hfixed
    | none =>
      have hactive := h.active
      rw [hs, Option.isSome_none, Option.isSome_eq_false_iff, Option.isNone_iff_eq_none] at hactive
      have hne : t ≠ type := by
        rintro rfl
        rw [hout hactive] at ht
        cases ht
      rw [hs, Option.getD_none] at hfixed
      rw [Option.getD_none, hrest t hne]
      exact hfixed
  · obtain ⟨tr₀, htr₀, rfl⟩ := Option.map_eq_some_iff.1 htr
    obtain ⟨hsorted, hin, hout⟩ := h.overlay tr₀ htr₀
    refine ⟨OrderedMap.sorted_put hsorted _ _, fun t v hv => ?_, fun t hv => ?_⟩
    · by_cases he : t = type
      · subst he
        rw [OrderedMap.get_put_self] at hv
        rw [hself, Option.some.inj hv]
      · rw [OrderedMap.get_put_of_ne he] at hv
        rw [hrest t he]
        exact hin t v hv
    · by_cases he : t = type
      · subst he
        rw [OrderedMap.get_put_self] at hv
        cases hv
      · rw [OrderedMap.get_put_of_ne he] at hv
        have hsaved := hout t hv
        have hsome : a.saved.isSome = true := by rw [← h.active, htr₀, Option.isSome_some]
        obtain ⟨m, hm⟩ := Option.isSome_iff_exists.1 hsome
        rw [hm, Option.getD_some] at hsaved ⊢
        rw [hrest t he]
        exact hsaved

/-- The entries of a transaction are copied one by one, as long as no null pointer is met. -/
lemma foldlM_copyEntry {transaction attributes : AttributePointers}
    (hs : OrderedMap.Sorted transaction)
    (hnull : ∀ t v w, OrderedMap.get t transaction = some v →
      OrderedMap.get t attributes = some w → v ≠ none ∧ w ≠ none) :
    ∃ attributes', transaction.foldlM copyEntry attributes = some attributes' ∧
      ∀ t, OrderedMap.get t attributes' =
        (OrderedMap.get t transaction).or (OrderedMap.get t attributes) := by
  induction transaction generalizing attributes with
  | nil => exact ⟨attributes, rfl, fun t => rfl⟩
  | cons e transaction ih =>
    obtain ⟨t₀, v₀⟩ := e
    have hlt : ∀ e ∈ transaction, t₀ < e.1 := fun e he => List.rel_of_pairwise_cons hs he
    have hfirst : OrderedMap.get t₀ ((t₀, v₀) :: transaction) = some v₀ := if_pos rfl
    have hnone : OrderedMap.get t₀ transaction = none :=
      OrderedMap.get_eq_none.2 fun e he => (hlt e he).ne'
    have hcopy : copyEntry attributes (t₀, v₀) =
        some (OrderedMap.put t₀ v₀ attributes) := by
      unfold copyEntry
      split
      · rfl
      · rename_i hw
        exact absurd rfl (hnull t₀ v₀ none hfirst hw).2
      · rename_i w hw
        cases v₀ with
        | none => exact absurd rfl (hnull t₀ none _ hfirst hw).1
        | some given => rfl
    have hother : ∀ t, t ≠ t₀ → OrderedMap.get t ((t₀, v₀) :: transaction) =
        OrderedMap.get t transaction := fun t ht => if_neg (Ne.symm ht)
    obtain ⟨attributes', hfold, hget⟩ := @ih (OrderedMap.put t₀ v₀ attributes)
      hs.of_cons fun t v w hv hw => by
        have hne : t ≠ t₀ := by
          rintro rfl
          rw [hnone] at hv
          cases hv
        rw [OrderedMap.get_put_of_ne hne] at hw
        exact hnull t v w ((hother t hne).trans hv) hw
    refine ⟨attributes', by rw [List.foldlM_cons, hcopy]; exact hfold, fun t => ?_⟩
    rw [hget]
    by_cases he : t = t₀
    · subst he
      rw [hnone, hfirst, OrderedMap.get_put_self, Option.none_or, Option.some_or]
    · rw [hother t he, OrderedMap.get_put_of_ne he]

/-- **A transaction is committed** where no null pointer is met. -/
lemma Agrees.commit (h : Agrees o a) (hnull : ∀ transaction, o.transaction = some transaction →
      ∀ t v w, OrderedMap.get t transaction = some v → OrderedMap.get t o.attributes = some w →
        v ≠ none ∧ w ≠ none) :
    ∃ o', o.commitTransaction = some (a.saved.isSome, o') ∧ Agrees o' ⟨a.map, none⟩ := by
  cases htr : o.transaction with
  | none =>
    have hnone := h.inactive htr
    refine ⟨o, by rw [commitTransaction, htr, hnone]; rfl, ?_⟩
    rwa [← hnone]
  | some transaction =>
    have hactive := h.active
    rw [htr, Option.isSome_some] at hactive
    obtain ⟨m, hm⟩ := Option.isSome_iff_exists.1 hactive.symm
    have hsaved := h.saved
    rw [hm] at hsaved
    cases htables : o.connection.saved with
    | none =>
      rw [htables] at hsaved
      exact hsaved.elim
    | some tables =>
      obtain ⟨hsorted, hin, hout⟩ := h.overlay transaction htr
      obtain ⟨attributes', hfold, hget⟩ := foldlM_copyEntry hsorted (hnull transaction htr)
      refine ⟨⟨⟨o.connection.tables, none⟩, attributes', none⟩, ?_, h.holds, rfl, trivial,
        fun t v ht hv => ?_, fun _ he => by cases he⟩
      · rw [commitTransaction, htr, hm]
        simp [DB.Connection.commitTransaction, DB.Connection.inTransaction, htables, hfold]
      · rw [hget] at hv
        rw [Option.getD_none]
        cases hgt : OrderedMap.get t transaction with
        | some w =>
          rw [hgt, Option.some_or] at hv
          rw [← Option.some.inj hv]
          exact hin t w hgt
        | none =>
          rw [hgt, Option.none_or] at hv
          rw [hout t hgt]
          exact h.fixed t v ht hv

/-- What was read before a transaction is read after it was given up. -/
lemma Agrees.abort (h : Agrees o a) : (o.abortTransaction).1 = a.saved.isSome ∧
    Agrees (o.abortTransaction).2 ⟨a.saved.getD a.map, none⟩ := by
  have hsaved := h.saved
  unfold abortTransaction DB.Connection.rollbackTransaction
  cases hm : a.saved with
  | none =>
    cases htables : o.connection.saved with
    | some tables =>
      rw [hm, htables] at hsaved
      exact hsaved.elim
    | none =>
      refine ⟨rfl, h.holds, rfl, by rw [htables]; trivial, fun t v ht hv => ?_,
        fun _ he => by cases he⟩
      have hfixed := h.fixed t v ht hv
      rwa [hm] at hfixed
  | some m =>
    cases htables : o.connection.saved with
    | none =>
      rw [hm, htables] at hsaved
      exact hsaved.elim
    | some tables =>
      rw [hm, htables] at hsaved
      refine ⟨rfl, hsaved, rfl, trivial, fun t v ht hv => ?_, fun _ he => by cases he⟩
      have hfixed := h.fixed t v ht hv
      rwa [hm] at hfixed

lemma Agrees.reopen (h : Agrees o a) : Agrees o.reopen ⟨a.saved.getD a.map, none⟩ := by
  obtain ⟨-, hagrees⟩ := h.abort
  exact ⟨hagrees.holds, rfl, hagrees.saved, fun _ _ _ hv => (by cases hv),
    fun _ he => (by cases he)⟩

lemma Agrees.start (h : Agrees o a) : (o.startTransaction).1 = !a.saved.isSome ∧
    Agrees (o.startTransaction).2 { a with saved := some (a.saved.getD a.map) } := by
  have hactive := h.active
  have hsaved := h.saved
  unfold startTransaction
  cases hm : a.saved with
  | some m =>
    rw [hm, Option.isSome_some] at hactive
    rw [if_pos hactive]
    refine ⟨rfl, ?_⟩
    rwa [Option.getD_some, ← hm]
  | none =>
    rw [hm, Option.isSome_none] at hactive
    cases htables : o.connection.saved with
    | some tables =>
      rw [hm, htables] at hsaved
      exact hsaved.elim
    | none =>
      rw [if_neg (by simp [hactive])]
      simp only [DB.Connection.beginTransaction, DB.Connection.inTransaction, htables,
        Option.isSome_none, Bool.false_eq_true, if_false]
      refine ⟨rfl, h.holds, rfl, h.holds, fun t v ht hv => ?_, fun tr he => ?_⟩
      · have hfixed := h.fixed t v ht hv
        rwa [hm] at hfixed
      · cases he
        exact ⟨OrderedMap.sorted_nil, fun t v hv => (by cases hv), fun t _ => rfl⟩

/-! ### Steps that do not go wrong -/

/-- What an operation needs so that the object answers as the map does. -/
def Harmless (o : DBObject) (a : AttributeStore) : Op → Prop
  | .setAttribute type given => DB.kindOf given = DB.attributeKind type ∧ Storable given
  | .deleteAttribute type =>
    isModifiable type = true ∨ OrderedMap.get type a.map = none ∨
      ∃ transaction, o.transaction = some transaction ∧
        ((OrderedMap.get type transaction).isSome = true ∨ OrderedMap.get type o.attributes = none)
  | .commitTransaction => ∀ transaction, o.transaction = some transaction → ∀ t v w,
    OrderedMap.get t transaction = some v → OrderedMap.get t o.attributes = some w →
      v ≠ none ∧ w ≠ none
  | .nextAttributeType type => ∀ e ∈ a.map, e.1 ≤ type
  | _ => True

lemma setAttribute_agrees (h : Agrees o a) (hk : DB.kindOf given = DB.attributeKind type)
    (hs : Storable given) : (o.setAttribute type given).1 = true ∧
      Agrees (o.setAttribute type given).2 { a with map := a.map.setAttribute type given } := by
  obtain ⟨hvalue, hagrees⟩ := h.getAttributeDB type
  unfold setAttribute
  rcases hdb : o.getAttributeDB type with ⟨v, o₁⟩
  rw [hdb] at hvalue hagrees
  dsimp only at hvalue hagrees ⊢
  cases v with
  | none =>
    obtain ⟨tables, hinsert, hholds⟩ := hagrees.holds.insert hk hs hvalue.symm
    simp only [hinsert]
    exact ⟨trivial, hagrees.keep_set hholds⟩
  | some attr =>
    obtain ⟨tables, hupdate, hholds⟩ := hagrees.holds.update hk hs hvalue.symm
    simp only [hupdate]
    exact ⟨trivial, hagrees.keep_set hholds⟩

/-- What is deleted without harm is kept in the transaction, or nowhere. -/
lemma kept_of_harmless (hd : Harmless o a (.deleteAttribute type))
    (hmap : OrderedMap.get type a.map = some attr) (hdb : o.getAttributeDB type = (some attr, o')) :
    (o'.transaction = none → isModifiable type = true) ∧
      ∀ transaction, o'.transaction = some transaction →
        (OrderedMap.get type transaction).isSome = true := by
  rcases getAttributeDB_cases o type with
    ⟨transaction, v, htr, hget, he⟩ | ⟨v, hm, hnone, hget, he⟩ | ⟨hnone, he⟩ <;> rw [hdb] at he
  · cases he
    refine ⟨fun h => ?_, fun tr h => ?_⟩
    · rw [htr] at h
      cases h
    · rw [htr] at h
      cases h
      rw [hget, Option.isSome_some]
  · rcases hd with hmod | hfree | ⟨tr, htr, hin | hout⟩
    · rw [hmod] at hm
      cases hm
    · rw [hfree] at hmap
      cases hmap
    · rw [htr, Option.bind_some] at hnone
      rw [hnone] at hin
      cases hin
    · rw [hout] at hget
      cases hget
  · unfold accessAttribute at he
    split at he
    · cases he
    cases he
    cases htr : o.transaction with
    | none =>
      rw [keep_of_none htr]
      refine ⟨fun _ => ?_, fun tr h => ?_⟩
      · rcases hd with hmod | hfree | ⟨tr, htr', -⟩
        · exact hmod
        · rw [hfree] at hmap
          cases hmap
        · rw [htr] at htr'
          cases htr'
      · rw [show o.transaction = some tr from h] at htr
        cases htr
    | some transaction =>
      rw [keep_of_some htr]
      refine ⟨fun h => (by cases h), fun tr h => ?_⟩
      cases h
      rw [OrderedMap.get_put_self, Option.isSome_some]

lemma deleteAttribute_agrees (h : Agrees o a) (hd : Harmless o a (.deleteAttribute type)) :
    (o.deleteAttribute type).1 = AttributeMap.attributeExists a.map type ∧
      Agrees (o.deleteAttribute type).2 { a with map := OrderedMap.erase type a.map } := by
  obtain ⟨hvalue, hagrees⟩ := h.getAttributeDB type
  rcases hdb : o.getAttributeDB type with ⟨v, o₁⟩
  rw [hdb] at hvalue hagrees
  rw [deleteAttribute, hdb, AttributeMap.attributeExists, ← hvalue]
  cases v with
  | none =>
    have herase : OrderedMap.erase type a.map = a.map := List.filter_eq_self.2 fun e he => by
      simpa using OrderedMap.get_eq_none.1 hvalue.symm e he
    rw [herase]
    exact ⟨rfl, hagrees⟩
  | some attr =>
    obtain ⟨hout, hin⟩ := kept_of_harmless hd hvalue.symm hdb
    have hdelete := hagrees.delete hvalue.symm hout
    cases htr : o₁.transaction with
    | none =>
      simp only [setTables, htr, Option.map_none] at hdelete ⊢
      exact ⟨rfl, hdelete⟩
    | some transaction =>
      have hsome := hin transaction htr
      simp only [setTables, htr, Option.map_some, hsome, if_true] at hdelete ⊢
      exact ⟨rfl, hdelete⟩

/-- **One step** is answered as the map answers it, and they agree again. -/
theorem Agrees.exec (h : Agrees o a) {op : Op} (hh : Harmless o a op) :
    ∃ o', o.exec op = some ((a.exec op).1, o') ∧ Agrees o' (a.exec op).2 := by
  cases op with
  | startTransaction =>
    obtain ⟨hok, hagrees⟩ := h.start
    refine ⟨o.startTransaction.2, ?_, ?_⟩
    · refine (congrArg (fun ok => some (Answer.done ok, o.startTransaction.2)) hok).trans ?_
      rw [AttributeStore.exec]
      cases a.saved <;> rfl
    · rw [AttributeStore.exec]
      cases hm : a.saved with
      | none => rwa [hm] at hagrees
      | some m =>
        rw [hm, Option.getD_some, ← hm] at hagrees
        rwa [Option.isSome_some, if_pos rfl]
  | setAttribute type given =>
    obtain ⟨hok, hagrees⟩ := setAttribute_agrees h hh.1 hh.2
    let o' := (o.setAttribute type given).2
    exact ⟨o', congrArg (fun ok => some (Answer.done ok, o')) hok, hagrees⟩
  | deleteAttribute type =>
    obtain ⟨hok, hagrees⟩ := deleteAttribute_agrees h hh
    let o' := (o.deleteAttribute type).2
    exact ⟨o', congrArg (fun ok => some (Answer.done ok, o')) hok, hagrees⟩
  | attributeExists type =>
    obtain ⟨hvalue, hagrees⟩ := h.getAttributeDB type
    rcases hdb : o.getAttributeDB type with ⟨v, o'⟩
    rw [hdb] at hvalue hagrees
    rw [DBObject.exec, DBObject.attributeExists, hdb, AttributeStore.exec, AttributeMap.attributeExists, ← hvalue]
    exact ⟨o', rfl, hagrees⟩
  | getAttribute type =>
    obtain ⟨hvalue, hagrees⟩ := h.getAttributeDB type
    rcases hdb : o.getAttributeDB type with ⟨v, o'⟩
    rw [hdb] at hvalue hagrees
    rw [DBObject.exec, DBObject.getAttribute, hdb, AttributeStore.exec, ← hvalue]
    exact ⟨o', rfl, hagrees⟩
  | getBooleanValue type val =>
    obtain ⟨hvalue, hagrees⟩ := h.getAttributeDB type
    rcases hdb : o.getAttributeDB type with ⟨v, o'⟩
    rw [hdb] at hvalue hagrees
    rw [DBObject.exec, DBObject.getBooleanValue, hdb, AttributeStore.exec,
      AttributeMap.getBooleanValue, ← hvalue]
    exact ⟨o', rfl, hagrees⟩
  | getUnsignedLongValue type val =>
    obtain ⟨hvalue, hagrees⟩ := h.getAttributeDB type
    rcases hdb : o.getAttributeDB type with ⟨v, o'⟩
    rw [hdb] at hvalue hagrees
    rw [DBObject.exec, DBObject.getUnsignedLongValue, hdb, AttributeStore.exec,
      AttributeMap.getUnsignedLongValue, ← hvalue]
    exact ⟨o', rfl, hagrees⟩
  | getByteStringValue type =>
    obtain ⟨hvalue, hagrees⟩ := h.getAttributeDB type
    rcases hdb : o.getAttributeDB type with ⟨v, o'⟩
    rw [hdb] at hvalue hagrees
    rw [DBObject.exec, DBObject.getByteStringValue, hdb, AttributeStore.exec,
      AttributeMap.getByteStringValue, ← hvalue]
    exact ⟨o', rfl, hagrees⟩
  | nextAttributeType type =>
    have hlast : a.map.find? (fun e => type < e.1) = none :=
      List.find?_eq_none.2 fun e he => by simpa using hh e he
    refine ⟨o, ?_, h⟩
    rw [AttributeStore.exec, AttributeMap.nextAttributeType, hlast]
    rfl
  | commitTransaction =>
    obtain ⟨o', hcommit, hagrees⟩ := h.commit hh
    refine ⟨o', ?_, ?_⟩
    · rw [DBObject.exec, hcommit, AttributeStore.exec]
      cases a.saved <;> rfl
    · rw [AttributeStore.exec]
      cases hm : a.saved with
      | none =>
        rw [Option.isSome_none, if_neg Bool.false_ne_true]
        rwa [← hm] at hagrees
      | some m => exact hagrees
  | abortTransaction =>
    obtain ⟨hok, hagrees⟩ := h.abort
    refine ⟨o.abortTransaction.2, ?_, ?_⟩
    · refine (congrArg (fun ok => some (Answer.done ok, o.abortTransaction.2)) hok).trans ?_
      rw [AttributeStore.exec]
      cases a.saved <;> rfl
    · rw [AttributeStore.exec]
      cases hm : a.saved with
      | none => rwa [hm, Option.getD_none, ← hm] at hagrees
      | some m => rwa [hm] at hagrees
  | reopen => exact ⟨o.reopen, rfl, h.reopen⟩

end steps

/-! ### Runs -/

/-- An object that has just been opened. -/
def opened (tables : Tables) : DBObject := ⟨⟨tables, none⟩, [], none⟩

/-- A step of the object that does not go wrong, beside the same step of the map. -/
def Step (s : DBObject × AttributeStore) (op : Op) (s' : DBObject × AttributeStore) : Prop :=
  Harmless s.1 s.2 op ∧ ∃ answer, s.1.exec op = some (answer, s'.1) ∧ s'.2 = (s.2.exec op).2

lemma agrees_opened {tables : Tables} {m : AttributeMap} (h : tables.Holds m) :
    Agrees (opened tables) ⟨m, none⟩ :=
  ⟨h, rfl, trivial, fun _ _ _ hv => (by cases hv), fun _ he => (by cases he)⟩

lemma agrees_step {s s' : DBObject × AttributeStore} {op : Op} (h : Agrees s.1 s.2)
    (hs : Step s op s') : Agrees s'.1 s'.2 := by
  obtain ⟨hh, answer, hexec, hmap⟩ := hs
  obtain ⟨o', ho', hagrees⟩ := h.exec hh
  rw [hexec] at ho'
  cases ho'
  rwa [hmap]

/-- Maps stay in order. -/
lemma sorted_exec {a : AttributeStore} (op : Op) (hs : OrderedMap.Sorted a.map)
    (hm : ∀ m, a.saved = some m → OrderedMap.Sorted m) :
    OrderedMap.Sorted (a.exec op).2.map ∧
      ∀ m, (a.exec op).2.saved = some m → OrderedMap.Sorted m := by
  have hback : OrderedMap.Sorted (a.saved.getD a.map) := by
    cases h : a.saved with
    | none => exact hs
    | some m => exact hm m h
  cases op with
  | startTransaction =>
    rw [AttributeStore.exec]
    split
    · exact ⟨hs, hm⟩
    · exact ⟨hs, fun m h => Option.some.inj h ▸ hs⟩
  | setAttribute type given => exact ⟨OrderedMap.sorted_put hs _ _, hm⟩
  | deleteAttribute type => exact ⟨OrderedMap.sorted_erase hs _, hm⟩
  | commitTransaction =>
    rw [AttributeStore.exec]
    split
    · exact ⟨hs, fun m h => (by cases h)⟩
    · exact ⟨hs, hm⟩
  | abortTransaction =>
    rw [AttributeStore.exec]
    split
    · rename_i m h
      exact ⟨hm m h, fun m h => (by cases h)⟩
    · exact ⟨hs, hm⟩
  | reopen => exact ⟨hback, fun m h => (by cases h)⟩
  | _ => exact ⟨hs, hm⟩

/-- **A run of steps that do not go wrong** is answered as the map answers it, in every state that
it comes to. Walking comes to every type of the map, of the object only where there is no other. -/
theorem attribute_map_runs {tables : Tables} {m : AttributeMap} {ops : List Op}
    {s : DBObject × AttributeStore} (ht : tables.Holds m) (hm : OrderedMap.Sorted m)
    (hr : Run Step (opened tables, ⟨m, none⟩) ops s) :
    (∀ op, Harmless s.1 s.2 op → ∃ o', s.1.exec op = some ((s.2.exec op).1, o')) ∧
    ∀ attr l, s.2.map = (CKA_CLASS, attr) :: l →
      walk s.2.map.nextAttributeType (l.length + 1) CKA_CLASS = s.2.map.map (·.1) ∧
      (walk s.1.nextAttributeType (l.length + 1) CKA_CLASS = s.2.map.map (·.1) ↔ l = []) := by
  have hinv := hr.invariant (P := fun s => Agrees s.1 s.2 ∧ OrderedMap.Sorted s.2.map ∧
      ∀ m, s.2.saved = some m → OrderedMap.Sorted m)
    ⟨agrees_opened ht, hm, fun _ h => (by cases h)⟩ fun a op b ha hab =>
      ⟨agrees_step ha.1 hab, by
        rw [hab.2.choose_spec.2]
        exact sorted_exec op ha.2.1 ha.2.2⟩
  obtain ⟨hagrees, hsorted, -⟩ := hinv
  refine ⟨fun op hh => ?_, fun attr l hl => ?_⟩
  · obtain ⟨o', ho', -⟩ := hagrees.exec hh
    exact ⟨o', ho'⟩
  · have hmap : walk s.2.map.nextAttributeType (l.length + 1) CKA_CLASS = s.2.map.map (·.1) := by
      rw [hl] at hsorted ⊢
      exact walk_map (l := []) hsorted
    have hwalk : walk s.1.nextAttributeType (l.length + 1) CKA_CLASS = [CKA_CLASS] := rfl
    refine ⟨hmap, ?_⟩
    rw [hwalk, hl, List.map_cons]
    constructor
    · intro h
      exact List.map_eq_nil_iff.1 (List.cons.inj h).2.symm
    · rintro rfl
      rfl

theorem attribute_map_runs_class : ∃ s : DBObject × AttributeStore,
    s.2.map = [(CKA_CLASS, .unsignedLong CKO_SECRET_KEY)] ∧
    (∀ op, Harmless s.1 s.2 op → ∃ o', s.1.exec op = some ((s.2.exec op).1, o')) ∧
    ∀ attr l, s.2.map = (CKA_CLASS, attr) :: l →
      walk s.2.map.nextAttributeType (l.length + 1) CKA_CLASS = s.2.map.map (·.1) ∧
      (walk s.1.nextAttributeType (l.length + 1) CKA_CLASS = s.2.map.map (·.1) ↔ l = []) := by
  have hh : Harmless (opened .empty) ⟨[], none⟩
      (.setAttribute CKA_CLASS (.unsignedLong CKO_SECRET_KEY)) := ⟨by decide, trivial⟩
  obtain ⟨o', hexec, -⟩ := (agrees_opened Tables.holds_empty).exec hh
  exact ⟨(o', _), rfl, attribute_map_runs Tables.holds_empty OrderedMap.sorted_nil
    (Run.single ⟨hh, _, hexec, rfl⟩)⟩

/-- A label is set, deleted in a transaction, and the transaction committed: a null pointer is
followed. -/
theorem deleted_and_committed : ∃ ops : List Op,
    (∀ type given, Op.setAttribute type given ∈ ops →
      DB.kindOf given = DB.attributeKind type ∧ Storable given) ∧
    run ops (opened .empty) = none := by
  refine ⟨[.setAttribute CKA_LABEL (.byteString [0x41]), .startTransaction,
    .deleteAttribute CKA_LABEL, .commitTransaction], fun type given h => ?_, ?_⟩
  · simp only [List.mem_cons, Op.setAttribute.injEq, List.not_mem_nil, or_false, reduceCtorEq] at h
    obtain ⟨rfl, rfl⟩ := h
    exact ⟨by decide, trivial⟩
  · exact Option.isNone_iff_eq_none.1 (by decide +kernel)

end DBObject

end SoftHSM
