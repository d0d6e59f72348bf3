import SoftHSM.ObjectStore.Backends

/-!
A program on the token in the database and on a map of attributes: they answer alike as long as the
program does not touch the time of creation, which the database has no kind for, and stores nothing
that it has no kind for.
-/

namespace SoftHSM.Backend

open RelyGuarantee DB
open DBObject (Op Answer)
open OSToken (answer)

/-! ### Maps that agree but for the time of creation -/

/-- The values are the same but for the time of creation. -/
def SameBut (m n : AttributeMap) : Prop :=
  ∀ t, t ≠ CKA_OS_TOKENCREATED → OrderedMap.get t n = OrderedMap.get t m

/-- So are those that an abort brings back. -/
def AlikeBut (a b : AttributeStore) : Prop :=
  SameBut a.map b.map ∧
    match a.saved, b.saved with
    | none, none => True
    | some m, some n => SameBut m n
    | _, _ => False

/-- The steps of a call behind the start of its transaction, as long as the database has a kind for
what they store. -/
def Allowed (a : AttributeStore) : Op → Prop
  | .startTransaction => False
  | .reopen => False
  | .nextAttributeType _ => False
  | .commitTransaction => True
  | .abortTransaction => True
  | .setAttribute type given => type ≠ CKA_OS_TOKENCREATED ∧
      DB.kindOf given = DB.attributeKind type ∧ Storable given
  | .deleteAttribute type => type ≠ CKA_OS_TOKENCREATED ∧ a.saved.isSome = true
  | .attributeExists type => type ≠ CKA_OS_TOKENCREATED
  | .getAttribute type => type ≠ CKA_OS_TOKENCREATED
  | .getBooleanValue type _ => type ≠ CKA_OS_TOKENCREATED
  | .getUnsignedLongValue type _ => type ≠ CKA_OS_TOKENCREATED
  | .getByteStringValue type => type ≠ CKA_OS_TOKENCREATED

variable {a b : AttributeStore} {m n : AttributeMap} {op : Op} {o : DBObject}

lemma SameBut.set (h : SameBut m n) (type : CK_ATTRIBUTE_TYPE) (given : OSAttribute) :
    SameBut (m.setAttribute type given) (n.setAttribute type given) := by
  intro t ht
  unfold AttributeMap.setAttribute
  by_cases he : t = type
  · rw [he, OrderedMap.get_put_self, OrderedMap.get_put_self]
  · rw [OrderedMap.get_put_of_ne he, OrderedMap.get_put_of_ne he, h t ht]

lemma SameBut.erase (h : SameBut m n) (type : CK_ATTRIBUTE_TYPE) :
    SameBut (OrderedMap.erase type m) (OrderedMap.erase type n) := by
  intro t ht
  rw [OrderedMap.get_erase, OrderedMap.get_erase, h t ht]

lemma AlikeBut.saved_isSome (h : AlikeBut a b) : b.saved.isSome = a.saved.isSome := by
  have hs := h.2
  split at hs
  · rename_i ha hb
    rw [ha, hb]
  · rename_i ha hb
    rw [ha, hb]
    rfl
  · exact hs.elim

/-- What an operation that is allowed is answered does not depend on the time of creation. -/
lemma AlikeBut.exec (h : AlikeBut a b) (hop : Allowed a op) :
    (b.exec op).1 = (a.exec op).1 ∧ AlikeBut (a.exec op).2 (b.exec op).2 := by
  obtain ⟨hmap, hsaved⟩ := h
  cases op with
  | startTransaction => exact hop.elim
  | reopen => exact hop.elim
  | nextAttributeType type => exact hop.elim
  | setAttribute type given => exact ⟨rfl, hmap.set type given, hsaved⟩
  | deleteAttribute type =>
    refine ⟨?_, hmap.erase type, hsaved⟩
    simp only [AttributeStore.exec, AttributeMap.attributeExists, hmap type hop.1]
  | attributeExists type =>
    refine ⟨?_, hmap, hsaved⟩
    simp only [AttributeStore.exec, AttributeMap.attributeExists, hmap type hop]
  | getAttribute type =>
    refine ⟨?_, hmap, hsaved⟩
    simp only [AttributeStore.exec, hmap type hop]
  | getBooleanValue type val =>
    refine ⟨?_, hmap, hsaved⟩
    simp only [AttributeStore.exec, AttributeMap.getBooleanValue, hmap type hop]
  | getUnsignedLongValue type val =>
    refine ⟨?_, hmap, hsaved⟩
    simp only [AttributeStore.exec, AttributeMap.getUnsignedLongValue, hmap type hop]
  | getByteStringValue type =>
    refine ⟨?_, hmap, hsaved⟩
    simp only [AttributeStore.exec, AttributeMap.getByteStringValue, hmap type hop]
  | commitTransaction =>
    have hsome := AlikeBut.saved_isSome ⟨hmap, hsaved⟩
    simp only [AttributeStore.exec, hsome]
    cases ha : a.saved.isSome with
    | false => exact ⟨rfl, hmap, hsaved⟩
    | true => exact ⟨rfl, hmap, trivial⟩
  | abortTransaction =>
    simp only [AttributeStore.exec]
    split at hsaved
    · rename_i ha hb
      simp only [ha, hb]
      exact ⟨trivial, hmap, by simp only [ha, hb]⟩
    · rename_i ha hb
      simp only [ha, hb]
      exact ⟨trivial, hsaved, trivial⟩
    · exact hsaved.elim

/-! ### The object that is made for a call -/

/-- Within a transaction nothing is kept besides. -/
lemma attributes_getAttributeDB {transaction : AttributePointers}
    (h : o.transaction = some transaction) (type : CK_ATTRIBUTE_TYPE) :
    (o.getAttributeDB type).2.attributes = o.attributes ∧
      (o.getAttributeDB type).2.transaction.isSome = true := by
  rcases DBObject.getAttributeDB_cases o type with ⟨tr, v, htr, -, he⟩ | ⟨v, -, -, -, he⟩ | ⟨-, he⟩
  · rw [he, htr]
    exact ⟨rfl, rfl⟩
  · rw [he, h]
    exact ⟨rfl, rfl⟩
  · rw [he, DBObject.accessAttribute]
    split
    · rw [h]
      exact ⟨rfl, rfl⟩
    · rw [DBObject.keep_of_some h]
      exact ⟨rfl, rfl⟩

/-- The object agrees with the map but for the time of creation, and a transaction of it has all that
it keeps. -/
structure Beside (o : DBObject) (a : AttributeStore) : Prop where
  agrees : ∃ b, o.Agrees b ∧ AlikeBut a b
  fresh : o.transaction.isSome = true → o.attributes = []

lemma attributes_exec {o' : DBObject} {r : Answer} {transaction : AttributePointers}
    (h : o.transaction = some transaction) (hop : Allowed a op)
    (he : o.exec op = some (r, o')) (htr : o'.transaction.isSome = true) :
    o'.attributes = o.attributes := by
  cases op with
  | startTransaction => exact hop.elim
  | reopen => exact hop.elim
  | nextAttributeType type => exact hop.elim
  | commitTransaction =>
    obtain ⟨⟨ok, o₁⟩, hcommit, he⟩ := Option.map_eq_some_iff.1 he
    cases he
    rw [DBObject.commitTransaction, h] at hcommit
    dsimp only at hcommit
    split at hcommit
    · cases hcommit
      rfl
    · obtain ⟨attributes, -, hcommit⟩ := Option.bind_eq_some_iff.1 hcommit
      cases hcommit
      cases htr
  | abortTransaction =>
    cases he
    cases htr
  | setAttribute type given =>
    have hdb := attributes_getAttributeDB h type
    rw [DBObject.exec, DBObject.setAttribute] at he
    rcases hx : o.getAttributeDB type with ⟨v, o₁⟩
    rw [hx] at he hdb
    dsimp only at he hdb
    split at he
    · cases he
      exact hdb.1
    · cases he
      obtain ⟨tr, htr₁⟩ := Option.isSome_iff_exists.1 hdb.2
      rename_i tables _
      have hkeep := @DBObject.keep_of_some (o₁.setTables tables) type given tr htr₁
      exact (congrArg DBObject.attributes hkeep).trans hdb.1
  | deleteAttribute type =>
    have hdb := attributes_getAttributeDB h type
    rw [DBObject.exec, DBObject.deleteAttribute] at he
    rcases hx : o.getAttributeDB type with ⟨v, o₁⟩
    rw [hx] at he hdb
    dsimp only at he hdb
    cases v with
    | none =>
      cases he
      exact hdb.1
    | some attr =>
      dsimp only at he
      split at he
      · cases he
        exact hdb.1
      · cases he
        exact hdb.1
  | attributeExists type =>
    cases he
    exact (attributes_getAttributeDB h type).1
  | getAttribute type =>
    cases he
    exact (attributes_getAttributeDB h type).1
  | getBooleanValue type val =>
    cases he
    exact (attributes_getAttributeDB h type).1
  | getUnsignedLongValue type val =>
    cases he
    exact (attributes_getAttributeDB h type).1
  | getByteStringValue type =>
    cases he
    exact (attributes_getAttributeDB h type).1

/-- No step that is allowed opens a transaction. -/
lemma saved_of_allowed (hop : Allowed a op) (h : (a.exec op).2.saved.isSome = true) :
    a.saved.isSome = true := by
  cases op with
  | startTransaction => exact hop.elim
  | reopen => exact hop.elim
  | nextAttributeType type => exact hop.elim
  | commitTransaction =>
    rw [AttributeStore.exec] at h
    split at h
    · assumption
    · exact h
  | abortTransaction =>
    rw [AttributeStore.exec] at h
    split at h
    · cases h
    · exact h
  | _ => exact h

/-- **One step that is allowed** is answered alike. -/
theorem Beside.exec (h : Beside o a) (hop : Allowed a op) :
    ∃ o', o.exec op = some ((answer op a).1, o') ∧ Beside o' (answer op a).2 := by
  obtain ⟨⟨b, hagrees, halike⟩, hfresh⟩ := h
  have hactive : o.transaction.isSome = a.saved.isSome :=
    hagrees.active.trans halike.saved_isSome
  have hkept : ∀ transaction, o.transaction = some transaction → ∀ t,
      OrderedMap.get t o.attributes = none := fun transaction htr t => by
    rw [hfresh (by rw [htr]; rfl)]
    rfl
  have hharmless : DBObject.Harmless o b op := by
    cases op with
    | setAttribute type given => exact hop.2
    | deleteAttribute type =>
      obtain ⟨transaction, htr⟩ := Option.isSome_iff_exists.1 (hactive.trans hop.2)
      exact .inr (.inr ⟨transaction, htr, .inr (hkept transaction htr type)⟩)
    | commitTransaction =>
      intro transaction htr t v w _ hw
      rw [hkept transaction htr t] at hw
      cases hw
    | nextAttributeType type => exact hop.elim
    | _ => trivial
  obtain ⟨o', hexec, hagrees'⟩ := hagrees.exec hharmless
  obtain ⟨hanswer, halike'⟩ := halike.exec hop
  rw [hanswer] at hexec
  refine ⟨o', hexec, ⟨_, hagrees', halike'⟩, fun htr => ?_⟩
  have hsaved := saved_of_allowed hop (by
    rw [← halike'.saved_isSome, ← hagrees'.active]
    exact htr)
  obtain ⟨transaction, ho⟩ := Option.isSome_iff_exists.1 (hactive.trans hsaved)
  rw [attributes_exec ho hop hexec htr]
  exact hfresh (by rw [ho]; rfl)

/-! ### A call on the token -/

/-- The tables hold the map but for the time of creation. -/
def HoldsBut (c : DB.Connection) (m : AttributeMap) : Prop :=
  c.saved = none ∧ ∃ n, c.tables.Holds n ∧ SameBut m n

/-- **A call in a transaction** on the object of the token is what it is on the map. -/
theorem run_opening {c : DB.Connection} (h : HoldsBut c m) (refused : Reply) {body : Prog Reply}
    (ha : body.Along answer Allowed ⟨m, some m⟩)
    (hclosed : (body.eval answer ⟨m, some m⟩).2.saved = none) :
    ∃ o', (opening refused body).run (fun op o => DBObject.exec o op) ⟨c, [], none⟩ =
        some ((body.eval answer ⟨m, some m⟩).1, o') ∧
      HoldsBut o'.connection (body.eval answer ⟨m, some m⟩).2.map := by
  obtain ⟨hc, n, hholds, hsame⟩ := h
  obtain ⟨tables, saved⟩ := c
  subst hc
  have hopened := DBObject.agrees_opened hholds
  obtain ⟨-, hstart⟩ := hopened.start
  have hbeside : Beside (DBObject.opened tables).startTransaction.2 ⟨m, some m⟩ :=
    ⟨⟨_, hstart, hsame, hsame⟩, fun _ => rfl⟩
  have hcall : ∀ (o : DBObject) (a : AttributeStore) (op : Op), Beside o a → Allowed a op →
      ∃ o', o.exec op = some ((answer op a).1, o') ∧ Beside o' (answer op a).2 :=
    fun o a op h hop => h.exec hop
  obtain ⟨o', hrun, ⟨b, hagrees, halike⟩, -⟩ :=
    Program.run_eq_eval hcall hbeside ha
  refine ⟨o', hrun, ?_, b.map, hagrees.holds, halike.1⟩
  have hnone : b.saved = none := by
    have hsome := halike.saved_isSome
    rw [hclosed, Option.isSome_none, Option.isSome_eq_false_iff, Option.isNone_iff_eq_none] at hsome
    exact hsome
  have hsaved := hagrees.saved
  rw [hnone] at hsaved
  cases hcs : o'.connection.saved with
  | none => rfl
  | some tables =>
    rw [hcs] at hsaved
    exact hsaved.elim

end SoftHSM.Backend
