import SoftHSM.Cryptoki
import SoftHSM.ObjectStore.ObjectFile

/-!
Transactions on an object and its file: what is left of one that does not commit.

A device may fail at any call of `fwrite`, and may keep any number of the bytes that it was
given until then.
-/

namespace SoftHSM

open CK_RV Codec Codec.Reader Codec.Writer ByteString File

namespace ObjectFile

/-! ### The functions -/

def startTransaction (locks : Bool) (file : Option ByteString) (o : ObjectFile) :
    Bool × ObjectFile :=
  if o.inTransaction then (false, o)
  else if !locks then (false, o)
  else
    let o := o.refresh true false file
    if !o.valid then (false, o)
    else (true, { o with transactionLockFile := true, inTransaction := true })

def commitTransaction (d : Device) (file : ByteString) (o : ObjectFile) :
    Bool × ObjectFile × ByteString :=
  if !o.inTransaction then (false, o, file)
  else if !o.transactionLockFile then (false, o, file)
  else
    let (o, file) := o.store d true file
    if !o.valid then (false, o, file)
    else (true, { o with transactionLockFile := false, inTransaction := false }, file)

def abortTransaction (file : Option ByteString) (o : ObjectFile) : Bool × ObjectFile :=
  if !o.inTransaction then (false, o)
  else if !o.transactionLockFile then (false, o)
  else
    let o := { o with transactionLockFile := false, inTransaction := false }
    (true, o.refresh true false file)

def setAttribute (d : Device) (type : CK_ATTRIBUTE_TYPE) (attr : OSAttribute)
    (file : ByteString) (o : ObjectFile) : Bool × ObjectFile × ByteString :=
  if !o.valid then (false, o, file)
  else
    let o := { o with attributes := OrderedMap.put type (some attr) o.attributes }
    let (o, file) := o.store d false file
    (o.valid, o, file)

/-- Asking for a type that is not there puts it there, without an attribute. -/
def deleteAttribute (d : Device) (type : CK_ATTRIBUTE_TYPE) (file : ByteString)
    (o : ObjectFile) : Bool × ObjectFile × ByteString :=
  if !o.valid then (false, o, file)
  else
    match OrderedMap.get type o.attributes with
    | none | some none =>
      (false, { o with attributes := OrderedMap.put type none o.attributes }, file)
    | some (some _) =>
      let o := { o with attributes := OrderedMap.erase type o.attributes }
      let (o, file) := o.store d false file
      (o.valid, o, file)

/-! ### Callers -/

/-- A call in a transaction, on a device of its own. -/
inductive Edit
  | setAttribute (d : Device) (type : CK_ATTRIBUTE_TYPE) (attr : OSAttribute)
  | deleteAttribute (d : Device) (type : CK_ATTRIBUTE_TYPE)

def edit (s : ObjectFile × ByteString) : Edit → ObjectFile × ByteString
  | .setAttribute d type attr => (setAttribute d type attr s.2 s.1).2
  | .deleteAttribute d type => (deleteAttribute d type s.2 s.1).2

/-- How a caller ends its transaction: by an abort, or by a commit on a device, which is
followed by an abort or not where it fails. -/
inductive Ending
  | abort
  | commit (d : Device) (aborts : Bool)

/-- Whether the transaction has committed, and what it leaves. -/
def finish (file : ByteString) (o : ObjectFile) : Ending → Bool × ObjectFile × ByteString
  | .abort => (false, (o.abortTransaction (some file)).2, file)
  | .commit d aborts =>
    match o.commitTransaction d file with
    | (true, o, file) => (true, o, file)
    | (false, o, file) => (false, if aborts then (o.abortTransaction (some file)).2 else o, file)

/-- `P11Object::saveTemplate`, with the attributes that it sets and the answer where it refuses
the template after them. A commit that fails is not followed by an abort. -/
def saveTemplate (d : Device) (locks : Bool) (edits : List Edit) (refused : Option CK_RV)
    (file : ByteString) (o : ObjectFile) : CK_RV × ObjectFile × ByteString :=
  match o.startTransaction locks (some file) with
  | (false, o) => (CKR_GENERAL_ERROR, o, file)
  | (true, o) =>
    let (o, file) := edits.foldl edit (o, file)
    match refused with
    | some rv => (rv, (o.finish file .abort).2)
    | none =>
      match o.finish file (.commit d false) with
      | (false, o, file) => (CKR_GENERAL_ERROR, o, file)
      | (true, o, file) => (CKR_OK, o, file)

/-! ### What a file holds -/

/-- Whether a file is good, and its attributes: what an object reads that has none. -/
def parse (bytes : ByteString) : Bool × Attributes :=
  let o := (⟨⟨0, false⟩, [], true, false, false⟩ : ObjectFile).refresh true false (some bytes)
  (o.valid, o.attributes)

/-- What a reader makes of the first `n` bytes of the attributes: those that are whole, unless
the cut is behind the type of the next one. -/
def survive : Attributes → ℕ → Bool × Attributes
  | [], _ => (true, [])
  | (_, none) :: l, n => survive l n
  | (t, some a) :: l, n =>
    if n < 8 then (true, [])
    else if n < 8 + (valueBytes a).length then (false, [])
    else
      let (ok, l) := survive l (n - (8 + (valueBytes a).length))
      (ok, (t, some a) :: l)

/-- What a type of the language can hold: maps in order, and lengths that fit. -/
def Representable : OSAttribute → Prop
  | .boolean _ => True
  | .unsignedLong _ => True
  | .byteString value => value.length < 2 ^ 64
  | .mechanismTypeSet value => value.card < 2 ^ 64
  | .attributeMap value =>
    OrderedMap.Sorted value ∧ ∀ len, mapLength value = some len → len < 2 ^ 64

lemma Representable.storable {a : OSAttribute} (h : Representable a) (he : Encodable a) :
    Storable a := by
  cases a with
  | attributeMap value =>
    obtain ⟨len, hlen⟩ := Option.isSome_iff_exists.1 he
    exact ⟨h.1, len, hlen, h.2 len hlen⟩
  | _ => exact h

/-- Bytes that a writer may leave of the attributes. -/
inductive Cut : Attributes → ByteString → Prop
  | nil : Cut [] []
  | skip {t : CK_ATTRIBUTE_TYPE} {l : Attributes} {p : ByteString} (h : Cut l p) :
      Cut ((t, none) :: l) p
  | type {t : CK_ATTRIBUTE_TYPE} {a : OSAttribute} {l : Attributes} {p : ByteString}
      (h : p.length < 8) : Cut ((t, some a) :: l) p
  | value {t : CK_ATTRIBUTE_TYPE} {a : OSAttribute} {l : Attributes} {q : ByteString}
      (hlt : q.length < (valueBytes a).length)
      (h : ∀ q', q' <+: q → readAttribute.read ⟨q', false⟩ = (none, ⟨[], true⟩)) :
      Cut ((t, some a) :: l) (ofULong t ++ q)
  | whole {t : CK_ATTRIBUTE_TYPE} {a : OSAttribute} {l : Attributes} {p : ByteString}
      (ha : Storable a) (h : Cut l p) : Cut ((t, some a) :: l) (ofULong t ++ (valueBytes a ++ p))

lemma cut_nil (l : Attributes) : Cut l [] := by
  induction l with
  | nil => exact .nil
  | cons i l ih =>
    obtain ⟨t, _ | a⟩ := i
    · exact .skip ih
    · exact .type (by decide)

/-- A prefix that goes beyond the first of two parts. -/
lemma prefix_append {a b p : ByteString} (hp : p <+: a ++ b) (hle : a.length ≤ p.length) :
    ∃ q, p = a ++ q ∧ q <+: b := by
  obtain ⟨t, ht⟩ := hp
  rcases List.append_eq_append_iff.1 ht with ⟨m, rfl, rfl⟩ | ⟨m, rfl, rfl⟩
  · have hm : m = [] := by
      rw [List.length_append] at hle
      exact List.length_eq_zero_iff.1 (by omega)
    subst hm
    exact ⟨[], by simp, List.nil_prefix⟩
  · exact ⟨m, rfl, List.prefix_append ..⟩

/-- What is left of such bytes is such bytes. -/
lemma Cut.shorter {l : Attributes} {p p' : ByteString} (h : Cut l p) (hp : p' <+: p) :
    Cut l p' := by
  induction h generalizing p' with
  | nil =>
    rw [List.prefix_nil.1 hp]
    exact .nil
  | skip _ ih => exact .skip (ih hp)
  | type h => exact .type (lt_of_le_of_lt hp.length_le h)
  | @value t a l q hlt h =>
    by_cases h8 : p'.length < 8
    · exact .type h8
    obtain ⟨q', rfl, hq⟩ := prefix_append hp (by rw [length_ofULong]; omega)
    exact .value (lt_of_le_of_lt hq.length_le hlt) fun q'' hq'' => h q'' (hq''.trans hq)
  | @whole t a l p ha h ih =>
    by_cases h8 : p'.length < 8
    · exact .type h8
    obtain ⟨q, rfl, hq⟩ := prefix_append hp (by rw [length_ofULong]; omega)
    by_cases hle : (valueBytes a).length ≤ q.length
    · obtain ⟨p'', rfl, hp''⟩ := prefix_append hq hle
      exact .whole ha (ih hp'')
    · have hlt := not_le.1 hle
      have hqa : q <+: valueBytes a :=
        List.prefix_of_prefix_length_le hq (List.prefix_append ..) hlt.le
      refine .value hlt fun q' hq' => ?_
      obtain ⟨t', ht'⟩ := hq'.trans hqa
      refine (reads_readAttribute ha).short q' t' false ht' fun hnil => ?_
      have hlen := hq'.length_le
      rw [← ht', hnil, List.append_nil] at hlt
      omega

/-- A map of maps is refused behind its tag. -/
lemma writeAttribute_refuses (t : CK_ATTRIBUTE_TYPE) {a : OSAttribute} (he : ¬ Encodable a)
    (s : Sink) : ((writeAttribute (t, some a)).write s).1 = false ∧
      ∃ p, p <+: ofULong t ++ ofULong ATTRMAP_ATTR ∧
        ((writeAttribute (t, some a)).write s).2.handed = s.handed ++ p := by
  cases a with
  | attributeMap value =>
    have hnone : mapLength value = none := Option.not_isSome_iff_eq_none.1 he
    have hw : writeAttribute (t, some (.attributeMap value)) =
        ((writeULong t).andThen (writeULong ATTRMAP_ATTR)).andThen refuse := by
      rw [andThen_assoc]
      change (writeULong t).andThen ((writeULong ATTRMAP_ATTR).andThen (writeAttributeMap value)) = _
      rw [writeAttributeMap, hnone]
    rw [hw]
    exact ((writes_writeULong t).andThen (writes_writeULong ATTRMAP_ATTR)).andThen_refuse s
  | _ => exact absurd trivial he

lemma cut_refused (t : CK_ATTRIBUTE_TYPE) {a : OSAttribute} (he : ¬ Encodable a)
    (l : Attributes) : Cut ((t, some a) :: l) (ofULong t ++ ofULong ATTRMAP_ATTR) := by
  cases a with
  | attributeMap value =>
    refine .value ?_ fun q' hq' => ?_
    · simp only [valueBytes, attributeMapBytes, List.length_append, length_ofULong]
      omega
    · obtain ⟨t', ht'⟩ := hq'
      by_cases hnil : t' = []
      · rw [hnil, List.append_nil] at ht'
        have hread := (reads_readULong ATTRMAP_ATTR).whole [] false
        rw [List.append_nil] at hread
        rw [ht', readAttribute, read_bind, hread]
        rfl
      · rw [readAttribute, read_bind, (reads_readULong ATTRMAP_ATTR).short q' t' false ht' hnil]
  | _ => exact absurd trivial he

/-- The writers of the attributes leave such bytes, wherever the device fails. -/
lemma cut_each {l : Attributes} (hl : ∀ i ∈ l, ∀ a, i.2 = some a → Representable a) (s : Sink) :
    ∃ p, ((each writeAttribute l).write s).2.handed = s.handed ++ p ∧ Cut l p := by
  induction l generalizing s with
  | nil => exact ⟨[], (List.append_nil _).symm, .nil⟩
  | cons i l ih =>
    have ih := ih fun i' hi' => hl i' (List.mem_cons_of_mem _ hi')
    obtain ⟨t, _ | a⟩ := i
    · obtain ⟨p, hp, hc⟩ := ih s
      exact ⟨p, hp, .skip hc⟩
    have ha : Representable a := hl (t, some a) (List.mem_cons_self ..) a rfl
    by_cases he : Encodable a
    · have hst := ha.storable he
      have hw : Writes (writeAttribute (t, some a)) (ofULong t ++ valueBytes a) :=
        writes_writeAttribute fun a' ha' => Option.some.inj ha' ▸ he
      rw [each, write_andThen]
      rcases hws : (writeAttribute (t, some a)).write s with ⟨_ | _, s'⟩
      · rcases hw.part s with ⟨htrue, -⟩ | ⟨-, p, hp, hh⟩
        · rw [hws] at htrue
          cases htrue
        · rw [hws] at hh
          refine ⟨p, hh, Cut.shorter (.whole hst (cut_nil l)) ?_⟩
          rwa [List.append_nil]
      · rcases hw.part s with ⟨-, hh⟩ | ⟨hfalse, -⟩
        · rw [hws] at hh
          obtain ⟨p, hp, hc⟩ := ih s'
          refine ⟨ofULong t ++ (valueBytes a ++ p), ?_, .whole hst hc⟩
          rw [hp, hh, List.append_assoc, List.append_assoc]
        · rw [hws] at hfalse
          cases hfalse
    · obtain ⟨hfalse, p, hp, hh⟩ := writeAttribute_refuses t he s
      rw [each, write_andThen]
      rcases hws : (writeAttribute (t, some a)).write s with ⟨_ | _, s'⟩
      · rw [hws] at hh
        exact ⟨p, hh, Cut.shorter (cut_refused t he l) hp⟩
      · rw [hws] at hfalse
        cases hfalse

/-! ### Reading what a failed write leaves -/

lemma survive_zero (l : Attributes) : survive l 0 = (true, []) := by
  induction l with
  | nil => rfl
  | cons i l ih =>
    obtain ⟨t, _ | a⟩ := i
    · exact ih
    · rfl

lemma survive_sublist (l : Attributes) (n : ℕ) : (survive l n).2.Sublist l := by
  induction l generalizing n with
  | nil => exact List.Sublist.refl _
  | cons i l ih =>
    obtain ⟨t, _ | a⟩ := i
    · exact (ih n).cons _
    rw [survive]
    split
    · exact List.nil_sublist _
    split
    · exact List.nil_sublist _
    · exact (ih _).cons_cons _

lemma readULong_short {s : Stream} (h : s.rest.length < 8) :
    readULong.read s = (none, ⟨[], true⟩) := by
  rw [readULong, read_bind, read_fread, if_neg (by omega)]

/-- **What survives.** A reader takes the attributes that are whole. -/
lemma readAttributes_cut {l : Attributes} {p : ByteString} (h : Cut l p) (acc : Attributes) :
    readAttributes ⟨p, false⟩ acc = ((survive l p.length).1,
      (survive l p.length).2.foldl (fun m i => OrderedMap.put i.1 i.2 m) acc) := by
  induction h generalizing acc with
  | nil => exact readAttributes_nil acc
  | skip _ ih => exact ih acc
  | type h =>
    rw [survive, if_pos h]
    exact readAttributes_short rfl (readULong_short h) acc
  | @value t a l q hlt h =>
    have hlen : (ofULong t ++ q).length = 8 + q.length := by
      rw [List.length_append, length_ofULong]
    rw [hlen, survive, if_neg (by omega), if_pos (by omega)]
    exact readAttributes_corrupt rfl ((reads_readULong t).whole q false)
      (h q List.prefix_rfl) acc
  | @whole t a l p ha _ ih =>
    have hlen : (ofULong t ++ (valueBytes a ++ p)).length =
        8 + (valueBytes a).length + p.length := by
      rw [List.length_append, List.length_append, length_ofULong, Nat.add_assoc]
    rw [readAttributes_step rfl ((reads_readULong t).whole _ false)
      ((reads_readAttribute ha).whole _ false), ih, hlen, survive, if_neg (by omega),
      if_neg (by omega), Nat.add_sub_cancel_left]
    rfl

/-- What is read depends on the bytes only. -/
lemma load_parse (o : ObjectFile) {bytes : ByteString} (hne : bytes ≠ []) :
    (o.load bytes).valid = (parse bytes).1 ∧ (o.load bytes).attributes = (parse bytes).2 := by
  rw [parse, refresh_first rfl false hne]
  unfold load
  rcases readULong.read ⟨bytes, false⟩ with ⟨_ | g, s⟩
  · dsimp only
    split
    · exact ⟨rfl, rfl⟩
    · exact ⟨rfl, rfl⟩
  · exact ⟨rfl, rfl⟩

/-- The first bytes of a new file. -/
lemma parse_shorter {l : Attributes} {p file : ByteString} {g : UInt64}
    (hs : OrderedMap.Sorted l) (hc : Cut l p) (hf : file <+: ofULong g ++ p) :
    parse file = survive l (file.length - 8) := by
  by_cases h8 : file.length < 8
  · have hzero : file.length - 8 = 0 := by omega
    rw [hzero, survive_zero]
    rcases file with _ | ⟨b, file⟩
    · rfl
    · rw [parse, refresh_first rfl false (List.cons_ne_nil b file), load, readULong_short h8]
      simp only [Bool.not_true, Bool.false_eq_true, if_false, readAttributes_eof]
  · obtain ⟨p', rfl, hp'⟩ := prefix_append hf (by rw [length_ofULong]; omega)
    have hlen : (ofULong g ++ p').length - 8 = p'.length := by
      rw [List.length_append, length_ofULong, Nat.add_sub_cancel_left]
    have hsorted : OrderedMap.Sorted ([] ++ (survive l p'.length).2) :=
      hs.sublist (survive_sublist l _)
    unfold parse
    rw [refresh_bytes rfl (.inl rfl), readAttributes_cut (Cut.shorter hc hp'),
      OrderedMap.foldl_put hsorted, hlen]
    rfl

/-- A new file, or as much of it as the device keeps. -/
lemma writeBytes_cut (d : Device) (g : UInt64) {l : Attributes}
    (hl : ∀ i ∈ l, ∀ a, i.2 = some a → Representable a) :
    ∃ p, Cut l p ∧ (writeBytes d g l).2 <+: ofULong g ++ p := by
  have hreach : ∀ handed, d.reach handed <+: handed := by
    intro handed
    unfold Device.reach
    split
    · exact List.prefix_rfl
    · exact List.take_prefix ..
  have hpart := (writes_writeULong g).part ⟨[], d.writes⟩
  unfold writeBytes
  rw [write_andThen]
  rcases hw : (writeULong g).write ⟨[], d.writes⟩ with ⟨_ | _, s⟩
  · rw [hw] at hpart
    rcases hpart with ⟨ht, -⟩ | ⟨-, q, hq, hh⟩
    · cases ht
    · refine ⟨[], cut_nil l, (hreach s.handed).trans ?_⟩
      rw [List.append_nil]
      exact hh ▸ hq
  · rw [hw] at hpart
    rcases hpart with ⟨-, hh⟩ | ⟨hf, -⟩
    · obtain ⟨p, hp, hc⟩ := cut_each hl s
      refine ⟨p, hc, (hreach _).trans ?_⟩
      rw [hp, hh]
      exact List.prefix_rfl
    · cases hf

/-! ### Inside a transaction -/

/-- The object is in a transaction, and has not failed. -/
structure Open (o : ObjectFile) : Prop where
  valid : o.valid = true
  inTransaction : o.inTransaction = true
  lock : o.transactionLockFile = true

def editAttributes (l : Attributes) : Edit → Attributes
  | .setAttribute _ type attr => OrderedMap.put type (some attr) l
  | .deleteAttribute _ type =>
    match OrderedMap.get type l with
    | none | some none => OrderedMap.put type none l
    | some (some _) => OrderedMap.erase type l

lemma sorted_editAttributes {l : Attributes} (h : OrderedMap.Sorted l) (e : Edit) :
    OrderedMap.Sorted (editAttributes l e) := by
  cases e with
  | setAttribute d type attr => exact OrderedMap.sorted_put h _ _
  | deleteAttribute d type =>
    rcases hg : OrderedMap.get type l with _ | _ | a
    · simpa only [editAttributes, hg] using OrderedMap.sorted_put h _ _
    · simpa only [editAttributes, hg] using OrderedMap.sorted_put h _ _
    · simpa only [editAttributes, hg] using OrderedMap.sorted_erase h _

/-- Inside a transaction a call changes the attributes in memory, and nothing else. -/
lemma edit_eq {o : ObjectFile} (h : Open o) (file : ByteString) (e : Edit) :
    edit (o, file) e = ({ o with attributes := editAttributes o.attributes e }, file) := by
  obtain ⟨gen, l, _, _, _⟩ := o
  obtain ⟨rfl, rfl, rfl⟩ := h
  cases e with
  | setAttribute d type attr => rfl
  | deleteAttribute d type =>
    rcases hg : OrderedMap.get type l with _ | _ | a
    · simp [edit, deleteAttribute, editAttributes, hg]
    · simp [edit, deleteAttribute, editAttributes, hg]
    · simp [edit, deleteAttribute, editAttributes, hg, store]

lemma edits_eq {o : ObjectFile} (h : Open o) (file : ByteString) (edits : List Edit) :
    edits.foldl edit (o, file) =
      ({ o with attributes := edits.foldl editAttributes o.attributes }, file) := by
  induction edits generalizing o with
  | nil => rfl
  | cons e edits ih =>
    rw [List.foldl_cons, edit_eq h]
    exact ih ⟨h.valid, h.inTransaction, h.lock⟩

lemma sorted_edits {l : Attributes} (h : OrderedMap.Sorted l) (edits : List Edit) :
    OrderedMap.Sorted (edits.foldl editAttributes l) := by
  induction edits generalizing l with
  | nil => exact h
  | cons e edits ih => exact ih (sorted_editAttributes h e)

lemma sorted_readAttributes (s : Stream) {l : Attributes} (h : OrderedMap.Sorted l) :
    OrderedMap.Sorted (readAttributes s l).2 := by
  induction s, l using readAttributes.induct with
  | case1 s l heof => rwa [readAttributes_eof heof]
  | case2 s l heof s₁ hp => rwa [readAttributes_short (by simpa using heof) hp]
  | case3 s l heof t s₁ hp s₂ ha => rwa [readAttributes_corrupt (by simpa using heof) hp ha]
  | case4 s l heof t s₁ hp a s₂ ha ih =>
    rw [readAttributes_step (by simpa using heof) hp ha]
    exact ih (OrderedMap.sorted_put h _ _)

lemma sorted_parse (bytes : ByteString) : OrderedMap.Sorted (parse bytes).2 := by
  by_cases hne : bytes = []
  · subst hne
    exact OrderedMap.sorted_nil
  · rw [← (load_parse ⟨⟨0, false⟩, [], true, false, false⟩ hne).2]
    unfold load
    rcases readULong.read ⟨bytes, false⟩ with ⟨_ | g, s⟩
    · dsimp only
      split
      · exact OrderedMap.sorted_nil
      · exact sorted_readAttributes s OrderedMap.sorted_nil
    · exact sorted_readAttributes s OrderedMap.sorted_nil

/-- **What a transaction starts from**: the attributes of the file, unless that is empty. -/
lemma start_cases {o o₁ : ObjectFile} {locks : Bool} {file : ByteString}
    (hs : OrderedMap.Sorted o.attributes)
    (h : o.startTransaction locks (some file) = (true, o₁)) :
    Open o₁ ∧ OrderedMap.Sorted o₁.attributes ∧ (parse file).1 = true := by
  unfold startTransaction at h
  split at h
  · cases h
  rename_i hin
  split at h
  · cases h
  dsimp only at h
  split at h
  · cases h
  rename_i hvalid
  cases h
  have hin' : o.inTransaction = false := by simpa using hin
  have hvalid' : (o.refresh true false (some file)).valid = true := by simpa using hvalid
  refine ⟨⟨hvalid', rfl, rfl⟩, ?_⟩
  by_cases hne : file = []
  · subst hne
    refine ⟨?_, rfl⟩
    unfold refresh
    rw [hin']
    exact hs
  · have hload := refresh_first hin' false hne
    obtain ⟨hv, hl⟩ := load_parse o hne
    refine ⟨?_, ?_⟩
    · change OrderedMap.Sorted (o.refresh true false (some file)).attributes
      rw [hload, hl]
      exact sorted_parse file
    · rw [← hv, ← hload]
      exact hvalid'

/-! ### All or nothing -/

/-- Nothing is left of a transaction that began with the file `before`. -/
structure Undone (before : ByteString) (o : ObjectFile) (file : ByteString) : Prop where
  file : parse file = (true, (parse before).2)
  attributes : present o.attributes = present (parse before).2
  inTransaction : o.inTransaction = false
  lock : o.transactionLockFile = false

/-- How many bytes of the new file the device keeps. -/
def kept (d : Device) (file : ByteString) (o : ObjectFile) : ℕ :=
  (writeBytes d (o.newGen file) o.attributes).2.length

/-- The transaction is aborted in the end. Where the file is not cut yet it holds something, or
the object nothing; where it is, what the device keeps of the new attributes are the old ones. -/
def Harmless (file : ByteString) (o : ObjectFile) : Ending → Prop
  | .abort => file ≠ [] ∨ present o.attributes = []
  | .commit d aborts => aborts = true ∧
    if d.opens && d.syncs && d.truncates then
      survive o.attributes (kept d file o - 8) = (true, (parse file).2) ∧
        (kept d file o = 0 → present o.attributes = [])
    else file ≠ [] ∨ present o.attributes = []

/-- **What an abort brings back**: what the file holds, unless it is empty. -/
lemma undone_abort {before file : ByteString} {o : ObjectFile} (hin : o.inTransaction = true)
    (hlock : o.transactionLockFile = true) :
    Undone before (o.abortTransaction (some file)).2 file ↔
      parse file = (true, (parse before).2) ∧ (file = [] → present o.attributes = []) := by
  have habort : o.abortTransaction (some file) =
      (true, ({ o with transactionLockFile := false, inTransaction := false } :
        ObjectFile).refresh true false (some file)) := by
    unfold abortTransaction
    rw [hin, hlock]
    rfl
  rw [habort]
  by_cases hne : file = []
  · subst hne
    constructor
    · intro h
      have hnil : (parse before).2 = [] := (congrArg Prod.snd h.file).symm
      exact ⟨h.file, fun _ => h.attributes.trans (by rw [hnil]; rfl)⟩
    · rintro ⟨hfile, hmem⟩
      have hnil : (parse before).2 = [] := (congrArg Prod.snd hfile).symm
      refine ⟨hfile, (hmem rfl).trans ?_, rfl, rfl⟩
      rw [hnil]
      rfl
  · rw [refresh_first rfl false hne]
    obtain ⟨-, hl⟩ := load_parse { o with transactionLockFile := false, inTransaction := false } hne
    refine ⟨fun h => ⟨h.file, fun hnil => absurd hnil hne⟩, fun ⟨hfile, _⟩ => ⟨hfile, ?_, ?_, ?_⟩⟩
    · rw [hl, hfile]
    · unfold load
      rcases readULong.read ⟨file, false⟩ with ⟨_ | g, s⟩
      · dsimp only
        split <;> rfl
      · rfl
    · unfold load
      rcases readULong.read ⟨file, false⟩ with ⟨_ | g, s⟩
      · dsimp only
        split <;> rfl
      · rfl

/-- A commit that fails before the file is cut leaves it; one that fails later leaves what the
device keeps. -/
lemma commit_fails {o : ObjectFile} (h : Open o) {d : Device} {file : ByteString}
    (hf : (o.commitTransaction d file).1 = false) : ∃ gen,
    o.commitTransaction d file = (false, { o with gen := gen, valid := false },
      if d.opens && d.syncs && d.truncates then
        (writeBytes d (o.newGen file) o.attributes).2 else file) := by
  obtain ⟨opens, syncs, truncates, writes, reached⟩ := d
  obtain ⟨gen, l, _, _, _⟩ := o
  obtain ⟨rfl, rfl, rfl⟩ := h
  rcases opens with _ | _
  · exact ⟨_, rfl⟩
  rcases syncs with _ | _
  · exact ⟨_, rfl⟩
  rcases truncates with _ | _
  · exact ⟨_, rfl⟩
  obtain ⟨gen', hw, -⟩ := writeAttributes_eq (d := ⟨true, true, true, writes, reached⟩) rfl rfl file
    ⟨gen, l, true, true, true⟩
  rcases hb : (writeBytes ⟨true, true, true, writes, reached⟩
      (newGen file ⟨gen, l, true, true, true⟩) l).1 with _ | _
  · refine ⟨gen', ?_⟩
    unfold commitTransaction store
    simp [hw, hb]
  · unfold commitTransaction store at hf
    simp [hw, hb] at hf

lemma finish_undone_iff {o : ObjectFile} (h : Open o) (hs : OrderedMap.Sorted o.attributes)
    (hrep : ∀ i ∈ o.attributes, ∀ a, i.2 = some a → Representable a) {file : ByteString}
    (hgood : (parse file).1 = true) {e : Ending} (hfail : (o.finish file e).1 = false) :
    Undone file (o.finish file e).2.1 (o.finish file e).2.2 ↔ Harmless file o e := by
  have hsame : parse file = (true, (parse file).2) := Prod.ext hgood rfl
  have huncut : (parse file = (true, (parse file).2) ∧ (file = [] → present o.attributes = [])) ↔
      file ≠ [] ∨ present o.attributes = [] := by
    rw [← imp_iff_not_or]
    exact and_iff_right hsame
  cases e with
  | abort => exact (undone_abort h.inTransaction h.lock).trans huncut
  | commit d aborts =>
    rcases hc : o.commitTransaction d file with ⟨_ | _, o', file'⟩
    swap
    · rw [finish, hc] at hfail
      cases hfail
    obtain ⟨gen, hfails⟩ := commit_fails (o := o) (d := d) h (show (o.commitTransaction d file).1 = false by rw [hc])
    rw [hc] at hfails
    cases hfails
    rw [finish, hc]
    cases aborts with
    | false =>
      refine iff_of_false (fun hu => ?_) fun hh => nomatch hh.1
      have hin : o.inTransaction = false := hu.inTransaction
      rw [h.inTransaction] at hin
      cases hin
    | true =>
      refine (undone_abort (o := { o with gen := gen, valid := false }) h.inTransaction
        h.lock).trans (Iff.trans ?_ (and_iff_right rfl).symm)
      split
      · obtain ⟨p, hcut, hpre⟩ := writeBytes_cut d (o.newGen file) hrep
        rw [parse_shorter hs hcut hpre]
        exact and_congr_right fun _ => imp_congr_left List.length_eq_zero_iff.symm
      · exact huncut

/-- **All or nothing.** For any calls in a transaction and any way to end it that does not
commit: the file, the attributes, the transaction and the lock are as they were before if and
only if the failure is harmless. -/
theorem undone_iff {o o₁ : ObjectFile} {locks : Bool} {file : ByteString} {edits : List Edit}
    {e : Ending} (hs : OrderedMap.Sorted o.attributes)
    (hstart : o.startTransaction locks (some file) = (true, o₁))
    (hrep : ∀ i ∈ (edits.foldl edit (o₁, file)).1.attributes, ∀ a, i.2 = some a → Representable a)
    (hfail : ((edits.foldl edit (o₁, file)).1.finish file e).1 = false) :
    (edits.foldl edit (o₁, file)).2 = file ∧
    (Undone file ((edits.foldl edit (o₁, file)).1.finish file e).2.1
      ((edits.foldl edit (o₁, file)).1.finish file e).2.2 ↔
        Harmless file (edits.foldl edit (o₁, file)).1 e) := by
  obtain ⟨hopen, hs₁, hgood⟩ := start_cases hs hstart
  rw [edits_eq hopen] at hrep hfail ⊢
  have hopen₂ : Open { o₁ with attributes := edits.foldl editAttributes o₁.attributes } :=
    ⟨hopen.valid, hopen.inTransaction, hopen.lock⟩
  exact ⟨rfl, finish_undone_iff hopen₂ (sorted_edits hs₁ edits) hrep hgood hfail⟩

/-- An object with one attribute. -/
def one : ByteString := ofULong 1 ++ attributeBytes (0, some (.boolean true))

lemma parse_one : parse one = (true, [(0, some (.boolean true))]) := by
  have hread := readAttributes_append (l := [(0, some (.boolean true))])
    (fun i hi a ha => by cases List.mem_singleton.1 hi; cases ha; trivial) [] []
  rw [readAttributes_nil] at hread
  unfold parse one
  rw [refresh_bytes rfl (.inl rfl)]
  exact Prod.ext (congrArg Prod.fst hread) (congrArg Prod.snd hread)

/-- A new object. -/
def created : ObjectFile := ⟨⟨0, false⟩, [], true, false, false⟩

lemma start_one : created.startTransaction true (some one) =
    (true, ⟨⟨1, false⟩, [(0, some (.boolean true))], true, true, true⟩) := by
  have hrefresh : created.refresh true false (some one) =
      ⟨⟨1, false⟩, [(0, some (.boolean true))], true, false, false⟩ := by
    have hread := readAttributes_append (l := [(0, some (.boolean true))])
      (fun i hi a ha => by cases List.mem_singleton.1 hi; cases ha; trivial) [] []
    rw [readAttributes_nil] at hread
    rw [one, created, refresh_bytes rfl (.inl rfl)]
    rw [List.flatMap_cons, List.flatMap_nil, List.append_nil, List.append_nil] at hread
    rw [hread]
    rfl
  unfold startTransaction
  rw [hrefresh]
  rfl

/-- A commit that cannot cut the file, and an abort after it. -/
theorem undone_iff_uncut : ∃ o₁, created.startTransaction true (some one) = (true, o₁) ∧
    Undone one
      (([Edit.setAttribute .works 1 (.boolean false)].foldl edit (o₁, one)).1.finish one
        (.commit ⟨true, true, false, none, none⟩ true)).2.1
      (([Edit.setAttribute .works 1 (.boolean false)].foldl edit (o₁, one)).1.finish one
        (.commit ⟨true, true, false, none, none⟩ true)).2.2 := by
  refine ⟨_, start_one, (undone_iff OrderedMap.sorted_nil start_one ?_ rfl).2.2 ⟨rfl, .inl ?_⟩⟩
  · intro i hi a ha
    change i ∈ [(0, some (.boolean true)), (1, some (.boolean false))] at hi
    simp only [List.mem_cons, List.not_mem_nil, or_false] at hi
    rcases hi with rfl | rfl <;> cases ha <;> trivial
  · exact List.cons_ne_nil _ _

/-- The device is full once the file is cut: the attribute is gone, and the object stays in its
transaction with the lock. -/
theorem saveTemplate_loses_object : ∃ o', saveTemplate ⟨true, true, true, some 0, some 0⟩ true [] none
      one created = (CKR_GENERAL_ERROR, o', []) ∧ o'.inTransaction = true ∧
    o'.transactionLockFile = true ∧ parse one = (true, [(0, some (.boolean true))]) ∧
    parse [] = (true, []) := by
  unfold saveTemplate
  rw [start_one]
  exact ⟨_, rfl, rfl, rfl, parse_one, rfl⟩

end ObjectFile

end SoftHSM
