import SoftHSM.ObjectStore.File

/-!
An object and its file: `refresh` reads the file into the attributes of the object, and
`writeAttributes` writes them over the file.
-/

namespace SoftHSM

open Codec Codec.Reader Codec.Writer ByteString File

/-! ### Generation -/

structure Generation where
  currentValue : UInt64
  pendingUpdate : Bool

namespace Generation

def update (gen : Generation) : Generation := { gen with pendingUpdate := true }

/-- The next value, which is never 0. -/
def get (gen : Generation) : UInt64 × Generation :=
  let next := if gen.currentValue + 1 = 0 then 1 else gen.currentValue + 1
  (next, ⟨next, false⟩)

def rollback (gen : Generation) : Generation :=
  ⟨if gen.currentValue ≠ 1 then gen.currentValue - 1 else gen.currentValue, true⟩

def set (onDisk : UInt64) (gen : Generation) : Generation := { gen with currentValue := onDisk }

/-- `wasUpdated`: `none` is a file that is not there, or cannot be opened. -/
def wasUpdated (file : Option ByteString) (gen : Generation) : Bool :=
  match file with
  | none => true
  | some bytes =>
    match (readULong.read ⟨bytes, false⟩).1 with
    | none => true
    | some onDisk => onDisk ≠ gen.currentValue

/-- `sync`: the value on disk, 0 at the end of the file. It fails where `syncs` says so. -/
def sync (syncs : Bool) (file : ByteString) (gen : Generation) : Bool × Generation :=
  if !syncs then (false, gen)
  else (true, { gen with currentValue := (readULong.read ⟨file, false⟩).1.getD 0 })

end Generation

/-- The attributes of an object: a type may come without one. -/
abbrev Attributes := List (CK_ATTRIBUTE_TYPE × Option OSAttribute)

structure ObjectFile where
  gen : Generation
  attributes : Attributes
  valid : Bool
  inTransaction : Bool
  /-- `transactionLockFile` is there, and holds its lock -/
  transactionLockFile : Bool

namespace ObjectFile

/-! ### Tags -/

def BOOLEAN_ATTR : UInt64 := 1
def ULONG_ATTR : UInt64 := 2
def BYTESTR_ATTR : UInt64 := 3
def ATTRMAP_ATTR : UInt64 := 4
def MECHSET_ATTR : UInt64 := 5

/-! ### Reading -/

/-- The kind of an attribute and its value. -/
def readAttribute : Reader OSAttribute := do
  let osAttrType ← readULong
  if osAttrType = BOOLEAN_ATTR then return .boolean (← readBool)
  else if osAttrType = ULONG_ATTR then return .unsignedLong (← readULong)
  else if osAttrType = BYTESTR_ATTR then return .byteString (← readByteString)
  else if osAttrType = MECHSET_ATTR then return .mechanismTypeSet (← readMechanismTypeSet)
  else if osAttrType = ATTRMAP_ATTR then return .attributeMap (← readAttributeMap)
  else fail

lemma shrinks_readAttribute : Shrinks readAttribute := by
  refine shrinks_readULong.bind fun osAttrType => ?_
  split
  · exact shrinks_readBool.bind fun _ => shrinks_pure _
  split
  · exact shrinks_readULong.bind fun _ => shrinks_pure _
  split
  · exact shrinks_readByteString.bind fun _ => shrinks_pure _
  split
  · exact shrinks_readMechanismTypeSet.bind fun _ => shrinks_pure _
  split
  · exact shrinks_readAttributeMap.bind fun _ => shrinks_pure _
  · exact shrinks_fail

/-- A number takes eight bytes. -/
lemma readULong_length {s s' : Stream} {v : UInt64} (h : readULong.read s = (some v, s')) :
    s'.rest.length + 8 = s.rest.length := by
  unfold readULong at h
  rw [read_bind] at h
  rcases hr : (fread 8).read s with ⟨_ | b, t⟩
  · rw [hr] at h
    cases h
  · rw [hr] at h
    cases h
    exact fread_length hr

/-- The loop of `refresh`: whether the object is valid after it, and its attributes. -/
def readAttributes (s : Stream) (attributes : Attributes) : Bool × Attributes :=
  if s.eof then (true, attributes)
  else
    match _hp : readULong.read s with
    | (none, s₁) => (s₁.eof, attributes)
    | (some p11AttrType, s₁) =>
      match _ha : readAttribute.read s₁ with
      | (none, _) => (false, attributes)
      | (some attr, s₂) => readAttributes s₂ (OrderedMap.put p11AttrType (some attr) attributes)
  termination_by s.rest.length
  decreasing_by
    have h8 := readULong_length _hp
    have hle := shrinks_readAttribute s₁
    rw [_ha] at hle
    simp only at hle
    omega

def discardAttributes (o : ObjectFile) : ObjectFile := { o with attributes := [] }

def invalidate (o : ObjectFile) : ObjectFile := discardAttributes { o with valid := false }

/-- The rest of `refresh`, from where the old attributes are discarded. -/
def load (bytes : ByteString) (o : ObjectFile) : ObjectFile :=
  let finish (gen : Generation) (s : Stream) : ObjectFile :=
    let (valid, attributes) := readAttributes s []
    { o with gen := gen, attributes := attributes, valid := valid }
  match readULong.read ⟨bytes, false⟩ with
  | (none, s) => if !s.eof then { o with attributes := [], valid := false } else finish o.gen s
  | (some curGen, s) => finish (o.gen.set curGen) s

/-- `refresh` on the bytes of the file, if it can be opened. The index of the token may find
that the file is gone. -/
def refresh (isFirstTime gone : Bool) (file : Option ByteString) (o : ObjectFile) : ObjectFile :=
  if o.inTransaction then o
  else
    let o := if !isFirstTime && gone then o.invalidate else o
    if !isFirstTime && !o.gen.wasUpdated file then o
    else
      match file with
      | none => { o with valid := false }
      | some bytes => if bytes.isEmpty then o else o.load bytes

/-! ### Writing -/

def writeAttribute (i : CK_ATTRIBUTE_TYPE × Option OSAttribute) : Writer :=
  match i.2 with
  | none => done
  | some attr =>
    (writeULong i.1).andThen <|
      match attr with
      | .boolean value => (writeULong BOOLEAN_ATTR).andThen (writeBool value)
      | .unsignedLong value => (writeULong ULONG_ATTR).andThen (writeULong value)
      | .byteString value => (writeULong BYTESTR_ATTR).andThen (writeByteString value)
      | .mechanismTypeSet value => (writeULong MECHSET_ATTR).andThen (writeMechanismTypeSet value)
      | .attributeMap value => (writeULong ATTRMAP_ATTR).andThen (writeAttributeMap value)

/-- What the device does to a write: whether the file can be opened, the generation be read and
the file be cut, how many calls of `fwrite` succeed if not all, and how many of the bytes get to
the disk if not all. -/
structure Device where
  opens : Bool
  syncs : Bool
  truncates : Bool
  writes : Option ℕ
  reached : Option ℕ

/-- A device that works. -/
def Device.works : Device := ⟨true, true, true, none, none⟩

def Device.reach (d : Device) (handed : ByteString) : ByteString :=
  match d.reached with
  | none => handed
  | some n => handed.take n

/-- `writeAttributes`: its answer, the object and the bytes of the file. -/
def writeAttributes (d : Device) (file : ByteString) (o : ObjectFile) :
    Bool × ObjectFile × ByteString :=
  let (synced, gen) := o.gen.sync d.syncs file
  if !synced then (false, { o with gen := gen }, file)
  else if !d.truncates then (false, { o with gen := gen }, file)
  else
    let (newGen, gen) := gen.update.get
    match (writeULong newGen).write ⟨[], d.writes⟩ with
    | (false, s) => (false, { o with gen := gen.rollback }, d.reach s.handed)
    | (true, s) =>
      let (ok, s) := (each writeAttribute o.attributes).write s
      (ok, { o with gen := gen }, d.reach s.handed)

/-- `store` outside of a transaction, and from `commitTransaction`. -/
def store (d : Device) (isCommit : Bool) (file : ByteString) (o : ObjectFile) :
    ObjectFile × ByteString :=
  if !isCommit && o.inTransaction then (o, file)
  else if !o.valid then (o, file)
  else if !d.opens then ({ o with valid := false }, file)
  else
    let (ok, o, file) := o.writeAttributes d file
    ({ o with valid := ok }, file)

/-! ### The bytes of an attribute -/

/-- What a file can hold: lengths that fit, and maps in order whose attributes are no maps. -/
def Storable : OSAttribute → Prop
  | .boolean _ => True
  | .unsignedLong _ => True
  | .byteString value => value.length < 2 ^ 64
  | .mechanismTypeSet value => value.card < 2 ^ 64
  | .attributeMap value => OrderedMap.Sorted value ∧ ∃ len, mapLength value = some len ∧ len < 2 ^ 64

def valueBytes : OSAttribute → ByteString
  | .boolean value => ofULong BOOLEAN_ATTR ++ [if value then 0xFF else 0x00]
  | .unsignedLong value => ofULong ULONG_ATTR ++ ofULong value
  | .byteString value => ofULong BYTESTR_ATTR ++ value.serialise
  | .mechanismTypeSet value => ofULong MECHSET_ATTR ++ mechanismTypeSetBytes value
  | .attributeMap value =>
    ofULong ATTRMAP_ATTR ++ attributeMapBytes ((mapLength value).getD 0) value

def attributeBytes (i : CK_ATTRIBUTE_TYPE × Option OSAttribute) : ByteString :=
  match i.2 with
  | none => []
  | some attr => ofULong i.1 ++ valueBytes attr

/-- **An attribute** comes back from its bytes, whichever kind it is of. -/
lemma reads_readAttribute {a : OSAttribute} (h : Storable a) :
    Reads readAttribute (valueBytes a) a := by
  cases a with
  | boolean value =>
    exact (reads_readULong BOOLEAN_ATTR).bind ((reads_readBool value).bind_pure OSAttribute.boolean)
  | unsignedLong value =>
    exact (reads_readULong ULONG_ATTR).bind
      ((reads_readULong value).bind_pure OSAttribute.unsignedLong)
  | byteString value =>
    exact (reads_readULong BYTESTR_ATTR).bind
      ((reads_readByteString h).bind_pure OSAttribute.byteString)
  | mechanismTypeSet value =>
    exact (reads_readULong MECHSET_ATTR).bind
      ((reads_readMechanismTypeSet h).bind_pure OSAttribute.mechanismTypeSet)
  | attributeMap value =>
    obtain ⟨hs, len, hlen, hlt⟩ := h
    rw [valueBytes, hlen, Option.getD_some]
    exact (reads_readULong ATTRMAP_ATTR).bind
      ((reads_readAttributeMap hlen hlt hs).bind_pure OSAttribute.attributeMap)

/-- An attribute that is no map of maps is written. -/
def Encodable : OSAttribute → Prop
  | .attributeMap value => (mapLength value).isSome
  | _ => True

lemma Storable.encodable {a : OSAttribute} (h : Storable a) : Encodable a := by
  cases a with
  | attributeMap value =>
    obtain ⟨-, len, hlen, -⟩ := h
    exact Option.isSome_iff_exists.2 ⟨len, hlen⟩
  | _ => trivial

lemma writes_writeAttribute {i : CK_ATTRIBUTE_TYPE × Option OSAttribute}
    (h : ∀ a, i.2 = some a → Encodable a) : Writes (writeAttribute i) (attributeBytes i) := by
  obtain ⟨t, _ | a⟩ := i
  · exact Writes.done
  refine (writes_writeULong t).andThen ?_
  cases a with
  | boolean value => exact (writes_writeULong _).andThen (Writes.fwrite _)
  | unsignedLong value => exact (writes_writeULong _).andThen (writes_writeULong _)
  | byteString value => exact (writes_writeULong _).andThen (Writes.fwrite _)
  | mechanismTypeSet value => exact (writes_writeULong _).andThen (writes_writeMechanismTypeSet _)
  | attributeMap value =>
    obtain ⟨len, hlen⟩ := Option.isSome_iff_exists.1 (h _ rfl)
    rw [valueBytes, hlen, Option.getD_some]
    exact (writes_writeULong _).andThen (writes_writeAttributeMap hlen)

/-! ### The loop -/

lemma readAttributes_eof {s : Stream} (h : s.eof = true) (l : Attributes) :
    readAttributes s l = (true, l) := by
  rw [readAttributes, if_pos h]

lemma readAttributes_short {s s' : Stream} (h : s.eof = false)
    (hp : readULong.read s = (none, s')) (l : Attributes) :
    readAttributes s l = (s'.eof, l) := by
  rw [readAttributes, h, if_neg Bool.false_ne_true]
  split
  · rename_i s₁ hp'
    rw [hp] at hp'
    cases hp'
    rfl
  · rename_i hp'
    rw [hp] at hp'
    cases hp'

lemma readAttributes_corrupt {s s₁ s₂ : Stream} {t : CK_ATTRIBUTE_TYPE} (h : s.eof = false)
    (hp : readULong.read s = (some t, s₁)) (ha : readAttribute.read s₁ = (none, s₂))
    (l : Attributes) : readAttributes s l = (false, l) := by
  rw [readAttributes, h, if_neg Bool.false_ne_true]
  split
  · rename_i hp'
    rw [hp] at hp'
    cases hp'
  · rename_i t' s' hp'
    rw [hp] at hp'
    cases hp'
    split
    · rfl
    · rename_i ha'
      rw [ha] at ha'
      cases ha'

lemma readAttributes_step {s s₁ s₂ : Stream} {t : CK_ATTRIBUTE_TYPE} {a : OSAttribute}
    (h : s.eof = false) (hp : readULong.read s = (some t, s₁))
    (ha : readAttribute.read s₁ = (some a, s₂)) (l : Attributes) :
    readAttributes s l = readAttributes s₂ (OrderedMap.put t (some a) l) := by
  rw [readAttributes, h, if_neg Bool.false_ne_true]
  split
  · rename_i hp'
    rw [hp] at hp'
    cases hp'
  · rename_i t' s' hp'
    rw [hp] at hp'
    cases hp'
    split
    · rename_i ha'
      rw [ha] at ha'
      cases ha'
    · rename_i a' s' ha'
      rw [ha] at ha'
      cases ha'
      rfl

/-- The attributes that are there. -/
def present (l : Attributes) : Attributes := l.filter fun i => i.2.isSome

/-- **The loop** reads attributes that were written one after the other. -/
lemma readAttributes_append {l : Attributes} (hl : ∀ i ∈ l, ∀ a, i.2 = some a → Storable a)
    (rest : ByteString) (acc : Attributes) :
    readAttributes ⟨l.flatMap attributeBytes ++ rest, false⟩ acc =
      readAttributes ⟨rest, false⟩
        ((present l).foldl (fun m i => OrderedMap.put i.1 i.2 m) acc) := by
  induction l generalizing acc with
  | nil => rfl
  | cons i l ih =>
    have htail := ih fun i' hi' => hl i' (List.mem_cons_of_mem _ hi')
    obtain ⟨t, _ | a⟩ := i
    · exact htail acc
    · have hstorable : Storable a := hl (t, some a) (List.mem_cons_self ..) a rfl
      have hbytes : ((t, some a) :: l).flatMap attributeBytes ++ rest =
          ofULong t ++ (valueBytes a ++ (l.flatMap attributeBytes ++ rest)) := by
        rw [List.flatMap_cons, attributeBytes, List.append_assoc, List.append_assoc]
      rw [hbytes, readAttributes_step rfl ((reads_readULong t).whole _ false)
        ((reads_readAttribute hstorable).whole _ false), htail]
      rfl

/-- The end of the file ends the loop. -/
lemma readAttributes_nil (acc : Attributes) : readAttributes ⟨[], false⟩ acc = (true, acc) :=
  @readAttributes_short ⟨[], false⟩ ⟨[], true⟩ rfl rfl acc

lemma foldl_put_present {l : Attributes} (hs : OrderedMap.Sorted l) :
    (present l).foldl (fun m i => OrderedMap.put i.1 i.2 m) [] = present l :=
  OrderedMap.foldl_put (l := []) (OrderedMap.sorted_filter hs _)

/-! ### Round trip -/

lemma load_bytes (newGen : UInt64) (rest : ByteString) (o : ObjectFile) :
    o.load (ofULong newGen ++ rest) =
      { o with
        gen := { o.gen with currentValue := newGen }
        attributes := (readAttributes ⟨rest, false⟩ []).2
        valid := (readAttributes ⟨rest, false⟩ []).1 } := by
  rw [load, (reads_readULong newGen).whole]
  rfl

lemma refresh_first {o : ObjectFile} (h : o.inTransaction = false) (gone : Bool)
    {bytes : ByteString} (hne : bytes ≠ []) : o.refresh true gone (some bytes) = o.load bytes := by
  obtain ⟨b, bytes, rfl⟩ := List.exists_cons_of_ne_nil hne
  unfold refresh
  rw [h]
  rfl

/-- Whether or not the file was read before, its bytes are read where it is the first time or
where their generation is not the one of the object. -/
lemma refresh_bytes {r : ObjectFile} {isFirstTime gone : Bool} {newGen : UInt64}
    {rest : ByteString} (hr : r.inTransaction = false)
    (hgen : isFirstTime = true ∨ r.gen.currentValue ≠ newGen) :
    r.refresh isFirstTime gone (some (ofULong newGen ++ rest)) =
      { r with
        gen := { r.gen with currentValue := newGen }
        attributes := (readAttributes ⟨rest, false⟩ []).2
        valid := (readAttributes ⟨rest, false⟩ []).1 } := by
  have hread := (reads_readULong newGen).whole rest false
  have hne : (ofULong newGen ++ rest).isEmpty = false := by
    have h8 := length_ofULong newGen
    rcases hb : ofULong newGen with _ | ⟨b, bs⟩
    · rw [hb] at h8
      cases h8
    · rfl
  have hupdated : ∀ o : ObjectFile, o.gen = r.gen →
      (!isFirstTime && !o.gen.wasUpdated (some (ofULong newGen ++ rest))) = false := by
    intro o ho
    rcases hgen with h | h
    · rw [h]
      rfl
    · rw [Generation.wasUpdated, hread, ho]
      simp [Ne.symm h]
  have hgen' : (if (!isFirstTime && gone) = true then r.invalidate else r).gen = r.gen := by
    split
    · rfl
    · rfl
  unfold refresh
  rw [hr, if_neg Bool.false_ne_true]
  simp only [hupdated _ hgen', Bool.false_eq_true, if_false, hne, load_bytes]
  split
  · rw [invalidate, discardAttributes, hr]
  · rw [hr]

/-- The bytes of a new file: whether all of them are written, and what gets to the disk. -/
def writeBytes (d : Device) (newGen : UInt64) (attributes : Attributes) : Bool × ByteString :=
  let (ok, s) := ((writeULong newGen).andThen (each writeAttribute attributes)).write ⟨[], d.writes⟩
  (ok, d.reach s.handed)

/-- The generation that a file gets. -/
def newGen (file : ByteString) (o : ObjectFile) : UInt64 := (o.gen.sync true file).2.update.get.1

/-- What `writeAttributes` does once the file is cut. -/
lemma writeAttributes_eq {d : Device} (hs : d.syncs = true) (ht : d.truncates = true)
    (file : ByteString) (o : ObjectFile) : ∃ gen, o.writeAttributes d file =
      ((writeBytes d (o.newGen file) o.attributes).1, { o with gen := gen },
        (writeBytes d (o.newGen file) o.attributes).2) ∧
      ((writeBytes d (o.newGen file) o.attributes).1 = true →
        gen.currentValue = o.newGen file) := by
  unfold writeAttributes writeBytes newGen
  simp only [hs, ht, Generation.sync, Bool.not_true, Bool.false_eq_true, if_false, write_andThen]
  generalize hnext : (Generation.update _).get = next
  have hcurrent : next.2.currentValue = next.1 := hnext ▸ rfl
  rcases (writeULong next.1).write ⟨[], d.writes⟩ with ⟨_ | _, s⟩
  · exact ⟨_, rfl, fun h => nomatch h⟩
  · exact ⟨_, rfl, fun _ => hcurrent⟩

/-- The bytes that a device that works is given. -/
lemma writeAttributes_works {o : ObjectFile} (file : ByteString)
    (hl : ∀ i ∈ o.attributes, ∀ a, i.2 = some a → Encodable a) :
    ∃ gen, o.writeAttributes .works file = (true, { o with gen := gen },
      ofULong gen.currentValue ++ o.attributes.flatMap attributeBytes) := by
  have hall := ((writes_writeULong (o.newGen file)).andThen
    (Writes.each fun i hi => writes_writeAttribute (hl i hi))).whole []
  have hbytes : writeBytes .works (o.newGen file) o.attributes =
      (true, ofULong (o.newGen file) ++ o.attributes.flatMap attributeBytes) := by
    unfold writeBytes
    rw [Device.works, hall]
    rfl
  obtain ⟨gen, hw, hgen⟩ := writeAttributes_eq (d := .works) rfl rfl file o
  rw [hbytes] at hw hgen
  exact ⟨gen, by rw [hw, hgen rfl]⟩

/-- **Round trip.** The file that was written is read back, with its generation and with the
attributes of the object, no matter what the reading object had before. -/
theorem refresh_writeAttributes {o : ObjectFile} (hs : OrderedMap.Sorted o.attributes)
    (hl : ∀ i ∈ o.attributes, ∀ a, i.2 = some a → Storable a) (file : ByteString) :
    ∃ o' bytes, o.writeAttributes .works file = (true, o', bytes) ∧
      ∀ (r : ObjectFile) (isFirstTime gone : Bool), r.inTransaction = false →
        isFirstTime = true ∨ r.gen.currentValue ≠ o'.gen.currentValue →
        (r.refresh isFirstTime gone (some bytes)).valid = true ∧
        (r.refresh isFirstTime gone (some bytes)).gen.currentValue = o'.gen.currentValue ∧
        (r.refresh isFirstTime gone (some bytes)).attributes = present o.attributes := by
  obtain ⟨gen, hw⟩ := writeAttributes_works file fun i hi a ha => (hl i hi a ha).encodable
  refine ⟨_, _, hw, fun r isFirstTime gone hr hgen => ?_⟩
  have hread : readAttributes ⟨o.attributes.flatMap attributeBytes, false⟩ [] =
      (true, present o.attributes) := by
    have h := readAttributes_append hl [] []
    rwa [List.append_nil, readAttributes_nil, foldl_put_present hs] at h
  rw [refresh_bytes hr hgen, hread]
  exact ⟨rfl, rfl, rfl⟩

/-- One attribute of each kind, and a type without an attribute. -/
def mixed : Attributes :=
  [(0, some (.unsignedLong 3)), (1, none), (2, some (.boolean true)),
    (3, some (.byteString [0x61])), (4, some (.mechanismTypeSet {7})),
    (5, some (.attributeMap [(2, .boolean false), (3, .byteString [])]))]

theorem refresh_writeAttributes_mixed : ∃ o' bytes,
    (⟨⟨0, false⟩, mixed, true, false, false⟩ : ObjectFile).writeAttributes .works [] =
      (true, o', bytes) ∧
    ((⟨⟨0, false⟩, [], false, false, false⟩ : ObjectFile).refresh true false
      (some bytes)).attributes = present mixed := by
  have hs : OrderedMap.Sorted mixed := by
    unfold mixed OrderedMap.Sorted
    decide
  have hl : ∀ i ∈ mixed, ∀ a, i.2 = some a → Storable a := by
    intro i hi a ha
    simp only [mixed, List.mem_cons, List.not_mem_nil, or_false] at hi
    rcases hi with rfl | rfl | rfl | rfl | rfl | rfl <;> cases ha
    · trivial
    · trivial
    · change 1 < 2 ^ 64
      omega
    · change 1 < 2 ^ 64
      omega
    · refine ⟨?_, 41, rfl, by omega⟩
      unfold OrderedMap.Sorted
      decide
  obtain ⟨o', bytes, hw, h⟩ :=
    refresh_writeAttributes (o := ⟨⟨0, false⟩, mixed, true, false, false⟩) hs hl []
  exact ⟨o', bytes, hw, (h _ true false rfl (.inl rfl)).2.2⟩

end ObjectFile

end SoftHSM
