import SoftHSM.Lib.Rewinding
import SoftHSM.ObjectStore.File

/-!
The tool that prints an object file, `softhsm2-dump-file`. Its readers go back to where they began
when they fail, and the dump returns at what it cannot read, with the eight bytes that are next.
-/

namespace SoftHSM.DumpFile

open Codec Codec.Reader ByteString

def BOOLEAN_ATTR : UInt64 := 0x1
def ULONG_ATTR : UInt64 := 0x2
def BYTES_ATTR : UInt64 := 0x3
def ATTRMAP_ATTR : UInt64 := 0x4
def MECHSET_ATTR : UInt64 := 0x5

/-- Maximum byte string length (1Gib). -/
def MAX_BYTES : UInt64 := 0x3fffffff

/-- An attribute of a map (`AttributeTK`). -/
structure Attribute where
  type : CK_ATTRIBUTE_TYPE
  kind : UInt64
  boolValue : UInt8 := 0
  ulongValue : UInt64 := 0
  bytestrValue : ByteString := []
  mechSetValue : Finset CK_MECHANISM_TYPE := ∅

/-! ### Printing -/

/-- What is printed, item by item. Beside the bytes of a number stands what it is called, or that it is
too large for a name, and a byte string takes a line for every eight bytes. -/
inductive Item
  | emptyFile
  | generation (gen : UInt64)
  | type (inArray : Bool) (type : CK_ATTRIBUTE_TYPE)
  | kind (inArray : Bool) (kind : UInt64)
  | bool (inArray : Bool) (value : UInt8)
  | ulong (inArray : Bool) (type : CK_ATTRIBUTE_TYPE) (value : UInt64)
  | length (inArray : Bool) (len : UInt64)
  | bytes (inArray : Bool) (value : ByteString)
  | mech (inArray : Bool) (mech : CK_MECHANISM_TYPE)
  | overflowLength (len : UInt64)
  /-- What `corrupt` finds: at most eight bytes, and whether there are more. -/
  | rest (v : ByteString) (more : Bool)
  deriving DecidableEq

def Attribute.dump (attr : Attribute) : List Item :=
  .type true attr.type :: .kind true attr.kind ::
    if attr.kind = BOOLEAN_ATTR then [.bool true attr.boolValue]
    else if attr.kind = ULONG_ATTR then [.ulong true attr.type attr.ulongValue]
    else if attr.kind = BYTES_ATTR then
      [.length true (UInt64.ofNat attr.bytestrValue.length), .bytes true attr.bytestrValue]
    else if attr.kind = MECHSET_ATTR then
      .length true (UInt64.ofNat attr.mechSetValue.card) ::
        (File.mechanismTypes attr.mechSetValue).map (.mech true)
    else []

def dumpMap (value : List Attribute) : List Item := value.flatMap Attribute.dump

/-! ### Reading -/

variable {α : Type}

def readBool : Reader UInt8 := rewinding do return (← fread 1).headD 0

def readULong : Reader UInt64 := rewinding do return long_val (← fread 8)

def readBytes (len : ℕ) : Reader ByteString := rewinding (fread len)

/-- The mechanisms of a set in a map, as many as its size says. -/
def readMechs : ℕ → Finset CK_MECHANISM_TYPE → Reader (Finset CK_MECHANISM_TYPE)
  | 0, mechSetValue => pure mechSetValue
  | size + 1, mechSetValue => do readMechs size (insert (← readULong) mechSetValue)

lemma sub_le_of_not_lt {len size : UInt64} (h : ¬ len < size) : len - size ≤ len := by
  have hle := UInt64.not_lt.1 h
  rw [UInt64.le_iff_toNat_le, UInt64.toNat_sub_of_le _ _ hle]
  omega

/-- The value of an attribute in a map, and what it leaves of the length. -/
def readMapValue (type : CK_ATTRIBUTE_TYPE) (kind len : UInt64) :
    Reader (Attribute × {left : UInt64 // left ≤ len}) :=
  if kind = BOOLEAN_ATTR then
    if h : len < 1 then fail
    else do
      let value ← readBool
      return ({ type, kind, boolValue := value }, ⟨len - 1, sub_le_of_not_lt h⟩)
  else if kind = ULONG_ATTR then
    if h : len < 8 then fail
    else do
      let value ← readULong
      return ({ type, kind, ulongValue := value }, ⟨len - 8, sub_le_of_not_lt h⟩)
  else if kind = BYTES_ATTR then
    if h : len < 8 then fail
    else do
      let size ← readULong
      if hsize : len - 8 < size then fail
      else do
        let value ← readBytes size.toNat
        return ({ type, kind, bytestrValue := value },
          ⟨len - 8 - size, le_trans (sub_le_of_not_lt hsize) (sub_le_of_not_lt h)⟩)
  else if kind = MECHSET_ATTR then
    if h : len < 8 then fail
    else do
      let size ← readULong
      if hsize : len - 8 < size * 8 then fail
      else do
        let value ← readMechs size.toNat ∅
        return ({ type, kind, mechSetValue := value },
          ⟨len - 8 - size * 8, le_trans (sub_le_of_not_lt hsize) (sub_le_of_not_lt h)⟩)
  else fail

/-- The loop of `readMap`, until the length is used up. -/
def readMapLoop (len : UInt64) : Reader (List Attribute) :=
  if len = 0 then pure []
  else if _h8 : len < 8 then fail
  else do
    let type ← readULong
    if _h16 : len - 8 < 8 then fail
    else do
      let kind ← readULong
      let (attr, left) ← readMapValue type kind (len - 8 - 8)
      return attr :: (← readMapLoop left.1)
  termination_by len.toNat
  decreasing_by
    have hle := UInt64.le_iff_toNat_le.1 left.2
    rw [UInt64.toNat_sub_of_le _ _ (UInt64.not_lt.1 _h16),
      UInt64.toNat_sub_of_le _ _ (UInt64.not_lt.1 _h8)] at hle
    have h8 := UInt64.le_iff_toNat_le.1 (UInt64.not_lt.1 _h8)
    have height : (8 : UInt64).toNat = 8 := rfl
    omega

def readMap (len : UInt64) : Reader (List Attribute) := rewinding (readMapLoop len)

/-! ### The dump -/

/-- The bytes that are next. Where there are none, nothing is printed. -/
def corrupt (stream : Stream) : List Item :=
  match stream.rest.take 8 with
  | [] => []
  | v => [.rest v (8 < stream.rest.length)]

/-- What a part of the dump prints, and the stream that it goes on with, unless it returns. -/
structure Outcome where
  printed : List Item
  next : Option Stream

def Outcome.after (items : List Item) (o : Outcome) : Outcome := ⟨items ++ o.printed, o.next⟩

/-- What is read is handed over, and the dump returns where it cannot be read. -/
def reading (r : Reader α) (k : α → Stream → Outcome) (stream : Stream) : Outcome :=
  match r.read stream with
  | (none, stream) => ⟨corrupt stream, none⟩
  | (some a, stream) => k a stream

/-- A length, which may be too large. -/
def readingLength (k : UInt64 → Stream → Outcome) : Stream → Outcome :=
  reading readULong fun len stream =>
    if len > MAX_BYTES then ⟨[.overflowLength len], none⟩
    else (k len stream).after [.length false len]

def dumpMechs : ℕ → Stream → Outcome
  | 0, stream => ⟨[], some stream⟩
  | len + 1, stream =>
    reading readULong (fun mech stream => (dumpMechs len stream).after [.mech false mech]) stream

/-- The value of an attribute, by its kind. -/
def dumpValue (p11type : CK_ATTRIBUTE_TYPE) (disktype : UInt64) : Stream → Outcome :=
  if disktype = BOOLEAN_ATTR then
    reading readBool fun value stream => ⟨[.bool false value], some stream⟩
  else if disktype = ULONG_ATTR then
    reading readULong fun value stream => ⟨[.ulong false p11type value], some stream⟩
  else if disktype = BYTES_ATTR then
    readingLength fun len => reading (readBytes len.toNat) fun value stream =>
      ⟨[.bytes false value], some stream⟩
  else if disktype = ATTRMAP_ATTR then
    readingLength fun len => reading (readMap len) fun value stream => ⟨dumpMap value, some stream⟩
  else if disktype = MECHSET_ATTR then
    readingLength fun len => dumpMechs len.toNat
  else fun stream => ⟨corrupt stream, none⟩

/-- One round of the loop. -/
def dumpAttribute : Stream → Outcome :=
  reading readULong fun p11type stream =>
    (reading readULong (fun disktype stream =>
      (dumpValue p11type disktype stream).after [.kind false disktype]) stream).after
        [.type false p11type]

/-! ### Every round takes bytes -/

lemma shrinks_readBool : Shrinks readBool :=
  shrinks_rewinding ((shrinks_fread 1).bind fun _ => shrinks_pure _)

lemma shrinks_readULong : Shrinks readULong :=
  shrinks_rewinding ((shrinks_fread 8).bind fun _ => shrinks_pure _)

lemma shrinks_readBytes (len : ℕ) : Shrinks (readBytes len) := shrinks_rewinding (shrinks_fread len)

lemma shrinks_readMechs (size : ℕ) (value : Finset CK_MECHANISM_TYPE) :
    Shrinks (readMechs size value) := by
  induction size generalizing value with
  | zero => exact shrinks_pure _
  | succ size ih => exact shrinks_readULong.bind fun _ => ih _

lemma shrinks_readMapValue (type : CK_ATTRIBUTE_TYPE) (kind len : UInt64) :
    Shrinks (readMapValue type kind len) := by
  unfold readMapValue
  split
  · split
    · exact shrinks_fail
    · exact shrinks_readBool.bind fun _ => shrinks_pure _
  split
  · split
    · exact shrinks_fail
    · exact shrinks_readULong.bind fun _ => shrinks_pure _
  split
  · split
    · exact shrinks_fail
    · refine shrinks_readULong.bind fun size => ?_
      split
      · exact shrinks_fail
      · exact (shrinks_readBytes _).bind fun _ => shrinks_pure _
  split
  · split
    · exact shrinks_fail
    · refine shrinks_readULong.bind fun size => ?_
      split
      · exact shrinks_fail
      · exact (shrinks_readMechs _ _).bind fun _ => shrinks_pure _
  · exact shrinks_fail

lemma shrinks_readMapLoop (len : UInt64) : Shrinks (readMapLoop len) := by
  induction len using readMapLoop.induct with
  | case1 =>
    rw [readMapLoop, if_pos rfl]
    exact shrinks_pure _
  | case2 len h0 h8 =>
    rw [readMapLoop, if_neg h0, dif_pos h8]
    exact shrinks_fail
  | case3 len h0 h8 ih =>
    rw [readMapLoop, if_neg h0, dif_neg h8]
    refine shrinks_readULong.bind fun type => ?_
    split
    · exact shrinks_fail
    · rename_i h16
      refine shrinks_readULong.bind fun kind => (shrinks_readMapValue _ _ _).bind fun r => ?_
      exact (ih h16 r.2).bind fun _ => shrinks_pure _

lemma shrinks_readMap (len : UInt64) : Shrinks (readMap len) :=
  shrinks_rewinding (shrinks_readMapLoop len)

/-- A part of the dump that does not go back. -/
def Advances (f : Stream → Outcome) : Prop :=
  ∀ s s', (f s).next = some s' → s'.rest.length ≤ s.rest.length

lemma advances_print (items : List Item) : Advances fun s => ⟨items, some s⟩ := by
  intro s s' h
  cases h
  exact le_rfl

lemma advances_stop (f : Stream → List Item) : Advances fun s => ⟨f s, none⟩ := by
  intro s s' h
  cases h

lemma Advances.after {f : Stream → Outcome} (h : Advances f) (items : List Item) :
    Advances fun s => (f s).after items := fun s s' hs => h s s' hs

lemma advances_reading {r : Reader α} {k : α → Stream → Outcome} (hr : Shrinks r)
    (hk : ∀ a, Advances (k a)) : Advances (reading r k) := by
  intro s s' h
  have hle := hr s
  unfold reading at h
  rcases hs : r.read s with ⟨_ | a, s₁⟩
  · rw [hs] at h
    cases h
  · rw [hs] at h hle
    exact (hk a s₁ s' h).trans hle

lemma advances_readingLength {k : UInt64 → Stream → Outcome} (hk : ∀ len, Advances (k len)) :
    Advances (readingLength k) := by
  refine advances_reading shrinks_readULong fun len => ?_
  split
  · exact advances_stop _
  · exact (hk len).after _

lemma advances_dumpMechs (len : ℕ) : Advances (dumpMechs len) := by
  induction len with
  | zero => exact advances_print []
  | succ len ih => exact advances_reading shrinks_readULong fun mech => ih.after _

lemma advances_dumpValue (p11type : CK_ATTRIBUTE_TYPE) (disktype : UInt64) :
    Advances (dumpValue p11type disktype) := by
  unfold dumpValue
  split
  · exact advances_reading shrinks_readBool fun _ => advances_print _
  split
  · exact advances_reading shrinks_readULong fun _ => advances_print _
  split
  · exact advances_readingLength fun _ =>
      advances_reading (shrinks_readBytes _) fun _ => advances_print _
  split
  · exact advances_readingLength fun _ =>
      advances_reading (shrinks_readMap _) fun _ => advances_print _
  split
  · exact advances_readingLength fun _ => advances_dumpMechs _
  · exact advances_stop _

lemma readULong_length {s s' : Stream} {v : UInt64} (h : readULong.read s = (some v, s')) :
    s'.rest.length + 8 = s.rest.length := by
  unfold readULong rewinding at h
  dsimp only at h
  rw [read_bind] at h
  rcases hr : (fread 8).read s with ⟨_ | b, t⟩
  · rw [hr] at h
    cases h
  · rw [hr] at h
    cases h
    exact fread_length hr

lemma dumpAttribute_length {s s' : Stream} (h : (dumpAttribute s).next = some s') :
    s'.rest.length < s.rest.length := by
  unfold dumpAttribute reading at h
  rcases hr : readULong.read s with ⟨_ | p11type, s₁⟩
  · rw [hr] at h
    cases h
  · rw [hr] at h
    have h8 := readULong_length hr
    have hle := (advances_reading shrinks_readULong fun disktype =>
      (advances_dumpValue p11type disktype).after [.kind false disktype]).after
        [.type false p11type] s₁ s' h
    omega

/-- The loop of `dump`. -/
def dumpAttributes (stream : Stream) : List Item :=
  if stream.eof then []
  else
    match _h : dumpAttribute stream with
    | ⟨printed, none⟩ => printed
    | ⟨printed, some stream'⟩ => printed ++ dumpAttributes stream'
  termination_by stream.rest.length
  decreasing_by
    apply dumpAttribute_length
    rw [_h]

/-- `dump` on the bytes of a file. -/
def dump (bytes : ByteString) : List Item :=
  match readULong.read ⟨bytes, false⟩ with
  | (none, stream) => if stream.eof then [.emptyFile] else corrupt stream
  | (some gen, stream) => .generation gen :: dumpAttributes stream

end SoftHSM.DumpFile
