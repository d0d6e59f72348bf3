import SoftHSM.ObjectStore.ObjectFile

/-!
The grammar of an object file: eight bytes of a generation, and then records, each of them a type,
a kind and a value. The file is read as the attributes of its records, and found corrupt where it is
no such file. But a file that ends in the middle of the generation, or of the type of a record, is
read as if it ended there.
-/

namespace SoftHSM.ObjectFile

open Codec Codec.Reader ByteString File

/-! ### Words -/

/-- The value of an attribute in a map with its kind, and what the length of the map counts for
it: every mechanism of a set once. -/
inductive MapValue : ByteString → OSAttribute → ℕ → Prop
  | boolean (val : UInt8) : MapValue (ofULong akBoolean ++ [val]) (.boolean (val ≠ 0)) 1
  | unsignedLong (val : UInt64) :
    MapValue (ofULong akInteger ++ ofULong val) (.unsignedLong val) 8
  | byteString {val : ByteString} (h : val.length < 2 ^ 64) :
    MapValue (ofULong akBinary ++ val.serialise) (.byteString val) (8 + val.length)
  | mechanismTypeSet {l : List CK_MECHANISM_TYPE} (h : l.length < 2 ^ 64) :
    MapValue (ofULong akMechSet ++ (ofULong (UInt64.ofNat l.length) ++ l.flatMap ofULong))
      (.mechanismTypeSet l.toFinset) (8 + l.toFinset.card * 8)

/-- The attributes of a map whose length is a number. -/
inductive MapAttributes : ℕ → ByteString → List (CK_ATTRIBUTE_TYPE × OSAttribute) → Prop
  | nil : MapAttributes 0 [] []
  | cons {w ws : ByteString} {a : OSAttribute} {n len : ℕ}
      {l : List (CK_ATTRIBUTE_TYPE × OSAttribute)} (attrType : CK_ATTRIBUTE_TYPE)
      (h : MapValue w a n) (hl : MapAttributes len ws l) :
    MapAttributes (8 + 8 + n + len) (ofULong attrType ++ (w ++ ws)) ((attrType, a) :: l)

/-- The value of an attribute with its kind. Of two attributes of one type in a map the first
one counts. -/
inductive Value : ByteString → OSAttribute → Prop
  | boolean (value : UInt8) : Value (ofULong BOOLEAN_ATTR ++ [value]) (.boolean (value ≠ 0))
  | unsignedLong (value : UInt64) :
    Value (ofULong ULONG_ATTR ++ ofULong value) (.unsignedLong value)
  | byteString {value : ByteString} (h : value.length < 2 ^ 64) :
    Value (ofULong BYTESTR_ATTR ++ value.serialise) (.byteString value)
  | mechanismTypeSet {l : List CK_MECHANISM_TYPE} (h : l.length < 2 ^ 64) :
    Value (ofULong MECHSET_ATTR ++ (ofULong (UInt64.ofNat l.length) ++ l.flatMap ofULong))
      (.mechanismTypeSet l.toFinset)
  | attributeMap {len : ℕ} {w : ByteString} {l : List (CK_ATTRIBUTE_TYPE × OSAttribute)}
      (h : len < 2 ^ 64) (hl : MapAttributes len w l) :
    Value (ofULong ATTRMAP_ATTR ++ (ofULong (UInt64.ofNat len) ++ w))
      (.attributeMap (l.foldl (fun m e => (OrderedMap.insert e.1 e.2 m).2) []))

/-- Complete records, one after the other. -/
inductive Records : ByteString → List (CK_ATTRIBUTE_TYPE × OSAttribute) → Prop
  | nil : Records [] []
  | cons {w ws : ByteString} {a : OSAttribute} {l : List (CK_ATTRIBUTE_TYPE × OSAttribute)}
      (p11AttrType : CK_ATTRIBUTE_TYPE) (h : Value w a) (hl : Records ws l) :
    Records (ofULong p11AttrType ++ (w ++ ws)) ((p11AttrType, a) :: l)

/-- The attributes that records denote: of two records of one type the last one counts. -/
def denoted (l : List (CK_ATTRIBUTE_TYPE × OSAttribute)) (attributes : Attributes) : Attributes :=
  l.foldl (fun m e => OrderedMap.put e.1 (some e.2) m) attributes

/-- A whole object file, and the attributes that it denotes. -/
def WellFormed (bytes : ByteString) (attributes : Attributes) : Prop :=
  ∃ gen ws l, gen.length = 8 ∧ Records ws l ∧ bytes = gen ++ ws ∧ attributes = denoted l []

/-- A file that ends within the generation, or within the type of a record. -/
def CutShort (bytes : ByteString) : Prop :=
  (bytes ≠ [] ∧ bytes.length < 8) ∨ ∃ gen ws l cut, gen.length = 8 ∧ Records ws l ∧ cut ≠ [] ∧
    cut.length < 8 ∧ bytes = gen ++ (ws ++ cut)

/-! ### Words are read -/

lemma reads_boolean (value : UInt8) : Reads readBool [value] (decide (value ≠ 0)) := by
  have h := (Reads.fread [value]).bind_pure fun b => decide (b ≠ [0x00])
  have hvalue : decide ([value] ≠ [0x00]) = decide (value ≠ 0) := by simp
  rwa [hvalue] at h

lemma reads_mechanismTypes {l : List CK_MECHANISM_TYPE} (h : l.length < 2 ^ 64) :
    Reads readMechanismTypeSet (ofULong (UInt64.ofNat l.length) ++ l.flatMap ofULong)
      l.toFinset := by
  refine (reads_readULong _).bind ?_
  rw [toNat_ofNat h]
  have hr := reads_readMechanismTypes l ∅
  rwa [Finset.union_empty] at hr

lemma reads_mapValue {w : ByteString} {a : OSAttribute} {n : ℕ} (h : MapValue w a n) :
    ∃ attrKind v, w = ofULong attrKind ++ v ∧ Reads (readMapValue attrKind) v (a, n) := by
  cases h with
  | boolean val =>
    exact ⟨akBoolean, _, rfl, (reads_boolean val).bind_pure fun v => (OSAttribute.boolean v, 1)⟩
  | unsignedLong val =>
    exact ⟨akInteger, _, rfl,
      (reads_readULong val).bind_pure fun v => (OSAttribute.unsignedLong v, 8)⟩
  | byteString h =>
    exact ⟨akBinary, _, rfl,
      (reads_readByteString h).bind_pure fun v => (OSAttribute.byteString v, 8 + v.length)⟩
  | mechanismTypeSet h =>
    exact ⟨akMechSet, _, rfl, (reads_mechanismTypes h).bind_pure fun v =>
      (OSAttribute.mechanismTypeSet v, 8 + v.card * 8)⟩

lemma reads_mapAttributes {len : ℕ} {w : ByteString}
    {l : List (CK_ATTRIBUTE_TYPE × OSAttribute)} (h : MapAttributes len w l)
    (m : List (CK_ATTRIBUTE_TYPE × OSAttribute)) :
    Reads (readMapAttributes len m) w
      (l.foldl (fun m e => (OrderedMap.insert e.1 e.2 m).2) m) := by
  induction h generalizing m with
  | nil =>
    rw [readMapAttributes, if_pos rfl]
    exact Reads.pure m
  | @cons w ws a n len l attrType hv hl ih =>
    obtain ⟨attrKind, v, rfl, hread⟩ := reads_mapValue hv
    rw [readMapAttributes, if_neg (by omega), List.append_assoc]
    refine (reads_readULong attrType).bind ?_
    rw [if_neg (by omega)]
    refine (reads_readULong attrKind).bind ?_
    rw [if_neg (by omega)]
    refine hread.bind ?_
    dsimp only
    have hlen : 8 + 8 + n + len - 8 - 8 - n = len := by omega
    rw [if_neg (by omega), hlen]
    exact ih _

lemma reads_value {w : ByteString} {a : OSAttribute} (h : Value w a) :
    Reads readAttribute w a := by
  cases h with
  | boolean value =>
    exact (reads_readULong BOOLEAN_ATTR).bind
      ((reads_boolean value).bind_pure OSAttribute.boolean)
  | unsignedLong value =>
    exact (reads_readULong ULONG_ATTR).bind
      ((reads_readULong value).bind_pure OSAttribute.unsignedLong)
  | byteString h =>
    exact (reads_readULong BYTESTR_ATTR).bind
      ((reads_readByteString h).bind_pure OSAttribute.byteString)
  | mechanismTypeSet h =>
    exact (reads_readULong MECHSET_ATTR).bind
      ((reads_mechanismTypes h).bind_pure OSAttribute.mechanismTypeSet)
  | attributeMap h hl =>
    refine (reads_readULong ATTRMAP_ATTR).bind (Reads.bind_pure ?_ OSAttribute.attributeMap)
    refine (reads_readULong _).bind ?_
    rw [toNat_ofNat h]
    exact reads_mapAttributes hl []

/-! ### What is read are words -/

lemma takes_readULong : Takes readULong fun w v => w = ofULong v := by
  refine (takes_fread 8).bind fun b w hw => takes_pure ?_
  obtain ⟨rfl, hlen⟩ := hw
  rw [List.append_nil, ofULong_long_val hlen]

lemma takes_readBool : Takes readBool fun w v =>
    ∃ value : UInt8, w = [value] ∧ v = decide (value ≠ 0) := by
  refine (takes_fread 1).bind fun b w hw => takes_pure ?_
  obtain ⟨rfl, hlen⟩ := hw
  obtain ⟨value, rfl⟩ := List.length_eq_one_iff.1 hlen
  exact ⟨value, List.append_nil _, by simp⟩

lemma ofNat_length {w : ByteString} {v : UInt64} (h : w.length = v.toNat) :
    w.length < 2 ^ 64 ∧ UInt64.ofNat w.length = v := by
  rw [h]
  exact ⟨v.toNat_lt, UInt64.ofNat_toNat⟩

lemma takes_readByteString : Takes readByteString fun w v =>
    w = v.serialise ∧ v.length < 2 ^ 64 := by
  refine takes_readULong.bind fun len w hw => ?_
  subst hw
  split
  · rename_i hlen
    subst hlen
    exact takes_pure ⟨List.append_nil _, by decide⟩
  · refine (takes_fread len.toNat).imp fun w v hw => ?_
    obtain ⟨rfl, hlen⟩ := hw
    obtain ⟨hlt, hval⟩ := ofNat_length hlen
    exact ⟨by rw [serialise, hval], hlt⟩

lemma takes_readMechanismTypes (count : ℕ) (value : Finset CK_MECHANISM_TYPE) :
    Takes (readMechanismTypes count value) fun w v => ∃ l : List CK_MECHANISM_TYPE,
      l.length = count ∧ w = l.flatMap ofULong ∧ v = l.toFinset ∪ value := by
  induction count generalizing value with
  | zero => exact takes_pure ⟨[], rfl, rfl, by rw [List.toFinset_nil, Finset.empty_union]⟩
  | succ count ih =>
    refine takes_readULong.bind fun t w hw => (ih _).imp fun w' v hv => ?_
    obtain ⟨l, hlen, rfl, rfl⟩ := hv
    refine ⟨t :: l, by rw [List.length_cons, hlen], by rw [hw, List.flatMap_cons], ?_⟩
    rw [List.toFinset_cons, Finset.insert_union, Finset.union_insert]

lemma takes_readMechanismTypeSet : Takes readMechanismTypeSet fun w v =>
    ∃ l : List CK_MECHANISM_TYPE, l.length < 2 ^ 64 ∧
      w = ofULong (UInt64.ofNat l.length) ++ l.flatMap ofULong ∧ v = l.toFinset := by
  refine takes_readULong.bind fun count w hw => (takes_readMechanismTypes _ _).imp fun w' v hv => ?_
  obtain ⟨l, hlen, rfl, rfl⟩ := hv
  refine ⟨l, hlen ▸ count.toNat_lt, ?_, Finset.union_empty _⟩
  rw [hw, hlen, UInt64.ofNat_toNat]

lemma takes_readMapValue (attrKind : UInt64) : Takes (readMapValue attrKind) fun w v =>
    MapValue (ofULong attrKind ++ w) v.1 v.2 := by
  unfold readMapValue
  split
  · rename_i hk
    subst hk
    refine takes_readBool.bind fun val w hw => takes_pure ?_
    obtain ⟨value, rfl, rfl⟩ := hw
    exact .boolean value
  split
  · rename_i hk
    subst hk
    refine takes_readULong.bind fun val w hw => takes_pure ?_
    rw [hw, List.append_nil]
    exact .unsignedLong val
  split
  · rename_i hk
    subst hk
    refine takes_readByteString.bind fun val w hw => takes_pure ?_
    rw [hw.1, List.append_nil]
    exact .byteString hw.2
  split
  · rename_i hk
    subst hk
    refine takes_readMechanismTypeSet.bind fun val w hw => takes_pure ?_
    obtain ⟨l, hlt, rfl, rfl⟩ := hw
    rw [List.append_nil]
    exact .mechanismTypeSet hlt
  · exact takes_fail

lemma takes_readMapAttributes (len : ℕ) (m : List (CK_ATTRIBUTE_TYPE × OSAttribute)) :
    Takes (readMapAttributes len m) fun w v => ∃ l, MapAttributes len w l ∧
      v = l.foldl (fun m e => (OrderedMap.insert e.1 e.2 m).2) m := by
  induction len using Nat.strong_induction_on generalizing m with
  | _ len ih =>
    rw [readMapAttributes]
    split
    · rename_i hlen
      subst hlen
      exact takes_pure ⟨[], .nil, rfl⟩
    refine takes_readULong.bind fun attrType w hw => ?_
    subst hw
    split
    · exact takes_fail
    refine takes_readULong.bind fun attrKind w hw => ?_
    subst hw
    split
    · exact takes_fail
    refine (takes_readMapValue attrKind).bind fun r w hw => ?_
    obtain ⟨val, size⟩ := r
    dsimp only
    split
    · exact takes_fail
    · refine (ih (len - 8 - 8 - size) (by omega) _).imp fun w' v hv => ?_
      obtain ⟨l, hl, rfl⟩ := hv
      have hlen : 8 + 8 + size + (len - 8 - 8 - size) = len := by omega
      have hcons := MapAttributes.cons attrType hw hl
      rw [hlen, List.append_assoc] at hcons
      exact ⟨(attrType, val) :: l, hcons, rfl⟩

lemma takes_readAttribute : Takes readAttribute Value := by
  refine takes_readULong.bind fun osAttrType w hw => ?_
  subst hw
  split
  · rename_i hk
    subst hk
    refine takes_readBool.bind fun val w hw => takes_pure ?_
    obtain ⟨value, rfl, rfl⟩ := hw
    exact .boolean value
  split
  · rename_i hk
    subst hk
    refine takes_readULong.bind fun val w hw => takes_pure ?_
    rw [hw, List.append_nil]
    exact .unsignedLong val
  split
  · rename_i hk
    subst hk
    refine takes_readByteString.bind fun val w hw => takes_pure ?_
    rw [hw.1, List.append_nil]
    exact .byteString hw.2
  split
  · rename_i hk
    subst hk
    refine takes_readMechanismTypeSet.bind fun val w hw => takes_pure ?_
    obtain ⟨l, hlt, rfl, rfl⟩ := hw
    rw [List.append_nil]
    exact .mechanismTypeSet hlt
  split
  · rename_i hk
    subst hk
    refine Takes.bind (G := fun w v => ∃ len l, len < 2 ^ 64 ∧ ∃ ws, MapAttributes len ws l ∧
      w = ofULong (UInt64.ofNat len) ++ ws ∧
      v = l.foldl (fun m e => (OrderedMap.insert e.1 e.2 m).2) []) ?_ fun val w hw => takes_pure ?_
    · refine takes_readULong.bind fun len w hw => ?_
      refine (takes_readMapAttributes len.toNat []).imp fun w' v hv => ?_
      obtain ⟨l, hl, rfl⟩ := hv
      exact ⟨len.toNat, l, len.toNat_lt, w', hl, by rw [hw, UInt64.ofNat_toNat], rfl⟩
    · obtain ⟨len, l, hlt, ws, hl, rfl, rfl⟩ := hw
      rw [List.append_nil]
      exact .attributeMap hlt hl
  · exact takes_fail

/-! ### The loop -/

variable {ws ws' cut cut' : ByteString} {l l' : List (CK_ATTRIBUTE_TYPE × OSAttribute)}
  {acc m : Attributes}

/-- Records are read one by one. -/
lemma readAttributes_records (h : Records ws l) (rest : ByteString) (acc : Attributes) :
    readAttributes ⟨ws ++ rest, false⟩ acc = readAttributes ⟨rest, false⟩ (denoted l acc) := by
  induction h generalizing acc with
  | nil => rfl
  | @cons w ws a l p11AttrType hv hl ih =>
    rw [List.append_assoc, List.append_assoc, readAttributes_step rfl
      ((reads_readULong p11AttrType).whole _ false) ((reads_value hv).whole _ false), ih]
    rfl

lemma readULong_cut (h : cut.length < 8) : readULong.read ⟨cut, false⟩ = (none, ⟨[], true⟩) := by
  unfold readULong
  rw [read_bind, read_fread, if_neg (by simpa using h)]

/-- What is cut within the type of a record ends the loop as the end of the file does. -/
lemma readAttributes_tail (h : cut.length < 8) (acc : Attributes) :
    readAttributes ⟨cut, false⟩ acc = (true, acc) :=
  readAttributes_short rfl (readULong_cut h) acc

/-- **What is read as valid** are records, and at most a part of a type behind them. -/
lemma records_of_valid {bytes : ByteString} (h : (readAttributes ⟨bytes, false⟩ acc).1 = true) :
    ∃ ws l cut, Records ws l ∧ cut.length < 8 ∧ bytes = ws ++ cut := by
  induction hn : bytes.length using Nat.strong_induction_on generalizing bytes acc with
  | _ n ih =>
    subst hn
    rcases hp : readULong.read ⟨bytes, false⟩ with ⟨_ | t, s₁⟩
    · refine ⟨[], [], bytes, .nil, ?_, rfl⟩
      by_contra hlong
      unfold readULong at hp
      rw [read_bind, read_fread, if_pos (by simpa using hlong)] at hp
      cases hp
    obtain ⟨w, rfl, hs⟩ := takes_readULong _ _ _ hp
    rcases ha : readAttribute.read s₁ with ⟨_ | a, s₂⟩
    · rw [readAttributes_corrupt rfl hp ha] at h
      cases h
    obtain ⟨v, hv, rfl⟩ := takes_readAttribute _ _ _ ha
    obtain ⟨rest, eof⟩ := s₂
    obtain ⟨rfl, rfl⟩ := Stream.mk.inj hs
    rw [readAttributes_step rfl hp ha] at h
    obtain ⟨ws, l, cut, hl, hcut, rfl⟩ := ih rest.length (by
      simp only [List.length_append, length_ofULong]
      omega) h rfl
    exact ⟨_, _, cut, .cons t hv hl, hcut, by simp only [List.append_assoc]⟩

lemma Records.eight_le (h : Records ws l) (hne : ws ≠ []) : 8 ≤ ws.length := by
  cases h with
  | nil => exact absurd rfl hne
  | cons t hv hl =>
    rw [List.length_append, length_ofULong]
    omega

/-- Where the records of a file end, and what is behind them, is determined by its bytes. -/
lemma Records.unique (h : Records ws l) (h' : Records ws' l') (hcut : cut.length < 8)
    (hcut' : cut'.length < 8) (he : ws ++ cut = ws' ++ cut') : cut = cut' ∧ l = l' := by
  induction h generalizing ws' l' with
  | nil =>
    cases h' with
    | nil => exact ⟨he, rfl⟩
    | cons t hv hl =>
      have hlen := congrArg List.length he
      simp only [List.length_append, length_ofULong, List.length_nil] at hlen
      omega
  | @cons w ws a l t hv hl ih =>
    cases h' with
    | nil =>
      have hlen := congrArg List.length he
      simp only [List.length_append, length_ofULong, List.length_nil] at hlen
      omega
    | @cons w' ws' a' l' t' hv' hl' =>
      simp only [List.append_assoc] at he
      have htype := (reads_readULong t).whole (w ++ (ws ++ cut)) false
      rw [he, (reads_readULong t').whole, Prod.mk.injEq, Option.some.injEq, Stream.mk.injEq] at htype
      obtain ⟨rfl, hrest, -⟩ := htype
      have hvalue := (reads_value hv).whole (ws ++ cut) false
      rw [← hrest, (reads_value hv').whole, Prod.mk.injEq, Option.some.injEq,
        Stream.mk.injEq] at hvalue
      obtain ⟨rfl, hrest, -⟩ := hvalue
      obtain ⟨hc, hl⟩ := ih hl' hrest.symm
      exact ⟨hc, by rw [hl]⟩

/-! ### The file -/

variable {o : ObjectFile} {isFirstTime : Bool} {bytes : ByteString}

/-- A file that ends within the generation is read as one without attributes. -/
lemma load_short (h : bytes.length < 8) (o : ObjectFile) :
    o.load bytes = { o with attributes := [], valid := true } := by
  rw [load, readULong_cut h]
  simp [readAttributes_eof]

lemma load_long {gen : ByteString} (h : gen.length = 8) (rest : ByteString) (o : ObjectFile) :
    (o.load (gen ++ rest)).valid = (readAttributes ⟨rest, false⟩ []).1 ∧
      (o.load (gen ++ rest)).attributes = (readAttributes ⟨rest, false⟩ []).2 := by
  rw [← ofULong_long_val h, load_bytes]
  exact ⟨rfl, rfl⟩

/-- The file is read where it is the first time, or where its generation is another one. -/
lemma refresh_read (gone : Bool) (hidle : o.inTransaction = false)
    (hread : isFirstTime = true ∨ o.gen.wasUpdated (some bytes) = true) :
    ∃ o₁ : ObjectFile, o₁.valid = (o.valid && (isFirstTime || !gone)) ∧
      o.refresh isFirstTime gone (some bytes) = if bytes.isEmpty then o₁ else o₁.load bytes := by
  unfold refresh
  rw [hidle, if_neg Bool.false_ne_true]
  cases isFirstTime with
  | true => exact ⟨o, by simp, rfl⟩
  | false =>
    have hupdated := hread.resolve_left Bool.false_ne_true
    cases gone with
    | true =>
      refine ⟨o.invalidate, by simp [invalidate, discardAttributes], ?_⟩
      simp only [Bool.not_false, Bool.true_and, if_true]
      rw [show o.invalidate.gen = o.gen from rfl, hupdated]
      rfl
    | false =>
      refine ⟨o, by simp, ?_⟩
      simp [hupdated]

/-- **What is read** is a whole file, or one that is cut short. -/
lemma refresh_valid (gone : Bool) (hidle : o.inTransaction = false)
    (hread : isFirstTime = true ∨ o.gen.wasUpdated (some bytes) = true) (hne : bytes ≠ []) :
    (o.refresh isFirstTime gone (some bytes)).valid = true ↔
      (∃ m, WellFormed bytes m) ∨ CutShort bytes := by
  obtain ⟨o₁, -, he⟩ := refresh_read gone hidle hread
  rw [he, if_neg (by simpa using hne)]
  by_cases hshort : bytes.length < 8
  · rw [load_short hshort]
    exact ⟨fun _ => .inr (.inl ⟨hne, hshort⟩), fun _ => rfl⟩
  have hlen : (bytes.take 8).length = 8 := List.length_take_of_le (not_lt.1 hshort)
  obtain ⟨hvalid, -⟩ := load_long hlen (bytes.drop 8) o₁
  rw [List.take_append_drop] at hvalid
  rw [hvalid]
  constructor
  · intro h
    obtain ⟨ws, l, cut, hl, hcut, hdrop⟩ := records_of_valid h
    have hbytes : bytes = bytes.take 8 ++ (ws ++ cut) := by rw [← hdrop, List.take_append_drop]
    by_cases hnil : cut = []
    · subst hnil
      rw [List.append_nil] at hbytes
      exact .inl ⟨denoted l [], _, ws, l, hlen, hl, hbytes, rfl⟩
    · exact .inr (.inr ⟨_, ws, l, cut, hlen, hl, hnil, hcut, hbytes⟩)
  · have hrecords : ∀ gen ws l cut, gen.length = 8 → Records ws l → cut.length < 8 →
        bytes = gen ++ (ws ++ cut) → (readAttributes ⟨bytes.drop 8, false⟩ []).1 = true := by
      intro gen ws l cut hgen hl hcut hbytes
      rw [hbytes, List.drop_left' hgen, readAttributes_records hl, readAttributes_tail hcut]
    rintro (⟨m, gen, ws, l, hgen, hl, hbytes, -⟩ | ⟨-, h⟩ |
      ⟨gen, ws, l, cut, hgen, hl, -, hcut, hbytes⟩)
    · exact hrecords gen ws l [] hgen hl (Nat.zero_lt_succ 7) (by rw [hbytes, List.append_nil])
    · exact absurd h hshort
    · exact hrecords gen ws l cut hgen hl hcut hbytes

lemma refresh_attributes (gone : Bool) (hidle : o.inTransaction = false)
    (hread : isFirstTime = true ∨ o.gen.wasUpdated (some bytes) = true)
    (h : WellFormed bytes m) : (o.refresh isFirstTime gone (some bytes)).attributes = m := by
  obtain ⟨gen, ws, l, hgen, hl, rfl, rfl⟩ := h
  obtain ⟨o₁, -, he⟩ := refresh_read gone hidle hread
  have hne : ¬ (gen ++ ws).isEmpty = true := by
    rw [List.isEmpty_iff_length_eq_zero, List.length_append]
    omega
  rw [he, if_neg hne, (load_long hgen ws o₁).2]
  have hread := readAttributes_records hl [] []
  rw [List.append_nil, readAttributes_nil] at hread
  rw [hread]

lemma not_cutShort (h : WellFormed bytes m) : ¬ CutShort bytes := by
  obtain ⟨gen, ws, l, hgen, hl, rfl, -⟩ := h
  rintro (⟨-, h⟩ | ⟨gen', ws', l', cut, hgen', hl', hnil, hcut, he⟩)
  · rw [List.length_append] at h
    omega
  · obtain ⟨-, he⟩ := List.append_inj he (by rw [hgen, hgen'])
    have heq : ws ++ [] = ws' ++ cut := by rw [List.append_nil, he]
    exact hnil (hl.unique hl' (by simp) hcut heq).1.symm

/-- A file with a generation, and half of a type behind it. -/
def halfType : ByteString := List.replicate 12 0

lemma cutShort_halfType : CutShort halfType :=
  .inr ⟨List.replicate 8 0, [], [], List.replicate 4 0, rfl, .nil, by decide, by decide, rfl⟩

end SoftHSM.ObjectFile
