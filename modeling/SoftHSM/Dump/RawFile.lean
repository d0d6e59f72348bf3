import SoftHSM.Dump.DumpFile
import SoftHSM.ObjectStore.MapLength

/-!
The records of an object file as their bytes are. The length of a map is counted in two ways: the
store counts every mechanism of a set in it once, and the dump counts the bytes. Where no set in a
map names a mechanism twice, the two are one.
-/

namespace SoftHSM.DumpFile

open Codec Codec.Reader ByteString
open File (MapField MapRecord recordBytes recordBytes_cons countedLength countedLength_eq_iff Fit)

/-! ### Records -/

/-- The value of a record. -/
inductive RecordValue
  | entry (e : MapField)
  | map (l : List MapRecord)

abbrev FileRecord := CK_ATTRIBUTE_TYPE × RecordValue

/-- The length of a map for the dump. -/
def byteLength (l : List MapRecord) : ℕ := (recordBytes l).length

section counted

variable (counted : List MapRecord → ℕ)

namespace RecordValue

def bytes : RecordValue → ByteString
  | entry e => e.word
  | map l => ofULong ATTRMAP_ATTR ++ (ofULong (UInt64.ofNat (counted l)) ++ recordBytes l)

def Fits : RecordValue → Prop
  | entry e => e.Fits
  | map l => counted l < 2 ^ 64 ∧ Fit l

/-- Of two attributes of one type in a map the first one counts. -/
def denote : RecordValue → OSAttribute
  | entry e => e.value
  | map l => .attributeMap ((l.map fun r => (r.1, r.2.value)).foldl
      (fun m e => (OrderedMap.insert e.1 e.2 m).2) [])

end RecordValue

/-- Records, one after the other. -/
def fileBytes (rs : List FileRecord) : ByteString :=
  rs.flatMap fun r => ofULong r.1 ++ r.2.bytes counted

/-- A whole file: a generation and records, with the lengths of their maps counted so. -/
structure IsFile (bytes : ByteString) (gen : UInt64) (rs : List FileRecord) : Prop where
  fits : ∀ r ∈ rs, r.2.Fits counted
  bytes_eq : bytes = ofULong gen ++ fileBytes counted rs

@[simp] lemma fileBytes_cons (r : FileRecord) (rs : List FileRecord) :
    fileBytes counted (r :: rs) = ofULong r.1 ++ (r.2.bytes counted ++ fileBytes counted rs) := by
  rw [fileBytes, List.flatMap_cons, List.append_assoc, fileBytes]

end counted

/-- The attributes of the records: of two records of one type the last one counts. -/
def denoted (rs : List FileRecord) : Attributes :=
  ObjectFile.denoted (rs.map fun r => (r.1, r.2.denote)) []

/-- A set in a map names a mechanism twice. -/
def RecordValue.Repeats : RecordValue → Prop
  | .entry _ => False
  | .map l => ∃ r ∈ l, r.2.Repeats

def Repeats (rs : List FileRecord) : Prop := ∃ r ∈ rs, r.2.Repeats

/-! ### What the store reads -/

variable {ws : ByteString} {a : OSAttribute} {l : List (CK_ATTRIBUTE_TYPE × OSAttribute)} {n : ℕ}

lemma mapAttributes_iff : ObjectFile.MapAttributes n ws l ↔
    ∃ rs, Fit rs ∧ n = countedLength rs ∧ ws = recordBytes rs ∧
      l = rs.map fun r => (r.1, r.2.value) := by
  constructor
  · intro h
    induction h with
    | nil => exact ⟨[], by simp [Fit], rfl, rfl, rfl⟩
    | cons t h hl ih =>
      obtain ⟨f, hf, rfl, rfl, rfl⟩ := MapField.of_mapValue h
      obtain ⟨rs, hrs, rfl, rfl, rfl⟩ := ih
      exact ⟨(t, f) :: rs, List.forall_mem_cons.2 ⟨hf, hrs⟩,
        (File.countedLength_cons (t, f) rs).symm, (recordBytes_cons (t, f) rs).symm, rfl⟩
  · rintro ⟨rs, hrs, rfl, rfl, rfl⟩
    induction rs with
    | nil => exact .nil
    | cons r rs ih =>
      obtain ⟨hr, hrs⟩ := List.forall_mem_cons.1 hrs
      rw [recordBytes_cons, File.countedLength_cons]
      exact ObjectFile.MapAttributes.cons r.1 (MapField.mapValue hr) (ih hrs)

lemma value_iff : ObjectFile.Value ws a ↔
    ∃ v : RecordValue, v.Fits countedLength ∧ ws = v.bytes countedLength ∧ a = v.denote := by
  constructor
  · intro h
    cases h with
    | boolean val => exact ⟨.entry (.boolean val), trivial, rfl, rfl⟩
    | unsignedLong val => exact ⟨.entry (.integer val), trivial, rfl, rfl⟩
    | byteString h => exact ⟨.entry (.binary _), h, rfl, rfl⟩
    | mechanismTypeSet h => exact ⟨.entry (.mechSet _), h, rfl, rfl⟩
    | attributeMap h hl =>
      obtain ⟨rs, hrs, rfl, rfl, rfl⟩ := mapAttributes_iff.1 hl
      exact ⟨.map rs, ⟨h, hrs⟩, rfl, rfl⟩
  · rintro ⟨v, h, rfl, rfl⟩
    cases v with
    | entry e =>
      cases e with
      | boolean val => exact .boolean val
      | integer val => exact .unsignedLong val
      | binary val => exact .byteString h
      | mechSet ms => exact .mechanismTypeSet h
    | map rs => exact .attributeMap h.1 (mapAttributes_iff.2 ⟨rs, h.2, rfl, rfl, rfl⟩)

lemma records_iff : ObjectFile.Records ws l ↔
    ∃ rs : List FileRecord, (∀ r ∈ rs, r.2.Fits countedLength) ∧ ws = fileBytes countedLength rs ∧
      l = rs.map fun r => (r.1, r.2.denote) := by
  constructor
  · intro h
    induction h with
    | nil => exact ⟨[], by simp, rfl, rfl⟩
    | cons t h hl ih =>
      obtain ⟨v, hv, rfl, rfl⟩ := value_iff.1 h
      obtain ⟨rs, hrs, rfl, rfl⟩ := ih
      exact ⟨(t, v) :: rs, List.forall_mem_cons.2 ⟨hv, hrs⟩,
        (fileBytes_cons countedLength (t, v) rs).symm, rfl⟩
  · rintro ⟨rs, hrs, rfl, rfl⟩
    induction rs with
    | nil => exact .nil
    | cons r rs ih =>
      obtain ⟨hr, hrs⟩ := List.forall_mem_cons.1 hrs
      have hvalue : ObjectFile.Value (r.2.bytes countedLength) r.2.denote :=
        value_iff.2 ⟨r.2, hr, rfl, rfl⟩
      rw [fileBytes_cons]
      exact ObjectFile.Records.cons r.1 hvalue (ih hrs)

/-- **A whole file** for the store is one with the lengths of its maps counted as it counts them. -/
lemma wellFormed_iff {bytes : ByteString} {m : Attributes} : ObjectFile.WellFormed bytes m ↔
    ∃ gen rs, IsFile countedLength bytes gen rs ∧ m = denoted rs := by
  constructor
  · rintro ⟨gen, ws, l, hgen, hl, rfl, rfl⟩
    obtain ⟨rs, hrs, rfl, rfl⟩ := records_iff.1 hl
    exact ⟨long_val gen, rs, ⟨hrs, by rw [File.ofULong_long_val hgen]⟩, rfl⟩
  · rintro ⟨gen, rs, ⟨hrs, rfl⟩, rfl⟩
    exact ⟨ofULong gen, _, _, File.length_ofULong gen, records_iff.2 ⟨rs, hrs, rfl, rfl⟩, rfl, rfl⟩

/-! ### Sets without repetition -/

lemma RecordValue.counted_eq {v : RecordValue} (h : ¬ v.Repeats) :
    v.bytes countedLength = v.bytes byteLength ∧ (v.Fits countedLength ↔ v.Fits byteLength) := by
  cases v with
  | entry e => exact ⟨rfl, Iff.rfl⟩
  | map l =>
    have hlen : countedLength l = byteLength l :=
      (countedLength_eq_iff l).2 fun r hr hrep => h ⟨r, hr, hrep⟩
    rw [bytes, bytes, Fits, Fits, hlen]
    exact ⟨rfl, Iff.rfl⟩

/-- **Both ways of counting** are one where no set in a map repeats. -/
lemma isFile_iff_of_not_repeats {bytes : ByteString} {gen : UInt64} {rs : List FileRecord}
    (h : ¬ Repeats rs) : IsFile countedLength bytes gen rs ↔ IsFile byteLength bytes gen rs := by
  have hr : ∀ r ∈ rs, r.2.bytes countedLength = r.2.bytes byteLength ∧
      (r.2.Fits countedLength ↔ r.2.Fits byteLength) := fun r hr =>
    RecordValue.counted_eq fun hrep => h ⟨r, hr, hrep⟩
  have hbytes : fileBytes countedLength rs = fileBytes byteLength rs :=
    List.flatMap_congr fun r hmem => by rw [(hr r hmem).1]
  constructor
  · rintro ⟨hfits, rfl⟩
    exact ⟨fun r hmem => (hr r hmem).2.1 (hfits r hmem), by rw [hbytes]⟩
  · rintro ⟨hfits, rfl⟩
    exact ⟨fun r hmem => (hr r hmem).2.2 (hfits r hmem), by rw [hbytes]⟩

/-! ### The kind of a value -/

def fieldKind : MapField → UInt64
  | .boolean _ => BOOLEAN_ATTR
  | .integer _ => ULONG_ATTR
  | .binary _ => BYTES_ATTR
  | .mechSet _ => MECHSET_ATTR

/-- The bytes behind the kind. -/
def fieldContent : MapField → ByteString
  | .boolean val => [val]
  | .integer val => ofULong val
  | .binary val => val.serialise
  | .mechSet l => ofULong (UInt64.ofNat l.length) ++ l.flatMap ofULong

section field

variable {e e' : MapField}

lemma word_eq (e : MapField) : e.word = ofULong (fieldKind e) ++ fieldContent e := by
  cases e <;> rfl

lemma fieldKind_eq_boolean : fieldKind e = BOOLEAN_ATTR ↔ ∃ val, e = .boolean val := by
  cases e <;> simp [fieldKind, BOOLEAN_ATTR, ULONG_ATTR, BYTES_ATTR, MECHSET_ATTR]

lemma fieldKind_eq_integer : fieldKind e = ULONG_ATTR ↔ ∃ val, e = .integer val := by
  cases e <;> simp [fieldKind, BOOLEAN_ATTR, ULONG_ATTR, BYTES_ATTR, MECHSET_ATTR]

lemma fieldKind_eq_binary : fieldKind e = BYTES_ATTR ↔ ∃ val, e = .binary val := by
  cases e <;> simp [fieldKind, BOOLEAN_ATTR, ULONG_ATTR, BYTES_ATTR, MECHSET_ATTR]

lemma fieldKind_eq_mechSet : fieldKind e = MECHSET_ATTR ↔ ∃ l, e = .mechSet l := by
  cases e <;> simp [fieldKind, BOOLEAN_ATTR, ULONG_ATTR, BYTES_ATTR, MECHSET_ATTR]

lemma fieldKind_ne (e : MapField) : fieldKind e ≠ ATTRMAP_ATTR := by
  cases e <;> simp [fieldKind, BOOLEAN_ATTR, ULONG_ATTR, BYTES_ATTR, MECHSET_ATTR, ATTRMAP_ATTR]

end field

/-! ### What both read

A map is a header with its length, and entries that look like records. How many of them belong to
it is the only thing that the two ways of counting do not agree on. -/

/-- A value with its type, or what stands in front of a map. -/
inductive Token
  | entry (type : CK_ATTRIBUTE_TYPE) (e : MapField)
  | header (type : CK_ATTRIBUTE_TYPE) (len : UInt64)

namespace Token

def type : Token → CK_ATTRIBUTE_TYPE
  | entry type _ => type
  | header type _ => type

def kind : Token → UInt64
  | entry _ e => fieldKind e
  | header _ _ => ATTRMAP_ATTR

def content : Token → ByteString
  | entry _ e => fieldContent e
  | header _ len => ofULong len

def bytes (t : Token) : ByteString := ofULong t.type ++ (ofULong t.kind ++ t.content)

def Fits : Token → Prop
  | entry _ e => e.Fits
  | header _ _ => True

end Token

def tokens (counted : List MapRecord → ℕ) : FileRecord → List Token
  | (t, .entry e) => [.entry t e]
  | (t, .map l) => .header t (UInt64.ofNat (counted l)) :: l.map fun r => .entry r.1 r.2

section tokens

variable {counted : List MapRecord → ℕ} {x y cut : ByteString}

lemma ofULong_append_inj {v w : UInt64} (h : ofULong v ++ x = ofULong w ++ y) :
    v = w ∧ x = y := by
  obtain ⟨hv, hx⟩ := List.append_inj h (by rw [File.length_ofULong, File.length_ofULong])
  refine ⟨?_, hx⟩
  rw [← File.long_val_ofULong v, hv, File.long_val_ofULong]

lemma flatMap_ofULong_inj {ms ms' : List UInt64} (hlen : ms.length = ms'.length)
    (h : ms.flatMap ofULong ++ x = ms'.flatMap ofULong ++ y) : ms = ms' ∧ x = y := by
  induction ms generalizing ms' with
  | nil =>
    obtain rfl := List.length_eq_zero_iff.1 hlen.symm
    exact ⟨rfl, h⟩
  | cons m ms ih =>
    cases ms' with
    | nil => cases hlen
    | cons m' ms' =>
      simp only [List.flatMap_cons, List.append_assoc] at h
      obtain ⟨rfl, htail⟩ := ofULong_append_inj h
      obtain ⟨rfl, hrest⟩ := ih (Nat.succ.inj hlen) htail
      exact ⟨rfl, hrest⟩

lemma ofNat_inj {m n : ℕ} (hm : m < 2 ^ 64) (hn : n < 2 ^ 64)
    (h : UInt64.ofNat m = UInt64.ofNat n) : m = n := by
  rw [← File.toNat_ofNat hm, h, File.toNat_ofNat hn]

lemma fieldContent_inj {e e' : MapField} (hkind : fieldKind e = fieldKind e') (h : e.Fits)
    (h' : e'.Fits) (he : fieldContent e ++ x = fieldContent e' ++ y) : e = e' ∧ x = y := by
  cases e with
  | boolean v =>
    obtain ⟨v', rfl⟩ := fieldKind_eq_boolean.1 hkind.symm
    obtain ⟨rfl, hrest⟩ := List.cons.inj he
    exact ⟨rfl, hrest⟩
  | integer v =>
    obtain ⟨v', rfl⟩ := fieldKind_eq_integer.1 hkind.symm
    obtain ⟨rfl, hrest⟩ := ofULong_append_inj he
    exact ⟨rfl, hrest⟩
  | binary v =>
    obtain ⟨v', rfl⟩ := fieldKind_eq_binary.1 hkind.symm
    simp only [fieldContent, serialise, List.append_assoc] at he
    obtain ⟨hlen, hval⟩ := ofULong_append_inj he
    obtain ⟨rfl, hrest⟩ := List.append_inj hval (ofNat_inj h h' hlen)
    exact ⟨rfl, hrest⟩
  | mechSet ms =>
    obtain ⟨ms', rfl⟩ := fieldKind_eq_mechSet.1 hkind.symm
    simp only [fieldContent, List.append_assoc] at he
    obtain ⟨hlen, hval⟩ := ofULong_append_inj he
    obtain ⟨rfl, hrest⟩ := flatMap_ofULong_inj (ofNat_inj h h' hlen) hval
    exact ⟨rfl, hrest⟩

/-- A token is read off the front of a file in one way. -/
lemma Token.bytes_inj {t t' : Token} (h : t.Fits) (h' : t'.Fits)
    (he : t.bytes ++ x = t'.bytes ++ y) : t = t' ∧ x = y := by
  simp only [bytes, List.append_assoc] at he
  obtain ⟨htype, hbehind⟩ := ofULong_append_inj he
  obtain ⟨hkind, hcontent⟩ := ofULong_append_inj hbehind
  cases t with
  | entry type e =>
    cases t' with
    | entry type' e' =>
      obtain rfl : type = type' := htype
      obtain ⟨rfl, hrest⟩ := fieldContent_inj hkind h h' hcontent
      exact ⟨rfl, hrest⟩
    | header type' len' => exact absurd hkind (fieldKind_ne e)
  | header type len =>
    cases t' with
    | entry type' e' => exact absurd hkind.symm (fieldKind_ne e')
    | header type' len' =>
      obtain rfl : type = type' := htype
      obtain ⟨rfl, hrest⟩ := ofULong_append_inj hcontent
      exact ⟨rfl, hrest⟩

lemma Token.eight_le (t : Token) : 8 ≤ t.bytes.length := by
  rw [bytes, List.length_append, File.length_ofULong]
  omega

/-- **Tokens end** where the file does: nothing short is left behind them that tokens would read
on. -/
lemma tokens_end {ts ts' : List Token} (h : ∀ t ∈ ts, t.Fits) (h' : ∀ t ∈ ts', t.Fits)
    (hcut : cut.length < 8) (he : ts.flatMap Token.bytes ++ cut = ts'.flatMap Token.bytes) :
    cut = [] := by
  induction ts generalizing ts' with
  | nil =>
    cases ts' with
    | nil => exact he
    | cons t' ts' =>
      have hlen := congrArg List.length he
      simp only [List.flatMap_nil, List.nil_append, List.flatMap_cons, List.length_append] at hlen
      have := t'.eight_le
      omega
  | cons t ts ih =>
    cases ts' with
    | nil =>
      have hlen := congrArg List.length he
      simp only [List.flatMap_nil, List.flatMap_cons, List.length_append, List.length_nil] at hlen
      have := t.eight_le
      omega
    | cons t' ts' =>
      simp only [List.flatMap_cons, List.append_assoc] at he
      obtain ⟨ht, hts⟩ := List.forall_mem_cons.1 h
      obtain ⟨ht', hts'⟩ := List.forall_mem_cons.1 h'
      obtain ⟨rfl, hrest⟩ := Token.bytes_inj ht ht' he
      exact ih hts hts' hrest

lemma record_tokens (r : FileRecord) :
    ofULong r.1 ++ r.2.bytes counted = (tokens counted r).flatMap Token.bytes := by
  obtain ⟨t, e | l⟩ := r
  · simp [tokens, RecordValue.bytes, word_eq, Token.bytes, Token.type, Token.kind, Token.content]
  · rw [tokens, List.flatMap_cons, List.flatMap_map, RecordValue.bytes]
    simp only [Token.bytes, Token.type, Token.kind, Token.content, List.append_assoc, recordBytes,
      word_eq]

lemma fileBytes_tokens (rs : List FileRecord) :
    fileBytes counted rs = (rs.flatMap (tokens counted)).flatMap Token.bytes := by
  rw [fileBytes, List.flatMap_assoc]
  exact List.flatMap_congr fun r _ => record_tokens r

lemma fits_tokens {rs : List FileRecord} (h : ∀ r ∈ rs, r.2.Fits counted) :
    ∀ t ∈ rs.flatMap (tokens counted), t.Fits := by
  intro t ht
  obtain ⟨⟨type, e | l⟩, hr, ht⟩ := List.mem_flatMap.1 ht
  · obtain rfl := List.mem_singleton.1 ht
    exact h _ hr
  · rcases List.mem_cons.1 ht with rfl | ht
    · trivial
    · obtain ⟨r, hmem, rfl⟩ := List.mem_map.1 ht
      exact (h _ hr).2 r hmem

/-- **A whole file is not cut short**, however the lengths of its maps are counted. -/
lemma not_cutShort {bytes : ByteString} {gen : UInt64} {rs : List FileRecord}
    (h : IsFile counted bytes gen rs) : ¬ ObjectFile.CutShort bytes := by
  obtain ⟨hfits, rfl⟩ := h
  rintro (⟨-, hshort⟩ | ⟨gen', ws, l, cut, hgen, hl, hne, hcut, he⟩)
  · rw [List.length_append, File.length_ofULong] at hshort
    omega
  · obtain ⟨rs', hrs', rfl, -⟩ := records_iff.1 hl
    obtain ⟨-, he⟩ := List.append_inj he (by rw [File.length_ofULong, hgen])
    rw [fileBytes_tokens, fileBytes_tokens] at he
    exact hne (tokens_end (fits_tokens hrs') (fits_tokens hfits) hcut he.symm)

end tokens

end SoftHSM.DumpFile
