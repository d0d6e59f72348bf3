import Mathlib.Algebra.GroupWithZero.Nat
import SoftHSM.ObjectStore.Grammar

/-!
The length of a map in a file and the bytes that are read for it. The length is counted down by what
the values take, not by what was read: a set counts each mechanism once, however often the file has
it, and a field is read before there is found to be no room for it.
-/

namespace SoftHSM.File

open Codec Codec.Reader ByteString ObjectFile

/-! ### Records -/

/-- The value of an attribute in a map as it lies in a file. -/
inductive MapField
  | boolean (val : UInt8)
  | integer (val : UInt64)
  | binary (val : ByteString)
  | mechSet (l : List CK_MECHANISM_TYPE)

namespace MapField

/-- Its bytes, from the kind on. -/
def word : MapField → ByteString
  | boolean val => ofULong akBoolean ++ [val]
  | integer val => ofULong akInteger ++ ofULong val
  | binary val => ofULong akBinary ++ val.serialise
  | mechSet l => ofULong akMechSet ++ (ofULong (UInt64.ofNat l.length) ++ l.flatMap ofULong)

def value : MapField → OSAttribute
  | boolean val => .boolean (val ≠ 0)
  | integer val => .unsignedLong val
  | binary val => .byteString val
  | mechSet l => .mechanismTypeSet l.toFinset

/-- What the length is counted down by, apart from type and kind. -/
def counted : MapField → ℕ
  | boolean _ => 1
  | integer _ => 8
  | binary val => 8 + val.length
  | mechSet l => 8 + l.toFinset.card * 8

/-- The file can say how long it is. -/
def Fits : MapField → Prop
  | binary val => val.length < 2 ^ 64
  | mechSet l => l.length < 2 ^ 64
  | _ => True

/-- A set that has a mechanism twice. -/
def Repeats : MapField → Prop
  | mechSet l => ¬ l.Nodup
  | _ => False

lemma mapValue {f : MapField} (h : f.Fits) : MapValue f.word f.value f.counted := by
  cases f with
  | boolean val => exact .boolean val
  | integer val => exact .unsignedLong val
  | binary val => exact .byteString h
  | mechSet l => exact .mechanismTypeSet h

lemma of_mapValue {w : ByteString} {a : OSAttribute} {n : ℕ} (h : MapValue w a n) :
    ∃ f : MapField, f.Fits ∧ w = f.word ∧ a = f.value ∧ n = f.counted := by
  cases h with
  | boolean val => exact ⟨.boolean val, trivial, rfl, rfl, rfl⟩
  | unsignedLong val => exact ⟨.integer val, trivial, rfl, rfl, rfl⟩
  | byteString h => exact ⟨.binary _, h, rfl, rfl, rfl⟩
  | mechanismTypeSet h => exact ⟨.mechSet _, h, rfl, rfl, rfl⟩

lemma length_flatMap_ofULong (l : List CK_MECHANISM_TYPE) : (l.flatMap ofULong).length = l.length * 8 := by
  induction l with
  | nil => rfl
  | cons v l ih => rw [List.flatMap_cons, List.length_append, ih, length_ofULong, List.length_cons]; omega

lemma length_word (f : MapField) : f.word.length = 8 + match f with
    | boolean _ => 1
    | integer _ => 8
    | binary val => 8 + val.length
    | mechSet l => 8 + l.length * 8 := by
  cases f with
  | mechSet l => simp only [word, List.length_append, length_ofULong, length_flatMap_ofULong]
  | binary val => simp only [word, serialise, List.length_append, length_ofULong]
  | boolean val => simp only [word, List.length_append, length_ofULong, List.length_singleton]
  | integer val => simp only [word, List.length_append, length_ofULong]

lemma counted_pos (f : MapField) : 0 < f.counted := by
  cases f <;> simp only [counted] <;> omega

/-- **No more is counted** than there is, and less only for a set that repeats a mechanism. -/
lemma counted_le (f : MapField) : 8 + f.counted ≤ f.word.length := by
  rw [length_word]
  cases f with
  | mechSet l =>
    have hcard := l.toFinset_card_le
    simp only [counted]
    omega
  | _ => exact Nat.le_refl _

lemma counted_eq_iff (f : MapField) : 8 + f.counted = f.word.length ↔ ¬ f.Repeats := by
  rw [length_word]
  cases f with
  | mechSet l =>
    simp only [counted, Repeats, not_not]
    constructor
    · intro h
      have hcard : l.dedup.length = l.length := by
        rw [← List.card_toFinset]
        omega
      have hdedup : l.dedup = l := (List.dedup_sublist l).eq_of_length hcard
      rw [← hdedup]
      exact l.nodup_dedup
    · intro h
      rw [List.toFinset_card_of_nodup h]
  | _ => exact ⟨fun _ => id, fun _ => rfl⟩

end MapField

/-- An attribute of a map, with its type. -/
abbrev MapRecord := CK_ATTRIBUTE_TYPE × MapField

/-- The bytes of records. -/
def recordBytes (rs : List MapRecord) : ByteString := rs.flatMap fun r => ofULong r.1 ++ r.2.word

/-- What the length is counted down by for records. -/
def countedLength (rs : List MapRecord) : ℕ := (rs.map fun r => 8 + 8 + r.2.counted).sum

def Fit (rs : List MapRecord) : Prop := ∀ r ∈ rs, r.2.Fits

section records

variable {r : MapRecord} {rs : List MapRecord}

lemma recordBytes_cons (r : MapRecord) (rs : List MapRecord) :
    recordBytes (r :: rs) = ofULong r.1 ++ (r.2.word ++ recordBytes rs) := by
  rw [recordBytes, List.flatMap_cons, List.append_assoc]
  rfl

lemma length_recordBytes_cons (r : MapRecord) (rs : List MapRecord) :
    (recordBytes (r :: rs)).length = 8 + r.2.word.length + (recordBytes rs).length := by
  rw [recordBytes_cons, List.length_append, List.length_append, length_ofULong, Nat.add_assoc]

lemma countedLength_cons (r : MapRecord) (rs : List MapRecord) :
    countedLength (r :: rs) = 8 + 8 + r.2.counted + countedLength rs := by
  rw [countedLength, List.map_cons, List.sum_cons]
  rfl

lemma countedLength_le (rs : List MapRecord) : countedLength rs ≤ (recordBytes rs).length := by
  induction rs with
  | nil => exact Nat.le_refl _
  | cons r rs ih =>
    have h := r.2.counted_le
    rw [countedLength_cons, length_recordBytes_cons]
    omega

lemma countedLength_eq_iff (rs : List MapRecord) :
    countedLength rs = (recordBytes rs).length ↔ ∀ r ∈ rs, ¬ r.2.Repeats := by
  induction rs with
  | nil => exact ⟨fun _ r hr => (by cases hr), fun _ => rfl⟩
  | cons r rs ih =>
    have h := r.2.counted_le
    have hle := countedLength_le rs
    rw [countedLength_cons, length_recordBytes_cons, List.forall_mem_cons, ← ih, ← r.2.counted_eq_iff]
    omega

lemma of_mapAttributes {len : ℕ} {w : ByteString} {l : List (CK_ATTRIBUTE_TYPE × OSAttribute)}
    (h : MapAttributes len w l) : ∃ rs, Fit rs ∧ w = recordBytes rs ∧ len = countedLength rs := by
  induction h with
  | nil => exact ⟨[], fun r hr => (by cases hr), rfl, rfl⟩
  | cons attrType hv hl ih =>
    obtain ⟨rs, hfit, rfl, rfl⟩ := ih
    obtain ⟨f, hf, rfl, rfl, rfl⟩ := MapField.of_mapValue hv
    refine ⟨(attrType, f) :: rs, List.forall_mem_cons.2 ⟨hf, hfit⟩, ?_, ?_⟩
    · rw [recordBytes_cons]
    · rw [countedLength_cons]

end records

/-! ### Readers drain what they fall short on -/

lemma drains_readULong : Drains readULong := (drains_fread 8).bind fun _ => drains_pure _

lemma drains_readMechanismTypes (count : ℕ) (value : Finset CK_MECHANISM_TYPE) :
    Drains (readMechanismTypes count value) := by
  induction count generalizing value with
  | zero => exact drains_pure _
  | succ count ih => exact drains_readULong.bind fun _ => ih _

/-- A kind that a map can have. -/
def Known (attrKind : UInt64) : Prop :=
  attrKind = akBoolean ∨ attrKind = akInteger ∨ attrKind = akBinary ∨ attrKind = akMechSet

lemma drains_readMapValue {attrKind : UInt64} (h : Known attrKind) : Drains (readMapValue attrKind) := by
  unfold readMapValue
  split
  · exact ((drains_fread 1).bind fun _ => drains_pure _).bind fun _ => drains_pure _
  split
  · exact drains_readULong.bind fun _ => drains_pure _
  split
  · refine Drains.bind (drains_readULong.bind fun len => ?_) fun _ => drains_pure _
    split
    · exact drains_pure _
    · exact drains_fread _
  split
  · exact (drains_readULong.bind fun _ => drains_readMechanismTypes _ _).bind fun _ => drains_pure _
  · rename_i h1 h2 h3 h4
    rcases h with h | h | h | h
    · exact absurd h h1
    · exact absurd h h2
    · exact absurd h h3
    · exact absurd h h4

lemma readMapValue_unknown {attrKind : UInt64} (h : ¬ Known attrKind) : readMapValue attrKind = fail := by
  simp only [Known, not_or] at h
  rw [readMapValue, if_neg h.1, if_neg h.2.1, if_neg h.2.2.1, if_neg h.2.2.2]

/-! ### One attribute -/

/-- The next eight bytes, if there are that many. -/
lemma readULong_cases (s : Stream) : (∃ v rest, s.rest = ofULong v ++ rest ∧
      readULong.read s = (some v, ⟨rest, s.eof⟩)) ∨
    s.rest.length < 8 ∧ readULong.read s = (none, ⟨[], true⟩) := by
  by_cases h : 8 ≤ s.rest.length
  · refine .inl ⟨long_val (s.rest.take 8), s.rest.drop 8, ?_, ?_⟩
    · rw [ofULong_long_val (List.length_take_of_le h), List.take_append_drop]
    · rw [readULong, read_bind, read_fread, if_pos h]
      rfl
  · refine .inr ⟨by omega, ?_⟩
    rw [readULong, read_bind, read_fread, if_neg h]

/-- **What one round of the loop can come to**: the end of the file, a field with no room for it, a kind
that is not known, or an attribute that is taken. -/
lemma readMapAttributes_cases {len : ℕ} (hne : len ≠ 0) (m : List (CK_ATTRIBUTE_TYPE × OSAttribute))
    (s : Stream) :
    (∃ s', (readMapAttributes len m).read s = (none, s') ∧ s'.rest = []) ∨
    (∃ s' w, (readMapAttributes len m).read s = (none, s') ∧ s.rest = w ++ s'.rest ∧ len < w.length) ∨
    (∃ s' attrType attrKind, (readMapAttributes len m).read s = (none, s') ∧ ¬ Known attrKind ∧
      16 ≤ len ∧ s.rest = ofULong attrType ++ (ofULong attrKind ++ s'.rest)) ∨
    ∃ (r : MapRecord) (s' : Stream) (m' : List (CK_ATTRIBUTE_TYPE × OSAttribute)), r.2.Fits ∧
      8 + 8 + r.2.counted ≤ len ∧ s.rest = recordBytes [r] ++ s'.rest ∧
      (readMapAttributes len m).read s = (readMapAttributes (len - (8 + 8 + r.2.counted)) m').read s' := by
  rw [readMapAttributes, if_neg hne]
  rcases readULong_cases s with ⟨attrType, rest, hrest, hread⟩ | ⟨-, hread⟩
  swap
  · exact .inl ⟨_, by rw [read_bind, hread], rfl⟩
  rw [read_bind, hread]
  dsimp only
  by_cases h8 : 8 > len
  · rw [if_pos h8]
    exact .inr (.inl ⟨_, _, rfl, hrest, by rw [length_ofULong]; exact h8⟩)
  rw [if_neg h8]
  rcases readULong_cases ⟨rest, s.eof⟩ with ⟨attrKind, rest', hrest', hread'⟩ | ⟨-, hread'⟩
  swap
  · exact .inl ⟨_, by rw [read_bind, hread'], rfl⟩
  dsimp only at hrest' hread'
  rw [read_bind, hread']
  dsimp only
  by_cases h16 : 8 > len - 8
  · rw [if_pos h16]
    refine .inr (.inl ⟨_, ofULong attrType ++ ofULong attrKind, rfl, ?_, ?_⟩)
    · rw [hrest, hrest', List.append_assoc]
    · rw [List.length_append, length_ofULong, length_ofULong]
      omega
  rw [if_neg h16]
  by_cases hknown : Known attrKind
  swap
  · rw [readMapValue_unknown hknown]
    exact .inr (.inr (.inl ⟨⟨rest', s.eof⟩, attrType, attrKind, rfl, hknown, by omega,
      by rw [hrest, hrest']⟩))
  rcases hvalue : (readMapValue attrKind).read ⟨rest', s.eof⟩ with ⟨_ | ⟨val, size⟩, s'⟩
  · exact .inl ⟨s', by rw [read_bind, hvalue], drains_readMapValue hknown _ _ hvalue⟩
  obtain ⟨w, hw, hs'⟩ := takes_readMapValue attrKind _ _ _ hvalue
  obtain ⟨f, hfits, hword, -, rfl⟩ := MapField.of_mapValue hw
  have hrest'' : rest' = w ++ s'.rest := congrArg Stream.rest hs'
  have hall : s.rest = recordBytes [(attrType, f)] ++ s'.rest := by
    rw [hrest, hrest', hrest'', recordBytes_cons, ← hword]
    simp only [recordBytes, List.flatMap_nil, List.append_nil, List.append_assoc]
  have hlen := f.counted_le
  rw [read_bind, hvalue]
  dsimp only
  by_cases hroom : f.counted > len - 8 - 8
  · rw [if_pos hroom]
    refine .inr (.inl ⟨_, _, rfl, hall, ?_⟩)
    rw [length_recordBytes_cons]
    dsimp only
    omega
  · rw [if_neg hroom]
    have hsub : len - 8 - 8 - f.counted = len - (8 + 8 + f.counted) := by omega
    exact .inr (.inr (.inr ⟨(attrType, f), s', _, hfits, by dsimp only; omega, hall, by rw [hsub]⟩))

/-! ### Runs of the loop -/

lemma readMapAttributes_zero (m : List (CK_ATTRIBUTE_TYPE × OSAttribute)) :
    readMapAttributes 0 m = pure m := by
  rw [readMapAttributes, if_pos rfl]

/-- Records are read, as far as the length counts for them. -/
lemma read_recordBytes {rs : List MapRecord} (hfit : Fit rs) {len : ℕ} (hle : countedLength rs ≤ len)
    (m : List (CK_ATTRIBUTE_TYPE × OSAttribute)) (rest : ByteString) (eof : Bool) : ∃ m',
      (readMapAttributes len m).read ⟨recordBytes rs ++ rest, eof⟩ =
        (readMapAttributes (len - countedLength rs) m').read ⟨rest, eof⟩ := by
  induction rs generalizing len m with
  | nil => exact ⟨m, rfl⟩
  | cons r rs ih =>
    obtain ⟨hr, hfit⟩ := List.forall_mem_cons.1 hfit
    obtain ⟨attrKind, v, hword, hread⟩ := reads_mapValue (MapField.mapValue hr)
    rw [countedLength_cons] at hle
    obtain ⟨m', hrun⟩ := @ih hfit (len - (8 + 8 + r.2.counted)) (by omega)
      (OrderedMap.insert r.1 r.2.value m).2
    refine ⟨m', ?_⟩
    have hsub : len - 8 - 8 - r.2.counted = len - (8 + 8 + r.2.counted) := by omega
    have hsub' : len - countedLength (r :: rs) = len - (8 + 8 + r.2.counted) - countedLength rs := by
      rw [countedLength_cons]
      omega
    rw [readMapAttributes, if_neg (by omega), recordBytes_cons, hword, List.append_assoc,
      List.append_assoc, List.append_assoc, read_bind, (reads_readULong r.1).whole]
    dsimp only
    rw [if_neg (by omega), read_bind, (reads_readULong attrKind).whole]
    dsimp only
    rw [if_neg (by omega), read_bind, hread.whole]
    dsimp only
    rw [if_neg (by omega), hsub, hsub']
    exact hrun

/-- A kind that is not known ends the loop. -/
lemma read_unknown {len : ℕ} (h16 : 16 ≤ len) (m : List (CK_ATTRIBUTE_TYPE × OSAttribute))
    (attrType : UInt64) {attrKind : UInt64} (h : ¬ Known attrKind) (rest : ByteString) (eof : Bool) :
    (readMapAttributes len m).read ⟨ofULong attrType ++ (ofULong attrKind ++ rest), eof⟩ =
      (none, ⟨rest, eof⟩) := by
  rw [readMapAttributes, if_neg (by omega), read_bind, (reads_readULong attrType).whole]
  dsimp only
  rw [if_neg (by omega), read_bind, (reads_readULong attrKind).whole]
  dsimp only
  rw [if_neg (by omega), readMapValue_unknown h]
  rfl

/-- **The declared length is that of whole records**: those up to it repeat no mechanism and fill it; or
one of a kind that is not known comes first. -/
def Covered (len : ℕ) (bytes : ByteString) : Prop :=
  (∃ rs rest, Fit rs ∧ (∀ r ∈ rs, ¬ r.2.Repeats) ∧ bytes = recordBytes rs ++ rest ∧
    (recordBytes rs).length = len) ∨
  ∃ rs attrType attrKind rest, Fit rs ∧ ¬ Known attrKind ∧
    bytes = recordBytes rs ++ (ofULong attrType ++ (ofULong attrKind ++ rest)) ∧
    (recordBytes rs).length + 16 ≤ len

lemma consumed_of_covered {len : ℕ} {bytes : ByteString} (h : Covered len bytes)
    (m : List (CK_ATTRIBUTE_TYPE × OSAttribute)) (eof : Bool) :
    consumed (readMapAttributes len m) ⟨bytes, eof⟩ ≤ len := by
  rw [consumed]
  rcases h with ⟨rs, rest, hfit, hnot, rfl, hlen⟩ | ⟨rs, attrType, attrKind, rest, hfit, hknown, rfl, hlen⟩
  · have hcounted : countedLength rs = len := ((countedLength_eq_iff rs).2 hnot).trans hlen
    obtain ⟨m', hrun⟩ := read_recordBytes hfit hcounted.le m rest eof
    rw [hrun, hcounted, Nat.sub_self, readMapAttributes_zero, List.length_append]
    change _ - rest.length ≤ len
    omega
  · have hle := countedLength_le rs
    obtain ⟨m', hrun⟩ := @read_recordBytes _ hfit len (by omega) m
        (ofULong attrType ++ (ofULong attrKind ++ rest)) eof
    rw [hrun, read_unknown (by omega) m' attrType hknown]
    simp only [List.length_append, length_ofULong]
    omega

/-- A part of the length, for the records that are left. The count is ahead of it by what was counted
too little. -/
lemma covered_of_consumed {len budget : ℕ} (hle : budget ≤ len) (m : List (CK_ATTRIBUTE_TYPE × OSAttribute))
    (s : Stream) (hlong : budget < s.rest.length) (h : consumed (readMapAttributes len m) s ≤ budget) :
    (budget = len ∧ ∃ rs rest, Fit rs ∧ (∀ r ∈ rs, ¬ r.2.Repeats) ∧ s.rest = recordBytes rs ++ rest ∧
      (recordBytes rs).length = budget) ∨
    ∃ rs attrType attrKind rest, Fit rs ∧ ¬ Known attrKind ∧
      s.rest = recordBytes rs ++ (ofULong attrType ++ (ofULong attrKind ++ rest)) ∧
      (recordBytes rs).length + 16 ≤ budget := by
  induction len using Nat.strong_induction_on generalizing budget m s with
  | _ len ih =>
    by_cases hzero : len = 0
    · subst hzero
      obtain rfl := Nat.le_zero.1 hle
      exact .inl ⟨rfl, [], s.rest, fun r hr => (by cases hr), fun r hr => (by cases hr), rfl, rfl⟩
    rw [consumed] at h
    rcases readMapAttributes_cases hzero m s with ⟨s', hread, hnil⟩ | ⟨s', w, hread, hrest, hover⟩ |
        ⟨s', attrType, attrKind, hread, hknown, -, hrest⟩ | ⟨r, s', m', hfits, hroom, hrest, hread⟩
    · rw [hread, hnil, List.length_nil] at h
      omega
    · rw [hread, hrest, List.length_append] at h
      dsimp only at h
      omega
    · rw [hread, hrest] at h
      simp only [List.length_append, length_ofULong] at h
      refine .inr ⟨[], attrType, attrKind, s'.rest, fun r hr => (by cases hr), hknown, hrest, ?_⟩
      change 0 + 16 ≤ budget
      omega
    · have hcounted := r.2.counted_le
      have hone : (recordBytes [r]).length = 8 + r.2.word.length := by
        rw [length_recordBytes_cons]
        rfl
      have hshrink := shrinks_readMapAttributes (len - (8 + 8 + r.2.counted)) m' s'
      rw [hread, hrest, List.length_append, hone] at h
      rw [hrest, List.length_append, hone] at hlong
      have happ : ∀ rs rest, s'.rest = recordBytes rs ++ rest → s.rest = recordBytes (r :: rs) ++ rest := by
        intro rs rest heq
        rw [hrest, heq, recordBytes_cons, recordBytes_cons]
        simp only [recordBytes, List.flatMap_nil, List.append_nil, List.append_assoc]
      rcases @ih (len - (8 + 8 + r.2.counted)) (by omega) (budget - (8 + r.2.word.length))
          (by omega) m' s' (by omega) (by rw [consumed]; omega) with
        ⟨heq, rs, rest, hfit, hnot, hbytes, hlen⟩ |
        ⟨rs, attrType, attrKind, rest, hfit, hknown, hbytes, hlen⟩
      · have hexact : 8 + r.2.counted = r.2.word.length := by omega
        refine .inl ⟨by omega, r :: rs, rest, List.forall_mem_cons.2 ⟨hfits, hfit⟩,
          List.forall_mem_cons.2 ⟨r.2.counted_eq_iff.1 hexact, hnot⟩, happ rs rest hbytes, ?_⟩
        rw [length_recordBytes_cons]
        omega
      · refine .inr ⟨r :: rs, attrType, attrKind, rest, List.forall_mem_cons.2 ⟨hfits, hfit⟩, hknown,
          happ rs _ hbytes, ?_⟩
        rw [length_recordBytes_cons]
        omega

/-! ### The count -/

/-- The loop with the count as it is in memory, for so many rounds; no answer where they do not do. -/
def countdown : ℕ → UInt64 → List (CK_ATTRIBUTE_TYPE × OSAttribute) →
    Reader (Option (List (CK_ATTRIBUTE_TYPE × OSAttribute)))
  | 0, _, _ => pure none
  | rounds + 1, len, value =>
    if len = 0 then pure (some value)
    else do
      let attrType ← readULong
      if 8 > len then fail
      else do
        let attrKind ← readULong
        if 8 > len - 8 then fail
        else do
          let (val, size) ← readMapValue attrKind
          if UInt64.ofNat size > len - 8 - 8 then fail
          else countdown rounds (len - 8 - 8 - UInt64.ofNat size) (OrderedMap.insert attrType val value).2

/-- **The count never comes round**, and the loop ends: in memory it does what it does over numbers. -/
lemma countdown_eq {rounds : ℕ} {len : UInt64} (hrounds : len.toNat / 17 + 1 ≤ rounds)
    (value : List (CK_ATTRIBUTE_TYPE × OSAttribute)) {s : Stream} (hs : s.rest.length < 2 ^ 64) :
    (countdown rounds len value).read s =
      (readMapAttributes len.toNat value >>= fun v => pure (some v)).read s := by
  induction rounds generalizing len value s with
  | zero => omega
  | succ rounds ih =>
    have h8 : (8 > len) = (8 > len.toNat) := propext UInt64.lt_iff_toNat_lt
    rw [countdown, read_bind, readMapAttributes]
    by_cases hzero : len = 0
    · subst hzero
      rfl
    have hne : len.toNat ≠ 0 := fun h0 => hzero (UInt64.toNat_inj.1 h0)
    rw [if_neg hzero, if_neg hne]
    rcases readULong_cases s with ⟨attrType, rest, hrest, hread⟩ | ⟨-, hread⟩
    swap
    · simp only [read_bind, hread]
    simp only [read_bind, hread, h8]
    by_cases hlt8 : 8 > len.toNat
    · rw [if_pos hlt8, if_pos hlt8]
      rfl
    rw [if_neg hlt8, if_neg hlt8]
    have hsub : (len - 8).toNat = len.toNat - 8 := UInt64.toNat_sub_of_le _ _
      (UInt64.le_iff_toNat_le.2 (Nat.not_lt.1 hlt8))
    have h16 : (8 > len - 8) = (8 > len.toNat - 8) := propext (by rw [GT.gt, UInt64.lt_iff_toNat_lt, hsub]; rfl)
    rcases readULong_cases ⟨rest, s.eof⟩ with ⟨attrKind, rest', hrest', hread'⟩ | ⟨-, hread'⟩
    swap
    · simp only [read_bind, hread']
    dsimp only at hrest' hread'
    simp only [read_bind, hread', h16]
    by_cases hlt16 : 8 > len.toNat - 8
    · rw [if_pos hlt16, if_pos hlt16]
      rfl
    rw [if_neg hlt16, if_neg hlt16]
    have hsub' : (len - 8 - 8).toNat = len.toNat - 8 - 8 := by
      rw [UInt64.toNat_sub_of_le _ _ (UInt64.le_iff_toNat_le.2 (by rw [hsub]; exact Nat.not_lt.1 hlt16)), hsub]
      rfl
    rcases hvalue : (readMapValue attrKind).read ⟨rest', s.eof⟩ with ⟨_ | ⟨val, size⟩, s'⟩
    · simp only [read_bind, hvalue]
    simp only [read_bind, hvalue]
    -- a value takes at least the bytes that it counts for, so its length fits in memory
    obtain ⟨w, hw, hs'⟩ := takes_readMapValue attrKind _ _ _ hvalue
    obtain ⟨f, -, hword, -, rfl⟩ := MapField.of_mapValue hw
    have hrest'' : rest' = w ++ s'.rest := congrArg Stream.rest hs'
    have hcounted := f.counted_le
    have hpos := f.counted_pos
    rw [← hword, List.length_append, length_ofULong] at hcounted
    rw [hrest, hrest', hrest''] at hs
    simp only [List.length_append, length_ofULong] at hs
    have hsize : (UInt64.ofNat f.counted).toNat = f.counted := toNat_ofNat (by omega)
    have hroom : (UInt64.ofNat f.counted > len - 8 - 8) = (f.counted > len.toNat - 8 - 8) :=
      propext (by rw [GT.gt, UInt64.lt_iff_toNat_lt, hsize, hsub'])
    simp only [hroom]
    by_cases hlt : f.counted > len.toNat - 8 - 8
    · rw [if_pos hlt, if_pos hlt]
      rfl
    rw [if_neg hlt, if_neg hlt]
    have hlen : (len - 8 - 8 - UInt64.ofNat f.counted).toNat = len.toNat - 8 - 8 - f.counted := by
      rw [UInt64.toNat_sub_of_le _ _ (UInt64.le_iff_toNat_le.2 (by rw [hsize, hsub']; omega)), hsub', hsize]
    rw [ih (by rw [hlen]; omega) _ (by omega), hlen, read_bind]

/-- `readAttributeMap` with the count as it is in memory. -/
def countdownMap (rounds : ℕ) : Reader (Option (List (CK_ATTRIBUTE_TYPE × OSAttribute))) := do
  countdown rounds (← readULong) []

/-! ### Maps -/

/-- The length that a map declares. -/
def declared (s : Stream) : ℕ := (long_val (s.rest.take 8)).toNat

/-- A set of one mechanism that is there twice. -/
def twice : List MapRecord := [(0, .mechSet [1, 1])]

lemma fit_twice : Fit twice := by
  intro r hr
  obtain rfl := List.mem_singleton.1 hr
  exact (by decide : 2 < 2 ^ 64)

lemma countedLength_twice : countedLength twice = 32 := by decide

lemma length_recordBytes_twice : (recordBytes twice).length = 40 := by
  rw [twice, length_recordBytes_cons, MapField.length_word]
  rfl

end SoftHSM.File
