import SoftHSM.Dump.WholeFiles

/-!
What the dump prints where a stream breaks off, or goes on with something else, is never the print
of a whole file: it ends in what `corrupt` finds, or in the middle of a record.
-/

namespace SoftHSM.DumpFile

open Codec Codec.Reader ByteString
open Blocks
open File (MapField MapRecord recordBytes recordBytes_cons Fit)

/-! ### What the readers take -/

lemma takes_readBool : Takes readBool fun w value => w = [value] := by
  refine takes_rewinding ((takes_fread 1).bind fun b w hw => takes_pure ?_)
  obtain ⟨rfl, hlen⟩ := hw
  obtain ⟨value, rfl⟩ := List.length_eq_one_iff.1 hlen
  rfl

lemma takes_readULong : Takes readULong fun w value => w = ofULong value :=
  takes_rewinding ObjectFile.takes_readULong

lemma takes_readBytes (len : ℕ) : Takes (readBytes len) fun w value => w = value ∧ value.length = len :=
  takes_rewinding (takes_fread len)

lemma takes_readMechs (size : ℕ) (value : Finset CK_MECHANISM_TYPE) :
    Takes (readMechs size value) fun w v => ∃ l : List CK_MECHANISM_TYPE,
      l.length = size ∧ w = l.flatMap ofULong ∧ v = l.toFinset ∪ value := by
  induction size generalizing value with
  | zero => exact takes_pure ⟨[], rfl, rfl, by rw [List.toFinset_nil, Finset.empty_union]⟩
  | succ size ih =>
    refine takes_readULong.bind fun mech w hw => (ih _).imp fun w' v hv => ?_
    obtain ⟨l, hlen, rfl, rfl⟩ := hv
    refine ⟨mech :: l, by rw [List.length_cons, hlen], by rw [hw, List.flatMap_cons], ?_⟩
    rw [List.toFinset_cons, Finset.insert_union, Finset.union_insert]

/-- What a value in a map leaves of the length, unless the size of a set goes round. -/
def Leaves (e : MapField) (len left : UInt64) : Prop :=
  (∀ l, e = .mechSet l → 8 ≤ len.toNat) ∧
    ((∀ l, e = .mechSet l → l.length * 8 < 2 ^ 64) →
      left.toNat + (fieldContent e).length = len.toNat)

lemma takes_readMapValue (type : CK_ATTRIBUTE_TYPE) (kind len : UInt64) :
    Takes (readMapValue type kind len) fun w v => ∃ e : MapField, e.Fits ∧ fieldKind e = kind ∧
      w = fieldContent e ∧ v.1 = fieldAttribute type e ∧ Leaves e len v.2.1 := by
  have height : (8 : UInt64).toNat = 8 := rfl
  unfold readMapValue
  split
  · rename_i hkind
    subst hkind
    split
    · exact takes_fail
    rename_i h
    refine takes_readBool.bind fun value w hw => takes_pure ?_
    refine ⟨.boolean value, trivial, rfl, ?_, rfl, fun l hl => ?_, fun _ => toNat_sub h⟩
    · rw [hw, List.append_nil]
      rfl
    · cases hl
  split
  · rename_i hkind
    subst hkind
    split
    · exact takes_fail
    rename_i h
    refine takes_readULong.bind fun value w hw => takes_pure ?_
    refine ⟨.integer value, trivial, rfl, ?_, rfl, fun l hl => ?_, fun _ => ?_⟩
    · rw [hw, List.append_nil]
      rfl
    · cases hl
    · rw [fieldContent, File.length_ofULong]
      exact toNat_sub h
  split
  · rename_i hkind
    subst hkind
    split
    · exact takes_fail
    rename_i h
    refine takes_readULong.bind fun size w hw => ?_
    split
    · exact takes_fail
    rename_i hsize
    refine (takes_readBytes size.toNat).bind fun value v hv => takes_pure ?_
    obtain ⟨rfl, hlen⟩ := hv
    obtain ⟨hlt, hval⟩ := ObjectFile.ofNat_length hlen
    refine ⟨.binary v, hlt, rfl, ?_, rfl, fun l hl => ?_, fun _ => ?_⟩
    · rw [hw, List.append_nil, fieldContent, serialise, hval]
    · cases hl
    · have hsub := toNat_sub h
      have hsub' := toNat_sub hsize
      rw [fieldContent, serialise, List.length_append, File.length_ofULong, hlen]
      dsimp only
      omega
  split
  · rename_i hkind
    subst hkind
    split
    · exact takes_fail
    rename_i h
    refine takes_readULong.bind fun size w hw => ?_
    split
    · exact takes_fail
    rename_i hsize
    refine (takes_readMechs size.toNat ∅).bind fun value v hv => takes_pure ?_
    obtain ⟨l, hlen, rfl, rfl⟩ := hv
    have hlt : l.length < 2 ^ 64 := hlen ▸ size.toNat_lt
    have hval : UInt64.ofNat l.length = size := by rw [hlen, UInt64.ofNat_toNat]
    have hsub := toNat_sub h
    refine ⟨.mechSet l, hlt, rfl, ?_, ?_, fun _ _ => by omega, fun hround => ?_⟩
    · rw [hw, List.append_nil, fieldContent, hval]
    · rw [Finset.union_empty]
      rfl
    · have hsub' := toNat_sub hsize
      have hsize' : (size * 8).toNat = l.length * 8 := by rw [← hval, toNat_size (hround l rfl)]
      rw [fieldContent, List.length_append, File.length_ofULong, MapField.length_flatMap_ofULong]
      dsimp only
      omega
  · exact takes_fail

/-- **What is read as a map** are attributes of its length, as long as no size of a set goes
round. -/
lemma readMapLoop_some {len : UInt64} {s s' : Stream} {value : List Attribute}
    (h : (readMapLoop len).read s = (some value, s'))
    (hmax : ∀ size, MapLengthField len.toNat s.rest size → size ≤ MAX_BYTES) :
    ∃ l : List MapRecord, Fit l ∧ byteLength l = len.toNat ∧
      s = ⟨recordBytes l ++ s'.rest, s'.eof⟩ ∧ value = attributes l := by
  induction len using readMapLoop.induct generalizing s value with
  | case1 =>
    rw [readMapLoop, if_pos rfl] at h
    cases h
    exact ⟨[], by simp [Fit], rfl, rfl, rfl⟩
  | case2 len h0 h8 =>
    rw [readMapLoop, if_neg h0, dif_pos h8] at h
    cases h
  | case3 len h0 h8 ih =>
    rw [readMapLoop, if_neg h0, dif_neg h8] at h
    obtain ⟨type, t, htype, hbehind⟩ := read_bind_some h
    obtain ⟨w, rfl, rfl⟩ := takes_readULong _ _ _ htype
    by_cases h16 : len - 8 < 8
    · rw [dif_pos h16] at hbehind
      cases hbehind
    rw [dif_neg h16] at hbehind
    obtain ⟨kind, t', hkind, hrest⟩ := read_bind_some hbehind
    obtain ⟨w, rfl, rfl⟩ := takes_readULong _ _ _ hkind
    obtain ⟨⟨attr, left⟩, u, hvalue, hlast⟩ := read_bind_some hrest
    obtain ⟨w, ⟨e, he, rfl, rfl, rfl, hroom, hleaves⟩, rfl⟩ := takes_readMapValue _ _ _ _ _ _ hvalue
    obtain ⟨value', u', hloop, hpure⟩ := read_bind_some hlast
    cases hpure
    have hsub := toNat_sub h8
    have hsub' := toNat_sub h16
    have height : (8 : UInt64).toNat = 8 := rfl
    -- the size of a set is a length field, and so it does not go round
    have hround : ∀ l, e = .mechSet l → l.length * 8 < 2 ^ 64 := by
      rintro l rfl
      have hroom := hroom l rfl
      have hsize := hmax (UInt64.ofNat l.length) (by
        simp only [fieldContent, List.append_assoc]
        exact .here type _ _ (by omega) (.inr rfl))
      have hmaxNat : MAX_BYTES.toNat = 1073741823 := rfl
      rw [UInt64.le_iff_toNat_le, File.toNat_ofNat he, hmaxNat] at hsize
      omega
    have hleft : left.1.toNat + (fieldContent e).length = (len - 8 - 8).toNat := hleaves hround
    have hword : e.word.length = 8 + (fieldContent e).length := by
      rw [word_eq, List.length_append, File.length_ofULong]
    have hlen : 8 + e.word.length + left.1.toNat = len.toNat := by omega
    obtain ⟨l, hl, hbyte, hu, rfl⟩ := ih h16 left hloop fun size hsize => hmax size (by
      have hbehind := MapLengthField.behind (type, e) he hsize
      rw [hlen, word_eq, List.append_assoc] at hbehind
      exact hbehind)
    obtain ⟨rest, eof⟩ := u
    obtain ⟨rfl, rfl⟩ := Stream.mk.inj hu
    refine ⟨(type, e) :: l, List.forall_mem_cons.2 ⟨he, hl⟩, ?_, ?_, rfl⟩
    · rw [byteLength_cons, hbyte]
      dsimp only
      omega
    · simp only [recordBytes_cons, word_eq, List.append_assoc]

/-! ### Where the dump gives up -/

lemma corrupt_cases (s : Stream) :
    corrupt s = [] ∧ s.rest = [] ∨ ∃ v more, corrupt s = [.rest v more] := by
  unfold corrupt
  rcases h : s.rest.take 8 with _ | ⟨x, l⟩
  · refine .inl ⟨rfl, (List.take_eq_nil_iff.1 h).resolve_left (by decide)⟩
  · exact .inr ⟨_, _, rfl⟩

/-- The dump returns, and what it has printed is not how one of these prints begins. -/
structure Breaks (o : Outcome) (P : List Item → Prop) : Prop where
  next : o.next = none
  printed : ∀ items more, P items → o.printed ≠ items ++ more

section breaks

variable {o : Outcome} {P Q : List Item → Prop}

lemma Breaks.imp (h : Breaks o P) (hQ : ∀ items, Q items → P items) : Breaks o Q :=
  ⟨h.next, fun items more hitems => h.printed items more (hQ items hitems)⟩

/-- A print begins with something else than what `corrupt` finds. -/
lemma breaks_corrupt (s : Stream)
    (h : ∀ items, P items → ∃ i l, items = i :: l ∧ ∀ v more, i ≠ .rest v more) :
    Breaks ⟨corrupt s, none⟩ P := by
  refine ⟨rfl, fun items more hitems he => ?_⟩
  obtain ⟨i, l, rfl, hi⟩ := h items hitems
  dsimp only at he
  rcases corrupt_cases s with ⟨hnil, -⟩ | ⟨v, b, hrest⟩
  · rw [hnil] at he
    cases he
  · rw [hrest] at he
    exact hi v b (List.cons.inj he).1.symm

lemma Breaks.after {i : Item} (h : Breaks o P)
    (hQ : ∀ items, Q items → ∃ j l, items = j :: l ∧ (i = j → P l)) : Breaks (o.after [i]) Q := by
  refine ⟨h.next, fun items more hitems he => ?_⟩
  obtain ⟨j, l, rfl, hl⟩ := hQ items hitems
  obtain ⟨hi, htail⟩ := List.cons.inj he
  exact h.printed l more (hl hi) htail

end breaks

section cases

variable {α : Type} {r : Reader α} {G : ByteString → α → Prop}

lemma reading_cases (hr : Takes r G) (f : α → Stream → Outcome) (rest : ByteString) :
    (∃ a w rest', G w a ∧ rest = w ++ rest' ∧
      reading r f ⟨rest, false⟩ = f a ⟨rest', false⟩) ∨
    ∃ s, reading r f ⟨rest, false⟩ = ⟨corrupt s, none⟩ := by
  unfold reading
  rcases h : r.read ⟨rest, false⟩ with ⟨_ | a, s⟩
  · exact .inr ⟨s, rfl⟩
  · obtain ⟨w, hw, hs⟩ := hr _ _ _ h
    obtain ⟨rest', eof⟩ := s
    obtain ⟨rfl, rfl⟩ := Stream.mk.inj hs
    exact .inl ⟨a, w, rest', hw, rfl, rfl⟩

end cases

lemma readingLength_cases (f : UInt64 → Stream → Outcome) (rest : ByteString) :
    (∃ len rest', rest = ofULong len ++ rest' ∧
      readingLength f ⟨rest, false⟩ = (f len ⟨rest', false⟩).after [.length false len]) ∨
    Breaks (readingLength f ⟨rest, false⟩) fun items => ∃ len l, items = .length false len :: l := by
  rcases reading_cases takes_readULong (fun len stream =>
    if len > MAX_BYTES then ⟨[.overflowLength len], none⟩
    else (f len stream).after [.length false len]) rest with ⟨len, w, rest', rfl, rfl, he⟩ | ⟨s, he⟩
  · by_cases hmax : len > MAX_BYTES
    · right
      rw [readingLength, he, if_pos hmax]
      refine ⟨rfl, fun items more hitems he => ?_⟩
      obtain ⟨len', l, rfl⟩ := hitems
      cases (List.cons.inj he).1
    · left
      refine ⟨len, rest', rfl, ?_⟩
      rw [readingLength, he, if_neg hmax]
  · right
    rw [readingLength, he]
    refine breaks_corrupt s fun items hitems => ?_
    obtain ⟨len, l, rfl⟩ := hitems
    exact ⟨_, _, rfl, fun v more h => by cases h⟩

/-- Mechanisms are printed, as many as the length says, or fewer. -/
lemma dumpMechs_cases (len : ℕ) (rest : ByteString) :
    (∃ (l : List CK_MECHANISM_TYPE) (rest' : ByteString), l.length = len ∧
      rest = l.flatMap ofULong ++ rest' ∧
      dumpMechs len ⟨rest, false⟩ = ⟨l.map (.mech false), some ⟨rest', false⟩⟩) ∨
    Breaks (dumpMechs len ⟨rest, false⟩) fun items =>
      ∃ l : List CK_MECHANISM_TYPE, len ≤ l.length ∧ items = l.map (.mech false) := by
  induction len generalizing rest with
  | zero => exact .inl ⟨[], rest, rfl, rfl, rfl⟩
  | succ len ih =>
    have hcons : ∀ items : List Item, (∃ l : List CK_MECHANISM_TYPE, len + 1 ≤ l.length ∧
        items = l.map (.mech false)) → ∃ mech, ∃ l : List CK_MECHANISM_TYPE, len ≤ l.length ∧
          items = .mech false mech :: l.map (.mech false) := by
      rintro items ⟨_ | ⟨mech, l⟩, hlen, rfl⟩
      · exact absurd hlen (Nat.not_succ_le_zero len)
      · exact ⟨mech, l, Nat.le_of_succ_le_succ hlen, rfl⟩
    rw [dumpMechs]
    rcases reading_cases takes_readULong (fun mech stream =>
      (dumpMechs len stream).after [.mech false mech]) rest with ⟨mech, w, rest', rfl, rfl, he⟩ | ⟨s, he⟩
    · rw [he]
      rcases ih rest' with ⟨l, rest'', hlen, rfl, hd⟩ | hbreaks
      · refine .inl ⟨mech :: l, rest'', by rw [List.length_cons, hlen], ?_, ?_⟩
        · rw [List.flatMap_cons, List.append_assoc]
        · rw [hd]
          rfl
      · refine .inr (hbreaks.after fun items hitems => ?_)
        obtain ⟨mech', l, hlen, rfl⟩ := hcons items hitems
        exact ⟨_, _, rfl, fun _ => ⟨l, hlen, rfl⟩⟩
    · rw [he]
      refine .inr (breaks_corrupt s fun items hitems => ?_)
      obtain ⟨mech', l, hlen, rfl⟩ := hcons items hitems
      exact ⟨_, _, rfl, fun v more h => by cases h⟩

lemma dumpMap_cons (r : MapRecord) (l : List MapRecord) : dumpMap (attributes (r :: l)) =
    .type true r.1 :: (.kind true (fieldKind r.2) :: fieldPrinted r.1 r.2 ++
      dumpMap (attributes l)) := by
  rw [attributes, List.map_cons, dumpMap, List.flatMap_cons, dump_fieldAttribute]
  rfl

/-- A map is printed whole, or its print is missing. -/
lemma dumpMap_cases (len : UInt64) (rest : ByteString)
    (hmax : ∀ size, MapLengthField len.toNat rest size → size ≤ MAX_BYTES) :
    (∃ l rest', Fit l ∧ byteLength l = len.toNat ∧ rest = recordBytes l ++ rest' ∧
      reading (readMap len) (fun value stream => ⟨dumpMap value, some stream⟩) ⟨rest, false⟩ =
        ⟨dumpMap (attributes l), some ⟨rest', false⟩⟩) ∨
    Breaks (reading (readMap len) (fun value stream => ⟨dumpMap value, some stream⟩) ⟨rest, false⟩)
      fun items => ∃ l, len = UInt64.ofNat (byteLength l) ∧ items = dumpMap (attributes l) := by
  unfold reading
  rcases hread : (readMap len).read ⟨rest, false⟩ with ⟨_ | value, s⟩
  · refine .inr (breaks_corrupt s fun items hitems => ?_)
    obtain ⟨_ | ⟨r, l⟩, rfl, rfl⟩ := hitems
    · -- nothing is missing of a map without attributes
      have hnil : byteLength [] = (UInt64.ofNat (byteLength [])).toNat := rfl
      have h := whole_readMap (by simp [Fit]) hnil rest
      rw [recordBytes, List.flatMap_nil, List.nil_append, hread] at h
      cases h
    · exact ⟨_, _, dumpMap_cons r l, fun v more h => by cases h⟩
  · obtain ⟨l, hfit, hlen, hs, rfl⟩ := readMapLoop_some (rewinding_some hread) hmax
    obtain ⟨rest', eof⟩ := s
    obtain ⟨rfl, rfl⟩ := Stream.mk.inj hs
    exact .inl ⟨l, rest', hfit, hlen, rfl, rfl⟩

/-- A value of the kind is printed whole, or what is printed for it is a stump. -/
def Settles (type : CK_ATTRIBUTE_TYPE) (kind : UInt64) (rest : ByteString) (o : Outcome) : Prop :=
  (∃ v rest', RecordValue.kind v = kind ∧ v.Fits byteLength ∧ rest = v.content ++ rest' ∧
    o = ⟨v.printed type, some ⟨rest', false⟩⟩) ∨
  Breaks o fun items => ∃ v, RecordValue.kind v = kind ∧ items = v.printed type

section settles

variable (type : CK_ATTRIBUTE_TYPE) (rest : ByteString)

lemma settles_boolean : Settles type BOOLEAN_ATTR rest
    (reading readBool (fun value stream => ⟨[.bool false value], some stream⟩) ⟨rest, false⟩) := by
  rcases reading_cases takes_readBool (fun value stream => ⟨[.bool false value], some stream⟩)
    rest with ⟨value, w, rest', rfl, rfl, he⟩ | ⟨s, he⟩
  · exact .inl ⟨.entry (.boolean value), rest', rfl, trivial, rfl, he⟩
  · rw [he]
    refine .inr (breaks_corrupt s fun items hitems => ?_)
    obtain ⟨v, hv, rfl⟩ := hitems
    obtain ⟨value, rfl⟩ := RecordValue.kind_eq_boolean hv
    exact ⟨_, _, rfl, fun v more h => by cases h⟩

lemma settles_integer : Settles type ULONG_ATTR rest
    (reading readULong (fun value stream => ⟨[.ulong false type value], some stream⟩)
      ⟨rest, false⟩) := by
  rcases reading_cases takes_readULong (fun value stream => ⟨[.ulong false type value], some stream⟩)
    rest with ⟨value, w, rest', rfl, rfl, he⟩ | ⟨s, he⟩
  · exact .inl ⟨.entry (.integer value), rest', rfl, trivial, rfl, he⟩
  · rw [he]
    refine .inr (breaks_corrupt s fun items hitems => ?_)
    obtain ⟨v, hv, rfl⟩ := hitems
    obtain ⟨value, rfl⟩ := RecordValue.kind_eq_integer hv
    exact ⟨_, _, rfl, fun v more h => by cases h⟩

/-- The print of a value with a length begins with it. -/
lemma length_of_printed {kind : UInt64} {items : List Item}
    (hkind : kind = BYTES_ATTR ∨ kind = ATTRMAP_ATTR ∨ kind = MECHSET_ATTR)
    (h : ∃ v, RecordValue.kind v = kind ∧ items = v.printed type) :
    ∃ len l, items = .length false len :: l := by
  obtain ⟨v, rfl, rfl⟩ := h
  rcases hkind with hv | hv | hv
  · obtain ⟨value, rfl⟩ := RecordValue.kind_eq_binary hv
    exact ⟨_, _, rfl⟩
  · obtain ⟨l, rfl⟩ := RecordValue.kind_eq_map hv
    exact ⟨_, _, rfl⟩
  · obtain ⟨l, rfl⟩ := RecordValue.kind_eq_mechSet hv
    exact ⟨_, _, rfl⟩

lemma settles_binary : Settles type BYTES_ATTR rest (readingLength (fun len =>
    reading (readBytes len.toNat) fun value stream => ⟨[.bytes false value], some stream⟩)
      ⟨rest, false⟩) := by
  rcases readingLength_cases (fun len => reading (readBytes len.toNat) fun value stream =>
    ⟨[.bytes false value], some stream⟩) rest with ⟨len, rest', rfl, he⟩ | hbreaks
  · rw [he]
    rcases reading_cases (takes_readBytes len.toNat) (fun value stream =>
      ⟨[.bytes false value], some stream⟩) rest' with
      ⟨value, w, rest'', ⟨rfl, hlen⟩, rfl, he'⟩ | ⟨s, he'⟩
    · obtain ⟨hlt, rfl⟩ := ObjectFile.ofNat_length hlen
      refine .inl ⟨.entry (.binary w), rest'', rfl, hlt, ?_, ?_⟩
      · simp only [RecordValue.content, fieldContent, serialise, List.append_assoc]
      · rw [he']
        rfl
    · have hstump : Breaks ⟨corrupt s, none⟩ fun items => ∃ value, items = [.bytes false value] := by
        refine breaks_corrupt s fun items hitems => ?_
        obtain ⟨value, rfl⟩ := hitems
        exact ⟨_, _, rfl, fun v more h => by cases h⟩
      rw [he']
      refine .inr (hstump.after fun items hitems => ?_)
      obtain ⟨v, hv, rfl⟩ := hitems
      obtain ⟨value, rfl⟩ := RecordValue.kind_eq_binary hv
      exact ⟨_, _, rfl, fun _ => ⟨value, rfl⟩⟩
  · exact .inr (hbreaks.imp fun items => length_of_printed type (.inl rfl))

lemma settles_map (hmax : ∀ len w size, rest = ofULong len ++ w →
      MapLengthField len.toNat w size → size ≤ MAX_BYTES) :
    Settles type ATTRMAP_ATTR rest (readingLength (fun len =>
      reading (readMap len) fun value stream => ⟨dumpMap value, some stream⟩) ⟨rest, false⟩) := by
  rcases readingLength_cases (fun len => reading (readMap len) fun value stream =>
    ⟨dumpMap value, some stream⟩) rest with ⟨len, rest', rfl, he⟩ | hbreaks
  · rw [he]
    rcases dumpMap_cases len rest' fun size => hmax len rest' size rfl with
      ⟨l, rest'', hfit, hlen, rfl, he'⟩ | hbreaks
    · have hval : UInt64.ofNat (byteLength l) = len := by rw [hlen, UInt64.ofNat_toNat]
      refine .inl ⟨.map l, rest'', rfl, ⟨hlen ▸ len.toNat_lt, hfit⟩, ?_, ?_⟩
      · rw [RecordValue.content, hval, List.append_assoc]
      · rw [he', RecordValue.printed, hval]
        rfl
    · refine .inr (hbreaks.after fun items hitems => ?_)
      obtain ⟨v, hv, rfl⟩ := hitems
      obtain ⟨l, rfl⟩ := RecordValue.kind_eq_map hv
      exact ⟨_, _, rfl, fun h => ⟨l, (Item.length.inj h).2, rfl⟩⟩
  · exact .inr (hbreaks.imp fun items => length_of_printed type (.inr (.inl rfl)))

lemma settles_mechSet : Settles type MECHSET_ATTR rest
    (readingLength (fun len => dumpMechs len.toNat) ⟨rest, false⟩) := by
  rcases readingLength_cases (fun len => dumpMechs len.toNat) rest with
    ⟨len, rest', rfl, he⟩ | hbreaks
  · rw [he]
    rcases dumpMechs_cases len.toNat rest' with ⟨l, rest'', hlen, rfl, he'⟩ | hbreaks
    · have hval : UInt64.ofNat l.length = len := by rw [hlen, UInt64.ofNat_toNat]
      have hlt : l.length < 2 ^ 64 := hlen ▸ len.toNat_lt
      refine .inl ⟨.entry (.mechSet l), rest'', rfl, hlt, ?_, ?_⟩
      · rw [RecordValue.content, fieldContent, hval, List.append_assoc]
      · rw [he', RecordValue.printed, hval]
        rfl
    · refine .inr (hbreaks.after fun items hitems => ?_)
      obtain ⟨v, hv, rfl⟩ := hitems
      obtain ⟨l, rfl⟩ := RecordValue.kind_eq_mechSet hv
      refine ⟨_, _, rfl, fun h => ⟨l, ?_, rfl⟩⟩
      rw [(Item.length.inj h).2, UInt64.toNat_ofNat']
      exact Nat.mod_le _ _
  · exact .inr (hbreaks.imp fun items => length_of_printed type (.inr (.inr rfl)))

/-- **A value** is printed whole, or its print is a stump. -/
lemma settles_dumpValue (kind : UInt64) (hmax : ∀ len w size, kind = ATTRMAP_ATTR →
      rest = ofULong len ++ w → MapLengthField len.toNat w size → size ≤ MAX_BYTES) :
    Settles type kind rest (dumpValue type kind ⟨rest, false⟩) := by
  unfold dumpValue
  split_ifs with hbool hulong hbytes hmap hmech
  · rw [hbool]
    exact settles_boolean type rest
  · rw [hulong]
    exact settles_integer type rest
  · rw [hbytes]
    exact settles_binary type rest
  · rw [hmap]
    exact settles_map type rest fun len w size => hmax len w size hmap
  · rw [hmech]
    exact settles_mechSet type rest
  · -- a kind that no value has
    refine .inr (breaks_corrupt _ fun items hitems => ?_)
    obtain ⟨(val | val | val | l) | l, hv, -⟩ := hitems
    · exact absurd hv.symm hbool
    · exact absurd hv.symm hulong
    · exact absurd hv.symm hbytes
    · exact absurd hv.symm hmech
    · exact absurd hv.symm hmap

end settles

lemma breaks_record {type : CK_ATTRIBUTE_TYPE} {o : Outcome} (h : Breaks o fun items =>
      ∃ v, items = .kind false (RecordValue.kind v) :: v.printed type) :
    Breaks (o.after [.type false type]) fun items => ∃ r, items = printedRecord r := by
  refine h.after fun items hitems => ?_
  obtain ⟨⟨type', v⟩, rfl⟩ := hitems
  refine ⟨_, _, rfl, fun htype => ?_⟩
  obtain rfl := (Item.type.inj htype).2
  exact ⟨v, rfl⟩

/-- **A record** is printed whole, or its print is a stump. -/
lemma dumpAttribute_cases {bytes : ByteString}
    (hmax : ∀ len, LengthField bytes len → len ≤ MAX_BYTES) :
    (∃ (r : FileRecord) (rest : ByteString), r.2.Fits byteLength ∧
      bytes = ofULong r.1 ++ (r.2.bytes byteLength ++ rest) ∧
      dumpAttribute ⟨bytes, false⟩ = ⟨printedRecord r, some ⟨rest, false⟩⟩) ∨
    Breaks (dumpAttribute ⟨bytes, false⟩) fun items => ∃ r, items = printedRecord r := by
  unfold dumpAttribute
  rcases reading_cases takes_readULong (fun type stream =>
    (reading readULong (fun disktype stream =>
      (dumpValue type disktype stream).after [.kind false disktype]) stream).after
        [.type false type]) bytes with ⟨type, w, rest, rfl, rfl, he⟩ | ⟨s, he⟩
  · rw [he]
    rcases reading_cases takes_readULong (fun disktype stream =>
      (dumpValue type disktype stream).after [.kind false disktype]) rest with
      ⟨kind, w, rest', rfl, rfl, he'⟩ | ⟨s, he'⟩
    · rw [he']
      have hmap : ∀ len w size, kind = ATTRMAP_ATTR → rest' = ofULong len ++ w →
          MapLengthField len.toNat w size → size ≤ MAX_BYTES := by
        rintro len w size rfl rfl hsize
        exact hmax size (.inMap type hsize)
      rcases settles_dumpValue type rest' kind hmap with ⟨v, rest'', rfl, hfits, rfl, hv⟩ | hbreaks
      · refine .inl ⟨(type, v), rest'', hfits, ?_, ?_⟩
        · rw [RecordValue.bytes_eq, List.append_assoc]
        · rw [hv]
          rfl
      · have hkind : Breaks ((dumpValue type kind ⟨rest', false⟩).after [.kind false kind])
            fun items => ∃ v, items = .kind false (RecordValue.kind v) :: v.printed type := by
          refine hbreaks.after fun items hitems => ?_
          obtain ⟨v, rfl⟩ := hitems
          exact ⟨_, _, rfl, fun h => ⟨v, (Item.kind.inj h).2.symm, rfl⟩⟩
        exact .inr (breaks_record hkind)
    · rw [he']
      have hkind : Breaks ⟨corrupt s, none⟩
          fun items => ∃ v, items = .kind false (RecordValue.kind v) :: v.printed type := by
        refine breaks_corrupt s fun items hitems => ?_
        obtain ⟨v, rfl⟩ := hitems
        exact ⟨_, _, rfl, fun v more h => by cases h⟩
      exact .inr (breaks_record hkind)
  · rw [he]
    refine .inr (breaks_corrupt s fun items hitems => ?_)
    obtain ⟨r, rfl⟩ := hitems
    exact ⟨_, _, rfl, fun v more h => by cases h⟩

/-- What is printed next begins a record, or is what `corrupt` finds. -/
lemma dumpAttribute_head (bytes : ByteString) :
    (dumpAttribute ⟨bytes, false⟩).printed = [] ∧ bytes = [] ∨
      ∃ i l, (dumpAttribute ⟨bytes, false⟩).printed = i :: l ∧ IsHead i := by
  unfold dumpAttribute reading
  rcases hread : readULong.read ⟨bytes, false⟩ with ⟨_ | type, s⟩
  · have hs : s.rest = bytes := by
      unfold readULong rewinding at hread
      dsimp only at hread
      split at hread
      · cases hread
      · cases hread
        rfl
    rcases corrupt_cases s with ⟨hnil, hrest⟩ | ⟨v, more, hrest⟩
    · exact .inl ⟨hnil, hs ▸ hrest⟩
    · exact .inr ⟨_, _, hrest, .inr ⟨v, more, rfl⟩⟩
  · exact .inr ⟨_, _, rfl, .inl ⟨type, rfl⟩⟩

lemma dumpAttributes_eq (bytes : ByteString) : ∃ more, dumpAttributes ⟨bytes, false⟩ =
    (dumpAttribute ⟨bytes, false⟩).printed ++ more := by
  rcases h : dumpAttribute ⟨bytes, false⟩ with ⟨items, _ | s⟩
  · exact ⟨[], by rw [dumpAttributes_stop rfl h, List.append_nil]⟩
  · exact ⟨_, dumpAttributes_next rfl h⟩

lemma dumpAttributes_head (bytes : ByteString) :
    ∀ i ∈ (dumpAttributes ⟨bytes, false⟩).head?, IsHead i := by
  intro i hi
  rcases dumpAttribute_head bytes with ⟨hnil, rfl⟩ | ⟨j, l, hcons, hj⟩
  · rw [show dumpAttributes ⟨[], false⟩ = [] from dumpAttributes_stop rfl rfl] at hi
    cases hi
  · obtain ⟨more, he⟩ := dumpAttributes_eq bytes
    rw [he, hcons] at hi
    obtain rfl := Option.some.inj hi
    exact hj

/-- **The print of records** comes from records alone. -/
lemma records_of_dump {bytes : ByteString} {rs : List FileRecord}
    (h : dumpAttributes ⟨bytes, false⟩ = printedRecords rs)
    (hmax : ∀ len, LengthField bytes len → len ≤ MAX_BYTES) :
    ∃ rs' : List FileRecord, (∀ r ∈ rs', r.2.Fits byteLength) ∧ bytes = fileBytes byteLength rs' ∧
      printedRecords rs' = printedRecords rs := by
  induction rs generalizing bytes with
  | nil =>
    obtain ⟨more, he⟩ := dumpAttributes_eq bytes
    rw [he] at h
    rcases dumpAttribute_head bytes with ⟨-, rfl⟩ | ⟨i, l, hcons, -⟩
    · exact ⟨[], by simp, rfl, rfl⟩
    · rw [hcons] at h
      cases h
  | cons r rs ih =>
    rcases dumpAttribute_cases hmax with ⟨r', rest, hfits, rfl, he⟩ | hbreaks
    · rw [dumpAttributes_next rfl he] at h
      obtain ⟨htype, htail⟩ := List.cons.inj h
      obtain ⟨hblock, hrest⟩ := block_inj not_isHead_of_printed not_isHead_of_printed
        (dumpAttributes_head rest) (headed_printedRecord.head rs) htail
      obtain ⟨rs', hrs', rfl, hprinted⟩ := ih hrest fun len hlen => hmax len (.behind r' hfits hlen)
      refine ⟨r' :: rs', List.forall_mem_cons.2 ⟨hfits, hrs'⟩, (fileBytes_cons _ r' rs').symm, ?_⟩
      rw [printedRecords, List.flatMap_cons, printedRecords, List.flatMap_cons]
      exact congrArg₂ (· ++ ·) (List.cons_eq_cons.2 ⟨htype, hblock⟩) hprinted
    · rcases he : dumpAttribute ⟨bytes, false⟩ with ⟨items, next⟩
      rw [he] at hbreaks
      obtain rfl : next = none := hbreaks.next
      rw [dumpAttributes_stop rfl he] at h
      exact absurd h (hbreaks.printed (printedRecord r) (printedRecords rs) ⟨r, rfl⟩)

/-- **Only a whole file** is printed as one. -/
theorem isFile_of_dump {bytes : ByteString} {gen : UInt64} {rs : List FileRecord}
    (h : dump bytes = printedFile gen rs)
    (hmax : ∀ len, LengthField (bytes.drop 8) len → len ≤ MAX_BYTES) :
    ∃ rs', IsFile byteLength bytes gen rs' ∧ denoted rs' = denoted rs := by
  unfold dump at h
  rcases hread : readULong.read ⟨bytes, false⟩ with ⟨_ | gen', s⟩
  · rw [hread] at h
    dsimp only at h
    split at h
    · cases h
    · rcases corrupt_cases s with ⟨hnil, -⟩ | ⟨v, more, hrest⟩
      · rw [hnil] at h
        cases h
      · rw [hrest] at h
        cases h
  · rw [hread] at h
    obtain ⟨hgen, hrs⟩ := List.cons.inj h
    obtain rfl := Item.generation.inj hgen
    obtain ⟨w, rfl, hs⟩ := takes_readULong _ _ _ hread
    obtain ⟨rest, eof⟩ := s
    obtain ⟨rfl, rfl⟩ := Stream.mk.inj hs
    rw [List.drop_left' (File.length_ofULong gen')] at hmax
    obtain ⟨rs', hfits, rfl, hprinted⟩ := records_of_dump hrs hmax
    have hfile : printedFile gen' rs' = printedFile gen' rs := by
      rw [printedFile, printedFile, hprinted]
    exact ⟨rs', ⟨hfits, rfl⟩, (denoted_of_printedFile hfile).2⟩

end SoftHSM.DumpFile
