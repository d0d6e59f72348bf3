import SoftHSM.Library.Histories

/-!
`C_SetAttributeValue` with a template that is refused: the entries before the refused one have been
applied, and only the objects of a token have a file from which the transaction can be undone.
-/

set_option linter.unusedSectionVars false

namespace SoftHSM

open CK_RV P11Object OSObject AttributeMap
open RecordFile (Write)

/-! ### What an entry writes -/

/-- What is stored of a value. -/
def sealedValue (token : TokenView) (isPrivate : Bool) (e : CK_ATTRIBUTE) : ByteString :=
  (if isPrivate then token.encrypt e.bytes else some e.bytes).getD []

/-- What an entry that `C_SetAttributeValue` accepts writes. -/
def P11Attribute.writes (a : P11Attribute) (token : TokenView) (isPrivate : Bool)
    (e : CK_ATTRIBUTE) : List (CK_ATTRIBUTE_TYPE × OSAttribute) :=
  match a.updateAttr with
  | .bytes | .date | .checkValue => [(a.type, .byteString (sealedValue token isPrivate e))]
  | .boolean | .trusted | .wrapWithTrusted => [(a.type, .boolean (e.bool ≠ CK_FALSE))]
  | .sensitive => (a.type, .boolean (e.bool ≠ CK_FALSE)) ::
      if e.bool = CK_FALSE then [(CKA_ALWAYS_SENSITIVE, .boolean false)] else []
  | .extractable => (a.type, .boolean (e.bool ≠ CK_FALSE)) ::
      if e.bool = CK_FALSE then [] else [(CKA_NEVER_EXTRACTABLE, .boolean false)]
  | _ => []

/-- The ways of updating that `C_SetAttributeValue` comes to. -/
def UpdateRule.changeable : UpdateRule → Bool
  | .bytes | .date | .checkValue | .boolean | .trusted | .wrapWithTrusted | .sensitive
  | .extractable => true
  | _ => false

lemma changeable_table : ∀ x ∈ kinds, ∀ a ∈ x.2.attributes,
    a.has ck8 = true ∨ a.has ck11 = true ∨ a.has ck10 = true → a.updateAttr.changeable = true := by
  decide +kernel

/-- The class and the types are not written. -/
lemma changeable_types : ∀ x ∈ kinds, ∀ a ∈ x.2.attributes, a.updateAttr.changeable = true →
    a.type ∉ [CKA_CLASS, CKA_KEY_TYPE, CKA_CERTIFICATE_TYPE] := by
  decide +kernel

namespace P11Object

/-- What an entry of a template writes. -/
def writes (p : P11Object) (token : TokenView) (isPrivate : Bool) (e : CK_ATTRIBUTE) :
    List (CK_ATTRIBUTE_TYPE × OSAttribute) :=
  match p.attributeOf e.type with
  | none => []
  | some a => a.writes token isPrivate e

/-- The entries before the first one that is refused. -/
def accepted (p : P11Object) (token : TokenView) (isPrivate : Bool) :
    List CK_ATTRIBUTE → AttributeMap → List CK_ATTRIBUTE
  | [], _ => []
  | e :: es, m =>
    match updateEntry p token isPrivate .SET e m with
    | (CKR_OK, m) => e :: p.accepted token isPrivate es m
    | _ => []

end P11Object

section entries

variable {p : P11Object} {k : UInt64} {token : TokenView} {isPrivate : Bool} {a : P11Attribute}
  {e : CK_ATTRIBUTE} {m : AttributeMap}

/-- A step refuses and changes nothing, or puts what it is said to. -/
def Puts (l : List (CK_ATTRIBUTE_TYPE × OSAttribute)) (m : AttributeMap)
    (r : CK_RV × AttributeMap) : Prop :=
  (∃ rv, rv ≠ CKR_OK ∧ r = (rv, m)) ∨ r = (CKR_OK, Create.putAll l m)

lemma puts_refuse {l : List (CK_ATTRIBUTE_TYPE × OSAttribute)} {rv : CK_RV} (h : rv ≠ CKR_OK) :
    Puts l m (rv, m) := .inl ⟨rv, h, rfl⟩

lemma puts_updateBytes (token : TokenView) (isPrivate : Bool) (type : CK_ATTRIBUTE_TYPE)
    (e : CK_ATTRIBUTE) (m : AttributeMap) :
    Puts [(type, .byteString (sealedValue token isPrivate e))] m
      (updateBytes token isPrivate type e m) := by
  unfold updateBytes sealedValue
  generalize (if isPrivate then token.encrypt e.bytes else some e.bytes) = value
  rcases value with _ | value
  · exact puts_refuse (by simp)
  dsimp only
  split
  · exact puts_refuse (by simp)
  · exact .inr rfl

lemma puts_updateCheckValue (token : TokenView) (isPrivate : Bool) (type : CK_ATTRIBUTE_TYPE)
    (e : CK_ATTRIBUTE) (m : AttributeMap) :
    Puts [(type, .byteString (sealedValue token isPrivate e))] m
      (updateCheckValue token isPrivate type e m) := by
  unfold updateCheckValue sealedValue
  generalize (if isPrivate then token.encrypt e.bytes else some e.bytes) = value
  rcases value with _ | value
  · exact puts_refuse (by simp)
  dsimp only
  split
  · exact puts_refuse (by simp)
  split
  · exact .inr rfl
  split
  · exact puts_refuse (by simp)
  split
  · exact puts_refuse (by simp)
  split
  · exact puts_refuse (by simp)
  · exact .inr rfl

lemma puts_updateTrusted (token : TokenView) (type : CK_ATTRIBUTE_TYPE) (e : CK_ATTRIBUTE)
    (op : ObjectOp) (m : AttributeMap) :
    Puts [(type, .boolean (e.bool ≠ CK_FALSE))] m (updateTrusted token type e op m) := by
  unfold updateTrusted
  split
  · exact puts_refuse (by simp)
  split
  · exact puts_refuse (by simp)
  split
  · rename_i h
    rw [h]
    exact .inr rfl
  rename_i h
  split
  · exact puts_refuse (by simp)
  · simp only [ne_eq, h, not_false_eq_true, decide_true]
    exact .inr rfl

/-- One update of `C_SetAttributeValue`. -/
lemma puts_update (hk : (k, p) ∈ kinds) (ha : a ∈ p.attributes) (token : TokenView)
    (isPrivate : Bool) (e : CK_ATTRIBUTE) (m : AttributeMap) :
    Puts (a.writes token isPrivate e) m (a.update token isPrivate e .SET m) := by
  rcases update_cases a token isPrivate e .SET m with h | ⟨hpermits, h⟩
  · exact .inl h
  have hchange : a.updateAttr.changeable = true := by
    refine changeable_table _ hk a ha ?_
    rcases hpermits.1 rfl with h8 | h11 | ⟨h10, -⟩
    · exact .inl h8
    · exact .inr (.inl h11)
    · exact .inr (.inr h10)
  have hfinal : ∀ final type (ifFalse ifTrue : Update) l,
      ((Update.set type (.boolean (decide (e.bool ≠ CK_FALSE)))).andThen
        (if e.bool = CK_FALSE then ifFalse else ifTrue)) m = (CKR_OK, Create.putAll l m) →
      Puts l m (updateUnlessFinal final type e .SET ifFalse ifTrue m) := by
    intro final type ifFalse ifTrue l hl
    unfold updateUnlessFinal
    split
    · exact puts_refuse (by simp)
    split
    · exact puts_refuse (by simp)
    split
    · rename_i hb
      rw [hb] at hl
      exact .inr hl
    · rename_i hb
      simp only [ne_eq, hb, not_false_eq_true, decide_true, if_false] at hl
      exact .inr hl
  rw [h]
  unfold P11Attribute.applyUpdateAttr P11Attribute.writes
  cases hrule : a.updateAttr <;> rw [hrule] at hchange <;> cases hchange <;> dsimp only
  case inr.bytes.refl => exact puts_updateBytes token isPrivate a.type e m
  case inr.boolean.refl =>
    unfold updateBoolean
    split
    · exact puts_refuse (by simp)
    · exact .inr rfl
  case inr.checkValue.refl => exact puts_updateCheckValue token isPrivate a.type e m
  case inr.trusted.refl => exact puts_updateTrusted token a.type e .SET m
  case inr.date.refl =>
    split
    · exact puts_refuse (by simp)
    · exact puts_updateBytes token isPrivate a.type e m
  case inr.sensitive.refl =>
    refine hfinal _ _ _ _ _ ?_
    split <;> rfl
  case inr.extractable.refl =>
    refine hfinal _ _ _ _ _ ?_
    split <;> rfl
  case inr.wrapWithTrusted.refl =>
    refine hfinal _ _ _ _ _ ?_
    split <;> rfl

lemma puts_updateEntry (hk : (k, p) ∈ kinds) (token : TokenView) (isPrivate : Bool)
    (e : CK_ATTRIBUTE) (m : AttributeMap) :
    Puts (p.writes token isPrivate e) m (updateEntry p token isPrivate .SET e m) := by
  unfold updateEntry P11Object.writes
  cases h : p.attributeOf e.type with
  | none => exact puts_refuse (by simp)
  | some a => exact puts_update hk (attributeOf_some h).1 token isPrivate e m

/-- What a template writes up to the first entry that is refused. -/
def P11Object.written (p : P11Object) (token : TokenView) (isPrivate : Bool)
    (pTemplate : List CK_ATTRIBUTE) (m : AttributeMap) : List (CK_ATTRIBUTE_TYPE × OSAttribute) :=
  (p.accepted token isPrivate pTemplate m).flatMap (p.writes token isPrivate)

/-- The loop of `saveTemplate`: what has been written stays. -/
lemma updateAll_written (hk : (k, p) ∈ kinds) (token : TokenView) (isPrivate : Bool)
    (pTemplate : List CK_ATTRIBUTE) (m : AttributeMap) :
    (p.updateAll token isPrivate .SET pTemplate m).2 =
      Create.putAll (p.written token isPrivate pTemplate m) m := by
  induction pTemplate generalizing m with
  | nil => rfl
  | cons e es ih =>
    rw [updateAll_cons, Update.andThen, written, accepted]
    rcases puts_updateEntry hk token isPrivate e m with ⟨rv, hrv, h⟩ | h
    · rw [h]
      cases rv <;> first | rfl | exact absurd rfl hrv
    · rw [h]
      dsimp only
      rw [ih, List.flatMap_cons, Create.putAll_append]
      rfl

/-- The class and the types are not written. -/
lemma writes_types (hk : (k, p) ∈ kinds) {x : CK_ATTRIBUTE_TYPE × OSAttribute}
    (hx : x ∈ p.writes token isPrivate e) :
    x.1 ∉ [CKA_CLASS, CKA_KEY_TYPE, CKA_CERTIFICATE_TYPE] := by
  unfold P11Object.writes at hx
  cases h : p.attributeOf e.type with
  | none =>
    rw [h] at hx
    cases hx
  | some a =>
    rw [h] at hx
    dsimp only at hx
    have ha := (attributeOf_some h).1
    have htype := changeable_types _ hk a ha
    unfold P11Attribute.writes at hx
    cases hrule : a.updateAttr <;> rw [hrule] at hx htype <;> dsimp only at hx
    case sensitive =>
      split at hx <;> simp only [List.mem_cons, List.not_mem_nil, or_false] at hx
      · rcases hx with rfl | rfl
        · exact htype rfl
        · decide
      · rw [hx]
        exact htype rfl
    case extractable =>
      split at hx <;> simp only [List.mem_cons, List.not_mem_nil, or_false] at hx
      · rw [hx]
        exact htype rfl
      · rcases hx with rfl | rfl
        · exact htype rfl
        · decide
    all_goals first
      | exact absurd hx List.not_mem_nil
      | rw [List.mem_singleton.1 hx]; exact htype rfl

lemma written_types (hk : (k, p) ∈ kinds) {pTemplate : List CK_ATTRIBUTE}
    {x : CK_ATTRIBUTE_TYPE × OSAttribute} (hx : x ∈ p.written token isPrivate pTemplate m) :
    x.1 ∉ [CKA_CLASS, CKA_KEY_TYPE, CKA_CERTIFICATE_TYPE] := by
  obtain ⟨e, -, he⟩ := List.mem_flatMap.1 hx
  exact writes_types hk he

end entries

namespace Create

/-- The last value that is put counts. -/
lemma get_putAll_last (type : CK_ATTRIBUTE_TYPE) (l : List (CK_ATTRIBUTE_TYPE × OSAttribute))
    (m : AttributeMap) : OrderedMap.get type (putAll l m) =
      (OrderedMap.get type l.reverse).or (OrderedMap.get type m) := by
  induction l using List.reverseRecOn with
  | nil => rfl
  | append_singleton l x ih =>
    have hput : putAll (l ++ [x]) m = (putAll l m).setAttribute x.1 x.2 := putAll_append l [x] m
    rw [hput, get_setAttribute, ih, List.reverse_append, List.reverse_singleton,
      List.singleton_append, OrderedMap.get]
    split
    · rename_i h
      rw [if_pos h.symm]
      rfl
    · rename_i h
      rw [if_neg fun he => h he.symm]

lemma attributeExists_putAll {type : CK_ATTRIBUTE_TYPE} {m : AttributeMap}
    (h : m.attributeExists type = true) (l : List (CK_ATTRIBUTE_TYPE × OSAttribute)) :
    (putAll l m).attributeExists type = true := by
  unfold AttributeMap.attributeExists at h ⊢
  rw [get_putAll_last]
  cases OrderedMap.get type l.reverse with
  | none => exact h
  | some attr => rfl

end Create

/-! ### Objects that lack nothing -/

/-- All attributes of a kind are there, the class and the types as the kind has them. -/
structure Whole (p : P11Object) (m : AttributeMap) : Prop where
  attributes : ∀ a ∈ p.attributes, m.attributeExists a.type = true
  presets : ∀ type v, .value type v ∈ p.presets →
    OrderedMap.get type m = some (.unsignedLong v)

/-- The number of a preset is not the one that stands for none. -/
def Preset.definite : Preset → Bool
  | .value _ v => v ≠ CKO_VENDOR_DEFINED
  | .missing _ _ => true

lemma definite_table : ∀ x ∈ kinds, ∀ y ∈ x.2.presets, y.definite = true := by decide

lemma presetTypes_nodup : ∀ x ∈ kinds, (x.2.presets.map presetType).Nodup := by decide

lemma modifiable_presets : ∀ x ∈ kinds, ∀ y ∈ x.2.presets, presetType y ≠ CKA_MODIFIABLE := by
  decide

lemma modifiable_default : ∀ x ∈ kinds, ∀ a ∈ x.2.attributes, a.type = CKA_MODIFIABLE →
    a.default.truth = some true := by decide +kernel

section init

variable {p : P11Object} {k : UInt64} {o o' : OSObject} {stores : CK_ATTRIBUTE_TYPE → Write}

/-- `init` leaves an object that lacks nothing. -/
lemma init_of_whole (hk : (k, p) ∈ kinds) (hv : o.valid = true) (h : Whole p o.attributes)
    (stores : CK_ATTRIBUTE_TYPE → Write) : p.init stores o = (true, o) := by
  have hexists : ∀ {type}, o.attributes.attributeExists type = true →
      o.attributeExists type = true := fun hx => by rw [OSObject.attributeExists, hv, hx]; rfl
  have hpreset : ∀ x ∈ p.presets, applyPreset stores o x = o := by
    intro x hx
    have hof := presets_table _ hk x hx
    cases x with
    | value type v =>
      have hget := h.presets type v hx
      have hex : o.attributeExists type = true :=
        hexists (by rw [AttributeMap.attributeExists, hget]; rfl)
      have hval : o.attributes.getUnsignedLongValue type CKO_VENDOR_DEFINED = v := by
        rw [getUnsignedLongValue, hget]
      simp [applyPreset, hex, hval]
    | missing type attr =>
      simp only [presetOf, List.any_eq_true, decide_eq_true_eq] at hof
      obtain ⟨a, ha, rfl⟩ := hof
      simp [applyPreset, hexists (h.attributes a ha)]
  have hfold : ∀ l ⊆ p.presets, l.foldl (applyPreset stores) o = o := by
    intro l hl
    induction l with
    | nil => rfl
    | cons x l ih =>
      rw [List.foldl_cons, hpreset x (hl List.mem_cons_self)]
      exact ih fun y hy => hl (List.mem_cons_of_mem _ hy)
  rw [P11Object.init, hfold _ (List.Subset.refl _),
    initAttributes_of_exists fun a ha => hexists (h.attributes a ha)]

/-- What a preset has set, the other steps of `init` leave. -/
lemma preset_kept (hk : (k, p) ∈ kinds) {type : CK_ATTRIBUTE_TYPE} {v : UInt64}
    (hx : .value type v ∈ p.presets) {y : Preset} (hy : y ∈ p.presets)
    (h : OrderedMap.get type o.attributes = some (.unsignedLong v)) :
    OrderedMap.get type (applyPreset stores o y).attributes = some (.unsignedLong v) := by
  have hsame : presetType y = type → y = .value type v := fun ht =>
    List.inj_on_of_nodup_map (presetTypes_nodup _ hk) hy hx ht
  refine applyPreset_invariant (I := fun m => OrderedMap.get type m = some (.unsignedLong v)) stores
    ?_ ?_ h
  · rintro type' v' rfl m hm -
    rw [get_setAttribute]
    split
    · rename_i ht
      cases hsame ht.symm
      rfl
    · exact hm
  · rintro type' attr rfl m hm hmiss
    rw [get_setAttribute, if_neg, hm]
    rintro rfl
    cases hsame rfl

lemma presets_set (hk : (k, p) ∈ kinds) {l : List Preset} (hl : l ⊆ p.presets)
    (hv : (l.foldl (applyPreset stores) o).valid = true) :
    ∀ type v, .value type v ∈ l → OrderedMap.get type (l.foldl (applyPreset stores) o).attributes =
      some (.unsignedLong v) := by
  have hkept : ∀ l ⊆ p.presets, ∀ (o : OSObject) type v, .value type v ∈ p.presets →
      OrderedMap.get type o.attributes = some (.unsignedLong v) →
      OrderedMap.get type (l.foldl (applyPreset stores) o).attributes =
        some (.unsignedLong v) := by
    intro l hl
    induction l with
    | nil => exact fun o type v _ h => h
    | cons y l ih =>
      exact fun o type v hx h => ih (fun z hz => hl (List.mem_cons_of_mem _ hz)) _ type v hx
        (preset_kept hk hx (hl List.mem_cons_self) h)
  induction l generalizing o with
  | nil => exact fun _ _ h => absurd h List.not_mem_nil
  | cons y l ih =>
    have hl' : l ⊆ p.presets := fun z hz => hl (List.mem_cons_of_mem _ hz)
    intro type v hx
    rw [List.foldl_cons] at hv ⊢
    rcases List.mem_cons.1 hx with rfl | hx
    · -- it was there already, or it is put here
      have hvalid := (presets_exist hv).1
      refine hkept l hl' _ type v (hl List.mem_cons_self) ?_
      have ho := (applyPreset_exists hvalid).1
      simp only [applyPreset]
      split
      · rw [setAttribute_attributes, if_pos ho, get_setAttribute, if_pos rfl]
      · rename_i hc
        simp only [Bool.or_eq_true, Bool.not_eq_true', decide_eq_true_eq, not_or, Bool.not_eq_false,
          not_not, OSObject.attributeExists, ho, Bool.true_and] at hc
        obtain ⟨hex, hval⟩ := hc
        have hdefinite : v ≠ CKO_VENDOR_DEFINED :=
          of_decide_eq_true (definite_table _ hk _ (hl List.mem_cons_self))
        rw [← hval, getUnsignedLongValue] at hdefinite ⊢
        split at hdefinite
        · rename_i v' hget
          rw [hget]
        · exact absurd rfl hdefinite
    · exact ih hl' hv type v hx

/-- After `init` nothing is missing. -/
lemma whole_of_init (hk : (k, p) ∈ kinds) (h : p.init stores o = (true, o')) :
    Whole p o'.attributes := by
  rw [P11Object.init] at h
  have hvalid := valid_of_initAttributes (kinds_ne_nil _ hk) h
  refine ⟨initAttributes_exist h, fun type v hx => ?_⟩
  have hset := presets_set hk (List.Subset.refl _) hvalid type v hx
  have hkept := initAttributes_invariant (l := p.attributes)
    (I := fun m => OrderedMap.get type m = some (.unsignedLong v)) stores ?_ hset
  · rw [h] at hkept
    exact hkept
  · intro a _ m hm hmiss
    rw [get_setAttribute, if_neg, hm]
    rintro rfl
    rw [AttributeMap.attributeExists, hm] at hmiss
    cases hmiss

/-- `init` does not make an object unmodifiable. -/
lemma init_modifiable (hk : (k, p) ∈ kinds)
    (h : o.attributes.getBooleanValue CKA_MODIFIABLE true = true) :
    (p.init stores o).2.attributes.getBooleanValue CKA_MODIFIABLE true = true := by
  have hset : ∀ (m : AttributeMap) type attr, m.getBooleanValue CKA_MODIFIABLE true = true →
      (type = CKA_MODIFIABLE → attr = .boolean true) →
      (m.setAttribute type attr).getBooleanValue CKA_MODIFIABLE true = true := by
    intro m type attr hm hattr
    by_cases ht : type = CKA_MODIFIABLE
    · rw [hattr ht, ht, getBooleanValue_setAttribute_self]
    · rw [getBooleanValue_setAttribute_of_ne (Ne.symm ht), hm]
  refine init_invariant (I := fun m => m.getBooleanValue CKA_MODIFIABLE true = true) stores
    ?_ ?_ ?_ h
  · exact fun type v hx m hm _ => hset m _ _ hm fun ht =>
      absurd ht (modifiable_presets _ hk _ hx)
  · exact fun type attr hx m hm _ => hset m _ _ hm fun ht =>
      absurd ht (modifiable_presets _ hk _ hx)
  · intro a ha m hm _
    refine hset m _ _ hm fun ht => ?_
    have hdefault := modifiable_default _ hk a ha ht
    cases hd : a.default with
    | boolean value =>
      rw [hd] at hdefault
      rw [Option.some.inj hdefault]
    | _ => rw [hd] at hdefault; cases hdefault

end init

/-! ### The call -/

section save

variable {p : P11Object} {o o' : OSObject} {token : TokenView} {isPrivate : Bool} {w : Storage}
  {pTemplate : List CK_ATTRIBUTE} {rv : CK_RV}

lemma isModifiable_eq (m : AttributeMap) :
    m.isModifiable = m.getBooleanValue CKA_MODIFIABLE true := by
  unfold isModifiable
  cases h : m.attributeExists CKA_MODIFIABLE
  · exact (getBooleanValue_of_missing h true).symm
  · rfl

/-- An entry is refused after the transaction has been begun. -/
lemma saveTemplate_started {o₁ : OSObject} (hst : o.startTransaction w.locks = (true, o₁))
    (hm : o₁.attributes.getBooleanValue CKA_MODIFIABLE true = true)
    (hu : (p.updateAll token isPrivate .SET pTemplate o₁.attributes).1 ≠ CKR_OK) :
    p.saveTemplate token isPrivate w pTemplate .SET o =
      ((p.updateAll token isPrivate .SET pTemplate o₁.attributes).1,
        { o₁ with attributes :=
          (p.updateAll token isPrivate .SET pTemplate o₁.attributes).2 }.abortTransaction.2) := by
  have hmod : o₁.attributes.isModifiable = true := (isModifiable_eq _).trans hm
  have hcopy : (decide (ObjectOp.SET = .COPY) && !isCopyable o₁.attributes) = false := rfl
  rw [saveTemplate, hst]
  dsimp only
  rw [hmod, hcopy, if_neg (by simp), if_neg Bool.false_ne_true]
  rcases h : p.updateAll token isPrivate .SET pTemplate o₁.attributes with ⟨rv, m⟩
  rw [h] at hu
  cases rv <;> first | rfl | exact absurd rfl hu

/-- A template that is refused: only a session object keeps what has been written. -/
lemma saveTemplate_refuses (hset : o.Settled) (hv : o.valid = true)
    (hm : o.attributes.getBooleanValue CKA_MODIFIABLE true = true)
    (hu : (p.updateAll token isPrivate .SET pTemplate o.attributes).1 ≠ CKR_OK)
    (h : p.saveTemplate token isPrivate w pTemplate .SET o = (rv, o')) :
    rv ≠ CKR_OK ∧ o'.attributes =
      if o.isSession then (p.updateAll token isPrivate .SET pTemplate o.attributes).2
      else o.attributes := by
  cases hs : o.isSession
  · rw [if_neg Bool.false_ne_true]
    obtain ⟨hfile, ht⟩ := hset hs hv
    have hreload : o.reload = { o with valid := true } := by rw [OSObject.reload, hfile]
    cases hl : w.locks
    · have hst : o.startTransaction w.locks = (false, o) := by
        rw [startTransaction, hs, if_neg Bool.false_ne_true, hl, if_pos (by simp)]
      rw [saveTemplate, hst] at h
      cases h
      exact ⟨by simp, rfl⟩
    · have hst : o.startTransaction w.locks =
          (true, { o with valid := true, inTransaction := true }) := by
        simp [startTransaction, hs, hl, ht, hreload]
      rw [saveTemplate_started hst hm hu] at h
      cases h
      refine ⟨hu, ?_⟩
      simp [abortTransaction, OSObject.reload, hs, hfile]
  · rw [if_pos rfl]
    have hst : o.startTransaction w.locks = (true, o) := by
      rw [startTransaction, if_pos hs]
    rw [saveTemplate_started hst hm hu, abortTransaction, if_pos hs] at h
    cases h
    exact ⟨hu, rfl⟩

end save

namespace Create

open Search

variable {Obj Sess : Type} [DecidableEq Obj] [DecidableEq Sess]

/-- The checks that `C_SetAttributeValue` makes before it comes to the entries of a template. -/
structure Reaches (stores : CK_ATTRIBUTE_TYPE → Write) (hSession hObject : ℕ)
    (pTemplate : Option (List CK_ATTRIBUTE)) (st : Store Obj Sess) (t : List CK_ATTRIBUTE)
    (s : Sess) (o : Obj) (p : P11Object) : Prop where
  isInitialised : st.isInitialised = true
  template : pTemplate = some t
  session : st.handleManager.getSession hSession = some s
  feature : (st.fakeRutokenECP && hObject = FAKE_RUTOKEN_FEATURE_HANDLE) = false
  object : st.handleManager.getObject hObject = some o
  valid : (st.object o).valid = true
  haveWrite : haveWrite (st.getState s) ((st.object o).attributes.getBooleanValue CKA_TOKEN false)
    ((st.object o).attributes.getBooleanValue CKA_PRIVATE true) = CKR_OK
  modifiable : (st.object o).attributes.getBooleanValue CKA_MODIFIABLE true = true
  kind : attributeKind (st.object o).attributes = some p
  init : (p.init stores (st.object o)).1 = true

/-- What `saveTemplate` of `C_SetAttributeValue` is given. -/
def setToken (P : Primitives) (x : Outside) (st : Store Obj Sess) (s : Sess) : TokenView :=
  token P x (st.sdm (st.session s).slotID)

/-- An entry of the template is refused. -/
def Refuses (P : Primitives) (x : Outside) (stores : CK_ATTRIBUTE_TYPE → Write)
    (st : Store Obj Sess) (t : List CK_ATTRIBUTE) (s : Sess) (o : Obj) (p : P11Object) : Prop :=
  (p.updateAll (setToken P x st s)
    ((st.object o).attributes.getBooleanValue CKA_PRIVATE true) .SET t
    (p.init stores (st.object o)).2.attributes).1 ≠ CKR_OK

/-- The object lacks nothing, and it is one of a token or has all values already that the entries
before the refused one write last. -/
def Unharmed (p : P11Object) (token : TokenView) (t : List CK_ATTRIBUTE) (o : OSObject) : Prop :=
  Whole p o.attributes ∧ (o.isSession = true → ∀ type attr,
    OrderedMap.get type (p.written token (o.attributes.getBooleanValue CKA_PRIVATE true) t
      o.attributes).reverse = some attr → OrderedMap.get type o.attributes = some attr)

section call

variable {P : Primitives} {x : Outside} {st st' : Store Obj Sess} {rv : CK_RV}
  {stores : CK_ATTRIBUTE_TYPE → Write} {w : Storage} {hSession hObject : ℕ}
  {pTemplate : Option (List CK_ATTRIBUTE)} {t : List CK_ATTRIBUTE} {s : Sess} {o : Obj}
  {p : P11Object}

lemma setAttributeValue_eq (h : Reaches stores hSession hObject pTemplate st t s o p) :
    C_SetAttributeValue P x stores w hSession hObject pTemplate st =
      ((p.saveTemplate (setToken P x st s)
          ((st.object o).attributes.getBooleanValue CKA_PRIVATE true) w t .SET
          (p.init stores (st.object o)).2).1,
        st.setObject o (p.saveTemplate (setToken P x st s)
          ((st.object o).attributes.getBooleanValue CKA_PRIVATE true) w t .SET
          (p.init stores (st.object o)).2).2) := by
  have hnew : newP11Object stores (st.object o) = (.ok p, (p.init stores (st.object o)).2) := by
    unfold newP11Object
    rw [kindOf_of_valid h.valid, h.kind]
    rcases hi : p.init stores (st.object o) with ⟨_ | _, object⟩
    · have := h.init
      rw [hi] at this
      cases this
    · simp only [hi]
  unfold C_SetAttributeValue
  rw [h.isInitialised, h.template, h.session]
  simp only [Bool.not_true, Bool.false_eq_true, if_false, h.feature, h.object, h.valid, h.haveWrite,
    h.modifiable, ne_eq, not_true_eq_false, hnew]
  rfl

/-- **A template that is refused.** The call fails, and the object has the values it had exactly if
it lacked none and is an object of a token, or one of a session to which the entries before
the refused one gave what it had. -/
theorem setAttributeValue_unharmed_iff (hset : (st.object o).Settled)
    (hr : Reaches stores hSession hObject pTemplate st t s o p)
    (hrefuses : Refuses P x stores st t s o p)
    (h : C_SetAttributeValue P x stores w hSession hObject pTemplate st = (rv, st')) :
    rv ≠ CKR_OK ∧
    ((∀ type, OrderedMap.get type (st'.object o).attributes =
        OrderedMap.get type (st.object o).attributes) ↔
      Unharmed p (setToken P x st s) t (st.object o)) := by
  have hk := p11ObjectOf_mem hr.kind
  rw [setAttributeValue_eq hr] at h
  cases h
  rcases hi : p.init stores (st.object o) with ⟨b, o₁⟩
  have hb : b = true := by
    have := hr.init
    rw [hi] at this
    exact this
  subst hb
  have hsettled : (p.init stores (st.object o)).2.Settled := (init_settled hset).1
  have hsession : (p.init stores (st.object o)).2.isSession = (st.object o).isSession :=
    (init_settled hset).2
  have hmodifiable :
      (p.init stores (st.object o)).2.attributes.getBooleanValue CKA_MODIFIABLE true = true :=
    init_modifiable hk hr.modifiable
  unfold Refuses at hrefuses
  rw [hi] at hsettled hsession hmodifiable hrefuses
  have hvalid := valid_of_init (kinds_ne_nil _ hk) hi
  dsimp only at hsettled hsession hmodifiable hrefuses ⊢
  rcases hsave : p.saveTemplate (setToken P x st s)
    ((st.object o).attributes.getBooleanValue CKA_PRIVATE true) w t .SET o₁ with ⟨rv, o'⟩
  obtain ⟨hne, hattr⟩ := saveTemplate_refuses hsettled hvalid hmodifiable hrefuses hsave
  refine ⟨hne, ?_⟩
  rw [updateAll_written hk, hsession] at hattr
  have hobject : (st.setObject o o').object o = o' := by
    simp [Store.setObject]
  simp only [hobject, hattr]
  constructor
  · -- whatever is there afterwards was there before
    intro hsame
    have hwhole : Whole p (st.object o).attributes := by
      have hw := whole_of_init hk hi
      refine ⟨fun a ha => ?_, fun type v hx => ?_⟩
      · rw [AttributeMap.attributeExists, ← hsame, ← AttributeMap.attributeExists]
        split
        · exact attributeExists_putAll (hw.attributes a ha) _
        · exact hw.attributes a ha
      · rw [← hsame]
        split
        · rw [get_putAll fun y hy => ?_, hw.presets type v hx]
          rintro rfl
          exact written_types hk hy (value_fits (c := .reading p) hk hx)
        · exact hw.presets type v hx
    refine ⟨hwhole, fun hs type attr hlast => ?_⟩
    rw [init_of_whole hk hr.valid hwhole] at hi
    cases hi
    rw [← hsame, hs, if_pos rfl, get_putAll_last, hlast]
    rfl
  · rintro ⟨hwhole, hlast⟩ type
    rw [init_of_whole hk hr.valid hwhole] at hi
    cases hi
    cases hs : (st.object o).isSession
    · rfl
    · rw [if_pos rfl, get_putAll_last]
      cases hput : OrderedMap.get type (p.written (setToken P x st s)
        ((st.object o).attributes.getBooleanValue CKA_PRIVATE true) t
        (st.object o).attributes).reverse with
      | none => rfl
      | some attr => exact (hlast hs type attr hput).symm

end call

/-! ### A label and an attribute that there is not -/

/-- A public data object of a session, without a label. -/
def unlabelled : OSObject :=
  ⟨true, [(CKA_CLASS, .unsignedLong CKO_DATA), (CKA_TOKEN, .boolean false),
    (CKA_PRIVATE, .boolean false), (CKA_LABEL, .byteString []), (CKA_APPLICATION, .byteString []),
    (CKA_VALUE, .byteString []), (CKA_OBJECT_ID, .byteString []), (CKA_MODIFIABLE, .boolean true),
    (CKA_COPYABLE, .boolean true), (CKA_DESTROYABLE, .boolean true)], true, none, false⟩

/-- One session and the data object. -/
def oneObject : Store ℕ Unit :=
  { oneSession with
    handleManager := (oneSession.handleManager.addSessionObject 0 1 false 0).2.1
    allObjects := fun _ => [0]
    object := fun _ => unlabelled }

/-- A new label, and then an attribute that a data object does not have. -/
def labelAndUnknown : List CK_ATTRIBUTE :=
  [⟨CKA_LABEL, some [0x61], 0⟩, ⟨0x9999, some [], 0⟩]

def relabel : CK_RV × Store ℕ Unit :=
  C_SetAttributeValue plainCopies noOutside (fun _ => .done) ⟨true, .done⟩ 1 2
    (some labelAndUnknown) oneObject

lemma kind_oneObject : attributeKind (oneObject.object 0).attributes = some P11DataObj := by
  have hclass : (oneObject.object 0).attributes.getUnsignedLongValue CKA_CLASS
      CKO_VENDOR_DEFINED = CKO_DATA := by decide +kernel
  rw [attributeKind, hclass]
  rfl

lemma reaches_oneObject : Reaches (fun _ => .done) 1 2 (some labelAndUnknown) oneObject
    labelAndUnknown () 0 P11DataObj where
  isInitialised := by decide +kernel
  template := rfl
  session := by decide +kernel
  feature := by decide +kernel
  object := by decide +kernel
  valid := by decide +kernel
  haveWrite := by decide +kernel
  modifiable := by decide +kernel
  kind := kind_oneObject
  init := by decide +kernel

lemma relabel_eq : C_SetAttributeValue plainCopies noOutside (fun _ => .done) ⟨true, .done⟩ 1 2
    (some labelAndUnknown) oneObject = (relabel.1, relabel.2) := rfl

theorem setAttributeValue_unharmed_iff_label : relabel.1 ≠ CKR_OK ∧
    ((∀ type, OrderedMap.get type (relabel.2.object 0).attributes =
        OrderedMap.get type (oneObject.object 0).attributes) ↔
      Unharmed P11DataObj (setToken plainCopies noOutside oneObject ()) labelAndUnknown
        (oneObject.object 0)) :=
  setAttributeValue_unharmed_iff (settled_of_session rfl) reaches_oneObject
    (by unfold Refuses; decide +kernel) relabel_eq

/-- The call fails, and the object has another label. -/
theorem relabelled : (oneObject.object 0).isSession = true ∧
    relabel.1 = CKR_ATTRIBUTE_TYPE_INVALID ∧
    (oneObject.object 0).attributes.getByteStringValue CKA_LABEL = [] ∧
    (relabel.2.object 0).attributes.getByteStringValue CKA_LABEL = [0x61] := by
  decide +kernel

end Create

end SoftHSM
