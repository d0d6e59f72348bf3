import SoftHSM.ObjectStore.BackendSteps

/-!
The two backends over sequences of calls. They answer alike as long as nobody asks for the time of
creation, the number of a licence, of a local PIN or of a mark is one that the database has a kind for,
nobody takes the mark of the user PIN off the flags while that PIN is there, and no object is deleted
twice.
-/

namespace SoftHSM.Backend

open RelyGuarantee DB Transition
open DBObject (Op Answer)
open OSToken (answer)

variable {a : AttributeStore} {m n : AttributeMap} {type : CK_ATTRIBUTE_TYPE} {c : DB.Connection}

/-! ### The programs on a map -/

section programs

@[simp] lemma eval_attributeExists : (attributeExists type).eval answer a =
    (AttributeMap.attributeExists a.map type, a) := rfl

@[simp] lemma eval_getAttribute : (getAttribute type).eval answer a =
    ((OrderedMap.get type a.map).getD (.unsignedLong 0), a) := rfl

@[simp] lemma eval_setAttribute (given : OSAttribute) : (setAttribute type given).eval answer a =
    (true, { a with map := a.map.setAttribute type given }) := rfl

@[simp] lemma eval_commitTransaction : commitTransaction.eval answer ⟨n, some m⟩ =
    (true, ⟨n, none⟩) := rfl

@[simp] lemma eval_abortTransaction : abortTransaction.eval answer ⟨n, some m⟩ =
    (true, ⟨m, none⟩) := rfl

@[simp] lemma eval_deleteAttribute : (deleteAttribute type).eval answer a =
    (AttributeMap.attributeExists a.map type,
      { a with map := OrderedMap.erase type a.map }) := rfl

@[simp] lemma eval_lookup : (lookup type).eval answer a = (OrderedMap.get type a.map, a) := by
  unfold lookup
  rw [Program.eval_bind, eval_attributeExists, Program.eval_ite, AttributeMap.attributeExists]
  rcases h : OrderedMap.get type a.map with _ | attr
  · rfl
  · simp [h]

lemma erase_of_none (h : OrderedMap.get type m = none) : OrderedMap.erase type m = m :=
  List.filter_eq_self.2 fun e he => by simpa using OrderedMap.get_eq_none.1 h e he

@[simp] lemma eval_remove : (remove type).eval answer a =
    (true, { a with map := OrderedMap.erase type a.map }) := by
  unfold remove
  rw [Program.eval_bind, eval_attributeExists, Program.eval_ite, eval_deleteAttribute,
    AttributeMap.attributeExists]
  rcases h : OrderedMap.get type a.map with _ | attr
  · rw [erase_of_none h]
    rfl
  · rfl

/-- What a mark makes of the map. -/
def marked (m : AttributeMap) (type : CK_ATTRIBUTE_TYPE) (value : Bool) : AttributeMap :=
  if value then m.setAttribute type (.boolean true) else OrderedMap.erase type m

@[simp] lemma eval_mark {value : Bool} : (mark type value).eval answer a =
    (true, { a with map := marked a.map type value }) := by
  cases value with
  | false => exact eval_remove
  | true => rfl

/-- The map without some of its attributes. -/
def without (m : AttributeMap) (types : List CK_ATTRIBUTE_TYPE) : AttributeMap :=
  types.foldl (fun m type => OrderedMap.erase type m) m

@[simp] lemma eval_removeAll (types : List CK_ATTRIBUTE_TYPE) : (removeAll types).eval answer a =
    (true, { a with map := without a.map types }) := by
  induction types generalizing a with
  | nil => rfl
  | cons type types ih =>
    simp only [removeAll, Program.eval_bind, eval_remove, Bool.not_true, Bool.false_eq_true, if_false]
    rw [ih]
    rfl

@[simp] lemma eval_conclude : (conclude true).eval answer ⟨n, some m⟩ = (true, ⟨n, none⟩) := rfl

@[simp] lemma along_attributeExists :
    (attributeExists type).Along answer Allowed a ↔ type ≠ CKA_OS_TOKENCREATED :=
  and_iff_left trivial

@[simp] lemma along_getAttribute :
    (getAttribute type).Along answer Allowed a ↔ type ≠ CKA_OS_TOKENCREATED :=
  and_iff_left trivial

@[simp] lemma along_setAttribute {given : OSAttribute} :
    (setAttribute type given).Along answer Allowed a ↔
      type ≠ CKA_OS_TOKENCREATED ∧ DB.kindOf given = DB.attributeKind type ∧ Storable given :=
  and_iff_left trivial

@[simp] lemma along_deleteAttribute : (deleteAttribute type).Along answer Allowed a ↔
    type ≠ CKA_OS_TOKENCREATED ∧ a.saved.isSome = true :=
  and_iff_left trivial

@[simp] lemma along_commitTransaction : commitTransaction.Along answer Allowed a :=
  ⟨trivial, trivial⟩

@[simp] lemma along_abortTransaction : abortTransaction.Along answer Allowed a :=
  ⟨trivial, trivial⟩

lemma along_lookup (h : type ≠ CKA_OS_TOKENCREATED) : (lookup type).Along answer Allowed a := by
  unfold lookup
  rw [Program.along_bind]
  refine ⟨along_attributeExists.2 h, ?_⟩
  split
  · exact Program.along_bind.2 ⟨along_getAttribute.2 h, trivial⟩
  · trivial

lemma along_remove (h : type ≠ CKA_OS_TOKENCREATED) (ha : a.saved.isSome = true) :
    (remove type).Along answer Allowed a := by
  unfold remove
  rw [Program.along_bind]
  refine ⟨along_attributeExists.2 h, ?_⟩
  split
  · exact along_deleteAttribute.2 ⟨h, ha⟩
  · trivial

/-- A mark that the database can set, or that is there in both backends or in none. -/
def Markable (type : CK_ATTRIBUTE_TYPE) (value : Bool) : Prop :=
  if value then DB.attributeKind type = .akBoolean
  else type ≠ CKA_OS_TOKENCREATED ∧ type ≠ CKA_OS_TOKENFLAGS

lemma ne_created_of_kind (h : DB.attributeKind type ≠ .akUnknown) : type ≠ CKA_OS_TOKENCREATED := by
  rintro rfl
  exact h (by decide)

lemma along_mark {value : Bool} (h : Markable type value) (ha : a.saved.isSome = true) :
    (mark type value).Along answer Allowed a := by
  cases value with
  | false => exact along_remove h.1 ha
  | true =>
    have hk : DB.attributeKind type = .akBoolean := h
    exact along_setAttribute.2 ⟨ne_created_of_kind (by rw [hk]; decide), hk.symm, trivial⟩

lemma along_removeAll {types : List CK_ATTRIBUTE_TYPE} (h : CKA_OS_TOKENCREATED ∉ types)
    (ha : a.saved.isSome = true) : (removeAll types).Along answer Allowed a := by
  induction types generalizing a with
  | nil => trivial
  | cons type types ih =>
    rw [List.mem_cons, not_or] at h
    unfold removeAll
    rw [Program.along_bind]
    refine ⟨along_remove (Ne.symm h.1) ha, ?_⟩
    rw [eval_remove]
    exact ih h.2 ha

lemma along_conclude (stored : Bool) : (conclude stored).Along answer Allowed a := by
  unfold conclude
  cases stored with
  | false => exact Program.along_bind.2 ⟨along_abortTransaction, trivial⟩
  | true =>
    refine Program.along_bind.2 ⟨along_commitTransaction, ?_⟩
    split
    · exact Program.along_bind.2 ⟨along_abortTransaction, trivial⟩
    · trivial

/-- A value of bytes that the database can store. -/
lemma along_setBytes (h : DB.attributeKind type = .akBinary) (value : ByteString) :
    (setAttribute type (.byteString value)).Along answer Allowed a :=
  along_setAttribute.2 ⟨ne_created_of_kind (by rw [h]; decide), h.symm, trivial⟩

lemma along_setFlags (flags : CK_FLAGS) :
    (setAttribute CKA_OS_TOKENFLAGS (.unsignedLong flags)).Along answer Allowed a := by
  have hk : DB.attributeKind CKA_OS_TOKENFLAGS = .akInteger := by decide
  exact along_setAttribute.2 ⟨by decide, hk.symm, trivial⟩

end programs

/-! ### Requests -/

/-- A number under which the database can store bytes; those of the user PIN come with its mark. -/
def Bytes (type : CK_ATTRIBUTE_TYPE) : Prop :=
  DB.attributeKind type = .akBinary ∧ type ≠ CKA_OS_USERPIN

/-- What a request needs so that both backends answer it alike. -/
def Request.Fits (m : AttributeMap) : Request → Prop
  | .getTokenCreationTime => False
  | .setTokenFlags flags => (OrderedMap.get CKA_OS_USERPIN m).isSome = true →
      flags ||| CKF_USER_PIN_INITIALIZED = flags
  | .getLicense id => CKA_OS_LICENSE id ≠ CKA_OS_TOKENCREATED
  | .setLicense id _ => Bytes (CKA_OS_LICENSE id)
  | .getLocalPIN id => CKA_OS_LOCALPIN id ≠ CKA_OS_TOKENCREATED
  | .updateLocalPIN id expected _ isDefault => CKA_OS_LOCALPIN id ≠ CKA_OS_TOKENCREATED ∧
      (((OrderedMap.get (CKA_OS_LOCALPIN id) m).map (·.byteStrValue)).getD [] = expected →
        Bytes (CKA_OS_LOCALPIN id) ∧ ∀ value ∈ isDefault, Markable (CKA_OS_PINDEFAULT id) value)
  | .getPinDefault id => CKA_OS_PINDEFAULT id ≠ CKA_OS_TOKENCREATED
  | .setPinDefault id isDefault => Markable (CKA_OS_PINDEFAULT id) isDefault
  | _ => True

/-- The flags are there, with the mark of the user PIN where that is. -/
def Flagged (m : AttributeMap) : Prop :=
  ∃ flags, OrderedMap.get CKA_OS_TOKENFLAGS m = some (.unsignedLong flags) ∧
    ((OrderedMap.get CKA_OS_USERPIN m).isSome = true → flags ||| CKF_USER_PIN_INITIALIZED = flags)

/-- A program of the database answers as a program on the map does, and they agree again. -/
def Agree (c : DB.Connection) (m : AttributeMap) (dbProg osProg : Prog Reply) : Prop :=
  (osProg.eval answer ⟨m, none⟩).2.saved = none ∧
    Flagged (osProg.eval answer ⟨m, none⟩).2.map ∧
    ∃ o', dbProg.run (fun op o => DBObject.exec o op) ⟨c, [], none⟩ =
        some ((osProg.eval answer ⟨m, none⟩).1, o') ∧
      HoldsBut o'.connection (osProg.eval answer ⟨m, none⟩).2.map

lemma HoldsBut.congr (h : HoldsBut c m) (hmn : ∀ t, OrderedMap.get t n = OrderedMap.get t m) :
    HoldsBut c n := by
  obtain ⟨hc, k, hholds, hsame⟩ := h
  exact ⟨hc, k, hholds, fun t ht => (hsame t ht).trans (hmn t).symm⟩

/-- **One request** on both sides, from what each of them comes to on the map. -/
lemma agree_of_eval (h : HoldsBut c m) {refused r : Reply} {body osProg : Prog Reply}
    {k : AttributeMap} (ha : body.Along answer Allowed ⟨m, some m⟩)
    (hdb : body.eval answer ⟨m, some m⟩ = (r, ⟨k, none⟩))
    (hos : osProg.eval answer ⟨m, none⟩ = (r, ⟨n, none⟩)) (hn : Flagged n)
    (hkn : ∀ t, OrderedMap.get t n = OrderedMap.get t k) :
    Agree c m (opening refused body) osProg := by
  obtain ⟨o', hrun, hholds⟩ := run_opening h refused ha (by rw [hdb])
  rw [hdb] at hrun hholds
  rw [Agree, hos]
  exact ⟨rfl, hn, o', hrun, hholds.congr hkn⟩

/-- The same steps on both sides. -/
lemma agree_self (h : HoldsBut c m) {refused : Reply} {body : Prog Reply}
    (ha : body.Along answer Allowed ⟨m, some m⟩)
    (hclosed : (body.eval answer ⟨m, some m⟩).2.saved = none)
    (hn : Flagged (body.eval answer ⟨m, some m⟩).2.map) :
    Agree c m (opening refused body) (opening refused body) := by
  obtain ⟨o', hrun, hholds⟩ := run_opening h refused ha hclosed
  exact ⟨hclosed, hn, o', hrun, hholds⟩

/-! What keeps the flags. -/

lemma Flagged.of_get (h : Flagged m)
    (hflags : OrderedMap.get CKA_OS_TOKENFLAGS n = OrderedMap.get CKA_OS_TOKENFLAGS m)
    (huser : (OrderedMap.get CKA_OS_USERPIN n).isSome = true →
      (OrderedMap.get CKA_OS_USERPIN m).isSome = true) : Flagged n := by
  obtain ⟨flags, hf, hu⟩ := h
  exact ⟨flags, hflags.trans hf, fun hn => hu (huser hn)⟩

lemma Flagged.set (h : Flagged m) (hflags : type ≠ CKA_OS_TOKENFLAGS) (huser : type ≠ CKA_OS_USERPIN)
    (given : OSAttribute) : Flagged (m.setAttribute type given) := by
  refine h.of_get (OrderedMap.get_put_of_ne hflags.symm _ _) fun hn => ?_
  rwa [AttributeMap.setAttribute, OrderedMap.get_put_of_ne huser.symm] at hn

lemma Flagged.erase (h : Flagged m) (hflags : type ≠ CKA_OS_TOKENFLAGS) :
    Flagged (OrderedMap.erase type m) := by
  refine h.of_get (by rw [OrderedMap.get_erase, if_neg hflags.symm]) fun hn => ?_
  rw [OrderedMap.get_erase] at hn
  split at hn
  · cases hn
  · exact hn

lemma ne_flags_of_kind (h : DB.attributeKind type ≠ .akInteger) : type ≠ CKA_OS_TOKENFLAGS := by
  rintro rfl
  exact h (by decide)

lemma Bytes.flagged (h : Bytes type) (hm : Flagged m) (given : OSAttribute) :
    Flagged (m.setAttribute type given) :=
  hm.set (ne_flags_of_kind (by rw [h.1]; decide)) h.2 given

lemma Markable.flagged {value : Bool} (h : Markable type value) (hm : Flagged m) :
    Flagged (marked m type value) := by
  cases value with
  | false => exact hm.erase h.2
  | true =>
    have hk : DB.attributeKind type = .akBoolean := h
    have huser : type ≠ CKA_OS_USERPIN := by
      rintro rfl
      exact absurd hk (by decide)
    exact hm.set (ne_flags_of_kind (by rw [hk]; decide)) huser _

lemma along_concluded {steps : Prog Bool} (ha : steps.Along answer Allowed a) :
    (do return Reply.done (← conclude (← steps)) : Prog Reply).Along answer Allowed a :=
  Program.along_bind.2 ⟨ha, Program.along_bind.2 ⟨along_conclude _, trivial⟩⟩

lemma eval_concluded {steps : Prog Bool}
    (hdb : steps.eval answer ⟨m, some m⟩ = (true, ⟨n, some m⟩)) :
    (do return Reply.done (← conclude (← steps)) : Prog Reply).eval answer ⟨m, some m⟩ =
      (.done true, ⟨n, none⟩) := by
  rw [Program.eval_bind, hdb, Program.eval_bind, eval_conclude]
  rfl

/-- Steps in a transaction that succeed. -/
lemma stored_agree (h : HoldsBut c m) {steps : Prog Bool} {osProg : Prog Reply} {k : AttributeMap}
    (ha : steps.Along answer Allowed ⟨m, some m⟩)
    (hdb : steps.eval answer ⟨m, some m⟩ = (true, ⟨k, some m⟩))
    (hos : osProg.eval answer ⟨m, none⟩ = (.done true, ⟨n, none⟩)) (hn : Flagged n)
    (hkn : ∀ t, OrderedMap.get t n = OrderedMap.get t k) :
    Agree c m (inTransaction steps) osProg :=
  agree_of_eval h (along_concluded ha) (eval_concluded hdb) hos hn hkn

/-- The same steps on both sides. -/
lemma inTransaction_agree (h : HoldsBut c m) {steps : Prog Bool}
    (ha : steps.Along answer Allowed ⟨m, some m⟩)
    (hdb : steps.eval answer ⟨m, some m⟩ = (true, ⟨n, some m⟩)) (hn : Flagged n) :
    Agree c m (inTransaction steps) (inTransaction steps) := by
  have heval := eval_concluded hdb
  exact agree_self h (along_concluded ha) (by rw [heval]) (by rwa [heval])

/-- What the mark of a local PIN makes of the map. -/
def markedDefault (m : AttributeMap) (id : UInt64) : Option Bool → AttributeMap
  | none => m
  | some value => marked m (CKA_OS_PINDEFAULT id) value

lemma eval_markDefault {id : UInt64} {isDefault : Option Bool} :
    (markDefault id isDefault).eval answer a =
      (true, { a with map := markedDefault a.map id isDefault }) := by
  cases isDefault with
  | none => rfl
  | some value => exact eval_mark

lemma along_markDefault {id : UInt64} {isDefault : Option Bool}
    (h : ∀ value ∈ isDefault, Markable (CKA_OS_PINDEFAULT id) value) (ha : a.saved.isSome = true) :
    (markDefault id isDefault).Along answer Allowed a := by
  cases isDefault with
  | none => trivial
  | some value => exact along_mark (h value rfl) ha

lemma flagged_markedDefault (hm : Flagged m) {id : UInt64} {isDefault : Option Bool}
    (h : ∀ value ∈ isDefault, Markable (CKA_OS_PINDEFAULT id) value) :
    Flagged (markedDefault m id isDefault) := by
  cases isDefault with
  | none => exact hm
  | some value => exact (h value rfl).flagged hm

/-! What the two sides read of the flags. -/

section flags

variable {flags : CK_FLAGS}

lemma not_or_flags (x y : CK_FLAGS) : ~~~(x ||| y) = ~~~x &&& ~~~y :=
  UInt64.toBitVec_inj.1 BitVec.not_or

lemma eval_tokenFlags (hf : OrderedMap.get CKA_OS_TOKENFLAGS a.map = some (.unsignedLong flags)) :
    OSToken.tokenFlags.eval answer a =
      (some (if (OrderedMap.get CKA_OS_USERPIN a.map).isSome then flags ||| CKF_USER_PIN_INITIALIZED
        else flags), a) := by
  unfold OSToken.tokenFlags
  rw [Program.eval_bind, eval_lookup, hf]
  dsimp only
  rw [Program.eval_bind, eval_attributeExists, Program.eval_ite, AttributeMap.attributeExists]
  rcases OrderedMap.get CKA_OS_USERPIN a.map with _ | attr <;> rfl

lemma readFlags (hu : (OrderedMap.get CKA_OS_USERPIN m).isSome = true →
    flags ||| CKF_USER_PIN_INITIALIZED = flags) :
    (if (OrderedMap.get CKA_OS_USERPIN m).isSome = true then flags ||| CKF_USER_PIN_INITIALIZED
      else flags) = flags := by
  split
  · exact hu ‹_›
  · rfl

lemma eval_changeFlags (hf : OrderedMap.get CKA_OS_TOKENFLAGS a.map = some (.unsignedLong flags))
    (change : CK_FLAGS → CK_FLAGS) : (DBToken.changeFlags change).eval answer a =
      (true, { a with map := a.map.setAttribute CKA_OS_TOKENFLAGS (.unsignedLong (change flags)) }) := by
  unfold DBToken.changeFlags
  rw [Program.eval_bind, eval_attributeExists, AttributeMap.attributeExists, hf]
  dsimp only
  rw [if_neg (by simp), Program.eval_bind, eval_getAttribute, hf]
  rfl

lemma along_changeFlags (change : CK_FLAGS → CK_FLAGS) :
    (DBToken.changeFlags change).Along answer Allowed a := by
  unfold DBToken.changeFlags
  refine Program.along_bind.2 ⟨along_attributeExists.2 (by decide), ?_⟩
  split
  · trivial
  · exact Program.along_bind.2 ⟨along_getAttribute.2 (by decide), along_setFlags _⟩

/-- Flags with the mark of the user PIN where that is. -/
lemma flagged_setFlags (hu : (OrderedMap.get CKA_OS_USERPIN m).isSome = true →
    flags ||| CKF_USER_PIN_INITIALIZED = flags) :
    Flagged (m.setAttribute CKA_OS_TOKENFLAGS (.unsignedLong flags)) := by
  refine ⟨flags, OrderedMap.get_put_self _ _ _, fun h => hu ?_⟩
  rwa [AttributeMap.setAttribute, OrderedMap.get_put_of_ne (by decide)] at h

/-- The mark stays where other bits go. -/
lemma masked_initialized {mask : CK_FLAGS} (hmask : mask &&& CKF_USER_PIN_INITIALIZED = 0)
    (h : flags ||| CKF_USER_PIN_INITIALIZED = flags) :
    (flags &&& ~~~mask) ||| CKF_USER_PIN_INITIALIZED = flags &&& ~~~mask := by
  rw [← UInt64.toBitVec_inj] at *
  simp only [UInt64.toBitVec_or, UInt64.toBitVec_and, UInt64.toBitVec_not] at *
  apply BitVec.eq_of_getLsbD_eq
  intro i hi
  have h1 := congrArg (BitVec.getLsbD · i) hmask
  have h2 := congrArg (BitVec.getLsbD · i) h
  simp only [BitVec.getLsbD_or, BitVec.getLsbD_and, BitVec.getLsbD_not, hi, UInt64.toBitVec_zero,
    BitVec.getLsbD_zero] at h1 h2 ⊢
  revert h1 h2
  generalize CKF_USER_PIN_INITIALIZED.toBitVec.getLsbD i = bit
  cases bit <;> simp +contextual

/-- A blob and changed flags, in the database. -/
lemma along_storeBlob (hk : DB.attributeKind type = .akBinary) (blob : ByteString)
    (change : CK_FLAGS → CK_FLAGS) :
    (do if !(← setAttribute type (.byteString blob)) then return false
        DBToken.changeFlags change : Prog Bool).Along answer Allowed a := by
  refine Program.along_bind.2 ⟨along_setBytes hk _, ?_⟩
  rw [eval_setAttribute]
  dsimp only
  rw [if_neg (by simp)]
  exact along_changeFlags change

lemma eval_storeBlob {blob : ByteString} {change : CK_FLAGS → CK_FLAGS}
    (hf : OrderedMap.get CKA_OS_TOKENFLAGS (m.setAttribute type (.byteString blob)) =
      some (.unsignedLong flags)) :
    (do if !(← setAttribute type (.byteString blob)) then return false
        DBToken.changeFlags change : Prog Bool).eval answer ⟨m, some m⟩ =
      (true, ⟨(m.setAttribute type (.byteString blob)).setAttribute CKA_OS_TOKENFLAGS
        (.unsignedLong (change flags)), some m⟩) := by
  rw [Program.eval_bind, eval_setAttribute]
  dsimp only
  rw [if_neg (by simp)]
  exact @eval_changeFlags ⟨m.setAttribute type (.byteString blob), some m⟩ flags hf change

end flags

/-! What a reset takes away. -/

lemma get_without (types : List CK_ATTRIBUTE_TYPE) (m : AttributeMap) (t : CK_ATTRIBUTE_TYPE) :
    OrderedMap.get t (without m types) = if t ∈ types then none else OrderedMap.get t m := by
  unfold without
  induction types generalizing m with
  | nil => rfl
  | cons type types ih =>
    rw [List.foldl_cons, ih, OrderedMap.get_erase]
    by_cases h1 : t = type <;> by_cases h2 : t ∈ types <;> simp [h1, h2]

lemma not_mem_userState : CKA_OS_TOKENCREATED ∉ userState ∧ CKA_OS_TOKENFLAGS ∉ userState ∧
    CKA_OS_TOKENLABEL ∉ userState ∧ CKA_OS_USERPIN ∈ userState := by
  decide


section reset

variable {types : List CK_ATTRIBUTE_TYPE} {flags : CK_FLAGS} {change : CK_FLAGS → CK_FLAGS}
  {label : ByteString}

/-- The steps of a reset in the database. -/
def resetSteps (types : List CK_ATTRIBUTE_TYPE) (change : CK_FLAGS → CK_FLAGS) (label : ByteString) :
    Prog Bool := do
  if !(← removeAll types) then return false
  if !(← DBToken.changeFlags change) then return false
  setAttribute CKA_OS_TOKENLABEL (.byteString label)

lemma eval_resetSteps (hf : OrderedMap.get CKA_OS_TOKENFLAGS (without m types) =
      some (.unsignedLong flags)) :
    (resetSteps types change label).eval answer ⟨m, some m⟩ =
      (true, ⟨AttributeMap.setAttribute (AttributeMap.setAttribute (without m types) CKA_OS_TOKENFLAGS
        (.unsignedLong (change flags))) CKA_OS_TOKENLABEL (.byteString label), some m⟩) := by
  unfold resetSteps
  rw [Program.eval_bind, eval_removeAll]
  dsimp only
  rw [if_neg (by simp), Program.eval_bind, @eval_changeFlags ⟨without m types, some m⟩ flags hf]
  dsimp only
  rw [if_neg (by simp)]
  rfl

lemma along_resetSteps (hcreated : CKA_OS_TOKENCREATED ∉ types)
    (hf : OrderedMap.get CKA_OS_TOKENFLAGS (without m types) = some (.unsignedLong flags)) :
    (resetSteps types change label).Along answer Allowed ⟨m, some m⟩ := by
  refine Program.along_bind.2 ⟨along_removeAll hcreated rfl, ?_⟩
  rw [eval_removeAll]
  dsimp only
  rw [if_neg (by simp)]
  refine Program.along_bind.2 ⟨along_changeFlags _, ?_⟩
  rw [@eval_changeFlags ⟨without m types, some m⟩ flags hf]
  exact along_setBytes (by decide) _

/-- Both orders of the steps come to the same attributes. -/
lemma get_reset (hflags : CKA_OS_TOKENFLAGS ∉ types) (hlabel : CKA_OS_TOKENLABEL ∉ types)
    (given given' : OSAttribute) (t : CK_ATTRIBUTE_TYPE) :
    OrderedMap.get t (without ((m.setAttribute CKA_OS_TOKENLABEL given).setAttribute CKA_OS_TOKENFLAGS
      given') types) =
    OrderedMap.get t (AttributeMap.setAttribute (AttributeMap.setAttribute (without m types)
      CKA_OS_TOKENFLAGS given') CKA_OS_TOKENLABEL given) := by
  rw [get_without]
  simp only [AttributeMap.setAttribute]
  by_cases h1 : t = CKA_OS_TOKENLABEL
  · subst h1
    rw [if_neg hlabel, OrderedMap.get_put_of_ne (by decide), OrderedMap.get_put_self,
      OrderedMap.get_put_self]
  by_cases h2 : t = CKA_OS_TOKENFLAGS
  · subst h2
    rw [if_neg hflags, OrderedMap.get_put_self, OrderedMap.get_put_of_ne h1,
      OrderedMap.get_put_self]
  · rw [OrderedMap.get_put_of_ne h2, OrderedMap.get_put_of_ne h1, OrderedMap.get_put_of_ne h1,
      OrderedMap.get_put_of_ne h2, get_without]

end reset

lemma setTokenFlags_agree (h : HoldsBut c m) {flags : CK_FLAGS}
    (hflags : (OrderedMap.get CKA_OS_USERPIN m).isSome = true →
      flags ||| CKF_USER_PIN_INITIALIZED = flags) :
    Agree c m (DBToken.setTokenFlags flags) (OSToken.setTokenFlags flags) := by
  refine stored_agree h (along_setFlags flags) rfl rfl ?_ fun _ => rfl
  exact flagged_setFlags hflags

section requests

variable (h : HoldsBut c m) (hm : Flagged m)

include h hm

/-! ### Reading -/

lemma getBytes_agree (ht : type ≠ CKA_OS_TOKENCREATED) :
    Agree c m (DBToken.getBytes type) (OSToken.getBytes type) := by
  have hos : (OSToken.getBytes type).eval answer ⟨m, none⟩ =
      (.bytes ((OrderedMap.get type m).map (·.byteStrValue)), ⟨m, none⟩) := by
    rw [OSToken.getBytes, Program.eval_bind, eval_lookup, Program.eval_pure]
  refine agree_of_eval h ?_ ?_ hos hm fun t => rfl
  · rw [Program.along_bind]
    refine ⟨along_attributeExists.2 ht, ?_⟩
    split
    · exact Program.along_bind.2 ⟨along_abortTransaction, trivial⟩
    · refine Program.along_bind.2 ⟨along_commitTransaction, ?_⟩
      exact Program.along_bind.2 ⟨along_getAttribute.2 ht, trivial⟩
  · rw [Program.eval_bind, eval_attributeExists, Program.eval_ite, AttributeMap.attributeExists]
    rcases hg : OrderedMap.get type m with _ | attr
    · rfl
    · simp [hg]

lemma reading_agree {refused r : Reply} {body osProg : Prog Reply}
    (ha : body.Along answer Allowed ⟨m, some m⟩)
    (hdb : body.eval answer ⟨m, some m⟩ = (r, ⟨m, some m⟩))
    (hos : osProg.eval answer ⟨m, none⟩ = (r, ⟨m, none⟩)) :
    Agree c m (DBToken.reading refused body) osProg := by
  refine agree_of_eval h (Program.along_bind.2 ⟨ha, ?_⟩) ?_ hos hm fun t => rfl
  · refine Program.along_bind.2 ⟨along_commitTransaction, ?_⟩
    split <;> trivial
  · rw [Program.eval_bind, hdb, Program.eval_bind, eval_commitTransaction]
    rfl

lemma getStored_agree (ht : type ≠ CKA_OS_TOKENCREATED) :
    Agree c m (DBToken.getStored type) (OSToken.getStored type) := by
  have heval : ∀ s, (OSToken.getStored type).eval answer ⟨m, s⟩ =
      (.stored (some ((OrderedMap.get type m).map (·.byteStrValue))), ⟨m, s⟩) := fun s => by
    rw [OSToken.getStored, Program.eval_bind, eval_lookup, Program.eval_pure]
  exact reading_agree h hm (Program.along_bind.2 ⟨along_lookup ht, trivial⟩) (heval _) (heval _)

lemma getFlag_agree (ht : type ≠ CKA_OS_TOKENCREATED) :
    Agree c m (DBToken.getFlag type) (OSToken.getFlag type) := by
  have heval : ∀ s, (OSToken.getFlag type).eval answer ⟨m, s⟩ =
      (.flag (some ((OrderedMap.get type m).any (·.boolValue))), ⟨m, s⟩) := fun s => by
    rw [OSToken.getFlag, Program.eval_bind, eval_lookup, Program.eval_pure]
  exact reading_agree h hm (Program.along_bind.2 ⟨along_lookup ht, trivial⟩) (heval _) (heval _)

/-! ### Storing -/

lemma setTokenName_agree (name label : ByteString) :
    Agree c m (setTokenName name label) (setTokenName name label) := by
  have ha : (do
      if !(← setAttribute CKA_OS_TOKENNAME (.byteString name)) then return false
      setAttribute CKA_OS_TOKENLABEL (.byteString label) : Prog Bool).Along answer Allowed
        ⟨m, some m⟩ :=
    Program.along_bind.2 ⟨along_setBytes (by decide) name, along_setBytes (by decide) label⟩
  exact inTransaction_agree h ha rfl
    ((hm.set (by decide) (by decide) _).set (by decide) (by decide) _)

lemma setLicense_agree {id : UInt64} (hid : Bytes (CKA_OS_LICENSE id)) (license : ByteString) :
    Agree c m (setLicense id license) (setLicense id license) :=
  inTransaction_agree h (along_setBytes hid.1 license) rfl (hid.flagged hm _)

lemma mark_agree {value : Bool} (ht : Markable type value) :
    Agree c m (inTransaction (mark type value)) (inTransaction (mark type value)) :=
  inTransaction_agree h (along_mark ht rfl) eval_mark (ht.flagged hm)

lemma advanceJournal_agree (journal : ByteString) (countOffset : ℕ) :
    Agree c m (advanceJournal journal countOffset) (advanceJournal journal countOffset) := by
  unfold advanceJournal
  split
  · exact ⟨rfl, hm, ⟨c, [], none⟩, rfl, h⟩
  refine agree_self h (Program.along_bind.2 ⟨along_lookup (by decide), ?_⟩) ?_ ?_
  · rw [eval_lookup]
    dsimp only
    split
    · exact Program.along_bind.2 ⟨along_abortTransaction, trivial⟩
    · exact Program.along_bind.2 ⟨along_setBytes (by decide) _,
        Program.along_bind.2 ⟨along_conclude _, trivial⟩⟩
  · rw [Program.eval_bind, eval_lookup]
    dsimp only
    split <;> rfl
  · rw [Program.eval_bind, eval_lookup]
    dsimp only
    split
    · exact hm
    · exact hm.set (by decide) (by decide) _

lemma updateLocalPIN_agree {id : UInt64} {expected : ByteString} {isDefault : Option Bool}
    (hid : CKA_OS_LOCALPIN id ≠ CKA_OS_TOKENCREATED)
    (hfits : ((OrderedMap.get (CKA_OS_LOCALPIN id) m).map (·.byteStrValue)).getD [] = expected →
      Bytes (CKA_OS_LOCALPIN id) ∧ ∀ value ∈ isDefault, Markable (CKA_OS_PINDEFAULT id) value)
    (replacement : ByteString) :
    Agree c m (updateLocalPIN id expected replacement isDefault)
      (updateLocalPIN id expected replacement isDefault) := by
  refine agree_self h (Program.along_bind.2 ⟨along_lookup hid, ?_⟩) ?_ ?_
  · rw [eval_lookup]
    dsimp only
    split
    · exact Program.along_bind.2 ⟨along_abortTransaction, trivial⟩
    · rename_i hcurrent
      obtain ⟨hbytes, hmark⟩ := hfits (not_not.1 hcurrent)
      refine Program.along_bind.2 ⟨along_markDefault hmark rfl, ?_⟩
      rw [eval_markDefault]
      exact Program.along_bind.2 ⟨along_setBytes hbytes.1 _,
        Program.along_bind.2 ⟨along_conclude _, trivial⟩⟩
  · rw [Program.eval_bind, eval_lookup]
    dsimp only
    split
    · rfl
    · rw [Program.eval_bind, eval_markDefault]
      rfl
  · rw [Program.eval_bind, eval_lookup]
    dsimp only
    split
    · exact hm
    · rename_i hcurrent
      obtain ⟨hbytes, hmark⟩ := hfits (not_not.1 hcurrent)
      rw [Program.eval_bind, eval_markDefault]
      exact hbytes.flagged (flagged_markedDefault hm hmark) _

lemma advancePinPolicy_agree (so success : Bool) :
    Agree c m (advancePinPolicy so success) (advancePinPolicy so success) := by
  refine agree_self h (Program.along_bind.2 ⟨along_lookup (by decide), ?_⟩) ?_ ?_
  · rw [eval_lookup]
    dsimp only
    split
    · exact Program.along_bind.2 ⟨along_abortTransaction, trivial⟩
    · exact Program.along_bind.2 ⟨along_setBytes (by decide) _,
        Program.along_bind.2 ⟨along_conclude _, trivial⟩⟩
  · rw [Program.eval_bind, eval_lookup]
    dsimp only
    split <;> rfl
  · rw [Program.eval_bind, eval_lookup]
    dsimp only
    split
    · exact hm
    · exact hm.set (by decide) (by decide) _

lemma setPinPolicy_agree (policy : ByteString) :
    Agree c m (DBToken.setPinPolicy policy) (OSToken.setPinPolicy policy) :=
  stored_agree h (along_setBytes (by decide) policy) rfl rfl (hm.set (by decide) (by decide) _)
    fun _ => rfl

/-! ### Flags -/

lemma getTokenFlags_agree :
    Agree c m DBToken.getTokenFlags (do return .flags (← OSToken.tokenFlags)) := by
  obtain ⟨flags, hf, hu⟩ := id hm
  have hos : (do return Reply.flags (← OSToken.tokenFlags) : Prog Reply).eval answer ⟨m, none⟩ =
      (.flags (some flags), ⟨m, none⟩) := by
    rw [Program.eval_bind, eval_tokenFlags hf, readFlags hu]
    rfl
  refine agree_of_eval h ?_ ?_ hos hm fun t => rfl
  · refine Program.along_bind.2 ⟨along_attributeExists.2 (by decide), ?_⟩
    split
    · exact Program.along_bind.2 ⟨along_abortTransaction, trivial⟩
    · refine Program.along_bind.2 ⟨along_commitTransaction, ?_⟩
      exact Program.along_bind.2 ⟨along_getAttribute.2 (by decide), trivial⟩
  · rw [Program.eval_bind, eval_attributeExists, AttributeMap.attributeExists, hf]
    dsimp only
    rw [if_neg (by simp), Program.eval_bind, eval_commitTransaction, Program.eval_bind,
      eval_getAttribute, hf]
    rfl

lemma setSOPIN_agree (soPINBlob : ByteString) :
    Agree c m (DBToken.setSOPIN soPINBlob) (OSToken.setSOPIN soPINBlob) := by
  obtain ⟨flags, hf, hu⟩ := hm
  let mask := CKF_SO_PIN_COUNT_LOW ||| CKF_SO_PIN_FINAL_TRY ||| CKF_SO_PIN_LOCKED |||
    CKF_SO_PIN_TO_BE_CHANGED
  let m₁ := m.setAttribute CKA_OS_SOPIN (.byteString soPINBlob)
  have hf₁ : OrderedMap.get CKA_OS_TOKENFLAGS m₁ = some (.unsignedLong flags) :=
    (OrderedMap.get_put_of_ne (by decide) _ _).trans hf
  have huser : OrderedMap.get CKA_OS_USERPIN m₁ = OrderedMap.get CKA_OS_USERPIN m :=
    OrderedMap.get_put_of_ne (by decide) _ _
  have hos : (OSToken.setSOPIN soPINBlob).eval answer ⟨m, none⟩ = (.done true,
      ⟨m₁.setAttribute CKA_OS_TOKENFLAGS (.unsignedLong (flags &&& ~~~mask)), none⟩) := by
    have hmask : flags &&& ~~~CKF_SO_PIN_COUNT_LOW &&& ~~~CKF_SO_PIN_FINAL_TRY &&&
        ~~~CKF_SO_PIN_LOCKED &&& ~~~CKF_SO_PIN_TO_BE_CHANGED = flags &&& ~~~mask := by
      simp only [mask, not_or_flags, UInt64.and_assoc]
    have hread := @eval_tokenFlags ⟨m₁, none⟩ flags hf₁
    simp only [huser, readFlags hu] at hread
    unfold OSToken.setSOPIN
    rw [Program.eval_bind, eval_setAttribute]
    dsimp only
    rw [if_neg (by simp), Program.eval_bind, hread]
    dsimp only
    rw [hmask]
    rfl
  refine stored_agree h ?_ ?_ hos ?_ fun _ => rfl
  · exact along_storeBlob (by decide) _ _
  · exact eval_storeBlob hf₁
  · exact flagged_setFlags fun hsome => masked_initialized (by decide) (hu (huser ▸ hsome))

lemma setUserPIN_agree (userPINBlob : ByteString) :
    Agree c m (DBToken.setUserPIN userPINBlob) (OSToken.setUserPIN userPINBlob) := by
  obtain ⟨flags, hf, -⟩ := hm
  let mask := CKF_USER_PIN_COUNT_LOW ||| CKF_USER_PIN_FINAL_TRY ||| CKF_USER_PIN_LOCKED |||
    CKF_USER_PIN_TO_BE_CHANGED
  let marked := flags ||| CKF_USER_PIN_INITIALIZED
  let m₁ := m.setAttribute CKA_OS_USERPIN (.byteString userPINBlob)
  have hf₁ : OrderedMap.get CKA_OS_TOKENFLAGS m₁ = some (.unsignedLong flags) :=
    (OrderedMap.get_put_of_ne (by decide) _ _).trans hf
  have huser : OrderedMap.get CKA_OS_USERPIN m₁ = some (.byteString userPINBlob) :=
    OrderedMap.get_put_self _ _ _
  have hmarked : marked ||| CKF_USER_PIN_INITIALIZED = marked := by
    rw [UInt64.or_assoc, UInt64.or_self]
  have hos : (OSToken.setUserPIN userPINBlob).eval answer ⟨m, none⟩ = (.done true,
      ⟨m₁.setAttribute CKA_OS_TOKENFLAGS (.unsignedLong (marked &&& ~~~mask)), none⟩) := by
    have hmask : (marked ||| CKF_USER_PIN_INITIALIZED) &&& ~~~CKF_USER_PIN_COUNT_LOW &&&
        ~~~CKF_USER_PIN_FINAL_TRY &&& ~~~CKF_USER_PIN_LOCKED &&& ~~~CKF_USER_PIN_TO_BE_CHANGED =
        marked &&& ~~~mask := by
      rw [hmarked]
      simp only [mask, not_or_flags, UInt64.and_assoc]
    have hread := @eval_tokenFlags ⟨m₁, none⟩ flags hf₁
    simp only [huser, Option.isSome_some, if_true] at hread
    unfold OSToken.setUserPIN
    rw [Program.eval_bind, eval_setAttribute]
    dsimp only
    rw [if_neg (by simp), Program.eval_bind, hread]
    dsimp only
    rw [hmask]
    rfl
  refine stored_agree h ?_ ?_ hos ?_ fun _ => rfl
  · exact along_storeBlob (by decide) _ _
  · exact eval_storeBlob hf₁
  · exact flagged_setFlags fun _ => masked_initialized (by decide) hmarked

lemma resetToken_agree (label : ByteString) :
    Agree c m (DBToken.resetToken label) (OSToken.resetToken label) := by
  obtain ⟨hcreated, hflags, hlabel, huser⟩ := not_mem_userState
  obtain ⟨flags, hf, hu⟩ := hm
  let mask := CKF_USER_PIN_INITIALIZED ||| CKF_USER_PIN_COUNT_LOW ||| CKF_USER_PIN_FINAL_TRY |||
    CKF_USER_PIN_LOCKED ||| CKF_USER_PIN_TO_BE_CHANGED
  have hf₁ : OrderedMap.get CKA_OS_TOKENFLAGS (without m userState) =
      some (.unsignedLong flags) := by
    rw [get_without, if_neg hflags, hf]
  have hos : (OSToken.resetToken label).eval answer ⟨m, none⟩ = (.done true,
      ⟨without ((m.setAttribute CKA_OS_TOKENLABEL (.byteString label)).setAttribute
        CKA_OS_TOKENFLAGS (.unsignedLong (flags &&& ~~~mask))) userState, none⟩) := by
    have hmask : flags &&& ~~~CKF_USER_PIN_INITIALIZED &&& ~~~CKF_USER_PIN_COUNT_LOW &&&
        ~~~CKF_USER_PIN_FINAL_TRY &&& ~~~CKF_USER_PIN_LOCKED &&& ~~~CKF_USER_PIN_TO_BE_CHANGED =
        flags &&& ~~~mask := by
      simp only [mask, not_or_flags, UInt64.and_assoc]
    have hread := @eval_tokenFlags ⟨m, none⟩ flags hf
    simp only [readFlags hu] at hread
    unfold OSToken.resetToken
    rw [Program.eval_bind, hread]
    dsimp only
    rw [hmask, Program.eval_bind, eval_setAttribute]
    dsimp only
    rw [if_neg (by simp), Program.eval_bind, eval_setAttribute]
    dsimp only
    rw [if_neg (by simp), Program.eval_bind, eval_removeAll]
    rfl
  refine stored_agree h (along_resetSteps hcreated hf₁) (eval_resetSteps hf₁) hos
    ⟨flags &&& ~~~mask, ?_, fun hsome => ?_⟩ (get_reset hflags hlabel _ _)
  · rw [get_without, if_neg hflags, AttributeMap.setAttribute, OrderedMap.get_put_self]
  · rw [get_without, if_pos huser] at hsome
    cases hsome

/-- **One request** is answered alike where it fits. -/
theorem request_agree {r : Request} (hr : r.Fits m) : Agree c m (DBToken.prog r) (OSToken.prog r) := by
  cases r with
  | setSOPIN soPINBlob => exact setSOPIN_agree h hm soPINBlob
  | getSOPIN => exact getBytes_agree h hm (by decide)
  | setUserPIN userPINBlob => exact setUserPIN_agree h hm userPINBlob
  | getUserPIN => exact getBytes_agree h hm (by decide)
  | getTokenLabel => exact getBytes_agree h hm (by decide)
  | getTokenName => exact getStored_agree h hm (by decide)
  | setTokenName name label => exact setTokenName_agree h hm name label
  | getLicense id => exact getStored_agree h hm hr
  | setLicense id license => exact setLicense_agree h hm hr license
  | getJournal => exact getStored_agree h hm (by decide)
  | advanceJournal journal countOffset => exact advanceJournal_agree h hm journal countOffset
  | getLocalPIN id => exact getStored_agree h hm hr
  | updateLocalPIN id expected replacement isDefault =>
    exact updateLocalPIN_agree h hm hr.1 hr.2 replacement
  | getUserPinExpired => exact getFlag_agree h hm (by decide)
  | setUserPinExpired expired =>
    refine mark_agree h hm ?_
    cases expired with
    | false => exact ⟨by decide, by decide⟩
    | true => exact show DB.attributeKind CKA_OS_USERPINEXPIRED = .akBoolean by decide
  | getPinDefault id => exact getFlag_agree h hm hr
  | setPinDefault id isDefault => exact mark_agree h hm hr
  | getTokenSerial => exact getBytes_agree h hm (by decide)
  | getTokenCreationTime => exact hr.elim
  | getTokenFlags => exact getTokenFlags_agree h hm
  | setTokenFlags flags => exact setTokenFlags_agree h hr
  | getPinPolicy => exact getStored_agree h hm (by decide)
  | setPinPolicy policy => exact setPinPolicy_agree h hm policy
  | advancePinPolicy so success => exact advancePinPolicy_agree h hm so success

end requests

/-! ### Calls -/

/-- What a call needs so that both backends answer it alike. -/
def Call.Fits (t : OSToken) : Call → Prop
  | .request r => r.Fits t.tokenObject.map
  | .deleteObject (some object) => object ∈ t.objects ∨ t.allObjects ≤ object
  | _ => True

/-- The same token in both backends. -/
structure Related (t : OSToken) (d : DBToken) : Prop where
  closed : t.tokenObject.saved = none
  flagged : Flagged t.tokenObject.map
  holds : HoldsBut d.connection t.tokenObject.map
  made : d.allObjects.length = t.allObjects
  live : ∀ object, object ∈ t.objects ↔
    object < d.allObjects.length ∧ d.allObjects.getD object 0 ∈ d.rows
  removed : 0 ∉ d.rows
  given : ∀ object, d.allObjects.getD object 0 ≤ d.sequence
  unique : ∀ object object', d.allObjects.getD object 0 = d.allObjects.getD object' 0 →
    d.allObjects.getD object 0 ∈ d.rows → object = object'

section calls

variable {t : OSToken} {d : DBToken} {object : ℕ}

lemma Related.getObjects (h : Related t d) : d.getObjects = t.objects := by
  ext object
  rw [DBToken.getObjects, Finset.mem_filter, Finset.mem_range, h.live]

/-- An object that the token has is deleted. -/
lemma Related.delete (h : Related t d) (hobject : object ∈ t.objects) :
    ∃ d', d.deleteObject object = (true, d') ∧
      Related { t with objects := t.objects.erase object } d' := by
  obtain ⟨hlt, hrow⟩ := (h.live object).1 hobject
  have hid : d.allObjects[object]? = some (d.allObjects.getD object 0) := by
    rw [List.getD_eq_getElem?_getD, List.getElem?_eq_getElem hlt, Option.getD_some]
  have hget : ∀ o, (d.allObjects.set object 0).getD o 0 =
      if o = object then 0 else d.allObjects.getD o 0 := by
    intro o
    by_cases ho : o = object
    · subst ho
      rw [if_pos rfl, List.getD_eq_getElem?_getD, List.getElem?_set_self hlt, Option.getD_some]
    · rw [if_neg ho, List.getD_eq_getElem?_getD, List.getElem?_set_ne (Ne.symm ho),
        List.getD_eq_getElem?_getD]
  refine ⟨{ d with rows := d.rows.erase (d.allObjects.getD object 0)
                   allObjects := d.allObjects.set object 0 },
    by rw [DBToken.deleteObject, hid], h.closed, h.flagged, h.holds, ?_, fun o => ?_, ?_,
    fun o => ?_, fun o o' he hrow' => ?_⟩
  · rw [List.length_set]
    exact h.made
  · rw [Finset.mem_erase, h.live, List.length_set, hget]
    by_cases ho : o = object
    · simp [ho, h.removed]
    · rw [if_neg ho, Finset.mem_erase]
      have hne : d.allObjects.getD o 0 ∈ d.rows →
          d.allObjects.getD o 0 ≠ d.allObjects.getD object 0 :=
        fun hmem he => ho (h.unique o object he hmem)
      tauto
  · exact fun hmem => h.removed (Finset.mem_of_mem_erase hmem)
  · rw [hget]
    split
    · exact Nat.zero_le _
    · exact h.given o
  · rw [hget, hget] at he
    rw [hget] at hrow'
    by_cases ho : o = object
    · rw [if_pos ho] at hrow'
      exact (h.removed (Finset.mem_of_mem_erase hrow')).elim
    · rw [if_neg ho] at he hrow'
      have hmem := Finset.mem_of_mem_erase hrow'
      by_cases ho' : o' = object
      · rw [if_pos ho'] at he
        rw [he] at hmem
        exact (h.removed hmem).elim
      · rw [if_neg ho'] at he
        exact h.unique o o' he hmem

/-- The loop of a reset. -/
lemma Related.deleteObjects {objects : List ℕ} (h : Related t d) (hnodup : objects.Nodup)
    (hall : ∀ o ∈ objects, o ∈ t.objects) : ∃ d', d.deleteObjects objects = (true, d') ∧
      Related { t with objects := t.objects.filter fun o => o ∉ objects } d' := by
  induction objects generalizing t d with
  | nil => exact ⟨d, rfl, by simpa using h⟩
  | cons object objects ih =>
    obtain ⟨d', hdelete, h'⟩ := h.delete (hall object (List.mem_cons_self ..))
    rw [List.nodup_cons] at hnodup
    obtain ⟨d'', hloop, h''⟩ := ih h' hnodup.2 fun o ho => Finset.mem_erase.2
      ⟨fun he => hnodup.1 (he ▸ ho), hall o (List.mem_cons_of_mem _ ho)⟩
    refine ⟨d'', by rw [DBToken.deleteObjects, hdelete]; exact hloop, ?_⟩
    convert h'' using 2
    ext o
    simp only [Finset.mem_filter, Finset.mem_erase, List.mem_cons, not_or]
    tauto

lemma Related.create (h : Related t d) :
    Related { t with objects := insert t.allObjects t.objects, allObjects := t.allObjects + 1 }
      { d with rows := insert (d.sequence + 1) d.rows, sequence := d.sequence + 1
               allObjects := d.allObjects ++ [d.sequence + 1] } := by
  have hget : ∀ o, (d.allObjects ++ [d.sequence + 1]).getD o 0 =
      if o = t.allObjects then d.sequence + 1 else d.allObjects.getD o 0 := by
    intro o
    rw [← h.made]
    by_cases ho : o = d.allObjects.length
    · rw [if_pos ho, ho, List.getD_eq_getElem?_getD, List.getElem?_append_right (Nat.le_refl _)]
      simp
    · rw [if_neg ho, List.getD_eq_getElem?_getD, List.getD_eq_getElem?_getD]
      by_cases hlt : o < d.allObjects.length
      · rw [List.getElem?_append_left hlt]
      · rw [List.getElem?_eq_none (by rw [List.length_append, List.length_singleton]; omega),
          List.getElem?_eq_none (by omega)]
  have hold : ∀ o, d.allObjects.getD o 0 ≠ d.sequence + 1 := fun o => by
    have hle := h.given o
    omega
  refine ⟨h.closed, h.flagged, h.holds, ?_, fun o => ?_, ?_, fun o => ?_, fun o o' he hrow => ?_⟩
  · simp [h.made]
  · rw [Finset.mem_insert, h.live, hget, List.length_append, List.length_singleton, h.made]
    by_cases ho : o = t.allObjects
    · simp [ho]
    · rw [if_neg ho, Finset.mem_insert]
      have hne := hold o
      constructor
      · rintro (rfl | ⟨hlt, hmem⟩)
        · exact absurd rfl ho
        · exact ⟨by omega, .inr hmem⟩
      · rintro ⟨hlt, he | hmem⟩
        · exact absurd he hne
        · exact .inr ⟨by omega, hmem⟩
  · rw [Finset.mem_insert, not_or]
    exact ⟨by omega, h.removed⟩
  · rw [hget]
    split
    · exact Nat.le_refl _
    · exact (h.given o).trans (Nat.le_succ _)
  · rw [hget, hget] at he
    rw [hget] at hrow
    by_cases ho : o = t.allObjects <;> by_cases ho' : o' = t.allObjects
    · rw [ho, ho']
    · rw [if_pos ho, if_neg ho'] at he
      exact absurd he.symm (hold o')
    · rw [if_neg ho, if_pos ho'] at he
      exact absurd he (hold o)
    · rw [if_neg ho, if_neg ho'] at he
      rw [if_neg ho] at hrow
      rcases Finset.mem_insert.1 hrow with hnew | hmem
      · exact absurd hnew (hold o)
      · exact h.unique o o' he hmem

/-- A call on the object of the token. -/
lemma Related.onTokenObject (h : Related t d) {osProg dbProg : Prog Reply}
    (hagree : Agree d.connection t.tokenObject.map dbProg osProg) :
    ∃ d', d.onTokenObject dbProg = some ((osProg.eval answer t.tokenObject).1, d') ∧
      Related { t with tokenObject := (osProg.eval answer t.tokenObject).2 } d' := by
  have hobject : t.tokenObject = ⟨t.tokenObject.map, none⟩ := by
    rw [← h.closed]
  obtain ⟨hclosed, hflagged, o', hrun, hholds⟩ := hagree
  rw [← hobject] at hclosed hflagged hrun hholds
  refine ⟨{ d with connection := o'.connection }, ?_, hclosed, hflagged, hholds, h.made, h.live,
    h.removed, h.given, h.unique⟩
  rw [DBToken.onTokenObject, hrun]
  rfl

lemma Flagged.exists (h : Flagged m) : AttributeMap.attributeExists m CKA_OS_TOKENFLAGS = true := by
  obtain ⟨flags, hf, -⟩ := h
  rw [AttributeMap.attributeExists, hf]
  rfl

/-- **One call** is answered alike where it fits, and the backends have the same token again. -/
theorem Related.perform (h : Related t d) {call : Call} (hfits : call.Fits t) :
    ∃ d', d.perform call = some ((t.perform call).1, d') ∧ Related (t.perform call).2 d' := by
  cases call with
  | request r => exact h.onTokenObject (request_agree h.holds h.flagged hfits)
  | resetToken label =>
    have hall : ∀ o ∈ d.getObjects.sort (· ≤ ·), o ∈ t.objects := fun o ho => by
      rwa [Finset.mem_sort, h.getObjects] at ho
    obtain ⟨d', hloop, h'⟩ := h.deleteObjects (Finset.sort_nodup _ _) hall
    obtain ⟨d'', hreset, h''⟩ := h'.onTokenObject (resetToken_agree h'.holds h'.flagged label)
    refine ⟨d'', by rw [DBToken.perform, hloop]; exact hreset, ?_⟩
    have hnone : (t.objects.filter fun o => o ∉ d.getObjects.sort (· ≤ ·)) = ∅ := by
      ext o
      simp [h.getObjects]
    rw [hnone] at h''
    rw [OSToken.perform, if_pos h.flagged.exists]
    exact h''
  | createObject => exact ⟨_, rfl, h.create⟩
  | deleteObject object =>
    cases object with
    | none => exact ⟨d, rfl, h⟩
    | some object =>
      rcases hfits with hlive | hnever
      · obtain ⟨d', hdelete, h'⟩ := h.delete hlive
        rw [OSToken.perform, if_neg (not_not.2 hlive)]
        exact ⟨d', by rw [DBToken.perform, hdelete], h'⟩
      · have hnot : object ∉ t.objects := fun hmem => by
          have hlt := ((h.live object).1 hmem).1
          rw [h.made] at hlt
          omega
        have hid : d.allObjects[object]? = none := by
          rw [List.getElem?_eq_none_iff, h.made]
          exact hnever
        rw [OSToken.perform, if_pos hnot]
        exact ⟨d, by rw [DBToken.perform, DBToken.deleteObject, hid], h⟩
  | getObjects => exact ⟨d, by rw [DBToken.perform, h.getObjects]; rfl, h⟩

end calls

/-! ### Sequences of calls -/

lemma holds_insert_unknown {tables tables' : Tables} {m : AttributeMap} {type : CK_ATTRIBUTE_TYPE}
    {given : OSAttribute} (h : tables.Holds m) (hk : DB.attributeKind type = .akUnknown)
    (hi : tables.insert type given = some tables') : tables'.Holds m := by
  have hvalue : ∀ t : Tables, t.value type = none := fun t => by
    unfold Tables.value
    rw [hk]
  refine ⟨fun t => ?_, fun t ht => ?_⟩
  · by_cases he : t = type
    · rw [he, hvalue, ← h.value, hvalue]
    · rw [(Tables.insert_sameAt hi he).value, h.value]
  · by_cases he : t = type
    · unfold Tables.Absent
      rw [he, hk]
      trivial
    · exact (Tables.insert_sameAt hi he).absent (h.absent t ht)

/-- The constructors make the same token. -/
lemma holdsBut_created (label serial created : ByteString) :
    HoldsBut (DBToken.createToken label serial created).connection
      (OSToken.createToken label serial created).tokenObject.map := by
  have hlabel : DB.attributeKind CKA_OS_TOKENLABEL = .akBinary := by decide
  have hserial : DB.attributeKind CKA_OS_TOKENSERIAL = .akBinary := by decide
  have hflags : DB.attributeKind CKA_OS_TOKENFLAGS = .akInteger := by decide
  obtain ⟨t₁, hi₁, h₁⟩ := @Tables.Holds.insert _ _ (.byteString label) _ Tables.holds_empty
    hlabel.symm trivial rfl
  obtain ⟨t₂, hi₂, h₂⟩ := @Tables.Holds.insert _ _ (.byteString serial) _ h₁ hserial.symm trivial rfl
  -- the time of creation goes into a table where it is never looked for
  have h₃ := @holds_insert_unknown _ _ _ CKA_OS_TOKENCREATED (.byteString created) h₂ (by decide) rfl
  obtain ⟨t₄, hi₄, h₄⟩ := @Tables.Holds.insert _ _ (.unsignedLong OSToken.createdFlags) _ h₃
    hflags.symm trivial rfl
  cases hi₁
  cases hi₂
  cases hi₄
  exact ⟨rfl, _, h₄, SameBut.set (fun t ht => (OrderedMap.get_put_of_ne ht _ _).symm) _ _⟩

/-- **A sequence of calls** on the same token. -/
lemma Related.replies {t : OSToken} {d : DBToken} {calls : List Call} (h : Related t d)
    (hfits : AllAllowed (fun t call => call.Fits t) (fun t call => (t.perform call).2) t calls) :
    d.replies calls = some (t.replies calls) := by
  induction calls generalizing t d with
  | nil => rfl
  | cons call calls ih =>
    obtain ⟨d', hperform, h'⟩ := h.perform hfits.1
    have hrest := ih h' hfits.2
    simp only [DBToken.replies, hperform, Option.bind_eq_bind, Option.bind_some, hrest]
    rfl

lemma related_created (label serial created : ByteString) :
    Related (OSToken.createToken label serial created)
      (DBToken.createToken label serial created) where
  closed := rfl
  flagged := by
    refine ⟨OSToken.createdFlags, OrderedMap.get_put_self _ _ _, fun huser => ?_⟩
    have hnone : OrderedMap.get CKA_OS_USERPIN
        (OSToken.createToken label serial created).tokenObject.map = none := rfl
    rw [hnone] at huser
    cases huser
  holds := holdsBut_created label serial created
  made := rfl
  live object := by simp [OSToken.createToken, DBToken.createToken]
  removed := Finset.notMem_empty 0
  given object := Nat.zero_le _
  unique object object' _ hrow := absurd hrow (Finset.notMem_empty _)

/-- **The backends are interchangeable** over calls that fit. -/
theorem backends_agree (label serial created : ByteString) (calls : List Call)
    (h : AllAllowed (fun t call => call.Fits t) (fun t call => (t.perform call).2)
      (OSToken.createToken label serial created) calls) :
    (DBToken.createToken label serial created).replies calls =
      some ((OSToken.createToken label serial created).replies calls) :=
  (related_created label serial created).replies h

/-- A life of a token: both PINs, a name, two objects, a reset. -/
theorem backends_agree_life :
    let calls : List Call := [.request (.setSOPIN [1]), .request (.setUserPIN [2]),
      .createObject, .createObject, .request (.setTokenName [3] [4]), .deleteObject (some 0),
      .deleteObject (some 7), .request (.setTokenFlags CKF_USER_PIN_INITIALIZED),
      .request (.setPinDefault 1 true), .request (.updateLocalPIN 3 [] [5] (some true)),
      .request .getTokenFlags, .resetToken [6], .getObjects, .request .getUserPIN]
    (DBToken.createToken [65] [66] [67]).replies calls =
      some ((OSToken.createToken [65] [66] [67]).replies calls) := by
  intro calls
  refine backends_agree [65] [66] [67] calls
    ⟨trivial, trivial, trivial, trivial, trivial, .inl (by decide), .inr (by decide), fun _ => ?_, ?_,
      ⟨by decide, fun _ => ⟨⟨by decide, by decide⟩, ?_⟩⟩, trivial, trivial, trivial, trivial, trivial⟩
  · decide
  · exact show DB.attributeKind (CKA_OS_PINDEFAULT 1) = .akBoolean by decide
  · rintro value ⟨⟩
    exact show DB.attributeKind (CKA_OS_PINDEFAULT 3) = .akBoolean by decide

/-- The time of creation, the mark of the user PIN, a number without a kind, and an object that is
deleted twice. -/
theorem backends_differ :
    let os := OSToken.createToken [65] [66] [67]
    let db := DBToken.createToken [65] [66] [67]
    db.replies [.request .getTokenCreationTime] ≠
        some (os.replies [.request .getTokenCreationTime]) ∧
      db.replies [.request (.setUserPIN [2]), .request (.setTokenFlags 0), .request .getTokenFlags] ≠
        some (os.replies [.request (.setUserPIN [2]), .request (.setTokenFlags 0),
          .request .getTokenFlags]) ∧
      db.replies [.request (.setLicense 5 [1]), .request (.getLicense 5)] ≠
        some (os.replies [.request (.setLicense 5 [1]), .request (.getLicense 5)]) ∧
      db.replies [.createObject, .deleteObject (some 0), .deleteObject (some 0)] ≠
        some (os.replies [.createObject, .deleteObject (some 0), .deleteObject (some 0)]) := by
  decide +kernel

end SoftHSM.Backend
