import SoftHSM.Library.History
import SoftHSM.Library.Origins

/-!
The one-way attributes over runs: what stays of an object and of its copies, the history of
`CKA_SENSITIVE`, and who may make an object trusted. The one thing that breaks a history is a key
that two other ones make.
-/

set_option linter.unusedSectionVars false

namespace SoftHSM.Create

open CK_RV Search P11Object OSObject AttributeMap
open RecordFile (Write)
open Transition

variable {Obj Sess : Type} [DecidableEq Obj] [DecidableEq Sess]

/-! ### The history of a new key -/

/-- Whether the last entry of a type says true. -/
def wants (t : CK_ATTRIBUTE_TYPE) (l : List CK_ATTRIBUTE) : Bool :=
  (lastEntry t l).any fun e => e.bool ≠ CK_FALSE

/-- A key that two others make is to be sensitive where it is said to have always been: where
neither of the two was ever extractable, one of them is sensitive, or the template says it. -/
def Creation.KeepsAlways (st : Store Obj Sess) : Creation Obj → Prop
  | .deriveKey _ _ hBaseKey (some t) (.key hOtherKey) _ derive => ∀ o o' result,
    st.handleManager.getObject hBaseKey = some o →
    st.handleManager.getObject hOtherKey = some o' →
    (st.object o).valid = true → (st.object o').valid = true →
    derive (st.object o).attributes t = .ok result →
    (st.object o).attributes.getBooleanValue CKA_NEVER_EXTRACTABLE false = true →
    (st.object o').attributes.getBooleanValue CKA_NEVER_EXTRACTABLE false = true →
    (st.object o).attributes.getBooleanValue CKA_SENSITIVE true = true ∨
      (st.object o').attributes.getBooleanValue CKA_SENSITIVE true = true ∨
      wants CKA_SENSITIVE result.pTemplate = true
  | _ => True

section origin

variable {P : Primitives} {x : Outside} {st : Store Obj Sess} {c : Creation Obj} {j : Job Obj}
  {m : AttributeMap} {t : CK_ATTRIBUTE_TYPE}

lemma flag_of_getBooleanValue (h : m.getBooleanValue t false = true) : m.flag t = some true := by
  rw [getBooleanValue_eq] at h
  cases hf : m.flag t with
  | none =>
    rw [hf] at h
    cases h
  | some v =>
    rw [hf] at h
    exact congrArg some h

lemma getBooleanValue_of_flag {b v : Bool} (h : m.flag t = some v) : m.getBooleanValue t b = v := by
  rw [getBooleanValue_eq, h, Option.getD_some]

/-- The history of `CKA_SENSITIVE`, by the flags. -/
lemma alwaysTrue_of_flags {f : Flags} (h : flagsOf m = f)
    (hf : f.alwaysSensitive = some true → f.sensitive = some true) : AlwaysTrue m := by
  subst h
  exact hf

/-- **What a call says about the origin of a key keeps its history.** -/
theorem origin_always {origin : AttributeMap → List (CK_ATTRIBUTE_TYPE × OSAttribute)}
    (h : Origin st j c origin)
    (hall : ∀ o, (st.object o).valid = true → AlwaysTrue (st.object o).attributes)
    (hc : c.KeepsAlways st)
    (hwants : wants CKA_SENSITIVE j.attribs = true → m.flag CKA_SENSITIVE = some true)
    (hm : AlwaysTrue m) : AlwaysTrue (putAll (origin m) m) := by
  cases h with
  | generatedPublic _ mechanism _ => exact alwaysTrue_of_flags (flagsOf_generatedPublic mechanism m) hm
  | generated _ mechanism _ =>
    refine alwaysTrue_of_flags (flagsOf_generated mechanism m) fun has => ?_
    exact flag_of_getBooleanValue (Option.some.inj has)
  | generatedRutokenGost _ b mechanism _ =>
    exact alwaysTrue_of_flags (flagsOf_generatedRutokenGost mechanism b m) fun has => by cases has
  | unwrapped _ _ => exact alwaysTrue_of_flags (flagsOf_unwrapped m) fun has => by cases has
  | derived _ o hv _ =>
    refine alwaysTrue_of_flags (flagsOf_derived _ m) fun has => ?_
    have hs := Option.some.inj has
    rw [Bool.and_eq_true] at hs
    exact flag_of_getBooleanValue hs.2
  | concatenatedData mk hSession hBaseKey pTemplate check derive o ho hv _ =>
    refine alwaysTrue_of_flags (flagsOf_concatenatedData _ m) fun has => ?_
    -- the base key has always been sensitive, so it is sensitive, and so is the new key
    have hs := hall o hv (flag_of_getBooleanValue (Option.some.inj has))
    exact if_pos (getBooleanValue_of_flag hs)
  | concatenatedKeys mk hSession hBaseKey hOtherKey t check derive o o' result ho hv ho' hv'
      hresult hfrom _ =>
    refine alwaysTrue_of_flags (flagsOf_concatenatedKeys _ _ m) fun has => ?_
    have hboth := Option.some.inj has
    rw [Bool.and_eq_true] at hboth
    have hlast : wants CKA_SENSITIVE j.attribs = wants CKA_SENSITIVE result.pTemplate := by
      rw [wants, lastEntry_eq, hfrom _ (by decide), ← lastEntry_eq, wants]
    dsimp only
    split
    · rfl
    · rename_i hnot
      rw [Bool.not_eq_true, Bool.or_eq_false_iff] at hnot
      rcases hc o o' result ho ho' hv hv' hresult hboth.1 hboth.2 with hs | hs | hs
      · rw [hnot.1] at hs
        cases hs
      · rw [hnot.2] at hs
        cases hs
      · exact hwants (hlast.trans hs)

/-- What is stored for a key besides does not touch its flags. -/
lemma alwaysTrue_supplied {supply : Supply}
    {origin : AttributeMap → List (CK_ATTRIBUTE_TYPE × OSAttribute)} (h : Supplies supply origin)
    {l : List (CK_ATTRIBUTE_TYPE × OSAttribute)} (hl : supply m = .ok l)
    (hm : AlwaysTrue (putAll (origin m) m)) : AlwaysTrue (putAll l m) := by
  obtain ⟨material, rfl⟩ := h m l hl
  exact alwaysTrue_of_flags (flagsOf_material m (origin m) material) hm

/-- What `CreateObject` itself says about the origin of a key. -/
lemma alwaysTrue_own (plan : Plan) (op : ObjectOp) (hm : AlwaysTrue m) :
    AlwaysTrue (putAll (ownOf plan op) m) := by
  have hsensitive : (putAll (ownOf plan op) m).flag CKA_SENSITIVE = m.flag CKA_SENSITIVE :=
    flag_putAll fun y hy he => absurd (he ▸ ownOf_types plan op y hy) (by decide)
  intro has
  rw [hsensitive]
  unfold ownOf ownAttributes at has
  split_ifs at has
  · simp +decide [putAll, flag_setAttribute] at has
    exact hm has
  · simp +decide [putAll, flag_setAttribute, OSAttribute.truth] at has
  · exact hm has
  · exact hm has

/-- What a template that is accepted says of a flag. -/
lemma flag_of_accepts {plan : Plan} {op : ObjectOp} {hSession : ℕ} {attribs : List CK_ATTRIBUTE}
    (hplan : planObject P x hSession (some attribs) st = .ok plan) (hop : op ≠ .CREATE)
    (ht : t ∈ settable) (h : plan.Accepts op m) (hw : wants t attribs = true) :
    m.flag t = some true := by
  obtain ⟨_, s, hs, -, -, -, -, hkind, -, -, hattribs⟩ := of_planObject hplan
  cases hs
  obtain ⟨m₀, m₁, hu, rfl⟩ := h
  rw [ownOf, if_neg hop]
  have hlast : lastEntry t plan.attribs = lastEntry t attribs := by
    rw [hattribs, lastEntry_eq, entriesOf_reorder, ← lastEntry_eq]
    rintro rfl
    exact absurd ht (by decide)
  have hflag := updateAll_flag (p11ObjectOf_mem hkind) ht hu
  rw [hlast] at hflag
  unfold wants at hw
  cases he : lastEntry t attribs with
  | none =>
    rw [he] at hw
    cases hw
  | some e =>
    rw [he, Option.elim_some] at hflag
    rw [he, Option.any_some] at hw
    exact hflag.trans (congrArg some hw)

/-- **What a call puts keeps the history of a key**, while it is made. -/
theorem puts_always {plan : Plan} (hmakes : c.Makes P x st j)
    (hplan : planObject P x j.hSession (some j.attribs) st = .ok plan)
    (hall : ∀ o, (st.object o).valid = true → AlwaysTrue (st.object o).attributes)
    (hc : c.KeepsAlways st) {l : List (CK_ATTRIBUTE_TYPE × OSAttribute)}
    (hl : (plan.changing j.op j.supply).puts m l) (hm : AlwaysTrue m) : AlwaysTrue (putAll l m) := by
  rcases hl with rfl | ⟨hl, haccepts⟩
  · exact alwaysTrue_own plan j.op hm
  rcases makes_origin hmakes with ⟨_, _, _, -, rfl⟩ | ⟨hop, origin, hsup, horigin⟩
  · cases hl
    exact hm
  · have hcreate : j.op ≠ .CREATE := by
      intro he
      rw [he] at hop
      simp at hop
    exact alwaysTrue_supplied hsup hl (origin_always horigin hall hc
      (flag_of_accepts hplan hcreate (by decide) haccepts) hm)

end origin

/-! ### Events -/

namespace Event

/-- The condition on a step: a key that two others make is as sensitive as it is said to be. -/
def KeepsAlways (st : Store Obj Sess) : Event Obj → Prop
  | .creation _ c => c.KeepsAlways st
  | _ => True

/-- An object that is copied, and the address of the copy. -/
def Copying (st : Store Obj Sess) (o o' : Obj) : Event Obj → Prop
  | .copyObject _ m _ hObject _ => st.handleManager.getObject hObject = some o ∧ o' = m.newObject
  | _ => False

/-- The template of a call that changes or copies an object. -/
def template : Event Obj → List CK_ATTRIBUTE
  | .setAttributeValue _ _ _ _ _ pTemplate => pTemplate.getD []
  | .copyObject _ _ _ _ pTemplate => pTemplate.getD []
  | _ => []

end Event

/-- The session of a call that makes objects. -/
def Creation.hSession : Creation Obj → ℕ
  | .createObject _ hSession _ => hSession
  | .generateKey _ hSession _ _ _ => hSession
  | .generateKeyPair _ _ hSession _ _ _ _ => hSession
  | .unwrapKey _ hSession _ _ _ _ _ _ => hSession
  | .deriveKey _ hSession _ _ _ _ _ => hSession
  | .encapsulateKey _ hSession _ _ _ _ _ _ _ => hSession
  | .decapsulateKey _ hSession _ _ _ _ _ => hSession

/-- The session of a call. -/
def Event.session : Event Obj → Option ℕ
  | .creation _ c => some c.hSession
  | .setAttributeValue _ _ _ hSession _ _ => some hSession
  | .copyObject _ _ hSession _ _ => some hSession
  | .other => none

/-- The attributes that are told by the library alone. -/
def toldAlone : List CK_ATTRIBUTE_TYPE :=
  [CKA_LOCAL, CKA_KEY_GEN_MECHANISM, CKA_ALWAYS_SENSITIVE, CKA_NEVER_EXTRACTABLE]

/-- What stays of the attributes of an object on its way. -/
structure Lasting (m m' : AttributeMap) : Prop extends OneWay m m' where
  isPrivate : m.flag CKA_PRIVATE = some true → m'.flag CKA_PRIVATE = some true

lemma Lasting.refl (m : AttributeMap) : Lasting m m := ⟨.refl m, id⟩

lemma Lasting.trans {m m' m'' : AttributeMap} (h : Lasting m m') (h' : Lasting m' m'') :
    Lasting m m'' := ⟨h.toOneWay.trans h'.toOneWay, h'.isPrivate ∘ h.isPrivate⟩

/-- One step on the way of an object: it is the same object, or a copy is made of it. -/
def Follow (P : Primitives) (a : Store Obj Sess × Obj) (ev : Event Obj)
    (b : Store Obj Sess × Obj) : Prop :=
  ev.Step P a.1 b.1 ∧ (b.2 = a.2 ∧ a.2 ∉ ev.news ∨ ev.Copies P a.1 a.2 b.2)

/-- What is shown has the history of `CKA_SENSITIVE`. -/
def AlwaysHolds (st : Store Obj Sess) : Prop :=
  ∀ o m, (st.object o).shown = some m → AlwaysTrue m

/-! ### Copies -/

section copied

variable {token : TokenView} {upgrade isPrivate : Bool} {source m m' : AttributeMap}
  {t : CK_ATTRIBUTE_TYPE} {p : P11Object} {k : UInt64} {op : ObjectOp} {l : List CK_ATTRIBUTE}

lemma Copied.flag (h : Copied token upgrade m m') (t : CK_ATTRIBUTE_TYPE) :
    m'.flag t = m.flag t := by
  have hget : ∀ v, OrderedMap.get t m' = some (.boolean v) ↔
      OrderedMap.get t m = some (.boolean v) := fun v => h.get fun _ he => by cases he
  cases hf : m.flag t with
  | some v => exact flag_of_get ((hget v).2 (get_of_flag hf))
  | none =>
    cases hf' : m'.flag t with
    | none => rfl
    | some v =>
      rw [flag_of_get ((hget v).1 (get_of_flag hf'))] at hf
      cases hf

/-- A copy without the template. -/
lemma Copied.lasting (h : Copied token upgrade m m') : Lasting m m' := by
  refine ⟨⟨?_, ?_, ?_, ?_, ?_, fun v hv => ?_, ?_, ?_⟩, ?_⟩
  case refine_6 => exact (h.get fun _ he => by cases he).2 hv
  all_goals
    rw [h.flag]
    first | exact id | exact fun _ => id

lemma Copied.always (h : Copied token upgrade m m') (hm : AlwaysTrue m) : AlwaysTrue m' := by
  intro has
  rw [h.flag] at has ⊢
  exact hm has

lemma leads_updateAll {rv : CK_RV} (hp : Prepared p m) (h : p.updateAll token isPrivate op l m = (rv, m')) :
    (changing p token isPrivate op l).Leads m m' := by
  have hleads := updateAll_leads (c := changing p token isPrivate op l) (m := m)
    (List.Subset.refl _) hp .refl
  simp only [changing, h] at hleads
  exact hleads

lemma leads_changing_always (hk : (k, p) ∈ kinds)
    (h : (changing p token isPrivate op l).Leads m m') (hm : AlwaysTrue m) : AlwaysTrue m' :=
  leads_always (c := changing p token isPrivate op l) hk (fun _ _ hp => hp.elim) h hm

/-- A flag that no entry of the template is about stays, unless it is set by default. -/
lemma leads_flag {c : Changing} (hk : (k, c.p11object) ∈ kinds) (ht : t ∈ settable)
    (hputs : ∀ m l, ¬ c.puts m l) (hnone : ∀ e ∈ c.attribs, e.type ≠ t) (h : c.Leads m m') {b : Bool}
    (hm : m.flag t = some b) : m'.flag t = some b := by
  induction h with
  | refl => exact hm
  | value _ hx ih =>
    have hpreset : ∀ t ∈ settable, t ∉ [CKA_CLASS, CKA_KEY_TYPE, CKA_CERTIFICATE_TYPE] :=
      forall_of_all (by decide)
    rw [flag_congr (get_value hk hx (hpreset t ht)), ih]
  | missing _ _ hmiss ih => exact flag_missing hmiss ih
  | default _ _ hmiss _ ih => exact flag_missing hmiss ih
  | @update m' _ e he a ha _ ih =>
    obtain ⟨hmem, hat⟩ := attributeOf_some ha
    have hw := update_watched hk hmem c.token c.isPrivate e c.op m'
    rw [flag_congr (hw.get_of_ne ?_ (settable_watched t ht) ?_ ?_), ih]
    · rw [hat]
      exact (hnone e he).symm
    · rintro rfl
      exact absurd ht (by decide)
    · rintro rfl
      exact absurd ht (by decide)
  | put _ hl _ => exact absurd hl (hputs _ _)

lemma boolean_size_table : ∀ x ∈ kinds, ∀ a ∈ x.2.attributes, a.type = CKA_PRIVATE →
    a.size = some sizeof_CK_BBOOL := by decide +kernel

/-- An entry that is accepted has the size of its attribute. -/
lemma update_fits {a : P11Attribute} {e : CK_ATTRIBUTE} {n : ℕ} (hn : a.size = some n)
    (h0 : n ≠ 0) (h : a.update token isPrivate e op m = (CKR_OK, m')) :
    e.ulValueLen = n ∧ e.pValue.isSome = true := by
  unfold P11Attribute.update at h
  have hnull : ¬ (e.pValue.isNone && decide (e.ulValueLen ≠ 0)) = true := by
    intro hc
    rw [if_pos hc] at h
    cases h
  rw [if_neg hnull] at h
  have hsize : ¬ (a.size.any fun size => decide (size ≠ e.ulValueLen)) = true := by
    intro hc
    rw [if_pos hc] at h
    cases h
  have hlen : e.ulValueLen = n := by
    rw [hn, Option.any_some, decide_eq_true_eq, not_not] at hsize
    exact hsize.symm
  refine ⟨hlen, ?_⟩
  cases hv : e.pValue with
  | some v => rfl
  | none =>
    simp only [hv, Option.isNone_none, Bool.true_and, decide_eq_true_eq, not_not] at hnull
    exact absurd (hlen.symm.trans hnull) h0

/-- In a template that is accepted the last entry is the last one of the right size. -/
lemma lastValue_private (hk : (k, p) ∈ kinds)
    (h : p.updateAll token isPrivate op l m = (CKR_OK, m')) :
    lastValue CKA_PRIVATE sizeof_CK_BBOOL l = lastEntry CKA_PRIVATE l := by
  have hfits : ∀ e ∈ l, e.type = CKA_PRIVATE → e.ulValueLen = sizeof_CK_BBOOL ∧
      e.pValue.isSome = true := by
    intro e he het
    obtain ⟨a, m₁, m₂, ha, hu⟩ := updateAll_mem h he
    obtain ⟨hmem, hat⟩ := attributeOf_some ha
    exact update_fits (boolean_size_table _ hk a hmem (hat.trans het)) (by decide) hu
  rw [lastValue, lastEntry, ← List.head?_filter, ← List.head?_filter]
  congr 1
  refine List.filter_congr fun e he => ?_
  by_cases het : e.type = CKA_PRIVATE
  · obtain ⟨h1, h2⟩ := hfits e (List.mem_reverse.1 he) het
    simp [het, h1, h2]
  · simp [het]

end copied

/-! ### One step -/

section step

variable {P : Primitives} {st st' : Store Obj Sess} {ev : Event Obj} {o o' : Obj}
  {m' : AttributeMap}

lemma always_nil : AlwaysTrue [] := fun h => by cases h

/-- What a copy shows has the history that the copied object has. -/
lemma always_onCopy {token : TokenView} {upgrade isPrivate : Bool} {t : List CK_ATTRIBUTE}
    {m : AttributeMap} (h : OnCopy token upgrade isPrivate t m m') (hm : AlwaysTrue m) :
    AlwaysTrue m' := by
  obtain ⟨m₀, hcopied, rfl | ⟨p, hk, hleads⟩⟩ := h
  · exact hcopied.always hm
  · exact leads_changing_always (p11ObjectOf_mem hk) hleads (hcopied.always hm)

lemma elsewhere_becomes {o o' : OSObject} (h : Elsewhere o o') (ho : o.Settled) :
    Becomes (fun m m' => m' = m ∨ ∃ p, attributeKind m = some p ∧
      (Changing.reading p).Leads m m') o o' := by
  cases h with
  | same => exact .refl (fun _ => .inl rfl) rfl
  | reloaded hs ht =>
    exact .refl (fun _ => .inl rfl) (reload_cases hs ht).2.2.1
  | destroyed _ _ h => exact .none h
  | read stores hv =>
    rcases newP11Object_cases stores hv with ⟨-, hn⟩ | ⟨p, hk, hn⟩ <;> rw [hn]
    · exact .refl (fun _ => .inl rfl) rfl
    · intro m' hm'
      obtain ⟨m, hm, hleads⟩ := init_becomes (c := .reading p) stores ho m' hm'
      rw [shown_of_valid ho hv] at hm
      cases hm
      exact ⟨_, shown_of_valid ho hv, .inr ⟨p, hk, hleads⟩⟩

/-- **The history of `CKA_SENSITIVE` over one step.** -/
theorem step_always (hset : AllSettled st) (hall : AlwaysHolds st) (hc : ev.KeepsAlways st)
    (h : ev.Step P st st') : AlwaysHolds st' := by
  intro o m' hm'
  have hvalid : ∀ o, (st.object o).valid = true → AlwaysTrue (st.object o).attributes :=
    fun o hv => hall o _ (shown_of_valid (hset o) hv)
  cases step_cases hset h o with
  | kept _ hsame => exact hall o m' (hsame ▸ hm')
  | made x c j hmakes hj hout =>
    subst hj
    obtain ⟨plan, hplan, hleads⟩ := hout.leads m' hm'
    obtain ⟨_, _, -, -, -, -, -, hkind, -⟩ := of_planObject hplan
    exact leads_always (p11ObjectOf_mem hkind)
      (fun m l hl => puts_always hmakes hplan hvalid hc hl) hleads always_nil
  | changed x stores w hSession hObject t s p hs ho hchanged =>
    refine hchanged.becomes.invariant (fun m m' hleads => ?_) (hall o) m' hm'
    exact leads_changing_always (p11ObjectOf_mem hchanged.kind) hleads
  | copied x m hSession hObject t s source hs hsource ho hcopy =>
    by_cases hrv : (C_CopyObject P x m hSession hObject (some t) st).1 = CKR_OK
    · obtain ⟨hshown, p, m₀, m₁, hcopied, hk, hleads, hp, hu⟩ := hcopy.succeeded hrv
      rw [hshown] at hm'
      cases hm'
      have hm₁ := leads_changing_always (p11ObjectOf_mem hk) hleads
        (hcopied.always (hvalid source hcopy.valid))
      exact leads_changing_always (p11ObjectOf_mem hk) (leads_updateAll hp hu) hm₁
    · rcases hcopy.failed hrv m' hm' with rfl | hon
      · exact always_nil
      · exact always_onCopy hon (hvalid source hcopy.valid)
  | elsewhere hel =>
    obtain ⟨m, hm, rfl | ⟨p, hk, hleads⟩⟩ := elsewhere_becomes hel (hset o) m' hm'
    · exact hall o _ hm
    · exact leads_always (c := .reading p) (p11ObjectOf_mem hk)
        (fun _ _ hp => hp.elim) hleads (hall o m hm)

/-- What a call makes is at one of its new addresses, and for its session. -/
lemma makes_of {x : Outside} {c : Creation Obj} {j : Job Obj} (h : c.Makes P x st j) :
    j.making.newObject ∈ c.news ∧ j.hSession = c.hSession := by
  cases c with
  | createObject m hSession pTemplate =>
    obtain ⟨t, -, rfl⟩ := h
    exact ⟨List.mem_cons_self, rfl⟩
  | generateKey m hSession mechanism pTemplate generate =>
    obtain ⟨_, _, -, rfl⟩ := h
    exact ⟨List.mem_cons_self, rfl⟩
  | generateKeyPair mPublic mPrivate hSession mechanism pPublicKeyTemplate pPrivateKeyTemplate
      generate =>
    obtain ⟨_, _, _, -, rfl | ⟨_, -, rfl⟩⟩ := h
    · exact ⟨List.mem_cons_self, rfl⟩
    · exact ⟨List.mem_cons_of_mem _ List.mem_cons_self, rfl⟩
  | unwrapKey m hSession hUnwrappingKey pTemplate check inconsistent unwrapping material =>
    obtain ⟨_, _, -, h⟩ := h
    cases unwrapping with
    | direct keydata =>
      obtain ⟨_, -, rfl⟩ := h
      exact ⟨List.mem_cons_self, rfl⟩
    | rsaAes emphkeydata m' keydata =>
      obtain ⟨_, -, rfl | ⟨_, -, rfl⟩⟩ := h
      · exact ⟨List.mem_cons_self, rfl⟩
      · exact ⟨List.mem_cons_of_mem _ List.mem_cons_self, rfl⟩
  | deriveKey m hSession hBaseKey pTemplate derivation check derive =>
    obtain ⟨_, _, -, rfl⟩ := h
    exact ⟨List.mem_cons_self, rfl⟩
  | encapsulateKey m hSession hPublicKey pTemplate check hasBuffer late material buffer =>
    obtain ⟨_, -, -, rfl⟩ := h
    exact ⟨List.mem_cons_self, rfl⟩
  | decapsulateKey m hSession hPrivateKey pTemplate check late material =>
    obtain ⟨_, -, rfl⟩ := h
    exact ⟨List.mem_cons_self, rfl⟩

/-- A copy keeps what lasts. -/
lemma copy_lasting {token : TokenView} {t : List CK_ATTRIBUTE} {source y : OSObject}
    (h : CopyOf token t source CKR_OK y) (hm' : y.shown = some m') :
    Lasting source.attributes m' := by
  obtain ⟨hshown, p, m₀, m₁, hcopied, hk, hleads, hp, hu⟩ := h.succeeded rfl
  rw [hshown] at hm'
  cases hm'
  have hkind := p11ObjectOf_mem hk
  have honeWay := leads_oneWay (c := changing p token (becomesPrivate source.attributes t) .COPY t)
    hkind (.inr rfl) (fun _ _ hp => hp) (hleads.trans (leads_updateAll hp hu))
  refine ⟨hcopied.lasting.toOneWay.trans honeWay, fun hprivate => ?_⟩
  have hflag := updateAll_flag hkind (t := CKA_PRIVATE) (by decide) hu
  cases he : lastEntry CKA_PRIVATE t with
  | none =>
    rw [he, Option.elim_none] at hflag
    have hnone : ∀ e ∈ t, e.type ≠ CKA_PRIVATE := by
      intro e hmem het
      have := List.find?_eq_none.1 he e (List.mem_reverse.2 hmem)
      simp [het] at this
    rw [hflag]
    exact leads_flag (c := changing p token (becomesPrivate source.attributes t) .COPY t) hkind
      (by decide) (fun _ _ hp => hp) hnone hleads ((hcopied.flag _).trans hprivate)
  | some e =>
    -- the template may only say again that the copy is private
    have hbecomes := h.private_ (getBooleanValue_of_flag hprivate)
    rw [becomesPrivate, boolOf, lastValue_private hkind hu, he, Option.map_some,
      Option.getD_some] at hbecomes
    rw [hflag, he, Option.elim_some, hbecomes]

/-- **One step on the way of an object.** -/
theorem follow_lasting {a b : Store Obj Sess × Obj} (hset : AllSettled a.1)
    (h : Follow P a ev b) : Becomes Lasting (a.1.object a.2) (b.1.object b.2) := by
  obtain ⟨hstep, hway⟩ := h
  rcases hway with ⟨heq, hnew⟩ | hcopies
  · rw [heq]
    cases step_cases hset hstep a.2 with
    | kept _ hsame => exact .refl .refl (by rw [hsame])
    | made x c j hmakes hj _ => exact absurd (hj ▸ (makes_of hmakes).1) hnew
    | changed x stores w hSession hObject t s p hs ho hchanged =>
      have hk := p11ObjectOf_mem hchanged.kind
      exact hchanged.becomes.mono fun m m' hleads =>
        ⟨leads_oneWay (c := changing p _ _ .SET t) hk (.inl rfl) (fun _ _ hp => hp) hleads,
          leads_private (c := changing p _ _ .SET t) hk rfl (fun _ _ hp => hp) hleads⟩
    | copied x m hSession hObject t s source hs hsource ho _ =>
      exact absurd (ho ▸ List.mem_cons_self) hnew
    | elsewhere hel =>
      refine (elsewhere_becomes hel (hset a.2)).mono fun m m' hm => ?_
      rcases hm with rfl | ⟨p, hk, hleads⟩
      · exact .refl m'
      · exact ⟨leads_oneWay (c := .reading p) (p11ObjectOf_mem hk) (.inl rfl) (fun _ _ hp => hp)
          hleads, leads_private (c := .reading p) (p11ObjectOf_mem hk) rfl (fun _ _ hp => hp)
          hleads⟩
  · cases ev with
    | copyObject x m hSession hObject pTemplate =>
      obtain ⟨hrv, hobject, hnew⟩ := hcopies
      obtain ⟨-, hst⟩ := hstep
      rcases hr : C_CopyObject P x m hSession hObject pTemplate a.1 with ⟨rv, hNew, st'⟩
      rw [hr] at hrv hst
      rcases copyObject_outcome hr with ⟨hne, -⟩ | ⟨t, s, source, rfl, hs, hsource, -, hcopy⟩
      · exact absurd hrv hne
      · rw [hobject] at hsource
        cases hsource
        rw [hst, hnew]
        change rv = CKR_OK at hrv
        subst hrv
        intro m' hm'
        exact ⟨_, shown_of_valid (hset a.2) hcopy.valid, copy_lasting hcopy hm'⟩
    | creation x c => exact hcopies.elim
    | setAttributeValue x stores w hSession hObject pTemplate => exact hcopies.elim
    | other => exact hcopies.elim

/-- A call that makes objects says nothing of whether they are trusted. -/
lemma puts_untrusted {x : Outside} {c : Creation Obj} {j : Job Obj} {plan : Plan}
    {m : AttributeMap} {l : List (CK_ATTRIBUTE_TYPE × OSAttribute)} (hmakes : c.Makes P x st j)
    (hl : (plan.changing j.op j.supply).puts m l) : ∀ y ∈ l, y.1 ≠ CKA_TRUSTED := by
  rcases hl with rfl | ⟨hl, -⟩
  · exact fun y hy he => absurd (he ▸ ownOf_types plan j.op y hy) (by decide)
  rcases makes_origin hmakes with ⟨_, _, _, -, rfl⟩ | ⟨-, origin, hsup, horigin⟩
  · cases hl
    exact fun y hy => absurd hy List.not_mem_nil
  · obtain ⟨material, rfl⟩ := hsup m l hl
    intro y hy he
    rcases List.mem_append.1 hy with hy | hy
    · exact absurd (he ▸ origin_types horigin m y hy) (by decide)
    · exact absurd (he ▸ material.known y hy) (by decide)

/-- **Who makes an object trusted**: it is a copy of a trusted one, or the security officer is
logged in. -/
theorem step_trusted (hset : AllSettled st) (h : ev.Step P st st')
    (hm' : (st'.object o).shown = some m') (ht : m'.flag CKA_TRUSTED = some true) :
    (∃ m, (st.object o).shown = some m ∧ m.flag CKA_TRUSTED = some true) ∨
    (∃ o₀ m, ev.Copying st o₀ o ∧ (st.object o₀).shown = some m ∧
      m.flag CKA_TRUSTED = some true) ∨
    ∃ hSession, ev.session = some hSession ∧ Event.SoLoggedIn st hSession := by
  cases step_cases hset h o with
  | kept _ hsame => exact .inl ⟨m', hsame ▸ hm', ht⟩
  | made x c j hmakes hj hout =>
    subst hj
    obtain ⟨plan, hplan, hleads⟩ := hout.leads m' hm'
    obtain ⟨_, s, -, hs, -, -, -, hkind, hslot, htoken, -⟩ := of_planObject hplan
    rcases leads_trusted (c := plan.changing j.op j.supply) (p11ObjectOf_mem hkind)
      (fun m l hl => puts_untrusted hmakes hl) hleads ht with hnil | hso
    · cases hnil
    · refine .inr (.inr ⟨c.hSession, rfl, s, (makes_of hmakes).2 ▸ hs, ?_⟩)
      rw [← hslot]
      have hplanned : (plan.changing j.op j.supply).token = plan.token := rfl
      rw [hplanned, htoken] at hso
      exact hso
  | changed x stores w hSession hObject t s p hs ho hchanged =>
    obtain ⟨m, hm, hleads⟩ := hchanged.becomes m' hm'
    rcases leads_trusted (c := changing p _ _ .SET t) (p11ObjectOf_mem hchanged.kind)
      (fun _ _ hp => hp.elim) hleads ht with hold | hso
    · exact .inl ⟨m, hm, hold⟩
    · exact .inr (.inr ⟨hSession, rfl, s, hs, hso⟩)
  | copied x m hSession hObject t s source hs hsource ho hcopy =>
    have hshown := shown_of_valid (hset source) hcopy.valid
    have hon : ∀ {p m₀}, Copied (token P x (st.sdm (st.session s).slotID))
        (!wasPrivate (st.object source).attributes && becomesPrivate (st.object source).attributes t)
        (st.object source).attributes m₀ → attributeKind m₀ = some p →
        (changing p (token P x (st.sdm (st.session s).slotID))
          (becomesPrivate (st.object source).attributes t) .COPY t).Leads m₀ m' →
        (st.object source).attributes.flag CKA_TRUSTED = some true ∨
          (token P x (st.sdm (st.session s).slotID)).isSOLoggedIn = true := by
      intro p m₀ hcopied hk hleads
      rw [← hcopied.flag CKA_TRUSTED]
      exact leads_trusted (c := changing p _ _ .COPY t) (p11ObjectOf_mem hk)
        (fun _ _ hp => hp.elim) hleads ht
    have hends : (st.object source).attributes.flag CKA_TRUSTED = some true ∨
        (token P x (st.sdm (st.session s).slotID)).isSOLoggedIn = true := by
      by_cases hrv : (C_CopyObject P x m hSession hObject (some t) st).1 = CKR_OK
      · obtain ⟨hshown', p, m₀, m₁, hcopied, hk, hleads, hp, hu⟩ := hcopy.succeeded hrv
        rw [hshown'] at hm'
        cases hm'
        exact hon hcopied hk (hleads.trans (leads_updateAll hp hu))
      · rcases hcopy.failed hrv m' hm' with rfl | ⟨m₀, hcopied, rfl | ⟨p, hk, hleads⟩⟩
        · cases ht
        · exact .inl ((hcopied.flag _).symm.trans ht)
        · exact hon hcopied hk hleads
    rcases hends with hold | hso
    · exact .inr (.inl ⟨source, _, ⟨hsource, ho⟩, hshown, hold⟩)
    · exact .inr (.inr ⟨hSession, rfl, s, hs, hso⟩)
  | elsewhere hel =>
    obtain ⟨m, hm, rfl | ⟨p, hk, hleads⟩⟩ := elsewhere_becomes hel (hset o) m' hm'
    · exact .inl ⟨_, hm, ht⟩
    · rcases leads_trusted (c := .reading p) (p11ObjectOf_mem hk) (fun _ _ hp => hp.elim) hleads ht
        with hold | hso
      · exact .inl ⟨m, hm, hold⟩
      · cases hso

/-- **What is told by the library alone** is in no template that is accepted. -/
theorem toldAlone_refused (hset : AllSettled st) {e : CK_ATTRIBUTE} (he : e ∈ ev.template)
    (ht : e.type ∈ toldAlone) : ev.answer P st ≠ CKR_OK := by
  intro hrv
  cases ev with
  | creation x c => exact absurd he List.not_mem_nil
  | other => exact absurd he List.not_mem_nil
  | setAttributeValue x stores w hSession hObject pTemplate =>
    rcases hr : C_SetAttributeValue P x stores w hSession hObject pTemplate st with ⟨rv, st'⟩
    rw [Event.answer, hr] at hrv
    rcases setAttributeValue_changed hset hr with
      ⟨hne, -⟩ | ⟨t, s, o, object, p, rfl, hs, ho, -, hchanged, hok⟩
    · exact hne hrv
    · obtain ⟨-, m, hu⟩ := hok hrv
      exact updateAll_readOnly (p11ObjectOf_mem hchanged.kind) hu he ht
  | copyObject x m hSession hObject pTemplate =>
    rcases hr : C_CopyObject P x m hSession hObject pTemplate st with ⟨rv, hNew, st'⟩
    rw [Event.answer, hr] at hrv
    rcases copyObject_outcome hr with ⟨hne, -⟩ | ⟨t, s, source, rfl, hs, hsource, -, hcopy⟩
    · exact hne hrv
    · obtain ⟨-, p, m₀, m₁, -, hk, -, -, hu⟩ := hcopy.succeeded hrv
      exact updateAll_readOnly (p11ObjectOf_mem hk) hu he ht

end step

/-! ### Runs -/

section runs

variable {P : Primitives} {st₀ st : Store Obj Sess} {evs : List (Event Obj)}

/-- Nothing is shown yet. -/
structure Fresh (st : Store Obj Sess) : Prop where
  settled : AllSettled st
  empty : ∀ o, (st.object o).shown = none

/-- A step that meets a condition. -/
def StepWith (P : Primitives) (C : Store Obj Sess → Event Obj → Prop) (st : Store Obj Sess)
    (ev : Event Obj) (st' : Store Obj Sess) : Prop := ev.Step P st st' ∧ C st ev

lemma run_settled {C : Store Obj Sess → Event Obj → Prop} (h₀ : AllSettled st₀)
    (hr : Run (StepWith P C) st₀ evs st) : AllSettled st :=
  hr.invariant h₀ fun _ _ _ h hstep => step_settled h hstep.1

/-- The way of an object through a run. -/
lemma run_lasting {a b : Store Obj Sess × Obj} (h : AllSettled a.1) (hr : Run (Follow P) a evs b) :
    AllSettled b.1 ∧ Becomes Lasting (a.1.object a.2) (b.1.object b.2) := by
  induction hr with
  | nil => exact ⟨h, .refl .refl rfl⟩
  | snoc _ hs ih =>
    obtain ⟨hset, hway⟩ := ih
    exact ⟨step_settled hset hs.1, hway.trans (fun _ _ _ => Lasting.trans) (follow_lasting hset hs)⟩

/-- **The one-way attributes over whole runs.** In a state that is reached, whatever is shown has the
history of `CKA_SENSITIVE`; on every way of an object and its copies from there the one-way attributes
go one way; a step makes an object trusted only for the security officer, or as a copy of a trusted
one; and what the library tells alone is in no template that is accepted. -/
theorem one_way_runs (h₀ : Fresh st₀) (hr : Run (StepWith P fun st ev => ev.KeepsAlways st) st₀ evs st) :
    (∀ o m, (st.object o).shown = some m → AlwaysTrue m) ∧
    (∀ evs' st' o o', Run (Follow P) (st, o) evs' (st', o') →
      Becomes Lasting (st.object o) (st'.object o')) ∧
    (∀ (ev : Event Obj) (st' : Store Obj Sess) o m', ev.Step P st st' → (st'.object o).shown = some m' →
      m'.flag CKA_TRUSTED = some true →
      (∃ m, (st.object o).shown = some m ∧ m.flag CKA_TRUSTED = some true) ∨
      (∃ o₀ m, ev.Copying st o₀ o ∧ (st.object o₀).shown = some m ∧
        m.flag CKA_TRUSTED = some true) ∨
      ∃ hSession, ev.session = some hSession ∧ Event.SoLoggedIn st hSession) ∧
    ∀ ev : Event Obj, ∀ e ∈ ev.template, e.type ∈ toldAlone → ev.answer P st ≠ CKR_OK := by
  have hset : AllSettled st := run_settled h₀.settled hr
  refine ⟨?_, fun evs' st' o o' hway => (run_lasting hset hway).2,
    fun ev st' o m' hstep hm' ht => step_trusted hset hstep hm' ht,
    fun ev e he ht => toldAlone_refused hset he ht⟩
  have hinv : AllSettled st ∧ AlwaysHolds st := by
    refine hr.invariant (P := fun st => AllSettled st ∧ AlwaysHolds st)
      ⟨h₀.settled, fun o m hm => ?_⟩ fun st ev st' h hstep =>
      ⟨step_settled h.1 hstep.1, step_always h.1 h.2 hstep.2 hstep.1⟩
    rw [h₀.empty o] at hm
    cases hm
  exact hinv.2

end runs

/-! ### A key that was said to have always been sensitive -/

section next

variable {P : Primitives} {x : Outside} {st : Store Obj Sess} {slotID : CK_SLOT_ID} {hSession : ℕ}
  {m : Making Obj} {attribs : List CK_ATTRIBUTE} {op : ObjectOp} {aborts : Bool} {supply : Supply}

lemma addHandle_rep {o : Obj} (isOnToken isPrivate : Bool) (st : Store Obj Sess)
    (hrep : HandleManager.Rep (fun _ => slotID) st.handleManager)
    (hc : st.handleManager.handleCounter + 1 < 2 ^ 64)
    (hS : ∃ s, st.handleManager.handles hSession = some (.session slotID s)) :
    HandleManager.Rep (fun _ => slotID)
      (addHandle slotID hSession isOnToken isPrivate o st).2.handleManager := by
  unfold addHandle
  cases isOnToken
  · exact HandleManager.rep_addSessionObject hrep hc fun _ => hS
  · exact HandleManager.rep_addTokenObject hrep hc

/-- The handles of one slot stay in order while a key is made. -/
lemma makeKey_rep (hrep : HandleManager.Rep (fun _ => slotID) st.handleManager)
    (hc : st.handleManager.handleCounter + 1 < 2 ^ 64)
    (hS : ∃ s, st.handleManager.handles hSession = some (.session slotID s))
    (hslot : ∀ plan, planObject P x hSession (some attribs) st = .ok plan → plan.slotID = slotID) :
    HandleManager.Rep (fun _ => slotID)
      (makeKey P x m hSession attribs op aborts supply st).2.2.handleManager := by
  have hcreate : HandleManager.Rep (fun _ => slotID)
      (CreateObject P x m hSession (some attribs) op st).2.2.handleManager := by
    cases hplan : planObject P x hSession (some attribs) st with
    | error rv =>
      rw [CreateObject, hplan]
      exact hrep
    | ok plan =>
      rw [CreateObject_eq hplan]
      rcases makeObject plan m op with ⟨rv, _ | y⟩
      · cases rv <;> exact hrep
      · have hadd := addHandle_rep (o := m.newObject) (plan.info.isOnToken ≠ CK_FALSE)
          (plan.info.isPrivate ≠ CK_FALSE) (insertObject plan.slotID m y st) hrep hc hS
        rw [← hslot plan hplan] at hadd hrep ⊢
        cases rv <;> first | exact hrep | exact hadd
  have hstore : HandleManager.Rep (fun _ => slotID)
      (storeKey P x m hSession attribs op aborts supply st).2.2.handleManager := by
    unfold storeKey
    rcases hr : CreateObject P x m hSession (some attribs) op st with ⟨rv, h, st'⟩
    rw [hr] at hcreate
    by_cases hrv : rv = CKR_OK
    · subst hrv
      dsimp only
      cases st'.handleManager.getObject h <;> exact hcreate
    · cases rv <;> first | exact hcreate | exact absurd rfl hrv
  unfold makeKey
  rcases hr : storeKey P x m hSession attribs op aborts supply st with ⟨rv, h, st'⟩
  rw [hr] at hstore
  by_cases hrv : rv = CKR_OK
  · subst hrv
    exact hstore
  · rw [cleanUp_of_ne hrv, removeKey]
    split
    · exact hstore
    · dsimp only
      cases st'.handleManager.getObject h with
      | none => exact HandleManager.rep_destroyObject hstore h
      | some o =>
        have hdestroy : ∀ st'' : Store Obj Sess,
            (destroyObject m.removal o st'').handleManager = st''.handleManager := by
          intro st''
          unfold destroyObject
          dsimp only
          split
          · rfl
          · split <;> rfl
        dsimp only
        rw [hdestroy]
        exact HandleManager.rep_destroyObject hstore h

/-- The other objects are in the same lists. -/
lemma makeKey_lists (h : Ready [m.newObject] st) (hset : op ≠ .SET) (hcopy : op ≠ .COPY)
    (hs : ∀ m, supply m ≠ .error CKR_OK) {o : Obj} (hne : o ≠ m.newObject) (slotID : CK_SLOT_ID) :
    o ∈ (makeKey P x m hSession attribs op aborts supply st).2.2.allObjects slotID ↔
      o ∈ st.allObjects slotID := by
  have hn : m.newObject ∈ [m.newObject] := List.mem_cons_self
  have hnothing := h.nothing
  unfold makeKey
  rcases hr : storeKey P x m hSession attribs op aborts supply st with ⟨rv, hKey, st'⟩
  have hsplit := storeKey_split (j := ⟨m, hSession, attribs, op, supply, true⟩) aborts
    hnothing.beside hn (hnothing.left _ hn) (h.objects _ hn) hnothing.room hset hcopy hs hr
  have hmem : o ∈ st'.allObjects slotID ↔ o ∈ st.allObjects slotID := by
    rcases hsplit with ⟨-, -, -, haround, -⟩ | ⟨-, -, -, haround⟩ <;> exact haround.mem o hne slotID
  by_cases hrv : rv = CKR_OK
  · subst hrv
    exact hmem
  · rw [cleanUp_of_ne hrv, ← hmem]
    refine (removeKey_of_ne (o := m.newObject) m.removal (fun hinv => ?_) hne).2 slotID
    rcases hsplit with ⟨-, rfl, -⟩ | ⟨-, hi, -⟩
    · exact absurd rfl hinv
    · exact hi.getObject

/-- After a key has been generated there is room for the next object. -/
lemma generateKey_ready {mechanism : CK_MECHANISM_TYPE} {pTemplate : Option (List CK_ATTRIBUTE)}
    {generate : List CK_ATTRIBUTE → Except CK_RV (Option Material)} {st' : Store Obj Sess} {o : Obj}
    (hst' : st' = (C_GenerateKey P x m hSession mechanism pTemplate generate st).2.2)
    (h : Ready [m.newObject] st)
    (hrep : HandleManager.Rep (fun _ => slotID) st.handleManager)
    (hS : ∃ s, st.handleManager.handles hSession = some (.session slotID s))
    (hslot : ∀ s, (st.session s).slotID = slotID) (hne : o ≠ m.newObject)
    (hlists : ∀ slotID, o ∉ st.allObjects slotID) (hobjects : st'.handleManager.objects o = none)
    (hroom : st'.handleManager.handleCounter + 2 < 2 ^ 64) : Ready [o] st' := by
  have hc : st.handleManager.handleCounter + 1 < 2 ^ 64 := by
    have := h.room
    omega
  suffices hsuff : (∀ slotID, o ∉ st'.allObjects slotID) ∧
      HandleManager.Rep (fun _ => slotID) st'.handleManager by
    refine ⟨List.nodup_singleton o, fun o' ho' => ?_, fun o' ho' => ?_, ⟨_, hsuff.2⟩, hroom⟩ <;>
      rw [List.mem_singleton.1 ho']
    · exact hsuff.1
    · exact hobjects
  rw [hst', C_GenerateKey]
  cases hplan : planGenerateKey x hSession mechanism pTemplate generate st with
  | error rv => exact ⟨hlists, hrep⟩
  | ok r =>
    obtain ⟨attribs, supply⟩ := r
    obtain ⟨_, _, _, _, _, _, origin, material, -, rfl, -⟩ := of_planGenerateKey hplan
    refine ⟨fun slotID => ?_, makeKey_rep hrep hc hS fun plan hp => ?_⟩
    · rw [makeKey_lists h (fun he => by cases he) (fun he => by cases he) (supplyOf_ne _ _) hne]
      exact hlists slotID
    · obtain ⟨_, s, -, -, -, -, -, -, hs, -⟩ := of_planObject hp
      exact hs.trans (hslot s)

end next

section twiceOver

/-- The bytes of a key. -/
def sixteenBytes : Material :=
  ⟨[(CKA_VALUE, .byteString (List.replicate 16 7))], by simp [materialTypes], by simp +decide⟩

/-- Of an AES key that is neither sensitive nor extractable. -/
def plainTemplate : List CK_ATTRIBUTE :=
  [⟨CKA_VALUE_LEN, some (ulongBytes 16), 0⟩, ⟨CKA_SENSITIVE, some [CK_FALSE], 0⟩,
    ⟨CKA_EXTRACTABLE, some [CK_FALSE], 0⟩, ⟨CKA_DERIVE, some [CK_TRUE], 0⟩]

def plainKey : Creation ℕ :=
  .generateKey (smooth 0) 1 CKM_AES_KEY_GEN (some plainTemplate) fun _ => .ok (some sixteenBytes)

/-- The key twice over. -/
def twiceOver : Creation ℕ :=
  .deriveKey (smooth 1) 1 2 (some [⟨CKA_SENSITIVE, some [CK_FALSE], 0⟩]) (.key 2)
    (fun _ _ => CKR_OK) fun _ t => .ok ⟨t, none, some sixteenBytes⟩

/-- The store with the key. -/
def oneKey : Store ℕ Unit := (plainKey.exec plainCopies noOutside oneSession).2

/-- The store with both keys. -/
def bothKeys : Store ℕ Unit := (twiceOver.exec plainCopies noOutside oneKey).2

lemma fresh_oneSession : Fresh oneSession := ⟨fun _ => settled_of_session rfl, fun _ => rfl⟩

lemma ready_oneKey : Ready [1] oneKey := by
  have hrep : HandleManager.Rep (fun _ : ℕ => 0) oneSession.handleManager :=
    HandleManager.rep_addSession (HandleManager.rep_empty fun _ => 0) (by decide) 0 ()
  have hst : oneKey = (C_GenerateKey plainCopies noOutside (smooth 0) 1 CKM_AES_KEY_GEN
      (some plainTemplate) (fun _ => .ok (some sixteenBytes)) oneSession).2.2 := by
    simp only [oneKey, plainKey, Creation.exec]
  exact generateKey_ready hst (ready_oneSession (by decide)) hrep ⟨(), rfl⟩ (fun _ => rfl)
    (by decide) (fun _ => List.not_mem_nil) (by decide +kernel) (by decide +kernel)

lemma step_plainKey : Event.Step plainCopies oneSession (.creation noOutside plainKey) oneKey :=
  ⟨ready_oneSession (by decide), by rw [oneKey]⟩

/-- The two calls. -/
lemma run_twiceOver : Run (Event.Step plainCopies) oneSession
    [.creation noOutside plainKey, .creation noOutside twiceOver] bothKeys := by
  have h2 : Event.Step plainCopies oneKey (.creation noOutside twiceOver) bothKeys :=
    ⟨ready_oneKey, by rw [bothKeys]⟩
  exact (Run.single step_plainKey).trans (Run.single h2)

theorem one_way_runs_plainKey : ∃ m, (oneKey.object 0).shown = some m ∧ AlwaysTrue m := by
  have hshown : (oneKey.object 0).shown.isSome = true := by decide +kernel
  obtain ⟨m, hm⟩ := Option.isSome_iff_exists.1 hshown
  exact ⟨m, hm, (one_way_runs fresh_oneSession (Run.single ⟨step_plainKey, trivial⟩)).1 0 m hm⟩

/-- The key of the second call has, by its attributes, always been sensitive, and is not. -/
theorem derived_key_is_not_sensitive : ∃ (evs : List (Event ℕ)) (st : Store ℕ Unit),
    Fresh oneSession ∧ Run (Event.Step plainCopies) oneSession evs st ∧
    ∃ o m, (st.object o).shown = some m ∧ m.flag CKA_ALWAYS_SENSITIVE = some true ∧
      m.flag CKA_SENSITIVE = some false := by
  have hflags : (bothKeys.object 1).shown.map
      (fun m => (m.flag CKA_ALWAYS_SENSITIVE, m.flag CKA_SENSITIVE)) =
      some (some true, some false) := by decide +kernel
  obtain ⟨m, hm, hf⟩ := Option.map_eq_some_iff.1 hflags
  obtain ⟨h1, h2⟩ := Prod.mk.inj hf
  exact ⟨_, bothKeys, fresh_oneSession, run_twiceOver, 1, m, hm, h1, h2⟩

end twiceOver

end SoftHSM.Create
