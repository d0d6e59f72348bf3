import SoftHSM.Library.Flags
import SoftHSM.Library.Atomic

/-!
What a call makes of the attributes of an object, step by step: the defaults that are added, the
entries of the template, and what the call itself puts. Whatever an object shows afterwards,
also when the call fails, is on this way.
-/

namespace SoftHSM

open CK_RV P11Object OSObject
open RecordFile (Write)

/-! ### The way of an object -/

/-- What changes an object: its kind, the template of an operation, and what is put by the call. -/
structure Changing where
  p11object : P11Object
  token : TokenView
  isPrivate : Bool
  op : ObjectOp
  attribs : List CK_ATTRIBUTE
  puts : AttributeMap → List (CK_ATTRIBUTE_TYPE × OSAttribute) → Prop

/-- The attributes that a kind presets are there. -/
def Prepared (p : P11Object) (m : AttributeMap) : Prop :=
  ∀ x ∈ p.presets, m.attributeExists (presetType x) = true

/-- What the attributes may come to be. -/
inductive Changing.Leads (c : Changing) (m : AttributeMap) : AttributeMap → Prop
  | refl : Leads c m m
  | value {m' : AttributeMap} (h : Leads c m m') {type : CK_ATTRIBUTE_TYPE} {v : UInt64}
      (hx : .value type v ∈ c.p11object.presets) :
      Leads c m (m'.setAttribute type (.unsignedLong v))
  | missing {m' : AttributeMap} (h : Leads c m m') {type : CK_ATTRIBUTE_TYPE} {attr : OSAttribute}
      (hx : .missing type attr ∈ c.p11object.presets) (hm : m'.attributeExists type = false) :
      Leads c m (m'.setAttribute type attr)
  | default {m' : AttributeMap} (h : Leads c m m') {a : P11Attribute}
      (ha : a ∈ c.p11object.attributes) (hm : m'.attributeExists a.type = false)
      (hp : Prepared c.p11object m') : Leads c m (m'.setAttribute a.type a.default)
  | update {m' : AttributeMap} (h : Leads c m m') {e : CK_ATTRIBUTE} (he : e ∈ c.attribs)
      {a : P11Attribute} (ha : c.p11object.attributeOf e.type = some a)
      (hp : Prepared c.p11object m') :
      Leads c m (a.update c.token c.isPrivate e c.op m').2
  | put {m' : AttributeMap} (h : Leads c m m') {l : List (CK_ATTRIBUTE_TYPE × OSAttribute)}
      (hl : c.puts m' l) : Leads c m (Create.putAll l m')

/-- A token that is not asked for anything. -/
def TokenView.absent : TokenView :=
  ⟨fun _ => none, fun _ => none, false, fun _ _ => [], fun _ => none, fun _ => []⟩

/-- An object that is only given the defaults that it lacks. -/
def Changing.reading (p : P11Object) : Changing :=
  ⟨p, .absent, false, .SET, [], fun _ _ => False⟩

/-- What an object shows is what another one showed, or what that may come to be. -/
def Becomes (R : AttributeMap → AttributeMap → Prop) (o o' : OSObject) : Prop :=
  ∀ m', o'.shown = some m' → ∃ m, o.shown = some m ∧ R m m'

section becomes

variable {R S : AttributeMap → AttributeMap → Prop} {o o' o'' : OSObject}

lemma Becomes.refl (hr : ∀ m, R m m) (h : o'.shown = o.shown) : Becomes R o o' :=
  fun m' hm' => ⟨m', h ▸ hm', hr m'⟩

lemma Becomes.none (h : o'.shown = none) : Becomes R o o' := by
  intro m' hm'
  rw [h] at hm'
  cases hm'

lemma Becomes.mono (hRS : ∀ m m', R m m' → S m m') (h : Becomes R o o') : Becomes S o o' := by
  intro m' hm'
  obtain ⟨m, hm, hr⟩ := h m' hm'
  exact ⟨m, hm, hRS m m' hr⟩

lemma Becomes.trans (ht : ∀ m m' m'', R m m' → R m' m'' → R m m'') (h : Becomes R o o')
    (h' : Becomes R o' o'') : Becomes R o o'' := by
  intro m'' hm''
  obtain ⟨m', hm', hr'⟩ := h' m'' hm''
  obtain ⟨m, hm, hr⟩ := h m' hm'
  exact ⟨m, hm, ht m m' m'' hr hr'⟩

/-- An invariant of what an object shows. -/
lemma Becomes.invariant {I : AttributeMap → Prop} (h : Becomes R o o')
    (hR : ∀ m m', R m m' → I m → I m') (ho : ∀ m, o.shown = some m → I m) :
    ∀ m', o'.shown = some m' → I m' := by
  intro m' hm'
  obtain ⟨m, hm, hr⟩ := h m' hm'
  exact hR m m' hr (ho m hm)

end becomes

/-! ### The steps are on the way -/

section steps

variable {c : Changing} {m m' : AttributeMap} {o o' : OSObject}
  {stores : CK_ATTRIBUTE_TYPE → Write}

/-- The update with one entry of a template. -/
def updateEntry (p : P11Object) (token : TokenView) (isPrivate : Bool) (op : ObjectOp)
    (e : CK_ATTRIBUTE) : Update :=
  match p.attributeOf e.type with
  | none => Update.refuse CKR_ATTRIBUTE_TYPE_INVALID
  | some a => a.update token isPrivate e op

lemma updateAll_cons (p : P11Object) (token : TokenView) (isPrivate : Bool) (op : ObjectOp)
    (e : CK_ATTRIBUTE) (l : List CK_ATTRIBUTE) : p.updateAll token isPrivate op (e :: l) =
      (updateEntry p token isPrivate op e).andThen (p.updateAll token isPrivate op l) := rfl

/-- The entries of a template, one after the other. -/
lemma updateAll_leads {l : List CK_ATTRIBUTE} (hl : l ⊆ c.attribs) (hp : Prepared c.p11object m')
    (h : c.Leads m m') : c.Leads m (c.p11object.updateAll c.token c.isPrivate c.op l m').2 := by
  induction l generalizing m' with
  | nil => exact h
  | cons e l ih =>
    have he : e ∈ c.attribs := hl List.mem_cons_self
    have hl' : l ⊆ c.attribs := fun x hx => hl (List.mem_cons_of_mem _ hx)
    have hstep : c.Leads m (updateEntry c.p11object c.token c.isPrivate c.op e m').2 ∧
        Prepared c.p11object (updateEntry c.p11object c.token c.isPrivate c.op e m').2 := by
      unfold updateEntry
      cases ha : c.p11object.attributeOf e.type with
      | none => exact ⟨h, hp⟩
      | some a => exact ⟨h.update he ha hp, fun x hx => exists_update a _ _ e _ (hp x hx)⟩
    rw [updateAll_cons, Update.andThen]
    split
    · rename_i m'' heq
      rw [heq] at hstep
      exact ih hl' hstep.2 hstep.1
    · exact hstep.1

/-- The rule for `init`, with what is known where an attribute is set. -/
lemma init_rule {p : P11Object} {J : OSObject → Prop}
    (hvalue : ∀ (o : OSObject) type v, .value type v ∈ p.presets → o.valid = true → J o →
      J (o.setAttribute (stores type) type (.unsignedLong v)).2)
    (hmissing : ∀ (o : OSObject) type attr, .missing type attr ∈ p.presets → o.valid = true →
      o.attributes.attributeExists type = false → J o →
      J (o.setAttribute (stores type) type attr).2)
    (hdefault : ∀ (o : OSObject), ∀ a ∈ p.attributes, o.valid = true →
      o.attributes.attributeExists a.type = false →
      Prepared p o.attributes → J o → J (o.setAttribute (stores a.type) a.type a.default).2)
    (h : J o) : J (p.init stores o).2 := by
  have hinvalid : ∀ (o : OSObject) w type attr, o.valid = false → J o →
      J (o.setAttribute w type attr).2 := by
    intro o w type attr hv ho
    rw [OSObject.setAttribute, hv]
    exact ho
  have hexists : ∀ {o : OSObject} {type}, (!o.attributeExists type) = true → o.valid = true →
      o.attributes.attributeExists type = false := by
    intro o type hx hv
    simpa [OSObject.attributeExists, hv] using hx
  have hpre : ∀ l ⊆ p.presets, ∀ o, J o → J (l.foldl (applyPreset stores) o) := by
    intro l hl
    induction l with
    | nil => exact fun o h => h
    | cons x l ih =>
      intro o h
      refine ih (fun y hy => hl (List.mem_cons_of_mem _ hy)) _ ?_
      have hx : x ∈ p.presets := hl List.mem_cons_self
      cases x with
      | value type v =>
        simp only [applyPreset]
        split
        · cases hv : o.valid
          · exact hinvalid _ _ _ _ hv h
          · exact hvalue o type v hx hv h
        · exact h
      | missing type attr =>
        simp only [applyPreset]
        split
        · rename_i hc
          cases hv : o.valid
          · exact hinvalid _ _ _ _ hv h
          · exact hmissing o type attr hx hv (hexists hc hv) h
        · exact h
  -- the types of the presets are there when the defaults come, if the object is still valid
  have hattr : ∀ l ⊆ p.attributes, ∀ o, J o →
      (o.valid = true → Prepared p o.attributes) →
      J (initAttributes stores l o).2 := by
    intro l hl
    induction l with
    | nil => exact fun o h _ => h
    | cons a l ih =>
      intro o h hpresets
      have hl' : l ⊆ p.attributes := fun x hx => hl (List.mem_cons_of_mem _ hx)
      rw [initAttributes]
      by_cases hx : (!o.attributeExists a.type) = true
      · rw [if_pos hx]
        have hset : J (o.setAttribute (stores a.type) a.type a.default).2 := by
          cases hv : o.valid
          · exact hinvalid _ _ _ _ hv h
          · exact hdefault o a (hl List.mem_cons_self) hv (hexists hx hv) (hpresets hv) h
        have hpresets' : (o.setAttribute (stores a.type) a.type a.default).2.valid = true →
            Prepared p (o.setAttribute (stores a.type) a.type a.default).2.attributes := by
          intro hv' x hx'
          rw [setAttribute_attributes]
          split
          · rename_i hv
            exact attributeExists_setAttribute _ (hpresets hv x hx')
          · rename_i hv
            rw [Bool.not_eq_true] at hv
            rw [OSObject.setAttribute, hv] at hv'
            exact absurd (hv'.symm.trans hv) (by decide)
        rcases hr : o.setAttribute (stores a.type) a.type a.default with ⟨ok, o'⟩
        rw [hr] at hset hpresets'
        cases ok
        · exact hset
        · exact ih hl' _ hset hpresets'
      · rw [if_neg hx]
        exact ih hl' _ h hpresets
  exact hattr _ (List.Subset.refl _) _ (hpre _ (List.Subset.refl _) _ h)
    fun hv => (presets_exist hv).2.1

/-- After `init` has succeeded the presets are there. -/
lemma prepared_of_init {p : P11Object} (hp : p.attributes ≠ []) (h : p.init stores o = (true, o')) :
    Prepared p o'.attributes := by
  rw [P11Object.init] at h
  obtain ⟨-, hexist, -⟩ := presets_exist (valid_of_initAttributes hp h)
  have hkeep := initAttributes_invariant (I := Prepared p) stores (l := p.attributes)
    (fun a _ m hm _ x hx => attributeExists_setAttribute _ (hm x hx)) hexist
  rw [h] at hkeep
  exact hkeep

/-- **`init` is on the way.** -/
theorem init_becomes (stores : CK_ATTRIBUTE_TYPE → Write) (ho : o.Settled) : Becomes c.Leads o (c.p11object.init stores o).2 := by
  have hset : ∀ (o₁ : OSObject) w type attr, o₁.Settled → Becomes c.Leads o o₁ →
      o₁.valid = true →
      (∀ m, c.Leads m o₁.attributes → c.Leads m (o₁.attributes.setAttribute type attr)) →
      Becomes c.Leads o (o₁.setAttribute w type attr).2 := by
    intro o₁ w type attr hs hb hv hstep
    obtain ⟨-, -, h⟩ := setAttribute_settled (w := w) hs type attr
    rcases h with h | h | ⟨-, h⟩
    · exact fun m' hm' => hb m' (h ▸ hm')
    · exact .none h
    · intro m' hm'
      rw [h] at hm'
      cases hm'
      obtain ⟨m, hm, hl⟩ := hb _ (shown_of_valid hs hv)
      exact ⟨m, hm, hstep m hl⟩
  have hsettled : ∀ (o₁ : OSObject) w type attr, o₁.Settled →
      (o₁.setAttribute w type attr).2.Settled := fun o₁ w type attr hs =>
    (setAttribute_settled hs type attr).1
  have hboth : (c.p11object.init stores o).2.Settled ∧
      Becomes c.Leads o (c.p11object.init stores o).2 := by
    refine init_rule (J := fun o₁ => o₁.Settled ∧ Becomes c.Leads o o₁) ?_ ?_ ?_
      ⟨ho, .refl (fun _ => .refl) rfl⟩
    · exact fun o₁ type v hx hv h =>
        ⟨hsettled _ _ _ _ h.1, hset _ _ _ _ h.1 h.2 hv fun m hl => hl.value hx⟩
    · exact fun o₁ type attr hx hv hm h =>
        ⟨hsettled _ _ _ _ h.1, hset _ _ _ _ h.1 h.2 hv fun m hl => hl.missing hx hm⟩
    · exact fun o₁ a ha hv hm hp h =>
        ⟨hsettled _ _ _ _ h.1, hset _ _ _ _ h.1 h.2 hv fun m hl => hl.default ha hm hp⟩
  exact hboth.2

/-- **`saveTemplate` is on the way.** -/
theorem saveTemplate_becomes {w : Storage} {rv : CK_RV} (ho : o.Settled)
    (hp : ∀ m, o.shown = some m → Prepared c.p11object m)
    (h : c.p11object.saveTemplate c.token c.isPrivate w c.attribs c.op o = (rv, o')) :
    Becomes c.Leads o o' := by
  obtain ⟨-, -, -, hends, -⟩ := saveTemplate_cases ho h
  rcases hends with h | h | ⟨m, hm, h⟩
  · exact .refl (fun _ => .refl) h
  · exact .none h
  · intro m' hm'
    rw [h] at hm'
    cases hm'
    exact ⟨m, hm, updateAll_leads (List.Subset.refl _) (hp m hm) .refl⟩

/-- What leads somewhere leads on from there. -/
lemma Changing.Leads.trans {m'' : AttributeMap} (h : c.Leads m m') (h' : c.Leads m' m'') :
    c.Leads m m'' := by
  induction h' with
  | refl => exact h
  | value _ hx ih => exact ih.value hx
  | missing _ hx hm ih => exact ih.missing hx hm
  | default _ ha hm hp ih => exact ih.default ha hm hp
  | update _ he ha hp ih => exact ih.update he ha hp
  | put _ hl ih => exact ih.put hl

end steps

/-! ### A new object -/

namespace Create

/-- What `CreateObject` makes of a template that is accepted. -/
def Plan.Accepts (plan : Plan) (op : ObjectOp) (m : AttributeMap) : Prop :=
  ∃ m₀ m₁, plan.p11object.updateAll plan.token (plan.info.isPrivate ≠ CK_FALSE) op plan.attribs
    m₀ = (CKR_OK, m₁) ∧ m = putAll (ownOf plan op) m₁

/-- What makes a new object. -/
def Plan.changing (plan : Plan) (op : ObjectOp) (supply : Supply) : Changing where
  p11object := plan.p11object
  token := plan.token
  isPrivate := plan.info.isPrivate ≠ CK_FALSE
  op := op
  attribs := plan.attribs
  puts m l := l = ownOf plan op ∨ supply m = .ok l ∧ plan.Accepts op m

/-- An object that has been made: the defaults, the template, and what the call puts. -/
structure Built (plan : Plan) (op : ObjectOp) (supply : Supply) (m : AttributeMap) : Prop where
  steps : ∃ stores m₀ m₁ l,
    plan.p11object.init stores (blank plan.onToken) = (true, stored plan.onToken m₀) ∧
    plan.p11object.updateAll plan.token (plan.info.isPrivate ≠ CK_FALSE) op plan.attribs m₀ =
      (CKR_OK, m₁) ∧
    supply (putAll (ownOf plan op) m₁) = .ok l ∧ m = putAll l (putAll (ownOf plan op) m₁)
  complete : incomplete plan.p11object op plan.attribs = false

section made

variable {Obj : Type} [DecidableEq Obj] {b : Bool} {plan : Plan} {m : Making Obj} {op : ObjectOp} {supply : Supply}
  {y : OSObject} {rv : CK_RV} {m₀ m₁ : AttributeMap}

lemma shown_stored (m : AttributeMap) : (stored b m).shown = some m := by cases b <;> rfl

lemma attributes_stored (m : AttributeMap) : (stored b m).attributes = m := by cases b <;> rfl

lemma settled_stored (m : AttributeMap) : (stored b m).Settled := by
  cases b
  · exact settled_of_session rfl
  · exact fun _ _ => ⟨rfl, rfl⟩

/-- A transaction on a new object: what is shown is what was there, or what was put. -/
lemma committed_cases (w : Write) (m₀ m₁ : AttributeMap) :
    (committed b w m₀ m₁).2.Settled ∧
    (∀ m', (committed b w m₀ m₁).2.shown = some m' → m' = m₀ ∨ m' = m₁) ∧
    ((committed b w m₀ m₁).1 = true → (committed b w m₀ m₁).2 = stored b m₁) := by
  cases b
  · exact ⟨settled_stored _, fun m' h => .inr (Option.some.inj h).symm, fun _ => rfl⟩
  · cases w
    · exact ⟨settled_stored _, fun m' h => .inr (Option.some.inj h).symm, fun _ => rfl⟩
    · exact ⟨settled_of_invalid rfl, fun m' h => .inl (Option.some.inj h).symm,
        fun h => by cases h⟩
    · exact ⟨settled_of_invalid rfl, fun m' h => (Option.some_ne_none m' h.symm).elim,
        fun h => by cases h⟩

lemma answered_eq (rv : CK_RV) (r : Bool × OSObject) :
    answered rv r = (if r.1 then CKR_OK else rv, r.2) := by
  obtain ⟨_ | _, o⟩ := r <;> rfl

/-- What `saveTemplate` leaves when it succeeds. -/
lemma saveTemplate_ok {p : P11Object} {token : TokenView} {isPrivate : Bool} {w : Storage}
    {t : List CK_ATTRIBUTE} (h : op ≠ .SET) (h' : op ≠ .COPY)
    (hs : p.saveTemplate token isPrivate w t op (stored b m₀) = (CKR_OK, y)) :
    ∃ m₁, p.updateAll token isPrivate op t m₀ = (CKR_OK, m₁) ∧ incomplete p op t = false ∧
      y = stored b m₁ := by
  rw [saveTemplate_stored h h'] at hs
  split at hs
  · cases hs
  rcases hu : p.updateAll token isPrivate op t m₀ with ⟨rv, m₁⟩
  rw [hu] at hs
  by_cases hrv : rv = CKR_OK
  · subst hrv
    dsimp only at hs
    split at hs
    · cases hs
    · rename_i hinc
      rw [answered_eq] at hs
      have hok : (committed b w.commit m₀ m₁).1 = true := by
        by_contra hne
        rw [Bool.not_eq_true] at hne
        rw [hne] at hs
        cases hs
      obtain ⟨-, -, hc⟩ := committed_cases (b := b) w.commit m₀ m₁
      refine ⟨m₁, rfl, by simpa using hinc, ?_⟩
      rw [← hc hok]
      exact (Prod.mk.inj hs).2.symm
  · cases rv <;> first | exact absurd rfl hrv | cases hs

/-- **The making of a new object.** -/
theorem fillObject_outcome (supply : Supply) (hp : plan.p11object.attributes ≠ [])
    (h : op ≠ .SET) (h' : op ≠ .COPY)
    (hf : fillObject plan m op (blank plan.onToken) = (rv, y)) :
    y.Settled ∧ (∀ m', y.shown = some m' → (plan.changing op supply).Leads [] m') ∧
    (rv = CKR_OK → ∃ m₀ m₁,
      plan.p11object.init m.stores (blank plan.onToken) = (true, stored plan.onToken m₀) ∧
      plan.p11object.updateAll plan.token (plan.info.isPrivate ≠ CK_FALSE) op plan.attribs m₀ =
        (CKR_OK, m₁) ∧
      incomplete plan.p11object op plan.attribs = false ∧
      y = stored plan.onToken (putAll (ownOf plan op) m₁)) := by
  have hblank : (blank plan.onToken).Settled := settled_stored []
  have hinit : ∀ m', (plan.p11object.init m.stores (blank plan.onToken)).2.shown = some m' →
      (plan.changing op supply).Leads [] m' := by
    intro m' hm'
    obtain ⟨m₀, hm₀, hl⟩ :=
      init_becomes (c := plan.changing op supply) m.stores hblank m' hm'
    rw [blank, shown_stored] at hm₀
    cases hm₀
    exact hl
  rcases init_stored (b := plan.onToken) (m := []) m.stores hp with ⟨m₀, hi⟩ | ⟨hb, o, hi, hv, hs⟩
  swap
  · rw [← blank] at hi
    rw [fillObject, hi] at hf
    rw [hi] at hinit
    cases hf
    exact ⟨settled_of_invalid hv, hinit, fun hr => by cases hr⟩
  rw [← blank] at hi
  rw [hi] at hinit
  have hm₀ : (plan.changing op supply).Leads [] m₀ := hinit m₀ (shown_stored m₀)
  have hprepared : Prepared plan.p11object m₀ := by
    have := prepared_of_init hp hi
    rwa [attributes_stored] at this
  rcases hs : plan.p11object.saveTemplate plan.token (plan.info.isPrivate ≠ CK_FALSE) m.save
    plan.attribs op (stored plan.onToken m₀) with ⟨rv', o⟩
  rw [fillObject_eq hi hs] at hf
  by_cases hrv : rv' = CKR_OK
  swap
  · rw [if_neg hrv] at hf
    cases hf
    refine ⟨(saveTemplate_cases (settled_stored m₀) hs).1, fun m' hm' => ?_,
      fun hr => absurd hr hrv⟩
    obtain ⟨m₂, hm₂, hl⟩ :=
      saveTemplate_becomes (c := plan.changing op supply) (settled_stored m₀) (fun m hm => by
        rw [shown_stored] at hm
        cases hm
        exact hprepared) hs m' hm'
    rw [shown_stored] at hm₂
    cases hm₂
    exact hm₀.trans hl
  subst hrv
  obtain ⟨m₁, hu, hinc, rfl⟩ := saveTemplate_ok h h' hs
  have hm₁ : (plan.changing op supply).Leads [] m₁ := by
    have := updateAll_leads (c := plan.changing op supply) (List.Subset.refl _) hprepared hm₀
    simp only [Plan.changing, hu] at this
    exact this
  have hown : (plan.changing op supply).Leads [] (putAll (ownOf plan op) m₁) := hm₁.put (.inl rfl)
  rw [if_pos rfl, setOwn_stored] at hf
  split at hf
  · rename_i hnil
    cases hf
    refine ⟨settled_stored m₁, fun m' hm' => ?_, fun _ => ⟨m₀, m₁, hi, hu, hinc, by rw [hnil]; rfl⟩⟩
    rw [shown_stored] at hm'
    cases hm'
    exact hm₁
  split at hf
  · cases hf
    refine ⟨settled_stored m₁, fun m' hm' => ?_, fun hr => by cases hr⟩
    rw [shown_stored] at hm'
    cases hm'
    exact hm₁
  rw [answered_eq] at hf
  cases hf
  obtain ⟨hset, hshown, hok⟩ :=
    committed_cases (b := plan.onToken) m.own.commit m₁ (putAll (ownOf plan op) m₁)
  refine ⟨hset, fun m' hm' => ?_, fun hr => ⟨m₀, m₁, hi, hu, hinc, hok ?_⟩⟩
  · rcases hshown m' hm' with rfl | rfl
    · exact hm₁
    · exact hown
  · by_contra hne
    rw [Bool.not_eq_true] at hne
    rw [hne] at hr
    cases hr

/-- **The storing of a key**, in an object that has been made. -/
theorem supplyKey_outcome {w : Storage} {aborts : Bool} {m' : AttributeMap}
    (hm' : (plan.changing op supply).Leads [] m') (ha : plan.Accepts op m')
    (hs : ∀ m, supply m ≠ .error CKR_OK)
    (hf : supplyKey w aborts supply (stored b m') = (rv, y)) :
    (∀ m'', y.shown = some m'' → (plan.changing op supply).Leads [] m'') ∧
    (rv = CKR_OK → ∃ l, supply m' = .ok l ∧ y = stored b (putAll l m')) := by
  have hold : ∀ m'', some m' = some m'' → (plan.changing op supply).Leads [] m'' := by
    rintro _ ⟨⟩
    exact hm'
  rw [supplyKey_stored] at hf
  split at hf
  · cases hf
    exact ⟨fun m'' h => hold m'' ((shown_stored m').symm.trans h), fun hr => by cases hr⟩
  cases hsup : supply m' with
  | error rv' =>
    rw [hsup] at hf
    cases hf
    refine ⟨fun m'' h => hold m'' ?_, fun hr => absurd (hr ▸ hsup) (hs m')⟩
    rw [← h]
    cases aborts <;> cases b <;> rfl
  | ok l =>
    rw [hsup] at hf
    dsimp only at hf
    rw [answered_eq] at hf
    cases hf
    obtain ⟨-, hshown, hok⟩ := committed_cases (b := b) w.commit m' (putAll l m')
    refine ⟨fun m'' h => ?_, fun hr => ⟨l, rfl, hok ?_⟩⟩
    · rcases hshown m'' h with rfl | rfl
      · exact hm'
      · exact hm'.put (.inr ⟨hsup, ha⟩)
    · by_contra hne
      rw [Bool.not_eq_true] at hne
      rw [hne] at hr
      cases hr

end made

end Create

end SoftHSM
