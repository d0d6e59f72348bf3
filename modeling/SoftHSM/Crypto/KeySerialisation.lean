import SoftHSM.ObjectStore.File

/-!
Keys as strings of bytes: their components one behind the other, each with its length in front. What
is read takes a length that is too large, or only a part of a length, for what is left.
-/

namespace SoftHSM

open ByteString

/-! ### Chains -/

namespace ByteString

/-- `ByteString::split`, with what is left. -/
def split (b : ByteString) (len : ℕ) : ByteString × ByteString := (b.take len, b.drop len)

/-- `ByteString::firstLong`, with what is left. -/
def firstLong (b : ByteString) : UInt64 × ByteString := (b.long_val, (b.split 8).2)

/-- `ByteString::chainDeserialise`, with what is left. -/
def chainDeserialise (serialised : ByteString) : ByteString × ByteString :=
  let (len, serialised) := serialised.firstLong
  serialised.split len.toNat

/-- As many components as there are to be. -/
def chain : ℕ → ByteString → List ByteString × ByteString
  | 0, serialised => ([], serialised)
  | count + 1, serialised =>
    let (component, serialised) := chainDeserialise serialised
    let (components, serialised) := chain count serialised
    (component :: components, serialised)

/-- The components, one behind the other. -/
def chained (components : List ByteString) : ByteString := components.flatMap serialise

/-- The lengths of the components fit in eight bytes. -/
def Sized (components : List ByteString) : Prop := ∀ b ∈ components, b.length < 2 ^ 64

lemma long_val_append {v : UInt64} {rest : ByteString} : long_val (ofULong v ++ rest) = v := by
  have htake : (ofULong v ++ rest).take 8 = ofULong v := List.take_left' (File.length_ofULong v)
  have hself : (ofULong v).take 8 = ofULong v :=
    List.take_of_length_le (File.length_ofULong v).le
  have hval := File.long_val_ofULong v
  rw [long_val, hself] at hval
  rw [long_val, htake, hval]

/-- A length, and what stands behind it. -/
lemma chainDeserialise_length (v : UInt64) (rest : ByteString) :
    chainDeserialise (ofULong v ++ rest) = (rest.take v.toNat, rest.drop v.toNat) := by
  have hdrop : (ofULong v ++ rest).drop 8 = rest := List.drop_left' (File.length_ofULong v)
  simp only [chainDeserialise, firstLong, split, long_val_append, hdrop]

lemma toNat_length {b : ByteString} (h : b.length < 2 ^ 64) :
    (UInt64.ofNat b.length).toNat = b.length :=
  UInt64.toNat_ofNat_of_lt' h

lemma chainDeserialise_serialise {b : ByteString} (h : b.length < 2 ^ 64) (rest : ByteString) :
    chainDeserialise (b.serialise ++ rest) = (b, rest) := by
  rw [serialise, List.append_assoc, chainDeserialise_length, toNat_length h]
  simp

/-- Less than a length is nothing, and nothing is left. -/
lemma chainDeserialise_short {b : ByteString} (h : b.length < 8) : chainDeserialise b = ([], []) := by
  have hdrop : b.drop 8 = [] := List.drop_of_length_le h.le
  simp only [chainDeserialise, firstLong, split, hdrop, List.take_nil, List.drop_nil]

lemma chain_chained_add {components : List ByteString} (h : Sized components) (count : ℕ)
    (rest : ByteString) :
    chain (components.length + count) (chained components ++ rest) =
      (components ++ (chain count rest).1, (chain count rest).2) := by
  induction components with
  | nil =>
    rw [List.length_nil, Nat.zero_add]
    rfl
  | cons b components ih =>
    obtain ⟨hb, hcomponents⟩ := List.forall_mem_cons.1 h
    have hflat : chained (b :: components) ++ rest = b.serialise ++ (chained components ++ rest) := by
      rw [chained, List.flatMap_cons, List.append_assoc]
      rfl
    have hcount : (b :: components).length + count = components.length + count + 1 := by
      rw [List.length_cons]
      omega
    rw [hflat, hcount, chain, chainDeserialise_serialise hb]
    dsimp only
    rw [ih hcomponents]
    rfl

/-- **The components** come back, and what stands behind them is left. -/
lemma chain_chained {components : List ByteString} (h : Sized components) (rest : ByteString) :
    chain components.length (chained components ++ rest) = (components, rest) := by
  rw [← Nat.add_zero components.length, chain_chained_add h]
  simp [chain]

lemma chain_nil (count : ℕ) : chain count [] = (List.replicate count [], []) := by
  induction count with
  | zero => rfl
  | succ count ih =>
    rw [chain, chainDeserialise_short (by simp)]
    dsimp only
    rw [ih]
    rfl

/-- What stands where a component should, and is not one. -/
inductive Cut : ByteString → ByteString → Prop
  | length {rest : ByteString} (h : rest.length < 8) : Cut rest []
  | value {len : UInt64} {tail : ByteString} (h : tail.length < len.toNat) :
    Cut (ofULong len ++ tail) tail

lemma Cut.chainDeserialise {rest tail : ByteString} (h : Cut rest tail) :
    chainDeserialise rest = (tail, []) := by
  cases h with
  | length h => exact chainDeserialise_short h
  | @value len tail h =>
    rw [chainDeserialise_length, List.take_of_length_le h.le, List.drop_of_length_le h.le]

/-- A string begins with a component, or is cut in it. -/
lemma component_or_cut (b : ByteString) :
    (∃ c rest : ByteString, c.length < 2 ^ 64 ∧ b = c.serialise ++ rest) ∨ ∃ tail, Cut b tail := by
  rcases Nat.lt_or_ge b.length 8 with hshort | hlong
  · exact Or.inr ⟨[], .length hshort⟩
  · obtain ⟨len, rest, rfl⟩ : ∃ len rest, b = ofULong len ++ rest := by
      refine ⟨long_val (b.take 8), b.drop 8, ?_⟩
      rw [File.ofULong_long_val (List.length_take_of_le hlong), List.take_append_drop]
    rcases Nat.lt_or_ge rest.length len.toNat with hcut | hfull
    · exact Or.inr ⟨rest, .value hcut⟩
    · have hlength : (rest.take len.toNat).length = len.toNat := List.length_take_of_le hfull
      refine Or.inl ⟨rest.take len.toNat, rest.drop len.toNat, hlength.trans_lt len.toNat_lt, ?_⟩
      rw [serialise, hlength, UInt64.ofNat_toNat, List.append_assoc, List.take_append_drop]

/-- **A string of bytes** begins with all the components, or is cut in one of them, and then those
behind it are empty. -/
lemma chain_cases (count : ℕ) (b : ByteString) :
    (∃ components rest, components.length = count ∧ Sized components ∧
      b = chained components ++ rest) ∨
    ∃ earlier rest tail, earlier.length < count ∧ Sized earlier ∧ b = chained earlier ++ rest ∧
      Cut rest tail ∧
      chain count b = (earlier ++ tail :: List.replicate (count - 1 - earlier.length) [], []) := by
  induction count generalizing b with
  | zero => exact Or.inl ⟨[], b, rfl, fun _ h => absurd h List.not_mem_nil, rfl⟩
  | succ count ih =>
    rcases component_or_cut b with ⟨c, rest, hc, rfl⟩ | ⟨tail, hcut⟩
    · have hsized {cs : List ByteString} (hcs : Sized cs) : Sized (c :: cs) :=
        List.forall_mem_cons.2 ⟨hc, hcs⟩
      have hflat (cs : List ByteString) (r : ByteString) :
          c.serialise ++ (chained cs ++ r) = chained (c :: cs) ++ r := by
        rw [chained, chained, List.flatMap_cons, List.append_assoc]
      rcases ih rest with ⟨cs, r, hlen, hcs, rfl⟩ | ⟨earlier, r, tail, hlen, hcs, rfl, hcut, hchain⟩
      · exact Or.inl ⟨c :: cs, r, congrArg (· + 1) hlen, hsized hcs, hflat cs r⟩
      · refine Or.inr ⟨c :: earlier, r, tail, Nat.succ_lt_succ hlen, hsized hcs, hflat earlier r,
          hcut, ?_⟩
        have hcount : count + 1 - 1 - (earlier.length + 1) = count - 1 - earlier.length := by omega
        rw [chain, chainDeserialise_serialise hc]
        dsimp only
        rw [hchain, List.length_cons, hcount, List.cons_append]
    · refine Or.inr ⟨[], b, tail, Nat.succ_pos count, fun _ h => absurd h List.not_mem_nil, rfl,
        hcut, ?_⟩
      rw [chain, hcut.chainDeserialise]
      dsimp only
      rw [chain_nil]
      rfl

/-- A string that is cut in a component does not begin with one. -/
lemma Cut.ne_serialise {rest tail c r : ByteString} (h : Cut rest tail) (hc : c.length < 2 ^ 64) :
    rest ≠ c.serialise ++ r := by
  intro heq
  have hlength := congrArg List.length heq
  rw [List.length_append, serialise, List.length_append, File.length_ofULong] at hlength
  cases h with
  | length h => omega
  | @value len tail h =>
    rw [serialise, List.append_assoc] at heq
    obtain ⟨hlen, htail⟩ := List.append_inj heq (by simp only [File.length_ofULong])
    have hval : len.toNat = c.length := by
      rw [← File.long_val_ofULong len, hlen, File.long_val_ofULong, toNat_length hc]
    rw [htail, List.length_append] at h
    omega

/-- **A string** that is cut in a component is not so many components and what stands behind. -/
lemma not_chained_of_cut {earlier components : List ByteString} {rest tail r : ByteString}
    (hearlier : Sized earlier) (hcomponents : Sized components)
    (hlen : earlier.length < components.length) (h : Cut rest tail) :
    chained earlier ++ rest ≠ chained components ++ r := by
  intro heq
  obtain ⟨c, cs, hdrop⟩ : ∃ c cs, components.drop earlier.length = c :: cs :=
    List.exists_cons_of_length_pos (by rw [List.length_drop]; omega)
  have hsplit : components = components.take earlier.length ++ c :: cs := by
    rw [← hdrop, List.take_append_drop]
  have hlenTake : (components.take earlier.length).length = earlier.length :=
    List.length_take_of_le hlen.le
  have htake : Sized (components.take earlier.length) := fun b hb =>
    hcomponents b (List.mem_of_mem_take hb)
  have hc : c.length < 2 ^ 64 := hcomponents c (by rw [hsplit]; simp)
  have hright : chained components ++ r =
      chained (components.take earlier.length) ++ (c.serialise ++ (chained cs ++ r)) := by
    conv_lhs => rw [hsplit]
    simp [chained]
  have hleft := chain_chained hearlier rest
  have hchain := chain_chained htake (c.serialise ++ (chained cs ++ r))
  rw [hlenTake, ← hright, ← heq, hleft] at hchain
  exact h.ne_serialise hc (Prod.ext_iff.1 hchain).2

end ByteString

/-! ### Keys -/

namespace Key

inductive Component
  | p
  | q
  | pq
  | dp1
  | dq1
  | d
  | n
  | e
  | g
  | x
  | y
  | ec
  | k
  | a
  | seed
  | value
  deriving DecidableEq

/-- What `deserialise` asks of a component. -/
inductive Check
  | none
  | nonempty
  | lengths (lens : List ℕ)

def Check.Passes : Check → ByteString → Prop
  | .none, _ => True
  | .nonempty, b => b ≠ []
  | .lengths lens, b => b.length ∈ lens

instance (check : Check) (b : ByteString) : Decidable (check.Passes b) :=
  match check with
  | .none => isTrue trivial
  | .nonempty => inferInstanceAs (Decidable (b ≠ []))
  | .lengths lens => inferInstanceAs (Decidable (b.length ∈ lens))

/-- The components of a class of keys, in the order of `serialise`, with what is asked of them. -/
abbrev Layout := List (Component × Check)

def mandatory (components : List Component) : Layout := components.map fun c => (c, .nonempty)

end Key

open Key

inductive AsymmetricKind
  | RSA
  | DSA
  | DH
  | EC
  | ED
  | GOST
  | GOST2012
  | MLDSA
  | MLKEM

def ML_KEM_PRIV_LENGTHS : List ℕ := [1632, 2400, 3168]

def ML_KEM_PUB_LENGTHS : List ℕ := [800, 1184, 1568]

namespace AsymmetricKind

def publicLayout : AsymmetricKind → Layout
  | RSA => mandatory [.n, .e]
  | DSA => mandatory [.p, .q, .g, .y]
  | DH => mandatory [.p, .g, .y]
  | EC => mandatory [.ec, .q]
  | ED => mandatory [.ec, .a]
  | GOST => mandatory [.ec, .q]
  | GOST2012 => mandatory [.ec, .q]
  | MLDSA => mandatory [.value]
  | MLKEM => [(.value, .lengths ML_KEM_PUB_LENGTHS)]

/-- Of an RSA key the five components of the Chinese remainder theorem may be empty. -/
def privateLayout : AsymmetricKind → Layout
  | RSA => [(.p, .none), (.q, .none), (.pq, .none), (.dp1, .none), (.dq1, .none), (.d, .nonempty),
      (.n, .nonempty), (.e, .nonempty)]
  | DSA => mandatory [.p, .q, .g, .x]
  | DH => mandatory [.p, .g, .x]
  | EC => mandatory [.ec, .d]
  | ED => mandatory [.ec, .k]
  | GOST => mandatory [.ec, .d]
  | GOST2012 => mandatory [.ec, .d]
  | MLDSA => mandatory [.seed, .value]
  | MLKEM => [(.seed, .nonempty), (.value, .lengths ML_KEM_PRIV_LENGTHS)]

end AsymmetricKind

/-- A class of keys. -/
inductive KeyClass
  | publicKey (kind : AsymmetricKind)
  | privateKey (kind : AsymmetricKind)

def KeyClass.layout : KeyClass → Layout
  | .publicKey kind => kind.publicLayout
  | .privateKey kind => kind.privateLayout

/-- A key: its components, of which each has a length. -/
structure Key (cls : KeyClass) where
  components : List ByteString
  complete : components.length = cls.layout.length
  sized : Sized components

/-- `serialise`. -/
def Key.serialise {cls : KeyClass} (key : Key cls) : ByteString := chained key.components

namespace KeyClass

variable (cls : KeyClass)

/-- The components pass what is asked of them. -/
def Admits (components : List ByteString) : Prop :=
  List.Forall₂ (fun field b => field.2.Passes b) cls.layout components

instance (components : List ByteString) : Decidable (cls.Admits components) :=
  inferInstanceAs (Decidable (List.Forall₂ _ _ _))

/-- `deserialise`, with what is left. -/
def deserialise (serialised : ByteString) : Option (List ByteString) × ByteString :=
  let (components, serialised) := chain cls.layout.length serialised
  (if cls.Admits components then some components else none, serialised)

/-- A string that ends within the last component of a key, with so much of it that it passes. -/
def CutInLast (serialised : ByteString) : Prop :=
  ∃ (earlier : List ByteString) (len : UInt64) (tail : ByteString),
    earlier.length + 1 = cls.layout.length ∧ Sized earlier ∧ tail.length < len.toNat ∧
      cls.Admits (earlier ++ [tail]) ∧ serialised = chained earlier ++ (ofULong len ++ tail)

/-- The last component of a key may not be empty. -/
lemma layout_last : ∃ fields last, cls.layout = fields ++ [last] ∧ ¬ last.2.Passes [] := by
  have hlast : ∀ layout : Layout, (∃ last ∈ layout.getLast?, ¬ last.2.Passes []) →
      ∃ fields last, layout = fields ++ [last] ∧ ¬ last.2.Passes [] := by
    rintro layout ⟨last, hmem, hfails⟩
    obtain ⟨fields, rfl⟩ := List.getLast?_eq_some_iff.1 hmem
    exact ⟨fields, last, rfl, hfails⟩
  apply hlast
  rcases cls with kind | kind <;> cases kind <;> exact ⟨_, rfl, by decide⟩

lemma ne_nil_of_admits {earlier : List ByteString} {b : ByteString}
    (h : cls.Admits (earlier ++ [b])) : b ≠ [] := by
  obtain ⟨fields, last, hlayout, hfails⟩ := cls.layout_last
  rw [Admits, hlayout, ← List.forall₂_reverse_iff, List.reverse_append, List.reverse_append] at h
  rintro rfl
  exact hfails (List.forall₂_cons.1 h).1

/-- What is read of a string that begins with components. -/
lemma deserialise_chained {components : List ByteString} (hlen : components.length = cls.layout.length)
    (hsized : Sized components) (rest : ByteString) :
    cls.deserialise (chained components ++ rest) =
      (if cls.Admits components then some components else none, rest) := by
  rw [deserialise, ← hlen, chain_chained hsized]

/-- **What is accepted** is a whole key or ends within its last component. -/
lemma deserialise_cases {serialised rest : ByteString} {components : List ByteString}
    (h : cls.deserialise serialised = (some components, rest)) :
    (∃ key : Key cls, key.components = components ∧ serialised = key.serialise ++ rest) ∨
      cls.CutInLast serialised := by
  rcases chain_cases cls.layout.length serialised with
    ⟨cs, r, hlen, hsized, rfl⟩ | ⟨earlier, r, tail, hlen, hsized, rfl, hcut, hchain⟩
  · rw [cls.deserialise_chained hlen hsized] at h
    obtain ⟨hcs, hrest⟩ := Prod.mk.inj h
    obtain ⟨-, hcomponents⟩ := Option.ite_none_right_eq_some.1 hcs
    exact Or.inl ⟨⟨cs, hlen, hsized⟩, Option.some.inj hcomponents, by rw [hrest]; rfl⟩
  · rw [deserialise, hchain] at h
    obtain ⟨hadmits, -⟩ := Option.ite_none_right_eq_some.1 (Prod.ext_iff.1 h).1
    -- the components behind the one that is cut are empty, so it is the last one
    obtain ⟨m, hm⟩ : ∃ m, cls.layout.length - 1 - earlier.length = m := ⟨_, rfl⟩
    rw [hm] at hadmits
    cases m with
    | succ m =>
      rw [List.replicate_succ', ← List.cons_append, ← List.append_assoc] at hadmits
      exact absurd rfl (cls.ne_nil_of_admits hadmits)
    | zero =>
      refine Or.inr ⟨earlier, ?_⟩
      cases hcut with
      | length hshort => exact absurd rfl (cls.ne_nil_of_admits hadmits)
      | @value len tail htail => exact ⟨len, tail, by omega, hsized, htail, hadmits, rfl⟩

/-- A string that ends within the last component is accepted, as a key that it is not. -/
lemma deserialise_of_cutInLast {serialised : ByteString} (h : cls.CutInLast serialised) :
    ∃ components, cls.deserialise serialised = (some components, []) ∧
      ∀ key : Key cls, ∀ rest, serialised ≠ key.serialise ++ rest := by
  obtain ⟨earlier, len, tail, hlen, hsized, htail, hadmits, rfl⟩ := h
  refine ⟨earlier ++ [tail], ?_, fun key rest => ?_⟩
  · rw [deserialise, ← hlen, chain_chained_add hsized, chain,
      (Cut.value htail).chainDeserialise]
    dsimp only
    rw [chain, if_pos hadmits]
  · exact not_chained_of_cut hsized key.sized (by rw [key.complete]; omega) (.value htail)

end KeyClass

/-! ### Pairs -/

/-- `AsymmetricKeyPair::serialise`. -/
def serialisePair {kind : AsymmetricKind} (pub : Key (.publicKey kind)) (priv : Key (.privateKey kind)) :
    ByteString :=
  pub.serialise.serialise ++ priv.serialise.serialise

/-- `reconstructKeyPair` of the algorithms, with what is left. -/
def reconstructKeyPair (kind : AsymmetricKind) (serialisedData : ByteString) :
    Option (List ByteString × List ByteString) × ByteString :=
  if serialisedData.length = 0 then (none, serialisedData)
  else
    let (dPub, serialisedData) := chainDeserialise serialisedData
    let (dPriv, serialisedData) := chainDeserialise serialisedData
    (match ((KeyClass.publicKey kind).deserialise dPub).1,
        ((KeyClass.privateKey kind).deserialise dPriv).1 with
      | some pub, some priv => some (pub, priv)
      | _, _ => none, serialisedData)

lemma deserialise_serialise {cls : KeyClass} (key : Key cls) (rest : ByteString) :
    cls.deserialise (key.serialise ++ rest) =
      (if cls.Admits key.components then some key.components else none, rest) :=
  cls.deserialise_chained key.complete key.sized rest

lemma reconstructKeyPair_serialisePair {kind : AsymmetricKind} (pub : Key (.publicKey kind))
    (priv : Key (.privateKey kind)) (hpub : pub.serialise.length < 2 ^ 64)
    (hpriv : priv.serialise.length < 2 ^ 64) (rest : ByteString) :
    reconstructKeyPair kind (serialisePair pub priv ++ rest) =
      (if (KeyClass.publicKey kind).Admits pub.components ∧
          (KeyClass.privateKey kind).Admits priv.components then
        some (pub.components, priv.components) else none, rest) := by
  have hlen : (serialisePair pub priv ++ rest).length ≠ 0 := by
    simp [serialisePair, ByteString.serialise, ofULong]
  have hpublic := deserialise_serialise pub []
  have hprivate := deserialise_serialise priv []
  rw [List.append_nil] at hpublic hprivate
  rw [reconstructKeyPair, if_neg hlen, serialisePair, List.append_assoc,
    chainDeserialise_serialise hpub]
  dsimp only
  rw [chainDeserialise_serialise hpriv]
  dsimp only
  rw [hpublic, hprivate]
  by_cases hadmits : (KeyClass.publicKey kind).Admits pub.components <;>
    by_cases hadmits' : (KeyClass.privateKey kind).Admits priv.components <;>
      simp [hadmits, hadmits']

lemma sized_bytes (a b : UInt8) : Sized [[a], [b]] := by simp [Sized]

lemma not_admits_of_seedless (value : ByteString) :
    ¬ (KeyClass.privateKey .MLDSA).Admits [[], value] := by
  intro h
  have hseed : Check.nonempty.Passes [] := (List.forall₂_cons.1 h).1
  exact hseed rfl

end SoftHSM
