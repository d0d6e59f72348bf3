import Mathlib.Data.List.Lex
import Mathlib.Data.List.Sort
import SoftHSM.RutokenCMS.Encoding

/-!
Signed messages, as they are written in DER: the sets in the order of their encodings, the lengths
in as few octets as they need. The decoder takes back what is written so.
-/

namespace SoftHSM.RutokenCMS

open Der

/-! ### The order of sets -/

/-- The first byte that differs decides. -/
def NotAfter (a b : ByteString) : Prop := a.map UInt8.toNat ≤ b.map UInt8.toNat

instance : DecidableRel NotAfter := fun _ _ => inferInstanceAs (Decidable (_ ≤ _))

instance : Std.Total NotAfter := ⟨fun _ _ => le_total _ _⟩

instance : IsTrans ByteString NotAfter := ⟨fun _ _ _ => le_trans⟩

/-- `std::sort`. -/
def sort (l : List ByteString) : List ByteString := l.insertionSort NotAfter

lemma sort_sorted (l : List ByteString) : (sort l).Pairwise NotAfter :=
  List.pairwise_insertionSort NotAfter l

lemma sort_eq {l : List ByteString} (h : l.Pairwise NotAfter) : sort l = l := h.insertionSort_eq

/-! ### Identifiers -/

/-- A number in septets, all but the last one marked. -/
def base128 (n : ℕ) : ByteString :=
  (Nat.digits 128 (n / 128)).reverse.map (fun d => UInt8.ofNat (0x80 ||| d)) ++
    [UInt8.ofNat (n % 128)]

def oid : List ℕ → ByteString
  | first :: second :: rest => Der.encode 0x06 (((40 * first + second) :: rest).flatMap base128)
  | _ => []

/-- An identifier below one of the three roots. -/
def IsObject (b : ByteString) : Prop :=
  ∃ first second rest, first ≤ 2 ∧ second < 40 ∧ b = oid (first :: second :: rest)

/-- The values of any type that signed messages have: identifiers, nothing, a time, a string of
octets, a sequence, a set. -/
inductive IsAny : ByteString → Prop
  | object {b : ByteString} : IsObject b → IsAny b
  | null : IsAny (Der.encode 0x05 [])
  | time {content : ByteString} : content.length = 13 → IsAny (Der.encode 0x17 content)
  | octets (content : ByteString) : IsAny (Der.encode 0x04 content)
  | sequence (content : ByteString) : IsAny (Der.encode 0x30 content)
  | set (content : ByteString) : IsAny (Der.encode 0x31 content)

/-! ### The parts of a message -/

structure AlgorithmIdentifier where
  algorithm : ByteString
  parameter : Option ByteString
  deriving DecidableEq

structure Attribute where
  type : ByteString
  values : List ByteString
  deriving DecidableEq

structure SignerInfo where
  issuer : ByteString
  serialNumber : ByteString
  digestAlgorithm : AlgorithmIdentifier
  signedAttrs : List Attribute
  signatureAlgorithm : AlgorithmIdentifier
  signature : ByteString
  deriving DecidableEq

/-- A signed message; the content may be elsewhere. -/
structure ContentInfo where
  contentType : ByteString
  digestAlgorithms : List AlgorithmIdentifier
  eContentType : ByteString
  eContent : Option ByteString
  certificates : List ByteString
  signerInfos : List SignerInfo
  deriving DecidableEq

/-- What is an item of some tag. -/
def IsSome (b : ByteString) : Prop := ∃ tag, IsEncoded tag b

lemma IsObject.isEncoded {b : ByteString} (h : IsObject b) : IsEncoded 0x06 b := by
  obtain ⟨first, second, rest, -, -, rfl⟩ := h
  exact ⟨_, rfl⟩

lemma IsAny.isSome {b : ByteString} (h : IsAny b) : IsSome b := by
  cases h with
  | object h => exact ⟨_, h.isEncoded⟩
  | null => exact ⟨_, _, rfl⟩
  | time h => exact ⟨_, _, rfl⟩
  | octets content => exact ⟨_, _, rfl⟩
  | sequence content => exact ⟨_, _, rfl⟩
  | set content => exact ⟨_, _, rfl⟩

/-- What is decoded, one after another. -/
def decodeAll {α : Type} (decode : ByteString → Option α) (b : ByteString) : Option (List α) :=
  (items b).bind fun l => l.mapM decode

lemma decodeAll_flatten {α : Type} {encode : α → ByteString} {decode : ByteString → Option α}
    {l : List α} (hitem : ∀ a ∈ l, IsSome (encode a)) (hback : ∀ a ∈ l, decode (encode a) = some a)
    (hlen : (l.map encode).flatten.length < 256 ^ 127) :
    decodeAll decode (l.map encode).flatten = some l := by
  have hall : ∀ b ∈ l.map encode, IsSome b := by
    intro b hb
    obtain ⟨a, ha, rfl⟩ := List.mem_map.1 hb
    exact hitem a ha
  rw [decodeAll, items_flatten hall hlen, Option.bind_some]
  clear hlen hall hitem
  induction l with
  | nil => rfl
  | cons a l ih =>
    rw [List.map_cons, List.mapM_cons, hback a (List.mem_cons_self ..),
      ih fun a' ha' => hback a' (List.mem_cons_of_mem _ ha')]
    rfl

lemma length_le_flatten {l : List ByteString} {b : ByteString} (h : b ∈ l) :
    b.length ≤ l.flatten.length := by
  obtain ⟨before, after, rfl⟩ := List.append_of_mem h
  rw [List.flatten_append, List.flatten_cons, List.length_append, List.length_append]
  omega

/-- An item in a row of items, and what is in it, are no longer than the row. -/
lemma content_lt_of_mem {l : List ByteString} {tag : UInt8} {content : ByteString}
    (h : Der.encode tag content ∈ l) (hlen : l.flatten.length < 256 ^ 127) :
    content.length < 256 ^ 127 :=
  ((length_le_encode tag content).trans (length_le_flatten h)).trans_lt hlen

/-- A set of what is written one after another. -/
lemma decodeAll_set {α : Type} {encode : α → ByteString} {decode : ByteString → Option α}
    {l : List α} {tag : UInt8} (hitem : ∀ a ∈ l, IsSome (encode a))
    (hback : ∀ a ∈ l, (encode a).length < 256 ^ 127 → decode (encode a) = some a)
    (hlen : (l.map encode).flatten.length < 256 ^ 127) :
    (contentOf tag (Der.encode tag (l.map encode).flatten)).bind (decodeAll decode) = some l := by
  have hone : ∀ a ∈ l, decode (encode a) = some a := fun a ha =>
    hback a ha ((length_le_flatten (List.mem_map_of_mem ha)).trans_lt hlen)
  rw [contentOf_encode hlen, Option.bind_some]
  exact decodeAll_flatten hitem hone hlen

namespace AlgorithmIdentifier

def encode (a : AlgorithmIdentifier) : ByteString :=
  Der.encode 0x30 (a.algorithm ++ a.parameter.getD [])

def decode (b : ByteString) : Option AlgorithmIdentifier :=
  match (contentOf 0x30 b).bind items with
  | some [algorithm] => some ⟨algorithm, none⟩
  | some [algorithm, parameter] => some ⟨algorithm, some parameter⟩
  | _ => none

structure WellFormed (a : AlgorithmIdentifier) : Prop where
  algorithm : IsObject a.algorithm
  parameter : ∀ p ∈ a.parameter, IsAny p

lemma decode_encode {a : AlgorithmIdentifier} (h : a.WellFormed)
    (hlen : a.encode.length < 256 ^ 127) : decode a.encode = some a := by
  obtain ⟨algorithm, parameter⟩ := a
  have hcontent := (length_le_encode 0x30 (algorithm ++ parameter.getD [])).trans_lt hlen
  rw [decode, encode, contentOf_encode hcontent, Option.bind_some]
  cases parameter with
  | none =>
    have hrow : algorithm ++ (none : Option ByteString).getD [] = [algorithm].flatten := by simp
    rw [hrow] at hcontent ⊢
    rw [items_flatten (by simpa using ⟨_, h.algorithm.isEncoded⟩) hcontent]
  | some p =>
    have hrow : algorithm ++ (some p).getD [] = [algorithm, p].flatten := by simp
    rw [hrow] at hcontent ⊢
    rw [items_flatten (by simpa using ⟨⟨_, h.algorithm.isEncoded⟩, (h.parameter p rfl).isSome⟩)
      hcontent]

end AlgorithmIdentifier

namespace Attribute

/-- An attribute, its values in order. -/
def encode (a : Attribute) : ByteString :=
  Der.encode 0x30 (a.type ++ Der.encode 0x31 (sort a.values).flatten)

def decode (b : ByteString) : Option Attribute :=
  match (contentOf 0x30 b).bind items with
  | some [type, set] => ((contentOf 0x31 set).bind items).map fun values => ⟨type, values⟩
  | _ => none

structure WellFormed (a : Attribute) : Prop where
  type : IsObject a.type
  values : ∀ v ∈ a.values, IsAny v
  sorted : a.values.Pairwise NotAfter

lemma decode_encode {a : Attribute} (h : a.WellFormed) (hlen : a.encode.length < 256 ^ 127) :
    decode a.encode = some a := by
  have hrow : a.type ++ Der.encode 0x31 a.values.flatten =
      [a.type, Der.encode 0x31 a.values.flatten].flatten := by simp
  have hcontent := length_le_encode 0x30 (a.type ++ Der.encode 0x31 a.values.flatten)
  rw [encode, sort_eq h.sorted] at hlen
  replace hcontent := hcontent.trans_lt hlen
  have hvalues : a.values.flatten.length < 256 ^ 127 := by
    have hle := length_le_encode 0x31 a.values.flatten
    rw [List.length_append] at hcontent
    omega
  rw [decode, encode, sort_eq h.sorted, contentOf_encode hcontent, Option.bind_some]
  rw [hrow] at hcontent ⊢
  rw [items_flatten (by simpa [IsSome] using ⟨⟨_, h.type.isEncoded⟩, 0x31, _, rfl⟩) hcontent]
  dsimp only
  rw [contentOf_encode hvalues, Option.bind_some,
    items_flatten (fun v hv => (h.values v hv).isSome) hvalues]
  rfl

end Attribute

namespace SignerInfo

/-- The rows of a signer: version, issuer and serial number, algorithms, attributes, signature. -/
def rows (s : SignerInfo) : List ByteString :=
  [Der.encode 0x02 [1], Der.encode 0x30 [s.issuer, s.serialNumber].flatten,
      s.digestAlgorithm.encode] ++
    (if s.signedAttrs = [] then []
      else [Der.encode 0xa0 (s.signedAttrs.map Attribute.encode).flatten]) ++
    [s.signatureAlgorithm.encode, Der.encode 0x04 s.signature]

def encode (s : SignerInfo) : ByteString := Der.encode 0x30 s.rows.flatten

/-- A signer from the rows, with the attributes apart. -/
def ofRows (sid digestAlgorithm : ByteString) (signedAttrs : Option (List Attribute))
    (signatureAlgorithm signature : ByteString) : Option SignerInfo := do
  let names ← (contentOf 0x30 sid).bind items
  let digestAlgorithm ← AlgorithmIdentifier.decode digestAlgorithm
  let signedAttrs ← signedAttrs
  let signatureAlgorithm ← AlgorithmIdentifier.decode signatureAlgorithm
  let signature ← contentOf 0x04 signature
  match names with
  | [issuer, serialNumber] =>
    some ⟨issuer, serialNumber, digestAlgorithm, signedAttrs, signatureAlgorithm, signature⟩
  | _ => none

def decode (b : ByteString) : Option SignerInfo :=
  match (contentOf 0x30 b).bind items with
  | some [_, sid, digestAlgorithm, signatureAlgorithm, signature] =>
    ofRows sid digestAlgorithm (some []) signatureAlgorithm signature
  | some [_, sid, digestAlgorithm, attributes, signatureAlgorithm, signature] =>
    ofRows sid digestAlgorithm ((contentOf 0xa0 attributes).bind (decodeAll Attribute.decode))
      signatureAlgorithm signature
  | _ => none

structure WellFormed (s : SignerInfo) : Prop where
  issuer : IsEncoded 0x30 s.issuer
  serialNumber : IsEncoded 0x02 s.serialNumber
  digestAlgorithm : s.digestAlgorithm.WellFormed
  signedAttrs : ∀ a ∈ s.signedAttrs, a.WellFormed
  sorted : (s.signedAttrs.map Attribute.encode).Pairwise NotAfter
  signatureAlgorithm : s.signatureAlgorithm.WellFormed

lemma rows_items (s : SignerInfo) : ∀ b ∈ s.rows, IsSome b := by
  intro b hb
  rw [rows] at hb
  split_ifs at hb with hnone
  all_goals
    simp only [List.append_nil, List.mem_append, List.mem_cons, List.not_mem_nil, or_false] at hb
  · rcases hb with (rfl | rfl | rfl) | rfl | rfl <;> exact ⟨_, _, rfl⟩
  · rcases hb with ((rfl | rfl | rfl) | rfl) | rfl | rfl <;> exact ⟨_, _, rfl⟩

lemma ofRows_eq {s : SignerInfo} (h : s.WellFormed) (hlen : s.rows.flatten.length < 256 ^ 127) :
    ofRows (Der.encode 0x30 [s.issuer, s.serialNumber].flatten) s.digestAlgorithm.encode
      (some s.signedAttrs) s.signatureAlgorithm.encode (Der.encode 0x04 s.signature) = some s := by
  have hshort : ∀ b ∈ s.rows, b.length < 256 ^ 127 := fun b hb =>
    (length_le_flatten hb).trans_lt hlen
  have hdigest : s.digestAlgorithm.encode ∈ s.rows := by simp [rows]
  have halg : s.signatureAlgorithm.encode ∈ s.rows := by simp [rows]
  have hnames : [s.issuer, s.serialNumber].flatten.length < 256 ^ 127 :=
    @content_lt_of_mem s.rows 0x30 _ (by simp [rows]) hlen
  have hsignature : s.signature.length < 256 ^ 127 :=
    @content_lt_of_mem s.rows 0x04 _ (by simp [rows]) hlen
  rw [ofRows, contentOf_encode hnames, Option.bind_some,
    items_flatten (by simpa [IsSome] using ⟨⟨_, h.issuer⟩, _, h.serialNumber⟩) hnames,
    AlgorithmIdentifier.decode_encode h.digestAlgorithm (hshort _ hdigest),
    AlgorithmIdentifier.decode_encode h.signatureAlgorithm (hshort _ halg),
    contentOf_encode hsignature]
  rfl

lemma decode_encode {s : SignerInfo} (h : s.WellFormed) (hlen : s.encode.length < 256 ^ 127) :
    decode s.encode = some s := by
  have hcontent := (length_le_encode 0x30 s.rows.flatten).trans_lt hlen
  have hback := ofRows_eq h hcontent
  rw [decode, encode, contentOf_encode hcontent, Option.bind_some,
    items_flatten s.rows_items hcontent]
  by_cases hnone : s.signedAttrs = []
  · rw [hnone] at hback
    rw [rows, if_pos hnone]
    exact hback
  · have hattrs : Der.encode 0xa0 (s.signedAttrs.map Attribute.encode).flatten ∈ s.rows := by
      simp [rows, hnone]
    have hall : ((contentOf 0xa0
        (Der.encode 0xa0 (s.signedAttrs.map Attribute.encode).flatten)).bind
          (decodeAll Attribute.decode)) = some s.signedAttrs :=
      decodeAll_set (fun a _ => ⟨_, _, rfl⟩)
        (fun a ha => Attribute.decode_encode (h.signedAttrs a ha))
        (content_lt_of_mem hattrs hcontent)
    rw [rows, if_neg hnone]
    dsimp only [List.cons_append, List.nil_append]
    rw [hall]
    exact hback

end SignerInfo

namespace ContentInfo

/-- The content behind its type. -/
def encapsulated (c : ContentInfo) : List ByteString :=
  c.eContentType :: (match c.eContent with
    | none => []
    | some content => [Der.encode 0xa0 (Der.encode 0x04 content)])

/-- The rows of the signed data: version, digest algorithms, content, certificates, signers. -/
def rows (c : ContentInfo) : List ByteString :=
  [Der.encode 0x02 [1], Der.encode 0x31 (c.digestAlgorithms.map AlgorithmIdentifier.encode).flatten,
      Der.encode 0x30 c.encapsulated.flatten] ++
    (if c.certificates = [] then [] else [Der.encode 0xa0 c.certificates.flatten]) ++
    [Der.encode 0x31 (c.signerInfos.map SignerInfo.encode).flatten]

def encode (c : ContentInfo) : ByteString :=
  Der.encode 0x30 [c.contentType, Der.encode 0xa0 (Der.encode 0x30 c.rows.flatten)].flatten

/-- A message from the rows, with the certificates apart. -/
def ofRows (contentType digestAlgorithms encapsulated : ByteString)
    (certificates : Option (List ByteString)) (signerInfos : ByteString) : Option ContentInfo := do
  let digestAlgorithms ←
    (contentOf 0x31 digestAlgorithms).bind (decodeAll AlgorithmIdentifier.decode)
  let encapsulated ← (contentOf 0x30 encapsulated).bind items
  let certificates ← certificates
  let signerInfos ← (contentOf 0x31 signerInfos).bind (decodeAll SignerInfo.decode)
  match encapsulated with
  | [eContentType] =>
    some ⟨contentType, digestAlgorithms, eContentType, none, certificates, signerInfos⟩
  | [eContentType, wrapped] =>
    ((contentOf 0xa0 wrapped).bind (contentOf 0x04)).map fun content =>
      ⟨contentType, digestAlgorithms, eContentType, some content, certificates, signerInfos⟩
  | _ => none

def decode (b : ByteString) : Option ContentInfo := do
  match ← (contentOf 0x30 b).bind items with
  | [contentType, wrapped] =>
    match ← ((contentOf 0xa0 wrapped).bind (contentOf 0x30)).bind items with
    | [_, digestAlgorithms, encapsulated, signerInfos] =>
      ofRows contentType digestAlgorithms encapsulated (some []) signerInfos
    | [_, digestAlgorithms, encapsulated, certificates, signerInfos] =>
      ofRows contentType digestAlgorithms encapsulated ((contentOf 0xa0 certificates).bind items)
        signerInfos
    | _ => none
  | _ => none

structure WellFormed (c : ContentInfo) : Prop where
  contentType : IsObject c.contentType
  digestAlgorithms : ∀ a ∈ c.digestAlgorithms, a.WellFormed
  sortedAlgorithms : (c.digestAlgorithms.map AlgorithmIdentifier.encode).Pairwise NotAfter
  eContentType : IsObject c.eContentType
  certificates : ∀ b ∈ c.certificates, IsEncoded 0x30 b
  sortedCertificates : c.certificates.Pairwise NotAfter
  signerInfos : ∀ s ∈ c.signerInfos, s.WellFormed
  sortedSigners : (c.signerInfos.map SignerInfo.encode).Pairwise NotAfter

lemma rows_items (c : ContentInfo) : ∀ b ∈ c.rows, IsSome b := by
  intro b hb
  rw [rows] at hb
  split_ifs at hb with hnone
  all_goals
    simp only [List.append_nil, List.mem_append, List.mem_cons, List.not_mem_nil, or_false] at hb
  · rcases hb with (rfl | rfl | rfl) | rfl <;> exact ⟨_, _, rfl⟩
  · rcases hb with ((rfl | rfl | rfl) | rfl) | rfl <;> exact ⟨_, _, rfl⟩

lemma encapsulated_items {c : ContentInfo} (h : c.WellFormed) :
    ∀ b ∈ c.encapsulated, IsSome b := by
  intro b hb
  rw [encapsulated] at hb
  rcases List.mem_cons.1 hb with rfl | hb
  · exact ⟨_, h.eContentType.isEncoded⟩
  · cases hc : c.eContent with
    | none => simp [hc] at hb
    | some content =>
      rw [hc] at hb
      rw [List.mem_singleton.1 hb]
      exact ⟨_, _, rfl⟩

lemma ofRows_eq {c : ContentInfo} (h : c.WellFormed) (hlen : c.rows.flatten.length < 256 ^ 127) :
    ofRows c.contentType
      (Der.encode 0x31 (c.digestAlgorithms.map AlgorithmIdentifier.encode).flatten)
      (Der.encode 0x30 c.encapsulated.flatten) (some c.certificates)
      (Der.encode 0x31 (c.signerInfos.map SignerInfo.encode).flatten) = some c := by
  have halgorithms :
      (c.digestAlgorithms.map AlgorithmIdentifier.encode).flatten.length < 256 ^ 127 :=
    @content_lt_of_mem c.rows 0x31 _ (by simp [rows]) hlen
  have hcontent : c.encapsulated.flatten.length < 256 ^ 127 :=
    @content_lt_of_mem c.rows 0x30 _ (by simp [rows]) hlen
  have hsigners : (c.signerInfos.map SignerInfo.encode).flatten.length < 256 ^ 127 :=
    @content_lt_of_mem c.rows 0x31 _ (by simp [rows]) hlen
  have hback : ((contentOf 0x31
      (Der.encode 0x31 (c.digestAlgorithms.map AlgorithmIdentifier.encode).flatten)).bind
        (decodeAll AlgorithmIdentifier.decode)) = some c.digestAlgorithms :=
    decodeAll_set (fun a _ => ⟨_, _, rfl⟩)
      (fun a ha => AlgorithmIdentifier.decode_encode (h.digestAlgorithms a ha)) halgorithms
  have hback' : ((contentOf 0x31
      (Der.encode 0x31 (c.signerInfos.map SignerInfo.encode).flatten)).bind
        (decodeAll SignerInfo.decode)) = some c.signerInfos :=
    decodeAll_set (fun s _ => ⟨_, _, rfl⟩)
      (fun s hs => SignerInfo.decode_encode (h.signerInfos s hs)) hsigners
  rw [ofRows, hback, hback', contentOf_encode hcontent, Option.bind_some,
    items_flatten (encapsulated_items h) hcontent]
  cases hc : c.eContent with
  | none =>
    rw [encapsulated, hc]
    dsimp only [Option.bind_eq_bind, Option.bind_some]
    rw [← hc]
  | some content =>
    have hinner : content.length < 256 ^ 127 ∧ (Der.encode 0x04 content).length < 256 ^ 127 := by
      have hmem : Der.encode 0xa0 (Der.encode 0x04 content) ∈ c.encapsulated := by
        simp [encapsulated, hc]
      have houter := content_lt_of_mem hmem hcontent
      exact ⟨(length_le_encode 0x04 content).trans_lt houter, houter⟩
    rw [encapsulated, hc]
    dsimp only [Option.bind_eq_bind, Option.bind_some]
    rw [contentOf_encode hinner.2, Option.bind_some, contentOf_encode hinner.1, Option.map_some,
      ← hc]

/-- **A message** is taken back as it was written. -/
theorem decode_encode {c : ContentInfo} (h : c.WellFormed) (hlen : c.encode.length < 256 ^ 127) :
    decode c.encode = some c := by
  have houter := (length_le_encode 0x30
    [c.contentType, Der.encode 0xa0 (Der.encode 0x30 c.rows.flatten)].flatten).trans_lt hlen
  have hwrapped : (Der.encode 0x30 c.rows.flatten).length < 256 ^ 127 :=
    content_lt_of_mem (List.mem_cons_of_mem _ (List.mem_cons_self ..)) houter
  have hrows := (length_le_encode 0x30 c.rows.flatten).trans_lt hwrapped
  have hback := ofRows_eq h hrows
  rw [decode, encode, contentOf_encode houter, Option.bind_some,
    items_flatten (by simpa [IsSome] using ⟨⟨_, h.contentType.isEncoded⟩, 0xa0, _, rfl⟩) houter]
  dsimp only [Option.bind_eq_bind, Option.bind_some]
  rw [contentOf_encode hwrapped, Option.bind_some, contentOf_encode hrows, Option.bind_some,
    items_flatten c.rows_items hrows]
  by_cases hnone : c.certificates = []
  · rw [hnone] at hback
    rw [rows, if_pos hnone]
    exact hback
  · have hcerts : Der.encode 0xa0 c.certificates.flatten ∈ c.rows := by simp [rows, hnone]
    have hset := content_lt_of_mem hcerts hrows
    rw [rows, if_neg hnone]
    dsimp only [List.cons_append, List.nil_append, Option.bind_eq_bind, Option.bind_some]
    rw [contentOf_encode hset, Option.bind_some,
      items_flatten (fun b hb => ⟨_, h.certificates b hb⟩) hset]
    exact hback

end ContentInfo

end SoftHSM.RutokenCMS
