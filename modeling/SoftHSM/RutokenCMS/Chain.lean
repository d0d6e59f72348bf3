import Mathlib.Data.List.Perm.Basic
import Mathlib.Data.List.Chain
import SoftHSM.Cryptoki
import SoftHSM.Lib.Pursuit
import SoftHSM.DataMgr.SecureDataManager

/-!
The check of a chain of GOST certificates: it goes from a certificate to the first issuer that
fits, and never back.
-/

set_option linter.unusedSectionVars false

namespace SoftHSM.RutokenCMS

open CK_RV
open Pursuit

/-! ### The check -/

def CKF_VENDOR_DO_NOT_USE_INTERNAL_CMS_CERTS : CK_FLAGS := 0x01
def CKF_VENDOR_ALLOW_PARTIAL_CHAINS : CK_FLAGS := 0x02
def CKF_VENDOR_CHECK_SIGNATURE_ONLY : CK_FLAGS := 0x04
def CKF_VENDOR_USE_TRUSTED_CERTS_FROM_TOKEN : CK_FLAGS := 0x08

structure VerifyState where
  cms : ByteString
  data : ByteString
  trusted : List ByteString
  certificates : List ByteString
  crls : List ByteString
  crlMode : UInt64
  flags : CK_FLAGS
  updated : Bool

/-- What the library says of certificates: whether `DER` is one, whether it is valid now, whether
the subject of the second is the issuer of the first, and whether the second has signed the
first. Two certificates are compared by what they are. -/
structure X509 (Cert : Type) where
  decodeCertificate : ByteString → Option Cert
  inValidity : Cert → Bool
  namesIssuer : Cert → Cert → Bool
  check_ca : Cert → Bool
  verifyGostCertificate : Cert → Cert → Bool

variable {Cert : Type} [DecidableEq Cert]

namespace X509

/-- A certificate that may have issued another one. -/
def issues (X : X509 Cert) (current candidate : Cert) : Bool :=
  X.namesIssuer current candidate && X.check_ca candidate &&
    X.verifyGostCertificate current candidate

/-- A certificate that may end a chain, if it is trusted. -/
def mayEnd (X : X509 Cert) (flags : CK_FLAGS) (c : Cert) : Bool :=
  flags &&& CKF_VENDOR_ALLOW_PARTIAL_CHAINS ≠ 0 || X.check_ca c && X.namesIssuer c c

end X509

/-- The loop of `verifyGostChain`. -/
def verifyFrom (X : X509 Cert) (flags : CK_FLAGS) (extra internal anchors : List Cert) :
    ℕ → Cert → CK_RV
  | 0, _ => CKR_CERT_CHAIN_NOT_VERIFIED
  | depth + 1, current =>
    if !X.inValidity current then CKR_CERT_CHAIN_NOT_VERIFIED
    else if current ∈ anchors then
      if flags &&& CKF_VENDOR_ALLOW_PARTIAL_CHAINS ≠ 0 then CKR_OK
      else if !X.check_ca current || !X.namesIssuer current current then
        CKR_CERT_CHAIN_NOT_VERIFIED
      else CKR_OK
    else
      match (extra ++ internal).find? fun candidate =>
          candidate ≠ current && X.issues current candidate with
      | some issuer => verifyFrom X flags extra internal anchors depth issuer
      | none =>
        match anchors.find? fun candidate => X.issues current candidate with
        | some issuer => verifyFrom X flags extra internal anchors depth issuer
        | none => CKR_CERT_CHAIN_NOT_VERIFIED

/-- The certificates of the message that are used. -/
def usedInternal (flags : CK_FLAGS) (internal : Option (List Cert)) : List Cert :=
  if flags &&& CKF_VENDOR_DO_NOT_USE_INTERNAL_CMS_CERTS = 0 then internal.getD [] else []

def verifyGostChain (X : X509 Cert) (signer : Cert) (state : VerifyState)
    (internal : Option (List Cert)) : CK_RV :=
  if state.trusted = [] then CKR_CERT_CHAIN_NOT_VERIFIED
  else
    match state.trusted.mapM X.decodeCertificate with
    | none => CKR_DATA_INVALID
    | some anchors =>
      match state.certificates.mapM X.decodeCertificate with
      | none => CKR_DATA_INVALID
      | some extra =>
        verifyFrom X state.flags extra (usedInternal state.flags internal) anchors 8 signer

/-! ### What is asked, and what a chain is -/

/-- What `verifyGostChain` is given. -/
structure Query (Cert : Type) where
  signer : Cert
  state : VerifyState
  internal : Option (List Cert)

namespace Query

variable (X : X509 Cert) (q : Query Cert)

def verdict : CK_RV := verifyGostChain X q.signer q.state q.internal

def anchors : List Cert := q.state.trusted.filterMap X.decodeCertificate

def extra : List Cert := q.state.certificates.filterMap X.decodeCertificate

def used : List Cert := usedInternal q.state.flags q.internal

/-- Everything that is given as a certificate is one. -/
def Decodes : Prop :=
  (∀ der ∈ q.state.trusted, (X.decodeCertificate der).isSome = true) ∧
    ∀ der ∈ q.state.certificates, (X.decodeCertificate der).isSome = true

/-- **A chain**: at most `n` certificates from `c` to a trusted one that may end it, all valid now,
each issued by the next one, which is among the certificates that may be used. -/
structure Chain (n : ℕ) (c : Cert) (s : List Cert) : Prop where
  length : s.length ≤ n
  head : s.head? = some c
  inValidity : ∀ c ∈ s, X.inValidity c = true
  issued : s.IsChain fun c d => X.issues c d = true ∧ d ∈ q.extra X ++ q.used ++ q.anchors X
  trusted : ∃ c, s.getLast? = some c ∧ c ∈ q.anchors X ∧ X.mayEnd q.state.flags c = true

/-- The same certificates in another order. -/
structure Reordered (q' : Query Cert) : Prop where
  signer : q'.signer = q.signer
  flags : q'.state.flags = q.state.flags
  trusted : q'.state.trusted.Perm q.state.trusted
  certificates : q'.state.certificates.Perm q.state.certificates
  internal : (q'.internal.getD []).Perm (q.internal.getD [])

/-- One more trusted certificate. -/
def trust (der : ByteString) : Query Cert :=
  { q with state := { q.state with trusted := q.state.trusted ++ [der] } }

/-- **The verdict as it is wanted**, in every order of the certificates: there is a chain, and
another trusted certificate does no harm. -/
def Wanted : Prop :=
  ∀ q', q.Reordered q' → (q'.verdict X = CKR_OK ↔ ∃ s, q'.Chain X 8 q'.signer s) ∧
    (q'.verdict X = CKR_OK ↔ q.verdict X = CKR_OK) ∧
    (q'.verdict X = CKR_OK → ∀ der c, X.decodeCertificate der = some c →
      (q'.trust der).verdict X = CKR_OK)

/-- What a certificate decides at which the check has arrived. -/
def halt (c : Cert) : Option Bool :=
  if !X.inValidity c then some false
  else if c ∈ q.anchors X then some (X.mayEnd q.state.flags c)
  else none

/-- The lists in which the check looks for an issuer. -/
def tiers : List (Pursuit.Tier Cert) :=
  [(fun c d => d ≠ c && X.issues c d, q.extra X), (fun c d => d ≠ c && X.issues c d, q.used),
    (X.issues, q.anchors X)]

/-- The certificates that may come next, in one order or another: issuers among the extra
certificates, if there are none those of the message, and if there are none trusted ones. -/
def Next : Cert → Cert → Prop := Follows (q.tiers X)

end Query

section check

variable {X : X509 Cert} {q q' : Query Cert} {n : ℕ} {c d : Cert}

lemma first_tiers (c : Cert) : first (q.tiers X) c =
    ((q.extra X ++ q.used).find? fun d => d ≠ c && X.issues c d).or
      ((q.anchors X).find? fun d => X.issues c d) := by
  simp only [Query.tiers, first, Option.or_none, List.find?_append, Option.or_assoc]

/-- The loop is a walk. -/
lemma verifyFrom_eq (n : ℕ) (c : Cert) :
    verifyFrom X q.state.flags (q.extra X) q.used (q.anchors X) n c =
      if Pursuit.walk (q.halt X) (first (q.tiers X)) n c then CKR_OK else CKR_CERT_CHAIN_NOT_VERIFIED := by
  induction n generalizing c with
  | zero => rfl
  | succ n ih =>
    rw [verifyFrom, Pursuit.walk, Query.halt, first_tiers]
    cases X.inValidity c
    · rfl
    rw [Bool.not_true, if_neg Bool.false_ne_true, if_neg Bool.false_ne_true]
    by_cases hc : c ∈ q.anchors X
    · rw [if_pos hc, if_pos hc, X509.mayEnd]
      by_cases hp : q.state.flags &&& CKF_VENDOR_ALLOW_PARTIAL_CHAINS ≠ 0
      · simp [hp]
      · cases X.check_ca c <;> cases X.namesIssuer c c <;> simp [hp]
    · rw [if_neg hc, if_neg hc]
      cases (q.extra X ++ q.used).find? fun d => d ≠ c && X.issues c d with
      | some d => exact ih d
      | none =>
        dsimp only
        rw [Option.none_or]
        cases (q.anchors X).find? fun d => X.issues c d with
        | some d => exact ih d
        | none => rfl

lemma mapM_of_decodes {l : List ByteString}
    (h : ∀ der ∈ l, (X.decodeCertificate der).isSome = true) :
    l.mapM X.decodeCertificate = some (l.filterMap X.decodeCertificate) := by
  induction l with
  | nil => rfl
  | cons der l ih =>
    obtain ⟨c, hc⟩ := Option.isSome_iff_exists.1 (h der List.mem_cons_self)
    rw [List.mapM_cons, hc, ih fun der' h' => h der' (List.mem_cons_of_mem _ h'),
      List.filterMap_cons, hc]
    rfl

lemma mapM_eq_none {l : List ByteString}
    (h : ¬ ∀ der ∈ l, (X.decodeCertificate der).isSome = true) :
    l.mapM X.decodeCertificate = none := by
  induction l with
  | nil => exact absurd (fun der hd => absurd hd List.not_mem_nil) h
  | cons der l ih =>
    rw [List.mapM_cons]
    cases hc : X.decodeCertificate der with
    | none => rfl
    | some c =>
      rw [ih fun hall => h fun der' h' => ?_]
      · rfl
      · rcases List.mem_cons.1 h' with rfl | h'
        · rw [hc]
          rfl
        · exact hall der' h'

/-- A walk that ends well ends at a trusted certificate. -/
lemma anchors_of_walk (h : Pursuit.walk (q.halt X) (first (q.tiers X)) n c = true) :
    q.anchors X ≠ [] := by
  intro hnil
  induction n generalizing c with
  | zero => cases h
  | succ n ih =>
    rw [Pursuit.walk] at h
    split at h
    · rename_i b hhalt
      rw [Query.halt, hnil] at hhalt
      split at hhalt
      · cases hhalt
        cases h
      · rw [if_neg List.not_mem_nil] at hhalt
        cases hhalt
    · split at h
      · cases h
      · exact ih h

/-- **The verdict** is that of the walk, if everything is a certificate. -/
theorem verdict_iff : q.verdict X = CKR_OK ↔
    q.Decodes X ∧ Pursuit.walk (q.halt X) (first (q.tiers X)) 8 q.signer = true := by
  unfold Query.verdict verifyGostChain Query.Decodes
  by_cases h0 : q.state.trusted = []
  · rw [if_pos h0]
    refine iff_of_false (by simp) fun h => anchors_of_walk h.2 ?_
    rw [Query.anchors, h0]
    rfl
  rw [if_neg h0]
  by_cases h1 : ∀ der ∈ q.state.trusted, (X.decodeCertificate der).isSome = true
  swap
  · rw [mapM_eq_none h1]
    exact iff_of_false (by simp) fun h => h1 h.1.1
  rw [mapM_of_decodes h1]
  by_cases h2 : ∀ der ∈ q.state.certificates, (X.decodeCertificate der).isSome = true
  swap
  · rw [mapM_eq_none h2]
    exact iff_of_false (by simp) fun h => h2 h.1.2
  rw [mapM_of_decodes h2]
  have heq := verifyFrom_eq (X := X) (q := q) 8 q.signer
  unfold Query.extra Query.anchors Query.used at heq
  dsimp only
  rw [heq]
  split
  · rename_i h
    exact iff_of_true rfl ⟨⟨h1, h2⟩, h⟩
  · rename_i h
    exact iff_of_false (by simp) fun h' => h h'.2

/-- A walk that ends well has gone along a chain. -/
theorem chain_of_walk (h : Pursuit.walk (q.halt X) (first (q.tiers X)) n c = true) :
    ∃ s, q.Chain X n c s := by
  induction n generalizing c with
  | zero => cases h
  | succ n ih =>
    rw [Pursuit.walk] at h
    split at h
    · rename_i b hhalt
      subst h
      rw [Query.halt] at hhalt
      split at hhalt
      · cases hhalt
      rename_i hvalid
      split at hhalt
      · rename_i hc
        refine ⟨[c], Nat.succ_le_succ (Nat.zero_le _), rfl, ?_, .singleton c, c, rfl, hc,
          Option.some.inj hhalt⟩
        intro d hd
        rw [List.mem_singleton.1 hd]
        simpa using hvalid
      · cases hhalt
    · rename_i hhalt
      split at h
      · cases h
      rename_i d hnext
      obtain ⟨s, hs⟩ := ih h
      have hvalid : X.inValidity c = true := by
        rw [Query.halt] at hhalt
        split at hhalt
        · cases hhalt
        · rename_i hv
          simpa using hv
      have hissued : X.issues c d = true ∧ d ∈ q.extra X ++ q.used ++ q.anchors X := by
        have hf := follows_of_first hnext
        simp only [Query.tiers, Follows, Bool.and_eq_true, or_false, and_false] at hf
        simp only [List.mem_append]
        rcases hf with ⟨hd, -, hi⟩ | ⟨-, ⟨hd, -, hi⟩ | ⟨-, hd, hi⟩⟩
        · exact ⟨hi, .inl (.inl hd)⟩
        · exact ⟨hi, .inl (.inr hd)⟩
        · exact ⟨hi, .inr hd⟩
      obtain ⟨s, rfl⟩ : ∃ s', s = d :: s' := by
        have hhead := hs.head
        cases s with
        | nil => cases hhead
        | cons e s =>
          cases hhead
          exact ⟨s, rfl⟩
      refine ⟨c :: d :: s, Nat.succ_le_succ hs.length, rfl, ?_, ?_, ?_⟩
      · intro e he
        rcases List.mem_cons.1 he with rfl | he
        · exact hvalid
        · exact hs.inValidity e he
      · exact List.isChain_cons_cons.2 ⟨hissued, hs.issued⟩
      · obtain ⟨e, he, hrest⟩ := hs.trusted
        exact ⟨e, by rw [List.getLast?_cons_cons, he], hrest⟩

/-! ### The order of the certificates -/

lemma Query.Reordered.anchors (h : q.Reordered q') : (q'.anchors X).Perm (q.anchors X) :=
  h.trusted.filterMap _

lemma Query.Reordered.extra (h : q.Reordered q') : (q'.extra X).Perm (q.extra X) :=
  h.certificates.filterMap _

lemma Query.Reordered.used (h : q.Reordered q') : q'.used.Perm q.used := by
  unfold Query.used usedInternal
  rw [h.flags]
  split
  · exact h.internal
  · exact .refl []

lemma Query.Reordered.halt (h : q.Reordered q') : q'.halt X = q.halt X := by
  funext c
  unfold Query.halt
  rw [h.flags]
  simp only [(h.anchors (X := X)).mem_iff]

lemma Query.Reordered.tiers (h : q.Reordered q') : Rearranged (q'.tiers X) (q.tiers X) :=
  .cons ⟨rfl, h.extra⟩ (.cons ⟨rfl, h.used⟩ (.cons ⟨rfl, h.anchors⟩ .nil))

lemma Query.Reordered.decodes (h : q.Reordered q') : q'.Decodes X ↔ q.Decodes X := by
  unfold Query.Decodes
  simp only [h.trusted.mem_iff, h.certificates.mem_iff]

lemma Query.Reordered.chain_iff (h : q.Reordered q') {s : List Cert} :
    q'.Chain X n c s ↔ q.Chain X n c s := by
  have hrel : (fun c d => X.issues c d = true ∧ d ∈ q'.extra X ++ q'.used ++ q'.anchors X) =
      fun c d => X.issues c d = true ∧ d ∈ q.extra X ++ q.used ++ q.anchors X := by
    funext c d
    simp only [List.mem_append, (h.extra (X := X)).mem_iff, h.used.mem_iff,
      (h.anchors (X := X)).mem_iff]
  constructor
  · rintro ⟨hlength, hhead, hvalid, hissued, e, he, hanchor, hend⟩
    refine ⟨hlength, hhead, hvalid, hrel ▸ hissued, e, he, ?_, h.flags ▸ hend⟩
    exact (h.anchors (X := X)).mem_iff.1 hanchor
  · rintro ⟨hlength, hhead, hvalid, hissued, e, he, hanchor, hend⟩
    refine ⟨hlength, hhead, hvalid, hrel ▸ hissued, e, he, ?_, h.flags ▸ hend⟩
    exact (h.anchors (X := X)).mem_iff.2 hanchor

lemma Query.Reordered.refl (q : Query Cert) : q.Reordered q :=
  ⟨rfl, rfl, .refl _, .refl _, .refl _⟩

lemma forall₂_decoded {l : List ByteString}
    (hd : ∀ der ∈ l, (X.decodeCertificate der).isSome = true) :
    List.Forall₂ (fun c der => X.decodeCertificate der = some c)
      (l.filterMap X.decodeCertificate) l := by
  induction l with
  | nil => exact .nil
  | cons der l ih =>
    obtain ⟨c, hc⟩ := Option.isSome_iff_exists.1 (hd der List.mem_cons_self)
    rw [List.filterMap_cons, hc]
    exact .cons hc (ih fun der' h' => hd der' (List.mem_cons_of_mem _ h'))

/-- Certificates that are decoded in another order. -/
lemma exists_decoded {l : List ByteString} {l' : List Cert}
    (hd : ∀ der ∈ l, (X.decodeCertificate der).isSome = true)
    (h : l'.Perm (l.filterMap X.decodeCertificate)) :
    ∃ l'' : List ByteString, l''.Perm l ∧ l''.filterMap X.decodeCertificate = l' := by
  obtain ⟨l'', hl'', hperm⟩ := List.perm_comp_forall₂ h (forall₂_decoded hd)
  refine ⟨l'', hperm, ?_⟩
  clear h hperm
  induction hl'' with
  | nil => rfl
  | cons hc _ ih => rw [List.filterMap_cons, hc, ih]

/-- Every order of the lists is one of the certificates that are given. -/
lemma exists_reordered {ts : List (Tier Cert)} (hd : q.Decodes X)
    (h : Rearranged ts (q.tiers X)) : ∃ q', q.Reordered q' ∧ q'.tiers X = ts := by
  rcases h with _ | ⟨h₁, _ | ⟨h₂, _ | ⟨h₃, _ | _⟩⟩⟩
  rename_i t₁ t₂ t₃
  obtain ⟨certificates, hc, hextra⟩ := exists_decoded hd.2 h₁.2
  obtain ⟨trusted, ht, hanchors⟩ := exists_decoded hd.1 h₃.2
  refine ⟨⟨q.signer, { q.state with trusted := trusted, certificates := certificates },
    if q.state.flags &&& CKF_VENDOR_DO_NOT_USE_INTERNAL_CMS_CERTS = 0 then some t₂.2
    else q.internal⟩, ⟨rfl, rfl, ht, hc, ?_⟩, ?_⟩
  · have hused := h₂.2
    unfold Query.used usedInternal at hused
    split
    · rename_i hflag
      rw [if_pos hflag] at hused
      exact hused
    · exact .refl _
  · have hused := h₂.2
    unfold Query.used usedInternal at hused
    refine List.cons_eq_cons.2 ⟨Prod.ext h₁.1.symm hextra, List.cons_eq_cons.2
      ⟨Prod.ext h₂.1.symm ?_, List.cons_eq_cons.2 ⟨Prod.ext h₃.1.symm hanchors, rfl⟩⟩⟩
    simp only [Query.used, usedInternal]
    split
    · rfl
    · rename_i hflag
      rw [if_neg hflag] at hused
      exact (List.perm_nil.1 hused).symm

/-! ### One more trusted certificate -/

section trust

variable {der : ByteString}

lemma anchors_trust (h : X.decodeCertificate der = some d) :
    (q.trust der).anchors X = q.anchors X ++ [d] := by
  simp [Query.anchors, Query.trust, h]

lemma decodes_trust (h : X.decodeCertificate der = some d) :
    (q.trust der).Decodes X ↔ q.Decodes X := by
  simp [Query.Decodes, Query.trust, h, or_imp, forall_and]

lemma halt_trust_self (h : X.decodeCertificate der = some d) : (q.trust der).halt X d =
    some (X.inValidity d && X.mayEnd q.state.flags d) := by
  rw [Query.halt, anchors_trust h]
  cases X.inValidity d
  · rfl
  · simp [Query.trust]

lemma halt_trust_of_ne (h : X.decodeCertificate der = some d) (hne : c ≠ d) :
    (q.trust der).halt X c = q.halt X c := by
  rw [Query.halt, anchors_trust h, Query.halt]
  simp [Query.trust, hne]

lemma halt_trust_some (h : X.decodeCertificate der = some d) {b : Bool}
    (hc : q.halt X c = some b) : (q.trust der).halt X c = some b := by
  by_cases hne : c = d
  · subst hne
    rw [halt_trust_self h]
    rw [Query.halt] at hc
    cases hv : X.inValidity c <;> rw [hv] at hc
    · exact hc
    · simp only [Bool.not_true, Bool.false_eq_true, if_false] at hc
      split at hc
      · simpa using hc
      · cases hc
  · rw [halt_trust_of_ne h hne, hc]

/-- An issuer that is found is found again. -/
lemma first_trust (h : X.decodeCertificate der = some d) {e : Cert}
    (hc : first (q.tiers X) c = some e) : first ((q.trust der).tiers X) c = some e := by
  have hanchors : ((q.trust der).anchors X).find? (fun d => X.issues c d) =
      ((q.anchors X).find? fun d => X.issues c d).or ([d].find? fun d => X.issues c d) := by
    rw [anchors_trust h, List.find?_append]
  rw [first_tiers] at hc ⊢
  rw [hanchors]
  change ((q.extra X ++ q.used).find? fun d => d ≠ c && X.issues c d).or _ = some e
  cases hfind : (q.extra X ++ q.used).find? fun d => d ≠ c && X.issues c d with
  | some u =>
    rw [hfind, Option.some_or] at hc
    exact hc
  | none =>
    rw [hfind, Option.none_or] at hc
    rw [Option.none_or, hc, Option.some_or]

/-- If the check comes by a certificate that may not end a chain, it may not be trusted. -/
lemma walk_trust_eq_false (h : X.decodeCertificate der = some d)
    (hd : X.mayEnd q.state.flags d = false)
    (hm : Meets (q.halt X) (fun c e => first (q.tiers X) c = some e) (· = d) n c) (m : ℕ) :
    Pursuit.walk ((q.trust der).halt X) (first ((q.trust der).tiers X)) m c = false := by
  induction hm generalizing m with
  | here hc =>
    cases m with
    | zero => rfl
    | succ m => rw [hc, Pursuit.walk, halt_trust_self h, hd, Bool.and_false]
  | step hhalt hnext _ ih =>
    rename_i c e _
    cases m with
    | zero => rfl
    | succ m =>
      rw [Pursuit.walk, first_trust h hnext]
      by_cases hc : c = d
      · rw [hc, halt_trust_self h, hd, Bool.and_false]
      · rw [halt_trust_of_ne h hc, hhalt]
        exact ih m

/-- Otherwise it may. -/
lemma walk_trust (h : X.decodeCertificate der = some d)
    (hd : ¬ Meets (q.halt X) (fun c e => first (q.tiers X) c = some e)
      (fun c => X.mayEnd q.state.flags c = false) n c)
    (hw : Pursuit.walk (q.halt X) (first (q.tiers X)) (n + 1) c = true) :
    Pursuit.walk ((q.trust der).halt X) (first ((q.trust der).tiers X)) (n + 1) c = true := by
  induction n generalizing c with
  | zero =>
    rw [Pursuit.walk] at hw ⊢
    cases hhalt : q.halt X c with
    | some b =>
      rw [hhalt] at hw
      rw [halt_trust_some h hhalt]
      exact hw
    | none =>
      rw [hhalt] at hw
      dsimp only at hw
      split at hw <;> cases hw
  | succ n ih =>
    rw [Pursuit.walk] at hw ⊢
    cases hhalt : q.halt X c with
    | some b =>
      rw [hhalt] at hw
      rw [halt_trust_some h hhalt]
      exact hw
    | none =>
      rw [hhalt] at hw
      dsimp only at hw
      split at hw
      · cases hw
      rename_i e hnext
      by_cases hc : c = d
      · subst hc
        have hend : X.mayEnd q.state.flags c = true := by
          by_contra hend
          rw [Bool.not_eq_true] at hend
          exact hd (.here hend)
        have hvalid : X.inValidity c = true := by
          by_contra hv
          rw [Query.halt, if_pos (by simpa using hv)] at hhalt
          cases hhalt
        rw [halt_trust_self h, hend, hvalid]
        rfl
      · rw [halt_trust_of_ne h hc, hhalt, first_trust h hnext]
        exact ih (fun hm => hd (.step hhalt hnext hm)) hw

end trust

end check

/-! ### When the verdict is the wanted one -/

/-- **Nothing leads astray.** Everything is a certificate; no way from the signer to issuers, in
any order of the lists, comes to one that is not valid now, to a trusted one that may not
end a chain, or to one without an issuer, or is too long; and all certificates on the ways
may end a chain. -/
structure Query.Straight (X : X509 Cert) (q : Query Cert) : Prop where
  decodes : q.Decodes X
  strays : ¬ Strays (q.halt X) (q.Next X) 8 q.signer
  mayEnd : ¬ Meets (q.halt X) (q.Next X) (fun c => X.mayEnd q.state.flags c = false) 7 q.signer

/-- **The verdict is the wanted one** exactly if there is no chain or nothing leads astray. -/
theorem wanted_iff (X : X509 Cert) (q : Query Cert)
    (hder : ∀ c, ∃ der, X.decodeCertificate der = some c) :
    q.Wanted X ↔ ((∃ s, q.Chain X 8 q.signer s) → q.Straight X) := by
  constructor
  · rintro h ⟨s, hs⟩
    have hok : q.verdict X = CKR_OK := (h q (.refl q)).1.2 ⟨s, hs⟩
    have hdecodes := (verdict_iff.1 hok).1
    have hall : ∀ q', q.Reordered q' → q'.verdict X = CKR_OK := fun q' hq => (h q' hq).2.1.2 hok
    refine ⟨hdecodes, fun hstrays => ?_, fun hmeets => ?_⟩
    · obtain ⟨ts, hr, hw⟩ := exists_walk_eq_false_iff.2 hstrays
      obtain ⟨q', hq, rfl⟩ := exists_reordered hdecodes hr
      have hwalk := (verdict_iff.1 (hall q' hq)).2
      rw [hq.halt, hq.signer, hw] at hwalk
      cases hwalk
    · obtain ⟨ts, hr, hm⟩ := exists_meets hmeets
      obtain ⟨q', hq, rfl⟩ := exists_reordered hdecodes hr
      -- the certificate that is met is trusted as well
      obtain ⟨d, hd, hm⟩ := hm.exists_eq
      obtain ⟨der, hdec⟩ := hder d
      have hwalk := (verdict_iff.1 ((h q' hq).2.2 (hall q' hq) der d hdec)).2
      rw [← hq.halt, ← hq.signer] at hm
      rw [← hq.flags] at hd
      have hfalse : Pursuit.walk ((q'.trust der).halt X) (first ((q'.trust der).tiers X)) 8 q'.signer =
          false := walk_trust_eq_false hdec hd hm 8
      exact Bool.false_ne_true (hfalse.symm.trans hwalk)
  · intro h
    have hkey : ∀ q', q.Reordered q' → (∃ s, q.Chain X 8 q.signer s) → q'.verdict X = CKR_OK := by
      intro q' hq hs
      have hstraight := h hs
      refine verdict_iff.2 ⟨hq.decodes.2 hstraight.decodes, ?_⟩
      by_contra hw
      rw [Bool.not_eq_true, hq.halt, hq.signer] at hw
      exact hstraight.strays (exists_walk_eq_false_iff.1 ⟨_, hq.tiers, hw⟩)
    have hchain : ∀ q', q.Reordered q' → q'.verdict X = CKR_OK →
        ∃ s, q.Chain X 8 q.signer s := by
      intro q' hq hok
      obtain ⟨s, hs⟩ := chain_of_walk (verdict_iff.1 hok).2
      rw [hq.chain_iff, hq.signer] at hs
      exact ⟨s, hs⟩
    intro q' hq
    refine ⟨⟨fun hok => chain_of_walk (verdict_iff.1 hok).2, ?_⟩, ⟨fun hok => ?_, fun hok => ?_⟩,
      fun hok der d hdec => ?_⟩
    · rintro ⟨s, hs⟩
      rw [hq.chain_iff, hq.signer] at hs
      exact hkey q' hq ⟨s, hs⟩
    · exact hkey q (.refl q) (hchain q' hq hok)
    · exact hkey q' hq (hchain q (.refl q) hok)
    · have hstraight := h (hchain q' hq hok)
      have hwalk := (verdict_iff.1 hok).2
      refine verdict_iff.2 ⟨(decodes_trust hdec).2 (hq.decodes.2 hstraight.decodes), ?_⟩
      refine walk_trust hdec (fun hm => hstraight.mayEnd ?_) hwalk
      have hm := meets_of_first (fun _ => id) hm
      have hsigner : (q'.trust der).signer = q.signer := hq.signer
      rw [hq.halt, hsigner, hq.flags] at hm
      have hnext : Follows (q'.tiers X) = q.Next X := by
        funext c d
        exact propext (follows_congr hq.tiers)
      exact hnext ▸ hm

/-! ### An authority with two certificates -/

/-- A certificate is a number. The authority of `0` has the certificates `1`, of an issuer that is
not there, and `2`, of the root `3`. -/
def twoCertificates : X509 UInt8 where
  decodeCertificate der := if der.length = 1 then der.head? else none
  inValidity _ := true
  namesIssuer c d := c = 0 && (d = 1 || d = 2) || c ≠ 0 && c ≠ 1 && d = 3
  check_ca c := c ≠ 0
  verifyGostCertificate _ _ := true

/-- The root is trusted, and the certificates of the authority are given in this order. -/
def asked (certificates : List ByteString) : Query UInt8 :=
  ⟨0, ⟨[], [], [[3]], certificates, [], 0, 0, false⟩, none⟩

lemma exists_der (c : UInt8) : ∃ der, twoCertificates.decodeCertificate der = some c :=
  ⟨[c], rfl⟩

theorem wanted_iff_twoCertificates : (asked [[1], [2]]).Wanted twoCertificates ↔
    ((∃ s, (asked [[1], [2]]).Chain twoCertificates 8 0 s) →
      (asked [[1], [2]]).Straight twoCertificates) :=
  wanted_iff twoCertificates (asked [[1], [2]]) exists_der

lemma chain_two : (asked [[1], [2]]).Chain twoCertificates 8 0 [0, 2, 3] where
  length := by decide
  head := rfl
  inValidity _ _ := rfl
  issued := by decide
  trusted := ⟨3, rfl, by decide, by decide⟩

/-- There is a chain, which is found in one order of the certificates and not in the other; and it
is not found any more when the authority is trusted as well. -/
theorem chain_not_found : (asked [[1], [2]]).Chain twoCertificates 8 0 [0, 2, 3] ∧
    (asked [[1], [2]]).verdict twoCertificates = CKR_CERT_CHAIN_NOT_VERIFIED ∧
    (asked [[2], [1]]).verdict twoCertificates = CKR_OK ∧
    ((asked [[2], [1]]).trust [2]).verdict twoCertificates = CKR_CERT_CHAIN_NOT_VERIFIED :=
  ⟨chain_two, by decide, by decide, by decide⟩

end SoftHSM.RutokenCMS
