import SoftHSM.Library.UnwrappedKeys

/-!
Wrap and unwrap templates together: when the check of each of them means that attributes are equal,
and when a key that has been unwrapped satisfies the whole template.
-/

namespace SoftHSM.Create

open CK_RV Search P11Object File

section templates

variable {Obj Sess : Type} [DecidableEq Obj] [DecidableEq Sess] {P : Primitives}

end templates

/-! ### An unwrapping key whose template has a label -/

def label : ByteString := [0x61, 0x62]

/-- The memory of the caller, with a template of the label alone. -/
def labelMemory : Outside :=
  { noOutside with arrayAt := fun b => if b = [] then [] else [⟨CKA_LABEL, some label, 0⟩] }

/-- An AES key of the session that may unwrap keys with the label. -/
def labelUnwrapper : Creation ℕ :=
  .generateKey (smooth 0) 1 CKM_AES_KEY_GEN
    (some [⟨CKA_VALUE_LEN, some (ulongBytes 16), 0⟩, ⟨CKA_UNWRAP, some [CK_TRUE], 0⟩,
      ⟨CKA_UNWRAP_TEMPLATE, some (List.replicate 24 0), 0⟩]) fun _ => .ok (some sixteenBytes)

@[irreducible] def oneUnwrapper : Store ℕ Unit :=
  (labelUnwrapper.exec SecureDataManager.plainPrimitives labelMemory oneSession).2

lemma ready_oneUnwrapper : Ready [1] oneUnwrapper := by
  have hrep : HandleManager.Rep (fun _ : ℕ => 0) oneSession.handleManager :=
    HandleManager.rep_addSession (HandleManager.rep_empty fun _ => 0) (by decide) 0 ()
  have hst : oneUnwrapper = (C_GenerateKey SecureDataManager.plainPrimitives labelMemory (smooth 0)
      1 CKM_AES_KEY_GEN
      (some [⟨CKA_VALUE_LEN, some (ulongBytes 16), 0⟩, ⟨CKA_UNWRAP, some [CK_TRUE], 0⟩,
        ⟨CKA_UNWRAP_TEMPLATE, some (List.replicate 24 0), 0⟩])
      (fun _ => .ok (some sixteenBytes)) oneSession).2.2 := by
    simp only [oneUnwrapper, labelUnwrapper, Creation.exec]
  exact generateKey_ready hst (ready_oneSession (by decide)) hrep ⟨(), rfl⟩ (fun _ => rfl)
    (by decide) (fun _ => List.not_mem_nil) (by decide +kernel) (by decide +kernel)

lemma keyToUse_oneUnwrapper : keyToUse 1 2 CKR_UNWRAPPING_KEY_HANDLE_INVALID oneUnwrapper =
    .ok ((), oneUnwrapper.object 0) := by
  have hi : oneUnwrapper.isInitialised = true := by decide +kernel
  have hs : oneUnwrapper.handleManager.getSession 1 = some () := by decide +kernel
  have ho : oneUnwrapper.handleManager.getObject 2 = some 0 := by decide +kernel
  have hv : (oneUnwrapper.object 0).valid = true := by decide +kernel
  have hread : haveRead (oneUnwrapper.getState ())
      ((oneUnwrapper.object 0).attributes.getBooleanValue CKA_TOKEN false)
      ((oneUnwrapper.object 0).attributes.getBooleanValue CKA_PRIVATE true) = CKR_OK := by
    decide +kernel
  simp [keyToUse, hi, hs, ho, hv, hread]
  rfl

lemma complete_oneUnwrapper : Complete (oneUnwrapper.object 0).attributes := by
  have hclass : (oneUnwrapper.object 0).attributes.getUnsignedLongValue CKA_CLASS
      CKO_VENDOR_DEFINED = CKO_SECRET_KEY := by decide +kernel
  have hkeyType : (oneUnwrapper.object 0).attributes.getUnsignedLongValue CKA_KEY_TYPE CKK_RSA =
      CKK_AES := by decide +kernel
  refine ⟨P11AESSecretKeyObj, by rw [attributeKind, hclass, hkeyType]; rfl, fun a ha => ?_⟩
  have hexists : ∀ a ∈ P11AESSecretKeyObj.attributes,
      (oneUnwrapper.object 0).attributes.attributeExists a.type = true := by decide +kernel
  have hkinded : Kinded P11AESSecretKeyObj (oneUnwrapper.object 0).attributes :=
    kinded_of_all (by decide +kernel)
  obtain ⟨attr, hget⟩ := Option.isSome_iff_exists.1 (hexists a ha)
  exact ⟨attr, hget, hkinded a ha attr hget⟩

/-- A secret key with the label, of the session. -/
def labelledTemplate : List CK_ATTRIBUTE :=
  [⟨CKA_CLASS, some (ulongBytes CKO_SECRET_KEY), 0⟩,
    ⟨CKA_KEY_TYPE, some (ulongBytes CKK_GENERIC_SECRET), 0⟩, ⟨CKA_LABEL, some label, 0⟩]

/-- The bytes of the key, as they are stored. -/
def keyBytes : ByteString → Option Material := fun b =>
  some ⟨[(CKA_VALUE, .byteString b)], by simp [materialTypes], by simp +decide⟩

/-- What comes of unwrapping the key. -/
@[irreducible] def labelledKey : CK_RV × ℕ × Store ℕ Unit :=
  C_UnwrapKey SecureDataManager.plainPrimitives labelMemory (smooth 1) 1 2 (some labelledTemplate)
    (fun _ => CKR_OK) (fun _ _ => false) (.direct (.ok [1, 2, 3])) keyBytes oneUnwrapper

/-- The sealed strings of the token, opened. -/
def opens : ByteString → Option ByteString :=
  Search.decrypt SecureDataManager.plainPrimitives
    (oneUnwrapper.sdm (oneUnwrapper.session ()).slotID)

/-- The label, sealed by a cipher that only puts the IV before it. -/
def sealedLabel : ByteString := List.replicate 16 0 ++ label

/-- A private key with the label. -/
def labelledObject : OSObject :=
  { datedKey with attributes := datedKey.attributes.setAttribute CKA_LABEL (.byteString sealedLabel) }

def oneLabelledObject : Store Unit Unit := { oneDatedKey with object := fun _ => labelledObject }

/-- A wrapping key for keys with the label. -/
def labelWrapper : AttributeMap :=
  [(CKA_WRAP_TEMPLATE, .attributeMap [(CKA_LABEL, .byteString label)])]

end SoftHSM.Create
