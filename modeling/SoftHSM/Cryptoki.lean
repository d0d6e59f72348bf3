import Mathlib.Algebra.Group.Nat.Defs
import Mathlib.Data.Nat.Notation

/-!
The return values of the module, its numbers for slots and the states of a session.
-/

namespace SoftHSM

abbrev CK_SLOT_ID := ℕ

abbrev CK_FLAGS := UInt64

def CK_UNAVAILABLE_INFORMATION : ℕ := 2 ^ 64 - 1

inductive CK_RV
  | CKR_OK
  | CKR_SLOT_ID_INVALID
  | CKR_GENERAL_ERROR
  | CKR_FUNCTION_FAILED
  | CKR_ARGUMENTS_BAD
  | CKR_ACTION_PROHIBITED
  | CKR_DEVICE_ERROR
  | CKR_FUNCTION_NOT_SUPPORTED
  | CKR_OBJECT_HANDLE_INVALID
  | CKR_OPERATION_ACTIVE
  | CKR_PIN_INCORRECT
  | CKR_PIN_LEN_RANGE
  | CKR_PIN_LOCKED
  | CKR_SESSION_HANDLE_INVALID
  | CKR_SESSION_PARALLEL_NOT_SUPPORTED
  | CKR_SESSION_READ_ONLY
  | CKR_SESSION_EXISTS
  | CKR_SESSION_READ_ONLY_EXISTS
  | CKR_SESSION_READ_WRITE_SO_EXISTS
  | CKR_TEMPLATE_INCONSISTENT
  | CKR_TOKEN_NOT_PRESENT
  | CKR_TOKEN_NOT_RECOGNIZED
  | CKR_USER_ALREADY_LOGGED_IN
  | CKR_USER_ANOTHER_ALREADY_LOGGED_IN
  | CKR_USER_NOT_LOGGED_IN
  | CKR_USER_PIN_NOT_INITIALIZED
  | CKR_USER_TYPE_INVALID
  | CKR_OPERATION_NOT_INITIALIZED
  | CKR_FUNCTION_REJECTED
  | CKR_CRYPTOKI_NOT_INITIALIZED
  | CKR_NO_EVENT
  | CKR_BUFFER_TOO_SMALL
  | CKR_ATTRIBUTE_READ_ONLY
  | CKR_ATTRIBUTE_SENSITIVE
  | CKR_ATTRIBUTE_TYPE_INVALID
  | CKR_ATTRIBUTE_VALUE_INVALID
  | CKR_TEMPLATE_INCOMPLETE
  | CKR_KEY_FUNCTION_NOT_PERMITTED
  | CKR_KEY_HANDLE_INVALID
  | CKR_MECHANISM_INVALID
  | CKR_UNWRAPPING_KEY_HANDLE_INVALID
  | CKR_DATA_INVALID
  | CKR_DATA_LEN_RANGE
  | CKR_SIGNATURE_INVALID
  | CKR_CERT_CHAIN_NOT_VERIFIED
  | CKR_KEY_TYPE_INCONSISTENT
  | CKR_KEY_INDIGESTIBLE
  | CKR_KEY_UNEXTRACTABLE
  | CKR_KEY_NOT_WRAPPABLE
  | CKR_WRAPPING_KEY_HANDLE_INVALID
  | CKR_WRAPPING_KEY_TYPE_INCONSISTENT
  | CKR_UNWRAPPING_KEY_TYPE_INCONSISTENT
  | CKR_MECHANISM_PARAM_INVALID
  | CKR_KEY_SIZE_RANGE
  | CKR_WRAPPED_KEY_INVALID
  | CKR_WRAPPED_KEY_LEN_RANGE
  | CKR_ENCRYPTED_DATA_INVALID
  | CKR_ENCRYPTED_DATA_LEN_RANGE
  | CKR_HOST_MEMORY
  | CKR_SIGNATURE_LEN_RANGE
  deriving DecidableEq

/-- The states of a session. -/
inductive CK_STATE
  | CKS_RO_PUBLIC_SESSION
  | CKS_RO_USER_FUNCTIONS
  | CKS_RW_PUBLIC_SESSION
  | CKS_RW_USER_FUNCTIONS
  | CKS_RW_SO_FUNCTIONS
  deriving DecidableEq

end SoftHSM
