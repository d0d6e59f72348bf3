import Mathlib.Algebra.Group.Int.Defs
import SoftHSM.Lib.Text
import SoftHSM.SlotMgr.InitPolicy

/-!
The configuration and its loader. The loader reads the file with `fgets` into a buffer of 1024
characters, ends what it has read at the first of a comment, a line break and a zero byte, and
takes two tokens of it at the equality signs.
-/

namespace SoftHSM

/-- The bytes of a text in the source. -/
def bytesOf (text : String) : ByteString := text.toList.map fun c => UInt8.ofNat c.toNat

/-! ### Configuration -/

inductive ConfigType
  | CONFIG_TYPE_UNSUPPORTED
  | CONFIG_TYPE_STRING
  | CONFIG_TYPE_INT
  | CONFIG_TYPE_INT_OCTAL
  | CONFIG_TYPE_BOOL
  deriving DecidableEq

open ConfigType

structure Configuration where
  stringConfiguration : ByteString → Option ByteString
  integerConfiguration : ByteString → Option Int32
  booleanConfiguration : ByteString → Option Bool

namespace Configuration

def valid_config : List (ByteString × ConfigType) :=
  [(bytesOf "directories.tokendir", CONFIG_TYPE_STRING),
    (bytesOf "objectstore.backend", CONFIG_TYPE_STRING),
    (bytesOf "objectstore.umask", CONFIG_TYPE_INT_OCTAL),
    (bytesOf "log.level", CONFIG_TYPE_STRING),
    (bytesOf "log.file", CONFIG_TYPE_STRING),
    (bytesOf "slots.removable", CONFIG_TYPE_BOOL),
    (bytesOf "slots.mechanisms", CONFIG_TYPE_STRING),
    (bytesOf "library.reset_on_fork", CONFIG_TYPE_BOOL),
    (bytesOf "FAKE_RUTOKEN_ECP", CONFIG_TYPE_BOOL),
    (bytesOf "RUTOKEN_FORCE_SENSITIVE", CONFIG_TYPE_BOOL),
    (bytesOf "DISABLE_OTHER_28147_MODES", CONFIG_TYPE_BOOL)]

def getType (key : ByteString) : ConfigType :=
  match valid_config.find? (·.1 = key) with
  | some (_, type) => type
  | none => CONFIG_TYPE_UNSUPPORTED

def empty : Configuration := ⟨fun _ => none, fun _ => none, fun _ => none⟩

def setString (key value : ByteString) (c : Configuration) : Configuration :=
  { c with stringConfiguration := Function.update c.stringConfiguration key (some value) }

def setInt (key : ByteString) (value : Int32) (c : Configuration) : Configuration :=
  { c with integerConfiguration := Function.update c.integerConfiguration key (some value) }

def setBool (key : ByteString) (value : Bool) (c : Configuration) : Configuration :=
  { c with booleanConfiguration := Function.update c.booleanConfiguration key (some value) }

end Configuration

/-! ### Values -/

/-- The number that the leading digits of a base say. -/
def digitsValue (base : ℕ) (s : ByteString) : ℕ :=
  (s.takeWhile fun c => isdigit c && c.toNat - 48 < base).foldl
    (fun n c => base * n + (c.toNat - 48)) 0

/-- `strtol(s, NULL, base)`, which stays at the last `long` where the number does not fit. -/
def strtol (base : ℕ) (s : ByteString) : Int :=
  match s.dropWhile isspace with
  | 45 :: s => max (-2 ^ 63) (-(digitsValue base s : Int))
  | 43 :: s => min (2 ^ 63 - 1) (digitsValue base s : Int)
  | s => min (2 ^ 63 - 1) (digitsValue base s : Int)

/-- `atoi`: a `long` as an `int`. -/
def atoi (s : ByteString) : Int32 := Int32.ofInt (strtol 10 s)

def tolower (c : UInt8) : UInt8 := if 65 ≤ c && c ≤ 90 then c + 32 else c

namespace SimpleConfigLoader

def string2bool (stringValue : ByteString) : Option Bool :=
  let lower := stringValue.map tolower
  if lower = bytesOf "true" then some true
  else if lower = bytesOf "false" then some false
  else none

def isPathSeparator (c : UInt8) : Bool := c = 47 || c = 92

def joinPath (directory name : ByteString) : ByteString :=
  if directory = [] || directory = bytesOf "." then bytesOf "./" ++ name
  else if (directory.getLast?.map isPathSeparator).getD false then directory ++ name
  else directory ++ bytesOf "/" ++ name

def isAbsolutePath (path : ByteString) : Bool := path.head? = some 47

def trimString (text : ByteString) : Option ByteString := Text.trim isspace text

/-! ### The loader -/

def newline : UInt8 := 10

def carriageReturn : UInt8 := 13

def hash : UInt8 := 35

def equals : UInt8 := 61

/-- `sizeof(fileBuf)`. -/
def bufferSize : ℕ := 1024

/-- What `fgets` puts into the buffer at most, before the zero byte. -/
def pieceLength : ℕ := bufferSize - 1

instance : NeZero pieceLength := ⟨by decide⟩

/-- The string in the buffer, ended at the first comment or newline. -/
def ended (fileBuf : ByteString) : ByteString :=
  fileBuf.takeWhile fun c => c ≠ 0 && c ≠ hash && c ≠ newline && c ≠ carriageReturn

/-- The name and the value in the buffer, where its format is not bad. -/
def parse (fileBuf : ByteString) : Option (ByteString × ByteString) := do
  let (name, rest) ← Text.strtok equals (ended fileBuf)
  let trimmedName ← trimString name
  let (value, _) ← Text.strtok equals rest
  let trimmedValue ← trimString value
  return (trimmedName, trimmedValue)

/-- The value of a name of the type string. -/
def resolved (configDirectory stringName stringValue : ByteString) : ByteString :=
  if stringName = bytesOf "directories.tokendir" && !isAbsolutePath stringValue then
    joinPath configDirectory stringValue
  else stringValue

/-- What is set for a name and a value. -/
def save (configDirectory : ByteString) (c : Configuration) (setting : ByteString × ByteString) :
    Configuration :=
  let (stringName, stringValue) := setting
  match Configuration.getType stringName with
  | CONFIG_TYPE_STRING => c.setString stringName (resolved configDirectory stringName stringValue)
  | CONFIG_TYPE_INT => c.setInt stringName (atoi stringValue)
  | CONFIG_TYPE_INT_OCTAL => c.setInt stringName (Int32.ofInt (strtol 8 stringValue))
  | CONFIG_TYPE_BOOL =>
    match string2bool stringValue with
    | some boolValue => c.setBool stringName boolValue
    | none => c
  | CONFIG_TYPE_UNSUPPORTED => c

/-- The loop over what `fgets` reads of an open file. -/
def loadConfiguration (configDirectory file : ByteString) (c : Configuration) : Configuration :=
  (Text.reads newline pieceLength file).foldl
    (fun c fileBuf =>
      match parse fileBuf with
      | some setting => save configDirectory c setting
      | none => c) c

end SimpleConfigLoader
end SoftHSM
