import SoftHSM.HandleMgr.Remove
import SoftHSM.HandleMgr.Runs
import SoftHSM.DataMgr.SecureDataManager
import SoftHSM.DataMgr.MasterKey
import SoftHSM.Cryptoki
import SoftHSM.SlotMgr.PinPolicy
import SoftHSM.Lib.Optimistic
import SoftHSM.SlotMgr.LocalPin
import SoftHSM.ObjectStore.OSToken
import SoftHSM.ObjectStore.IndexRuns
import SoftHSM.HandleMgr.Released
import SoftHSM.HandleMgr.Listed
import SoftHSM.ObjectStore.SessionObjectStore
import SoftHSM.ObjectStore.References
import SoftHSM.Lib.RecordFile
import SoftHSM.ObjectStore.TokenObject
import SoftHSM.SlotMgr.InitPolicy
import SoftHSM.SlotMgr.Token
import SoftHSM.SlotMgr.PolicySteps
import SoftHSM.SlotMgr.PolicyRuns
import SoftHSM.SessionMgr.SessionManager
import SoftHSM.SlotMgr.LoginState
import SoftHSM.SlotMgr.LoginKept
import SoftHSM.Library.Calls
import SoftHSM.Library.Effects
import SoftHSM.Library.Logins
import SoftHSM.Library.Housed
import SoftHSM.Library.PrivateObjects
import SoftHSM.Library.SlotEvents
import SoftHSM.Lib.OrderedMap
import SoftHSM.SlotMgr.SlotManager
import SoftHSM.Lib.Ranking
import SoftHSM.Library.Facade
import SoftHSM.Lib.Checked
import SoftHSM.Lib.Codec
import SoftHSM.ObjectStore.File
import SoftHSM.ObjectStore.ObjectFile
import SoftHSM.ObjectStore.Transaction
import SoftHSM.Lib.Tlv
import SoftHSM.Library.Journal
import SoftHSM.Library.P11Attributes
import SoftHSM.Library.P11Objects
import SoftHSM.Library.Kinds
import SoftHSM.Library.Search
import SoftHSM.Library.Secrecy
import SoftHSM.Library.SearchAgrees
import SoftHSM.Library.Enumerations
import SoftHSM.Library.Create
import SoftHSM.Library.MakeKeys
import SoftHSM.Library.Settled
import SoftHSM.Library.Atomic
import SoftHSM.Library.Plans
import SoftHSM.Library.Creations
import SoftHSM.Library.Flags
import SoftHSM.Library.Changes
import SoftHSM.Library.Outcomes
import SoftHSM.Library.Copying
import SoftHSM.Library.OneWay
import SoftHSM.Library.History
import SoftHSM.Library.Origins
import SoftHSM.Library.Histories
import SoftHSM.Library.KeyHistory
import SoftHSM.Lib.Rows
import SoftHSM.ObjectStore.DBObject
import SoftHSM.ObjectStore.DBRuns
import SoftHSM.ObjectStore.Grammar
import SoftHSM.Library.Refused
import SoftHSM.Lib.Pursuit
import SoftHSM.RutokenCMS.Chain
import SoftHSM.Lib.Ledger
import SoftHSM.RutokenCMS.VerifyStates
import SoftHSM.RutokenCMS.VerifyRuns
import SoftHSM.Library.KeyUse
import SoftHSM.Library.MechanismPolicy
import SoftHSM.Library.KeyKinds
import SoftHSM.Library.KeysUsed
import SoftHSM.Lib.Xor
import SoftHSM.Lib.Memory
import SoftHSM.Crypto.Kuznechik
import SoftHSM.Lib.BinaryField
import SoftHSM.Lib.Counter
import SoftHSM.Crypto.Mgm
import SoftHSM.Crypto.MgmTag
import SoftHSM.Library.DeriveGOSTKDF
import SoftHSM.Lib.Numeral
import SoftHSM.Crypto.DerUtil
import SoftHSM.SlotMgr.SlotList
import SoftHSM.ObjectStore.MapLength
import SoftHSM.Library.CipherSizes
import SoftHSM.Library.CipherFits
import SoftHSM.Lib.Access
import SoftHSM.Library.Unwrapping
import SoftHSM.Library.UnwrapTotal
import SoftHSM.Library.Wrapping
import SoftHSM.Library.GostWrapping
import SoftHSM.Library.WrapRoundTrip
import SoftHSM.Library.WrapTemplates
import SoftHSM.Library.Retrieval
import SoftHSM.Library.ThreeCalls
import SoftHSM.Library.UnwrapTemplates
import SoftHSM.Library.UnwrappedKeys
import SoftHSM.Library.KeyTemplates
import SoftHSM.Lib.Feistel
import SoftHSM.Lib.Chained
import SoftHSM.Crypto.GOST28147
import SoftHSM.Crypto.GOST28147MacAlgorithm
import SoftHSM.Crypto.GOSTSymmetric
import SoftHSM.Crypto.GOST28147Algorithm
import SoftHSM.Crypto.GOSTSymmetricAlgorithm
import SoftHSM.Crypto.MeshingModes
import SoftHSM.Crypto.CounterLimits
import SoftHSM.Lib.PrimeOrder
import SoftHSM.Lib.Certificate
import SoftHSM.Crypto.BotanGOSTCurves
import SoftHSM.Crypto.BotanGOST2012Signer
import SoftHSM.Crypto.BotanGOST2012KEG
import SoftHSM.Lib.Der
import SoftHSM.RutokenCMS.Encoding
import SoftHSM.ObjectStore.MapDecoder
import SoftHSM.ObjectStore.MapCodec
import SoftHSM.Lib.Text
import SoftHSM.Common.SimpleConfigLoader
import SoftHSM.Common.ConfigLines
import SoftHSM.RutokenCMS.SignedData
import SoftHSM.RutokenCMS.GostCms
import SoftHSM.RutokenCMS.GostMessage
import SoftHSM.RutokenCMS.GostEnvelopes
import SoftHSM.Crypto.KeySerialisation
import SoftHSM.Common.InstallFile
import SoftHSM.Crypto.DiffieHellman
import SoftHSM.Crypto.OSSLRSA
import SoftHSM.Library.Destroy
import SoftHSM.SlotMgr.Creation
import SoftHSM.SlotMgr.HalfMade
import SoftHSM.Lib.Rewinding
import SoftHSM.Lib.Handlers
import SoftHSM.ObjectStore.Backends
import SoftHSM.ObjectStore.BackendSteps
import SoftHSM.ObjectStore.BackendsAgree
import SoftHSM.Lib.Blocks
import SoftHSM.Dump.DumpFile
import SoftHSM.Dump.RawFile
import SoftHSM.Dump.Printed
import SoftHSM.Dump.WholeFiles
import SoftHSM.Dump.Stumps
import SoftHSM.Dump.DumpAgrees
import SoftHSM.Lib.SharedRecord
import SoftHSM.SlotMgr.SharedToken
import SoftHSM.SlotMgr.SharedSteps
import SoftHSM.SlotMgr.SharedPins
import SoftHSM.Lib.Allowance
import SoftHSM.SlotMgr.SharedAttempts
import SoftHSM.Library.Activities
import SoftHSM.Library.AlwaysAuthenticate
