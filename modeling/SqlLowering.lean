import SqlLowering.Codec.Call
import SqlLowering.Codec.Encode
import SqlLowering.Expr.Children
import SqlLowering.Main
import SqlLowering.Proofs.Additions
import SqlLowering.Proofs.ApplicationName
import SqlLowering.Proofs.Batch
import SqlLowering.Proofs.CachedLengths
import SqlLowering.Proofs.CastOrigins
import SqlLowering.Proofs.CastTypes
import SqlLowering.Proofs.Commutation
import SqlLowering.Proofs.Decoding
import SqlLowering.Proofs.Descriptors
import SqlLowering.Proofs.Documents
import SqlLowering.Proofs.Failures
import SqlLowering.Proofs.History
import SqlLowering.Proofs.Identified
import SqlLowering.Proofs.InPlace
import SqlLowering.Proofs.Leaves
import SqlLowering.Proofs.Leftover
import SqlLowering.Proofs.Literals
import SqlLowering.Proofs.Lowered
import SqlLowering.Proofs.Meaning
import SqlLowering.Proofs.Modules
import SqlLowering.Proofs.Nodes
import SqlLowering.Proofs.NormalForm
import SqlLowering.Proofs.Records
import SqlLowering.Proofs.Registration
import SqlLowering.Proofs.RepeatedShifts
import SqlLowering.Proofs.Requests
import SqlLowering.Proofs.Roots
import SqlLowering.Proofs.RoundTrip
import SqlLowering.Proofs.Selections
import SqlLowering.Proofs.Sessions
import SqlLowering.Proofs.Settings
import SqlLowering.Proofs.Shifts
import SqlLowering.Proofs.ShownSettings
import SqlLowering.Proofs.Spellings
import SqlLowering.Proofs.Staging
import SqlLowering.Proofs.StoreType
import SqlLowering.Proofs.Subscripts
import SqlLowering.Proofs.Tables
import SqlLowering.Proofs.Tokens
import SqlLowering.Proofs.Tree
import SqlLowering.Proofs.Unambiguous
import SqlLowering.Proofs.Visits
import SqlLowering.Settings.InPlace
