import RootCatalog.Export
import RootCatalog.FileEntry.Document
import RootCatalog.RootFile.Handler
import RootCatalog.Script
import RootCatalog.Session.Table
import RootCatalog.Text.Utf8.Lemmas
import RootCatalog.Tree
import RootCatalog.Proofs.Text.Utf8
import RootCatalog.Proofs.RootFile.Format
import RootCatalog.Proofs.Run.Account
import RootCatalog.Proofs.Session.Guards
import RootCatalog.Proofs.Enumeration.CallOrder
import RootCatalog.Proofs.Export.Answer
import RootCatalog.Proofs.ResultSet.Room
import RootCatalog.Proofs.Export.RootFileReply
import RootCatalog.Proofs.Export.Teardown
import RootCatalog.Proofs.Tree.Insertion
import RootCatalog.Proofs.Tree.View
import RootCatalog.Proofs.Tree.Entries
import RootCatalog.Proofs.Tree.Lookup
import RootCatalog.Proofs.Session.Table
import RootCatalog.Proofs.Session.Use
import RootCatalog.Proofs.Enumeration.Outcome
import RootCatalog.Proofs.Export.Agreement
import RootCatalog.Proofs.Log.Delivery
import RootCatalog.Proofs.Run.Unswayed
import RootCatalog.Proofs.Enumeration.Events
import RootCatalog.Proofs.Export.Logging
import RootCatalog.Proofs.Session.Admission
import RootCatalog.Proofs.Text.Hex
import RootCatalog.Proofs.Json.Strings
import RootCatalog.Proofs.Json.Numbers
import RootCatalog.Proofs.Mask.Scan
import RootCatalog.Proofs.Path.Segments
import RootCatalog.Proofs.Path.NormalForm
import RootCatalog.Proofs.Tree.Listing
import RootCatalog.Proofs.Tree.Permutation
import RootCatalog.Proofs.RootFile.Damage
import RootCatalog.Proofs.Enumeration.StrictCount
import RootCatalog.Proofs.Export.EquivalentMasks
import RootCatalog.Proofs.Enumeration.SingleUse
import RootCatalog.Proofs.ResultSet.Contents
import RootCatalog.Proofs.RootFile.Answers
import RootCatalog.Proofs.ContentKey.Codec
import RootCatalog.Proofs.Json.Values
import RootCatalog.Proofs.Json.Objects
import RootCatalog.Proofs.Json.Documents
