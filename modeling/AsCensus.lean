import AsCensus.Main
import AsCensus.Proofs.DumpImport
import AsCensus.Proofs.TransitMethods
import AsCensus.Proofs.ObjectEnd
import AsCensus.Proofs.PathRun
import AsCensus.Proofs.LastObject
import AsCensus.Proofs.OwnerObject
import AsCensus.Proofs.DumpBlocks
import AsCensus.Proofs.WhoisRun
import AsCensus.Proofs.NamedSystems
import AsCensus.Proofs.FailedSteps
import AsCensus.Proofs.OwnTables
import AsCensus.Proofs.CleanedPaths
import AsCensus.Proofs.LossyText
import AsCensus.Proofs.StoredCounts
import AsCensus.Proofs.DecodedLines
import AsCensus.Proofs.FirstReply
import AsCensus.Proofs.RouteKeys
import AsCensus.Proofs.OriginCounts
import AsCensus.Proofs.TransitCounts
import AsCensus.Proofs.PooledCounts
import AsCensus.Proofs.WorkerShares
import AsCensus.Proofs.WriterAccounts
import AsCensus.Proofs.StoredRecords
import AsCensus.Proofs.WalkLists
import AsCensus.Proofs.AssembledTallies
import AsCensus.Proofs.CompletedRecords
import AsCensus.Proofs.DroppedTables
import AsCensus.Proofs.SanitizedValues
import AsCensus.Proofs.UnquotedTables
import AsCensus.Proofs.LayeredSettings
