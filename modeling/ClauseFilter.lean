import ClauseFilter.Configuration.Files
import ClauseFilter.Proofs.Meaning
import ClauseFilter.Proofs.NestingLimit
import ClauseFilter.QueryLog
import ClauseFilter.Proofs.Irrelevance
import ClauseFilter.Proofs.MemberOrder
import ClauseFilter.Proofs.MinimumInEffect
import ClauseFilter.Proofs.Respelling
import ClauseFilter.Proofs.FirstFault
import ClauseFilter.Proofs.LogReading
import ClauseFilter.Proofs.LogRuns
import ClauseFilter.Proofs.UniqueReading
import ClauseFilter.Proofs.TypedReading
import ClauseFilter.Proofs.StoredFiles
import ClauseFilter.Proofs.SavedConfiguration
import ClauseFilter.Proofs.WrapperChain
import ClauseFilter.Proofs.PatternMatching
import ClauseFilter.Proofs.EasySearches
import ClauseFilter.Proofs.TrailingStars
import ClauseFilter.Proofs.SingleLine
import ClauseFilter.Proofs.RecordLines
import ClauseFilter.Proofs.HonouredMinimum
import ClauseFilter.Proofs.PrintedNumbers
import ClauseFilter.Proofs.Layouts
import ClauseFilter.Proofs.PartReading
import ClauseFilter.Proofs.SavedPredicate
import ClauseFilter.Proofs.SoundReading
import ClauseFilter.Proofs.RecordMembers
import ClauseFilter.Proofs.ConfigurationMembers
import ClauseFilter.Proofs.PrintedValues
import ClauseFilter.Proofs.SchemaValidity
import ClauseFilter.Proofs.ConfigurationSchema
