import MergeMessage.Main
import MergeMessage.Proofs.Subjects
import MergeMessage.Proofs.LintGrammar
import MergeMessage.Proofs.ContextHistory
import MergeMessage.Proofs.Outcomes
import MergeMessage.Proofs.TicketKept
import MergeMessage.Proofs.Lowercase
import MergeMessage.Proofs.TicketRemoval
import MergeMessage.Proofs.TidyParts
import MergeMessage.Proofs.TidySubject
import MergeMessage.Proofs.TidiedPasses
import MergeMessage.Proofs.Advice
import MergeMessage.Proofs.OneBackend
import MergeMessage.Proofs.TicketMoved
import MergeMessage.Proofs.CleanMessages
import MergeMessage.Proofs.Sessions
import MergeMessage.Proofs.Downloads
import MergeMessage.Proofs.Verdicts
import MergeMessage.Proofs.GivenOptions
import MergeMessage.Proofs.SettingsSources
import MergeMessage.Proofs.BaseAddresses
import MergeMessage.Proofs.Lockstep
import MergeMessage.Proofs.DaemonVisits
import MergeMessage.Proofs.WorldRecords
import MergeMessage.Proofs.KeptMessages
import MergeMessage.Proofs.BlankMessages
import MergeMessage.Proofs.Octets
import MergeMessage.Proofs.LineEnds
import MergeMessage.Proofs.KeptVerdicts
import MergeMessage.Proofs.EarliestTickets
import MergeMessage.Proofs.InventedTickets
import MergeMessage.Proofs.WrappedReplies
import MergeMessage.Proofs.RemoteReplies
import MergeMessage.Proofs.BlankDescriptions
import MergeMessage.Proofs.BlankedWords
import MergeMessage.Proofs.DescriptionStyle
import MergeMessage.Proofs.SettledSubjects
import MergeMessage.Proofs.OffPullRequests
import MergeMessage.Proofs.LineVerdicts
import MergeMessage.Proofs.MessageSources
import MergeMessage.Proofs.PlainHosts
import MergeMessage.Proofs.PlainAddresses
import MergeMessage.Proofs.PullRequestKeys
import MergeMessage.Proofs.MessageLines
import MergeMessage.Proofs.PromptParts
import MergeMessage.Proofs.TicketTitles
import MergeMessage.Proofs.SnapshotTexts
import MergeMessage.Proofs.ModelReadiness
import MergeMessage.Proofs.StreamRuns
import MergeMessage.Proofs.BaseSpellings
import MergeMessage.Proofs.FirstLetters
import MergeMessage.Proofs.Excerpts
