import Highlighter.Host.Handle
import Highlighter.Main
import Highlighter.Proofs.Matches
import Highlighter.Proofs.Takes
import Highlighter.Proofs.Runs
import Highlighter.Proofs.Coverage
import Highlighter.Proofs.StackDepth
import Highlighter.Proofs.Replay
import Highlighter.Proofs.AlbaRules
import Highlighter.Proofs.BlockComments
import Highlighter.Proofs.Greedy
import Highlighter.Proofs.AlbaPatterns
import Highlighter.Proofs.AlbaScanner
import Highlighter.Proofs.AlbaKeywords
import Highlighter.Proofs.AlbaContext
import Highlighter.Proofs.Registrations
import Highlighter.Proofs.Colors
import Highlighter.Proofs.StyleWords
import Highlighter.Proofs.StyleRules
import Highlighter.Proofs.StyleFaults
import Highlighter.Proofs.StyleCascade
import Highlighter.Proofs.NewerWords
import Highlighter.Proofs.CoarsestSpans
import Highlighter.Proofs.TableFaults
import Highlighter.Proofs.Kinds
import Highlighter.Proofs.Setups
import Highlighter.Proofs.HostHandles
import Highlighter.Proofs.RegistryGrowth
import Highlighter.Proofs.Priorities
import Highlighter.Proofs.LineFeeds
import Highlighter.Proofs.MaximalMunch
import Highlighter.Proofs.Hints
import Highlighter.Proofs.HostOffsets
import Highlighter.Proofs.WrittenConfigs
import Highlighter.Proofs.ColorTexts
import Highlighter.Proofs.ConfiguredRules
import Highlighter.Proofs.StyleTables
import Highlighter.Proofs.FileLookups
import Highlighter.Proofs.StackOperations
import Highlighter.Proofs.StackLog
import Highlighter.Proofs.FaultColumns
import Highlighter.Proofs.Refusals
