import DateGetters.Text.Blank
import DateGetters.Text.Pieces
import DateGetters.Text.Upper
import DateGetters.Text.Lower
import DateGetters.Text.Quoted
import DateGetters.Text.Literal
import DateGetters.Text.Digits
import DateGetters.Number.Reading
import DateGetters.Value.Entries
import DateGetters.Value.Written
import DateGetters.Config.Basic
import DateGetters.Config.Search
import DateGetters.Fault.Details
import DateGetters.Config.Load
import DateGetters.Config.Session
import DateGetters.Proofs.LiteralReading
import DateGetters.Proofs.LiteralConfinement
import DateGetters.Proofs.ColumnSelection
import DateGetters.Proofs.GetterRendering
import DateGetters.Proofs.Placeholders
import DateGetters.Proofs.GenerationOutcome
import DateGetters.Proofs.GeneratedBlock
import DateGetters.Proofs.CaseMapping
import DateGetters.Proofs.FaultOrigins
import DateGetters.Proofs.TableInterchange
import DateGetters.Proofs.RequestedNames
import DateGetters.Proofs.OptionReading
import DateGetters.Proofs.GenerationTrace
import DateGetters.Proofs.JoinedLists
import DateGetters.Proofs.GetterNames
import DateGetters.Proofs.ConfigurationRuns
import DateGetters.Proofs.LocaleInfluence
import DateGetters.Proofs.ColumnLists
import DateGetters.Proofs.AutomaticSelection
import DateGetters.Proofs.TableEvolution
import DateGetters.Proofs.OptionNormalForm
import DateGetters.Proofs.ConfigurationShape
import DateGetters.Proofs.LoadedTables
import DateGetters.Proofs.ListedNames
import DateGetters.Proofs.FormatFrames
import DateGetters.Proofs.DerivedIdentifiers
import DateGetters.Proofs.TableCoherence
import DateGetters.Proofs.SearchOrder
import DateGetters.Proofs.SlotFilling
