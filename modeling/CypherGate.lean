import CypherGate.Connection.Scheme
import CypherGate.Connection.Tally
import CypherGate.Main
import CypherGate.Sort.Adaptive
import CypherGate.Proofs.FirstCall
import CypherGate.Proofs.Together
import CypherGate.Proofs.Vetting
import CypherGate.Proofs.Custody
import CypherGate.Proofs.SharedCustody
import CypherGate.Proofs.Ownership
import CypherGate.Proofs.Verdicts
import CypherGate.Proofs.Faithful
import CypherGate.Proofs.Rounding
import CypherGate.Proofs.ShortestDecimal
import CypherGate.Proofs.NumberText
import CypherGate.Proofs.JsonStrings
import CypherGate.Proofs.KeyedTrees
import CypherGate.Proofs.JsonStarts
import CypherGate.Proofs.JsonText
import CypherGate.Proofs.Lossless
import CypherGate.Proofs.RuleLanguage
import CypherGate.Proofs.Histories
import CypherGate.Proofs.LogTrail
import CypherGate.Proofs.JsonDocuments
import CypherGate.Proofs.LetterCase
import CypherGate.Proofs.NormalForm
import CypherGate.Proofs.OpeningCall
import CypherGate.Proofs.Extension
import CypherGate.Proofs.NameGrammar
import CypherGate.Proofs.Causes
import CypherGate.Proofs.Ranking
import CypherGate.Proofs.ElementIds
import CypherGate.Proofs.FormParts
import CypherGate.Proofs.EntityIdentities
import CypherGate.Proofs.PlainTrees
import CypherGate.Proofs.PathChains
import CypherGate.Proofs.NumberedEntities
import CypherGate.Proofs.SampleSchema
import CypherGate.Proofs.SuccessiveExtensions
import CypherGate.Proofs.SettingReports
import CypherGate.Proofs.DatabaseUris
