import StructScript.Go.Flaw
import StructScript.Main
import StructScript.Proofs.CompanionNames
import StructScript.Proofs.DistinctNames
import StructScript.Proofs.ExpansionOnce
import StructScript.Proofs.FaultIsolation
import StructScript.Proofs.OwnNames
import StructScript.Proofs.OwnSource
import StructScript.Proofs.References
import StructScript.Proofs.Scopes
import StructScript.Proofs.ScriptMeaning
import StructScript.Proofs.SecondRun
import StructScript.Proofs.SourceAccounts
import StructScript.Proofs.TagGrammar
import StructScript.Proofs.ActionOutcomes
import StructScript.Proofs.ExitStatus
import StructScript.Proofs.ExpansionOutcomes
import StructScript.Proofs.TagLiterals
import StructScript.Proofs.CompanionScope
import StructScript.Proofs.BoundNames
import StructScript.Proofs.DroppedFields
import StructScript.Proofs.LineLayout
import StructScript.Proofs.GroupedNames
import StructScript.Proofs.PropertyNames
import StructScript.Proofs.ScalarPrecedence
import StructScript.Proofs.FailedSources
import StructScript.Proofs.ImportGroups
import StructScript.Proofs.FirstFlaw
import StructScript.Proofs.ImportPrograms
