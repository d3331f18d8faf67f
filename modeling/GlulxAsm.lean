import GlulxAsm.Main
import GlulxAsm.Proofs.Branch
import GlulxAsm.Proofs.BuildOutcome
import GlulxAsm.Proofs.Reference
import GlulxAsm.Proofs.Consistency
import GlulxAsm.Proofs.Provenance
import GlulxAsm.Proofs.Range
import GlulxAsm.Proofs.GeneratedName
import GlulxAsm.Proofs.FatalError
import GlulxAsm.Proofs.Grammar
import GlulxAsm.Proofs.LineBoundary
import GlulxAsm.Proofs.LexerStep
import GlulxAsm.Proofs.FaultRecovery
import GlulxAsm.Proofs.Printing
import GlulxAsm.Proofs.StringReader
import GlulxAsm.Proofs.Unlocated
import GlulxAsm.Proofs.UnlocatedBuild
import GlulxAsm.Proofs.IncludePath
import GlulxAsm.Proofs.Inclusion
import GlulxAsm.Proofs.LateConstant
import GlulxAsm.Proofs.Pinned
import GlulxAsm.Proofs.Accord
import GlulxAsm.Proofs.Interning
import GlulxAsm.Proofs.Outline
import GlulxAsm.Proofs.TargetConstant
import GlulxAsm.Proofs.DuplicateLabel
import GlulxAsm.Proofs.Geometry
import GlulxAsm.Proofs.FunctionHeader
import GlulxAsm.Proofs.EntryHeader
import GlulxAsm.Proofs.ResolutionProgress
import GlulxAsm.Proofs.Tampering
import GlulxAsm.Proofs.Extension
import GlulxAsm.Proofs.IncludeStack
import GlulxAsm.Proofs.StatementReport
import GlulxAsm.Proofs.IncludeError
import GlulxAsm.Proofs.LineCount
import GlulxAsm.Proofs.SectionMap
import GlulxAsm.Proofs.Literal
import GlulxAsm.Proofs.CallExpansion
import GlulxAsm.Proofs.ByteTable
