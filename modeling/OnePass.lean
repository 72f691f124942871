import OnePass.Main
import OnePass.Proofs.CallFiles
import OnePass.Proofs.CallListing
import OnePass.Proofs.CallSequence
import OnePass.Proofs.CheckedAccess
import OnePass.Proofs.Concatenation
import OnePass.Proofs.DamagedFile
import OnePass.Proofs.DeclarationHistory
import OnePass.Proofs.FirstFault
import OnePass.Proofs.GivenMnemonics
import OnePass.Proofs.LimitOption
import OnePass.Proofs.LineEdits
import OnePass.Proofs.LineEndings
import OnePass.Proofs.Respelling
import OnePass.Proofs.StaleResults
import OnePass.Proofs.UsableHints
import OnePass.Proofs.GrowingTable
import OnePass.Proofs.RelaxedLimits
import OnePass.Proofs.SpanLanguage
import OnePass.Proofs.LineGrammar
import OnePass.Proofs.LeastEdits
import OnePass.Proofs.TypingSlips
import OnePass.Proofs.SizedMnemonics
import OnePass.Proofs.NormalLines
import OnePass.Proofs.RunLog
import OnePass.Proofs.NamedLines
