import ChainRisk.Main
import ChainRisk.Proofs.AddressGate
import ChainRisk.Proofs.AddressSearch
import ChainRisk.Proofs.Agreement
import ChainRisk.Proofs.Blame
import ChainRisk.Proofs.EnvelopeStatus
import ChainRisk.Proofs.Evidence
import ChainRisk.Proofs.OpenReads
import ChainRisk.Proofs.PlannedReads
import ChainRisk.Proofs.Rejection
import ChainRisk.Proofs.RequestCounts
import ChainRisk.Proofs.Sessions
import ChainRisk.Proofs.SlotProbing
import ChainRisk.Proofs.TokenIsolation
import ChainRisk.Proofs.DerivedParts
import ChainRisk.Proofs.AmountDigits
import ChainRisk.Proofs.WrittenNumbers
import ChainRisk.Proofs.WrittenText
import ChainRisk.Proofs.WrittenValues
import ChainRisk.Proofs.OptionPlaces
import ChainRisk.Proofs.OutputModes
import ChainRisk.Proofs.Padding
import ChainRisk.Proofs.Lines
import ChainRisk.Proofs.VisibleText
import ChainRisk.Proofs.RefusedSettings
import ChainRisk.Proofs.KeptSecrets
import ChainRisk.Proofs.ReportLines
import ChainRisk.Proofs.AdmittedAmounts
import ChainRisk.Proofs.MarkerDigits
import ChainRisk.Proofs.SpenderLookups
import ChainRisk.Proofs.UncountedDates
import ChainRisk.Proofs.CountedRuns
