import GatewayRules.Main
import GatewayRules.Proofs.AttributeWalk
import GatewayRules.Proofs.NormalEntry
import GatewayRules.Proofs.EntryReading
import GatewayRules.Proofs.WholeMessage
import GatewayRules.Proofs.EntryCodec
import GatewayRules.Proofs.RepeatedSends
import GatewayRules.Proofs.History
import GatewayRules.Proofs.GatewayRun
import GatewayRules.Proofs.Provenance
import GatewayRules.Proofs.DumpDelivery
import GatewayRules.Proofs.SoundRule
import GatewayRules.Proofs.AttributeGrammar
import GatewayRules.Proofs.CutDatagram
import GatewayRules.Proofs.EntryGrammar
import GatewayRules.Proofs.FreshRequest
import GatewayRules.Proofs.CutDump
import GatewayRules.Proofs.AttributeMeaning
import GatewayRules.Proofs.RearrangedMessage
import GatewayRules.Proofs.CanonicalEntry
import GatewayRules.Proofs.NumberText
import GatewayRules.Proofs.TextParts
import GatewayRules.Proofs.ArgumentScan
import GatewayRules.Proofs.DescriptorText
import GatewayRules.Proofs.RuleWords
import GatewayRules.Proofs.PrintedRule
import GatewayRules.Proofs.EquivalentTraffic
import GatewayRules.Proofs.RuleRequests
import GatewayRules.Proofs.DescribedOptions
import GatewayRules.Proofs.PrintedLines
import GatewayRules.Proofs.CommandConduct
import GatewayRules.Proofs.MessageBoundaries
import GatewayRules.Proofs.WireLayout
import GatewayRules.Proofs.SignificantBytes
import GatewayRules.Proofs.IgnoredBytes
import GatewayRules.Proofs.DecisiveBytes
import GatewayRules.Proofs.DatagramWalks
import GatewayRules.Proofs.InterruptedCalls
import GatewayRules.Proofs.InterruptionsInARow
import GatewayRules.Proofs.AddedFunctions
import GatewayRules.Proofs.UnitedTargets
import GatewayRules.Proofs.BuiltRule
import GatewayRules.Proofs.NumberGrammar
import GatewayRules.Proofs.ModificationGrammar
import GatewayRules.Proofs.EarlyChecks
import GatewayRules.Proofs.InterfaceNames
import GatewayRules.Proofs.AttributeLimit
import GatewayRules.Proofs.ExchangeLog
import GatewayRules.Proofs.LogLines
import GatewayRules.Proofs.MessageAssembly
