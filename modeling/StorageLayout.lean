import StorageLayout.Main
import StorageLayout.Proofs.Comparison.Copies
import StorageLayout.Proofs.Comparison.Lists
import StorageLayout.Proofs.Comparison.Verdict
import StorageLayout.Proofs.Layout.Packing
import StorageLayout.Proofs.Layout.Calculated
import StorageLayout.Proofs.Upgrade.Appending
import StorageLayout.Proofs.Comparison.Partition
import StorageLayout.Proofs.Comparison.Encounters
import StorageLayout.Proofs.Comparison.Agreement
import StorageLayout.Proofs.Upgrade.Unchanged
import StorageLayout.Proofs.Upgrade.Reordering
import StorageLayout.Proofs.Comparison.DistinctNames
import StorageLayout.Proofs.Exchange.Document
import StorageLayout.Proofs.Upgrade.Signals
import StorageLayout.Proofs.Comparison.SelfComparison
import StorageLayout.Proofs.Upgrade.Judgement
import StorageLayout.Proofs.TypeName.Canonical
import StorageLayout.Proofs.SolidityType.Respelling
import StorageLayout.Proofs.Comparison.Reversal
import StorageLayout.Proofs.Upgrade.Reversal
import StorageLayout.Proofs.Comparison.Versions
import StorageLayout.Proofs.Exchange.DocumentRoundTrip
import StorageLayout.Proofs.Exchange.LayoutRoundTrip
import StorageLayout.Proofs.Layout.Optimality
import StorageLayout.Proofs.CommandLine.ExitCodes
import StorageLayout.Proofs.Layout.Shifting
import StorageLayout.Proofs.Upgrade.Insertion
import StorageLayout.Proofs.Upgrade.Replacement
import StorageLayout.Proofs.Layout.Density
import StorageLayout.Proofs.Layout.Overfills
import StorageLayout.Proofs.Comparison.SharedBytes
import StorageLayout.Proofs.TypeName.Equivalence
import StorageLayout.Proofs.SolidityType.Table
import StorageLayout.Proofs.SolidityType.Rendering
import StorageLayout.Proofs.Exchange.FirstFaults
import StorageLayout.Proofs.Upgrade.ListingOrder
import StorageLayout.Proofs.Layout.Growth
import StorageLayout.Proofs.Layout.SharedSlots
import StorageLayout.Proofs.SolidityType.TidyNames
