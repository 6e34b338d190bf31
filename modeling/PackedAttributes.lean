import PackedAttributes.DirectoryReader
import PackedAttributes.Fetch
import PackedAttributes.Kernel.StoredObject
import PackedAttributes.Main
import PackedAttributes.Proofs.CompleteEntries
import PackedAttributes.Proofs.DirectoryBatches
import PackedAttributes.Proofs.FetchProtocol
import PackedAttributes.Proofs.RecordDecoding
import PackedAttributes.Proofs.RecordHeader
import PackedAttributes.Proofs.RecordPacking
import PackedAttributes.Proofs.RequestInvariants
import PackedAttributes.Proofs.StoredObjectFetch
import PackedAttributes.Proofs.SelectionFolding
import PackedAttributes.Proofs.UnknownAttributes
import PackedAttributes.Proofs.PresentValues
import PackedAttributes.Proofs.DirectoryReading
import PackedAttributes.Proofs.InlineSpelling
import PackedAttributes.Proofs.TextDecoding
import PackedAttributes.Proofs.ValueShapes
import PackedAttributes.Proofs.ReferenceRange
import PackedAttributes.Proofs.SetMembership
import PackedAttributes.Proofs.FinderInfoShape
import PackedAttributes.Proofs.EntryErrors
import PackedAttributes.Proofs.SelectionOrder
import PackedAttributes.Proofs.TimespecInstant
import PackedAttributes.Proofs.SelectorChoice
import PackedAttributes.Proofs.ListingLines
import PackedAttributes.Proofs.DecodeTrace
import PackedAttributes.Proofs.LoggingSetup
import PackedAttributes.Proofs.BatchSplitting
