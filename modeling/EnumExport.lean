import EnumExport.CommandLine.Command
import EnumExport.Main
import EnumExport.Proofs.Masking.Comments
import EnumExport.Proofs.Reading.Concatenation
import EnumExport.Proofs.Agreement.Strings
import EnumExport.Proofs.Agreement.Blocks
import EnumExport.Proofs.Printing.ElementBodies
import EnumExport.Proofs.Printing.MixedBodies
import EnumExport.Proofs.Generation.PrintedEnums
import EnumExport.Proofs.Offsets.Placing
import EnumExport.Proofs.Offsets.Occurrences
import EnumExport.Proofs.Reading.Braces
import EnumExport.Proofs.Reading.Declarations
import EnumExport.Proofs.Offsets.Rejection
import EnumExport.Proofs.Offsets.Levels
import EnumExport.Proofs.Offsets.Nesting
import EnumExport.Proofs.Literals.Verbatim
import EnumExport.Proofs.Offsets.Verbatim
import EnumExport.Proofs.Disk.Growth
import EnumExport.Proofs.Generation.Confinement
import EnumExport.Proofs.Generation.ReadingFirst
import EnumExport.Proofs.Generation.DryRun
import EnumExport.Proofs.Generation.Repetition
import EnumExport.Proofs.Generation.Order
import EnumExport.Proofs.Generation.Truth
import EnumExport.Proofs.Literals.Denotation
import EnumExport.Proofs.Masking.Places
import EnumExport.Proofs.Generation.Containment
import EnumExport.Proofs.Disk.Outline
import EnumExport.Proofs.Generation.Errors
import EnumExport.Proofs.CommandLine.Status
import EnumExport.Proofs.Resolution
import EnumExport.Proofs.Script.ReadBack
import EnumExport.Proofs.Attributes.Clauses
import EnumExport.Proofs.Attributes.Reading
import EnumExport.Proofs.Reading.BlockComments
import EnumExport.Proofs.Script.ConstantNames
import EnumExport.Proofs.Disk.Collection
import EnumExport.Proofs.Generation.Writing
import EnumExport.Proofs.Console.Emoji
import EnumExport.Proofs.Console.Verbatim
import EnumExport.Proofs.Console.LineNumbers
import EnumExport.Proofs.Headers.Grammar
import EnumExport.Proofs.Offsets.Closing
import EnumExport.Proofs.Headers.Recognition
import EnumExport.Proofs.Offsets.Partition
