import WorkbookTools.Main
import WorkbookTools.Request.Record
import WorkbookTools.Proofs.Instruction.Anchors
import WorkbookTools.Proofs.Instruction.Fields
import WorkbookTools.Proofs.FileSystem.Contents
import WorkbookTools.Proofs.FileSystem.Links
import WorkbookTools.Proofs.FileSystem.Resolution
import WorkbookTools.Proofs.FileSystem.Update
import WorkbookTools.Proofs.Workspace.Saving
import WorkbookTools.Proofs.Workspace.FailedEdits
import WorkbookTools.Proofs.Policy
import WorkbookTools.Proofs.Range.Read
import WorkbookTools.Proofs.Workspace.Confinement
import WorkbookTools.Proofs.Excel.Opens
import WorkbookTools.Proofs.Workspace.ConfinedOperations
import WorkbookTools.Proofs.Tool.Confinement
import WorkbookTools.Proofs.Editing.Mentions
import WorkbookTools.Proofs.Editing.Sheets
import WorkbookTools.Proofs.IndexMap
import WorkbookTools.Proofs.Workbook.Markup
import WorkbookTools.Proofs.Workbook.Reload
import WorkbookTools.Proofs.Workspace.LastMentions
import WorkbookTools.Proofs.Workbook.Readable
import WorkbookTools.Proofs.Address
import WorkbookTools.Proofs.Color
import WorkbookTools.Proofs.Style
import WorkbookTools.Proofs.Instruction.Spelling
import WorkbookTools.Proofs.Number.Integers
import WorkbookTools.Proofs.Range.Block
import WorkbookTools.Proofs.Workbook.Loaded
import WorkbookTools.Proofs.FileSystem.Shape
import WorkbookTools.Proofs.Range.Write
import WorkbookTools.Proofs.Range.WriteRead
import WorkbookTools.Proofs.Number.Notation
import WorkbookTools.Proofs.Workbook.Titles
import WorkbookTools.Proofs.Range.Overwriting
import WorkbookTools.Proofs.Workspace.ReportedEdits
import WorkbookTools.Proofs.Workspace.ExcelSessions
import WorkbookTools.Proofs.Workspace.ExcelInstances
import WorkbookTools.Proofs.Policy.Targets
import WorkbookTools.Proofs.Workspace.Preservation
import WorkbookTools.Proofs.Tool.Session
import WorkbookTools.Proofs.Editing.Attributes
import WorkbookTools.Proofs.Editing.Agreement
import WorkbookTools.Proofs.Editing.Frames
import WorkbookTools.Proofs.Range.TextBlocks
import WorkbookTools.Proofs.FileSystem.Directories
import WorkbookTools.Proofs.Policy.Resolved
import WorkbookTools.Proofs.Naming
import WorkbookTools.Proofs.Workbook.NewWorkbook
import WorkbookTools.Proofs.Workspace.FailedCreation
import WorkbookTools.Proofs.Workspace.CreationFrames
import WorkbookTools.Proofs.Workspace.ReportedSheets
import WorkbookTools.Proofs.Workspace.Overlaps
import WorkbookTools.Proofs.Range.Labels
import WorkbookTools.Proofs.Instruction.Partition
import WorkbookTools.Proofs.Workspace.BatchAnswers
import WorkbookTools.Proofs.Workspace.ExcelFailures
import WorkbookTools.Proofs.Workspace.FileEngine
import WorkbookTools.Proofs.Address.StrictLabels
import WorkbookTools.Proofs.Address.Spelling
import WorkbookTools.Proofs.Style.Priority
import WorkbookTools.Proofs.Naming.FreeNames
import WorkbookTools.Proofs.Policy.DeniedDirectories
