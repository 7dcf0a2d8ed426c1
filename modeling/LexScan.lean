import LexScan.File.Disk
import LexScan.Main
import LexScan.Log.Pattern.CharClass
import LexScan.Proofs.Concatenation
import LexScan.Proofs.FatalFault
import LexScan.Proofs.Layout
import LexScan.Proofs.Progress
import LexScan.Proofs.Restart
import LexScan.Proofs.TokenStream
import LexScan.Proofs.Rescan
import LexScan.Proofs.Lookahead
import LexScan.Proofs.SourceOrder
import LexScan.Proofs.Conservation
import LexScan.Proofs.JsonReport
import LexScan.Proofs.JsonReading
import LexScan.Proofs.SettingsText
import LexScan.Proofs.DiskGrowth
import LexScan.Proofs.SavedSettings
import LexScan.Proofs.ErrorStream
import LexScan.Proofs.ScanCommand
import LexScan.Proofs.QuietScan
import LexScan.Proofs.SettingsInit
import LexScan.Proofs.CommentExtent
import LexScan.Proofs.InitOverwrite
import LexScan.Proofs.LineEnding
import LexScan.Proofs.SettingsFields
import LexScan.Proofs.PrintedSymbols
import LexScan.Proofs.KindStatistics
import LexScan.Proofs.InertCharacter
