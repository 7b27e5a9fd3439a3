import PageWatch.Monitor
import PageWatch.Pattern.Format
import PageWatch.Proofs.Acceptance
import PageWatch.Proofs.Answer
import PageWatch.Proofs.ByteSearch
import PageWatch.Proofs.CompileAhead
import PageWatch.Proofs.Complete
import PageWatch.Proofs.Composition
import PageWatch.Proofs.Escapes
import PageWatch.Proofs.Evidence
import PageWatch.Proofs.FaultPath
import PageWatch.Proofs.Faults
import PageWatch.Proofs.FirstFault
import PageWatch.Proofs.Formula
import PageWatch.Proofs.Grammar
import PageWatch.Proofs.Grouping
import PageWatch.Proofs.Inquiries
import PageWatch.Proofs.Json.Scalars
import PageWatch.Proofs.Json.Structures
import PageWatch.Proofs.Layout
import PageWatch.Proofs.Letter
import PageWatch.Proofs.Memory
import PageWatch.Proofs.NestingLimit
import PageWatch.Proofs.Notices
import PageWatch.Proofs.OpenQuotation
import PageWatch.Proofs.Parentheses
import PageWatch.Proofs.Places
import PageWatch.Proofs.Plans
import PageWatch.Proofs.Quotation
import PageWatch.Proofs.Reached
import PageWatch.Proofs.Rereading
import PageWatch.Proofs.Runs
import PageWatch.Proofs.Scan
import PageWatch.Proofs.SearchModes
import PageWatch.Proofs.Session
import PageWatch.Proofs.Shape
import PageWatch.Proofs.Shown
import PageWatch.Proofs.Spacing
import PageWatch.Proofs.Unquoting
import PageWatch.Proofs.Written
import PageWatch.Watch.File
