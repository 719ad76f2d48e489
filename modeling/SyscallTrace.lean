import SyscallTrace.Bytes.LittleEndian
import SyscallTrace.Codegen.Alignment
import SyscallTrace.Codegen.Artifacts
import SyscallTrace.Codegen.Decoder
import SyscallTrace.Codegen.Messages
import SyscallTrace.Codegen.Records
import SyscallTrace.Codegen.Source
import SyscallTrace.Codegen.Wire
import SyscallTrace.Descriptor.Context
import SyscallTrace.Descriptor.Table
import SyscallTrace.Event.Buffer
import SyscallTrace.Event.Connection
import SyscallTrace.Event.Decoded
import SyscallTrace.Event.File
import SyscallTrace.Event.Header
import SyscallTrace.Event.Syscall
import SyscallTrace.Keyed
import SyscallTrace.Main
import SyscallTrace.Net.Address
import SyscallTrace.Proc.Path
import SyscallTrace.Proc.Script
import SyscallTrace.Proofs.AlignedSets
import SyscallTrace.Proofs.Alignment
import SyscallTrace.Proofs.CallLines
import SyscallTrace.Proofs.CamelWords
import SyscallTrace.Proofs.DecodeOutcome
import SyscallTrace.Proofs.DecodedEvents
import SyscallTrace.Proofs.DecoderScope
import SyscallTrace.Proofs.EventEncoding
import SyscallTrace.Proofs.EventMetric
import SyscallTrace.Proofs.EventText
import SyscallTrace.Proofs.FieldPattern
import SyscallTrace.Proofs.FlatTable
import SyscallTrace.Proofs.FormatCompile
import SyscallTrace.Proofs.Gather
import SyscallTrace.Proofs.GeneratedAgreement
import SyscallTrace.Proofs.Ipv6Read
import SyscallTrace.Proofs.Ipv6Text
import SyscallTrace.Proofs.NameField
import SyscallTrace.Proofs.Readers
import SyscallTrace.Proofs.ResolveRecheck
import SyscallTrace.Proofs.Routing
import SyscallTrace.Proofs.ShownValues
import SyscallTrace.Proofs.Snapshot
import SyscallTrace.Proofs.TableHistory
import SyscallTrace.Proofs.ZeroRuns
import SyscallTrace.Report.Line
import SyscallTrace.Schema.Basic
import SyscallTrace.Schema.Camel
import SyscallTrace.Schema.Compile
import SyscallTrace.Schema.Directory
import SyscallTrace.Schema.Edit
import SyscallTrace.Schema.FieldLine
import SyscallTrace.Schema.FieldType
import SyscallTrace.Schema.Snapshot
import SyscallTrace.Session.Run
import SyscallTrace.Session.Step
import SyscallTrace.Text.GraphemeExtend
import SyscallTrace.Text.Printable
import SyscallTrace.Text.Quoted
import SyscallTrace.Text.Utf8
