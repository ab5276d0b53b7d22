import RpcSharp.Binding.Build
import RpcSharp.Binding.Report
import RpcSharp.Code.Identifier
import RpcSharp.Code.Source
import RpcSharp.Code.Tree
import RpcSharp.Code.TypeName
import RpcSharp.Command.Arguments
import RpcSharp.Command.Host
import RpcSharp.Command.Run
import RpcSharp.Config.Settings
import RpcSharp.Decimal.Binary64
import RpcSharp.Decimal.Shortest
import RpcSharp.Files.Tree
import RpcSharp.Json.Fault
import RpcSharp.Json.Number
import RpcSharp.Json.Token
import RpcSharp.Json.Value
import RpcSharp.Main
import RpcSharp.Proofs.Basic
import RpcSharp.Proofs.Binding.Account
import RpcSharp.Proofs.Binding.Build
import RpcSharp.Proofs.Binding.Capture
import RpcSharp.Proofs.Binding.EnumMembers
import RpcSharp.Proofs.Binding.FieldClass
import RpcSharp.Proofs.Binding.IdReference
import RpcSharp.Proofs.Binding.Locality
import RpcSharp.Proofs.Binding.Nesting
import RpcSharp.Proofs.Binding.Outcome
import RpcSharp.Proofs.Binding.Overlay
import RpcSharp.Proofs.Binding.Parameters
import RpcSharp.Proofs.Binding.Primitive
import RpcSharp.Proofs.Binding.SelfName
import RpcSharp.Proofs.Binding.TreeShape
import RpcSharp.Proofs.Binding.UnitPath
import RpcSharp.Proofs.Binding.WireName
import RpcSharp.Proofs.Code.Balance
import RpcSharp.Proofs.Code.Documentation
import RpcSharp.Proofs.Code.Emission
import RpcSharp.Proofs.Code.FirstMisfit
import RpcSharp.Proofs.Code.HeadName
import RpcSharp.Proofs.Code.Identifier
import RpcSharp.Proofs.Code.Indentation
import RpcSharp.Proofs.Code.JsonConstructor
import RpcSharp.Proofs.Code.Lines
import RpcSharp.Proofs.Code.Literal
import RpcSharp.Proofs.Code.Members
import RpcSharp.Proofs.Code.PascalCase
import RpcSharp.Proofs.Code.Remarks
import RpcSharp.Proofs.Code.RepeatedMember
import RpcSharp.Proofs.Code.TypeMapping
import RpcSharp.Proofs.Code.TypeName
import RpcSharp.Proofs.Command.Generate
import RpcSharp.Proofs.Command.History
import RpcSharp.Proofs.Command.Save
import RpcSharp.Proofs.Config.Usings
import RpcSharp.Proofs.Files.Tree
import RpcSharp.Proofs.Json.Bracket
import RpcSharp.Proofs.Json.Number
import RpcSharp.Proofs.Json.Scan
import RpcSharp.Proofs.Json.Token
import RpcSharp.Proofs.Json.Value
import RpcSharp.Proofs.Schema.Lenient
import RpcSharp.Proofs.Schema.NameCheck
import RpcSharp.Proofs.Schema.Names
import RpcSharp.Proofs.Schema.Record
import RpcSharp.Proofs.Schema.RoundTrip
import RpcSharp.Proofs.Schema.Trailing
import RpcSharp.Proofs.Text.Casing
import RpcSharp.Proofs.Text.Replace
import RpcSharp.Proofs.Text.Utf8
import RpcSharp.Schema.Document
import RpcSharp.Schema.Load
import RpcSharp.Schema.Malformed
import RpcSharp.Schema.Reader
import RpcSharp.Text.Basic
import RpcSharp.Text.Casing
import RpcSharp.Text.Letter
import RpcSharp.Text.Printable
import RpcSharp.Text.Word
import RpcSharp.Toml.Reader
import RpcSharp.Toml.Scalar
import RpcSharp.Toml.Table
import RpcSharp.Toml.Token
