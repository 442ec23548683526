import DeviceModel.Catalog.Basic
import DeviceModel.Catalog.Builtin
import DeviceModel.Command.Arguments
import DeviceModel.Command.Basic
import DeviceModel.Config.Basic
import DeviceModel.Config.Exchange
import DeviceModel.Config.Literal
import DeviceModel.Config.Load
import DeviceModel.Config.Standin
import DeviceModel.DataType
import DeviceModel.Descriptor
import DeviceModel.Device.Summary
import DeviceModel.Document
import DeviceModel.Double.Basic
import DeviceModel.Double.Reader
import DeviceModel.Double.Round
import DeviceModel.Double.Shortest
import DeviceModel.Double.Text
import DeviceModel.Error
import DeviceModel.Item.Basic
import DeviceModel.Item.Run
import DeviceModel.Json.Basic
import DeviceModel.Json.Number
import DeviceModel.Json.Printer
import DeviceModel.Json.Reader
import DeviceModel.Main
import DeviceModel.Moment.Basic
import DeviceModel.Moment.Calendar
import DeviceModel.Moment.Rfc3339
import DeviceModel.Moment.Text
import DeviceModel.Names
import DeviceModel.Proofs.Catalog.Lookup
import DeviceModel.Proofs.Catalog.Order
import DeviceModel.Proofs.Config.Building
import DeviceModel.Proofs.Config.Exporting
import DeviceModel.Proofs.Device.Summary
import DeviceModel.Proofs.Double.Integers
import DeviceModel.Proofs.Item.History
import DeviceModel.Proofs.Item.Instants
import DeviceModel.Proofs.Item.Range
import DeviceModel.Proofs.Item.Reading
import DeviceModel.Proofs.Item.Writing
import DeviceModel.Proofs.Json.Entries
import DeviceModel.Proofs.Json.Path
import DeviceModel.Proofs.Keyed
import DeviceModel.Proofs.Moment.Calendar
import DeviceModel.Proofs.Moment.Text
import DeviceModel.Proofs.Resource.Filling
import DeviceModel.Proofs.Resource.Items
import DeviceModel.Proofs.Resource.Places
import DeviceModel.Proofs.Resource.Reading
import DeviceModel.Proofs.Resource.Refinement
import DeviceModel.Proofs.Resource.Shown
import DeviceModel.Proofs.Text.Digits
import DeviceModel.Resource.Basic
import DeviceModel.Resource.Run
import DeviceModel.Text.Affix
import DeviceModel.Text.Based
import DeviceModel.Text.Blank
import DeviceModel.Text.Case
import DeviceModel.Text.Decimal
import DeviceModel.Text.Quoted
import DeviceModel.Toml.Lexical
import DeviceModel.Toml.Reader
import DeviceModel.Toml.Scalar
import DeviceModel.Toml.Table
import DeviceModel.Value.Basic
import DeviceModel.Value.Tagged
import DeviceModel.Words
import DeviceModel.Proofs.Config.Extension
import DeviceModel.Proofs.Config.Unheld
import DeviceModel.Proofs.Double.Shortest
import DeviceModel.Proofs.Json.Numbers
import DeviceModel.Proofs.Json.Quoted
import DeviceModel.Proofs.Json.Reading
import DeviceModel.Proofs.Moment.Rfc3339
import DeviceModel.Proofs.Value.Tagged
import DeviceModel.Proofs.Double.Quotients
import DeviceModel.Proofs.Json.Doubles
import DeviceModel.Proofs.Json.Plain
import DeviceModel.Proofs.Device.Exchange
import DeviceModel.Proofs.Catalog.Exchange
import DeviceModel.Proofs.Json.Layout
import DeviceModel.Proofs.Item.Restamping
import DeviceModel.Proofs.Moment.Shape
import DeviceModel.Proofs.Item.TimeText
import DeviceModel.Proofs.Catalog.Distinct
import DeviceModel.Proofs.Config.Attributes
import DeviceModel.Proofs.Command.Stages
import DeviceModel.Proofs.Moment.Grammar
import DeviceModel.Proofs.Item.Renderings
import DeviceModel.Proofs.Device.Collecting
import DeviceModel.Proofs.Double.Exact
import DeviceModel.Proofs.Text.Integers
import DeviceModel.Proofs.Moment.Clock
import DeviceModel.Proofs.Text.Blank
import DeviceModel.Proofs.Item.IntegerForms
import DeviceModel.Proofs.Double.Nearest
import DeviceModel.Proofs.Double.Bits
import DeviceModel.Proofs.Item.OwnValue
import DeviceModel.Proofs.Resource.Removal
import DeviceModel.Proofs.Item.Bookkeeping
import DeviceModel.Proofs.Double.Closest
import DeviceModel.Proofs.Value.Integers
import DeviceModel.Proofs.Value.Json
import DeviceModel.Proofs.Item.Reloading
import DeviceModel.Proofs.DataType
