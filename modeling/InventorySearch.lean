import InventorySearch.Catalog.Basic
import InventorySearch.Catalog.Extensions
import InventorySearch.Catalog.Form
import InventorySearch.Code
import InventorySearch.Columns
import InventorySearch.Criterion
import InventorySearch.Date
import InventorySearch.Defaults
import InventorySearch.FieldId
import InventorySearch.Group.Basic
import InventorySearch.Group.Members
import InventorySearch.Group.Store
import InventorySearch.Inventory.Record
import InventorySearch.Inventory.Search
import InventorySearch.Json.Basic
import InventorySearch.Json.Draft
import InventorySearch.Json.Rule
import InventorySearch.Json.Token
import InventorySearch.Main
import InventorySearch.Number.DecimalText
import InventorySearch.Number.Double
import InventorySearch.Number.Reading
import InventorySearch.Number.Shortest
import InventorySearch.Presentation
import InventorySearch.QueryString
import InventorySearch.Request.Basic
import InventorySearch.Request.Params
import InventorySearch.Request.Reading
import InventorySearch.Samples
import InventorySearch.SavedSearch
import InventorySearch.SearchError
import InventorySearch.Service.Address
import InventorySearch.Service.CatalogChange
import InventorySearch.Service.Computers
import InventorySearch.Service.Config
import InventorySearch.Service.Cors
import InventorySearch.Service.Engine
import InventorySearch.Service.Error
import InventorySearch.Service.FieldPattern.Basic
import InventorySearch.Service.FieldPattern.Bracket
import InventorySearch.Service.FieldPattern.Escape
import InventorySearch.Service.FieldPattern.Reader
import InventorySearch.Service.Groups
import InventorySearch.Service.HttpRequest
import InventorySearch.Service.Inspect
import InventorySearch.Service.Interface
import InventorySearch.Service.Log
import InventorySearch.Service.LogFilter
import InventorySearch.Service.MediaType
import InventorySearch.Service.PathLabel
import InventorySearch.Service.Route
import InventorySearch.Service.Router
import InventorySearch.Service.Startup
import InventorySearch.Service.State
import InventorySearch.Service.Telemetry
import InventorySearch.Text.Alphanumeric
import InventorySearch.Text.Base64
import InventorySearch.Text.Blank
import InventorySearch.Text.CaseTable
import InventorySearch.Text.CharSet
import InventorySearch.Text.Digit
import InventorySearch.Text.Hidden
import InventorySearch.Text.Lowercase
import InventorySearch.Text.Pieces
import InventorySearch.Text.Quoted
import InventorySearch.Text.Utf8
import InventorySearch.Value
import InventorySearch.ValueType
import InventorySearch.Wildcard
import InventorySearch.Proofs.Results
import InventorySearch.Proofs.Value
import InventorySearch.Proofs.Inventory.View
import InventorySearch.Proofs.Inventory.Join
import InventorySearch.Proofs.Inventory.Sorting
import InventorySearch.Proofs.Inventory.Relational
import InventorySearch.Proofs.Text.Pieces
import InventorySearch.Proofs.Text.Utf8
import InventorySearch.Proofs.Criterion
import InventorySearch.Proofs.FieldId
import InventorySearch.Proofs.QueryString
import InventorySearch.Proofs.Request.Pairs
import InventorySearch.Proofs.Request.Canonical
import InventorySearch.Proofs.Inventory.Soundness
import InventorySearch.Proofs.Group.Store
import InventorySearch.Proofs.Service.Consistency
import InventorySearch.Proofs.Inventory.Presentation
import InventorySearch.Proofs.Inventory.Distinct
import InventorySearch.Proofs.Request.Link
import InventorySearch.Proofs.Text.Blank
import InventorySearch.Proofs.Catalog
import InventorySearch.Proofs.Service.CatalogChange
import InventorySearch.Proofs.Service.Effect
import InventorySearch.Proofs.Service.Frame
import InventorySearch.Proofs.Json
import InventorySearch.Proofs.Order
import InventorySearch.Proofs.Service.Rebuild
import InventorySearch.Proofs.Group.Members
import InventorySearch.Proofs.Request.Scan
import InventorySearch.Proofs.Request.Modes
import InventorySearch.Proofs.Request.Gap
import InventorySearch.Proofs.Request.Shapes
import InventorySearch.Proofs.Service.Members
import InventorySearch.Proofs.Service.Links
import InventorySearch.Proofs.Service.Redirect
import InventorySearch.Proofs.Request.FieldIds
import InventorySearch.Proofs.Group.History
import InventorySearch.Proofs.Service.GroupAddress
import InventorySearch.Proofs.Service.Overrides
import InventorySearch.Proofs.Text.Lowercase
import InventorySearch.Proofs.Wildcard
import InventorySearch.Proofs.Like
import InventorySearch.Proofs.Inventory.StableSort
import InventorySearch.Proofs.Service.Interleaving
import InventorySearch.Proofs.Service.Overtaking
import InventorySearch.Proofs.Inventory.Conditions
import InventorySearch.Proofs.Text.Digit
import InventorySearch.Proofs.Date
import InventorySearch.Proofs.Number
import InventorySearch.Proofs.Stored
import InventorySearch.Proofs.Catalog.Families
import InventorySearch.Proofs.Inventory.SingleValues
import InventorySearch.Proofs.Request.FirstFault
import InventorySearch.Proofs.Service.FieldErrors
import InventorySearch.Proofs.Service.PathLabel
import InventorySearch.Proofs.Text.Base64.Canonical
import InventorySearch.Proofs.Number.Order
import InventorySearch.Proofs.Comparison
