import RecordSchema.Collation
import RecordSchema.Decimal.Shortest
import RecordSchema.Definition.Basic
import RecordSchema.Definition.Error
import RecordSchema.Definition.OfText
import RecordSchema.Definition.OfValue
import RecordSchema.Definition.Write
import RecordSchema.Field
import RecordSchema.Json.Cursor
import RecordSchema.Json.Error
import RecordSchema.Json.Number
import RecordSchema.Json.Read
import RecordSchema.Json.Value
import RecordSchema.Json.Write
import RecordSchema.Name.Basic
import RecordSchema.Name.Display
import RecordSchema.Name.Parse
import RecordSchema.Proofs.Ambiguity
import RecordSchema.Proofs.Appending
import RecordSchema.Proofs.Coercion
import RecordSchema.Proofs.Columns
import RecordSchema.Proofs.DataTypeGrammar
import RecordSchema.Proofs.DataTypeRead
import RecordSchema.Proofs.DataTypeText
import RecordSchema.Proofs.DefinitionRead
import RecordSchema.Proofs.DefinitionText
import RecordSchema.Proofs.EqualSchemas
import RecordSchema.Proofs.Handles
import RecordSchema.Proofs.Identity
import RecordSchema.Proofs.IgnoringCase
import RecordSchema.Proofs.JsonText
import RecordSchema.Proofs.MatchLaws
import RecordSchema.Proofs.NameGrammar
import RecordSchema.Proofs.NameMatch
import RecordSchema.Proofs.NameShape
import RecordSchema.Proofs.NameText
import RecordSchema.Proofs.Reordering
import RecordSchema.Proofs.Resolution
import RecordSchema.Proofs.SelfResolution
import RecordSchema.Proofs.SessionIds
import RecordSchema.Proofs.TextKeys
import RecordSchema.Proofs.ValueTypeText
import RecordSchema.Proofs.Words
import RecordSchema.Schema.Basic
import RecordSchema.Schema.Resolve
import RecordSchema.Session
import RecordSchema.Text.AsciiCase
import RecordSchema.Text.Literal
import RecordSchema.Text.Lowercase
import RecordSchema.Text.WhiteSpace
import RecordSchema.Types.DataType
import RecordSchema.Types.SqlType
import RecordSchema.Types.ValueType
