import Containment.Calendar.Date
import Containment.Calendar.Reader
import Containment.Calendar.Timestamp
import Containment.Collection
import Containment.Entries
import Containment.EnumType
import Containment.Fault
import Containment.Fields
import Containment.Json
import Containment.Json.Reader
import Containment.Literal
import Containment.Location
import Containment.Mismatch
import Containment.Number.Decimal
import Containment.Number.Numeral
import Containment.Recognizer
import Containment.Recognizer.Standard
import Containment.Registry
import Containment.Registry.Session
import Containment.Schema
import Containment.Schema.Coercion
import Containment.Schema.Equality
import Containment.Schema.Rendering
import Containment.Schema.Validation
import Containment.Shape
import Containment.Text.Blank
import Containment.Text.Digit
import Containment.Text.Quoted
import Containment.Proofs.Text.Described
import Containment.Proofs.Number.Description
import Containment.Proofs.Calendar.Rendering
import Containment.Proofs.Containment.Agreement
import Containment.Proofs.Session.Transparency
import Containment.Proofs.Schema.FailFast
import Containment.Proofs.Schema.Truthful
import Containment.Proofs.Session.Retention
import Containment.Proofs.Conversion.Arrangement
import Containment.Proofs.Schema.NormalForm
import Containment.Proofs.Schema.Union
import Containment.Proofs.Collection.Inspection
import Containment.Proofs.Conversion.Spelling
import Containment.Proofs.Value.Equality
import Containment.Proofs.Containment.Constant
import Containment.Proofs.Containment.Order
import Containment.Proofs.Containment.Reordering
import Containment.Proofs.Schema.Separate
import Containment.Proofs.Calendar.DayNumber
import Containment.Proofs.Calendar.Timestamp
import Containment.Proofs.Collection.NonLiteral
import Containment.Proofs.Containment.Timestamp
import Containment.Proofs.Number.Integer
import Containment.Proofs.Schema.Textual
import Containment.Proofs.Schema.IntegerText
import Containment.Proofs.Calendar.Reading
import Containment.Proofs.Containment.Rendered
import Containment.Proofs.Json.Integer
import Containment.Proofs.Containment.Integer
import Containment.Proofs.Schema.Declaration
import Containment.Proofs.Schema.Homogeneous
import Containment.Proofs.Schema.Exactness
import Containment.Proofs.Schema.Alias
import Containment.Proofs.Report.Grouping
import Containment.Proofs.Report.Export
import Containment.Proofs.Value.Rendering
import Containment.Proofs.Conversion.Dispatch
import Containment.Proofs.Schema.NumberTexts
import Containment.Proofs.Schema.Decoding
import Containment.Proofs.Collection.Denotation
import Containment.Proofs.Schema.Literals
import Containment.Proofs.Number.IntegerAsFloat
import Containment.Proofs.Schema.Widening
