import CallContract.Adapter
import CallContract.Call
import CallContract.Contract.Assembly
import CallContract.Contract.Building
import CallContract.Contract.Call
import CallContract.Contract.Family
import CallContract.Engine
import CallContract.Expr.Evaluation
import CallContract.Fault
import CallContract.Issue
import CallContract.Journal
import CallContract.Journal.Configuration
import CallContract.Journal.Layout
import CallContract.Mode
import CallContract.Number.Double
import CallContract.Number.Literal
import CallContract.Number.Numeral
import CallContract.Number.Reading
import CallContract.Number.Shortest
import CallContract.Path
import CallContract.Proofs.Acting
import CallContract.Proofs.Asked
import CallContract.Proofs.Attaching
import CallContract.Proofs.Binding
import CallContract.Proofs.Bounds
import CallContract.Proofs.Calling
import CallContract.Proofs.Chaining
import CallContract.Proofs.Choosing
import CallContract.Proofs.Configuration
import CallContract.Proofs.Conforming
import CallContract.Proofs.Constructing
import CallContract.Proofs.Distinct
import CallContract.Proofs.Examining
import CallContract.Proofs.Faultless
import CallContract.Proofs.Fixed
import CallContract.Proofs.Gates
import CallContract.Proofs.Governing
import CallContract.Proofs.Heedless
import CallContract.Proofs.History
import CallContract.Proofs.Inquiry
import CallContract.Proofs.Instantiating
import CallContract.Proofs.Interchange
import CallContract.Proofs.Layering
import CallContract.Proofs.Leftovers
import CallContract.Proofs.Legible
import CallContract.Proofs.Linking
import CallContract.Proofs.Loading
import CallContract.Proofs.Located
import CallContract.Proofs.Meaning
import CallContract.Proofs.Naming
import CallContract.Proofs.Nesting
import CallContract.Proofs.Passing
import CallContract.Proofs.Promoting
import CallContract.Proofs.Quoting
import CallContract.Proofs.Rebinding
import CallContract.Proofs.Refusal
import CallContract.Proofs.Relaxed
import CallContract.Proofs.Replacing
import CallContract.Proofs.Reporting
import CallContract.Proofs.Respelling
import CallContract.Proofs.Rooted
import CallContract.Proofs.Running
import CallContract.Proofs.Settling
import CallContract.Proofs.Store
import CallContract.Proofs.Supplying
import CallContract.Proofs.Translation
import CallContract.Proofs.Transparent
import CallContract.Proofs.Unaltered
import CallContract.Proofs.Unlabelled
import CallContract.Proofs.Unnoticed
import CallContract.Proofs.Walking
import CallContract.Proofs.Wrapping
import CallContract.Rule
import CallContract.Rule.Application
import CallContract.Rule.Limit
import CallContract.Rule.Scalar
import CallContract.Schema.Annotation
import CallContract.Schema.Description
import CallContract.Schema.Promotion
import CallContract.Schema.Reference
import CallContract.Script.Ancestry
import CallContract.Script.Answer
import CallContract.Script.Execution
import CallContract.Script.Step
import CallContract.Session
import CallContract.Settings
import CallContract.Settings.Loading
import CallContract.Signature
import CallContract.Signature.Lookup
import CallContract.Term
import CallContract.Term.Building
import CallContract.Term.Predicates
import CallContract.Text.Blank
import CallContract.Text.Codec
import CallContract.Text.Digit
import CallContract.Text.LowerCase
import CallContract.Text.Printable
import CallContract.Text.Quoted
import CallContract.Text.UpperCase
import CallContract.Text.Utf8
import CallContract.Validation
import CallContract.Value
import CallContract.Value.Assignment
import CallContract.Value.Attribute
import CallContract.Value.Equality
import CallContract.Value.Fingerprint
import CallContract.Value.Mode
import CallContract.Value.Operators
import CallContract.Value.Printer
import CallContract.Value.Traversal
import CallContract.Yaml.Cursor
import CallContract.Yaml.Document
import CallContract.Yaml.Lexer
import CallContract.Yaml.Merge
import CallContract.Yaml.Moment
import CallContract.Yaml.Node
import CallContract.Yaml.Scalar
import CallContract.Yaml.Tag
import CallContract.Yaml.Token
