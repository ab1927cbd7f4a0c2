import DeclScope.Main
import DeclScope.Session
import DeclScope.Proofs.Scope.Containment
import DeclScope.Proofs.Walk.Levels
import DeclScope.Proofs.Walk.Toplevel
import DeclScope.Proofs.Observer.Dispatch
import DeclScope.Proofs.Observer.Instrument
import DeclScope.Proofs.Observer.Registry
import DeclScope.Proofs.Analyzer
import DeclScope.Proofs.Observer.ClassReports
import DeclScope.Proofs.Tree.Positions
import DeclScope.Proofs.Scope.Order
import DeclScope.Proofs.Walk.Order
import DeclScope.Proofs.Cursor.Usr
import DeclScope.Proofs.Observer.Agenda
import DeclScope.Proofs.Observer.Busy
import DeclScope.Proofs.Observer.History
import DeclScope.Proofs.Observer.Isolation
import DeclScope.Proofs.Cursor.Extent
import DeclScope.Proofs.Refusal
import DeclScope.Proofs.Declaration.Fields
import DeclScope.Proofs.Walk.ClassOrder
import DeclScope.Proofs.Observer.Recorders
import DeclScope.Proofs.CommandLine.Line
import DeclScope.Proofs.CommandLine.Report
import DeclScope.Proofs.Declarator.Name
import DeclScope.Proofs.Declarator.Function
import DeclScope.Proofs.CType.Spelling
import DeclScope.Proofs.Cursor.Access
import DeclScope.Proofs.Declaration.Expansion
import DeclScope.Proofs.Scope.Contents
import DeclScope.Proofs.Text.Marks
import DeclScope.Proofs.CType.Unambiguous
import DeclScope.Proofs.Cursor.Parameters
import DeclScope.Proofs.Scope.Enumerators
import DeclScope.Proofs.Cursor.Method
import DeclScope.Proofs.CType.Literal
import DeclScope.Proofs.CType.Lenient
import DeclScope.Proofs.SyntaxErrors
import DeclScope.Proofs.Text.Position
import DeclScope.Proofs.Language
import DeclScope.Proofs.CType.Coherent
import DeclScope.Proofs.Declaration.Insertions
import DeclScope.Proofs.Cursor.ParameterText
import DeclScope.Proofs.Cursor.Namespaces
import DeclScope.Proofs.Text.Decoding
import DeclScope.Proofs.Declarator.Signature
import DeclScope.Proofs.CType.BuiltIn
import DeclScope.CType.Record
import DeclScope.Proofs.Json.Text
import DeclScope.Proofs.Cursor.Facts
