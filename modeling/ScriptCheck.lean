import ScriptCheck.Main
import ScriptCheck.Proofs.Caret
import ScriptCheck.Proofs.EmptyLiterals
import ScriptCheck.Proofs.Grammar.Composition
import ScriptCheck.Proofs.Grammar.CompoundAssignment
import ScriptCheck.Proofs.Grammar.EndToken
import ScriptCheck.Proofs.Grammar.Pipes
import ScriptCheck.Proofs.Grammar.Precedence
import ScriptCheck.Proofs.Grammar.RoundTrip
import ScriptCheck.Proofs.Grammar.ShownTypes
import ScriptCheck.Proofs.Grammar.Termination
import ScriptCheck.Proofs.Reporting
import ScriptCheck.Proofs.Token.LineEnds
import ScriptCheck.Proofs.Token.LongestMatch
import ScriptCheck.Proofs.Token.Spelling
import ScriptCheck.Proofs.Token.Tiling
import ScriptCheck.Proofs.Typing.Binding
import ScriptCheck.Proofs.Typing.Capture
import ScriptCheck.Proofs.Typing.Completion
import ScriptCheck.Proofs.Typing.Copies
import ScriptCheck.Proofs.Typing.Coverage
import ScriptCheck.Proofs.Typing.Duplicates
import ScriptCheck.Proofs.Typing.FirstReturn
import ScriptCheck.Proofs.Typing.Hashing
import ScriptCheck.Proofs.Typing.Holes
import ScriptCheck.Proofs.Typing.LocalNames
import ScriptCheck.Proofs.Typing.LocalValues
import ScriptCheck.Proofs.Typing.MismatchForms
import ScriptCheck.Proofs.Typing.Placeholders
import ScriptCheck.Proofs.Typing.Placement
import ScriptCheck.Proofs.Typing.Prepared
import ScriptCheck.Proofs.Typing.Redeclaration
import ScriptCheck.Proofs.Typing.Returns
import ScriptCheck.Proofs.Typing.Shadowing
import ScriptCheck.Proofs.Typing.Signatures
import ScriptCheck.Proofs.Typing.TemplateOrigins
import ScriptCheck.Proofs.Typing.Uniformity
