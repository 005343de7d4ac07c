import ScriptBridge.Session.Run
import ScriptBridge.Text.Quoted
import ScriptBridge.Proofs.Diagnostic
import ScriptBridge.Proofs.Number.Views
import ScriptBridge.Proofs.Record.Above
import ScriptBridge.Proofs.Record.Aliases
import ScriptBridge.Proofs.Record.Coercion
import ScriptBridge.Proofs.Record.Decision
import ScriptBridge.Proofs.Record.Integers
import ScriptBridge.Proofs.Record.Overflow
import ScriptBridge.Proofs.Record.Repeated
import ScriptBridge.Proofs.Record.Results
import ScriptBridge.Proofs.Record.RoundTrip
import ScriptBridge.Proofs.Script.RawAccess
import ScriptBridge.Proofs.Session.Capacity
import ScriptBridge.Proofs.Session.Frames
import ScriptBridge.Proofs.Session.Positions
import ScriptBridge.Proofs.Session.Registry
import ScriptBridge.Proofs.Session.Scopes
import ScriptBridge.Proofs.Stack.Callbacks
import ScriptBridge.Proofs.Stack.Fields
import ScriptBridge.Proofs.Stack.Members
import ScriptBridge.Proofs.Stack.Nesting
import ScriptBridge.Proofs.Stack.Primitive
import ScriptBridge.Proofs.Stack.Registration
import ScriptBridge.Proofs.Stack.Shortfall
