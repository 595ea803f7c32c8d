import Stitch.Foundation.FiniteMap

/-!
# Rows, operations and errors of the client

A record is one entity row, a map from field names to JSON values. The client
looks at a value only to ask whether it is null, a string or an unsigned number;
every other value is kept as its text.
-/

namespace Stitch.Client.Mutations

open Foundation.FiniteMap

inductive Value where
  | null
  | bool (value : Bool)
  | number (value : Nat)
  | string (text : String)
  | other (text : String)
  deriving DecidableEq, Repr

def Value.asStr : Value → Option String
  | .string text => some text
  | _ => none

def Value.asU64 : Value → Option Nat
  | .number value => some value
  | _ => none

abbrev Record := HashMap String Value

inductive Operation where
  | insert
  | update
  | delete
  deriving DecidableEq, Repr

def Operation.priority : Operation → Nat
  | .insert => 0
  | .update => 1
  | .delete => 2

/-- The errors of the embedded database that the client tells apart. -/
inductive MqdbError where
  | validation
  | constraintViolation
  | foreignKeyViolation
  | foreignKeyRestrict
  | notNullViolation
  | invalidForeignKey
  | other
  deriving DecidableEq, Repr

inductive Error where
  | notInitialized
  | alreadyInitialized
  | scopeNotActive (scope : String)
  | unknownEntity (entity : String)
  | notFound (entity id : String)
  | ownership (entity id : String)
  | conflict (entity id : String)
  | preconditionFailed (entity id : String)
  | mqdb (method : String) (source : MqdbError)
  | mqtt (text : String)
  | publishRejected (reasonCode : UInt8)
  | rejected (text : String)
  | connectionClosed
  | timeout (millis : Nat)
  | config (text : String)
  | sessionInvalid
  | serde
  | io
  deriving DecidableEq, Repr

def terminalPublishReasonCodes : List UInt8 := [0x87, 0x90, 0x99]

def publishReasonIsTerminal (reasonCode : UInt8) : Bool :=
  terminalPublishReasonCodes.contains reasonCode

def Error.isTransient : Error → Bool
  | .timeout _ => true
  | .connectionClosed => true
  | .mqtt _ => true
  | .publishRejected reasonCode => !publishReasonIsTerminal reasonCode
  | _ => false

def Error.isTerminalPublishRejection : Error → Bool
  | .publishRejected reasonCode => publishReasonIsTerminal reasonCode
  | _ => false

def Error.isOwnership : Error → Bool
  | .ownership _ _ => true
  | _ => false

def Error.isNotFound : Error → Bool
  | .notFound _ _ => true
  | _ => false

def Error.isConflict : Error → Bool
  | .conflict _ _ => true
  | _ => false

def Error.isPermanentMutation : Error → Bool
  | .rejected _ => true
  | .mqdb _ source => source != .other
  | _ => false

variable {error : Error}

theorem transient_excludes_refusal (transient : error.isTransient = true) :
    error.isOwnership = false ∧ error.isNotFound = false ∧ error.isConflict = false ∧
      error.isTerminalPublishRejection = false ∧ error.isPermanentMutation = false := by
  cases error with
  | publishRejected reasonCode =>
    have retried : publishReasonIsTerminal reasonCode = false := by
      simpa [Error.isTransient] using transient
    exact ⟨rfl, rfl, rfl, retried, rfl⟩
  | timeout millis | connectionClosed | mqtt text => exact ⟨rfl, rfl, rfl, rfl, rfl⟩
  | _ => simp [Error.isTransient] at transient

theorem not_found_excludes_refusal (missing : error.isNotFound = true) :
    error.isTransient = false ∧ error.isOwnership = false ∧ error.isConflict = false ∧
      error.isTerminalPublishRejection = false := by
  cases error with
  | notFound entity id => exact ⟨rfl, rfl, rfl, rfl⟩
  | _ => simp [Error.isNotFound] at missing

end Stitch.Client.Mutations
