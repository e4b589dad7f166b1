import SqlRequest.Ident
import SqlRequest.Json.Basic

/-!
What can go wrong, by cause, and the message for each. A cause that the library
finds itself has a constructor of its own; what a database or another part outside
reports comes as a text.
-/

namespace SqlRequest

/-- A request or a row that the library refuses. -/
inductive Refusal where
  /-- A word between two conditions, trimmed and in capitals. -/
  | unknownOperator (word : String)
  | unevenRow (columns values : Nat)
  /-- The condition at a position, counted from one, has no logical operator. -/
  | missingOperator (position : Nat) (table : Ident)
  | notAColumn (field : String) (table : Ident)
  | nothingToSet (table : Ident)
  | noValues (table : Ident)
  | noConditions (table : Ident)
  | reported (message : String)
  deriving DecidableEq, Repr

/-- Why there is no connection. -/
inductive SetupFault where
  | malformedFile (name : String)
  | missingConnection (docs : String)
  | missingKey (key docs : String)
  | malformedDsn (dsn : String)
  | missingTarget
  | unsupportedDriver (driver : String)
  | cannotOpen (path : String)
  | reported (message : String)
  deriving DecidableEq, Repr

/-- Why a JSON text is no request. -/
inductive DecodeFault where
  | flaw (f : Flaw)
  | wrongType (found : Found) (expected : String)
  | missingField (name : String)
  | repeatedField (name : String)
  /-- An array without an element for the required field at an index. -/
  | tooShort (index : Nat) (struct : String) (fields : Nat)
  | unknownVariant (name : String) (known : List String)
  /-- No way to read a value of the type succeeds. -/
  | noVariant (type : String)
  | refused (r : Refusal)
  | reported (message : String)
  deriving DecidableEq, Repr

/-- All that can go wrong. -/
inductive Error where
  | config (fault : SetupFault)
  | prepare (sql message : String)
  | execution (message : String)
  | validation (refusal : Refusal)
  | transaction (message : String)
  | decode (fault : DecodeFault)
  deriving DecidableEq, Repr

def Refusal.message : Refusal → String
  | .unknownOperator word => "Unknown logical operator '" ++ word ++ "', expected AND or OR"
  | .unevenRow columns values =>
    "row has " ++ toString columns ++ " columns but " ++ toString values ++ " values"
  | .missingOperator position table =>
    "Condition #" ++ toString position ++ " on table '" ++ table.text ++
      "' has no logical operator; every condition after the first needs AND or OR"
  | .notAColumn field table =>
    "field '" ++ field ++ "' is not a column of the result from '" ++ table.text ++ "'"
  | .nothingToSet table => "update of '" ++ table.text ++ "' has nothing to set"
  | .noValues table => "insert into '" ++ table.text ++ "' has no values"
  | .noConditions table => "delete from '" ++ table.text ++ "' without conditions"
  | .reported message => message

def SetupFault.message : SetupFault → String
  | .malformedFile name => "malformed configuration '" ++ name ++ "'"
  | .missingConnection docs =>
    "'connection' config is missing, please check the docs: " ++ docs ++ "#connection"
  | .missingKey key docs =>
    "no '" ++ key ++ "' value set in connection config, please check the docs: " ++ docs ++
      "#connection"
  | .malformedDsn dsn => "malformed dsn '" ++ dsn ++ "', expected 'driver:target'"
  | .missingTarget => "sqlite dsn needs a file path or ':memory:'"
  | .unsupportedDriver driver =>
    "unsupported driver '" ++ driver ++ "' in dsn, only 'sqlite' is available"
  | .cannotOpen path => "could not open '" ++ path ++ "'"
  | .reported message => message

/-- The names that were possible, each between backticks. -/
def DecodeFault.choices (known : List String) : String :=
  let quoted := known.map fun name => "`" ++ name ++ "`"
  match quoted with
  | [one] => one
  | [one, other] => one ++ " or " ++ other
  | names => "one of " ++ ", ".intercalate names

def DecodeFault.message : DecodeFault → String
  | .flaw .ended => "the text ended within a value"
  | .flaw .malformed => "malformed text"
  | .wrongType found expected => "invalid type: " ++ found.describe ++ ", expected " ++ expected
  | .missingField name => "missing field `" ++ name ++ "`"
  | .repeatedField name => "duplicate field `" ++ name ++ "`"
  | .tooShort index struct fields =>
    "invalid length " ++ toString index ++ ", expected struct " ++ struct ++ " with " ++
      toString fields ++ (if fields = 1 then " element" else " elements")
  | .unknownVariant name known =>
    "unknown variant `" ++ name ++ "`, expected " ++ choices known
  | .noVariant type => "data did not match any variant of untagged enum " ++ type
  | .refused r => "Validation error: " ++ r.message
  | .reported message => message

/-- The message of an error, with a word on its kind in front. -/
def Error.message : Error → String
  | .config fault => "Config error: " ++ fault.message
  | .prepare sql message =>
    "Statement could not be prepared: " ++ message ++ " (sql: " ++ sql ++ ")"
  | .execution message => "Execution error: " ++ message
  | .validation refusal => "Validation error: " ++ refusal.message
  | .transaction message => "Transaction error: " ++ message
  | .decode fault => "Decode error: " ++ fault.message

end SqlRequest
