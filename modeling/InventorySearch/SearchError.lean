import InventorySearch.Text.Quoted
import InventorySearch.ValueType

/-! What can be wrong with a search or with stored values, and with the configuration: each error
has a wording, and most belong to one parameter of the request. -/
namespace InventorySearch

/-- Why a search or a value is refused. -/
inductive SearchError where
  | unknownFilter (param key : String)
  | invalidValue (param value reason : String)
  | unknownOperator (param value : String)
  | operatorNotAllowed (param key : String) (operator : Operator) (valueType : ValueType)
  | unknownColumn (param column : String)
  | invalidEncoding (reason : String)
  deriving DecidableEq

namespace SearchError

def message : SearchError → String
  | unknownFilter _ key => "Unknown filter: " ++ key
  | invalidValue param value reason =>
    "Invalid value for " ++ param ++ ": " ++ Text.quoted value ++ " - " ++ reason
  | unknownOperator param value => "Unknown operator for " ++ param ++ ": " ++ Text.quoted value
  | operatorNotAllowed _ key operator valueType =>
    "Operator " ++ code operator ++ " is not allowed for " ++ key ++ " (" ++ code valueType ++ ")"
  | unknownColumn param column => "Unknown column in " ++ param ++ ": " ++ column
  | invalidEncoding reason => "Invalid encoded field name: " ++ reason

/-- The parameter that an error belongs to. -/
def param? : SearchError → Option String
  | unknownFilter param _ => some param
  | invalidValue param _ _ => some param
  | unknownOperator param _ => some param
  | operatorNotAllowed param _ _ _ => some param
  | unknownColumn param _ => some param
  | invalidEncoding _ => none

end SearchError

/-- Why a configuration is refused. -/
inductive ConfigError where
  | missingRequired (field : String)
  | invalidValue (field value reason : String)
  deriving DecidableEq

def ConfigError.message : ConfigError → String
  | missingRequired field => "Missing required configuration field: " ++ field
  | invalidValue field value reason =>
    "Invalid value for " ++ field ++ ": " ++ value ++ " - " ++ reason

end InventorySearch
