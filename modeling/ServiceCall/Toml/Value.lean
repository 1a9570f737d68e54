/-! TOML values; floats and dates are kept as they are written. -/

namespace ServiceCall.Toml

/-- A TOML value. The keys of a table are distinct and stand in the order of their first use. -/
inductive Value where
  | string (value : String)
  | integer (value : Int)
  | float (text : String)
  | boolean (value : Bool)
  | date (text : String)
  | array (elements : List Value)
  | table (entries : List (String × Value))
  deriving Repr

end ServiceCall.Toml
