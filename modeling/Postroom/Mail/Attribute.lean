/-!
Values that mailets attach to a mail. Neither the queue nor the routing looks into them.
-/

namespace Postroom

inductive Attribute where
  | text (value : String)
  | integer (value : Int64)
  | boolean (value : Bool)
  | bytes (value : List UInt8)
  | list (values : List String)
  deriving DecidableEq

/-- The value for display; of bytes only their count is shown. -/
def Attribute.display : Attribute → String
  | .text value => value
  | .integer value => toString value.toInt
  | .boolean value => toString value
  | .bytes value => "<" ++ toString value.length ++ " bytes>"
  | .list values => "[" ++ ", ".intercalate values ++ "]"

end Postroom
