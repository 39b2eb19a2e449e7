import DocFilter.Decimal.Numeral

/-!
# JSON values

The values that documents are written as. The members of an object keep the
order in which they are written.
-/

namespace DocFilter

inductive Json where
  | null
  | bool (value : Bool)
  | number (value : Decimal.Number)
  | string (text : String)
  | list (items : List Json)
  | object (members : List (String × Json))

namespace Json

def int (value : Int) : Json := .number (.whole value)

def real (value : Float) : Json := .number (.real value)

def strings (texts : List String) : Json := .list (texts.map .string)

end Json

end DocFilter
