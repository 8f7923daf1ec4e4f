/-! The version of the library. -/

namespace JsonColumn

def version : String := "0.1.0"

end JsonColumn
