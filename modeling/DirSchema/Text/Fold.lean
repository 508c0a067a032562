set_option autoImplicit false

namespace DirSchema.Text

/-- The name with its ASCII letters lowered. -/
def fold (name : String) : String := String.ofList (name.toList.map Char.toLower)

def sameName (a b : String) : Bool := fold a == fold b

end DirSchema.Text
