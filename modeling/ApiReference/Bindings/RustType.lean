import ApiReference.WireType.Basic

/-!
Types of the wire format in Rust. A data type is boxed where a member of a structure holds it, so
that structures that contain each other have a finite size; vectors hold their elements behind a
pointer already. Alternatives and foreign types stay JSON values.
-/

namespace ApiReference

def Scalar.rust : Scalar → String
  | .bool => "bool"
  | .int => "i32"
  | .int64 => "i64"
  | .float => "f64"
  | .string => "String"

namespace WireType

/-- The Rust type of a result, or of the elements of a vector. -/
def rustValue : WireType → String
  | .scalar kind => kind.rust
  | .array element => "Vec<" ++ element.rustValue ++ ">"
  | .named name => name
  | .union _ | .foreign _ => "serde_json::Value"

/-- The Rust type of a member of a structure. -/
def rustMember : WireType → String
  | .named name => "Box<" ++ name ++ ">"
  | type => type.rustValue

end WireType

end ApiReference
