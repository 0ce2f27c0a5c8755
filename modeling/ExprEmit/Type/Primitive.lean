import ExprEmit.Keyed

/-!
# Built-in types

The primitive types of C++ that an expression may have, with their keywords.
-/

namespace ExprEmit

/-- A built-in type. -/
inductive Primitive where
  | void | bool | char | short | int | long | longLong
  | unsignedChar | unsignedShort | unsignedInt | unsignedLong | unsignedLongLong
  | float | double | sizeT
deriving DecidableEq, Inhabited

namespace Primitive

/-- How C++ spells the type. -/
def keyword : Primitive → String
  | void => "void"
  | bool => "bool"
  | char => "char"
  | short => "short"
  | int => "int"
  | long => "long"
  | longLong => "long long"
  | unsignedChar => "unsigned char"
  | unsignedShort => "unsigned short"
  | unsignedInt => "unsigned int"
  | unsignedLong => "unsigned long"
  | unsignedLongLong => "unsigned long long"
  | float => "float"
  | double => "double"
  | sizeT => "size_t"

instance : Keyed Primitive where
  all := [void, bool, char, short, int, long, longLong, unsignedChar, unsignedShort, unsignedInt,
    unsignedLong, unsignedLongLong, float, double, sizeT]
  key
    | void => "void"
    | bool => "bool"
    | char => "char"
    | short => "short"
    | int => "int"
    | long => "long"
    | longLong => "long_long"
    | unsignedChar => "unsigned_char"
    | unsignedShort => "unsigned_short"
    | unsignedInt => "unsigned_int"
    | unsignedLong => "unsigned_long"
    | unsignedLongLong => "unsigned_long_long"
    | float => "float"
    | double => "double"
    | sizeT => "size_t"

end Primitive

end ExprEmit
