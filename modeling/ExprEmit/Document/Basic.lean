import ExprEmit.Element
import ExprEmit.Expr.Operator

/-!
# Documents

A document declares types and elements by name and lists expressions over them.  Terms are what a
document says: they name declarations, where types and expressions hold them.
-/

namespace ExprEmit

/-- A type as a document writes it. -/
inductive TypeTerm where
  | primitive (p : Primitive)
  | named (name : String)
  | pointer (target : TypeTerm)
  | reference (target : TypeTerm)
  | const (inner : TypeTerm)
  | array (element : TypeTerm) (size : Option UInt64)
  | function (returns : TypeTerm) (params : List TypeTerm)
deriving Inhabited

/-- An expression as a document writes it. -/
inductive ExprTerm where
  | int (n : Int64)
  | unsigned (n : UInt64)
  | bool (b : Bool)
  | char (c : Char)
  | float (x : Float)
  | nullPtr
  | string (s : String)
  | literal (type : TypeTerm) (value : String)
  | access (name : String)
  | member (base : ExprTerm) (field : String) (arrow : Bool)
  | call (function : String) (args : List ExprTerm)
  | unary (op : UnaryOp) (operand : ExprTerm)
  | binary (op : BinaryOp) (left right : ExprTerm)
  | conditional (condition positive negative : ExprTerm)
  | cast (type : TypeTerm) (operand : ExprTerm)
deriving Inhabited

/-- The declaration of a type in a document. -/
structure TypeEntry where
  name : String
  kind : DeclKind
deriving DecidableEq, Inhabited

/-- The declaration of an element in a document. -/
structure ElementEntry where
  name : String
  type : TypeTerm
  kind : ElementKind
deriving Inhabited

/-- A whole document. -/
structure Document where
  types : List TypeEntry
  elements : List ElementEntry
  expressions : List ExprTerm
deriving Inhabited

/-! ### Tags -/

/-- The form of a type term. -/
inductive TypeTag where
  | primitive | named | pointer | reference | const | array | function
deriving DecidableEq, Inhabited

namespace TypeTag

instance : Keyed TypeTag where
  all := [primitive, named, pointer, reference, const, array, function]
  key
    | primitive => "primitive"
    | named => "named"
    | pointer => "pointer"
    | reference => "reference"
    | const => "const"
    | array => "array"
    | function => "function"

end TypeTag

/-- The form of an expression term. -/
inductive ExprTag where
  | int | unsigned | bool | char | float | nullPtr | string | literal | access | member | call
  | unary | binary | conditional | cast
deriving DecidableEq, Inhabited

namespace ExprTag

instance : Keyed ExprTag where
  all := [int, unsigned, bool, char, float, nullPtr, string, literal, access, member, call, unary,
    binary, conditional, cast]
  key
    | int => "int"
    | unsigned => "unsigned"
    | bool => "bool"
    | char => "char"
    | float => "float"
    | nullPtr => "null_ptr"
    | string => "string"
    | literal => "literal"
    | access => "access"
    | member => "member"
    | call => "call"
    | unary => "unary"
    | binary => "binary"
    | conditional => "conditional"
    | cast => "cast"

end ExprTag

end ExprEmit
