import ExprEmit.Document.Basic
import ExprEmit.Error
import ExprEmit.Json.Choice

/-!
# Reading documents

The JSON form of documents: terms are choices by their tags, entries and the document itself are
records.  `Document.parse` reads a whole document, or says what is wrong and where.
-/

namespace ExprEmit

open Json Json.Reader

/-- What the name of a type form by itself lacks. -/
def TypeTag.bare : TypeTag → Except String TypeTerm
  | array | function => .error "struct variant"
  | _ => .error "newtype variant"

/-- What the name of an expression form by itself means, or what it lacks. -/
def ExprTag.bare : ExprTag → Except String ExprTerm
  | nullPtr => .ok .nullPtr
  | literal | member | call | unary | binary | conditional | cast => .error "struct variant"
  | _ => .error "newtype variant"

/-! ### Terms -/

/-- Reads a type. -/
def TypeTerm.reader (depth : Nat) : Reader TypeTerm :=
  choice TypeTag depth TypeTag.bare fun inner _ tag =>
    match tag with
    | .primitive => .primitive <$> keyed Primitive inner
    | .named => .named <$> Reader.string
    | .pointer => .pointer <$> TypeTerm.reader inner
    | .reference => .reference <$> TypeTerm.reader inner
    | .const => .const <$> TypeTerm.reader inner
    | .array => record "struct variant TypeSpec::Array" inner fun d _ =>
        (Fields.required "element" (TypeTerm.reader d)).and
          (.defaulted "size" none (optional count))
        |>.map fun (element, size) => .array element size
    | .function => record "struct variant TypeSpec::Function" inner fun d _ =>
        (Fields.required "returns" (TypeTerm.reader d)).and
          (.defaulted "params" [] (list d fun e _ => TypeTerm.reader e))
        |>.map fun (returns, params) => .function returns params
termination_by depth

/-- Reads an expression. -/
def ExprTerm.reader (depth : Nat) : Reader ExprTerm :=
  choice ExprTag depth ExprTag.bare fun inner _ tag =>
    match tag with
    | .int => .int <$> int64
    | .unsigned => .unsigned <$> uint64
    | .bool => .bool <$> Reader.bool
    | .char => .char <$> Reader.char
    | .float => .float <$> Reader.float
    | .nullPtr => do
      null
      return .nullPtr
    | .string => .string <$> Reader.string
    | .literal => record "struct variant ExprSpec::Literal" inner fun d _ =>
        (Fields.required "type" (TypeTerm.reader d)).and (.required "value" Reader.string)
        |>.map fun (type, value) => .literal type value
    | .access => .access <$> Reader.string
    | .member => record "struct variant ExprSpec::Member" inner fun d _ =>
        (Fields.required "base" (ExprTerm.reader d)).and
          ((Fields.required "member" Reader.string).and (.defaulted "arrow" false Reader.bool))
        |>.map fun (base, field, arrow) => .member base field arrow
    | .call => record "struct variant ExprSpec::Call" inner fun d _ =>
        (Fields.required "function" Reader.string).and
          (.defaulted "args" [] (list d fun e _ => ExprTerm.reader e))
        |>.map fun (function, args) => .call function args
    | .unary => record "struct variant ExprSpec::Unary" inner fun d _ =>
        (Fields.required "op" (keyed UnaryOp d)).and (.required "operand" (ExprTerm.reader d))
        |>.map fun (op, operand) => .unary op operand
    | .binary => record "struct variant ExprSpec::Binary" inner fun d _ =>
        (Fields.required "op" (keyed BinaryOp d)).and
          ((Fields.required "left" (ExprTerm.reader d)).and
            (.required "right" (ExprTerm.reader d)))
        |>.map fun (op, left, right) => .binary op left right
    | .conditional => record "struct variant ExprSpec::Conditional" inner fun d _ =>
        (Fields.required "condition" (ExprTerm.reader d)).and
          ((Fields.required "then" (ExprTerm.reader d)).and
            (.required "otherwise" (ExprTerm.reader d)))
        |>.map fun (condition, positive, negative) => .conditional condition positive negative
    | .cast => record "struct variant ExprSpec::Cast" inner fun d _ =>
        (Fields.required "type" (TypeTerm.reader d)).and (.required "operand" (ExprTerm.reader d))
        |>.map fun (type, operand) => .cast type operand
termination_by depth

/-! ### Entries and documents -/

/-- Reads the declaration of a type. -/
def TypeEntry.reader (depth : Nat) : Reader TypeEntry :=
  record "struct TypeDeclSpec" depth fun d _ =>
    (Fields.required "name" Reader.string).and (.required "kind" (keyed DeclKind d))
    |>.map fun (name, kind) => ⟨name, kind⟩

/-- Reads the declaration of an element; it is a variable unless it says otherwise. -/
def ElementEntry.reader (depth : Nat) : Reader ElementEntry :=
  record "struct ElementSpec" depth fun d _ =>
    (Fields.required "name" Reader.string).and
      ((Fields.required "type" (TypeTerm.reader d)).and
        (.defaulted "kind" .variable (keyed ElementKind d)))
    |>.map fun (name, type, kind) => ⟨name, type, kind⟩

/-- Reads a document; each of its lists may be missing. -/
def Document.reader (depth : Nat) : Reader Document :=
  record "struct ModelFile" depth fun d _ =>
    (Fields.defaulted "types" [] (list d fun e _ => TypeEntry.reader e)).and
      ((Fields.defaulted "elements" [] (list d fun e _ => ElementEntry.reader e)).and
        (.defaulted "expressions" [] (list d fun e _ => ExprTerm.reader e)))
    |>.map fun (types, elements, expressions) => ⟨types, elements, expressions⟩

/-! ### Whole texts -/

/-- A fault in the text `source`, with the byte it points at. -/
def Json.Fault.malformed (f : Fault) (source : String) : Malformed :=
  match f.place? source with
  | some p => ⟨f.message source, p.line, p.column, Place.span source.toUTF8.toList p.line p.column⟩
  | none => ⟨f.message source, 0, 0, Place.span source.toUTF8.toList 0 0⟩

/-- Reads a whole text. -/
def parseWith {α : Type} (r : (depth : Nat) → Reader α) (source : String) : Except Malformed α :=
  match (r maxDepth).run source with
  | .ok a => .ok a
  | .error f => .error (f.malformed source)

/-- The type that a text writes. -/
def TypeTerm.parse (source : String) : Except Malformed TypeTerm := parseWith reader source

/-- The document that a text writes. -/
def Document.parse (source : String) : Except Malformed Document := parseWith reader source

end ExprEmit
