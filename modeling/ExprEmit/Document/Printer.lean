import ExprEmit.Document.Basic
import ExprEmit.Json.Printer

/-!
# Writing documents

The compact JSON form of documents: every field is written, in the order of its declaration.
-/

namespace ExprEmit

open Json

/-- The key of a value as a string. -/
def Json.keyText {α : Type} [Keyed α] (a : α) : String := quoted (Keyed.key a)

/-- The size of an array. -/
def Json.sizeText : Option UInt64 → String
  | some n => toString n.toNat
  | none => "null"

mutual

/-- The JSON form of a type. -/
def TypeTerm.json : TypeTerm → String
  | .primitive p => objectOf [("primitive", keyText p)]
  | .named name => objectOf [("named", quoted name)]
  | .pointer t => objectOf [("pointer", t.json)]
  | .reference t => objectOf [("reference", t.json)]
  | .const t => objectOf [("const", t.json)]
  | .array t size => objectOf [("array", objectOf [("element", t.json), ("size", sizeText size)])]
  | .function r ps =>
    objectOf [("function",
      objectOf [("returns", r.json), ("params", listOf (TypeTerm.jsonEach ps))])]

/-- The JSON forms of types. -/
def TypeTerm.jsonEach : List TypeTerm → List String
  | [] => []
  | t :: ts => t.json :: TypeTerm.jsonEach ts

end

mutual

/-- The JSON form of an expression. -/
def ExprTerm.json : ExprTerm → String
  | .int n => objectOf [("int", toString n.toInt)]
  | .unsigned n => objectOf [("unsigned", toString n.toNat)]
  | .bool b => objectOf [("bool", boolText b)]
  | .char c => objectOf [("char", quoted (String.singleton c))]
  | .float x => objectOf [("float", floatText x)]
  | .nullPtr => quoted "null_ptr"
  | .string s => objectOf [("string", quoted s)]
  | .literal t value => objectOf [("literal", objectOf [("type", t.json), ("value", quoted value)])]
  | .access name => objectOf [("access", quoted name)]
  | .member base field arrow =>
    objectOf [("member", objectOf [("base", base.json), ("member", quoted field),
      ("arrow", boolText arrow)])]
  | .call f args =>
    objectOf [("call", objectOf [("function", quoted f),
      ("args", listOf (ExprTerm.jsonEach args))])]
  | .unary op x => objectOf [("unary", objectOf [("op", keyText op), ("operand", x.json)])]
  | .binary op l r =>
    objectOf [("binary", objectOf [("op", keyText op), ("left", l.json), ("right", r.json)])]
  | .conditional c p n =>
    objectOf [("conditional", objectOf [("condition", c.json), ("then", p.json),
      ("otherwise", n.json)])]
  | .cast t x => objectOf [("cast", objectOf [("type", t.json), ("operand", x.json)])]

/-- The JSON forms of expressions. -/
def ExprTerm.jsonEach : List ExprTerm → List String
  | [] => []
  | x :: xs => x.json :: ExprTerm.jsonEach xs

end

/-- The JSON form of the declaration of a type. -/
def TypeEntry.json (t : TypeEntry) : String :=
  objectOf [("name", quoted t.name), ("kind", keyText t.kind)]

/-- The JSON form of the declaration of an element. -/
def ElementEntry.json (e : ElementEntry) : String :=
  objectOf [("name", quoted e.name), ("type", e.type.json), ("kind", keyText e.kind)]

/-- The JSON form of a document. -/
def Document.json (d : Document) : String :=
  objectOf [("types", listOf (d.types.map TypeEntry.json)),
    ("elements", listOf (d.elements.map ElementEntry.json)),
    ("expressions", listOf (ExprTerm.jsonEach d.expressions))]

end ExprEmit
