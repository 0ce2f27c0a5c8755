import ExprEmit.Document.Printer
import ExprEmit.Document.Reader
import ExprEmit.Proofs.Document.Structure
import ExprEmit.Proofs.Json.Record

/-!
# Documents and their JSON form

The JSON form of a document represents it (`Document.represents`): by induction over terms, each
variant is an object with one key, and its content a scalar, a term or a record of such.
Floating-point literals are left out, since a double is written by a decimal that need not be read as
the same double.

So a document without them is what its JSON form is read as, if that nests its brackets no deeper
than a reader follows (`Document.parse_json`).
-/

namespace ExprEmit

open Json Json.Reader

/-! ### Keys -/

theorem Primitive.lawfulKeys : LawfulKeys Primitive := by
  intro p
  cases p <;> rfl

theorem DeclKind.lawfulKeys : LawfulKeys DeclKind := by
  intro k
  cases k <;> rfl

theorem ElementKind.lawfulKeys : LawfulKeys ElementKind := by
  intro k
  cases k <;> rfl

theorem UnaryOp.lawfulKeys : LawfulKeys UnaryOp := by
  intro op
  cases op <;> rfl

theorem BinaryOp.lawfulKeys : LawfulKeys BinaryOp := by
  intro op
  cases op <;> rfl

theorem TypeTag.lawfulKeys : LawfulKeys TypeTag := by
  intro t
  cases t <;> rfl

theorem ExprTag.lawfulKeys : LawfulKeys ExprTag := by
  intro t
  cases t <;> rfl

/-! ### Types -/

/-- A form that does not start like `null` is one of a value that may be missing. -/
theorem represents_optional {α : Type} {r : (depth : Nat) → Reader α} {w : String} {a : α}
    (h : Represents r w a) (hnull : w.toList.head? ≠ some 'n') :
    Represents (fun depth => optional (r depth)) w (some a) where
  balanced := h.balanced
  opens := h.opens
  reads depth hdepth rest hrest := by
    obtain ⟨c, cs, hw, hblank, -⟩ := h.opens
    have hvalue := h.reads depth hdepth rest hrest
    rw [hw] at hnull hvalue ⊢
    -- the first character tells a value from none
    have hnotNull : some c ≠ some 'n' := hnull
    refine (bind_of_ok (peek_cons hblank (cs ++ rest))).trans ?_
    rw [if_neg hnotNull]
    exact bind_of_ok hvalue

theorem represents_sizeText (size : Option UInt64) :
    Represents (fun _ => optional count) (sizeText size) size := by
  cases size with
  | none =>
    refine ⟨(IsPlain.balanced (by decide)).1, ⟨'n', _, rfl, rfl, by decide⟩, ?_⟩
    intro _ _ rest _
    show optional count ('n' :: ("ull".toList ++ rest)) = _
    refine (bind_of_ok (peek_cons rfl _)).trans ?_
    rw [if_pos rfl, advance_bind]
    exact bind_of_ok (word_append "ull" rest)
  | some n =>
    refine represents_optional (represents_natural fun _ => reads_count n) fun hnull => ?_
    have hdigits : (sizeText (some n)).toList = Nat.toDigits 10 n.toNat := toList_toString _
    rw [hdigits] at hnull
    have hdigit := startsNumber_of_mem_toDigits (List.mem_of_mem_head? hnull)
    exact absurd hdigit (by decide)

namespace TypeTerm

theorem jsonEach_eq_map (ts : List TypeTerm) : jsonEach ts = ts.map json := by
  induction ts with
  | nil => rfl
  | cons t ts ih => rw [jsonEach, ih, List.map_cons]

/-- The JSON form of a type represents it. -/
theorem represents (t : TypeTerm) : Represents reader t.json t := by
  induction t with
  | primitive p =>
    have hcontent := (represents_keyed Primitive.lawfulKeys p).map primitive
    exact represents_choice reader.eq_1 TypeTag.lawfulKeys .primitive (fun _ _ _ => rfl) hcontent
  | named name =>
    have hcontent := (represents_string name).map named
    exact represents_choice reader.eq_1 TypeTag.lawfulKeys .named (fun _ _ _ => rfl) hcontent
  | pointer t ih =>
    have hcontent := ih.map pointer
    exact represents_choice reader.eq_1 TypeTag.lawfulKeys .pointer (fun _ _ _ => rfl) hcontent
  | reference t ih =>
    have hcontent := ih.map reference
    exact represents_choice reader.eq_1 TypeTag.lawfulKeys .reference (fun _ _ _ => rfl) hcontent
  | const t ih =>
    have hcontent := ih.map const
    exact represents_choice reader.eq_1 TypeTag.lawfulKeys .const (fun _ _ _ => rfl) hcontent
  | array t size ih =>
    have hsize := FieldsRepresent.one (represents_sizeText size) "size" (some none)
    have hfields := (FieldsRepresent.one ih "element" none).and hsize (by simp)
    have hcontent := (hfields.map fun p => array p.1 p.2).record
      "struct variant TypeSpec::Array"
    exact represents_choice reader.eq_1 TypeTag.lawfulKeys .array (fun _ _ _ => rfl) hcontent
  | function r ps ihr ihps =>
    have hparams := FieldsRepresent.one (represents_list ihps) "params" (some [])
    have hfields := (FieldsRepresent.one ihr "returns" none).and hparams (by simp)
    have hcontent := (hfields.map fun p => function p.1 p.2).record
      "struct variant TypeSpec::Function"
    rw [json, jsonEach_eq_map]
    exact represents_choice reader.eq_1 TypeTag.lawfulKeys .function (fun _ _ _ => rfl) hcontent

end TypeTerm

/-! ### Expressions -/

namespace ExprTerm

mutual

/-- Whether there is a floating-point literal in an expression. -/
def hasFloats : ExprTerm → Bool
  | int _ | unsigned _ | bool _ | char _ | nullPtr | string _ | literal _ _ | access _ => false
  | float _ => true
  | member base _ _ => base.hasFloats
  | call _ args => anyHasFloats args
  | unary _ x | cast _ x => x.hasFloats
  | binary _ l r => l.hasFloats || r.hasFloats
  | conditional c p n => c.hasFloats || p.hasFloats || n.hasFloats

/-- Whether there is a floating-point literal in one of several expressions. -/
def anyHasFloats : List ExprTerm → Bool
  | [] => false
  | x :: xs => x.hasFloats || anyHasFloats xs

end

theorem anyHasFloats_eq_any (xs : List ExprTerm) : anyHasFloats xs = xs.any hasFloats := by
  induction xs with
  | nil => rfl
  | cons x xs ih => rw [anyHasFloats, ih, List.any_cons]

theorem jsonEach_eq_map (xs : List ExprTerm) : jsonEach xs = xs.map json := by
  induction xs with
  | nil => rfl
  | cons x xs ih => rw [jsonEach, ih, List.map_cons]

/-- The JSON form of an expression without floating-point literals represents it. -/
theorem represents (x : ExprTerm) (hfloats : x.hasFloats = false) :
    Represents reader x.json x := by
  induction x with
  | int n =>
    have hcontent := (represents_int64 n).map int
    exact represents_choice reader.eq_1 ExprTag.lawfulKeys .int (fun _ _ _ => rfl) hcontent
  | unsigned n =>
    have hcontent := (represents_natural fun _ => reads_uint64 n).map unsigned
    exact represents_choice reader.eq_1 ExprTag.lawfulKeys .unsigned (fun _ _ _ => rfl) hcontent
  | bool b =>
    have hcontent := (represents_bool b).map bool
    exact represents_choice reader.eq_1 ExprTag.lawfulKeys .bool (fun _ _ _ => rfl) hcontent
  | char c =>
    have hcontent := (represents_char c).map char
    exact represents_choice reader.eq_1 ExprTag.lawfulKeys .char (fun _ _ _ => rfl) hcontent
  | float x => cases hfloats
  | nullPtr =>
    refine represents_quoted fun depth rest _ => ?_
    rw [reader.eq_1, choice, value_quoted, if_pos rfl]
    exact bind_of_ok (variantKey_quoted ExprTag.lawfulKeys .nullPtr rest)
  | string s =>
    have hcontent := (represents_string s).map string
    exact represents_choice reader.eq_1 ExprTag.lawfulKeys .string (fun _ _ _ => rfl) hcontent
  | literal t value =>
    have hvalue := FieldsRepresent.one (represents_string value) "value" none
    have hfields := (FieldsRepresent.one t.represents "type" none).and hvalue (by simp)
    have hcontent := (hfields.map fun p => literal p.1 p.2).record
      "struct variant ExprSpec::Literal"
    exact represents_choice reader.eq_1 ExprTag.lawfulKeys .literal (fun _ _ _ => rfl) hcontent
  | access name =>
    have hcontent := (represents_string name).map access
    exact represents_choice reader.eq_1 ExprTag.lawfulKeys .access (fun _ _ _ => rfl) hcontent
  | member base field arrow ih =>
    have harrow := FieldsRepresent.one (represents_bool arrow) "arrow" (some false)
    have hrest := (FieldsRepresent.one (represents_string field) "member" none).and harrow (by simp)
    have hfields := (FieldsRepresent.one (ih hfloats) "base" none).and hrest (by simp)
    have hcontent := (hfields.map fun p => member p.1 p.2.1 p.2.2).record
      "struct variant ExprSpec::Member"
    exact represents_choice reader.eq_1 ExprTag.lawfulKeys .member (fun _ _ _ => rfl) hcontent
  | call f args ih =>
    -- the induction hypothesis is about the arguments one by one
    rw [hasFloats, anyHasFloats_eq_any, List.any_eq_false] at hfloats
    have hargs : ∀ x ∈ args, Represents reader x.json x :=
      fun x hx => ih x hx (by simpa using hfloats x hx)
    have hlist := FieldsRepresent.one (represents_list hargs) "args" (some [])
    have hfields := (FieldsRepresent.one (represents_string f) "function" none).and hlist (by simp)
    have hcontent := (hfields.map fun p => call p.1 p.2).record
      "struct variant ExprSpec::Call"
    rw [json, jsonEach_eq_map]
    exact represents_choice reader.eq_1 ExprTag.lawfulKeys .call (fun _ _ _ => rfl) hcontent
  | unary op x ih =>
    have hoperand := FieldsRepresent.one (ih hfloats) "operand" none
    have hfields := (FieldsRepresent.one (represents_keyed UnaryOp.lawfulKeys op) "op" none).and
      hoperand (by simp)
    have hcontent := (hfields.map fun p => unary p.1 p.2).record
      "struct variant ExprSpec::Unary"
    exact represents_choice reader.eq_1 ExprTag.lawfulKeys .unary (fun _ _ _ => rfl) hcontent
  | binary op l r ihl ihr =>
    obtain ⟨hl, hr⟩ := Bool.or_eq_false_iff.mp hfloats
    have hright := FieldsRepresent.one (ihr hr) "right" none
    have hrest := (FieldsRepresent.one (ihl hl) "left" none).and hright (by simp)
    have hfields := (FieldsRepresent.one (represents_keyed BinaryOp.lawfulKeys op) "op" none).and
      hrest (by simp)
    have hcontent := (hfields.map fun p => binary p.1 p.2.1 p.2.2).record
      "struct variant ExprSpec::Binary"
    exact represents_choice reader.eq_1 ExprTag.lawfulKeys .binary (fun _ _ _ => rfl) hcontent
  | conditional c p n ihc ihp ihn =>
    obtain ⟨hcp, hn⟩ := Bool.or_eq_false_iff.mp hfloats
    obtain ⟨hc, hp⟩ := Bool.or_eq_false_iff.mp hcp
    have hotherwise := FieldsRepresent.one (ihn hn) "otherwise" none
    have hrest := (FieldsRepresent.one (ihp hp) "then" none).and hotherwise (by simp)
    have hfields := (FieldsRepresent.one (ihc hc) "condition" none).and hrest (by simp)
    have hcontent := (hfields.map fun p => conditional p.1 p.2.1 p.2.2).record
      "struct variant ExprSpec::Conditional"
    exact represents_choice reader.eq_1 ExprTag.lawfulKeys .conditional (fun _ _ _ => rfl) hcontent
  | cast t x ih =>
    have hoperand := FieldsRepresent.one (ih hfloats) "operand" none
    have hfields := (FieldsRepresent.one t.represents "type" none).and hoperand (by simp)
    have hcontent := (hfields.map fun p => cast p.1 p.2).record
      "struct variant ExprSpec::Cast"
    exact represents_choice reader.eq_1 ExprTag.lawfulKeys .cast (fun _ _ _ => rfl) hcontent

end ExprTerm

/-! ### Whole texts -/

theorem parseWith_of_represents {α : Type} {r : (depth : Nat) → Reader α} {w : String} {a : α}
    (h : Represents r w a) (hnesting : nesting w.toList ≤ maxDepth) : parseWith r w = .ok a := by
  have hread := h.reads maxDepth hnesting [] stops_nil
  rw [List.append_nil] at hread
  have hrun : (r maxDepth).run w = .ok a := by
    rw [run, bind_of_ok hread]
    rfl
  rw [parseWith, hrun]

/-! ### Documents -/

theorem TypeEntry.represents (t : TypeEntry) : Represents reader t.json t := by
  have hkind := FieldsRepresent.one (represents_keyed DeclKind.lawfulKeys t.kind) "kind" none
  have hfields := (FieldsRepresent.one (represents_string t.name) "name" none).and hkind (by simp)
  have hrecord := (hfields.map fun p => TypeEntry.mk p.1 p.2).record
    "struct TypeDeclSpec"
  rw [json]
  exact .of_eq reader.eq_1 hrecord

theorem ElementEntry.represents (e : ElementEntry) : Represents reader e.json e := by
  have hkind := FieldsRepresent.one (represents_keyed ElementKind.lawfulKeys e.kind) "kind"
    (some .variable)
  have hrest := (FieldsRepresent.one e.type.represents "type" none).and hkind (by simp)
  have hfields := (FieldsRepresent.one (represents_string e.name) "name" none).and hrest (by simp)
  have hrecord := (hfields.map fun p => ElementEntry.mk p.1 p.2.1 p.2.2).record "struct ElementSpec"
  rw [json]
  exact .of_eq reader.eq_1 hrecord

namespace Document

/-- The JSON form of a document without floating-point literals represents it. -/
theorem represents (d : Document) (hfloats : ∀ x ∈ d.expressions, x.hasFloats = false) :
    Represents reader d.json d := by
  have htypes := represents_list fun t (_ : t ∈ d.types) => t.represents
  have helements := represents_list fun e (_ : e ∈ d.elements) => e.represents
  have hexpressions := represents_list fun x (hx : x ∈ d.expressions) => x.represents (hfloats x hx)
  have hrest := (FieldsRepresent.one helements "elements" (some [])).and
    (.one hexpressions "expressions" (some [])) (by simp)
  have hfields := (FieldsRepresent.one htypes "types" (some [])).and hrest (by simp)
  have hrecord := (hfields.map fun p => Document.mk p.1 p.2.1 p.2.2).record "struct ModelFile"
  rw [json, ExprTerm.jsonEach_eq_map]
  exact .of_eq reader.eq_1 hrecord

/-- A document without floating-point literals is what its JSON form is read as, unless brackets are
nested too deep in it. -/
theorem parse_json (d : Document) (hfloats : ∀ x ∈ d.expressions, x.hasFloats = false)
    (hnesting : nesting d.json.toList ≤ maxDepth) : parse d.json = .ok d :=
  parseWith_of_represents (d.represents hfloats) hnesting

/-- Names of quotation marks, control characters and others, a size and integers at their limits, no
size at all, and terms one in another. -/
def limits : Document where
  types := [⟨"ui::\"Widget\"\n\x00", .class_⟩]
  elements := [
    ⟨"テーブル", .array (.const (.function (.primitive .void)
      [.pointer (.named "\\"), .reference (.primitive .sizeT)])) (some 18446744073709551615),
      .function⟩,
    ⟨"", .array (.primitive .bool) none, .variable⟩]
  expressions := [.conditional (.unary .not (.member (.access "w") "\t" true))
    (.call "f" [.int (-9223372036854775808), .unsigned 18446744073709551615, .nullPtr])
    (.binary .add (.char '"') (.cast (.primitive .char) (.literal (.named "T") "🦀")))]

theorem parse_json_limits : parse limits.json = .ok limits := by
  have hnesting : nesting limits.json.toList ≤ maxDepth := by
    -- the characters are counted without the strings that they are put together of
    simp only [limits, json, TypeEntry.json, ElementEntry.json, ExprTerm.json, ExprTerm.jsonEach,
      TypeTerm.json, TypeTerm.jsonEach, keyText, Keyed.key, List.map_cons, List.map_nil,
      toList_objectOf, toList_listOf, toList_quoted, memberChars, String.reduceToList]
    decide +kernel
  exact parse_json limits (by decide) hnesting

end Document

end ExprEmit
